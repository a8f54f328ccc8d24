/-
# `Declared` — schemas as files declare them

A file may declare more than a batch can hold: columns of types that no
batch here has, and notes on a column or on the whole.  All of it counts when
two declarations are compared; a schema is what remains of a declaration
whose types are all known.
-/
import Columnar.DataType
import Columnar.Text.Quoted

namespace Columnar

/-! ## Notes -/

/-- Notes by key, each key once, in the order of the keys. -/
abbrev Notes := List (String × String)

namespace Notes

/-- The notes with one more; it takes the place of an earlier one with its key. -/
def insert (key value : String) : Notes → Notes
  | [] => [(key, value)]
  | (k, v) :: rest =>
    if key < k then (key, value) :: (k, v) :: rest
    else if key = k then (key, value) :: rest
    else (k, v) :: insert key value rest

/-- Notes taken in one by one. -/
def ofPairs (pairs : List (String × String)) : Notes :=
  pairs.foldl (fun notes p => insert p.1 p.2 notes) []

def text (notes : Notes) : String :=
  ", ".intercalate (notes.map fun (k, v) => Text.quoted k ++ ": " ++ Text.quoted v)

end Notes

/-! ## Declarations -/

/-- What a column is declared to hold: one of the types that batches have, or another one, told
by its name. -/
inductive DeclaredType where
  | known (type : DataType)
  | other (name : String)
deriving DecidableEq

namespace DeclaredType

def name : DeclaredType → String
  | known t => t.name
  | other n => n

/-- The type, if batches have it. -/
def known? : DeclaredType → Option DataType
  | known t => some t
  | other _ => none

end DeclaredType

/-- What a file says about one column. -/
structure DeclaredField where
  name : String
  type : DeclaredType
  nullable : Bool
  notes : Notes
deriving DecidableEq

namespace DeclaredField

/-- The column as the names of types that are made of columns spell it. -/
def text (f : DeclaredField) : String :=
  "Field \x7b name: " ++ Text.quoted f.name ++ ", data_type: " ++ f.type.name ++ ", nullable: " ++
    toString f.nullable ++ ", dict_id: 0, dict_is_ordered: false, metadata: \x7b" ++ f.notes.text ++
    "\x7d \x7d"

/-- The column without its notes, if batches have its type. -/
def field? (f : DeclaredField) : Option Field :=
  f.type.known?.map fun t => ⟨f.name, t, f.nullable⟩

end DeclaredField

/-- What a file says about its columns. -/
structure DeclaredSchema where
  columns : List DeclaredField
  notes : Notes
deriving DecidableEq

/-- The schema that is declared, if batches have all of its types. -/
def DeclaredSchema.schema? (s : DeclaredSchema) : Option Schema :=
  s.columns.mapM DeclaredField.field?

/-- A field as files declare it. -/
def Field.declared (f : Field) : DeclaredField := ⟨f.name, .known f.type, f.nullable, []⟩

/-- A schema as files declare it. -/
def Schema.declared (s : Schema) : DeclaredSchema := ⟨s.map Field.declared, []⟩

/-! ## Lemmas -/

theorem Field.field_declared (f : Field) : f.declared.field? = some f := rfl

theorem Schema.schema_declared (s : Schema) : s.declared.schema? = some s := by
  induction s with
  | nil => rfl
  | cons f rest ih =>
    simp only [DeclaredSchema.schema?, Schema.declared, List.map_cons, List.mapM_cons] at ih ⊢
    simp [ih, Field.field_declared]

end Columnar
