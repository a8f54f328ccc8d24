/-
# `Proofs.Filter.Kleene` — masks and three-valued logic

In three-valued logic a test of NULL is unknown, and a row is selected where
the whole filter is true.  Masks take what is unknown for false at every leaf
already.  The two readings agree as long as nothing unknown is negated.
Taking the unknown for false commutes with the connectives, though not with
negation (`collapse_kleene`), which settles filters without negations; and
where no leaf is unknown both logics are the two-valued one (`kleene_ofBool`,
`not_ofBool`).
-/
import Columnar.Proofs.Filter.Selection

namespace Columnar.Filter

/-! ## Truth values -/

/-- The truth values of Kleene's logic. -/
inductive Truth where
  | no
  | unknown
  | yes
deriving DecidableEq

namespace Truth

def ofBool : Bool → Truth
  | true => yes
  | false => no

/-- A test of a datum; a test of NULL is unknown. -/
def ofTest (test : Datum → Bool) : Option Datum → Truth
  | none => unknown
  | some d => ofBool (test d)

def not : Truth → Truth
  | no => yes
  | unknown => unknown
  | yes => no

def and : Truth → Truth → Truth
  | no, _ => no
  | _, no => no
  | yes, yes => yes
  | _, _ => unknown

def or : Truth → Truth → Truth
  | yes, _ => yes
  | _, yes => yes
  | no, no => no
  | _, _ => unknown

/-- What is left when the unknown is taken for false. -/
def collapse : Truth → Bool
  | yes => true
  | _ => false

end Truth

/-- The connective on truth values. -/
def Connective.kleene : Connective → Truth → Truth → Truth
  | .and => Truth.and
  | .or => Truth.or

/-- The truth value of a leaf in a row. -/
def Leaf.truth (b : Batch) (i : Nat) : Leaf → Truth
  | .compare op column v => .ofTest (fun d => d.satisfies op v) (datum? b column i)
  | .like negated column pattern => .ofTest (fun d => d.fits pattern != negated) (datum? b column i)
  | .member column vs => .ofTest (fun d => vs.any fun v => d.satisfies .eq v) (datum? b column i)
  | .null negated column => .ofBool (isNull b column i != negated)

/-- The truth value of a filter in a row. -/
def Expr.truth (b : Batch) (i : Nat) : Expr → Truth
  | .leaf l => l.truth b i
  | .not e => (e.truth b i).not
  | .join c l r => c.kleene (l.truth b i) (r.truth b i)

/-- The filter has no negation; leaves may be negated tests. -/
def Expr.NotFree : Expr → Prop
  | .leaf _ => True
  | .not _ => False
  | .join _ l r => l.NotFree ∧ r.NotFree

/-! ## Collapsing -/

namespace Truth

theorem collapse_ofBool (v : Bool) : (ofBool v).collapse = v := by
  cases v with
  | false => rfl
  | true => rfl

theorem collapse_ofTest (test : Datum → Bool) (d : Option Datum) :
    (ofTest test d).collapse = d.any test := by
  cases d with
  | none => rfl
  | some d => exact collapse_ofBool (test d)

theorem collapse_iff {t : Truth} : t.collapse = true ↔ t = yes := by
  constructor
  · intro h
    cases t with
    | no => cases h
    | unknown => cases h
    | yes => rfl
  · rintro rfl
    rfl

/-- The unknown may be taken for false before or after a connective is applied. -/
theorem collapse_kleene (c : Connective) (s t : Truth) :
    (c.kleene s t).collapse = c.apply s.collapse t.collapse := by
  cases c with
  | and => cases s <;> cases t <;> rfl
  | or => cases s <;> cases t <;> rfl

theorem ofBool_collapse {t : Truth} (h : t ≠ unknown) : ofBool t.collapse = t := by
  cases t with
  | no => rfl
  | unknown => exact absurd rfl h
  | yes => rfl

/-- What is known is combined as in two-valued logic. -/
theorem kleene_ofBool (c : Connective) (x y : Bool) :
    c.kleene (ofBool x) (ofBool y) = ofBool (c.apply x y) := by
  cases c with
  | and => cases x <;> cases y <;> rfl
  | or => cases x <;> cases y <;> rfl

theorem not_ofBool (x : Bool) : (ofBool x).not = ofBool (!x) := by
  cases x with
  | false => rfl
  | true => rfl

end Truth

/-- A leaf selects the rows where it is true. -/
theorem collapse_leaf (b : Batch) (i : Nat) (l : Leaf) :
    (l.truth b i).collapse = l.selects b i := by
  cases l with
  | compare op column v => exact Truth.collapse_ofTest _ _
  | like negated column pattern => exact Truth.collapse_ofTest _ _
  | member column vs => exact Truth.collapse_ofTest _ _
  | null negated column => exact Truth.collapse_ofBool _

section
variable {b : Batch} {i : Nat}

/-- Without negations, the unknown may be taken for false at the leaves. -/
theorem collapse_of_notFree {e : Expr} (h : e.NotFree) :
    (e.truth b i).collapse = e.holds fun l => l.selects b i := by
  induction e with
  | leaf l => exact collapse_leaf b i l
  | not e ih => exact h.elim
  | join c l r ihl ihr =>
      rw [Expr.truth, Truth.collapse_kleene, ihl h.1, ihr h.2]
      rfl

/-- Where no leaf is unknown, the filter has the truth value it has in two-valued logic. -/
theorem truth_of_known {e : Expr} (h : ∀ l ∈ e.leaves, l.truth b i ≠ .unknown) :
    e.truth b i = .ofBool (e.holds fun l => l.selects b i) := by
  induction e with
  | leaf l =>
      rw [Expr.holds, ← collapse_leaf]
      exact (Truth.ofBool_collapse (h l List.mem_cons_self)).symm
  | not e ih =>
      rw [Expr.truth, ih h, Truth.not_ofBool]
      rfl
  | join c l r ihl ihr =>
      have hl := ihl fun x hx => h x (List.mem_append_left _ hx)
      have hr := ihr fun x hx => h x (List.mem_append_right _ hx)
      rw [Expr.truth, hl, hr, Truth.kleene_ofBool]
      rfl

end

/-! ## Masks -/

/-- A filter that runs selects a row if and only if it is true there.  This holds of every row if
the filter has no negation, and for any filter of the rows where none of its leaves is unknown. -/
theorem selects_iff_true {b : Batch} {e : Expr} {m : List Bool} (h : e.evaluate b = .ok m) :
    m.length = b.rows ∧
    (e.NotFree → ∀ i < b.rows, m[i]? = some true ↔ e.truth b i = .yes) ∧
    ∀ i < b.rows, (∀ l ∈ e.leaves, l.truth b i ≠ .unknown) →
      (m[i]? = some true ↔ e.truth b i = .yes) := by
  obtain ⟨-, rfl⟩ := Expr.evaluate_ok_iff.mp h
  have hrow : ∀ i < b.rows, (e.truth b i).collapse = (e.holds fun l => l.selects b i) →
      (((List.range b.rows).map fun i => e.holds fun l => l.selects b i)[i]? = some true ↔
        e.truth b i = .yes) := by
    intro i hi hcollapse
    rw [List.getElem?_map, List.getElem?_range hi, Option.map_some, Option.some_inj, ← hcollapse]
    exact Truth.collapse_iff
  refine ⟨by rw [List.length_map, List.length_range], fun hfree i hi => ?_, fun i hi hknown => ?_⟩
  · exact hrow i hi (collapse_of_notFree hfree)
  · exact hrow i hi (by rw [truth_of_known hknown, Truth.collapse_ofBool])

/-- Three ages, one of them NULL. -/
def threeAges : Batch where
  rows := 3
  columns := [.ofCells "age" true (.int true .w8) #[some 30#8, none, some 7#8]]
  aligned := by decide
  sound := by decide

/-- The test whether an age is below ten. -/
def belowTen : Expr := .leaf (.compare .lt "age" (.int 10))

/-- With NULL asked for, the row of the NULL is selected and the filter is true there; a negated
test is true and selects where the age is known.  Where it is not known the negated test selects
too, though it is unknown. -/
theorem selects_iff_true_threeAges :
    (Expr.join .or belowTen (.leaf (.null false "age"))).evaluate threeAges =
      .ok [false, true, true] ∧
    belowTen.not.evaluate threeAges = .ok [true, true, false] ∧
    (Expr.join .or belowTen (.leaf (.null false "age"))).NotFree ∧
    (∀ l ∈ belowTen.not.leaves, l.truth threeAges 0 ≠ .unknown) ∧
    (Expr.join .or belowTen (.leaf (.null false "age"))).truth threeAges 1 = .yes ∧
    belowTen.not.truth threeAges 0 = .yes ∧ belowTen.not.truth threeAges 1 = .unknown := by
  have hor : (Expr.join .or belowTen (.leaf (.null false "age"))).evaluate threeAges =
      .ok [false, true, true] := rfl
  have hnot : belowTen.not.evaluate threeAges = .ok [true, true, false] := rfl
  have hfree : (Expr.join .or belowTen (.leaf (.null false "age"))).NotFree := ⟨trivial, trivial⟩
  have hknown : ∀ l ∈ belowTen.not.leaves, l.truth threeAges 0 ≠ .unknown := by decide
  exact ⟨hor, hnot, hfree, hknown, ((selects_iff_true hor).2.1 hfree 1 (by decide)).mp rfl,
    ((selects_iff_true hnot).2.2 0 (by decide) hknown).mp rfl, rfl⟩

end Columnar.Filter
