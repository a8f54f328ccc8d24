/-
# `Proofs.Filter.Faults` — no operand hides an error

Connectives evaluate both of their operands, whatever the first one says.  So
a filter fails if one of its leaves does, anywhere in the tree, and what is
reported is the error of the leftmost leaf that fails.  A leaf fails for one
of three reasons (`FailsWith`): its column is absent, its pattern is refused,
or cells of the column's type cannot be tested.
-/
import Columnar.Proofs.Filter.Selection

namespace Columnar.Filter

/-! ## Leaves -/

/-- Values of the type are not tested; only whether they are there is. -/
inductive Untested : DataType → Prop
  | date : Untested .date
  | binary : Untested .binary
  | vector {n : VectorLength} : Untested (.vector n)

/-- The leaf tests the values of its column. -/
def Leaf.TestsValues : Leaf → Prop
  | .null _ _ => False
  | .like _ _ pattern => Wildcard.affordable pattern = true
  | _ => True

/-- Why a leaf fails on a batch.  A pattern is looked at before the type of the column. -/
inductive Leaf.FailsWith (b : Batch) : Leaf → SelectError → Prop
  | missing {l : Leaf} : b.find? l.column = none →
      FailsWith b l (.missingColumn l.column b.schema.names)
  | refused {negated : Bool} {column pattern : String} {c : Column} : b.find? column = some c →
      Wildcard.affordable pattern = false → FailsWith b (.like negated column pattern)
        (.badPattern pattern)
  | untested {l : Leaf} {c : Column} : b.find? l.column = some c → l.TestsValues →
      Untested c.type → FailsWith b l (.noPredicates c.type)

theorem untestable_some_iff {t : DataType} {err : SelectError} :
    untestable? t = some err ↔ Untested t ∧ err = .noPredicates t := by
  constructor
  · intro h
    cases t with
    | int signed w => cases h
    | float p => cases h
    | text large => cases h
    | bool => cases h
    | date =>
        cases h
        exact ⟨.date, rfl⟩
    | binary =>
        cases h
        exact ⟨.binary, rfl⟩
    | vector n =>
        cases h
        exact ⟨.vector, rfl⟩
  · rintro ⟨h, rfl⟩
    cases h with
    | date => rfl
    | binary => rfl
    | vector => rfl

section
variable {b : Batch} {l : Leaf} {err : SelectError}

theorem failsWith_of_fault (h : l.fault? b = some err) : l.FailsWith b err := by
  rw [Leaf.fault?] at h
  cases hfind : b.find? l.column with
  | none =>
      rw [hfind] at h
      cases h
      exact .missing hfind
  | some c =>
      rw [hfind] at h
      cases l with
      | compare op column v =>
          obtain ⟨htype, rfl⟩ := untestable_some_iff.mp h
          exact .untested hfind trivial htype
      | like negated column pattern =>
          dsimp only at h
          by_cases haffordable : Wildcard.affordable pattern = true
          · rw [if_pos haffordable] at h
            obtain ⟨htype, rfl⟩ := untestable_some_iff.mp h
            exact .untested hfind haffordable htype
          · rw [if_neg haffordable] at h
            cases h
            exact .refused hfind (Bool.eq_false_iff.mpr haffordable)
      | member column vs =>
          obtain ⟨htype, rfl⟩ := untestable_some_iff.mp h
          exact .untested hfind trivial htype
      | null negated column => cases h

theorem fault_of_failsWith (h : l.FailsWith b err) : l.fault? b = some err := by
  rw [Leaf.fault?]
  cases h with
  | missing hfind => rw [hfind]
  | refused hfind hrefused =>
      rw [show b.find? (Leaf.like _ _ _).column = _ from hfind]
      dsimp only
      rw [hrefused]
      rfl
  | untested hfind htests htype =>
      rw [hfind]
      have huntestable := untestable_some_iff.mpr ⟨htype, rfl⟩
      cases l with
      | compare op column v => exact huntestable
      | like negated column pattern =>
          exact (if_pos htests).trans huntestable
      | member column vs => exact huntestable
      | null negated column => exact htests.elim

theorem leaf_error_iff : (Expr.leaf l).evaluate b = .error err ↔ l.fault? b = some err := by
  rw [Expr.evaluate_error_iff, Expr.fault?, Expr.leaves, List.findSome?_singleton]

theorem leaf_ok_iff : (∃ m, (Expr.leaf l).evaluate b = .ok m) ↔ l.fault? b = none := by
  simp only [Expr.evaluate_ok_iff, Expr.fault?, Expr.leaves, List.findSome?_singleton,
    exists_and_left, exists_eq, and_true]

end

/-! ## Filters -/

section
variable {b : Batch} {e : Expr}

/-- The error is that of the first leaf that fails, after leaves that do not. -/
theorem error_iff_first {err : SelectError} : e.evaluate b = .error err ↔
    ∃ before l after, e.leaves = before ++ l :: after ∧
      (∀ x ∈ before, ∃ m, (Expr.leaf x).evaluate b = .ok m) ∧
      (Expr.leaf l).evaluate b = .error err := by
  simp only [leaf_ok_iff, leaf_error_iff]
  rw [Expr.evaluate_error_iff, Expr.fault?, List.findSome?_eq_some_iff]
  constructor
  · rintro ⟨before, l, after, hleaves, hl, hbefore⟩
    exact ⟨before, l, after, hleaves, hbefore, hl⟩
  · rintro ⟨before, l, after, hleaves, hbefore, hl⟩
    exact ⟨before, l, after, hleaves, hl, hbefore⟩

theorem error_of_leaf {l : Leaf} {err : SelectError} (hl : l ∈ e.leaves)
    (h : l.fault? b = some err) : ∃ err, e.evaluate b = .error err := by
  simp only [Expr.evaluate_error_iff]
  cases hfault : e.fault? b with
  | some err => exact ⟨err, rfl⟩
  | none =>
      have hnone := List.findSome?_eq_none_iff.mp hfault l hl
      rw [h] at hnone
      cases hnone

end

/-- A filter fails if and only if one of its leaves fails when it is evaluated alone, and it fails
with the error of the leftmost leaf that does, wherever in the tree the leaves are and whatever the
other ones select.  A leaf fails for the reasons of `FailsWith` only; so a filter with a column that
the batch does not have never gives a mask. -/
theorem errors_surface (b : Batch) (e : Expr) :
    ((∃ err, e.evaluate b = .error err) ↔
      ∃ l ∈ e.leaves, ∃ err, (Expr.leaf l).evaluate b = .error err) ∧
    (∀ err, e.evaluate b = .error err ↔ ∃ before l after, e.leaves = before ++ l :: after ∧
      (∀ x ∈ before, ∃ m, (Expr.leaf x).evaluate b = .ok m) ∧
      (Expr.leaf l).evaluate b = .error err) ∧
    (∀ l err, (Expr.leaf l).evaluate b = .error err ↔ l.FailsWith b err) ∧
    ((∃ name ∈ e.columns, b.find? name = none) → ∃ err, e.evaluate b = .error err) := by
  refine ⟨?_, fun err => error_iff_first, fun l err => ?_, ?_⟩
  · constructor
    · rintro ⟨err, h⟩
      obtain ⟨before, l, after, hleaves, -, hl⟩ := error_iff_first.mp h
      exact ⟨l, hleaves ▸ List.mem_append_right _ List.mem_cons_self, err, hl⟩
    · rintro ⟨l, hl, err, h⟩
      exact error_of_leaf hl (leaf_error_iff.mp h)
  · rw [leaf_error_iff]
    exact ⟨failsWith_of_fault, fault_of_failsWith⟩
  · rintro ⟨name, hname, hfind⟩
    obtain ⟨l, hl, rfl⟩ := List.mem_map.mp (List.mem_eraseDups.mp hname)
    exact error_of_leaf hl (fault_of_failsWith (.missing hfind))

/-- Days, which no test compares. -/
def days : Batch where
  rows := 2
  columns := [.ofCells "day" true .date #[some 0#32, none]]
  aligned := by decide
  sound := by decide

/-- A test that can be made, one of days for equality, and one of a column that is not there. -/
def dated : Leaf := .null true "day"
def isEpoch : Leaf := .compare .eq "day" (.int 0)
def unseasoned : Leaf := .null false "season"

/-- The error is that of the second leaf: the first one does not fail, and the third comes later. -/
theorem errors_surface_days :
    (Expr.join .or (.leaf dated) (.not (.join .and (.leaf isEpoch) (.leaf unseasoned)))).evaluate
      days = .error (.noPredicates .date) ∧
    ∃ err, (Expr.join .and (.leaf dated) (.leaf unseasoned)).evaluate days = .error err := by
  obtain ⟨-, hfirst, hcauses, -⟩ := errors_surface days
    (.join .or (.leaf dated) (.not (.join .and (.leaf isEpoch) (.leaf unseasoned))))
  obtain ⟨-, -, -, habsent⟩ := errors_surface days (.join .and (.leaf dated) (.leaf unseasoned))
  have hdated : (Expr.leaf dated).evaluate days = .ok [true, false] := rfl
  have hepoch : isEpoch.FailsWith days (.noPredicates .date) :=
    .untested (c := days.columns[0]) rfl trivial .date
  refine ⟨(hfirst _).mpr ⟨[dated], isEpoch, [unseasoned], rfl, ?_, (hcauses _ _).mpr hepoch⟩,
    habsent ⟨"season", by decide, rfl⟩⟩
  exact List.forall_mem_singleton.mpr ⟨_, hdated⟩

end Columnar.Filter
