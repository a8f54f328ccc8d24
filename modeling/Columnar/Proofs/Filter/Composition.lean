/-
# `Proofs.Filter.Composition` — filters one after the other

A filter keeps the rows that it accepts, in order and whole.  Since it looks
at one row at a time, what it keeps of a batch that was filtered before are
the rows that both filters accept.  So the negation of a filter keeps what the
filter drops, a conjunction filters twice, in either order, and a disjunction
keeps what one of the two keeps.
-/
import Columnar.Proofs.Filter.Locality

namespace Columnar.Filter

section
variable {b : Batch} {e e₁ e₂ : Expr} {m : List Bool}

theorem no_fault_of_ok (h : e.evaluate b = .ok m) : e.fault? b = none :=
  (Expr.evaluate_ok_iff.mp h).1

/-- The entry of a row in a mask says whether the filter accepts the row. -/
theorem entry_of_ok (h : e.evaluate b = .ok m) (i : Fin b.rows) :
    m[i.val]? = some (e.accepts b.schema (b.row i.val)) := by
  rw [evaluate_of_no_fault (no_fault_of_ok h)] at h
  cases h
  simp [Batch.table]

theorem marked_iff (h : e.evaluate b = .ok m) (i : Fin b.rows) :
    m[i.val]? = some true ↔ e.accepts b.schema (b.row i.val) = true := by
  rw [entry_of_ok h i, Option.some_inj]

/-- A filter applied to what another one keeps keeps the rows that both accept. -/
theorem select_keep (h : e.fault? b = none) (test : List (Option AnyValue) → Bool) :
    e.select (b.keep test) = .ok (b.keep fun r => test r && e.accepts b.schema r) := by
  have hschema := b.schema_keep test
  rw [select_of_no_fault ((fault_of_schema hschema e).trans h), hschema, Batch.keep_keep]

/-- A connective of filters keeps the rows that it accepts by what the filters say of them. -/
theorem select_join (h₁ : e₁.fault? b = none) (h₂ : e₂.fault? b = none) (c : Connective) :
    (Expr.join c e₁ e₂).select b =
      .ok (b.keep fun r => c.apply (e₁.accepts b.schema r) (e₂.accepts b.schema r)) := by
  have hfault : (Expr.join c e₁ e₂).fault? b = none := by
    rw [Expr.fault_join, h₁, h₂]
    rfl
  exact select_of_no_fault hfault

end

/-- Filters split and compose.  Of two filters that run on a batch, each keeps the rows it marks, in
order and whole, and the negation of the first keeps all others.  Filtering with the first and then
with the second keeps the rows that both mark, which is what their conjunction keeps in either
order; their disjunction keeps the rows that one of them marks, each once. -/
theorem selections_compose {b : Batch} {e₁ e₂ : Expr} {m₁ m₂ : List Bool}
    (h₁ : e₁.evaluate b = .ok m₁) (h₂ : e₂.evaluate b = .ok m₂) :
    ∃ first second others both either,
      (e₁.select b = .ok first ∧ b.Keeps (fun i => m₁[i.val]? = some true) first) ∧
      (e₂.select b = .ok second ∧ b.Keeps (fun i => m₂[i.val]? = some true) second) ∧
      (e₁.not.select b = .ok others ∧ b.Keeps (fun i => ¬ m₁[i.val]? = some true) others) ∧
      (e₂.select first = .ok both ∧ (Expr.join .and e₁ e₂).select b = .ok both ∧
        (Expr.join .and e₂ e₁).select b = .ok both ∧
        b.Keeps (fun i => m₁[i.val]? = some true ∧ m₂[i.val]? = some true) both) ∧
      (Expr.join .or e₁ e₂).select b = .ok either ∧
        b.Keeps (fun i => m₁[i.val]? = some true ∨ m₂[i.val]? = some true) either := by
  have hfault₁ := no_fault_of_ok h₁
  have hfault₂ := no_fault_of_ok h₂
  have hfaultNot : e₁.not.fault? b = none := hfault₁
  have hand := select_join hfault₁ hfault₂ .and
  have hswapped := select_join hfault₂ hfault₁ .and
  simp only [Connective.apply] at hand hswapped
  simp only [Bool.and_comm (e₂.accepts _ _)] at hswapped
  refine ⟨_, _, _, _, _, ⟨select_of_no_fault hfault₁, ?_⟩, ⟨select_of_no_fault hfault₂, ?_⟩,
    ⟨select_of_no_fault hfaultNot, ?_⟩,
    ⟨select_keep hfault₂ _, hand, hswapped, ?_⟩, select_join hfault₁ hfault₂ .or, ?_⟩
  · exact b.keeps_keep _ fun i => (marked_iff h₁ i).symm
  · exact b.keeps_keep _ fun i => (marked_iff h₂ i).symm
  · refine b.keeps_keep _ fun i => ?_
    rw [marked_iff h₁, Bool.not_eq_true, ← Bool.not_eq_true']
    rfl
  · refine b.keeps_keep _ fun i => ?_
    rw [marked_iff h₁, marked_iff h₂, Bool.and_eq_true]
  · refine b.keeps_keep _ fun i => ?_
    rw [marked_iff h₁, marked_iff h₂, Connective.apply, Bool.or_eq_true]

/-- Items of which there are few. -/
def scarce : Expr := .leaf (.compare .lt "count" (.int 5))

/-- One row of the stock is notable and scarce, and the nut is kept by the negation. -/
theorem selections_compose_stock :
    notable.evaluate stock = .ok [false, true, true] ∧
    scarce.evaluate stock = .ok [true, true, false] ∧
    ∃ first others both, notable.select stock = .ok first ∧ scarce.select first = .ok both ∧
      (Expr.join .and scarce notable).select stock = .ok both ∧
      stock.Keeps (fun i => i.val = 1) both ∧
      notable.not.select stock = .ok others ∧ stock.Keeps (fun i => i.val = 0) others := by
  have hnotable : notable.evaluate stock = .ok [false, true, true] := rfl
  have hscarce : scarce.evaluate stock = .ok [true, true, false] := rfl
  obtain ⟨first, second, others, both, either, hfirst, -, hothers, hboth, -⟩ :=
    selections_compose hnotable hscarce
  have hone : (fun i : Fin stock.rows => [false, true, true][i.val]? = some true ∧
      [true, true, false][i.val]? = some true) = fun i => i.val = 1 := by
    funext i
    revert i
    decide
  have hnut : (fun i : Fin stock.rows => ¬ [false, true, true][i.val]? = some true) =
      fun i => i.val = 0 := by
    funext i
    revert i
    decide
  exact ⟨hnotable, hscarce, first, others, both, hfirst.1, hboth.1, hboth.2.2.1,
    hone ▸ hboth.2.2.2, hothers.1, hnut ▸ hothers.2⟩

end Columnar.Filter
