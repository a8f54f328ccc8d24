/-
# `Proofs.Sequence` — steps that may fail, one after the other

A sequence of steps succeeds if all of them do, and fails with the first one
that does.  For readers that take a list apart the steps are one for each
element, and what they read corresponds element by element.
-/
import Mathlib.Data.List.Forall2

namespace Columnar

/-! ## Two steps -/

theorem ok_bind {ε α β : Type} (a : α) (f : α → Except ε β) : (Except.ok a >>= f) = f a := rfl

theorem bind_ok_iff {ε α β : Type} {x : Except ε α} {f : α → Except ε β} {r : β} :
    (x >>= f) = .ok r ↔ ∃ a, x = .ok a ∧ f a = .ok r := by
  cases x with
  | error e => exact ⟨fun h => (nomatch h), fun ⟨_, h, _⟩ => (nomatch h)⟩
  | ok a => exact ⟨fun h => ⟨a, rfl, h⟩, fun ⟨_, h, hf⟩ => by cases h; exact hf⟩

theorem bind_error_iff {ε α β : Type} {x : Except ε α} {f : α → Except ε β} {e : ε} :
    (x >>= f) = .error e ↔ x = .error e ∨ ∃ a, x = .ok a ∧ f a = .error e := by
  cases x with
  | error e' =>
      constructor
      · intro h
        cases h
        exact .inl rfl
      · rintro (h | ⟨_, h, _⟩)
        · cases h
          rfl
        · cases h
  | ok a =>
      constructor
      · intro h
        exact .inr ⟨a, rfl, h⟩
      · rintro (h | ⟨_, h, hf⟩)
        · cases h
        · cases h
          exact hf

/-! ## A step for each element -/

/-- What is read for each element of a list is read for all of them. -/
theorem mapM_forall₂ {α β : Type} {f : α → Option β} {R : α → β → Prop} : ∀ {l : List α},
    (∀ a ∈ l, ∃ b, f a = some b ∧ R a b) → ∃ l', l.mapM f = some l' ∧ List.Forall₂ R l l'
  | [], _ => ⟨[], rfl, .nil⟩
  | a :: l, h => by
      obtain ⟨b, hb, hr⟩ := h a List.mem_cons_self
      obtain ⟨l', hl', hrest⟩ := mapM_forall₂ fun a ha => h a (List.mem_cons_of_mem _ ha)
      exact ⟨b :: l', by rw [List.mapM_cons, hb, hl']; rfl, .cons hr hrest⟩

/-- What is read for each element of a list has what every reading has. -/
theorem forall_of_mapM {α β : Type} {f : α → Option β} {P : β → Prop}
    (h : ∀ a b, f a = some b → P b) : ∀ {l : List α} {l' : List β}, l.mapM f = some l' →
      ∀ b ∈ l', P b
  | [], l', hl => by
      cases hl
      exact fun _ hb => absurd hb List.not_mem_nil
  | a :: l, l', hl => by
      rw [List.mapM_cons] at hl
      obtain ⟨b, hb, hl⟩ := Option.bind_eq_some_iff.mp hl
      obtain ⟨rest, hrest, hl⟩ := Option.bind_eq_some_iff.mp hl
      cases hl
      exact List.forall_mem_cons.mpr ⟨h a b hb, forall_of_mapM h hrest⟩

/-- Steps that all succeed give all of their results. -/
theorem mapM_ok {ε α β : Type} {f : α → Except ε β} {g : α → β} : ∀ {l : List α},
    (∀ a ∈ l, f a = .ok (g a)) → l.mapM f = .ok (l.map g)
  | [], _ => rfl
  | a :: l, h => by
      have hrest := mapM_ok fun a ha => h a (List.mem_cons_of_mem _ ha)
      rw [List.mapM_cons, h a List.mem_cons_self, hrest]
      rfl

/-- If every step fails in the same way, so does the sequence. -/
theorem mapM_error {ε α β : Type} {f : α → Except ε β} {e : ε} {l : List α} (hl : l ≠ [])
    (h : ∀ a ∈ l, f a = .error e) : l.mapM f = .error e := by
  obtain ⟨a, rest, rfl⟩ := List.exists_cons_of_ne_nil hl
  rw [List.mapM_cons, h a List.mem_cons_self]
  rfl

/-- What is read for each index of a list is read for each of its elements. -/
theorem mapM_range {α β : Type} : ∀ (l : List α) {f : Nat → Option β} {g : α → Option β},
    (∀ i (hi : i < l.length), f i = g l[i]) → (List.range l.length).mapM f = l.mapM g
  | [], _, _, _ => rfl
  | a :: l, f, g, h => by
      have h0 : f 0 = g a := h 0 (Nat.zero_lt_succ _)
      have ih := mapM_range l (f := f ∘ Nat.succ) (g := g) fun i hi =>
        h (i + 1) (Nat.succ_lt_succ hi)
      rw [List.length_cons, List.range_succ_eq_map, List.mapM_cons, List.mapM_cons, h0,
        List.mapM_map, ih]

theorem mapM_range_some {α : Type} {l : List α} {f : Nat → Option α}
    (h : ∀ i (hi : i < l.length), f i = some l[i]) : (List.range l.length).mapM f = some l := by
  rw [mapM_range l (g := pure) h, List.mapM_pure, List.map_id']
  rfl

/-- What follows for each element on the right from what holds on the left. -/
theorem forall_right {α β : Type} {R : α → β → Prop} {P : α → Prop} {Q : β → Prop}
    {l : List α} {r : List β} (h : List.Forall₂ R l r) (hP : ∀ a ∈ l, P a)
    (hQ : ∀ a b, P a → R a b → Q b) : ∀ b ∈ r, Q b := by
  induction h with
  | nil => simp
  | cons hab _ ih =>
      intro b hb
      rcases List.mem_cons.mp hb with rfl | hb
      · exact hQ _ _ (hP _ List.mem_cons_self) hab
      · exact ih (fun a ha => hP a (List.mem_cons_of_mem _ ha)) b hb

end Columnar
