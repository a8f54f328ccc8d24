/-
# `Proofs.Snapshot.Totals` — the rows a file declares twice

A header declares the rows of a file, and every segment declares its own.  A
file that is complete is accepted if the two agree, where rows are added up to
the greatest number of 64 bits and no further.  So the sum is that of the
numbers as long as it fits; when it does not, it passes for that greatest
number, and a header that declares just this is believed (`Layout.Saturated`).
That is the only way for a file to be accepted without accounting for every
row.
-/
import Columnar.Proofs.Snapshot.Walk

namespace Columnar.Snapshot

/-- The rows that the contents list, added up without a bound. -/
def Layout.listedRows (l : Layout) : Nat := (l.contents.map SegmentInfo.rows).sum

/-- The header declares the greatest number of 64 bits, and the contents list more rows. -/
def Layout.Saturated (l : Layout) : Prop :=
  l.totalRows = 2 ^ 64 - 1 ∧ 2 ^ 64 - 1 < l.listedRows

theorem describe_rows : ∀ (segments : List Segment) (index place : Nat),
    (describe index place segments).map SegmentInfo.rows = segments.map Segment.rows
  | [], _, _ => rfl
  | s :: rest, index, place => by
      rw [describe, List.map_cons, describe_rows rest, List.map_cons]

theorem rowSum_eq_listed (l : Layout) : rowSum l.segments = min (2 ^ 64 - 1) l.listedRows := by
  rw [rowSum_eq_min, Layout.listedRows, Layout.contents, describe_rows]

section
variable {file : Bytes} {l : Layout}

/-- A complete file is accepted or refused for its rows. -/
theorem parse_complete (h : Framed file l) :
    Layout.parse file = if min (2 ^ 64 - 1) l.listedRows = l.totalRows then .ok l
      else .error (.rowCount l.totalRows (min (2 ^ 64 - 1) l.listedRows)) := by
  have hparse := parse_framed h []
  rw [List.append_nil, rowSum_eq_listed] at hparse
  rw [hparse]
  by_cases hrows : min (2 ^ 64 - 1) l.listedRows = l.totalRows
  · rw [if_pos hrows, hrows, beq_self_eq_true]
    rfl
  · rw [if_neg hrows, beq_eq_false_iff_ne.mpr hrows]
    rfl

/-- The bounded sum is what the header declares if the sum is, or if both have reached the
bound. -/
theorem bounded_eq_iff (h : Framed file l) :
    min (2 ^ 64 - 1) l.listedRows = l.totalRows ↔ l.listedRows = l.totalRows ∨ l.Saturated := by
  have hrows := h.rows
  rw [Layout.Saturated]
  omega

theorem accepted_iff (h : Framed file l) :
    Layout.parse file = .ok l ↔ l.listedRows = l.totalRows ∨ l.Saturated := by
  rw [← bounded_eq_iff h, parse_complete h]
  constructor
  · intro hparse
    by_contra hrows
    rw [if_neg hrows] at hparse
    cases hparse
  · exact fun hrows => if_pos hrows

theorem refused_for_rows (h : Framed file l) (hne : l.listedRows ≠ l.totalRows)
    (hsaturated : ¬ l.Saturated) :
    Layout.parse file = .error (.rowCount l.totalRows (min (2 ^ 64 - 1) l.listedRows)) := by
  rw [parse_complete h]
  exact if_neg fun hrows => ((bounded_eq_iff h).mp hrows).elim hne hsaturated

end

/-- Files account for their rows unless the sum is cut off.  A file is accepted if and only if it is
complete and its contents list as many rows as its header declares, or more than 64 bits hold while
the header declares the greatest number of 64 bits.  A complete file that is not accepted is refused
for its rows.  So acceptance means that the sums agree, and sums that differ mean this refusal, for
exactly the complete files whose sum is not cut off. -/
theorem accounts_for_rows (file : Bytes) (l : Layout) :
    (Layout.parse file = .ok l ↔ Framed file l ∧ (l.listedRows = l.totalRows ∨ l.Saturated)) ∧
    (Framed file l → l.listedRows ≠ l.totalRows → ¬ l.Saturated →
      Layout.parse file = .error (.rowCount l.totalRows (min (2 ^ 64 - 1) l.listedRows)) ∧
        RefusedWith file (.rowCount l.totalRows (min (2 ^ 64 - 1) l.listedRows))) ∧
    (Framed file l →
      (((Layout.parse file = .ok l → l.listedRows = l.totalRows) ∧
        (l.listedRows ≠ l.totalRows →
          ∃ actual, Layout.parse file = .error (.rowCount l.totalRows actual))) ↔
        ¬ l.Saturated)) := by
  refine ⟨⟨fun hparse => ?_, fun ⟨h, hrows⟩ => (accepted_iff h).mpr hrows⟩, ?_, ?_⟩
  · have h := (parse_ok_iff.mp hparse).toFramed
    exact ⟨h, (accepted_iff h).mp hparse⟩
  · intro h hne hsaturated
    have hparse := refused_for_rows h hne hsaturated
    exact ⟨hparse, refusedWith_of_read ((read_eq_parse h.leastLength_le).trans hparse)⟩
  · intro h
    constructor
    · rintro ⟨hsum, -⟩ hsaturated
      have hequal := hsum ((accepted_iff h).mpr (.inr hsaturated))
      obtain ⟨htotal, hmore⟩ := hsaturated
      omega
    · intro hsaturated
      refine ⟨fun hparse => ?_, fun hne => ⟨_, refused_for_rows h hne hsaturated⟩⟩
      exact ((accepted_iff h).mp hparse).resolve_right hsaturated

/-- Two segments without payloads, in a file of one column. -/
def twoCounts (total first second : Nat) : Layout :=
  ⟨total, Wire.encodeSchema flags, flags.declared, [⟨first, 0, []⟩, ⟨second, 0, []⟩]⟩

theorem framed_twoCounts (total first second : Nat) (htotal : total < 2 ^ 64)
    (hfirst : first < 2 ^ 64) (hsecond : second < 2 ^ 64) :
    Framed (twoCounts total first second).encode (twoCounts total first second) where
  bytes := rfl
  rows := htotal
  count := show 2 < 2 ^ 64 by decide
  schemaLength := show (Wire.encodeSchema flags).length < 2 ^ 64 by decide +kernel
  segments := by
    have hempty : ([] : Bytes).length < 2 ^ 64 := by decide
    exact List.forall_mem_cons.mpr
      ⟨⟨hfirst, hempty⟩, List.forall_mem_singleton.mpr ⟨hsecond, hempty⟩⟩
  schema := Wire.decodeSchema_encodeSchema (by decide +kernel)

/-- The greatest number of rows that 64 bits hold is accounted for; one row too many for the header
is refused, though its sum is the greatest number too. -/
theorem accounts_for_rows_greatest :
    Framed (twoCounts (2 ^ 64 - 1) (2 ^ 64 - 2) 1).encode (twoCounts (2 ^ 64 - 1) (2 ^ 64 - 2) 1) ∧
    Layout.parse (twoCounts (2 ^ 64 - 1) (2 ^ 64 - 2) 1).encode =
      .ok (twoCounts (2 ^ 64 - 1) (2 ^ 64 - 2) 1) ∧
    Layout.parse (twoCounts (2 ^ 64 - 2) (2 ^ 64 - 2) 1).encode =
      .error (.rowCount (2 ^ 64 - 2) (2 ^ 64 - 1)) := by
  have hgreatest := framed_twoCounts (2 ^ 64 - 1) (2 ^ 64 - 2) 1 (by decide) (by decide) (by decide)
  have hbelow := framed_twoCounts (2 ^ 64 - 2) (2 ^ 64 - 2) 1 (by decide) (by decide) (by decide)
  refine ⟨hgreatest, (accounts_for_rows _ _).1.mpr ⟨hgreatest, .inl rfl⟩, ?_⟩
  exact ((accounts_for_rows _ _).2.1 hbelow (by decide) fun h => absurd h.1 (by decide)).1

/-- A header of the greatest number is believed over segments that have one row more. -/
theorem saturated_accepted :
    read (twoCounts (2 ^ 64 - 1) (2 ^ 64 - 1) 1).encode =
      .ok (twoCounts (2 ^ 64 - 1) (2 ^ 64 - 1) 1) ∧
    (twoCounts (2 ^ 64 - 1) (2 ^ 64 - 1) 1).listedRows = 2 ^ 64 ∧
    (twoCounts (2 ^ 64 - 1) (2 ^ 64 - 1) 1).listedRows ≠
      (twoCounts (2 ^ 64 - 1) (2 ^ 64 - 1) 1).totalRows := by
  have h := framed_twoCounts (2 ^ 64 - 1) (2 ^ 64 - 1) 1 (by decide) (by decide) (by decide)
  exact ⟨read_ok_iff.mpr ⟨h, rfl⟩, rfl, by decide⟩

end Columnar.Snapshot
