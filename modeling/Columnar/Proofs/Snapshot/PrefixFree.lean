/-
# `Proofs.Snapshot.PrefixFree` — where a snapshot ends

A snapshot says itself where it ends.  A part of one that breaks off anywhere
is refused for being cut off, whatever its payloads look like, since the bytes
in front of the break are read as they are read in the whole file.  And bytes
behind the trailer are counted and refused, whatever they are.  So no snapshot
goes on as another one.
-/
import Columnar.Proofs.Snapshot.Walk

namespace Columnar.Snapshot

/-- A part of a trailer is none. -/
theorem take_ne_trailer {count : Nat} {rest : Bytes} (h : rest <+: trailer count)
    (hne : rest ≠ trailer count) : rest.take 16 ≠ trailer count := by
  have hlen := h.length_le
  rw [length_trailer] at hlen
  rwa [List.take_of_length_le hlen]

section
variable {file : Bytes} {l : Layout}

/-- A file that breaks off ends early. -/
theorem endsEarly_of_short (h : Framed file l) {short : Bytes} (hshort : short <+: file)
    (hne : short ≠ file) : EndsEarly (Layout.parse short) := by
  have hfile := h.append []
  simp only [List.append_nil] at hfile
  rw [hfile] at hshort
  refine endsEarly_parse h.headerFits hshort ?_
  rintro body rfl hbody
  rw [Layout.parseBody]
  refine endsEarly_segments h.segments hbody ?_
  rintro rest rfl hrest
  have htrailer : rest ≠ trailer l.segments.length := by
    rintro rfl
    exact hne hfile.symm
  have hmissing : (rest.take 16 == trailer l.segments.length) = false :=
    beq_eq_false_iff_ne.mpr (take_ne_trailer hrest htrailer)
  dsimp only
  rw [hmissing]
  exact ⟨.missingTrailer, rfl, .missingTrailer⟩

/-- Bytes behind the trailer are counted. -/
theorem parse_extended (h : Framed file l) {extra : Bytes} (hne : extra ≠ []) :
    Layout.parse (file ++ extra) = .error (.trailing extra.length) := by
  have hmore : extra.isEmpty = false := List.isEmpty_eq_false_iff.mpr hne
  rw [parse_framed h, hmore]
  rfl

theorem read_extended (h : Framed file l) {extra : Bytes} (hne : extra ≠ []) :
    read (file ++ extra) = .error (.trailing extra.length) := by
  have hlong : leastLength ≤ (file ++ extra).length := by
    rw [List.length_append]
    exact Nat.le_add_right_of_le h.leastLength_le
  rw [read_eq_parse hlong]
  exact parse_extended h hne

/-- The format is prefix-free.  Every part of a snapshot that breaks off before its end is refused
as truncated or for a missing trailer; a snapshot with bytes behind it is refused, and told is
their number; so no snapshot is the beginning of another one. -/
theorem prefix_free (h : read file = .ok l) :
    (∀ short, short <+: file → short ≠ file → ∃ e, e.Unfinished ∧ RefusedWith short e) ∧
    (∀ extra, extra ≠ [] → RefusedWith (file ++ extra) (.trailing extra.length) ∧
      (FormatError.trailing extra.length).message =
        toString extra.length ++ " unexpected bytes after trailer") ∧
    ∀ file' l', read file' = .ok l' → file <+: file' → file' = file := by
  have hframed := (read_ok_iff.mp h).toFramed
  refine ⟨fun short hshort hne => ?_, fun extra hne => ⟨?_, rfl⟩, ?_⟩
  · exact refused_of_endsEarly (endsEarly_of_short hframed hshort hne)
  · exact refusedWith_of_read (read_extended hframed hne)
  · rintro file' l' h' ⟨extra, rfl⟩
    by_contra hne
    have hmore : extra ≠ [] := by
      rintro rfl
      exact hne (List.append_nil file)
    rw [read_extended hframed hmore] at h'
    cases h'

end

/-- A snapshot whose payload is a trailer. -/
def misleading : Layout := single 3 (trailer 1)

/-- The file that breaks off behind the payload has what a trailer has at its end, and is refused;
so is the file with a trailer behind it. -/
theorem prefix_free_misleading :
    read misleading.encode = .ok misleading ∧
    (∃ e, e.Unfinished ∧ RefusedWith (misleading.encode.take (misleading.encode.length - 16)) e) ∧
    RefusedWith (misleading.encode ++ trailer 1) (.trailing 16) := by
  have hread : read misleading.encode = .ok misleading :=
    read_ok_iff.mpr (hasLayout_single 3 (trailer 1) (by decide) (by decide))
  have hlen := leastLength_le_encode misleading
  have hne : misleading.encode.take (misleading.encode.length - 16) ≠ misleading.encode := by
    intro h
    have := congrArg List.length h
    rw [List.length_take] at this
    have hleast : leastLength = 52 := rfl
    omega
  exact ⟨hread, (prefix_free hread).1 _ (List.take_prefix _ _) hne,
    ((prefix_free hread).2.1 (trailer 1) (by decide)).1⟩

end Columnar.Snapshot
