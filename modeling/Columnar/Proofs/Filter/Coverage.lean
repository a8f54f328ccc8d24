/-
# `Proofs.Filter.Coverage` — tokens and the characters they were read from

A `Span` is a token with its characters.  The spans of a text stand in it
at the positions of their tokens, one behind the other, and only blanks
stand between them; each is read as its token also when it stands alone.
Where the text cannot be read, the position of the error is that of a
character that begins no lexeme, and what stands in front of it can be read.
-/
import Columnar.Proofs.Filter.Pieces

namespace Columnar.Filter

open Columnar.Text Number

/-! ## Spans -/

/-- A token and the characters of the text it was read from. -/
structure Span where
  token : Token
  source : String
deriving DecidableEq

namespace Span

/-- The byte behind the last character. -/
def stop (s : Span) : Nat := s.token.position + s.source.utf8ByteSize

/-- The byte is one of those that the characters take. -/
def Takes (s : Span) (byte : Nat) : Prop := s.token.position ≤ byte ∧ byte < s.stop

end Span

/-- The characters stand in the text from the byte on. -/
def StandsAt (text : String) (byte : Nat) (source : String) : Prop :=
  ∃ before after, text = before ++ source ++ after ∧ before.utf8ByteSize = byte

/-- The spans are those of the text's tokens. -/
structure Covers (text : String) (spans : List Span) : Prop where
  stands : ∀ s ∈ spans, StandsAt text s.token.position s.source
  alone : ∀ s ∈ spans, tokenize s.source = .ok [⟨s.token.lexeme, 0⟩]
  nonempty : ∀ s ∈ spans, s.source ≠ ""
  apart : spans.Pairwise fun s t => s.stop ≤ t.token.position
  blank : ∀ c before after, text = before ++ String.singleton c ++ after →
    (∀ s ∈ spans, ¬ s.Takes before.utf8ByteSize) → isBlank c = true

/-- The pieces as spans, the first of them after `offset` bytes. -/
def spansFrom (offset : Nat) : List Piece → List Span
  | [] => []
  | p :: ps =>
    ⟨⟨p.lexeme, offset + byteLength p.gap⟩, String.ofList p.source⟩ ::
      spansFrom (offset + p.byteLength) ps

theorem spansFrom_token (ps : List Piece) : ∀ offset : Nat,
    (spansFrom offset ps).map Span.token = place offset ps := by
  induction ps with
  | nil => exact fun _ => rfl
  | cons p ps ih =>
      intro offset
      rw [spansFrom, List.map_cons, ih, place]

theorem spansFrom_le {ps : List Piece} : ∀ {offset : Nat}, ∀ s ∈ spansFrom offset ps,
    offset ≤ s.token.position := by
  induction ps with
  | nil => exact fun _ hs => absurd hs List.not_mem_nil
  | cons p ps ih =>
      intro offset s hs
      rcases List.mem_cons.mp hs with rfl | hs
      · exact Nat.le_add_right offset _
      · exact Nat.le_trans (Nat.le_add_right offset _) (ih s hs)

theorem stop_first (p : Piece) (offset : Nat) :
    Span.stop ⟨⟨p.lexeme, offset + byteLength p.gap⟩, String.ofList p.source⟩ =
      offset + p.byteLength := by
  rw [Span.stop, ← byteLength_eq, Piece.byteLength, Nat.add_assoc]

theorem spansFrom_apart (ps : List Piece) : ∀ offset : Nat,
    (spansFrom offset ps).Pairwise fun s t => s.stop ≤ t.token.position := by
  induction ps with
  | nil => exact fun _ => .nil
  | cons p ps ih =>
      intro offset
      refine .cons ?_ (ih _)
      intro t ht
      rw [stop_first]
      exact spansFrom_le t ht

theorem byteLength_piece (before : List Char) (p : Piece) :
    byteLength (before ++ p.gap ++ p.source) = byteLength before + p.byteLength := by
  rw [byteLength_append, byteLength_append, Piece.byteLength, Nat.add_assoc]

/-- The characters of a span are found behind as many bytes as its position says. -/
theorem spansFrom_stands {ps : List Piece} (front after : List Char) :
    ∀ s ∈ spansFrom (byteLength front) ps, ∃ before rest,
      front ++ (written ps ++ after) = before ++ (s.source.toList ++ rest) ∧
        byteLength before = s.token.position := by
  induction ps generalizing front with
  | nil => exact fun _ hs => absurd hs List.not_mem_nil
  | cons p ps ih =>
      intro s hs
      rcases List.mem_cons.mp hs with rfl | hs
      · refine ⟨front ++ p.gap, written ps ++ after, ?_, byteLength_append front p.gap⟩
        simp only [written, String.toList_ofList, List.append_assoc]
      · rw [← byteLength_piece] at hs
        obtain ⟨before, rest, hchars, hposition⟩ := ih _ s hs
        refine ⟨before, rest, ?_, hposition⟩
        rw [← hchars]
        simp only [written, List.append_assoc]

theorem spansFrom_spelled {ps : List Piece} {after : List Char} (h : Cut after ps) :
    ∀ {offset : Nat}, ∀ s ∈ spansFrom offset ps, Spells s.source.toList s.token.lexeme [] := by
  induction h with
  | done => exact fun _ hs => absurd hs List.not_mem_nil
  | piece _ hspells _ ih =>
      intro offset s hs
      rcases List.mem_cons.mp hs with rfl | hs
      · rw [String.toList_ofList]
        exact (spells_iff.mp hspells).1
      · exact ih s hs

/-! ## The characters in between -/

/-- A character of a text in two parts is in the first or in the second of them. -/
theorem append_eq_split {xs ys before after : List Char} {c : Char}
    (h : xs ++ ys = before ++ c :: after) :
    (∃ mid, xs = before ++ c :: mid) ∨ ∃ mid, before = xs ++ mid ∧ ys = mid ++ c :: after := by
  rcases List.append_eq_append_iff.mp h with ⟨mid, hbefore, hys⟩ | ⟨mid, hxs, hrest⟩
  · exact .inr ⟨mid, hbefore, hys⟩
  · cases mid with
    | nil => exact .inr ⟨[], by simpa using hxs.symm, hrest.symm⟩
    | cons d mid =>
        obtain ⟨rfl, -⟩ := List.cons.inj hrest
        exact .inl ⟨mid, hxs⟩

theorem spansFrom_blank {ps : List Piece} {gap : List Char} (h : Cut gap ps)
    (hgap : ∀ c ∈ gap, isBlank c = true) {c : Char} : ∀ {offset : Nat} {before after : List Char},
    written ps ++ gap = before ++ c :: after →
      (∀ s ∈ spansFrom offset ps, ¬ s.Takes (offset + byteLength before)) → isBlank c = true := by
  induction h with
  | done =>
      intro _ before after hchars _
      refine hgap c ?_
      rw [show gap = before ++ c :: after from hchars]
      exact List.mem_append_right before List.mem_cons_self
  | @piece p ps hpgap _ _ ih =>
      intro offset before after hchars houtside
      obtain ⟨hfirst, hrest⟩ := List.forall_mem_cons.mp houtside
      rw [written, List.append_assoc, List.append_assoc] at hchars
      rcases append_eq_split hchars with ⟨mid, hmid⟩ | ⟨behind, rfl, hbehind⟩
      · refine hpgap c ?_
        rw [hmid]
        exact List.mem_append_right before List.mem_cons_self
      · rcases append_eq_split hbehind with ⟨mid, hmid⟩ | ⟨later, rfl, hlater⟩
        · -- The character is one of the piece's own, which its span takes.
          have hsource : byteLength behind < byteLength p.source := by
            rw [hmid, byteLength_append]
            exact Nat.lt_add_of_pos_right (byteLength_pos (List.cons_ne_nil c mid))
          have hbyte : offset + byteLength (p.gap ++ behind) =
              offset + byteLength p.gap + byteLength behind := by
            rw [byteLength_append, Nat.add_assoc]
          rw [hbyte] at hfirst
          refine absurd ⟨Nat.le_add_right _ _, ?_⟩ hfirst
          rw [stop_first, Piece.byteLength, ← Nat.add_assoc]
          exact Nat.add_lt_add_left hsource _
        · have hbyte : offset + byteLength (p.gap ++ (p.source ++ later)) =
              offset + p.byteLength + byteLength later := by
            simp only [byteLength_append, Piece.byteLength, Nat.add_assoc]
          rw [hbyte] at hrest
          exact ih hlater hrest

/-! ## Whole texts -/

theorem covers_spans {text : String} {ps : List Piece} {gap : List Char} (h : Cut gap ps)
    (hgap : ∀ c ∈ gap, isBlank c = true) (htext : written ps ++ gap = text.toList) :
    Covers text (spansFrom 0 ps) where
  stands := by
    intro s hs
    obtain ⟨before, rest, hchars, hposition⟩ := spansFrom_stands [] gap s hs
    rw [List.nil_append, htext] at hchars
    refine ⟨String.ofList before, String.ofList rest, ?_, ?_⟩
    · rw [← String.ofList_toList (s := text), hchars, String.ofList_append, String.ofList_append,
        String.ofList_toList, String.append_assoc]
    · rw [← byteLength_eq, hposition]
  alone := by
    intro s hs
    have hspells := spansFrom_spelled h s hs
    rw [← String.ofList_toList (s := s.source)]
    exact tokenize_spelled hspells
  nonempty := by
    rintro s hs hempty
    obtain ⟨first, tail, hchars, -⟩ := spansFrom_spelled h s hs
    rw [hempty] at hchars
    cases hchars
  apart := spansFrom_apart ps 0
  blank := by
    intro c before after heq houtside
    have hchars : written ps ++ gap = before.toList ++ c :: after.toList := by
      rw [htext, heq, String.toList_append, String.toList_append, String.toList_singleton,
        List.append_assoc, List.singleton_append]
    have hbyte : 0 + byteLength before.toList = before.utf8ByteSize := by
      rw [Nat.zero_add, byteLength_eq, String.ofList_toList]
    rw [← hbyte] at houtside
    exact spansFrom_blank h hgap hchars houtside

/-- Positions grow, as spans are apart and none is empty. -/
theorem Covers.positions {text : String} {spans : List Span} (h : Covers text spans) :
    (spans.map fun s => s.token.position).Pairwise (· < ·) := by
  rw [List.pairwise_map]
  refine h.apart.imp_of_mem ?_
  intro s t hs _ hapart
  have hbytes : s.source.utf8ByteSize ≠ 0 := fun hzero =>
    h.nonempty s hs (String.utf8ByteSize_eq_zero_iff.mp hzero)
  rw [Span.stop] at hapart
  omega

theorem byteLength_written (ps : List Piece) :
    byteLength (written ps) = (ps.map Piece.byteLength).sum := by
  induction ps with
  | nil => rfl
  | cons p ps ih =>
      rw [written, byteLength_append, byteLength_append, ih, List.map_cons, List.sum_cons,
        Piece.byteLength, Nat.add_assoc]

/-- In front of a character that begins no lexeme, the pieces are the tokens of what has been
read. -/
theorem tokenize_before {text : String} {ps : List Piece} {gap rest : List Char} {c : Char}
    (hcut : Cut (gap ++ c :: rest) ps) (hgap : ∀ d ∈ gap, isBlank d = true)
    (htext : written ps ++ (gap ++ c :: rest) = text.toList) :
    ∃ before after, text = before ++ String.singleton c ++ after ∧
      before.utf8ByteSize = (ps.map Piece.byteLength).sum + byteLength gap ∧
      tokenize before = .ok (place 0 ps) := by
  refine ⟨String.ofList (written ps ++ gap), String.ofList rest, ?_, ?_, ?_⟩
  · rw [← String.ofList_toList (s := text), ← htext, String.singleton_eq_ofList,
      ← String.ofList_append, ← String.ofList_append]
    simp only [List.append_assoc, List.singleton_append]
  · rw [← byteLength_eq, byteLength_append, byteLength_written]
  · exact tokenize_written hgap (hcut.shorten (List.prefix_append gap (c :: rest)))

theorem lt_of_split {text before after : String} {c : Char}
    (h : text = before ++ String.singleton c ++ after) : before.utf8ByteSize < text.utf8ByteSize := by
  have hbytes := c.utf8Size_pos
  rw [h, String.utf8ByteSize_append, String.utf8ByteSize_append, String.utf8ByteSize_singleton]
  omega

/-- Nothing of a text is lost: its tokens stand in it with their characters, and what is in no
token is blank.  A text that cannot be read can be read up to the character the error is at. -/
theorem tokenize_lossless (text : String) :
    match tokenize text with
    | .ok ts =>
        (ts.map Token.position).Pairwise (· < ·) ∧
          ∃ spans, spans.map Span.token = ts ∧ Covers text spans
    | .error err =>
        err.position < text.utf8ByteSize ∧
          ∃ before c after ts, text = before ++ String.singleton c ++ after ∧
            before.utf8ByteSize = err.position ∧ isBlank c = false ∧ tokenize before = .ok ts := by
  obtain ⟨left, hstuck, hgap, hcut, htext⟩ := cut_scan text.toList
  rw [tokenize]
  cases hfault : (scan text.toList).fault with
  | none =>
      rw [hfault] at hstuck
      cases hstuck
      rw [List.append_nil] at hcut htext
      have hcovers := covers_spans hcut hgap htext
      have htokens := spansFrom_token (scan text.toList).pieces 0
      refine ⟨?_, _, htokens, hcovers⟩
      rw [← htokens, List.map_map]
      exact hcovers.positions
  | some fault =>
      rw [hfault] at hstuck
      cases hstuck with
      | @fault c rest _ hblank _ =>
          obtain ⟨before, after, hsplit, hposition, hread⟩ := tokenize_before hcut hgap htext
          rw [← hposition]
          exact ⟨lt_of_split hsplit, before, c, after, _, hsplit, rfl, hblank, hread⟩

-- Positions count bytes: the first letter and the quoted one take two each.
example : tokenize "\u00e4 = '\u00df' ! b" = .error ⟨.loneBang, 10⟩ := by decide +kernel

end Columnar.Filter
