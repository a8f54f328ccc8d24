/-
# `Text.Width` — how many terminal columns a text takes

By itself a character takes no column if it is a combining mark or the like,
two if it is a wide East Asian one or an emoji, and else one.  But characters
also join: letters to one sign, emoji to one picture, and a selector behind a
character changes how that is shown.  So a text is measured from its end to
its front, and what stands to the right of a character, as far as it can
matter, is carried along as a `Right`.
-/
import Columnar.Text.Class

namespace Columnar.Text

/-! ## What stands to the right -/

/-- Selectors: behind a character they ask for another form of it. -/
inductive Selector where
  | emoji
  | text
  /-- The wide form of a quotation mark. -/
  | wide
deriving DecidableEq, Repr

/-- Last letters of signs that letters join to. -/
inductive Joining where
  | lamed
  | buginese
  /-- The Buginese letter with its joiner and the vowel sign in front of it. -/
  | bugineseVowel
  | tifinagh
  /-- The Tifinagh letter with the mark in front of it that joins it to another. -/
  | tifinaghMarked
  | lisu
  | turkic
  | khmer
deriving DecidableEq, Repr

/-- The end of a flag that is spelled with tags: `letters` after `digits` of them were read. -/
structure Tags where
  letters : Nat
  digits : Nat
deriving DecidableEq, Repr

/-- The shape of what stands to the right. -/
inductive Shape where
  | plain
  | lineFeed
  /-- An emoji that a joiner in front of it could join to another. -/
  | emoji
  | skinTone
  /-- A joiner and an emoji. -/
  | joined
  /-- A joiner and an emoji, and in front of them the key that encloses a sign. -/
  | joinedKey
  | indicator
  | indicators
  /-- Regional indicators in front of a joiner and an emoji. -/
  | joinedIndicators (count : Nat)
  | joinedTags (tags : Tags)
  | kiratE
  | kiratAi
  | alef
  /-- The last letter of a sign, and whether a joiner stands in front of it. -/
  | letter (last : Joining) (joiner : Bool)
deriving DecidableEq, Repr

/-- What stands to the right of a character, as far as it can change its columns. -/
structure Right where
  shape : Shape
  selector : Option Selector
deriving DecidableEq, Repr

namespace Right

def plain : Right := ⟨.plain, none⟩
def ofShape (s : Shape) : Right := ⟨s, none⟩

end Right

/-- What marks do not change: the letters of a sign join across them. -/
def Shape.isLetter : Shape → Bool
  | alef | letter _ _ => true
  | _ => false

/-! ## Characters -/

/-- A joiner: the characters at its sides are to be shown as one. -/
def isJoiner (c : Char) : Bool := c = '\u200d'

/-- Marks that show as nothing and do not part the letters of a sign. -/
def isSeeThrough (c : Char) : Bool :=
  within [(0x34F, 0x34F), (0x17B4, 0x17B5), (0x180B, 0x180D), (0x180F, 0x180F), (0xFE00, 0xFE0F),
    (0xE0100, 0xE01EF)] c

/-- Arabic letters of the form of lam, which join with an alef. -/
def isLam (c : Char) : Bool :=
  within [(0x644, 0x644), (0x6B5, 0x6B8), (0x76A, 0x76A), (0x8A6, 0x8A6), (0x8C7, 0x8C7)] c

/-- Arabic letters of the form of alef. -/
def isAlef (c : Char) : Bool :=
  within [(0x622, 0x623), (0x625, 0x625), (0x627, 0x627), (0x671, 0x673), (0x675, 0x675),
    (0x773, 0x774), (0x870, 0x882)] c

/-- Tifinagh letters, two of which join to one sign. -/
def isTifinagh (c : Char) : Bool := within [(0x2D31, 0x2D65), (0x2D6F, 0x2D6F)] c

/-- Khmer letters that can be written below another letter. -/
def isKhmer (c : Char) : Bool :=
  within [(0x1780, 0x1782), (0x1784, 0x1787), (0x1789, 0x178C), (0x178E, 0x1793), (0x1795, 0x1798),
    (0x179B, 0x179D), (0x17A0, 0x17A0), (0x17A2, 0x17A2), (0x17A7, 0x17A7), (0x17AB, 0x17AC),
    (0x17AF, 0x17AF)] c

/-- Letters that name a region, two for a flag. -/
def isIndicator (c : Char) : Bool := within [(0x1F1E6, 0x1F1FF)] c

def isSkinTone (c : Char) : Bool := within [(0x1F3FB, 0x1F3FF)] c

def isTagLetter (c : Char) : Bool := within [(0xE0061, 0xE007A)] c
def isTagDigit (c : Char) : Bool := within [(0xE0030, 0xE0039)] c

/-- Quotation marks that have a wide form. -/
def isQuotation (c : Char) : Bool := within [(0x2018, 0x2019), (0x201C, 0x201D)] c

/-- Columns of a character by itself. -/
def charWidth (c : Char) : Nat :=
  if c = '\u17D8' then 3
  else if within Ranges.zeroWidth c then 0
  else if within Ranges.doubleWidth c then 2
  else 1

/-- What a character is to the one on its left. -/
def shapeOf (c : Char) : Shape :=
  if c = '\u05DC' then .letter .lamed false
  else if isAlef c then .alef
  else if isKhmer c then .letter .khmer false
  else if c = '\u1A10' then .letter .buginese false
  else if isTifinagh c then .letter .tifinagh false
  else if c = '\uA4FC' || c = '\uA4FD' then .letter .lisu false
  else if c.toNat = 0x10C03 then .letter .turkic false
  else if c.toNat = 0x16D67 then .kiratE
  else if c.toNat = 0x16D68 then .kiratAi
  else if isIndicator c then .indicator
  else if isSkinTone c then .skinTone
  else if within Ranges.emoji c then .emoji
  else .plain

/-- The selector that a character is. -/
def selectorOf? (c : Char) : Option Selector :=
  if c = '\uFE0F' then some .emoji
  else if c = '\uFE0E' then some .text
  else if c = '\uFE01' then some .wide
  else none

/-! ## Joining -/

/-- What is left of the right side when a selector comes in front of it. -/
def Shape.behind (s : Shape) (selector : Selector) : Shape :=
  match s, selector with
  | .alef, _ | .letter _ _, _ => s
  | .joined, .emoji | .joinedKey, .emoji => s
  | _, _ => .plain

/-- What is left of the right side when its selector does nothing. -/
def Right.unselected (r : Right) : Shape :=
  if r.selector.isNone || r.shape.isLetter then r.shape else .plain

/-- Columns of a character that a selector behind it changes. -/
def selected? (c : Char) (r : Right) : Option (Int × Shape) :=
  match r.selector with
  | some .emoji =>
    if within Ranges.emojiSelectable c then
      some (if r.shape = .joined || r.shape = .joinedKey then 0 else 2, .emoji)
    else none
  | some .text => if within Ranges.textSelectable c then some (1, .plain) else none
  | some .wide => if isQuotation c then some (2, .plain) else none
  | none => none

/-- Letters, and the last letter of the sign they stand in. -/
def joinLetter? (c : Char) (last : Joining) (joiner : Bool) : Option (Int × Shape) :=
  if isJoiner c then some (0, .letter last true)
  else if isSeeThrough c then some (0, .letter last joiner)
  else
    match last with
    | .lamed => if joiner && c = '\u05D0' then some (0, .plain) else none
    | .khmer => if c = '\u17D2' then some (-1, .plain) else none
    | .buginese => if joiner && c = '\u1A17' then some (0, .letter .bugineseVowel true) else none
    | .bugineseVowel => if c = '\u1A15' then some (0, .plain) else none
    | .tifinagh =>
      if c = '\u2D7F' then some (1, .letter .tifinaghMarked true)
      else if joiner && isTifinagh c then some (0, .plain)
      else none
    | .tifinaghMarked => if isTifinagh c then some (-1, .plain) else none
    | .lisu => if '\uA4F8' ≤ c && c ≤ '\uA4FB' then some (0, .plain) else none
    | .turkic => if joiner && c.toNat = 0x10C32 then some (0, .plain) else none

/-- Tags in front of a joiner and an emoji: three to six letters or three digits, which up to four
letters may follow, spell a flag. -/
def joinTag? (c : Char) (t : Tags) : Option (Int × Shape) :=
  if isTagLetter c && t.digits = 0 && t.letters < 6 then
    some (0, .joinedTags ⟨t.letters + 1, 0⟩)
  else if isTagDigit c && (if t.digits = 0 then t.letters < 5 else t.digits < 3) then
    some (0, .joinedTags ⟨t.letters, t.digits + 1⟩)
  else if c.toNat = 0x1F3F4 && (t.digits = 3 || t.digits = 0 && 3 ≤ t.letters) then some (0, .emoji)
  else none

/-- An emoji in front of a joiner and another. -/
def joinEmoji? (c : Char) : Option (Int × Shape) :=
  if c = '\u20E3' then some (0, .joinedKey)
  else if isIndicator c then some (1, .joinedIndicators 1)
  else if isSkinTone c then some (0, .skinTone)
  else if c.toNat = 0xE007F then some (0, .joinedTags ⟨0, 0⟩)
  else if within Ranges.emoji c then some (0, .emoji)
  else none

/-- Columns that a character adds to what it joins with, and what the two are to the next one on
the left. -/
def join? (c : Char) : Shape → Option (Int × Shape)
  | .plain | .lineFeed | .joinedKey => none
  | .letter last joiner => joinLetter? c last joiner
  | .alef =>
    if isLam c then some (0, .plain)
    else if charWidth c = 0 && !within Ranges.parting c then some (0, .alef)
    else none
  | .skinTone =>
    if within Ranges.skinned c then some (0, .emoji)
    else if isJoiner c then some (0, .joined)
    else none
  | .emoji => if isJoiner c then some (0, .joined) else none
  | .indicator => if isIndicator c then some (1, .indicators) else none
  | .indicators =>
    if isIndicator c then some (1, .indicators)
    else if isJoiner c then some (0, .joined)
    else none
  | .joined => joinEmoji? c
  | .joinedIndicators n =>
    if isIndicator c then some (if n % 2 = 1 then -1 else 3, .joinedIndicators (n + 1))
    else if isJoiner c && n ≠ 1 then some (0, .joined)
    else none
  | .joinedTags t => joinTag? c t
  | .kiratE =>
    if c.toNat = 0x16D63 || c.toNat = 0x16D69 then some (0, .plain)
    else if c.toNat = 0x16D67 then some (0, .kiratAi)
    else if c.toNat = 0x16D68 then some (1, .kiratE)
    else none
  | .kiratAi => if c.toNat = 0x16D63 then some (0, .plain) else none

/-- Columns of a character in front of what stands to its right, and what the two are to the next
one on the left. -/
def step (c : Char) (r : Right) : Int × Right :=
  match selected? c r with
  | some (columns, shape) => (columns, .ofShape shape)
  | none =>
    let shape := r.unselected
    if c ≤ '\xA0' then
      if c = '\n' then (1, .ofShape .lineFeed)
      else if c = '\r' && shape = .lineFeed then (0, .plain)
      else (1, .plain)
    else
      match selectorOf? c with
      | some selector => (0, ⟨shape.behind selector, some selector⟩)
      | none =>
        match join? c shape with
        | some (columns, shape) => (columns, .ofShape shape)
        | none => (charWidth c, .ofShape (shapeOf c))

/-! ## Texts -/

/-- Columns of a text. -/
def width (s : String) : Nat :=
  (s.toList.foldr
    (fun c (total, right) => let (columns, right) := step c right; (total + columns, right))
    ((0 : Int), Right.plain)).1.toNat

end Columnar.Text
