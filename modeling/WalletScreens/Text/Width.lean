import WalletScreens.Text.Tables

/-!
How many terminal columns a text takes.

A character alone takes zero, one or two columns.  A text is read from its end, and a
character may take fewer or more columns because of what follows it: a carriage return before
a line feed, the parts of an emoji sequence, the letters of a ligature.  `Follow` is what the
reading remembers of the text to the right.  Everything up to U+00A0 forgets it, so ordinary
characters add one column each wherever they stand.
-/

namespace WalletScreens.Text

open Tables

private def between (low high : Nat) (c : Char) : Bool :=
  low ≤ c.toNat && c.toNat ≤ high

def isZeroWidth (c : Char) : Bool :=
  let code := c.toNat
  if code == 0x115F || code == 0x2D7F then false
  else
    graphemeExtend.holds c || defaultIgnorable.holds c || hangulTail.holds c ||
      [0x0605, 0x070F, 0x0890, 0x0891, 0x08E2, 0x0CC0, 0x0CC7, 0x0CC8, 0x0CCA, 0x0CCB,
        0x1B3B, 0x1B3D, 0x1B43, 0xA8FA].contains code

def printedWidth (c : Char) : Nat :=
  if c.toNat ≤ 0xA0 then 1
  else if c.toNat == 0x17D8 then 3
  else if c.toNat == 0x17A4 then 2
  else if isZeroWidth c then 0
  else if eastAsianWide.holds c then 2
  else 1

/-- Controls have no width of their own. -/
def isControl (c : Char) : Bool :=
  c.toNat < 0x20 || between 0x7F 0x9F c

def charWidth (c : Char) : Nat :=
  if isControl c then 0 else printedWidth c

theorem charWidth_of_beyond {c : Char} (beyond : 0xA0 < c.toNat) :
    charWidth c = printedWidth c := by
  have printed : isControl c = false := by
    simp only [isControl, between, Bool.or_eq_false_iff, decide_eq_false_iff_not,
      Bool.and_eq_false_iff]
    omega
  rw [charWidth, printed, if_neg Bool.false_ne_true]

/-- No character without width is among the Khmer letters, the symbols and the pictographs. -/
theorem charWidth_pos_of_shown {c : Char}
    (shown : 0x1780 ≤ c.toNat ∧ c.toNat ≤ 0x17AF ∨ 0x231A ≤ c.toNat ∧ c.toNat ≤ 0x2B55 ∨
      0x1F004 ≤ c.toNat ∧ c.toNat ≤ 0x1FAFF) : 0 < charWidth c := by
  have visible : isZeroWidth c = false := by
    rcases shown with ⟨above, below⟩ | ⟨above, below⟩ | ⟨above, below⟩
    all_goals
      have extend : graphemeExtend.holds c = false :=
        CodeRanges.holds_eq_false (by decide +kernel) above below
      have ignorable : defaultIgnorable.holds c = false :=
        CodeRanges.holds_eq_false (by decide +kernel) above below
      have tail : hangulTail.holds c = false :=
        CodeRanges.holds_eq_false (by decide +kernel) above below
      simp [isZeroWidth, extend, ignorable, tail]
      omega
  rw [charWidth_of_beyond (by omega), printedWidth, visible]
  repeat' split
  all_goals first | contradiction | exact Nat.succ_pos _

/-- What a reading from the right remembers of the text that follows. -/
inductive Follow where
  | plain
  | lineFeed
  | skinTone
  | regional
  | regionals
  | emoji
  | joinedEmoji
  | joinedKeycap
  | joinedRegional
  | joinedEven
  | joinedOdd
  | tagLetters (count : Nat)
  | tagDigits (count : Nat)
  | kiratE
  | kiratAi
  | alef
  | lamed (joined : Bool)
  | buginese (joined : Bool)
  | bugineseVowel
  | tifinagh (joined : Bool)
  | tifinaghJoiner
  | lisuTone
  | orkhon (joined : Bool)
  | khmerLetter
deriving DecidableEq, Repr

inductive Selector where
  | emoji
  | text
deriving DecidableEq, Repr

structure Ahead where
  follow : Follow := .plain
  selector : Option Selector := none
deriving DecidableEq, Repr

namespace Follow

/-- Letters whose ligature survives a variation selector. -/
def inLigature : Follow → Bool
  | .alef | .lamed _ | .buginese _ | .bugineseVowel | .tifinagh _ | .tifinaghJoiner
  | .lisuTone | .orkhon _ | .khmerLetter => true
  | _ => false

/-- Letters whose ligature survives any ignorable mark. -/
def transparent : Follow → Bool
  | .alef => false
  | follow => follow.inLigature

/-- Emoji with a joiner before them. -/
def joins : Follow → Bool
  | .joinedEmoji | .joinedKeycap => true
  | _ => false

/-- A joiner before a letter that may form a ligature. -/
def withJoiner : Follow → Follow
  | .lamed _ => .lamed true
  | .buginese _ => .buginese true
  | .tifinagh _ => .tifinagh true
  | .orkhon _ => .orkhon true
  | follow => follow

end Follow

/-- A selector set before `follow`, which is forgotten unless a sequence can go on. -/
def Ahead.select (follow : Follow) (selector : Selector) : Ahead :=
  if follow.inLigature || follow.joins then ⟨follow, some selector⟩ else ⟨.plain, some selector⟩

/-- What is left of a selector that the character before it does not take. -/
def Ahead.unselected (ahead : Ahead) : Follow :=
  match ahead.selector with
  | none => ahead.follow
  | some _ => if ahead.follow.inLigature then ahead.follow else .plain

private def isRegional (c : Char) : Bool := between 0x1F1E6 0x1F1FF c

theorem charWidth_pos_of_isRegional {c : Char} (regional : isRegional c = true) :
    0 < charWidth c := by
  simp only [isRegional, between, Bool.and_eq_true, decide_eq_true_eq] at regional
  exact charWidth_pos_of_shown (by omega)

private def isSkinTone (c : Char) : Bool := between 0x1F3FB 0x1F3FF c

private def isLam (c : Char) : Bool :=
  c.toNat == 0x644 || between 0x6B5 0x6B8 c || [0x76A, 0x8A6, 0x8C7].contains c.toNat

private def isAlef (c : Char) : Bool :=
  [0x622, 0x623, 0x625, 0x627, 0x675, 0x773, 0x774].contains c.toNat ||
    between 0x671 0x673 c || between 0x870 0x882 c

private def isTransparentMark (c : Char) : Bool :=
  (graphemeExtend.holds c || defaultIgnorable.holds c) && !between 0x200C 0x200D c

private def isTifinagh (c : Char) : Bool :=
  between 0x2D31 0x2D65 c || c.toNat == 0x2D6F

private def isKhmerLetter (c : Char) : Bool :=
  CodeRanges.holds [(0x1780, 0x1782), (0x1784, 0x1787), (0x1789, 0x178C), (0x178E, 0x1793),
    (0x1795, 0x1798), (0x179B, 0x179D), (0x17A0, 0x17A0), (0x17A2, 0x17A2), (0x17A7, 0x17A7),
    (0x17AB, 0x17AC), (0x17AF, 0x17AF)] c

theorem charWidth_pos_of_isKhmerLetter {c : Char} (letter : isKhmerLetter c = true) :
    0 < charWidth c := by
  obtain ⟨range, member, above, below⟩ := CodeRanges.holds_iff.mp letter
  have letters : 0x1780 ≤ range.1 ∧ range.2 ≤ 0x17AF := by
    clear above below
    decide +revert
  exact charWidth_pos_of_shown (by omega)

/-- Columns of a character above U+00A0 that joins nothing, and what it leaves to its left. -/
def alone (c : Char) : Int × Follow :=
  let code := c.toNat
  let width : Int := printedWidth c
  if code == 0x05DC then (width, .lamed false)
  else if isAlef c then (width, .alef)
  else if isKhmerLetter c then (width, .khmerLetter)
  else if code == 0x1A10 then (width, .buginese false)
  else if isTifinagh c then (width, .tifinagh false)
  else if between 0xA4FC 0xA4FD c then (width, .lisuTone)
  else if code == 0x10C03 then (width, .orkhon false)
  else if code == 0x16D67 then (width, .kiratE)
  else if code == 0x16D68 then (width, .kiratAi)
  else if isRegional c then (width, .regional)
  else if isSkinTone c then (width, .skinTone)
  else if emojiPresentation.holds c then (width, .emoji)
  else (width, .plain)

/-- Nothing of East Asian writing has a part in a ligature or a sequence. -/
theorem alone_of_eastAsian {c : Char}
    (letter : 0x1100 ≤ c.toNat ∧ c.toNat ≤ 0x115F ∨ 0x2E80 ≤ c.toNat ∧ c.toNat ≤ 0xA4CF ∨
      0xA960 ≤ c.toNat ∧ c.toNat ≤ 0xFFE6 ∨ 0x16FE0 ≤ c.toNat ∧ c.toNat ≤ 0x1D376 ∨
      0x20000 ≤ c.toNat)
    (text : emojiPresentation.holds c = false) : alone c = (↑(printedWidth c), .plain) := by
  have alef : isAlef c = false := by simp [isAlef, between]; omega
  have khmer : isKhmerLetter c = false := by simp [isKhmerLetter, CodeRanges.holds]; omega
  have tifinagh : isTifinagh c = false := by simp [isTifinagh, between]; omega
  have tone : between 0xA4FC 0xA4FD c = false := by simp [between]; omega
  have regional : isRegional c = false := by simp [isRegional, between]; omega
  have skin : isSkinTone c = false := by simp [isSkinTone, between]; omega
  simp only [alone, alef, khmer, tifinagh, tone, regional, skin, text, Bool.false_eq_true,
    if_false, beq_iff_eq]
  rw [if_neg (by omega), if_neg (by omega), if_neg (by omega), if_neg (by omega),
    if_neg (by omega)]

/-- Columns of a character above U+00A0 that joins what follows it, where it does. -/
def joined (c : Char) (follow : Follow) : Option (Int × Follow) :=
  let code := c.toNat
  match follow with
  | .plain | .lineFeed => none
  | .alef =>
      if isLam c then some (0, .plain)
      else if isTransparentMark c then some (0, .alef) else none
  | .lamed true => if code == 0x05D0 then some (0, .plain) else none
  | .khmerLetter => if code == 0x17D2 then some (-1, .plain) else none
  | .buginese true => if code == 0x1A17 then some (0, .bugineseVowel) else none
  | .bugineseVowel => if code == 0x1A15 then some (0, .plain) else none
  | .tifinagh joiner =>
      if code == 0x2D7F then some (1, .tifinaghJoiner)
      else if joiner && isTifinagh c then some (0, .plain) else none
  | .tifinaghJoiner => if isTifinagh c then some (-1, .plain) else none
  | .lisuTone => if between 0xA4F8 0xA4FB c then some (0, .plain) else none
  | .orkhon true => if code == 0x10C32 then some (0, .plain) else none
  | .lamed false | .buginese false | .orkhon false => none
  | .skinTone =>
      if emojiModifierBase.holds c then some (0, .emoji)
      else if code == 0x200D then some (0, .joinedEmoji) else none
  | .regional => if isRegional c then some (1, .regionals) else none
  | .regionals =>
      if isRegional c then some (1, .regionals)
      else if code == 0x200D then some (0, .joinedEmoji) else none
  | .emoji => if code == 0x200D then some (0, .joinedEmoji) else none
  | .joinedEmoji =>
      if code == 0x20E3 then some (0, .joinedKeycap)
      else if isRegional c then some (1, .joinedRegional)
      else if isSkinTone c then some (0, .skinTone)
      else if code == 0xE007F then some (0, .tagLetters 0)
      else if emojiPresentation.holds c then some (0, .emoji) else none
  | .joinedKeycap => none
  | .joinedRegional => if isRegional c then some (-1, .joinedEven) else none
  | .joinedOdd =>
      if isRegional c then some (-1, .joinedEven)
      else if code == 0x200D then some (0, .joinedEmoji) else none
  | .joinedEven =>
      if isRegional c then some (3, .joinedOdd)
      else if code == 0x200D then some (0, .joinedEmoji) else none
  | .tagLetters count =>
      if between 0xE0061 0xE007A c && count < 6 then some (0, .tagLetters (count + 1))
      else if between 0xE0030 0xE0039 c && count < 5 then some (0, .tagDigits 1)
      else if code == 0x1F3F4 && 3 ≤ count then some (0, .emoji) else none
  | .tagDigits count =>
      if between 0xE0030 0xE0039 c && count < 3 then some (0, .tagDigits (count + 1))
      else if code == 0x1F3F4 && count == 3 then some (0, .emoji) else none
  | .kiratE =>
      if code == 0x16D63 || code == 0x16D69 then some (0, .plain)
      else if code == 0x16D67 then some (0, .kiratAi)
      else if code == 0x16D68 then some (1, .kiratE) else none
  | .kiratAi => if code == 0x16D63 then some (0, .plain) else none

/-- A step above U+00A0 once no selector is pending. -/
def beyondLatin (c : Char) (follow : Follow) : Int × Ahead :=
  let code := c.toNat
  if code == 0xFE0F then (0, .select follow .emoji)
  else if code == 0xFE0E then (0, .select follow .text)
  else if follow.transparent && code == 0x200D then (0, ⟨follow.withJoiner, none⟩)
  else if follow.transparent && ligatureTransparent.holds c then (0, ⟨follow, none⟩)
  else
    let (columns, next) := (joined c follow).getD (alone c)
    (columns, ⟨next, none⟩)

/-- Columns up to U+00A0: one each, but a line break of two characters takes one in all. -/
def latinStep (c : Char) (follow : Follow) : Int × Ahead :=
  if c == '\n' then (1, ⟨.lineFeed, none⟩)
  else if c == '\r' && follow == .lineFeed then (0, {})
  else (1, {})

/-- Characters of the Enclosed Ideographic Supplement keep their width as text. -/
private def takesTextSelector (c : Char) : Bool :=
  presentationBase.holds c && (emojiPresentation.holds c) && !between 0x1F200 0x1F2FF c

theorem charWidth_pos_of_takesTextSelector {c : Char} (takes : takesTextSelector c = true) :
    0 < charWidth c := by
  have symbols : ∀ range ∈ emojiPresentation,
      0x231A ≤ range.1 ∧ range.2 ≤ 0x2B55 ∨ 0x1F004 ≤ range.1 ∧ range.2 ≤ 0x1FAFF := by
    decide +kernel
  simp only [takesTextSelector, Bool.and_eq_true] at takes
  obtain ⟨range, member, above, below⟩ := CodeRanges.holds_iff.mp takes.1.2
  have symbol := symbols range member
  exact charWidth_pos_of_shown (by omega)

/-- The columns a character adds to the text on its right, and the memory it leaves. -/
def widthStep (c : Char) (ahead : Ahead) : Int × Ahead :=
  if ahead.selector = some .emoji ∧ presentationBase.holds c = true then
    (if ahead.follow.joins then 0 else 2, ⟨.emoji, none⟩)
  else if ahead.selector = some .text ∧ takesTextSelector c = true then (1, {})
  else if c.toNat ≤ 0xA0 then latinStep c ahead.unselected
  else beyondLatin c ahead.unselected

def scanWidth : List Char → Nat × Ahead
  | [] => (0, {})
  | c :: rest =>
      let (columns, ahead) := scanWidth rest
      let (added, next) := widthStep c ahead
      ((columns + added).toNat, next)

/-- Columns of a text, its control characters counted as one each. -/
def width (chars : List Char) : Nat :=
  (scanWidth chars).1

end WalletScreens.Text
