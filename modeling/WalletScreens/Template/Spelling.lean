import WalletScreens.Text.Digits
import WalletScreens.Text.Surrogate

/-!
What stands between the quotes of a text, and the characters it spells.

A backslash begins an escape.  One before a character that needs none stands for itself.
Surrogates may be spelled one at a time, as long as each has its partner next to it.
-/

namespace WalletScreens.Template.Spelling

open Text

inductive Part where
  | char (c : Char)
  | surrogate (unit : Nat)
deriving DecidableEq, Repr

def isOctal (c : Char) : Bool :=
  (digitIn? 8 c).isSome

/-- The parts of an escape after its backslash, and how many characters it takes. -/
def escape (input : List Char) : Option (List Part × Nat) :=
  match input with
  | [] => none
  | 'b' :: _ => some ([.char '\x08'], 1)
  | 'f' :: _ => some ([.char '\x0c'], 1)
  | 'n' :: _ => some ([.char '\n'], 1)
  | 'r' :: _ => some ([.char '\r'], 1)
  | 't' :: _ => some ([.char '\t'], 1)
  | 'u' :: rest =>
      if rest.length < 4 then none
      else
        (naturalIn? 16 0xFFFF (rest.take 4)).map fun unit =>
          ([if isLeadSurrogate unit || isTrailSurrogate unit then .surrogate unit
            else .char (Char.ofNat unit)], 5)
  | 'x' :: rest =>
      if rest.length < 2 then none
      else (naturalIn? 16 0xFF (rest.take 2)).map fun code => ([.char (Char.ofNat code)], 3)
  | c :: rest =>
      if c = '"' ∨ c = '\'' ∨ c = '\\' ∨ c = '/' then some ([.char c], 1)
      else if isOctal c then
        let digits := c :: (rest.take 2).takeWhile isOctal
        (naturalIn? 8 0xFF digits).map fun code =>
          ([.char (Char.ofNat code)], digits.length)
      else some ([.char '\\', .char c], 1)

/-- The parts that a text spells, once `passed` more characters are left out. -/
def parts : Nat → List Char → Option (List Part)
  | _, [] => some []
  | passed + 1, _ :: rest => parts passed rest
  | 0, c :: rest =>
      if c = '\\' then
        match escape rest with
        | none => none
        | some (spelled, taken) => (parts taken rest).map (spelled ++ ·)
      else (parts 0 rest).map (.char c :: ·)

/-- The characters of parts in which every surrogate has its partner. -/
def join : List Part → Option (List Char)
  | [] => some []
  | .char c :: rest => (join rest).map (c :: ·)
  | .surrogate lead :: .surrogate trail :: rest =>
      if isLeadSurrogate lead && isTrailSurrogate trail then
        (join rest).map (pairSurrogates lead trail :: ·)
      else none
  | .surrogate _ :: _ => none

def read? (chars : List Char) : Option (List Char) :=
  (parts 0 chars).bind join

end WalletScreens.Template.Spelling
