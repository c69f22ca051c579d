import WalletScreens.Number.Binary
import WalletScreens.Text.Digits
import WalletScreens.Text.Surrogate

/-!
The lexical part of JSON: blanks, words, strings and numbers, read from the front of a text.

Every scan gives what it read and the text after it, or the first fault it meets.  A fault is
one of three kinds: the text ends too early, it is not JSON, or it is JSON of another shape
than was asked for.  A string scan leaves the decoding of escapes to its argument, so that a
skipped string and a read string share it.
-/

namespace WalletScreens.Json

open Number Text

/-- The kind of the first problem met while reading from left to right. -/
inductive Fault where
  | malformed
  | mismatch
  | truncated
deriving DecidableEq, Repr

/-- A scan from the front of a text: what it read, and the text after it. -/
abbrev Reader (α : Type) := List Char → Except Fault (α × List Char)

def isBlank (c : Char) : Bool :=
  c == ' ' || c == '\n' || c == '\t' || c == '\r'

def skipBlanks (input : List Char) : List Char :=
  input.dropWhile isBlank

def word : List Char → List Char → Except Fault (List Char)
  | [], input => .ok input
  | _ :: _, [] => .error .truncated
  | expected :: letters, c :: rest =>
      if c = expected then word letters rest else .error .malformed

/-- The value of the four digits at the front.  Four bytes have to be there before any of them
is looked at. -/
def hexQuad (input : List Char) : Except Fault Nat :=
  match input with
  | a :: b :: c :: d :: _ =>
      match digitsFrom 16 0 [a, b, c, d] with
      | some code => .ok code
      | none => .error .malformed
  | _ =>
      if (String.ofList input).utf8ByteSize < 4 then .error .truncated else .error .malformed

def simpleEscape? (c : Char) : Option Char :=
  match c with
  | '"' => some '"'
  | '\\' => some '\\'
  | '/' => some '/'
  | 'b' => some '\x08'
  | 'f' => some '\x0c'
  | 'n' => some '\n'
  | 'r' => some '\r'
  | 't' => some '\t'
  | _ => none

/-- The character of a numbered escape after its letter, and how many characters it takes.
A lead surrogate needs the escape of a trail surrogate directly after it. -/
def numberedEscape (input : List Char) : Except Fault (Char × Nat) := do
  let unit ← hexQuad input
  if isTrailSurrogate unit then .error .malformed
  else if isLeadSurrogate unit then
    match input.drop 4 with
    | [] => .error .truncated
    | '\\' :: [] => .error .truncated
    | '\\' :: 'u' :: rest =>
        let trail ← hexQuad rest
        if isTrailSurrogate trail then .ok (pairSurrogates unit trail, 10)
        else .error .malformed
    | _ => .error .malformed
  else .ok (Char.ofNat unit, 4)

def escape (input : List Char) : Except Fault (Char × Nat) :=
  match input with
  | [] => .error .truncated
  | 'u' :: rest => (numberedEscape rest).map fun decoded => (decoded.1, decoded.2 + 1)
  | c :: _ =>
      match simpleEscape? c with
      | some decoded => .ok (decoded, 1)
      | none => .error .malformed

/-- Like `escape`, but surrogates need no partner, since nobody looks at the character. -/
def skippedEscape (input : List Char) : Except Fault (Char × Nat) :=
  match input with
  | [] => .error .truncated
  | 'u' :: rest => (hexQuad rest).map fun _ => ('u', 5)
  | c :: _ =>
      match simpleEscape? c with
      | some decoded => .ok (decoded, 1)
      | none => .error .malformed

/-- The rest of a string whose opening quote has been read, once `passed` more characters are
left out. -/
def stringAfter (decode : List Char → Except Fault (Char × Nat)) :
    Nat → List Char → Except Fault (List Char × List Char)
  | _, [] => .error .truncated
  | passed + 1, _ :: rest => stringAfter decode passed rest
  | 0, c :: rest =>
      if c = '"' then .ok ([], rest)
      else if c = '\\' then
        match decode rest with
        | .error fault => .error fault
        | .ok (decoded, taken) =>
            (stringAfter decode taken rest).map fun read => (decoded :: read.1, read.2)
      else if c.toNat < 0x20 then .error .malformed
      else (stringAfter decode 0 rest).map fun read => (c :: read.1, read.2)

def string (input : List Char) : Except Fault (String × List Char) :=
  (stringAfter escape 0 input).map fun read => (String.ofList read.1, read.2)

def skipString (input : List Char) : Except Fault (List Char) :=
  (stringAfter skippedEscape 0 input).map Prod.snd

def isDigit (c : Char) : Bool :=
  '0'.toNat ≤ c.toNat && c.toNat ≤ '9'.toNat

/-- A number as it is written, its leading digits in a word and a power of ten. -/
structure Literal where
  significand : Nat
  exponent : Int
  whole : Bool
deriving DecidableEq, Repr

namespace Literal

/-- Digits before the point.  Those that no longer fit a word only raise the power of ten. -/
def integerDigits (significand dropped : Nat) : List Char → Nat × Nat
  | [] => (significand, dropped)
  | c :: rest =>
      let next := significand * 10 + (c.toNat - '0'.toNat)
      if dropped = 0 ∧ next ≤ wordLimit then integerDigits next 0 rest
      else integerDigits significand (dropped + 1) rest

/-- Digits after the point, up to the first that no longer fits a word. -/
def fractionDigits (significand taken : Nat) : List Char → Nat × Nat
  | [] => (significand, taken)
  | c :: rest =>
      let next := significand * 10 + (c.toNat - '0'.toNat)
      if next ≤ wordLimit then fractionDigits next (taken + 1) rest else (significand, taken)

def power (input : List Char) : Except Fault (Int × List Char) :=
  let (negative, input) := match input with
    | '+' :: rest => (false, rest)
    | '-' :: rest => (true, rest)
    | _ => (false, input)
  match input with
  | [] => .error .truncated
  | c :: _ =>
      if isDigit c then
        let digits := input.takeWhile isDigit
        let value := digits.foldl (fun read c => read * 10 + (c.toNat - '0'.toNat)) 0
        .ok (if negative then -(value : Int) else value, input.dropWhile isDigit)
      else .error .malformed

def withPower (literal : Literal) (input : List Char) : Except Fault (Literal × List Char) :=
  match input with
  | c :: rest =>
      if c = 'e' ∨ c = 'E' then
        (power rest).map fun read =>
          ({ literal with exponent := literal.exponent + read.1, whole := false }, read.2)
      else .ok (literal, input)
  | [] => .ok (literal, [])

def withFraction (literal : Literal) (input : List Char) : Except Fault (Literal × List Char) :=
  match input with
  | '.' :: rest =>
      let digits := rest.takeWhile isDigit
      match digits, rest with
      | [], [] => .error .truncated
      | [], _ :: _ => .error .malformed
      | _, _ =>
          let (significand, taken) := fractionDigits literal.significand 0 digits
          withPower ⟨significand, literal.exponent - taken, false⟩ (rest.dropWhile isDigit)
  | _ => withPower literal input

def scan (input : List Char) : Except Fault (Literal × List Char) :=
  match input with
  | [] => .error .truncated
  | c :: rest =>
      if c = '0' then
        match rest with
        | next :: _ =>
            if isDigit next then .error .malformed else withFraction ⟨0, 0, true⟩ rest
        | [] => .ok (⟨0, 0, true⟩, [])
      else if isDigit c then
        let (significand, dropped) := integerDigits 0 0 (input.takeWhile isDigit)
        withFraction ⟨significand, dropped, dropped = 0⟩ (input.dropWhile isDigit)
      else .error .malformed

/-- A value divided by a power of ten that the format holds, or multiplied by it, with each
step rounded. -/
def scaleOnce (value : Binary) (exponent : Int) : Option Binary :=
  match BinaryFormat.double.round false (Nat.pow 10 exponent.natAbs) 1 with
  | none => none
  | some factor =>
      let (num, den) := value.ratio
      let (scale, unit) := factor.ratio
      if 0 ≤ exponent then BinaryFormat.double.round false (num * scale) (den * unit)
      else BinaryFormat.double.round false (num * unit) (den * scale)

/-- Scales down by 10 ^ 308 as often as the exponent needs it; scaling up past it fails. -/
def scale : Nat → Binary → Int → Option Binary
  | 0, value, exponent => scaleOnce value exponent
  | fuel + 1, value, exponent =>
      if value.isZero then some value
      else if 308 < exponent then none
      else if exponent < -308 then
        (scaleOnce value (-308)).bind fun smaller => scale fuel smaller (exponent + 308)
      else scaleOnce value exponent

/-- The 64-bit value of a literal: its significand rounded, then scaled; none when it is too
great. -/
def toBinary? (negative : Bool) (literal : Literal) : Option Binary :=
  (BinaryFormat.double.round false literal.significand 1).bind fun value =>
    (scale 3 value literal.exponent).map fun scaled => { scaled with negative := negative }

end Literal

def skipExponent (input : List Char) : Except Fault (List Char) :=
  let input := match input with
    | '+' :: rest => rest
    | '-' :: rest => rest
    | _ => input
  match input with
  | c :: _ => if isDigit c then .ok (input.dropWhile isDigit) else .error .malformed
  | [] => .error .malformed

def skipPower (input : List Char) : Except Fault (List Char) :=
  match input with
  | 'e' :: rest => skipExponent rest
  | 'E' :: rest => skipExponent rest
  | _ => .ok input

def skipFraction (input : List Char) : Except Fault (List Char) :=
  match input with
  | '.' :: rest =>
      match rest with
      | c :: _ => if isDigit c then skipPower (rest.dropWhile isDigit) else .error .malformed
      | [] => .error .malformed
  | _ => skipPower input

/-- Like `Literal.scan`, but nothing is looked at that does not tell where the number ends. -/
def skipNumber (input : List Char) : Except Fault (List Char) :=
  match input with
  | [] => .error .malformed
  | c :: rest =>
      if c = '0' then
        match rest with
        | next :: _ => if isDigit next then .error .malformed else skipFraction rest
        | [] => .ok []
      else if isDigit c then skipFraction (input.dropWhile isDigit)
      else .error .malformed

end WalletScreens.Json
