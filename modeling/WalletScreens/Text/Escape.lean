/-!
Terminal escape sequences inside a text, and the text without them.

A sequence starts at ESC or at its eight-bit form CSI.  `Progress` is a finite automaton over
the characters after the start; the longest run that ends in an accepted state is the
sequence.  A start after which no run is accepted is an ordinary character.
-/

namespace WalletScreens.Text.Escape

/-- How much of a sequence has been read. -/
inductive Progress where
  | started
  | charset
  | designated
  | opened
  | digits (count : Nat)
  | separated
  | finished
deriving DecidableEq, Repr

/-- ESC, or the single character that stands for ESC and a bracket. -/
def isStart (c : Char) : Bool :=
  c == '\x1b' || c == '\u009b'

private def inRange (low high c : Char) : Bool :=
  low.toNat ≤ c.toNat && c.toNat ≤ high.toNat

/-- Letters and signs that end a sequence. -/
def isFinalByte (c : Char) : Bool :=
  inRange 'A' 'P' c || inRange 'f' 'n' c ||
    ['R', 'Z', 'c', 'q', 'r', 'y', '=', '>', '<'].contains c

namespace Progress

def accepted : Progress → Bool
  | .designated | .digits _ | .finished => true
  | _ => false

/-- A parameter has at most five digits, the fifth of which ends the sequence. -/
def digit (low : Bool) : Progress → Option Progress
  | .started | .opened | .separated => some (.digits 1)
  | .charset => some (if low then .designated else .digits 1)
  | .digits count => if count < 5 then some (.digits (count + 1)) else none
  | .designated | .finished => none

/-- The state after one more character; none when no sequence goes on with it. -/
def step (progress : Progress) (c : Char) : Option Progress :=
  if inRange '0' '2' c then progress.digit true
  else if inRange '3' '9' c then progress.digit false
  else if c == ';' then
    match progress with
    | .started | .charset | .opened => some .opened
    | .digits count => if count < 5 then some .separated else none
    | .separated => some .separated
    | .designated | .finished => none
  else if c == '[' || c == '#' || c == '?' then
    match progress with
    | .started | .charset | .opened => some .opened
    | _ => none
  else if c == '(' || c == ')' then
    match progress with
    | .started => some .charset
    | .charset | .opened => some .opened
    | _ => none
  else if isFinalByte c then
    match progress with
    | .started | .charset | .opened | .separated => some .finished
    | .digits count => if count < 5 then some .finished else none
    | .designated | .finished => none
  else none

end Progress

/-- How many of the characters belong to the longest sequence that goes on from `progress`. -/
def remaining (progress : Progress) : List Char → Option Nat
  | [] => if progress.accepted then some 0 else none
  | c :: rest =>
      match (progress.step c).bind fun next => remaining next rest with
      | some count => some (count + 1)
      | none => if progress.accepted then some 0 else none

/-- The characters without escape sequences, once `skipped` more of them are left out. -/
def stripAfter : Nat → List Char → List Char
  | _, [] => []
  | skipped + 1, _ :: rest => stripAfter skipped rest
  | 0, c :: rest =>
      if isStart c then
        match remaining .started rest with
        | some count => stripAfter count rest
        | none => c :: stripAfter 0 rest
      else c :: stripAfter 0 rest

def strip (chars : List Char) : List Char :=
  stripAfter 0 chars

end WalletScreens.Text.Escape
