import WalletScreens.Template.Numeral
import WalletScreens.Template.Spelling
import WalletScreens.Text.Blank

/-!
The tokens of a template.

A source is literal text with holes, blocks and comments in it.  A minus sign on the inside of
a bracket removes the blanks on its outside.  Whatever is no token ends the tokens as a broken
one, so that what stands before it is still judged first.
-/

namespace WalletScreens.Template

open Text

inductive Fault where
  | templateNotFound
  | malformed
  | badEscape
  | unknownFilter
  | missingArgument
  | tooManyArguments
  | invalidOperation
  | undefinedValue
  | cannotUnpack
  | themeless
deriving DecidableEq, Repr

inductive Bracket where
  | hole
  | block
  | comment
deriving DecidableEq, Repr

inductive Token where
  | literal (text : String)
  | enter (bracket : Bracket)
  | leave (bracket : Bracket)
  | name (name : String)
  | text (text : String)
  | number (value : Numeral)
  | minus
  | tilde
  | pipe
  | comma
  | dot
  | equals
  | star
  | doubleStar
  | opening
  | closing
  | listOpening
  | listClosing
  | broken (fault : Fault)
deriving DecidableEq, Repr

namespace Bracket

def ofChar? (c : Char) : Option Bracket :=
  if c = '{' then some .hole
  else if c = '%' then some .block
  else if c = '#' then some .comment
  else none

def lastChar : Bracket → Char
  | .hole => '}'
  | .block => '%'
  | .comment => '#'

/-- Whether the end of the bracket trims, and the source after it, where the source is at that
end. -/
def closing? (bracket : Bracket) : List Char → Option (Bool × List Char)
  | '-' :: c :: '}' :: rest => if c = bracket.lastChar then some (true, rest) else none
  | '+' :: c :: '}' :: rest => if c = bracket.lastChar then some (false, rest) else none
  | c :: '}' :: rest => if c = bracket.lastChar then some (false, rest) else none
  | _ => none

end Bracket

namespace Token

def isNameStart (c : Char) : Bool :=
  c.isAlpha || c == '_'

def isNamePart (c : Char) : Bool :=
  c.isAlphanum || c == '_'

def isSpace (c : Char) : Bool :=
  c == ' ' || c == '\t' || c == '\n' || c == '\r' || c == '\x0c'

def untilQuote (quote : Char) : List Char → Option (List Char × List Char)
  | [] => none
  | '\\' :: c :: rest => (untilQuote quote rest).map fun read => ('\\' :: c :: read.1, read.2)
  | c :: rest =>
      if c = quote then some ([], rest)
      else (untilQuote quote rest).map fun read => (c :: read.1, read.2)

def ofQuoted (quote : Char) (input : List Char) : Token × List Char :=
  match untilQuote quote input with
  | none => (.broken .malformed, [])
  | some (chars, rest) =>
      match Spelling.read? chars with
      | some spelled => (.text (String.ofList spelled), rest)
      | none => (.broken .badEscape, [])

def ofNumeral (input : List Char) : Token × List Char :=
  match Numeral.read input with
  | (some value, rest) => (.number value, rest)
  | (none, _) => (.broken .malformed, [])

def ofSign (input : List Char) : Token × List Char :=
  match input with
  | '-' :: rest => (.minus, rest)
  | '~' :: rest => (.tilde, rest)
  | '|' :: rest => (.pipe, rest)
  | ',' :: rest => (.comma, rest)
  | '.' :: rest => (.dot, rest)
  | '=' :: rest => (.equals, rest)
  | '*' :: '*' :: rest => (.doubleStar, rest)
  | '*' :: rest => (.star, rest)
  | '(' :: rest => (.opening, rest)
  | ')' :: rest => (.closing, rest)
  | '[' :: rest => (.listOpening, rest)
  | ']' :: rest => (.listClosing, rest)
  | _ => (.broken .malformed, [])

def next (input : List Char) : Token × List Char :=
  match input with
  | [] => (.broken .malformed, [])
  | c :: rest =>
      if isNameStart c then
        (.name (String.ofList (input.takeWhile isNamePart)), input.dropWhile isNamePart)
      else if c.isDigit then ofNumeral input
      else if c = '"' ∨ c = '\'' then ofQuoted c rest
      else ofSign input

def untilBracket : List Char → List Char × Option (Bracket × List Char)
  | [] => ([], none)
  | '{' :: c :: rest =>
      match Bracket.ofChar? c with
      | some bracket => ([], some (bracket, rest))
      | none =>
          let (chars, found) := untilBracket (c :: rest)
          ('{' :: chars, found)
  | c :: rest =>
      let (chars, found) := untilBracket rest
      (c :: chars, found)

/-- Whether the end of a comment trims, and the source after it. -/
def afterComment : List Char → Option (Bool × List Char)
  | [] => none
  | '-' :: '#' :: '}' :: rest => some (true, rest)
  | '#' :: '}' :: rest => some (false, rest)
  | _ :: rest => afterComment rest

def ofText (chars : List Char) : List Token :=
  if chars.isEmpty then [] else [.literal (String.ofList chars)]

/-- Where in a source tokens are looked for; outside of brackets the blanks at the start may be
left out. -/
inductive Place where
  | outside (trims : Bool)
  | inside (bracket : Bracket)
deriving DecidableEq

/-- The tokens of what is left of a source.  Each step takes a character at least. -/
def scan : Nat → Place → List Char → List Token
  | 0, _, _ => []
  | fuel + 1, .outside trims, input =>
      match untilBracket (if trims then trimStart input else input) with
      | (chars, none) => ofText chars
      | (chars, some (bracket, rest)) =>
          let (chars, rest) := match rest with
            | '-' :: rest => (trimEnd chars, rest)
            | '+' :: rest => (chars, rest)
            | _ => (chars, rest)
          ofText chars ++
            match bracket with
            | .comment =>
                match afterComment rest with
                | some (trims, rest) => scan fuel (.outside trims) rest
                | none => [.broken .malformed]
            | bracket => .enter bracket :: scan fuel (.inside bracket) rest
  | fuel + 1, .inside bracket, input =>
      match input.dropWhile isSpace with
      | [] => []
      | input =>
          match bracket.closing? input with
          | some (trims, rest) => .leave bracket :: scan fuel (.outside trims) rest
          | none =>
              let (token, rest) := next input
              token :: scan fuel (.inside bracket) rest

def withoutLastBreak (source : List Char) : List Char :=
  let dropped := match source.reverse with
    | '\n' :: rest => rest
    | chars => chars
  (match dropped with
    | '\r' :: rest => rest
    | chars => chars).reverse

def ofSource (source : String) : List Token :=
  let input := withoutLastBreak source.toList
  scan (input.length + 1) (.outside false) input

end Token

end WalletScreens.Template
