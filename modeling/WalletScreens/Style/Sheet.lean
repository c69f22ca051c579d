import WalletScreens.Style.Brush

/-!
Named styles.

A sheet maps each name to a brush or to another name.  `resolve` follows names until it meets a
brush, `validate` reports the first name that leads to none, and the two ways of applying a
style differ only in what they write around the text.
-/

namespace WalletScreens.Style

inductive Entry where
  | concrete (brush : Brush)
  | sameAs (target : String)
deriving DecidableEq, Repr

inductive SheetFault where
  | unresolvedAlias (source target : String)
  | cycle (path : List String)
deriving DecidableEq, Repr

def SheetFault.message : SheetFault → String
  | .unresolvedAlias source target =>
      "style '" ++ source ++ "' is an alias of undefined style '" ++ target ++ "'"
  | .cycle path => "style aliases form a cycle: " ++ " -> ".intercalate path

/-- Entries in the order their names were first added, each name once. -/
structure Sheet where
  entries : List (String × Entry) := []
  missingIndicator : String := "(!?)"
deriving DecidableEq, Repr

namespace Sheet

def lookup? (sheet : Sheet) (name : String) : Option Entry :=
  sheet.entries.lookup name

def names (sheet : Sheet) : List String :=
  sheet.entries.map Prod.fst

def has (sheet : Sheet) (name : String) : Bool :=
  (sheet.lookup? name).isSome

def size (sheet : Sheet) : Nat :=
  sheet.entries.length

def isEmpty (sheet : Sheet) : Bool :=
  sheet.entries.isEmpty

/-- The entries with `name` leading to `entry`, in its old place if it had one. -/
def put (name : String) (entry : Entry) : List (String × Entry) → List (String × Entry)
  | [] => [(name, entry)]
  | (other, old) :: rest =>
      if other = name then (name, entry) :: rest else (other, old) :: put name entry rest

/-- Registers a name, replacing what it led to. -/
def add (sheet : Sheet) (name : String) (entry : Entry) : Sheet :=
  { sheet with entries := put name entry sheet.entries }

/-- Follows names until a brush, a missing name or a name already seen. -/
def follow (sheet : Sheet) : Nat → List String → String → Option Brush
  | 0, _, _ => none
  | fuel + 1, seen, name =>
      if name ∈ seen then none
      else match sheet.lookup? name with
        | none => none
        | some (.concrete brush) => some brush
        | some (.sameAs target) => sheet.follow fuel (name :: seen) target

def resolve (sheet : Sheet) (name : String) : Option Brush :=
  sheet.follow (sheet.size + 1) [] name

/-- Walks on from the last name of `path`, looking at each target before going there. -/
def walk (sheet : Sheet) : Nat → List String → String → Option SheetFault
  | 0, _, _ => none
  | fuel + 1, path, current =>
      match sheet.lookup? current with
      | some (.sameAs target) =>
          if target ∈ path then some (.cycle (path ++ [target]))
          else if !sheet.has target then some (.unresolvedAlias current target)
          else sheet.walk fuel (path ++ [target]) target
      | _ => none

def faultFrom (sheet : Sheet) (name : String) : Option SheetFault :=
  sheet.walk (sheet.size + 1) [name] name

/-- The names in code point order, which makes the reported fault independent of the order in
which names were added. -/
def sortedNames (sheet : Sheet) : List String :=
  sheet.names.mergeSort fun first second => decide (first ≤ second)

/-- Checks that every name leads to a brush; reports the walk from the least that does not. -/
def validate (sheet : Sheet) : Except SheetFault Unit :=
  match sheet.sortedNames.findSome? sheet.faultFrom with
  | some fault => .error fault
  | none => .ok ()

def apply (sheet : Sheet) (name text : String) (color : Bool) : String :=
  match sheet.resolve name with
  | some brush => if color then brush.paint text else text
  | none => sheet.missingIndicator ++ " " ++ text

def applyTagged (sheet : Sheet) (name text : String) : String :=
  let mark := if (sheet.resolve name).isSome then name else name ++ "?"
  "[" ++ mark ++ "]" ++ text ++ "[/" ++ mark ++ "]"

end Sheet

end WalletScreens.Style
