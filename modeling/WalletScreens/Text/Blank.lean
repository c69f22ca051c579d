/-!
White space, and the two cuts that commands and settings make at it: trimming both ends and
splitting at the first blank.
-/

namespace WalletScreens.Text

/-- Characters with the property White_Space. -/
def isBlank (c : Char) : Bool :=
  let code := c.toNat
  (0x09 ≤ code && code ≤ 0x0D) || code == 0x20 || code == 0x85 || code == 0xA0 ||
    code == 0x1680 || (0x2000 ≤ code && code ≤ 0x200A) || code == 0x2028 || code == 0x2029 ||
    code == 0x202F || code == 0x205F || code == 0x3000

def trimStart (chars : List Char) : List Char :=
  chars.dropWhile isBlank

def trimEnd (chars : List Char) : List Char :=
  (chars.reverse.dropWhile isBlank).reverse

def trim (chars : List Char) : List Char :=
  trimEnd (trimStart chars)

def splitBlank : List Char → List Char × Option (List Char)
  | [] => ([], none)
  | c :: rest =>
      if isBlank c then ([], some rest)
      else
        let (word, after) := splitBlank rest
        (c :: word, after)

def trimmed (text : String) : String :=
  String.ofList (trim text.toList)

end WalletScreens.Text
