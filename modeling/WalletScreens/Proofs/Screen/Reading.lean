import Mathlib
import WalletScreens.Screen.Layout

/-!
The templates of the screens, read.

Each source is a closed text, so what it reads as is a matter of evaluation.  A source is kept as
the concatenation that it is until its characters are asked for.
-/

namespace WalletScreens.Screen.Layout

open Template

theorem toList_hole (inside : String) :
    (hole inside).toList = '{' :: '{' :: (inside.toList ++ ['}', '}']) := by
  rw [hole, String.toList_append, String.toList_append]
  rfl

theorem toList_block (inside : String) :
    (block inside).toList = '{' :: '%' :: (inside.toList ++ ['%', '}']) := by
  rw [block, String.toList_append, String.toList_append]
  rfl

def quoted (text : String) : Expr :=
  .literal (.text text)

/-- A hole that ends in the filter for styles. -/
def inStyle (subject style : Expr) : Node :=
  .emit (.filter subject "style" [.value style])

/-- A field cut to the columns that another one gives. -/
def cutTo (columns field : String) : Expr :=
  .filter (.reference field) "truncate_at" [.value (.reference columns)]

/-- The marker of an address card, which each of its lines starts with. -/
def markerNodes : List Node :=
  [inStyle (.reference "bar") (quoted "card.marker"), .literal " "]

/-- A template with the nodes that it is read as. -/
structure Reading where
  source : String
  nodes : List Node
  reads : Node.ofSource source = .ok nodes

namespace Reading

set_option maxRecDepth 20000

def infoLine : Reading where
  source := Layout.infoLine
  nodes :=
    [inStyle (.reference "label") (quoted "info.label"), .literal "\n",
      inStyle (.reference "content") (.reference "content_style")]
  reads := by
    unfold Node.ofSource Token.ofSource Layout.infoLine
    simp only [String.toList_append, toList_hole, -String.reduceAppend, -String.reduceToList]
    cbv

def headline : Reading where
  source := Layout.headline
  nodes := [inStyle (.reference "text") (quoted "headline")]
  reads := by
    unfold Node.ofSource Token.ofSource Layout.headline
    rw [toList_hole]
    cbv

def subheading : Reading where
  source := Layout.subheading
  nodes := [inStyle (.reference "text") (quoted "h5")]
  reads := by
    unfold Node.ofSource Token.ofSource Layout.subheading
    rw [toList_hole]
    cbv

def button : Reading where
  source := Layout.button
  nodes := [.literal "[ ", inStyle (.reference "label") (.reference "style_name"), .literal " ]"]
  reads := by
    unfold Node.ofSource Token.ofSource Layout.button
    simp only [String.toList_append, toList_hole, -String.reduceAppend, -String.reduceToList]
    cbv

def errorCard : Reading where
  source := Layout.errorCard
  nodes :=
    [inStyle (.reference "top") (quoted "error.border"), .literal "\n",
      inStyle (quoted "│") (quoted "error.border"), .literal " ", .emit (.reference "message"),
      .literal " ", inStyle (quoted "│") (quoted "error.border"), .literal "\n",
      inStyle (.reference "bottom") (quoted "error.border")]
  reads := by
    unfold Node.ofSource Token.ofSource Layout.errorCard
    simp only [String.toList_append, toList_hole, -String.reduceAppend, -String.reduceToList]
    cbv

def divider : Reading where
  source := Layout.divider
  nodes := [inStyle (.reference "line") (quoted "divider")]
  reads := by
    unfold Node.ofSource Token.ofSource Layout.divider
    rw [toList_hole]
    cbv

def logoGroup : Reading where
  source := Layout.logoGroup
  nodes :=
    [inStyle (quoted "◆") (quoted "logo"), .literal " ",
      inStyle (quoted "GO") (.reference "name_style"), .literal "\n  ",
      inStyle (quoted "LOSOVANIE") (.reference "name_style")]
  reads := by
    unfold Node.ofSource Token.ofSource Layout.logoGroup
    simp only [String.toList_append, toList_hole, -String.reduceAppend, -String.reduceToList]
    cbv

def header : Reading where
  source := Layout.header
  nodes :=
    [.emit (.reference "logo"), .literal "\n", inStyle (.reference "icon") (quoted "mode"),
      .literal " ", inStyle (.reference "mode_label") (quoted "mode"), .literal "  ",
      inStyle (.reference "hint") (quoted "text.secondary"),
      .branch (.reference "title") [.literal "\n\n", .emit (.reference "title")] []]
  reads := by
    unfold Node.ofSource Token.ofSource Layout.header
    simp only [String.toList_append, toList_hole, toList_block, -String.reduceAppend,
      -String.reduceToList]
    cbv

def addressCard : Reading where
  source := Layout.addressCard
  nodes :=
    .assign (.reference "bar") (.choose (.reference "active") (quoted "▌") (some (quoted " "))) ::
      markerNodes ++
      [inStyle (cutTo "text_width" "name") (quoted "card.name"), .literal "\n"] ++
      markerNodes ++
      [inStyle (cutTo "text_width" "address") (quoted "card.address"), .literal "\n"] ++
      markerNodes ++
      [inStyle (.reference "coins") (quoted "card.coins"), .literal "  ",
        inStyle (.reference "votes") (quoted "card.votes"),
        .branch (.reference "active")
          (.literal "\n" :: markerNodes ++ [inStyle (.reference "actions") (quoted "card.action")])
          []]
  reads := by
    unfold Node.ofSource Token.ofSource Layout.addressCard
    simp only [String.toList_append, toList_hole, toList_block, -String.reduceAppend,
      -String.reduceToList]
    cbv

def addAccountCard : Reading where
  source := Layout.addAccountCard
  nodes :=
    [.literal "  ", inStyle (.linked .join (quoted "+ ") (.reference "label")) (quoted "card.add")]
  reads := by
    unfold Node.ofSource Token.ofSource Layout.addAccountCard
    simp only [String.toList_append, toList_hole, -String.reduceAppend, -String.reduceToList]
    cbv

def txCard : Reading where
  source := Layout.txCard
  nodes :=
    [inStyle (.reference "icon") (quoted "tx.icon"), .literal " ",
      inStyle (.reference "label") (quoted "info.label"), .literal "\n  ",
      inStyle (.filter (cutTo "name_width" "name") "pad_right" [.value (.reference "name_width")])
        (quoted "info.content"), .literal " ",
      inStyle (.reference "value") (.reference "value_style")]
  reads := by
    unfold Node.ofSource Token.ofSource Layout.txCard
    simp only [String.toList_append, toList_hole, -String.reduceAppend, -String.reduceToList]
    cbv

def votingCard : Reading where
  source := Layout.votingCard
  nodes :=
    [.emit (.reference "id_line"), .literal "\n", .emit (.reference "votes_line"), .literal "\n",
      inStyle (.reference "rule") (quoted "divider")]
  reads := by
    unfold Node.ofSource Token.ofSource Layout.votingCard
    simp only [String.toList_append, toList_hole, -String.reduceAppend, -String.reduceToList]
    cbv

def formField : Reading where
  source := Layout.formField
  nodes :=
    [inStyle (.reference "label") (quoted "field.label"),
      .branch (.reference "required") [inStyle (quoted " *") (quoted "error")] [], .literal "\n",
      inStyle (quoted "›") (quoted "field.label"), .literal " ",
      .branch (.reference "value") [inStyle (.reference "value") (quoted "field.value")]
        [inStyle (.reference "placeholder") (quoted "field.placeholder")]]
  reads := by
    unfold Node.ofSource Token.ofSource Layout.formField
    simp only [String.toList_append, toList_hole, toList_block, -String.reduceAppend,
      -String.reduceToList]
    cbv

end Reading

/-- The templates of the screens by name, read. -/
def readings : List (String × Reading) :=
  [("info_line", .infoLine),
    ("headline", .headline),
    ("subheading", .subheading),
    ("button", .button),
    ("error_card", .errorCard),
    ("divider", .divider),
    ("logo_group", .logoGroup),
    ("header", .header),
    ("address_card", .addressCard),
    ("add_account_card", .addAccountCard),
    ("tx_card", .txCard),
    ("voting_card", .votingCard),
    ("form_field", .formField)]

/-- The library that they make. -/
def builtIn : Library :=
  (readings.map fun reading => (reading.1, reading.2.nodes)).reverse

theorem foldlM_add (readings : List (String × Reading)) (library : Library) :
    (readings.map fun reading => (reading.1, reading.2.source)).foldlM
        (fun library source => library.add source.1 source.2) library =
      .ok ((readings.map fun reading => (reading.1, reading.2.nodes)).reverse ++ library) := by
  induction readings generalizing library with
  | nil => rfl
  | cons reading rest ih =>
      have added : library.add reading.1 reading.2.source =
          .ok ((reading.1, reading.2.nodes) :: library) := by
        rw [Library.add, reading.2.reads]
        rfl
      rw [List.map_cons, List.foldlM_cons, added, List.map_cons, List.reverse_cons,
        List.append_assoc]
      exact ih _

theorem library_eq : library = .ok builtIn :=
  (foldlM_add readings []).trans (by rw [List.append_nil]; rfl)

end WalletScreens.Screen.Layout
