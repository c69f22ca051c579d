import WalletScreens.Screen.Piece
import WalletScreens.Wallet.Dashboard

/-!
Cards: one account, one transaction, one vote; and the list of the account cards.
-/

namespace WalletScreens.Screen

open Theme Wallet

structure AddressCard where
  name : String
  address : String
  coins : UInt64
  votes : UInt64
  active : Bool
  width : Nat := defaultWidth
deriving DecidableEq, Repr

namespace AddressCard

def ofAccount (account : Account) (active : Bool) (width : Nat) : AddressCard :=
  ⟨account.name, account.address, account.coins, account.votes, active, width⟩

def actions : String := "↑ send  ↓ receive  ◷ history  ✓ vote"

/-- Two columns go to the marker and the space after it. -/
def render (card : AddressCard) (canvas : Canvas) : Except RenderFault String :=
  canvas.template "address_card"
    [("name", .text card.name), ("address", .text card.address),
      ("coins", .text (toString card.coins.toNat ++ " coins")),
      ("votes", .text (toString card.votes.toNat ++ " votes")),
      ("active", .bool card.active), ("actions", .text actions),
      ("text_width", .natural (card.width - 2))]

end AddressCard

structure AddAccountCard where
  label : String := "Add account"
deriving DecidableEq, Repr

def AddAccountCard.render (card : AddAccountCard) (canvas : Canvas) :
    Except RenderFault String :=
  canvas.template "add_account_card" [("label", .text card.label)]

structure AccountCards where
  selection : Selection
  width : Nat := defaultWidth
deriving DecidableEq, Repr

namespace AccountCards

def cards (list : AccountCards) : List AddressCard :=
  list.selection.accounts.map fun account =>
    .ofAccount account (list.selection.selected == some account.id) list.width

def render (list : AccountCards) (canvas : Canvas) : Except RenderFault String := do
  let cards ← list.cards.mapM fun card => card.render canvas
  let last ← AddAccountCard.render {} canvas
  return "\n\n".intercalate (cards ++ [last])

end AccountCards

inductive TxKind where
  | coinsIn
  | coinsOut
  | voteIn
  | voteOut
deriving DecidableEq, Repr

namespace TxKind

def isIncoming : TxKind → Bool
  | .coinsIn | .voteIn => true
  | .coinsOut | .voteOut => false

def icon : TxKind → String
  | .coinsIn => "↓"
  | .coinsOut => "↑"
  | .voteIn | .voteOut => "✓"

end TxKind

structure TxCard where
  kind : TxKind
  name : String
  value : UInt64
  width : Nat := defaultWidth
deriving DecidableEq, Repr

namespace TxCard

def amount (card : TxCard) : String :=
  toString card.value.toNat

/-- What is left for the name beside the amount, an indent of two and a gap of one. -/
def nameWidth (card : TxCard) : Nat :=
  card.width - (card.amount.length + 3)

def render (card : TxCard) (canvas : Canvas) : Except RenderFault String :=
  let incoming := card.kind.isIncoming
  canvas.template "tx_card"
    [("icon", .text card.kind.icon), ("label", .text (if incoming then "From" else "To")),
      ("name", .text card.name), ("name_width", .natural card.nameWidth),
      ("value", .text card.amount),
      ("value_style", .text (if incoming then "tx.in" else "tx.out"))]

end TxCard

structure VotingCard where
  vote : Vote
  width : Nat := defaultWidth
deriving DecidableEq, Repr

namespace VotingCard

def idLine (card : VotingCard) : InfoLine :=
  { label := "Vote id", content := Text.truncate card.vote.id card.width }

def votesLine (card : VotingCard) : InfoLine :=
  { label := "My votes", content := toString card.vote.held.toNat }

/-- Puts the lines that are drawn already into the card. -/
def frame (card : VotingCard) (idLine votesLine : String) (canvas : Canvas) :
    Except RenderFault String :=
  canvas.template "voting_card"
    [("id_line", .text idLine), ("votes_line", .text votesLine),
      ("rule", .text (rule '─' card.width))]

def render (card : VotingCard) (canvas : Canvas) : Except RenderFault String := do
  let idLine ← card.idLine.render canvas
  let votesLine ← card.votesLine.render canvas
  card.frame idLine votesLine canvas

end VotingCard

structure Header where
  heading : Heading := {}
deriving DecidableEq, Repr

namespace Header

def defaultHint : String := "t: switch theme"

def icon : Mode → String
  | .dark => "☾"
  | .light => "☀"

def modeLabel : Mode → String
  | .dark => "dark theme"
  | .light => "light theme"

/-- Puts the title and the logo, which are drawn already, into the header.  The mode shown is that
of the pass, so it agrees with all that is drawn in it. -/
def frame (header : Header) (title : Json.Value) (logo : String) (canvas : Canvas) :
    Except RenderFault String :=
  canvas.template "header"
    [("logo", .text logo), ("icon", .text (icon canvas.mode)),
      ("mode_label", .text (modeLabel canvas.mode)),
      ("hint", .text (header.heading.toggleHint.getD defaultHint)), ("title", title)]

def render (header : Header) (canvas : Canvas) : Except RenderFault String := do
  let title ← match header.heading.title with
    | some title => do
        let line ← (Headline.mk title).render canvas
        pure (Json.Value.text line)
    | none => pure Json.Value.null
  let logo ← Logo.render {} canvas
  header.frame title logo canvas

end Header

end WalletScreens.Screen
