import WalletScreens.Proofs.Screen.Composition
import WalletScreens.Proofs.Text.Escape

/-!
Screens in colour and without.

A screen is put together from styled pieces and literal text, and its layout depends on the pieces
only through their widths and on whether they are empty.  Both are the same with codes and
without, so the codes come out of the whole screen as they come out of its pieces.
-/

namespace WalletScreens.Screen

open Text Text.Escape Wallet

def AllPlain (texts : List String) : Prop :=
  ∀ text ∈ texts, Plain text.toList

instance (texts : List String) : Decidable (AllPlain texts) :=
  List.decidableBAll (fun text : String => Plain text.toList) texts

theorem AllPlain.head {text : String} {texts : List String} (all : AllPlain (text :: texts)) :
    Plain text.toList :=
  all text List.mem_cons_self

theorem AllPlain.tail {text : String} {texts : List String} (all : AllPlain (text :: texts)) :
    AllPlain texts :=
  fun other member => all other (List.mem_cons_of_mem _ member)

/-- The styles `shown` write what the styles `plain` write, with codes put in. -/
structure AddsCodes (shown plain : String → String → String) : Prop where
  shows : ∀ (name : String) {text : String}, Plain text.toList →
    Shows (shown name text) (plain name text)
  ne_empty : ∀ (name : String) {text : String}, text ≠ "" → plain name text ≠ ""

theorem plain_rule {c : Char} (ordinary : isStart c = false) (count : Nat) :
    Plain (rule c count).toList := by
  rw [rule, String.toList_ofList]
  exact plain_replicate ordinary count

theorem shows_blocks {shown texts : List String} (each : List.Forall₂ Shows shown texts) :
    Shows (blocks shown) (blocks texts) :=
  Shows.intercalate (by decide) each

def Header.texts (header : Header) : List String :=
  header.heading.title.toList ++ header.heading.toggleHint.toList

theorem Header.plain_icon (mode : Theme.Mode) : Plain (icon mode).toList := by
  cases mode <;> decide

theorem Header.plain_modeLabel (mode : Theme.Mode) : Plain (modeLabel mode).toList := by
  cases mode <;> decide

theorem Header.plain_hint {header : Header} (texts : AllPlain header.texts) :
    Plain (header.heading.toggleHint.getD defaultHint).toList := by
  cases found : header.heading.toggleHint with
  | none => exact (by decide : Plain defaultHint.toList)
  | some hint => exact texts hint (by simp [Header.texts, found])

def AccountCards.texts (list : AccountCards) : List String :=
  list.selection.accounts.flatMap fun account => [account.name, account.address]

def VotingPage.texts (page : VotingPage) : List String :=
  page.voteId :: page.votes.map (·.id)

def activePageTexts (dashboard : Dashboard) : List String :=
  match dashboard.page with
  | .send => [dashboard.forms.receiver, dashboard.forms.sendAmount]
  | .receive => [dashboard.address, dashboard.forms.receiveAmount]
  | .voting => dashboard.forms.voteId :: dashboard.votes.map (·.id)

/-- The texts of a user that a component draws. -/
def Component.texts (component : Component) : List String :=
  match component with
  | .infoLine part => [part.label, part.content]
  | .headline part => [part.text]
  | .subheading part => [part.text]
  | .button part => [part.label]
  | .buttonRow part => part.buttons.map (·.label)
  | .errorCard part => [part.message]
  | .divider _ | .logo _ => []
  | .header part => part.texts
  | .addressCard part => [part.name, part.address]
  | .addAccountCard part => [part.label]
  | .accountCards part => part.texts
  | .txCard part => [part.name]
  | .votingCard part => [part.vote.id]
  | .formField part => [part.label, part.placeholder, part.value]
  | .sendPage page => [page.receiver, page.amount]
  | .receivePage page => [page.address, page.amount]
  | .votingPage page => page.texts
  | .dashboard state =>
      (Header.mk state.heading).texts ++
        (AccountCards.mk state.selection state.accountColumns).texts ++ activePageTexts state
  | .activePage state => activePageTexts state
  | .pageScreen state => (Header.mk state.heading).texts ++ activePageTexts state

/-- The title in the header of a component, if it has a header with a title. -/
def Component.title? : Component → Option String
  | .header part => part.heading.title
  | .dashboard state | .pageScreen state => state.heading.title
  | _ => none

section

variable {shown plain : String → String → String} (codes : AddsCodes shown plain)
include codes

theorem InfoLine.shows_composed {label content : String} {large : Bool}
    (plainLabel : Plain label.toList) (plainContent : Plain content.toList) :
    Shows (InfoLine.composed shown ⟨label, content, large⟩)
      (InfoLine.composed plain ⟨label, content, large⟩) :=
  (codes.shows _ plainLabel).joined "\n" (by decide) (codes.shows _ plainContent)

theorem Button.shows_composed {label : String} {disabled : Bool}
    (plainLabel : Plain label.toList) :
    Shows (Button.composed shown ⟨label, disabled⟩) (Button.composed plain ⟨label, disabled⟩) :=
  ((Shows.of_plain (by decide)).append (codes.shows _ plainLabel)).append (.of_plain (by decide))

/-- The row is padded by what the terminal shows of it, which codes do not change. -/
theorem ButtonRow.shows_composed {buttons : List Button} {width : Nat}
    (labels : ∀ button ∈ buttons, Plain button.label.toList) :
    Shows (ButtonRow.composed shown ⟨buttons, width⟩)
      (ButtonRow.composed plain ⟨buttons, width⟩) := by
  refine Shows.padLeft (Shows.intercalate (by decide) (Shows.map _ ?_)) _
  intro button member
  exact Button.shows_composed codes (labels button member)

theorem ErrorCard.shows_composed (card : ErrorCard) (message : Plain card.message.toList) :
    Shows (card.composed shown) (card.composed plain) := by
  have border (left right : String) (plainLeft : Plain left.toList)
      (plainRight : Plain right.toList) :
      Plain (left ++ rule '─' (measure card.message + 2) ++ right).toList := by
    rw [String.toList_append, String.toList_append]
    exact (plainLeft.append (plain_rule (by decide) _)).append plainRight
  have side : Shows (shown "error.border" "│") (plain "error.border" "│") :=
    codes.shows _ (by decide)
  have top := codes.shows "error.border" (border "┌" "┐" (by decide) (by decide))
  have bottom := codes.shows "error.border" (border "└" "┘" (by decide) (by decide))
  have start := top.joined "\n" (by decide) side
  have said := (start.joined " " (by decide) (.of_plain message)).joined " " (by decide) side
  exact said.joined "\n" (by decide) bottom

theorem Divider.shows_composed (divider : Divider) :
    Shows (divider.composed shown) (divider.composed plain) :=
  codes.shows _ (plain_rule (by decide) _)

theorem Logo.shows_composed (logo : Logo) : Shows (logo.composed shown) (logo.composed plain) :=
  ((codes.shows _ (by decide)).joined " " (by decide) (codes.shows _ (by decide))).joined "\n  "
    (by decide) (codes.shows _ (by decide))

theorem FormField.shows_composed {label placeholder value : String} {required : Bool}
    (plainLabel : Plain label.toList) (plainPlaceholder : Plain placeholder.toList)
    (plainValue : Plain value.toList) :
    Shows (FormField.composed shown ⟨label, placeholder, value, required⟩)
      (FormField.composed plain ⟨label, placeholder, value, required⟩) := by
  have mark : Shows (if required then shown "error" " *" else "")
      (if required then plain "error" " *" else "") := by
    split
    · exact codes.shows _ (by decide)
    · exact .of_plain (by decide)
  have named := (codes.shows "field.label" plainLabel).append mark
  refine (named.joined "\n" (by decide) (codes.shows _ (by decide))).joined " " (by decide) ?_
  split
  · exact codes.shows _ plainPlaceholder
  · exact codes.shows _ plainValue

theorem AddressCard.shows_composed (card : AddressCard) (name : Plain card.name.toList)
    (address : Plain card.address.toList) : Shows (card.composed shown) (card.composed plain) := by
  have amount (value : Nat) (unit : String) (plainUnit : Plain unit.toList) :
      Plain (toString value ++ unit).toList := by
    rw [String.toList_append]
    exact (plain_number value).append plainUnit
  have marker (sign : String) (plainSign : Plain sign.toList) :
      Shows (shown "card.marker" sign ++ " ") (plain "card.marker" sign ++ " ") :=
    (codes.shows _ plainSign).append (.of_plain (by decide))
  have sign : Plain (if card.active then "▌" else " ").toList := by split <;> decide
  have name := codes.shows "card.name" (plain_truncate name (card.width - 2))
  have address := codes.shows "card.address" (plain_truncate address (card.width - 2))
  have coins := codes.shows "card.coins" (amount card.coins.toNat " coins" (by decide))
  have votes := codes.shows "card.votes" (amount card.votes.toNat " votes" (by decide))
  have named := (marker _ sign).append name
  have addressed := (named.joined "\n" (by decide) (marker _ sign)).append address
  have held := ((addressed.joined "\n" (by decide) (marker _ sign)).append coins).joined "  "
    (by decide) votes
  refine held.append ?_
  split
  · exact ((Shows.of_plain (by decide)).append (marker "▌" (by decide))).append
      (codes.shows _ (by decide))
  · exact .of_plain (by decide)

theorem AddAccountCard.shows_composed (card : AddAccountCard) (label : Plain card.label.toList) :
    Shows (card.composed shown) (card.composed plain) := by
  refine (Shows.of_plain (by decide)).append (codes.shows _ ?_)
  rw [String.toList_append]
  exact Plain.append (by decide) label

theorem AccountCards.shows_composed (list : AccountCards) (texts : AllPlain list.texts) :
    Shows (list.composed shown) (list.composed plain) := by
  have card : ∀ card ∈ list.cards, Shows (card.composed shown) (card.composed plain) := by
    intro card member
    obtain ⟨account, listed, rfl⟩ := List.mem_map.mp member
    refine AddressCard.shows_composed codes _ (texts _ ?_) (texts _ ?_) <;>
      exact List.mem_flatMap.mpr ⟨account, listed, by simp [AddressCard.ofAccount]⟩
  have last := AddAccountCard.shows_composed codes {} (by decide)
  exact shows_blocks (List.rel_append (Shows.map _ card) (.cons last .nil))

theorem TxCard.shows_composed (card : TxCard) (name : Plain card.name.toList) :
    Shows (card.composed shown) (card.composed plain) := by
  have icon : Plain card.kind.icon.toList := by cases card.kind <;> decide
  have direction : Plain (if card.kind.isIncoming then "From" else "To").toList := by
    split <;> decide
  have name := plain_padRight (plain_truncate name card.nameWidth) card.nameWidth
  have top := (codes.shows "tx.icon" icon).joined " " (by decide)
    (codes.shows "info.label" direction)
  exact (top.joined "\n  " (by decide) (codes.shows _ name)).joined " " (by decide)
    (codes.shows _ (plain_number _))

theorem VotingCard.shows_composed (card : VotingCard) (id : Plain card.vote.id.toList) :
    Shows (card.composed shown) (card.composed plain) := by
  have line : Plain (rule '─' card.width).toList := plain_rule (by decide) _
  exact ((InfoLine.shows_composed codes (by decide) (plain_truncate id _)).joined "\n" (by decide)
    (InfoLine.shows_composed codes (by decide) (plain_number _))).joined "\n" (by decide)
    (codes.shows _ line)

theorem Header.shows_composed (header : Header) (mode : Theme.Mode)
    (texts : AllPlain header.texts) (titled : header.heading.title ≠ some "") :
    Shows (header.composed shown mode) (header.composed plain mode) := by
  have icon := codes.shows "mode" (plain_icon mode)
  have label := codes.shows "mode" (plain_modeLabel mode)
  have hint := codes.shows "text.secondary" (plain_hint texts)
  have logo := (Logo.shows_composed codes {}).joined "\n" (by decide) icon
  have top := (logo.joined " " (by decide) label).joined "  " (by decide) hint
  refine top.append ?_
  -- Whether the title has a block hangs on its styled line, so both lines must be written or neither.
  cases found : header.heading.title with
  | none => exact (Shows.of_plain (by decide) : Shows "" "")
  | some title =>
      have line : Shows (Headline.composed shown ⟨title⟩) (Headline.composed plain ⟨title⟩) :=
        codes.shows _ (texts title (by simp [Header.texts, found]))
      have written : Headline.composed plain ⟨title⟩ ≠ "" :=
        codes.ne_empty _ fun empty => titled (found.trans (congrArg some empty))
      have drawn : Headline.composed shown ⟨title⟩ ≠ "" := line.ne_empty written
      dsimp only
      rw [if_neg drawn, if_neg written]
      exact (Shows.of_plain (by decide)).append line

theorem SendPage.shows_composed (page : SendPage) (receiver : Plain page.receiver.toList)
    (amount : Plain page.amount.toList) : Shows (page.composed shown) (page.composed plain) :=
  shows_blocks
    (.cons (codes.shows _ (by decide))
    (.cons (FormField.shows_composed codes (by decide) (by decide) receiver)
    (.cons (FormField.shows_composed codes (by decide) (by decide) amount)
    (.cons (ButtonRow.shows_composed codes (by decide)) .nil))))

theorem ReceivePage.shows_composed (page : ReceivePage) (address : Plain page.address.toList)
    (amount : Plain page.amount.toList) : Shows (page.composed shown) (page.composed plain) :=
  shows_blocks
    (.cons (codes.shows _ (by decide))
    (.cons (InfoLine.shows_composed codes (by decide) address)
    (.cons (Button.shows_composed codes (by decide))
    (.cons (codes.shows _ (by decide))
    (.cons (FormField.shows_composed codes (by decide) (by decide) amount)
    (.cons (ButtonRow.shows_composed codes (by decide)) .nil))))))

theorem VotingPage.shows_composed (page : VotingPage) (texts : AllPlain page.texts) :
    Shows (page.composed shown) (page.composed plain) := by
  have cards : ∀ vote ∈ page.votes, Shows (VotingCard.composed shown ⟨vote, page.width⟩)
      (VotingCard.composed plain ⟨vote, page.width⟩) := fun vote member =>
    VotingCard.shows_composed codes ⟨vote, page.width⟩ (texts.tail _ (List.mem_map_of_mem member))
  exact shows_blocks
    (.cons (codes.shows _ (by decide))
    (.cons (FormField.shows_composed codes (by decide) (by decide) texts.head)
    (.cons (ButtonRow.shows_composed codes (by decide)) (Shows.map _ cards))))

theorem shows_composedActivePage (dashboard : Dashboard)
    (texts : AllPlain (activePageTexts dashboard)) :
    Shows (composedActivePage shown dashboard) (composedActivePage plain dashboard) := by
  unfold activePageTexts at texts
  unfold composedActivePage
  cases page : dashboard.page with
  | send =>
      rw [page] at texts
      exact SendPage.shows_composed codes _ texts.head texts.tail.head
  | receive =>
      rw [page] at texts
      exact ReceivePage.shows_composed codes _ texts.head texts.tail.head
  | voting =>
      rw [page] at texts
      exact VotingPage.shows_composed codes _ texts

theorem shows_composedDashboard (dashboard : Dashboard) (mode : Theme.Mode)
    (heading : AllPlain (Header.mk dashboard.heading).texts)
    (accounts : AllPlain (AccountCards.mk dashboard.selection dashboard.accountColumns).texts)
    (page : AllPlain (activePageTexts dashboard)) (titled : dashboard.heading.title ≠ some "") :
    Shows (composedDashboard shown mode dashboard) (composedDashboard plain mode dashboard) :=
  have divider := Divider.shows_composed codes ⟨dashboard.width⟩
  shows_blocks
    (.cons (Header.shows_composed codes ⟨dashboard.heading⟩ mode heading titled)
    (.cons divider
    (.cons (AccountCards.shows_composed codes _ accounts)
    (.cons divider
    (.cons (shows_composedActivePage codes dashboard page) .nil)))))

theorem shows_composedPageScreen (dashboard : Dashboard) (mode : Theme.Mode)
    (heading : AllPlain (Header.mk dashboard.heading).texts)
    (page : AllPlain (activePageTexts dashboard)) (titled : dashboard.heading.title ≠ some "") :
    Shows (composedPageScreen shown mode dashboard) (composedPageScreen plain mode dashboard) :=
  shows_blocks
    (.cons (Header.shows_composed codes ⟨dashboard.heading⟩ mode heading titled)
    (.cons (Divider.shows_composed codes ⟨dashboard.width⟩)
    (.cons (shows_composedActivePage codes dashboard page) .nil)))

/-- A component says the same in both styles, unless the header has a title that is empty: its line
can be empty without codes, and never is with them. -/
theorem Component.shows_composed (component : Component) (mode : Theme.Mode)
    (texts : AllPlain component.texts) (titled : component.title? ≠ some "") :
    Shows (component.composed shown mode) (component.composed plain mode) := by
  cases component with
  | infoLine part => exact InfoLine.shows_composed codes texts.head texts.tail.head
  | headline part => exact codes.shows _ texts.head
  | subheading part => exact codes.shows _ texts.head
  | button part => exact Button.shows_composed codes texts.head
  | buttonRow part =>
      exact ButtonRow.shows_composed codes fun button member =>
        texts _ (List.mem_map_of_mem member)
  | errorCard part => exact part.shows_composed codes texts.head
  | divider part => exact part.shows_composed codes
  | logo part => exact part.shows_composed codes
  | header part => exact part.shows_composed codes mode texts titled
  | addressCard part => exact part.shows_composed codes texts.head texts.tail.head
  | addAccountCard part => exact part.shows_composed codes texts.head
  | accountCards part => exact part.shows_composed codes texts
  | txCard part => exact part.shows_composed codes texts.head
  | votingCard part => exact part.shows_composed codes texts.head
  | formField part =>
      exact FormField.shows_composed codes texts.head texts.tail.head texts.tail.tail.head
  | sendPage page => exact page.shows_composed codes texts.head texts.tail.head
  | receivePage page => exact page.shows_composed codes texts.head texts.tail.head
  | votingPage page => exact page.shows_composed codes texts
  | dashboard state =>
      obtain ⟨upper, page⟩ := List.forall_mem_append.mp texts
      obtain ⟨heading, accounts⟩ := List.forall_mem_append.mp upper
      exact shows_composedDashboard codes state mode heading accounts page titled
  | activePage state => exact shows_composedActivePage codes state texts
  | pageScreen state =>
      obtain ⟨heading, page⟩ := List.forall_mem_append.mp texts
      exact shows_composedPageScreen codes state mode heading page titled

end

end WalletScreens.Screen
