import WalletScreens.Template.Render

/-!
The templates of the screens.
-/

namespace WalletScreens.Screen.Layout

open Template

def hole (inside : String) : String :=
  "\x7b\x7b" ++ inside ++ "\x7d\x7d"

def block (inside : String) : String :=
  "\x7b%" ++ inside ++ "%\x7d"

def infoLine : String :=
  hole " label | style(\"info.label\") " ++ "\n" ++
  hole " content | style(content_style) "

def headline : String :=
  hole " text | style(\"headline\") "

def subheading : String :=
  hole " text | style(\"h5\") "

def button : String :=
  "[ " ++ hole " label | style(style_name) " ++ " ]"

def errorCard : String :=
  hole " top | style(\"error.border\") " ++ "\n" ++
  hole " \"│\" | style(\"error.border\") " ++ " " ++ hole " message " ++ " " ++
    hole " \"│\" | style(\"error.border\") " ++ "\n" ++
  hole " bottom | style(\"error.border\") "

def divider : String :=
  hole " line | style(\"divider\") "

def logoGroup : String :=
  hole " \"◆\" | style(\"logo\") " ++ " " ++ hole " \"GO\" | style(name_style) " ++ "\n  " ++
  hole " \"LOSOVANIE\" | style(name_style) "

def header : String :=
  hole " logo " ++ "\n" ++
  hole " icon | style(\"mode\") " ++ " " ++ hole " mode_label | style(\"mode\") " ++ "  " ++
    hole " hint | style(\"text.secondary\") " ++ "\n" ++
  block "- if title " ++ "\n\n" ++
  hole " title " ++ "\n" ++
  block "- endif "

def addressCard : String :=
  let bar := hole " bar | style(\"card.marker\") "
  block "- set bar = \"▌\" if active else \" \" -" ++ "\n" ++
  bar ++ " " ++ hole " name | truncate_at(text_width) | style(\"card.name\") " ++ "\n" ++
  bar ++ " " ++ hole " address | truncate_at(text_width) | style(\"card.address\") " ++ "\n" ++
  bar ++ " " ++ hole " coins | style(\"card.coins\") " ++ "  " ++
    hole " votes | style(\"card.votes\") " ++ "\n" ++
  block "- if active " ++ "\n" ++
  bar ++ " " ++ hole " actions | style(\"card.action\") " ++ "\n" ++
  block "- endif "

def addAccountCard : String :=
  "  " ++ hole " (\"+ \" ~ label) | style(\"card.add\") "

def txCard : String :=
  hole " icon | style(\"tx.icon\") " ++ " " ++ hole " label | style(\"info.label\") " ++ "\n  " ++
  hole (" name | truncate_at(name_width) | pad_right(name_width) | style(\"info.content\") ") ++
    " " ++ hole " value | style(value_style) "

def votingCard : String :=
  hole " id_line " ++ "\n" ++
  hole " votes_line " ++ "\n" ++
  hole " rule | style(\"divider\") "

def formField : String :=
  hole " label | style(\"field.label\") " ++ block " if required " ++
    hole " \" *\" | style(\"error\") " ++ block " endif " ++ "\n" ++
  hole " \"›\" | style(\"field.label\") " ++ " " ++ block " if value " ++
    hole " value | style(\"field.value\") " ++ block " else " ++
    hole " placeholder | style(\"field.placeholder\") " ++ block " endif "

def sources : List (String × String) :=
  [("info_line", infoLine),
    ("headline", headline),
    ("subheading", subheading),
    ("button", button),
    ("error_card", errorCard),
    ("divider", divider),
    ("logo_group", logoGroup),
    ("header", header),
    ("address_card", addressCard),
    ("add_account_card", addAccountCard),
    ("tx_card", txCard),
    ("voting_card", votingCard),
    ("form_field", formField)]

def library : Except Fault Library :=
  sources.foldlM (fun library source => library.add source.1 source.2) []

end WalletScreens.Screen.Layout
