import WalletScreens.Main
import WalletScreens.Text.Unprintable
import WalletScreens.Theme.Adjust
import WalletScreens.Proofs.Scope.Agreement
import WalletScreens.Proofs.Scope.OneTheme
import WalletScreens.Proofs.Session.Freshness
import WalletScreens.Proofs.Screen.Reading
import WalletScreens.Proofs.Template.Evaluation
import WalletScreens.Proofs.Screen.Composition
import WalletScreens.Proofs.Screen.Refinement
import WalletScreens.Proofs.Style.Sheet
import WalletScreens.Proofs.Theme.Vocabulary
import WalletScreens.Proofs.Scope.Rendering
import WalletScreens.Proofs.Scope.ModeHistory
import WalletScreens.Proofs.Style.Alias
import WalletScreens.Proofs.Scope.Revision
import WalletScreens.Proofs.Style.Painting
import WalletScreens.Proofs.Style.Resolution
import WalletScreens.Proofs.Session.Filling
import WalletScreens.Proofs.Text.Trimming
import WalletScreens.Proofs.Text.Numeral
import WalletScreens.Proofs.Wallet.PageName
import WalletScreens.Proofs.Session.Grammar
import WalletScreens.Proofs.Session.Batch
import WalletScreens.Proofs.Scope.Lockstep
import WalletScreens.Proofs.Scope.Nesting
import WalletScreens.Proofs.Scope.Ending
import WalletScreens.Proofs.Scope.Delivery
import WalletScreens.Proofs.Session.Separation
import WalletScreens.Proofs.Template.Unthemed
import WalletScreens.Proofs.Screen.Naming
import WalletScreens.Proofs.Screen.Indicator
import WalletScreens.Proofs.Scope.Switching
import WalletScreens.Proofs.Scope.Enclosure
import WalletScreens.Proofs.Style.Fault
import WalletScreens.Proofs.Style.Addition
import WalletScreens.Proofs.Text.Cutting
import WalletScreens.Proofs.Wallet.Selection
import WalletScreens.Proofs.Scope.Accounts
import WalletScreens.Proofs.Json.Quoted
import WalletScreens.Proofs.Json.TextRecord
import WalletScreens.Proofs.Session.Submission
import WalletScreens.Proofs.Scope.Traversal
import WalletScreens.Proofs.Text.Recutting
import WalletScreens.Proofs.Session.Refusal
import WalletScreens.Proofs.Scope.Styling
import WalletScreens.Proofs.Wallet.Layout
import WalletScreens.Proofs.Text.Padding
import WalletScreens.Proofs.Scope.Alignment
import WalletScreens.Proofs.Scope.Sections
import WalletScreens.Proofs.Theme.Roles
import WalletScreens.Proofs.Theme.Nearest
