import WalletScreens.Wallet.Dashboard

/-!
The accounts and votes that are shown where no file of accounts is given.
-/

namespace WalletScreens.Wallet.Demo

def key : String := "03b805fab5e8ec2eee92496925b8067a5d5da4234c0dfc7a10e86ac08e4fa8ccea"

def voteId : String := "03b805fab5e8ec2eee92496925b8067a"

def accounts : List Account :=
  [⟨1, "Poseidon", key, key, 1000, 15⟩,
    ⟨2, "Gvidon", key, key, 111, 1337⟩,
    ⟨3, "Megaladon", key, key, 1000000, 13370000⟩]

def votes : List Vote :=
  [⟨voteId, 1337⟩, ⟨voteId, 10⟩, ⟨voteId, 2⟩, ⟨voteId, 1000⟩]

end WalletScreens.Wallet.Demo
