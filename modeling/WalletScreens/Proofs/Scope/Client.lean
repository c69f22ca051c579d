import WalletScreens.Scope.Stage

/-!
Programs that use a registry.

A program mounts scopes and adds observers, ends them in any order, and in between asks for
toggles and sets the mode.  Only what it still holds can be ended or used.
-/

namespace WalletScreens.Scope

open Theme

inductive Operation where
  | mount
  | drop (scope : SubscriptionId)
  | tryToggle
  | requestToggle
  | toggleThrough (scope : SubscriptionId)
  | setMode (mode : Mode)
  | observe (retoggles : Nat)
  | dropObserver (observer : SubscriptionId)
deriving DecidableEq, Repr

/-- A registry at work and what a program holds of it: its live scopes, the newest first, and its
live observers in the order they were added. -/
structure Client where
  stage : Stage
  scopes : List SubscriptionId := []
  observers : List SubscriptionId := []

namespace Client

/-- A program that has done nothing yet, with a registry in a mode. -/
def started (mode : Mode) : Client :=
  { stage := { registry := { mode } } }

/-- Performs an operation; one on a subscription that is not held does nothing. -/
def perform (client : Client) : Operation → Client
  | .mount =>
      let (id, stage) := client.stage.mount
      { client with stage, scopes := id :: client.scopes }
  | .drop id =>
      if id ∈ client.scopes then
        { client with
          stage := client.stage.unsubscribe id
          scopes := client.scopes.filter (· != id) }
      else client
  | .tryToggle => { client with stage := client.stage.tryToggle.2 }
  | .requestToggle => { client with stage := client.stage.requestToggle }
  | .toggleThrough id =>
      if id ∈ client.scopes then { client with stage := client.stage.tryToggle.2 } else client
  | .setMode mode => { client with stage := client.stage.setMode mode }
  | .observe retoggles =>
      let (id, stage) := client.stage.observe retoggles
      { client with stage, observers := client.observers ++ [id] }
  | .dropObserver id =>
      if id ∈ client.observers then
        { client with
          stage := client.stage.unsubscribe id
          observers := client.observers.filter (· != id) }
      else client

def run (client : Client) (operations : List Operation) : Client :=
  operations.foldl perform client

@[simp] theorem run_nil (client : Client) : client.run [] = client := rfl

@[simp] theorem run_cons (client : Client) (operation : Operation) (rest : List Operation) :
    client.run (operation :: rest) = (client.perform operation).run rest := rfl

end Client

end WalletScreens.Scope
