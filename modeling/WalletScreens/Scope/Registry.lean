import WalletScreens.Theme.Catalog

/-!
The keeper of the theme mode.

A registry has a mode, the targets that can flip it and the observers of its changes.  The target
that subscribed last is the active one: it alone is flipped, and the registry takes over the
mode it flips to.  When it leaves, the one before it is brought to the registry's mode and becomes
active.  The mode outlives its targets.
-/

namespace WalletScreens.Scope

open Theme

/-- Numbers of subscriptions.  Targets and observers share them; the first one is 1.  They stand for
words of 64 bits, and what is said of them is meant below 2 ^ 64. -/
abbrev SubscriptionId := Nat

/-- What a mounted scope owns: its mode and how often that changed.  The revision too stands for a
word of 64 bits, which would start again from 0 after 2 ^ 64 changes; all is meant below that. -/
structure ScopeState where
  mode : Mode
  revision : Nat := 0
deriving DecidableEq, Repr

namespace ScopeState

def theme (scope : ScopeState) : Definition :=
  Catalog.resolve scope.mode

def flip (scope : ScopeState) : ScopeState :=
  ⟨scope.mode.toggled, scope.revision + 1⟩

/-- Brings the scope to a mode; one that is in it already has not changed. -/
def sync (scope : ScopeState) (mode : Mode) : ScopeState :=
  if scope.mode = mode then scope else ⟨mode, scope.revision + 1⟩

@[simp] theorem mode_flip (scope : ScopeState) : scope.flip.mode = scope.mode.toggled := rfl

@[simp] theorem revision_flip (scope : ScopeState) :
    scope.flip.revision = scope.revision + 1 := rfl

@[simp] theorem mode_sync (scope : ScopeState) (mode : Mode) : (scope.sync mode).mode = mode := by
  unfold sync
  split
  · assumption
  · rfl

@[simp] theorem sync_mode (scope : ScopeState) : scope.sync scope.mode = scope := by
  simp [sync]

end ScopeState

/-- A target other than a scope.  It counts what it is told, and may flip to one mode only. -/
structure Switch where
  mode : Mode
  onlyMode : Option Mode := none
  flips : Nat := 0
  syncs : Nat := 0
deriving DecidableEq, Repr

namespace Switch

def flip (switch : Switch) : Switch :=
  { switch with mode := switch.onlyMode.getD switch.mode.toggled, flips := switch.flips + 1 }

def sync (switch : Switch) (mode : Mode) : Switch :=
  { switch with mode := mode, syncs := switch.syncs + 1 }

end Switch

inductive Target where
  | scope (state : ScopeState)
  | switch (state : Switch)
deriving DecidableEq, Repr

namespace Target

def mode : Target → Mode
  | .scope state => state.mode
  | .switch state => state.mode

def flip : Target → Target
  | .scope state => .scope state.flip
  | .switch state => .switch state.flip

def sync (target : Target) (mode : Mode) : Target :=
  match target with
  | .scope state => .scope (state.sync mode)
  | .switch state => .switch (state.sync mode)

@[simp] theorem mode_sync (target : Target) (mode : Mode) : (target.sync mode).mode = mode := by
  cases target with
  | scope state => exact state.mode_sync mode
  | switch state => rfl

end Target

/-- A subscriber to changes of mode, with the number of changes that it still answers with a
request to toggle again. -/
structure Observer where
  id : SubscriptionId
  retoggles : Nat := 0
deriving DecidableEq, Repr

/-- Targets are listed the newest first, observers in the order they are told. -/
structure Registry where
  mode : Mode := .dark
  targets : List (SubscriptionId × Target) := []
  observers : List Observer := []
  lastId : SubscriptionId := 0
deriving DecidableEq, Repr

namespace Registry

def isMounted (registry : Registry) : Bool :=
  !registry.targets.isEmpty

def mountedCount (registry : Registry) : Nat :=
  registry.targets.length

def activeId? (registry : Registry) : Option SubscriptionId :=
  registry.targets.head?.map (·.1)

def isActive (registry : Registry) (id : SubscriptionId) : Bool :=
  registry.activeId? == some id

def target? (registry : Registry) (id : SubscriptionId) : Option Target :=
  registry.targets.lookup id

def scope? (registry : Registry) (id : SubscriptionId) : Option ScopeState :=
  match registry.target? id with
  | some (.scope state) => some state
  | _ => none

/-- Adds a target, which is brought to the registry's mode and becomes the active one. -/
def subscribe (registry : Registry) (target : Target) : SubscriptionId × Registry :=
  let id := registry.lastId + 1
  (id, { registry with
    targets := (id, target.sync registry.mode) :: registry.targets
    lastId := id })

def mount (registry : Registry) : SubscriptionId × Registry :=
  registry.subscribe (.scope ⟨registry.mode, 0⟩)

@[simp] theorem activeId?_subscribe (registry : Registry) (target : Target) :
    (registry.subscribe target).2.activeId? = some (registry.subscribe target).1 := rfl

@[simp] theorem mode_subscribe (registry : Registry) (target : Target) :
    (registry.subscribe target).2.mode = registry.mode := rfl

def observe (registry : Registry) (retoggles : Nat) : SubscriptionId × Registry :=
  let id := registry.lastId + 1
  (id, { registry with
    observers := registry.observers ++ [⟨id, retoggles⟩]
    lastId := id })

def syncActive (mode : Mode) : List (SubscriptionId × Target) → List (SubscriptionId × Target)
  | [] => []
  | (id, target) :: older => (id, target.sync mode) :: older

/-- Ends a subscription.  Only the end of the active target's has any effect on another. -/
def unsubscribe (registry : Registry) (id : SubscriptionId) : Registry :=
  let targets := registry.targets.filter (·.1 != id)
  { registry with
    targets := if registry.isActive id then syncActive registry.mode targets else targets
    observers := registry.observers.filter (·.id != id) }

@[simp] theorem mode_unsubscribe (registry : Registry) (id : SubscriptionId) :
    (registry.unsubscribe id).mode = registry.mode := rfl

def flipActive? (registry : Registry) : Option (Mode × Registry) :=
  match registry.targets with
  | [] => none
  | (id, target) :: older =>
      let flipped := target.flip
      some (flipped.mode, { registry with
        mode := flipped.mode
        targets := (id, flipped) :: older })

theorem flipActive?_eq_none_iff (registry : Registry) :
    registry.flipActive? = none ↔ registry.isMounted = false := by
  cases registry with
  | mk mode targets observers lastId => cases targets <;> simp [flipActive?, isMounted]

def retoggles (registry : Registry) : Nat :=
  registry.observers.foldr (fun observer rest => observer.retoggles + rest) 0

def spendRetoggle? (registry : Registry) (id : SubscriptionId) : Option Registry :=
  if registry.observers.any (fun observer => observer.id == id && 0 < observer.retoggles) then
    some { registry with
      observers := registry.observers.map fun observer =>
        if observer.id == id then { observer with retoggles := observer.retoggles - 1 }
        else observer }
  else none

end Registry

end WalletScreens.Scope
