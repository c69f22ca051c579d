import WalletScreens.Scope.Stage

/-!
Registries in lockstep.

What a change of mode does depends on the scopes that are mounted only through the active one being
in the registry's mode.  Two registries that differ in their scopes alone stay like that.
-/

namespace WalletScreens.Scope

open Theme

namespace Registry

/-- The active target is a scope that is in the registry's mode. -/
def Led (registry : Registry) : Prop :=
  ∃ id revision older, registry.targets = (id, .scope ⟨registry.mode, revision⟩) :: older

theorem Led.flipActive? {registry : Registry} (led : registry.Led) :
    ∃ flipped, registry.flipActive? = some (registry.mode.toggled, flipped) ∧ flipped.Led ∧
      flipped.mode = registry.mode.toggled ∧ flipped.observers = registry.observers := by
  obtain ⟨id, revision, older, targets⟩ := led
  refine ⟨{ registry with
    mode := registry.mode.toggled
    targets := (id, .scope ⟨registry.mode.toggled, revision + 1⟩) :: older }, ?_, ?_, rfl, rfl⟩
  · rw [Registry.flipActive?, targets]
    rfl
  · exact ⟨id, revision + 1, older, rfl⟩

end Registry

namespace Stage

/-- Two stages that differ in their scopes alone, both of them led by one. -/
structure Abreast (first second : Stage) : Prop where
  mode : first.registry.mode = second.registry.mode
  observers : first.registry.observers = second.registry.observers
  reports : first.reports = second.reports
  notices : first.notices = second.notices
  ambient : first.ambient = second.ambient
  led : first.registry.Led
  otherLed : second.registry.Led

variable {first second : Stage}

namespace Abreast

theorem report (abreast : first.Abreast second) (report : Report) :
    (first.report report).Abreast (second.report report) :=
  { abreast with reports := congrArg (· ++ [report]) abreast.reports }

theorem retoggles (abreast : first.Abreast second) :
    first.registry.retoggles = second.registry.retoggles := by
  rw [Registry.retoggles, Registry.retoggles, abreast.observers]

theorem flipActive? (abreast : first.Abreast second) :
    ∃ mode registry other, first.registry.flipActive? = some (mode, registry) ∧
      second.registry.flipActive? = some (mode, other) ∧
      { first with registry }.Abreast { second with registry := other } := by
  obtain ⟨registry, flipped, led, mode, observers⟩ := abreast.led.flipActive?
  obtain ⟨other, otherFlipped, otherLed, otherMode, otherObservers⟩ := abreast.otherLed.flipActive?
  rw [← abreast.mode] at otherFlipped otherMode
  refine ⟨first.registry.mode.toggled, registry, other, flipped, otherFlipped, ?_⟩
  exact { abreast with
    mode := mode.trans otherMode.symm
    observers := (observers.trans abreast.observers).trans otherObservers.symm
    led, otherLed }

theorem spendRetoggle?_none (abreast : first.Abreast second) {observer : SubscriptionId}
    (unpaid : first.registry.spendRetoggle? observer = none) :
    second.registry.spendRetoggle? observer = none := by
  unfold Registry.spendRetoggle? at unpaid ⊢
  rw [← abreast.observers]
  split at unpaid
  · contradiction
  · rename_i unable
    rw [if_neg unable]

theorem spendRetoggle?_some (abreast : first.Abreast second) {observer : SubscriptionId}
    {registry : Registry} (paid : first.registry.spendRetoggle? observer = some registry) :
    ∃ other, second.registry.spendRetoggle? observer = some other ∧
      { first with registry }.Abreast { second with registry := other } := by
  unfold Registry.spendRetoggle? at paid ⊢
  rw [← abreast.observers]
  split at paid
  · rename_i able
    cases paid
    rw [if_pos able]
    exact ⟨_, rfl, { abreast with observers := rfl }⟩
  · contradiction

section

variable {announce : Mode → Stage → Stage}
  (announces : ∀ (mode : Mode) {first second : Stage}, first.Abreast second →
    (announce mode first).Abreast (announce mode second))
include announces

theorem requestThrough (abreast : first.Abreast second) :
    (requestThrough announce first).Abreast (requestThrough announce second) := by
  obtain ⟨mode, registry, other, flipped, otherFlipped, next⟩ := abreast.flipActive?
  rw [Stage.requestThrough, Stage.requestThrough, flipped, otherFlipped]
  exact announces mode next

theorem tell (abreast : first.Abreast second) (mode : Mode) (observer : SubscriptionId) :
    (tell announce mode first observer).Abreast (tell announce mode second observer) := by
  have told := abreast.report (.received observer mode first.registry.mode)
  unfold Stage.tell
  rw [← abreast.mode]
  dsimp only
  -- Both observers have the same retoggles left: either both answer or neither does.
  cases paid : (first.report (.received observer mode first.registry.mode)).registry.spendRetoggle?
      observer with
  | none =>
      rw [told.spendRetoggle?_none paid]
      exact told
  | some registry =>
      obtain ⟨other, otherPaid, next⟩ := told.spendRetoggle?_some paid
      have answered := next.requestThrough announces
      rw [otherPaid]
      dsimp only
      rw [← answered.mode]
      exact answered.report _

end

theorem announceWithin (abreast : first.Abreast second) (depth : Nat) (mode : Mode) :
    (announceWithin depth mode first).Abreast (announceWithin depth mode second) := by
  induction depth generalizing mode first second with
  | zero => exact abreast
  | succ depth ih =>
      unfold Stage.announceWithin
      rw [← abreast.observers]
      generalize first.registry.observers.map (·.id) = observers
      induction observers generalizing first second with
      | nil => exact abreast
      | cons observer rest told =>
          exact told (abreast.tell (fun mode _ _ abreast => ih abreast mode) mode observer)

theorem announce (abreast : first.Abreast second) (mode : Mode) :
    (announce mode first).Abreast (announce mode second) := by
  rw [Stage.announce, Stage.announce, abreast.retoggles]
  exact abreast.announceWithin _ mode

theorem requestToggle (abreast : first.Abreast second) :
    first.requestToggle.Abreast second.requestToggle :=
  abreast.requestThrough fun mode _ _ abreast => abreast.announce mode

theorem tryToggle (abreast : first.Abreast second) :
    first.tryToggle.2.Abreast second.tryToggle.2 := by
  obtain ⟨mode, registry, other, flipped, otherFlipped, next⟩ := abreast.flipActive?
  rw [Stage.tryToggle, Stage.tryToggle, flipped, otherFlipped]
  exact next.announce mode

theorem setMode (abreast : first.Abreast second) (mode : Mode) :
    (first.setMode mode).Abreast (second.setMode mode) := by
  unfold Stage.setMode
  rw [← abreast.mode]
  split
  · exact abreast
  · obtain ⟨mode, registry, other, flipped, otherFlipped, next⟩ := abreast.flipActive?
    rw [flipped, otherFlipped]
    exact next.announce mode

end Abreast

end Stage

end WalletScreens.Scope
