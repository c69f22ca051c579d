import Mathlib.Dynamics.PeriodicPts.Defs
import WalletScreens.Scope.Stage

/-!
Registries before and after flips of the active target.

Between two flips observers may spend retoggles.  Neither touches who is subscribed.
-/

namespace WalletScreens.Scope

open Theme

theorem toggled_iterate_congr {toggles more : Nat} (parity : more % 2 = toggles % 2) (mode : Mode) :
    Mode.toggled^[more] mode = Mode.toggled^[toggles] mode := by
  have periodic : Function.IsPeriodicPt Mode.toggled 2 mode := mode.toggled_toggled
  rw [← periodic.iterate_mod_apply more, parity, periodic.iterate_mod_apply]

namespace Target

theorem flip_scope (count : Nat) (state : ScopeState) :
    Target.flip^[count] (.scope state) = .scope (ScopeState.flip^[count] state) := by
  induction count generalizing state with
  | zero => rfl
  | succ count ih => exact ih state.flip

end Target

namespace ScopeState

theorem flip_iterate (count : Nat) (state : ScopeState) :
    ScopeState.flip^[count] state =
      ⟨Mode.toggled^[count] state.mode, state.revision + count⟩ := by
  induction count generalizing state with
  | zero => rfl
  | succ count ih =>
      rw [Function.iterate_succ_apply, Function.iterate_succ_apply, ih, mode_flip, revision_flip,
        Nat.add_right_comm, Nat.add_assoc]

end ScopeState

namespace Registry

variable {registry before middle after : Registry} {count more : Nat}

def targetIds (registry : Registry) : List SubscriptionId :=
  registry.targets.map Prod.fst

def observerIds (registry : Registry) : List SubscriptionId :=
  registry.observers.map Observer.id

/-- The active target, if there is one, is in the registry's mode. -/
def Agreeing (registry : Registry) : Prop :=
  ∀ entry ∈ registry.targets.head?, entry.2.mode = registry.mode

/-- `after` is `before` with the active target flipped `count` times.  Observers may have spent
retoggles in between. -/
structure Turned (count : Nat) (before after : Registry) : Prop where
  targets : after.targets =
    before.targets.modifyHead fun entry => (entry.1, Target.flip^[count] entry.2)
  agreeing : before.Agreeing → after.Agreeing
  idle : count = 0 → after.mode = before.mode
  observerIds : after.observerIds = before.observerIds
  lastId : after.lastId = before.lastId

namespace Turned

theorem refl (registry : Registry) : Turned 0 registry registry where
  targets := by cases registry.targets <;> rfl
  agreeing := id
  idle _ := rfl
  observerIds := rfl
  lastId := rfl

theorem trans (first : Turned count before middle) (second : Turned more middle after) :
    Turned (count + more) before after where
  targets := by
    rw [second.targets, first.targets, Nat.add_comm]
    cases before.targets with
    | nil => rfl
    | cons entry older => simp only [List.modifyHead_cons, Function.iterate_add_apply]
  agreeing agreed := second.agreeing (first.agreeing agreed)
  idle none := (second.idle (by omega)).trans (first.idle (by omega))
  observerIds := second.observerIds.trans first.observerIds
  lastId := second.lastId.trans first.lastId

theorem isMounted (turned : Turned count before after) : after.isMounted = before.isMounted := by
  rw [Registry.isMounted, Registry.isMounted, turned.targets]
  cases before.targets <;> rfl

theorem targetIds (turned : Turned count before after) : after.targetIds = before.targetIds := by
  rw [Registry.targetIds, Registry.targetIds, turned.targets]
  cases before.targets <;> rfl

/-- Where the active target is a scope in the registry's mode, each flip toggles both modes and
advances the scope's revision. -/
theorem of_scope {id : SubscriptionId} {revision : Nat}
    {older : List (SubscriptionId × Target)} (turned : Turned count before after)
    (active : before.targets = (id, .scope ⟨before.mode, revision⟩) :: older) :
    after.mode = Mode.toggled^[count] before.mode ∧
      after.targets =
        (id, .scope ⟨Mode.toggled^[count] before.mode, revision + count⟩) :: older := by
  have targets := turned.targets
  rw [active, List.modifyHead_cons, Target.flip_scope, ScopeState.flip_iterate] at targets
  have agreed : before.Agreeing := by
    intro entry member
    rw [active, List.head?_cons, Option.mem_some_iff] at member
    rw [← member]
    rfl
  have mode := turned.agreeing agreed _ (by rw [targets]; rfl)
  exact ⟨mode.symm, targets⟩

end Turned

theorem turned_of_flipActive? {mode : Mode} (flipped : before.flipActive? = some (mode, after)) :
    Turned 1 before after := by
  cases mounted : before.targets with
  | nil => simp [flipActive?, mounted] at flipped
  | cons entry older =>
      simp only [flipActive?, mounted, Option.some.injEq, Prod.mk.injEq] at flipped
      obtain ⟨-, rfl⟩ := flipped
      refine ⟨by simp [mounted], fun _ => ?_, by simp, rfl, rfl⟩
      intro active member
      rw [List.head?_cons, Option.mem_some_iff] at member
      rw [← member]

theorem turned_of_spendRetoggle? {id : SubscriptionId}
    (spent : before.spendRetoggle? id = some after) : Turned 0 before after := by
  unfold spendRetoggle? at spent
  split at spent
  · cases Option.some.inj spent
    refine ⟨(Turned.refl before).targets, fun agreed => agreed, fun _ => rfl, ?_, rfl⟩
    simp only [observerIds, List.map_map]
    refine List.map_congr_left fun observer _ => ?_
    simp only [Function.comp_apply]
    split <;> rfl
  · contradiction

/-- How many retoggles observers have left, all together. -/
private def total (observers : List Observer) : Nat :=
  observers.foldr (fun observer rest => observer.retoggles + rest) 0

/-- An observer after the one of this number spends a retoggle. -/
private def spend (id : SubscriptionId) (observer : Observer) : Observer :=
  if observer.id == id then { observer with retoggles := observer.retoggles - 1 } else observer

private theorem retoggles_spend_le (id : SubscriptionId) (observer : Observer) :
    (spend id observer).retoggles ≤ observer.retoggles := by
  unfold spend
  split
  · exact Nat.sub_le _ _
  · exact Nat.le_refl _

private theorem total_spend_le (id : SubscriptionId) (observers : List Observer) :
    total (observers.map (spend id)) ≤ total observers := by
  induction observers with
  | nil => exact Nat.le_refl 0
  | cons observer rest ih =>
      have first := retoggles_spend_le id observer
      simp only [total, List.map_cons, List.foldr_cons] at ih ⊢
      omega

private theorem total_spend_lt {id : SubscriptionId} {observers : List Observer}
    (able : observers.any fun observer => observer.id == id && 0 < observer.retoggles) :
    total (observers.map (spend id)) < total observers := by
  induction observers with
  | nil => contradiction
  | cons observer rest ih =>
      have others := total_spend_le id rest
      simp only [total, List.map_cons, List.foldr_cons] at ih others ⊢
      simp only [List.any_cons, Bool.or_eq_true, Bool.and_eq_true, decide_eq_true_eq] at able
      rcases able with ⟨same, left⟩ | able
      · simp only [spend, same, if_true]
        omega
      · have first := retoggles_spend_le id observer
        have spent := ih able
        omega

theorem retoggles_of_spendRetoggle? {id : SubscriptionId}
    (spent : before.spendRetoggle? id = some after) : after.retoggles < before.retoggles := by
  unfold spendRetoggle? at spent
  split at spent
  · rename_i able
    cases Option.some.inj spent
    exact total_spend_lt able
  · contradiction

theorem retoggles_of_flipActive? {mode : Mode} (flipped : before.flipActive? = some (mode, after)) :
    after.retoggles = before.retoggles := by
  unfold flipActive? at flipped
  split at flipped
  · contradiction
  · cases flipped
    rfl

end Registry

end WalletScreens.Scope
