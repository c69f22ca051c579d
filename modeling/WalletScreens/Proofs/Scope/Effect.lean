import WalletScreens.Proofs.Scope.Sound

/-!
What the operations of a registry do to the scope of a given number.

A flip reaches the active scope only.  To bring a scope to a mode is to flip it once or not at all,
so whatever happens to a scope is a number of flips.
-/

namespace WalletScreens.Scope

open Theme

namespace ScopeState

theorem sync_eq_flip (state : ScopeState) (mode : Mode) :
    state.sync mode = ScopeState.flip^[if state.mode = mode then 0 else 1] state := by
  by_cases same : state.mode = mode
  · rw [sync, if_pos same, if_pos same]
    rfl
  · rw [sync, if_neg same, if_neg same, ← Mode.toggled_eq_of_ne same]
    rfl

end ScopeState

namespace Target

def state? : Target → Option ScopeState
  | .scope state => some state
  | .switch _ => none

theorem state?_flip_iterate (count : Nat) (target : Target) :
    (Target.flip^[count] target).state? = target.state?.map ScopeState.flip^[count] := by
  induction count generalizing target with
  | zero => cases target <;> rfl
  | succ count ih =>
      rw [Function.iterate_succ_apply, ih]
      cases target <;> rfl

theorem state?_sync (mode : Mode) (target : Target) :
    (target.sync mode).state? = target.state?.map (·.sync mode) := by
  cases target <;> rfl

end Target

namespace Registry

variable {registry before after : Registry} {count : Nat}
  {older : List (SubscriptionId × Target)}

theorem scope?_eq (registry : Registry) (id : SubscriptionId) :
    registry.scope? id = (registry.targets.lookup id).bind Target.state? := by
  rw [scope?, target?]
  cases registry.targets.lookup id with
  | none => rfl
  | some target => cases target <;> rfl

theorem mem_targetIds_of_scope? {id : SubscriptionId} {state : ScopeState}
    (live : registry.scope? id = some state) : id ∈ registry.targetIds := by
  rw [scope?_eq] at live
  obtain ⟨target, found, -⟩ := Option.bind_eq_some_iff.mp live
  obtain ⟨newer, older, split, -⟩ := List.lookup_eq_some_iff.mp found
  rw [targetIds, split, List.map_append]
  exact List.mem_append_right _ List.mem_cons_self

theorem scope?_cons (active : SubscriptionId × Target)
    (targets : registry.targets = active :: older) (id : SubscriptionId) :
    registry.scope? id =
      if id = active.1 then active.2.state? else (older.lookup id).bind Target.state? := by
  rw [scope?_eq, targets]
  split
  · rename_i same
    rw [List.lookup_cons, beq_iff_eq.mpr same, Option.bind_some]
  · rename_i other
    rw [List.lookup_cons, beq_eq_false_iff_ne.mpr other]

theorem isActive_cons {active : SubscriptionId × Target}
    (targets : registry.targets = active :: older) (id : SubscriptionId) :
    registry.isActive id = true ↔ id = active.1 := by
  rw [isActive, activeId?, targets, List.head?_cons, Option.map_some, beq_iff_eq,
    Option.some_inj]
  exact eq_comm

/-- A change of the active target is a change of the scope of that number alone. -/
theorem scope?_modifyHead {change : Target → Target} {changed : ScopeState → ScopeState}
    (changes : ∀ target, (change target).state? = target.state?.map changed)
    (targets : after.targets = before.targets.modifyHead fun entry => (entry.1, change entry.2))
    (id : SubscriptionId) :
    after.scope? id =
      (before.scope? id).map fun state => if before.isActive id then changed state else state := by
  cases found : before.targets with
  | nil =>
      rw [found] at targets
      rw [scope?_eq, scope?_eq, targets, found]
      rfl
  | cons active older =>
      rw [found, List.modifyHead_cons] at targets
      rw [scope?_cons _ targets, scope?_cons _ found]
      by_cases same : id = active.1
      · rw [if_pos same, if_pos same, changes]
        simp only [(isActive_cons found id).mpr same, if_true]
      · have background : before.isActive id = false := by
          rw [← Bool.not_eq_true, isActive_cons found]
          exact same
        rw [if_neg same, if_neg same, background]
        exact (Option.map_id_apply ..).symm

theorem Turned.scope? (turned : Turned count before after) (id : SubscriptionId) :
    after.scope? id = (before.scope? id).map fun state =>
      if before.isActive id then ScopeState.flip^[count] state else state :=
  scope?_modifyHead (Target.state?_flip_iterate count) turned.targets id

theorem scope?_mount (registry : Registry) (id : SubscriptionId) :
    registry.mount.2.scope? id =
      if id = registry.lastId + 1 then some ⟨registry.mode, 0⟩ else registry.scope? id := by
  have targets : registry.mount.2.targets =
      (registry.lastId + 1, (Target.scope ⟨registry.mode, 0⟩).sync registry.mode) ::
        registry.targets := rfl
  rw [scope?_cons _ targets, scope?_eq]
  split
  · exact congrArg some (ScopeState.sync_mode ⟨registry.mode, 0⟩)
  · rfl

theorem lookup_filter (keep : SubscriptionId → Bool) {id : SubscriptionId} (kept : keep id = true)
    (targets : List (SubscriptionId × Target)) :
    (targets.filter fun entry => keep entry.1).lookup id = targets.lookup id := by
  induction targets with
  | nil => rfl
  | cons entry rest ih =>
      rw [List.filter_cons, List.lookup_cons]
      cases stays : keep entry.1 with
      | true => rw [if_pos rfl, List.lookup_cons, ih]
      | false =>
          have other : id ≠ entry.1 := fun same => by simp [← same, kept] at stays
          rw [if_neg Bool.false_ne_true, ih, beq_eq_false_iff_ne.mpr other]

theorem syncActive_eq_modifyHead (mode : Mode) (targets : List (SubscriptionId × Target)) :
    syncActive mode targets = targets.modifyHead fun entry => (entry.1, entry.2.sync mode) := by
  cases targets <;> rfl

/-- A scope that stays is brought to the registry's mode if it takes over from the one that
leaves, and is left alone otherwise. -/
theorem scope?_unsubscribe (registry : Registry) {other id : SubscriptionId}
    (differs : id ≠ other) :
    (registry.unsubscribe other).scope? id = (registry.scope? id).map fun state =>
      if registry.isActive other ∧ (registry.unsubscribe other).isActive id then
        state.sync registry.mode
      else state := by
  let left : Registry := { registry with targets := registry.targets.filter (·.1 != other) }
  have kept : left.scope? id = registry.scope? id := by
    rw [scope?_eq, scope?_eq, lookup_filter (· != other) (bne_iff_ne.mpr differs)]
  rw [← kept]
  cases active : registry.isActive other with
  | false =>
      rw [scope?_eq, targets_unsubscribe_inactive active, ← scope?_eq left]
      simp
  | true =>
      have targets : (registry.unsubscribe other).targets =
          left.targets.modifyHead fun entry => (entry.1, entry.2.sync registry.mode) := by
        rw [targets_unsubscribe_active active, syncActive_eq_modifyHead]
      have taken : (registry.unsubscribe other).isActive id = left.isActive id := by
        rw [isActive, isActive, activeId?, activeId?, targets]
        cases left.targets <;> rfl
      rw [scope?_modifyHead (Target.state?_sync registry.mode) targets, taken]
      simp

theorem notMem_targetIds_unsubscribe (registry : Registry) (id : SubscriptionId) :
    id ∉ (registry.unsubscribe id).targetIds := by
  rw [targetIds_unsubscribe]
  simp

end Registry

end WalletScreens.Scope
