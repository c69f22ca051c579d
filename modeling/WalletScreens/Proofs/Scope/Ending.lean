import WalletScreens.Proofs.Scope.Newest

/-!
Subscriptions that end together.

Each one that ends may hand over to another that is about to end, so on the way to the last of them
the scopes depend on the order.  What is left does not: it is the subscriptions that stay, the
newest scope among them in the registry's mode.
-/

namespace WalletScreens.Scope

open Theme

/-- Whether an operation leaves a subscription as it is. -/
def Operation.keeps : Operation → SubscriptionId → Bool
  | .drop ended, id | .dropObserver ended, id => id != ended
  | _, _ => true

namespace ScopeState

theorem sync_sync (state : ScopeState) (mode : Mode) :
    (state.sync mode).sync mode = state.sync mode := by
  have synced := (state.sync mode).sync_mode
  rwa [mode_sync] at synced

end ScopeState

namespace Registry

variable {registry : Registry} {keep more : SubscriptionId → Bool}

/-- The registry with the subscriptions that are kept. -/
def keeping (registry : Registry) (keep : SubscriptionId → Bool) : Registry :=
  { registry with
    targets := syncActive registry.mode (registry.targets.filter fun entry => keep entry.1)
    observers := registry.observers.filter fun observer => keep observer.id }

/-- The active scope of a sound registry is in its mode. -/
theorem Sound.syncActive_targets (sound : registry.Sound) :
    syncActive registry.mode registry.targets = registry.targets := by
  rcases sound.newest with none | ⟨id, revision, older, active⟩
  · rw [none]
    rfl
  · rw [active]
    exact congrArg (fun state => (id, Target.scope state) :: older)
      (ScopeState.sync_mode ⟨registry.mode, revision⟩)

theorem Sound.unsubscribe_eq (sound : registry.Sound) (id : SubscriptionId) :
    registry.unsubscribe id = registry.keeping (· != id) := by
  have targets : (registry.unsubscribe id).targets =
      syncActive registry.mode (registry.targets.filter (·.1 != id)) := by
    cases active : registry.isActive id with
    | true => exact targets_unsubscribe_active active
    | false =>
        have synced := (sound.unsubscribe id).syncActive_targets
        rw [mode_unsubscribe, targets_unsubscribe_inactive active] at synced
        rw [targets_unsubscribe_inactive active, synced]
  rw [keeping, ← targets]
  rfl

theorem Sound.keeping_self (sound : registry.Sound) (keep : SubscriptionId → Bool)
    (targets : ∀ id ∈ registry.targetIds, keep id = true)
    (observers : ∀ id ∈ registry.observerIds, keep id = true) :
    registry.keeping keep = registry := by
  have allTargets : registry.targets.filter (fun entry => keep entry.1) = registry.targets :=
    List.filter_eq_self.mpr fun entry member => targets entry.1 (List.mem_map_of_mem member)
  have allObservers : registry.observers.filter (fun observer => keep observer.id) =
      registry.observers :=
    List.filter_eq_self.mpr fun observer member =>
      observers observer.id (List.mem_map_of_mem member)
  rw [keeping, allTargets, allObservers, sound.syncActive_targets]

/-- Whether one is synced that then goes makes no difference, and one that stays is synced once. -/
theorem syncActive_filter_syncActive (mode : Mode) (keep : SubscriptionId → Bool)
    {targets : List (SubscriptionId × Target)}
    (scopes : ∀ entry ∈ targets, ∃ state, entry.2 = .scope state) :
    syncActive mode ((syncActive mode targets).filter fun entry => keep entry.1) =
      syncActive mode (targets.filter fun entry => keep entry.1) := by
  cases targets with
  | nil => rfl
  | cons active older =>
      obtain ⟨state, scope⟩ := scopes active List.mem_cons_self
      obtain ⟨id, target⟩ := active
      cases scope
      rw [syncActive, List.filter_cons, List.filter_cons]
      cases keep id with
      | false => rfl
      | true =>
          exact congrArg (fun state => (id, Target.scope state) :: older.filter _)
            (state.sync_sync mode)

theorem Sound.keeping_keeping (sound : registry.Sound) :
    (registry.keeping keep).keeping more = registry.keeping fun id => keep id && more id := by
  have scopes : ∀ entry ∈ registry.targets.filter (fun entry => keep entry.1),
      ∃ state, entry.2 = .scope state :=
    fun entry member => sound.scopes entry (List.mem_of_mem_filter member)
  have targets := syncActive_filter_syncActive registry.mode more scopes
  simp only [keeping, targets, List.filter_filter, Bool.and_comm]

/-- A scope that stays is brought to the registry's mode if it is the newest of them. -/
theorem scope?_keeping (registry : Registry) (keep : SubscriptionId → Bool) {id : SubscriptionId}
    (kept : keep id = true) :
    (registry.keeping keep).scope? id = (registry.scope? id).map fun state =>
      if (registry.keeping keep).isActive id then state.sync registry.mode else state := by
  let left : Registry :=
    { registry with targets := registry.targets.filter fun entry => keep entry.1 }
  have targets : (registry.keeping keep).targets =
      left.targets.modifyHead fun entry => (entry.1, entry.2.sync registry.mode) :=
    syncActive_eq_modifyHead registry.mode left.targets
  have same : left.scope? id = registry.scope? id := by
    rw [scope?_eq, scope?_eq, lookup_filter keep kept]
  have active : (registry.keeping keep).isActive id = left.isActive id := by
    rw [isActive, isActive, activeId?, activeId?, targets]
    cases left.targets <;> rfl
  rw [scope?_modifyHead (Target.state?_sync registry.mode) targets, same, active]

end Registry

namespace Client

variable {client : Client} {operation : Operation} {operations : List Operation}

/-- What a program holds when some subscriptions are gone. -/
def keeping (client : Client) (keep : SubscriptionId → Bool) : Client where
  stage := { client.stage with registry := client.stage.registry.keeping keep }
  scopes := client.scopes.filter keep
  observers := client.observers.filter keep

/-- Whether an operation ends something that the program holds. -/
def ends (client : Client) : Operation → Bool
  | .drop id => client.scopes.contains id
  | .dropObserver id => client.observers.contains id
  | _ => false

/-- Whether an operation ends something, and nothing of the other kind has its number. -/
def Parts (client : Client) : Operation → Prop
  | .drop id => id ∉ client.observers
  | .dropObserver id => id ∉ client.scopes
  | _ => False

theorem Sound.parts_of_ends (sound : client.Sound) (ending : client.ends operation = true) :
    client.Parts operation := by
  have apart := sound.registry.apart
  rw [sound.scopes, sound.observers] at apart
  cases operation with
  | drop id => exact fun observer => apart (List.contains_iff_mem.mp ending) observer
  | dropObserver id => exact fun scope => apart scope (List.contains_iff_mem.mp ending)
  | _ => contradiction

theorem Parts.keeping {keep : SubscriptionId → Bool} (parts : client.Parts operation) :
    (client.keeping keep).Parts operation := by
  cases operation with
  | drop id => exact fun member => parts (List.mem_of_mem_filter member)
  | dropObserver id => exact fun member => parts (List.mem_of_mem_filter member)
  | _ => contradiction

theorem Sound.keeping_self (sound : client.Sound) {keep : SubscriptionId → Bool}
    (scopes : ∀ id ∈ client.scopes, keep id = true)
    (observers : ∀ id ∈ client.observers, keep id = true) : client.keeping keep = client := by
  have registry := sound.registry.keeping_self keep (by rwa [sound.scopes])
    (by rwa [sound.observers])
  rw [keeping, registry, List.filter_eq_self.mpr scopes, List.filter_eq_self.mpr observers]

theorem Sound.perform_ending (sound : client.Sound) (parts : client.Parts operation) :
    client.perform operation = client.keeping operation.keeps := by
  have others {id : SubscriptionId} {ids : List SubscriptionId} (absent : id ∉ ids) :
      ∀ other ∈ ids, (other != id) = true :=
    fun other member => bne_iff_ne.mpr fun same => absent (same ▸ member)
  cases operation with
  | drop id =>
      by_cases held : id ∈ client.scopes
      · rw [perform_drop held, Stage.unsubscribe, sound.registry.unsubscribe_eq,
          ← List.filter_eq_self.mpr (others parts)]
        rfl
      · rw [Client.perform, if_neg held]
        exact (sound.keeping_self (others held) (others parts)).symm
  | dropObserver id =>
      by_cases held : id ∈ client.observers
      · rw [Client.perform, if_pos held, Stage.unsubscribe, sound.registry.unsubscribe_eq,
          ← List.filter_eq_self.mpr (others parts)]
        rfl
      · rw [Client.perform, if_neg held]
        exact (sound.keeping_self (others parts) (others held)).symm
  | _ => contradiction

/-- What has ended is gone, in whatever order. -/
theorem Sound.run_endings (sound : client.Sound)
    (parts : ∀ operation ∈ operations, client.Parts operation) :
    client.run operations = client.keeping fun id => operations.all (·.keeps id) := by
  induction operations generalizing client with
  | nil => exact (sound.keeping_self (fun _ _ => rfl) (fun _ _ => rfl)).symm
  | cons operation rest ih =>
      have ending := sound.perform_ending (parts operation List.mem_cons_self)
      have later : ∀ other ∈ rest, (client.perform operation).Parts other := by
        intro other member
        rw [ending]
        exact (parts other (List.mem_cons_of_mem _ member)).keeping
      -- A scope that was synced when the first one ended may be among those that end later.
      rw [run_cons, ih (sound.perform operation) later, ending, keeping, keeping, keeping,
        sound.registry.keeping_keeping, List.filter_filter, List.filter_filter]
      simp only [List.all_cons, Bool.and_comm]

/-- Subscriptions that end one after the other leave the same in any order: those of the scopes and
observers that none of the operations ends, in the mode that the registry was in.  A scope that
stays is as it was, unless it is the newest of them; that one is in the registry's mode, with at
most one change more. -/
theorem ends_in_any_order (start : Mode) (operations first second : List Operation)
    (ending : ∀ operation ∈ first, ((started start).run operations).ends operation = true)
    (reordered : first.Perm second) :
    let client := (started start).run operations
    let left := client.run first
    left = client.run second ∧ left.mode = client.mode ∧
      left.scopes = client.scopes.filter (fun id => first.all (·.keeps id)) ∧
      left.observers = client.observers.filter (fun id => first.all (·.keeps id)) ∧
      ∀ id ∈ left.scopes, left.scope? id = (client.scope? id).map fun state =>
        if left.scopes.head? = some id then state.sync client.mode else state := by
  intro client left
  have sound : client.Sound := (sound_started start).run operations
  have parts : ∀ operation ∈ first, client.Parts operation := fun operation member =>
    sound.parts_of_ends (ending operation member)
  have firstEnded : left = _ := sound.run_endings parts
  have secondEnded := sound.run_endings fun operation member =>
    parts operation (reordered.mem_iff.mpr member)
  have after : left.Sound := sound.run first
  refine ⟨?_, ?_, ?_, ?_, ?_⟩
  · have same : (fun id => first.all (·.keeps id)) = fun id => second.all (·.keeps id) :=
      funext fun id => reordered.all_eq
    rw [firstEnded, secondEnded, same]
  · rw [firstEnded]
    rfl
  · rw [firstEnded]
    rfl
  · rw [firstEnded]
    rfl
  · intro id stays
    have newest : left.stage.registry.isActive id = true ↔ left.scopes.head? = some id := by
      rw [Registry.isActive, after.activeId?, beq_iff_eq]
    have kept : first.all (·.keeps id) = true := by
      rw [firstEnded] at stays
      exact (List.mem_filter.mp stays).2
    have state := client.stage.registry.scope?_keeping (fun id => first.all (·.keeps id)) kept
    rw [firstEnded] at newest ⊢
    simp only [← newest]
    exact state

/-- The scope that stays misses two toggles; whichever of the two others hands over to it, it
changes once. -/
theorem ends_of_two_scopes :
    let operations := [.mount, .mount, .tryToggle, .mount, .observe 0]
    let first : List Operation := [.drop 3, .dropObserver 4, .drop 2]
    let second : List Operation := [.drop 2, .drop 3, .dropObserver 4]
    let client := (started .dark).run operations
    (∀ operation ∈ first, client.ends operation = true) ∧ first.Perm second ∧
      client.run first = client.run second ∧
      (client.run first).scope? 1 = some ⟨.light, 1⟩ := by
  intro operations first second client
  have ending : ∀ operation ∈ first, client.ends operation = true := by decide
  have reordered : first.Perm second := by decide
  obtain ⟨same, -, -, -, left⟩ := ends_in_any_order .dark operations first second ending reordered
  exact ⟨ending, reordered, same, left 1 (by decide)⟩

end Client

end WalletScreens.Scope
