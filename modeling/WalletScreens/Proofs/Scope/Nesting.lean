import WalletScreens.Proofs.Scope.Lockstep
import WalletScreens.Proofs.Scope.Newest

/-!
Nested scopes.

While a scope is mounted over another it takes the changes in its place.  The other one is brought
to the registry's mode once it ends, so that of all the changes that it missed only their parity is
left to see.
-/

namespace WalletScreens.Scope

open Theme

namespace Operation

/-- Whether an operation asks for a mode: it toggles, or it sets one. -/
def isRequest : Operation → Bool
  | .tryToggle | .requestToggle | .toggleThrough _ | .setMode _ => true
  | _ => false

/-- A request as it is made where a scope is not mounted: one through that scope is made of the
registry itself. -/
def outside (scope : SubscriptionId) : Operation → Operation
  | .toggleThrough id => if id = scope then .tryToggle else .toggleThrough id
  | operation => operation

end Operation

namespace ScopeState

/-- A scope that missed some changes is flipped once if their number is odd. -/
theorem sync_toggled_iterate (count : Nat) (state : ScopeState) :
    state.sync (Mode.toggled^[count] state.mode) =
      ⟨Mode.toggled^[count] state.mode, state.revision + count % 2⟩ := by
  have parity : Mode.toggled^[count] state.mode = Mode.toggled^[count % 2] state.mode :=
    toggled_iterate_congr (Nat.mod_mod count 2).symm state.mode
  rw [sync_eq, parity]
  rcases Nat.mod_two_eq_zero_or_one count with even | odd
  · rw [even, Function.iterate_zero_apply, if_pos rfl]
  · rw [odd, Function.iterate_one, if_neg state.mode.toggled_ne.symm]

end ScopeState

namespace Registry

theorem Led.of_sound {registry : Registry} (sound : registry.Sound)
    (mounted : registry.targets ≠ []) : registry.Led :=
  sound.newest.resolve_left mounted

/-- The target that takes over is brought to the registry's mode, and those before it stay as
they are. -/
theorem targets_handed_over {registry : Registry} {id : SubscriptionId} {target : Target}
    {next : SubscriptionId × Target} {older : List (SubscriptionId × Target)}
    (targets : registry.targets = (id, target) :: next :: older)
    (others : ∀ entry ∈ next :: older, entry.1 ≠ id) :
    (registry.unsubscribe id).targets = (next.1, next.2.sync registry.mode) :: older := by
  have left : registry.targets.filter (·.1 != id) = next :: older := by
    rw [targets, List.filter_cons_of_neg (by simp), List.filter_eq_self]
    exact fun entry member => by simpa using others entry member
  rw [targets_unsubscribe_active ((isActive_cons targets id).mpr rfl), left]
  rfl

end Registry

namespace Client

variable {client direct nested : Client} {operation : Operation} {scope : SubscriptionId}

/-- How often the registry's mode changes while an operation is performed: with each toggle that
is issued while a scope is live, and with another mode that is set. -/
def changesIn (client : Client) (operation : Operation) : Nat :=
  client.togglesIn operation + if client.sets operation then 1 else 0

/-- How often the registry's mode changes in a run. -/
def changes (client : Client) : List Operation → Nat
  | [] => 0
  | operation :: rest => client.changesIn operation + (client.perform operation).changes rest

theorem asks_of_sets (setting : client.sets operation = true) : client.asks operation = false := by
  cases operation with
  | setMode mode => rfl
  | _ => contradiction

/-- With a scope live, a change that is asked for is followed by one for each answer to it. -/
theorem changesIn_eq (live : client.scopes ≠ [])
    (changing : client.asks operation = true ∨ client.sets operation = true) :
    client.changesIn operation = client.answered operation + 1 := by
  rw [changesIn, togglesIn, if_neg live]
  rcases changing with asking | setting
  · have unset : client.sets operation = false := by
      cases operation with
      | setMode mode => contradiction
      | _ => rfl
    rw [asking, unset, if_pos rfl, if_neg Bool.false_ne_true, Nat.add_zero, Nat.add_comm]
  · rw [asks_of_sets setting, setting, if_pos rfl, if_neg Bool.false_ne_true, Nat.zero_add]

/-- A request that neither asks for a toggle nor sets another mode does nothing. -/
theorem perform_of_idle (request : operation.isRequest = true)
    (unasked : client.asks operation = false) (unset : client.sets operation = false) :
    client.perform operation = client := by
  cases operation with
  | toggleThrough id =>
      have absent : id ∉ client.scopes := by simpa [asks] using unasked
      exact if_neg absent
  | setMode mode =>
      have same : client.mode = mode := (bne_eq_false_iff_eq.mp unset).symm
      exact perform_setMode_of_same same
  | _ => contradiction

theorem Sound.turned_request (sound : client.Sound) (live : client.scopes ≠ [])
    (request : operation.isRequest = true) :
    Registry.Turned (client.changesIn operation) client.stage.registry
      (client.perform operation).stage.registry := by
  by_cases changing : client.asks operation = true ∨ client.sets operation = true
  · rw [changesIn_eq live changing]
    exact sound.turned_perform live changing
  · simp only [not_or, Bool.not_eq_true] at changing
    obtain ⟨unasked, unset⟩ := changing
    have none : client.changesIn operation = 0 := by
      simp [changesIn, togglesIn, answered, unasked, unset,
        perform_of_idle request unasked unset]
    rw [none, perform_of_idle request unasked unset]
    exact .refl _

theorem scopes_request (request : operation.isRequest = true) :
    (client.perform operation).scopes = client.scopes := by
  cases operation with
  | tryToggle => rfl
  | requestToggle => rfl
  | toggleThrough id =>
      rw [perform]
      split <;> rfl
  | setMode mode => rfl
  | _ => contradiction

theorem Sound.turned_requests (sound : client.Sound) (live : client.scopes ≠ [])
    {operations : List Operation}
    (requests : ∀ operation ∈ operations, operation.isRequest = true) :
    Registry.Turned (client.changes operations) client.stage.registry
      (client.run operations).stage.registry := by
  induction operations generalizing client with
  | nil => exact .refl _
  | cons operation rest ih =>
      have request := requests operation List.mem_cons_self
      have stays : (client.perform operation).scopes ≠ [] := by
        rwa [scopes_request request]
      have later := ih (sound.perform operation) stays fun other member =>
        requests other (List.mem_cons_of_mem _ member)
      exact (sound.turned_request live request).trans later

/-- `nested` is `direct` with a scope mounted over its own. -/
structure Nested (scope : SubscriptionId) (direct nested : Client) : Prop where
  abreast : direct.stage.Abreast nested.stage
  scopes : nested.scopes = scope :: direct.scopes
  observers : nested.observers = direct.observers
  live : direct.scopes ≠ []

theorem Nested.perform (nesting : Nested scope direct nested)
    (request : operation.isRequest = true) :
    Nested scope (direct.perform (operation.outside scope)) (nested.perform operation) := by
  cases operation with
  | tryToggle => exact { nesting with abreast := nesting.abreast.tryToggle }
  | requestToggle => exact { nesting with abreast := nesting.abreast.requestToggle }
  | setMode mode => exact { nesting with abreast := nesting.abreast.setMode mode }
  | toggleThrough id =>
      have held : id ∈ nested.scopes ↔ id = scope ∨ id ∈ direct.scopes := by
        rw [nesting.scopes, List.mem_cons]
      rw [Operation.outside, Client.perform]
      by_cases own : id = scope
      · rw [if_pos own, if_pos (held.mpr (.inl own))]
        exact { nesting with abreast := nesting.abreast.tryToggle }
      · rw [if_neg own, Client.perform]
        by_cases older : id ∈ direct.scopes
        · rw [if_pos older, if_pos (held.mpr (.inr older))]
          exact { nesting with abreast := nesting.abreast.tryToggle }
        · rw [if_neg older, if_neg fun member => (held.mp member).elim own older]
          exact nesting
  | _ => contradiction

theorem isRequest_outside (scope : SubscriptionId) (operation : Operation) :
    (operation.outside scope).isRequest = operation.isRequest := by
  cases operation with
  | toggleThrough id =>
      rw [Operation.outside]
      split <;> rfl
  | _ => rfl

theorem Nested.asks (nesting : Nested scope direct nested) (operation : Operation) :
    direct.asks (operation.outside scope) = nested.asks operation := by
  cases operation with
  | toggleThrough id =>
      rw [Operation.outside, Client.asks, nesting.scopes, List.contains_cons]
      split
      · rename_i own
        simp [own, Client.asks]
      · rename_i other
        simp [other, Client.asks]
  | _ => rfl

theorem Nested.sets (nesting : Nested scope direct nested) (operation : Operation) :
    direct.sets (operation.outside scope) = nested.sets operation := by
  cases operation with
  | toggleThrough id =>
      rw [Operation.outside]
      split <;> rfl
  | setMode mode =>
      have same : direct.mode = nested.mode := nesting.abreast.mode
      exact congrArg (mode != ·) same
  | _ => rfl

theorem Nested.changesIn (nesting : Nested scope direct nested)
    (request : operation.isRequest = true) :
    direct.changesIn (operation.outside scope) = nested.changesIn operation := by
  have answered : direct.answered (operation.outside scope) = nested.answered operation := by
    rw [Client.answered, Client.answered, Stage.answers, Stage.answers, Stage.answers,
      Stage.answers, nesting.abreast.reports, (nesting.perform request).abreast.reports]
  have live : nested.scopes ≠ [] := by simp [nesting.scopes]
  rw [Client.changesIn, Client.changesIn, togglesIn, togglesIn, if_neg nesting.live, if_neg live,
    nesting.asks, nesting.sets, answered]

/-- Requests that are made beneath a scope and beside it go on in step. -/
theorem Nested.run (nesting : Nested scope direct nested) {operations : List Operation}
    (requests : ∀ operation ∈ operations, operation.isRequest = true) :
    Nested scope (direct.run (operations.map (·.outside scope))) (nested.run operations) ∧
      direct.changes (operations.map (·.outside scope)) = nested.changes operations := by
  induction operations generalizing direct nested with
  | nil => exact ⟨nesting, rfl⟩
  | cons operation rest ih =>
      have request := requests operation List.mem_cons_self
      obtain ⟨later, counted⟩ := ih (nesting.perform request) fun other member =>
        requests other (List.mem_cons_of_mem _ member)
      refine ⟨later, ?_⟩
      rw [List.map_cons, changes, changes, nesting.changesIn request, counted]

theorem Sound.nested_mount (sound : client.Sound) (live : client.scopes ≠ []) :
    Nested client.stage.mount.1 client (client.perform .mount) where
  abreast :=
    { mode := rfl
      observers := rfl
      reports := rfl
      notices := rfl
      ambient := rfl
      led := .of_sound sound.registry (by rwa [← sound.scopes, Ne, Registry.targetIds,
        List.map_eq_nil_iff] at live)
      otherLed := .of_sound sound.registry.mount (List.cons_ne_nil _ _) }
  scopes := rfl
  observers := rfl
  live := live

/-- A scope that is mounted over another leaves the rest as it is without it. -/
theorem Nested.ended (nesting : Nested scope direct nested) (sound : nested.Sound) :
    let returned := nested.perform (.drop scope)
    returned.mode = direct.mode ∧ returned.scopes = direct.scopes ∧
      returned.observers = direct.observers ∧
      returned.stage.registry.observers = direct.stage.registry.observers ∧
      returned.stage.reports = direct.stage.reports := by
  intro returned
  have held : scope ∈ nested.scopes := by simp [nesting.scopes]
  have ended : returned = _ := perform_drop held
  have notObserver :
      ∀ observer ∈ nested.stage.registry.observers, (observer.id != scope) = true := by
    intro observer member
    have listed : scope ∈ nested.stage.registry.targetIds := by rwa [sound.scopes]
    refine bne_iff_ne.mpr fun same => sound.registry.apart listed ?_
    exact same ▸ List.mem_map_of_mem member
  refine ⟨(mode_dropped held).trans nesting.abreast.mode.symm, ?_, ?_, ?_, ?_⟩
  · have others : ∀ id ∈ direct.scopes, (id != scope) = true := fun id member =>
      bne_iff_ne.mpr fun same => sound.notMem_older nesting.scopes (same ▸ member)
    rw [ended, nesting.scopes]
    dsimp only
    rw [List.filter_cons_of_neg (by simp), List.filter_eq_self.mpr others]
  · rw [ended]
    exact nesting.observers
  · rw [ended]
    exact (List.filter_eq_self.mpr notObserver).trans nesting.abreast.observers.symm
  · rw [ended]
    exact nesting.abreast.reports.symm

/-- What requests leave of the scopes where they are made beneath a scope that then ends, and where
they are made without it. -/
theorem Sound.targets_after_nested (sound : client.Sound) {newest : SubscriptionId}
    {older : List SubscriptionId} (live : client.scopes = newest :: older)
    {requests : List Operation} (asked : ∀ operation ∈ requests, operation.isRequest = true) :
    let nested := client.stage.mount.1
    let outside := requests.map (·.outside nested)
    let direct := client.run outside
    let returned := ((client.perform .mount).run requests).perform (.drop nested)
    let changes := client.changes outside
    ∃ revision background,
      client.stage.registry.targets =
        (newest, .scope ⟨client.mode, revision⟩) :: background ∧
      direct.stage.registry.targets =
        (newest, .scope ⟨direct.mode, revision + changes⟩) :: background ∧
      returned.stage.registry.targets =
        (newest, .scope ⟨direct.mode, revision + changes % 2⟩) :: background := by
  intro nested outside direct returned changes
  have mounted : client.scopes ≠ [] := by simp [live]
  obtain ⟨revision, background, -, before⟩ := sound.exists_newest live
  obtain ⟨nesting, -⟩ := (sound.nested_mount mounted).run asked
  have outsideAsked : ∀ operation ∈ outside, operation.isRequest = true := by
    intro operation member
    obtain ⟨request, listed, rfl⟩ := List.mem_map.mp member
    rw [isRequest_outside]
    exact asked request listed
  obtain ⟨directMode, directTargets⟩ :=
    (sound.turned_requests mounted outsideAsked).of_scope before
  -- The scopes beneath the nested one are those from before it was mounted.
  have mount : (client.perform .mount).stage.registry.targets =
      (nested, .scope ⟨client.mode, 0⟩) :: (newest, .scope ⟨client.mode, revision⟩) ::
        background := by
    rw [← before, ← ScopeState.sync_mode ⟨client.mode, 0⟩]
    rfl
  obtain ⟨-, coveredTargets⟩ :=
    ((sound.perform .mount).turned_requests (List.cons_ne_nil _ _) asked).of_scope mount
  have others : ∀ entry ∈ (newest, Target.scope ⟨client.mode, revision⟩) :: background,
      entry.1 ≠ nested := by
    intro entry member
    rw [← before] at member
    exact Nat.ne_of_lt (Nat.lt_succ_of_le
      (sound.registry.bounded _ (List.mem_map_of_mem member)))
  have handed := Registry.targets_handed_over coveredTargets others
  have held : nested ∈ ((client.perform .mount).run requests).scopes := by
    rw [nesting.scopes]
    exact List.mem_cons_self
  refine ⟨revision, background, before, ?_, ?_⟩
  · rw [directTargets, ← directMode]
    rfl
  · have synced := ScopeState.sync_toggled_iterate changes ⟨client.mode, revision⟩
    rw [show returned = _ from perform_drop held]
    refine handed.trans ?_
    rw [← nesting.abreast.mode, show direct.mode = _ from directMode, directMode]
    exact congrArg (fun state => (newest, Target.scope state) :: background) synced

/-- Toggles and modes that are set while a scope is mounted over the newest one leave, once that
scope has ended, what they leave where it is not there: the same mode, the same scopes in the same
modes and revisions, and the same calls to observers.  The revision of the scope beneath alone
counts not the changes but their parity. -/
theorem nested_scope_transparent (start : Mode) (operations requests : List Operation)
    (newest : SubscriptionId) (older : List SubscriptionId)
    (live : ((started start).run operations).scopes = newest :: older)
    (asked : ∀ operation ∈ requests, operation.isRequest = true) :
    let client := (started start).run operations
    let nested := client.stage.mount.1
    let outside := requests.map (·.outside nested)
    let direct := client.run outside
    let returned := ((client.perform .mount).run requests).perform (.drop nested)
    let changes := client.changes outside
    (client.perform .mount).changes requests = changes ∧
      returned.mode = direct.mode ∧ returned.scopes = direct.scopes ∧
      returned.observers = direct.observers ∧
      returned.stage.registry.observers = direct.stage.registry.observers ∧
      returned.stage.reports = direct.stage.reports ∧
      (∀ id, id ≠ newest → returned.scope? id = direct.scope? id) ∧
      ∃ revision, client.scope? newest = some ⟨client.mode, revision⟩ ∧
        direct.scope? newest = some ⟨direct.mode, revision + changes⟩ ∧
        returned.scope? newest = some ⟨direct.mode, revision + changes % 2⟩ := by
  intro client nested outside direct returned changes
  have sound : client.Sound := (sound_started start).run operations
  have mounted : client.scopes ≠ [] := by simp [show client.scopes = _ from live]
  obtain ⟨nesting, counted⟩ := (sound.nested_mount mounted).run asked
  have covered : ((client.perform .mount).run requests).Sound :=
    (sound.perform .mount).run requests
  obtain ⟨mode, scopes, observers, left, reports⟩ := nesting.ended covered
  obtain ⟨revision, background, before, directTargets, returnedTargets⟩ :=
    sound.targets_after_nested live asked
  refine ⟨counted.symm, mode, scopes, observers, left, reports, ?_, revision, ?_, ?_, ?_⟩
  · intro id other
    rw [scope?, scope?, Registry.scope?_cons _ directTargets,
      Registry.scope?_cons _ returnedTargets, if_neg other, if_neg other]
  · rw [scope?, Registry.scope?_cons _ before, if_pos rfl]
    rfl
  · rw [scope?, Registry.scope?_cons _ directTargets, if_pos rfl]
    rfl
  · rw [scope?, Registry.scope?_cons _ returnedTargets, if_pos rfl]
    rfl

/-- Five changes, one of them an answer and one of them asked for through the nested scope itself,
are one for the scope beneath it. -/
theorem nested_scope_after_five_changes :
    let operations := [.mount, .mount, .observe 1]
    let requests : List Operation :=
      [.toggleThrough 4, .setMode .light, .setMode .light, .requestToggle, .toggleThrough 1]
    let client := (started .dark).run operations
    let nested := client.stage.mount.1
    let direct := client.run (requests.map (·.outside nested))
    let returned := ((client.perform .mount).run requests).perform (.drop nested)
    let changes := client.changes (requests.map (·.outside nested))
    client.scopes = [2, 1] ∧ nested = 4 ∧ changes = 5 ∧
      (∀ operation ∈ requests, operation.isRequest = true) ∧
      ∃ revision, client.scope? 2 = some ⟨client.mode, revision⟩ ∧
        direct.scope? 2 = some ⟨direct.mode, revision + changes⟩ ∧
        returned.scope? 2 = some ⟨direct.mode, revision + changes % 2⟩ := by
  intro operations requests client nested direct returned changes
  have live : client.scopes = [2, 1] := by decide
  have asked : ∀ operation ∈ requests, operation.isRequest = true := by decide
  obtain ⟨-, -, -, -, -, -, -, revisions⟩ :=
    nested_scope_transparent .dark operations requests 2 [1] live asked
  exact ⟨live, by decide, by decide, asked, revisions⟩

end Client

end WalletScreens.Scope
