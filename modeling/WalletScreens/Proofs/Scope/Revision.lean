import Mathlib.Data.List.Induction
import WalletScreens.Proofs.Scope.Effect
import WalletScreens.Proofs.Scope.ModeHistory

/-!
Revisions count changes of mode.

Whatever a program does, a live scope is only ever flipped.  Each flip advances the revision, so a
revision tells how often the scope's mode has changed since it was mounted, and two moments of one
revision have nothing between them.
-/

namespace WalletScreens.Scope

open Theme

namespace ScopeState

theorem mode_flip_iterate (count : Nat) (state : ScopeState) :
    (ScopeState.flip^[count] state).mode = Mode.toggled^[count] state.mode := by
  rw [flip_iterate]

theorem revision_flip_iterate (count : Nat) (state : ScopeState) :
    (ScopeState.flip^[count] state).revision = state.revision + count := by
  rw [flip_iterate]

/-- How many of the states are in another mode than the state before. -/
def changes : List ScopeState → Nat
  | early :: late :: rest => (if early.mode = late.mode then 0 else 1) + changes (late :: rest)
  | _ => 0

theorem changes_concat (states : List ScopeState) (early late : ScopeState) :
    changes (states ++ [early] ++ [late]) =
      changes (states ++ [early]) + if early.mode = late.mode then 0 else 1 := by
  induction states with
  | nil => exact Nat.add_comm ..
  | cons first rest ih =>
      cases rest with
      | nil =>
          simp only [List.cons_append, List.nil_append, changes]
          rw [Nat.add_zero, Nat.add_zero]
      | cons second rest =>
          simp only [List.cons_append, changes] at ih ⊢
          rw [ih, Nat.add_assoc]

theorem change_flip_iterate {count : Nat} (few : count ≤ 1) (state : ScopeState) :
    (if state.mode = (ScopeState.flip^[count] state).mode then 0 else 1) = count := by
  rcases Nat.le_one_iff_eq_zero_or_eq_one.mp few with rfl | rfl
  · exact if_pos rfl
  · exact if_neg state.mode.toggled_ne.symm

end ScopeState

namespace Registry

theorem retoggles_eq_zero_iff (registry : Registry) :
    registry.retoggles = 0 ↔ ∀ observer ∈ registry.observers, observer.retoggles = 0 := by
  rw [retoggles]
  induction registry.observers with
  | nil => simp
  | cons observer rest ih => simp [ih]

end Registry

namespace Stage

variable {before after : Stage} {operation : Operation}

/-- All that an operation can do. -/
inductive Effect (before : Stage) : Operation → Stage → Prop where
  | announced {operation : Operation} {after : Stage} {answers flips : Nat}
      (announced : Announced answers flips before after) (few : flips ≤ answers + 1) :
      Effect before operation after
  | stored {operation : Operation} {after : Stage} {answers : Nat} (mode : Mode)
      (announced :
        Announced answers 0 { before with registry := { before.registry with mode } } after) :
      Effect before operation after
  | mounted : Effect before .mount before.mount.2
  | observed (retoggles : Nat) : Effect before (.observe retoggles) (before.observe retoggles).2
  | ended {operation : Operation} (id : SubscriptionId) :
      Effect before operation (before.unsubscribe id)

theorem Effect.none (stage : Stage) (operation : Operation) : Effect stage operation stage :=
  .announced (.refl stage) (Nat.zero_le _)

theorem flipsOf_le (stage : Stage) (requests : Nat) : stage.flipsOf requests ≤ requests := by
  unfold flipsOf
  split
  · exact Nat.le_refl _
  · exact Nat.zero_le _

theorem effect_tryToggle (stage : Stage) (operation : Operation) :
    Effect stage operation stage.tryToggle.2 := by
  obtain ⟨answers, announced⟩ := stage.announced_tryToggle
  exact .announced announced (stage.flipsOf_le _)

theorem effect_setMode (stage : Stage) (mode : Mode) (operation : Operation) :
    Effect stage operation (stage.setMode mode) := by
  by_cases same : stage.registry.mode = mode
  · rw [setMode, if_pos same]
    exact .none stage operation
  · rcases announced_setMode same with ⟨-, answers, announced⟩ | ⟨-, answers, announced⟩
    · exact .announced announced (Nat.le_refl _)
    · exact .stored mode announced

theorem Effect.lastId_le (effect : Effect before operation after) :
    before.registry.lastId ≤ after.registry.lastId := by
  cases effect with
  | announced announced few => exact Nat.le_of_eq announced.turned.lastId.symm
  | stored mode announced => exact Nat.le_of_eq announced.turned.lastId.symm
  | mounted => exact Nat.le_succ _
  | observed retoggles => exact Nat.le_succ _
  | ended id => exact Nat.le_refl _

theorem Effect.retoggles_eq_zero (effect : Effect before operation after)
    (none : before.registry.retoggles = 0)
    (reading : ∀ retoggles, operation = .observe retoggles → retoggles = 0) :
    after.registry.retoggles = 0 := by
  cases effect with
  | announced announced few =>
      have spent := announced.spent
      omega
  | stored mode announced =>
      have spent := announced.spent
      change _ ≤ before.registry.retoggles at spent
      omega
  | mounted => exact none
  | observed retoggles =>
      rw [Registry.retoggles_eq_zero_iff] at none ⊢
      exact List.forall_mem_append.mpr
        ⟨none, List.forall_mem_singleton.mpr (reading retoggles rfl)⟩
  | ended id =>
      rw [Registry.retoggles_eq_zero_iff] at none ⊢
      exact fun observer member => none observer (List.mem_of_mem_filter member)

/-- A scope that is live after an operation was just mounted, or was live before it and has been
flipped since. -/
theorem Effect.scope? (effect : Effect before operation after) {id : SubscriptionId}
    {late : ScopeState} (live : after.registry.scope? id = some late) :
    (id = before.registry.lastId + 1 ∧ late = ⟨before.registry.mode, 0⟩) ∨
      ∃ early count, before.registry.scope? id = some early ∧
        late = ScopeState.flip^[count] early ∧ count ≤ before.registry.retoggles + 1 := by
  cases effect with
  | announced announced few =>
      rw [announced.turned.scope? id] at live
      obtain ⟨early, found, rfl⟩ := Option.map_eq_some_iff.mp live
      have spent := announced.spent
      split
      · exact .inr ⟨early, _, found, rfl, by omega⟩
      · exact .inr ⟨early, 0, found, rfl, Nat.zero_le _⟩
  | stored mode announced =>
      rw [announced.turned.scope? id] at live
      obtain ⟨early, found, rfl⟩ := Option.map_eq_some_iff.mp live
      refine .inr ⟨early, 0, found, ?_, Nat.zero_le _⟩
      split <;> rfl
  | mounted =>
      have mounted := before.registry.scope?_mount id
      rw [show before.registry.mount.2.scope? id = some late from live] at mounted
      split at mounted
      · exact .inl ⟨‹_›, Option.some.inj mounted⟩
      · exact .inr ⟨late, 0, mounted.symm, rfl, Nat.zero_le _⟩
  | observed retoggles => exact .inr ⟨late, 0, live, rfl, Nat.zero_le _⟩
  | ended other =>
      by_cases same : id = other
      · subst same
        exact absurd (Registry.mem_targetIds_of_scope? live)
          (before.registry.notMem_targetIds_unsubscribe id)
      · rw [unsubscribe, before.registry.scope?_unsubscribe same] at live
        obtain ⟨early, found, rfl⟩ := Option.map_eq_some_iff.mp live
        split
        · refine .inr ⟨early, _, found, early.sync_eq_flip _, ?_⟩
          split <;> omega
        · exact .inr ⟨early, 0, found, rfl, Nat.zero_le _⟩

end Stage

namespace Client

variable {client : Client}

theorem effect_perform (client : Client) (operation : Operation) :
    Stage.Effect client.stage operation (client.perform operation).stage := by
  cases operation with
  | mount => exact .mounted
  | drop id =>
      rw [perform]
      split
      · exact .ended id
      · exact .none _ _
  | tryToggle => exact client.stage.effect_tryToggle _
  | requestToggle =>
      obtain ⟨answers, announced⟩ := client.stage.announced_requestToggle
      exact .announced announced (client.stage.flipsOf_le _)
  | toggleThrough id =>
      rw [perform]
      split
      · exact client.stage.effect_tryToggle _
      · exact .none _ _
  | setMode mode => exact client.stage.effect_setMode mode _
  | observe retoggles => exact .observed retoggles
  | dropObserver id =>
      rw [perform]
      split
      · exact .ended id
      · exact .none _ _

def scope? (client : Client) (id : SubscriptionId) : Option ScopeState :=
  client.stage.registry.scope? id

theorem Sound.le_lastId (sound : client.Sound) {id : SubscriptionId} {state : ScopeState}
    (live : client.scope? id = some state) : id ≤ client.stage.registry.lastId :=
  sound.registry.bounded id (Registry.mem_targetIds_of_scope? live)

theorem lastId_le_run (client : Client) (operations : List Operation) :
    client.stage.registry.lastId ≤ (client.run operations).stage.registry.lastId := by
  induction operations generalizing client with
  | nil => exact Nat.le_refl _
  | cons operation rest ih => exact Nat.le_trans (client.effect_perform operation).lastId_le (ih _)

/-- A number that was given out before a run is not given out again, so a scope of that number
that is live after the run was live all the time, and has been flipped so many times. -/
theorem scope?_run {operations : List Operation} {id : SubscriptionId} {late : ScopeState}
    (known : id ≤ client.stage.registry.lastId)
    (live : (client.run operations).scope? id = some late) :
    ∃ early count, client.scope? id = some early ∧ late = ScopeState.flip^[count] early := by
  induction operations generalizing client with
  | nil => exact ⟨late, 0, live, rfl⟩
  | cons operation rest ih =>
      have effect := client.effect_perform operation
      obtain ⟨middle, more, between, rfl⟩ := ih (Nat.le_trans known effect.lastId_le) live
      rcases effect.scope? between with ⟨fresh, -⟩ | ⟨early, count, found, rfl, -⟩
      · exact absurd known (by rw [fresh]; exact Nat.not_succ_le_self _)
      · exact ⟨early, more + count, found, (Function.iterate_add_apply ..).symm⟩

/-- Two moments at which a scope has the same revision have nothing between them. -/
theorem Sound.same_revision (sound : client.Sound) {operations part : List Operation}
    {id : SubscriptionId} {early late : ScopeState} (before : client.scope? id = some early)
    (after : (client.run operations).scope? id = some late) (same : early.revision = late.revision)
    (within : part <+: operations) : (client.run part).scope? id = some early := by
  obtain ⟨rest, rfl⟩ := within
  have known := sound.le_lastId before
  rw [run_append] at after
  obtain ⟨middle, more, between, rfl⟩ :=
    scope?_run (Nat.le_trans known (client.lastId_le_run part)) after
  obtain ⟨first, count, found, rfl⟩ := scope?_run known between
  cases found.symm.trans before
  simp only [ScopeState.revision_flip_iterate] at same
  have none : count = 0 := by omega
  rw [between, none]
  rfl

/-- A program before and after each operation of a run. -/
def moments (client : Client) : List Operation → List Client
  | [] => [client]
  | operation :: rest => client :: (client.perform operation).moments rest

theorem moments_concat (client : Client) (operations : List Operation) (operation : Operation) :
    client.moments (operations ++ [operation]) =
      client.moments operations ++ [(client.run operations).perform operation] := by
  induction operations generalizing client with
  | nil => rfl
  | cons first rest ih => exact congrArg (client :: ·) (ih _)

theorem exists_run_of_mem_moments {operations : List Operation} {moment : Client}
    (member : moment ∈ client.moments operations) :
    ∃ earlier later, operations = earlier ++ later ∧ moment = client.run earlier := by
  induction operations generalizing client with
  | nil => exact ⟨[], [], rfl, List.mem_singleton.mp member⟩
  | cons operation rest ih =>
      rcases List.mem_cons.mp member with rfl | member
      · exact ⟨[], operation :: rest, rfl, rfl⟩
      · obtain ⟨earlier, later, rfl, rfl⟩ := ih member
        exact ⟨operation :: earlier, later, rfl, rfl⟩

/-- The states of a scope from the moment it is mounted until it ends, moment by moment. -/
def states (client : Client) (operations : List Operation) (id : SubscriptionId) :
    List ScopeState :=
  (client.moments operations).filterMap (·.scope? id)

theorem states_concat_of_live {operations : List Operation} {operation : Operation}
    {id : SubscriptionId} {state : ScopeState}
    (live : (client.run (operations ++ [operation])).scope? id = some state) :
    client.states (operations ++ [operation]) id = client.states operations id ++ [state] := by
  rw [run_append] at live
  rw [states, moments_concat, List.filterMap_append, ← states]
  exact congrArg _ (List.filterMap_cons_some live)

theorem exists_states_of_live {operations : List Operation} {id : SubscriptionId}
    {state : ScopeState} (live : (client.run operations).scope? id = some state) :
    ∃ earlier, client.states operations id = earlier ++ [state] := by
  rcases List.eq_nil_or_concat operations with rfl | ⟨before, last, rfl⟩
  · exact ⟨[], List.filterMap_cons_some live⟩
  · rw [List.concat_eq_append] at live ⊢
    exact ⟨_, states_concat_of_live live⟩

/-- A number that is given out after a run was no scope's number before. -/
theorem Sound.states_fresh (sound : client.Sound) {operations : List Operation}
    {id : SubscriptionId} (fresh : id = (client.run operations).stage.registry.lastId + 1) :
    client.states operations id = [] := by
  refine List.filterMap_eq_nil_iff.mpr fun moment member => ?_
  obtain ⟨earlier, later, rfl, rfl⟩ := exists_run_of_mem_moments member
  refine Option.eq_none_iff_forall_not_mem.mpr fun state live => ?_
  have known := (sound.run earlier).le_lastId live
  have grown := (client.run earlier).lastId_le_run later
  rw [run_append] at fresh
  rw [fresh] at known
  exact Nat.not_succ_le_self _ (Nat.le_trans known grown)

theorem retoggles_run {operations : List Operation}
    (none : client.stage.registry.retoggles = 0)
    (reading : ∀ retoggles, .observe retoggles ∈ operations → retoggles = 0) :
    (client.run operations).stage.registry.retoggles = 0 := by
  induction operations generalizing client with
  | nil => exact none
  | cons operation rest ih =>
      refine ih ((client.effect_perform operation).retoggles_eq_zero none ?_) ?_
      · exact fun retoggles observed => reading retoggles (observed ▸ List.mem_cons_self)
      · exact fun retoggles member => reading retoggles (List.mem_cons_of_mem _ member)

theorem revision_run {start : Mode} {operations : List Operation} {id : SubscriptionId}
    {scope : ScopeState} (live : ((started start).run operations).scope? id = some scope) :
    ∃ first later, (started start).states operations id = first :: later ∧ first.revision = 0 ∧
      scope = ScopeState.flip^[scope.revision] first ∧
        ((∀ retoggles, .observe retoggles ∈ operations → retoggles = 0) →
          scope.revision = ScopeState.changes (first :: later)) := by
  induction operations using List.reverseRecOn generalizing scope with
  | nil => contradiction
  | append_singleton operations operation ih =>
      have sound : ((started start).run operations).Sound := (sound_started start).run operations
      have whole := states_concat_of_live live
      rw [run_append] at live
      rcases ((started start).run operations).effect_perform operation |>.scope? live with
        ⟨fresh, rfl⟩ | ⟨early, count, found, rfl, few⟩
      · rw [(sound_started start).states_fresh fresh] at whole
        exact ⟨_, [], whole, rfl, rfl, fun _ => rfl⟩
      · obtain ⟨first, later, states, mounted, flipped, counted⟩ := ih found
        refine ⟨first, later ++ [ScopeState.flip^[count] early], ?_, mounted, ?_, ?_⟩
        · rw [whole, states, List.cons_append]
        · rw [ScopeState.revision_flip_iterate, Nat.add_comm, Function.iterate_add_apply, ← flipped]
        · intro reading
          have silent : ((started start).run operations).stage.registry.retoggles = 0 :=
            retoggles_run rfl fun retoggles member =>
              reading retoggles (List.mem_append_left _ member)
          have before := counted fun retoggles member =>
            reading retoggles (List.mem_append_left _ member)
          obtain ⟨earlier, last⟩ := exists_states_of_live found
          rw [silent] at few
          rw [← List.cons_append, ← states, last, ScopeState.changes_concat, ← last, states,
            ← before, ScopeState.change_flip_iterate few, ScopeState.revision_flip_iterate]

/-- A live scope, active or not, is in the mode that it was mounted in, flipped as often as its
revision says; where observers only read, that is how often its mode has changed from one moment to
the next.  Between two moments of one revision it stayed as it was. -/
theorem revision_counts_changes (start : Mode) (operations : List Operation) (id : SubscriptionId)
    (scope : ScopeState) (live : ((started start).run operations).scope? id = some scope) :
    (∃ first later, (started start).states operations id = first :: later ∧
      first.revision = 0 ∧ scope.mode = Mode.toggled^[scope.revision] first.mode ∧
        ((∀ retoggles, .observe retoggles ∈ operations → retoggles = 0) →
          scope.revision = ScopeState.changes (first :: later))) ∧
      ∀ more late, ((started start).run (operations ++ more)).scope? id = some late →
        late.revision = scope.revision →
          ∀ part, part <+: more →
            ((started start).run (operations ++ part)).scope? id = some scope := by
  constructor
  · obtain ⟨first, later, states, mounted, flipped, counted⟩ := revision_run live
    refine ⟨first, later, states, mounted, ?_, counted⟩
    rw [← ScopeState.mode_flip_iterate, ← flipped]
  · intro more late after same part within
    have sound : ((started start).run operations).Sound := (sound_started start).run operations
    rw [run_append] at after ⊢
    exact sound.same_revision live after same.symm within

/-- A scope that is out of date for three toggles is flipped once when it takes over. -/
theorem revision_of_resumed_scope :
    let operations := [.mount, .observe 0, .tryToggle, .mount, .requestToggle, .setMode .light,
      .toggleThrough 1, .drop 3]
    ((started .dark).run operations).scope? 1 = some ⟨.dark, 2⟩ ∧
      (∃ first later, (started .dark).states operations 1 = first :: later ∧
        first.revision = 0 ∧ 2 = ScopeState.changes (first :: later)) ∧
      ∀ part, part <+: [.mount, .tryToggle] →
        ((started .dark).run (operations ++ part)).scope? 1 = some ⟨.dark, 2⟩ := by
  intro operations
  have live : ((started .dark).run operations).scope? 1 = some ⟨.dark, 2⟩ := by decide
  obtain ⟨⟨first, later, states, mounted, -, counted⟩, still⟩ :=
    revision_counts_changes .dark operations 1 ⟨.dark, 2⟩ live
  refine ⟨live, ⟨first, later, states, mounted, counted ?_⟩, ?_⟩
  · simp [operations]
  · exact still [.mount, .tryToggle] ⟨.dark, 2⟩ (by decide) rfl

end Client

end WalletScreens.Scope
