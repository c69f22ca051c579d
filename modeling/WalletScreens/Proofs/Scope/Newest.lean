import WalletScreens.Proofs.Scope.Revision

/-!
The newest scope alone is changed.

A toggle, wherever it is asked for, and a mode that is set reach the newest live scope and leave
the others as they are.  One that ends has an effect on another only if it is the newest: then the
one before it is brought to the registry's mode.
-/

namespace WalletScreens.Scope

open Theme

namespace ScopeState

theorem sync_eq (state : ScopeState) (mode : Mode) :
    state.sync mode = ⟨mode, state.revision + if state.mode = mode then 0 else 1⟩ := by
  unfold sync
  split
  · rename_i same
    subst same
    rfl
  · rfl

end ScopeState

namespace Stage

/-- Each answer of an observer takes one of its retoggles. -/
theorem Effect.answers_le {before after : Stage} {operation : Operation}
    (effect : Effect before operation after) :
    after.answers ≤ before.answers + before.registry.retoggles := by
  cases effect with
  | announced announced few =>
      have answered := announced.answered
      have spent := announced.spent
      omega
  | stored mode announced =>
      have answered : _ = before.answers + _ := announced.answered
      have spent : _ ≤ before.registry.retoggles := announced.spent
      omega
  | mounted => exact Nat.le_add_right _ _
  | observed retoggles => exact Nat.le_add_right _ _
  | ended id => exact Nat.le_add_right _ _

end Stage

namespace Client

variable {client : Client} {operation : Operation} {newest : SubscriptionId}
  {older : List SubscriptionId}

/-- Whether an operation sets another mode than the registry is in. -/
def sets (client : Client) : Operation → Bool
  | .setMode mode => mode != client.mode
  | _ => false

theorem answered_le (client : Client) (operation : Operation) :
    client.answered operation ≤ client.stage.registry.retoggles := by
  have most := (client.effect_perform operation).answers_le
  rw [answered]
  omega

theorem Sound.turned_perform (sound : client.Sound) (live : client.scopes ≠ [])
    (changing : client.asks operation = true ∨ client.sets operation = true) :
    Registry.Turned (client.answered operation + 1) client.stage.registry
      (client.perform operation).stage.registry := by
  rcases changing with asking | setting
  · obtain ⟨answers, announced⟩ := perform_asking asking
    rw [answered_eq announced]
    rw [sound.flipsOf, if_neg live] at announced
    exact announced.turned
  · cases operation with
    | setMode mode =>
        have differs : client.stage.registry.mode ≠ mode := (bne_iff_ne.mp setting).symm
        rcases Stage.announced_setMode differs with ⟨-, answers, announced⟩ | ⟨idle, -⟩
        · rw [answered_eq announced]
          exact announced.turned
        · exact absurd (sound.isMounted_eq_false_iff.mp idle) live
    | _ => contradiction

theorem Sound.exists_newest (sound : client.Sound) (live : client.scopes = newest :: older) :
    ∃ revision background, background.map Prod.fst = older ∧
      client.stage.registry.targets =
        (newest, .scope ⟨client.mode, revision⟩) :: background := by
  have ids := sound.scopes.trans live
  rw [Registry.targetIds] at ids
  rcases sound.registry.newest with none | ⟨id, revision, background, active⟩
  · simp [none] at ids
  · rw [active, List.map_cons, List.cons.injEq] at ids
    obtain ⟨rfl, background_ids⟩ := ids
    exact ⟨revision, background, background_ids, active⟩

theorem Sound.isActive (sound : client.Sound) (live : client.scopes = newest :: older)
    (id : SubscriptionId) : client.stage.registry.isActive id = true ↔ id = newest := by
  obtain ⟨revision, background, -, active⟩ := sound.exists_newest live
  exact Registry.isActive_cons active id

theorem Sound.activeId? (sound : client.Sound) :
    client.stage.registry.activeId? = client.scopes.head? := by
  rw [← sound.scopes, Registry.targetIds, Registry.activeId?, List.head?_map]

theorem Sound.scope?_newest (sound : client.Sound) (live : client.scopes = newest :: older) :
    ∃ revision, client.scope? newest = some ⟨client.mode, revision⟩ := by
  obtain ⟨revision, background, -, active⟩ := sound.exists_newest live
  refine ⟨revision, ?_⟩
  rw [scope?, Registry.scope?_cons _ active, if_pos rfl]
  rfl

/-- A change reaches the newest scope, as often as the mode changes. -/
theorem Sound.scope?_changed (sound : client.Sound) (live : client.scopes = newest :: older)
    (changing : client.asks operation = true ∨ client.sets operation = true) :
    (client.perform operation).scope? newest =
      (client.scope? newest).map ScopeState.flip^[client.answered operation + 1] := by
  have mounted : client.scopes ≠ [] := by simp [live]
  have turned := sound.turned_perform mounted changing
  simp only [scope?, turned.scope?, (sound.isActive live newest).mpr rfl, if_true]

theorem Sound.scope?_background (sound : client.Sound) (live : client.scopes = newest :: older)
    (changing : client.asks operation = true ∨ client.sets operation = true)
    {id : SubscriptionId} (background : id ≠ newest) :
    (client.perform operation).scope? id = client.scope? id := by
  have mounted : client.scopes ≠ [] := by simp [live]
  have turned := sound.turned_perform mounted changing
  have inactive : client.stage.registry.isActive id = false := by
    rw [← Bool.not_eq_true, sound.isActive live]
    exact background
  simp [scope?, turned.scope?, inactive]

theorem Sound.scope?_mount (sound : client.Sound) {id : SubscriptionId}
    (live : id ∈ client.scopes) :
    (client.perform .mount).scope? id = client.scope? id := by
  have known : id ≠ client.stage.registry.lastId + 1 := by
    rw [← sound.scopes] at live
    exact Nat.ne_of_lt (Nat.lt_succ_of_le (sound.registry.bounded id live))
  exact (client.stage.registry.scope?_mount id).trans (if_neg known)

theorem Sound.exists_scope? (sound : client.Sound) {id : SubscriptionId}
    (live : id ∈ client.scopes) : ∃ state, client.scope? id = some state := by
  rw [← sound.scopes] at live
  obtain ⟨entry, listed, same⟩ := List.mem_map.mp live
  cases found : client.stage.registry.targets.lookup id with
  | none =>
      have absent := List.lookup_eq_none_iff.mp found entry listed
      simp [same] at absent
  | some target =>
      obtain ⟨newer, background, split, -⟩ := List.lookup_eq_some_iff.mp found
      have member : (id, target) ∈ client.stage.registry.targets := by simp [split]
      obtain ⟨state, scope⟩ := sound.registry.scopes _ member
      cases scope
      exact ⟨state, by rw [scope?, Registry.scope?_eq, found]; rfl⟩

theorem Sound.notMem_older (sound : client.Sound) (live : client.scopes = newest :: older) :
    newest ∉ older := by
  have ordered := sound.registry.ordered
  rw [sound.scopes, live, List.pairwise_cons] at ordered
  exact fun member => Nat.lt_irrefl _ (ordered.1 newest member)

theorem perform_drop {id : SubscriptionId} (held : id ∈ client.scopes) :
    client.perform (.drop id) =
      { client with
        stage := client.stage.unsubscribe id
        scopes := client.scopes.filter (· != id) } := by
  rw [perform, if_pos held]

theorem mode_dropped {id : SubscriptionId} (held : id ∈ client.scopes) :
    (client.perform (.drop id)).mode = client.mode := by
  rw [perform_drop held]
  rfl

theorem scope?_dropped {id other : SubscriptionId}
    (held : id ∈ client.scopes) (differs : other ≠ id) :
    (client.perform (.drop id)).scope? other = (client.scope? other).map fun state =>
      if client.stage.registry.isActive id ∧
          (client.perform (.drop id)).stage.registry.isActive other then
        state.sync client.mode
      else state := by
  rw [perform_drop held]
  exact client.stage.registry.scope?_unsubscribe differs

theorem Sound.activeId?_dropped (sound : client.Sound) {id : SubscriptionId}
    (held : id ∈ client.scopes) :
    (client.perform (.drop id)).stage.registry.activeId? =
      (client.scopes.filter (· != id)).head? := by
  rw [(sound.perform (.drop id)).activeId?, perform_drop held]

/-- A scope that ends in the background has no effect on another. -/
theorem Sound.drop_background (sound : client.Sound) (live : client.scopes = newest :: older)
    {dropped : SubscriptionId} (background : dropped ∈ older) :
    (client.perform (.drop dropped)).mode = client.mode ∧
      (client.perform (.drop dropped)).stage.registry.activeId? = some newest ∧
      ∀ id, id ≠ dropped → (client.perform (.drop dropped)).scope? id = client.scope? id := by
  have held : dropped ∈ client.scopes := by simp [live, background]
  have differs : dropped ≠ newest := fun same => sound.notMem_older live (same ▸ background)
  refine ⟨mode_dropped held, ?_, ?_⟩
  · rw [sound.activeId?_dropped held, live, List.filter_cons_of_pos (by simpa using differs.symm)]
    rfl
  · intro id other
    have inactive : ¬ client.stage.registry.isActive dropped = true := by
      rwa [sound.isActive live]
    simp [scope?_dropped held other, inactive]

/-- When the newest scope ends, the one before it takes over in the registry's mode, and no other
is changed. -/
theorem Sound.drop_newest (sound : client.Sound) (live : client.scopes = newest :: older) :
    (client.perform (.drop newest)).mode = client.mode ∧
      (client.perform (.drop newest)).stage.registry.activeId? = older.head? ∧
      ∀ id, id ≠ newest → (client.perform (.drop newest)).scope? id =
        (client.scope? id).map fun state =>
          if older.head? = some id then state.sync client.mode else state := by
  have held : newest ∈ client.scopes := by simp [live]
  have left : (client.scopes.filter (· != newest)) = older := by
    rw [live, List.filter_cons_of_neg (by simp), List.filter_eq_self]
    intro id member
    have differs : id ≠ newest := fun same => sound.notMem_older live (same ▸ member)
    simpa using differs
  have next := sound.activeId?_dropped held
  rw [left] at next
  refine ⟨mode_dropped held, next, fun id other => ?_⟩
  have active := (sound.isActive live newest).mpr rfl
  have taken : (client.perform (.drop newest)).stage.registry.isActive id = true ↔
      older.head? = some id := by rw [Registry.isActive, next, beq_iff_eq]
  simp only [scope?_dropped held other, active, taken, true_and]

/-- Toggles and modes that are set flip the newest live scope, once for each change of the mode:
just once where observers only read.  They leave the others as they are, and so does a mount.  A
scope that ends in the background changes nothing else; one that ends as the newest hands over to
the one before it, which is brought to the registry's mode. -/
theorem newest_scope_alone_changes (start : Mode) (operations : List Operation)
    (newest : SubscriptionId) (older : List SubscriptionId)
    (live : ((started start).run operations).scopes = newest :: older) :
    let client := (started start).run operations
    (∀ operation, client.asks operation = true ∨ client.sets operation = true →
        let after := client.perform operation
        let flips := client.answered operation + 1
        (∃ revision, client.scope? newest = some ⟨client.mode, revision⟩ ∧
          after.scope? newest = some ⟨Mode.toggled^[flips] client.mode, revision + flips⟩) ∧
        (client.stage.registry.retoggles = 0 → flips = 1) ∧
        ∀ id, id ≠ newest → after.scope? id = client.scope? id) ∧
      (∀ id ∈ client.scopes, (client.perform .mount).scope? id = client.scope? id) ∧
      (∀ dropped ∈ older,
        let after := client.perform (.drop dropped)
        after.mode = client.mode ∧ after.stage.registry.activeId? = some newest ∧
          ∀ id, id ≠ dropped → after.scope? id = client.scope? id) ∧
      let after := client.perform (.drop newest)
      after.mode = client.mode ∧ after.stage.registry.activeId? = older.head? ∧
        (∀ id, id ≠ newest → older.head? ≠ some id → after.scope? id = client.scope? id) ∧
        ∀ next ∈ older.head?, ∃ early, client.scope? next = some early ∧
          after.scope? next =
            some ⟨client.mode, early.revision + if early.mode = client.mode then 0 else 1⟩ := by
  intro client
  have sound : client.Sound := (sound_started start).run operations
  replace live : client.scopes = newest :: older := live
  refine ⟨?_, fun id held => sound.scope?_mount held,
    fun dropped background => sound.drop_background live background, ?_⟩
  · intro operation changing after flips
    obtain ⟨revision, before⟩ := sound.scope?_newest live
    refine ⟨⟨revision, before, ?_⟩, ?_, fun id => sound.scope?_background live changing⟩
    · rw [sound.scope?_changed live changing, before, Option.map_some, ScopeState.flip_iterate]
    · intro reading
      have few := client.answered_le operation
      omega
  · obtain ⟨mode, active, left⟩ := sound.drop_newest live
    refine ⟨mode, active, ?_, ?_⟩
    · intro id other background
      simp [left id other, background]
    · intro next following
      have member : next ∈ older := List.mem_of_mem_head? following
      have other : next ≠ newest := fun same => sound.notMem_older live (same ▸ member)
      have held : next ∈ client.scopes := by simp [live, member]
      obtain ⟨early, before⟩ := sound.exists_scope? held
      refine ⟨early, before, ?_⟩
      rw [left next other, before, Option.map_some, if_pos (Option.mem_def.mp following),
        ScopeState.sync_eq]

/-- A toggle that is asked for through the oldest scope, and answered once, reaches the newest.
When that ends, a scope that is out of date takes over. -/
theorem newest_of_three_changes :
    let operations := [.mount, .mount, .tryToggle, .mount, .mount, .drop 3, .tryToggle, .observe 1]
    let client := (started .dark).run operations
    client.scopes = [4, 2, 1] ∧ client.scope? 4 = some ⟨.dark, 1⟩ ∧
      client.answered (.toggleThrough 1) = 1 ∧
      (∃ revision, client.scope? 4 = some ⟨.dark, revision⟩ ∧
        (client.perform (.toggleThrough 1)).scope? 4 = some ⟨.dark, revision + 2⟩) ∧
      (client.perform (.toggleThrough 1)).scope? 2 = client.scope? 2 ∧
      client.scope? 2 = some ⟨.light, 1⟩ ∧
      (client.perform (.drop 4)).scope? 2 = some ⟨.dark, 2⟩ := by
  intro operations client
  have live : client.scopes = [4, 2, 1] := by decide
  have next : client.scope? 2 = some ⟨.light, 1⟩ := by decide
  obtain ⟨changed, -, -, -, -, -, handed⟩ :=
    newest_scope_alone_changes .dark operations 4 [2, 1] live
  obtain ⟨flipped, -, others⟩ := changed (.toggleThrough 1) (.inl (by decide))
  obtain ⟨early, before, after⟩ := handed 2 rfl
  cases before.symm.trans next
  exact ⟨live, by decide, by decide, flipped, others 2 (by decide), next, after⟩

end Client

end WalletScreens.Scope
