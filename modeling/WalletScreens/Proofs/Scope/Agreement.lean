import WalletScreens.Proofs.Scope.Announcement
import WalletScreens.Proofs.Scope.Client
import WalletScreens.Proofs.Scope.Sound

/-!
The registry and the scopes that a program holds agree, whatever the program did before.
-/

namespace WalletScreens.Scope

open Theme

namespace Client

variable {client : Client}

/-- The registry is sound and lists what the program holds, and nothing else. -/
structure Sound (client : Client) : Prop where
  registry : client.stage.registry.Sound
  scopes : client.stage.registry.targetIds = client.scopes
  observers : client.stage.registry.observerIds = client.observers

theorem sound_started (mode : Mode) : (started mode).Sound :=
  ⟨Registry.sound_empty mode, rfl, rfl⟩

theorem Sound.announced {after : Stage} {answers flips : Nat} (sound : client.Sound)
    (announced : Stage.Announced answers flips client.stage after) :
    ({ client with stage := after } : Client).Sound where
  registry := sound.registry.turned announced.turned
  scopes := announced.turned.targetIds.trans sound.scopes
  observers := announced.turned.observerIds.trans sound.observers

theorem Sound.tryToggle (sound : client.Sound) :
    ({ client with stage := client.stage.tryToggle.2 } : Client).Sound := by
  obtain ⟨answers, announced⟩ := client.stage.announced_tryToggle
  exact sound.announced announced

theorem Sound.requestToggle (sound : client.Sound) :
    ({ client with stage := client.stage.requestToggle } : Client).Sound := by
  obtain ⟨answers, announced⟩ := client.stage.announced_requestToggle
  exact sound.announced announced

theorem Sound.setMode (sound : client.Sound) (mode : Mode) :
    ({ client with stage := client.stage.setMode mode } : Client).Sound := by
  by_cases same : client.stage.registry.mode = mode
  · rw [Stage.setMode, if_pos same]
    exact sound
  · rcases Stage.announced_setMode same with ⟨_, answers, announced⟩ | ⟨idle, answers, announced⟩
    · exact sound.announced announced
    · have stored : ({ client with stage := { client.stage with
          registry := { client.stage.registry with mode } } } : Client).Sound :=
        ⟨sound.registry.withMode idle mode, sound.scopes, sound.observers⟩
      exact stored.announced announced

/-- A number is a scope's or an observer's, so to end one leaves the list of the others as it is. -/
theorem Sound.unsubscribe (sound : client.Sound) (id : SubscriptionId) :
    ({ stage := client.stage.unsubscribe id
       scopes := client.scopes.filter (· != id)
       observers := client.observers.filter (· != id) } : Client).Sound where
  registry := sound.registry.unsubscribe id
  scopes := by
    rw [← sound.scopes]
    exact client.stage.registry.targetIds_unsubscribe id
  observers := by
    rw [← sound.observers]
    exact client.stage.registry.observerIds_unsubscribe id

private theorem filter_ne_of_not_mem {id : SubscriptionId} {ids : List SubscriptionId}
    (absent : id ∉ ids) : ids.filter (· != id) = ids := by
  refine List.filter_eq_self.mpr fun other member => ?_
  simp only [bne_iff_ne, ne_eq]
  exact fun same => absent (same ▸ member)

theorem Sound.perform (sound : client.Sound) (operation : Operation) :
    (client.perform operation).Sound := by
  have apart := sound.registry.apart
  rw [sound.scopes, sound.observers] at apart
  cases operation with
  | mount =>
      exact ⟨sound.registry.mount, congrArg (_ :: ·) sound.scopes, sound.observers⟩
  | drop id =>
      rw [Client.perform]
      split
      · rename_i held
        have dropped := sound.unsubscribe id
        rwa [filter_ne_of_not_mem (fun member => apart held member)] at dropped
      · exact sound
  | tryToggle => exact sound.tryToggle
  | requestToggle => exact sound.requestToggle
  | toggleThrough id =>
      rw [Client.perform]
      split
      · exact sound.tryToggle
      · exact sound
  | setMode mode => exact sound.setMode mode
  | observe retoggles =>
      have added := client.stage.registry.observerIds_observe retoggles
      exact ⟨sound.registry.observe retoggles, sound.scopes,
        added.trans (congrArg (· ++ _) sound.observers)⟩
  | dropObserver id =>
      rw [Client.perform]
      split
      · rename_i held
        have dropped := sound.unsubscribe id
        rwa [filter_ne_of_not_mem (fun member => apart member held)] at dropped
      · exact sound

theorem Sound.run (sound : client.Sound) (operations : List Operation) :
    (client.run operations).Sound := by
  induction operations generalizing client with
  | nil => exact sound
  | cons operation rest ih => exact ih (sound.perform operation)

/-- Whatever a program has done, the targets are its live scopes, numbered in the order they were
mounted; the newest of them, and no other, is active, and it is in the registry's mode. -/
theorem active_scope_agrees (mode : Mode) (operations : List Operation) :
    let client := (started mode).run operations
    let registry := client.stage.registry
    registry.targetIds = client.scopes ∧
      registry.targetIds.reverse.Pairwise (· < ·) ∧
      (∀ id ∈ registry.targetIds, id ≤ registry.lastId) ∧
      registry.mountedCount = client.scopes.length ∧
      ∀ newest older, client.scopes = newest :: older →
        (∀ id ∈ client.scopes, registry.isActive id = true ↔ id = newest) ∧
          ∃ scope, registry.scope? newest = some scope ∧ scope.mode = registry.mode := by
  intro client registry
  have sound : client.Sound := (sound_started mode).run operations
  refine ⟨sound.scopes, ?_, sound.registry.bounded, ?_, ?_⟩
  · exact List.pairwise_reverse.mpr sound.registry.ordered
  · rw [← sound.scopes, Registry.targetIds, List.length_map, Registry.mountedCount]
  · intro newest older live
    obtain ⟨only, agrees⟩ := sound.registry.active (sound.scopes.trans live)
    exact ⟨fun id _ => only id, agrees⟩

end Client

end WalletScreens.Scope
