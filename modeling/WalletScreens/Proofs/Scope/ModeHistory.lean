import WalletScreens.Proofs.Scope.Agreement
import WalletScreens.Proofs.Scope.Effect

/-!
The registry's mode at the end of a run is a matter of the run alone: what was set last, flipped
once for each toggle that was issued since while a scope was live.
-/

namespace WalletScreens.Scope

open Theme

namespace Registry

variable {before after : Registry} {count : Nat}

/-- The active scope of a sound registry is in the registry's mode. -/
theorem Sound.newest (sound : before.Sound) :
    before.targets = [] ∨
      ∃ id revision older, before.targets = (id, .scope ⟨before.mode, revision⟩) :: older := by
  cases found : before.targets with
  | nil => exact .inl rfl
  | cons entry older =>
      obtain ⟨state, scope⟩ := sound.scopes entry (by rw [found]; exact List.mem_cons_self)
      have agreed := sound.agreeing entry (by rw [found]; rfl)
      obtain ⟨id, target⟩ := entry
      cases scope
      exact .inr ⟨id, state.revision, older, by rw [← show state.mode = before.mode from agreed]⟩

/-- With the active scope in its mode, a registry is flipped as often as that scope is. -/
theorem Sound.mode_turned (sound : before.Sound) (turned : Turned count before after)
    (idle : before.isMounted = false → count = 0) :
    after.mode = Mode.toggled^[count] before.mode := by
  rcases sound.newest with none | ⟨id, revision, older, active⟩
  · have zero := idle (by rw [isMounted, none]; rfl)
    subst zero
    exact turned.idle rfl
  · exact (turned.of_scope active).1

end Registry

namespace Client

variable {client : Client}

def mode (client : Client) : Mode :=
  client.stage.registry.mode

/-- Whether an operation asks for a toggle. -/
def asks (client : Client) : Operation → Bool
  | .tryToggle | .requestToggle => true
  | .toggleThrough id => client.scopes.contains id
  | _ => false

/-- How many announcements observers answer with a toggle while an operation is performed. -/
def answered (client : Client) (operation : Operation) : Nat :=
  (client.perform operation).stage.answers - client.stage.answers

/-- The toggles that are issued in an operation while a scope is live: the one that it asks for, and
those that observers answer with. -/
def togglesIn (client : Client) (operation : Operation) : Nat :=
  if client.scopes = [] then 0
  else (if client.asks operation then 1 else 0) + client.answered operation

/-- The toggles that are issued in a run while a scope is live. -/
def toggles (client : Client) : List Operation → Nat
  | [] => 0
  | operation :: rest => client.togglesIn operation + (client.perform operation).toggles rest

theorem Sound.isMounted_eq_false_iff (sound : client.Sound) :
    client.stage.registry.isMounted = false ↔ client.scopes = [] := by
  rw [← sound.scopes, Registry.targetIds, List.map_eq_nil_iff, Registry.isMounted]
  simp

theorem Sound.flipsOf (sound : client.Sound) (requests : Nat) :
    client.stage.flipsOf requests = if client.scopes = [] then 0 else requests := by
  split
  · rename_i idle
    exact Stage.flipsOf_idle (sound.isMounted_eq_false_iff.mpr idle) requests
  · rename_i live
    refine Stage.flipsOf_mounted ?_ requests
    rwa [← sound.isMounted_eq_false_iff, Bool.not_eq_false] at live

theorem Sound.mode_announced {after : Stage} {answers requests : Nat} (sound : client.Sound)
    (announced : Stage.Announced answers (client.stage.flipsOf requests) client.stage after) :
    after.registry.mode =
      Mode.toggled^[if client.scopes = [] then 0 else requests] client.mode := by
  rw [← sound.flipsOf]
  exact sound.registry.mode_turned announced.turned fun idle => Stage.flipsOf_idle idle requests

theorem answered_eq {operation : Operation} {answers flips : Nat}
    (announced : Stage.Announced answers flips client.stage (client.perform operation).stage) :
    client.answered operation = answers := by
  rw [answered, announced.answered, Nat.add_sub_cancel_left]

/-- What neither asks for a toggle nor sets the mode is told to nobody. -/
theorem perform_untold {operation : Operation} (unasked : client.asks operation = false)
    (unset : ∀ mode, operation ≠ .setMode mode) :
    (client.perform operation).mode = client.mode ∧
      (client.perform operation).stage.reports = client.stage.reports := by
  cases operation with
  | mount => exact ⟨rfl, rfl⟩
  | observe retoggles => exact ⟨rfl, rfl⟩
  | setMode mode => exact absurd rfl (unset mode)
  | tryToggle => contradiction
  | requestToggle => contradiction
  | toggleThrough id =>
      have absent : id ∉ client.scopes := by simpa [asks] using unasked
      rw [show client.perform (.toggleThrough id) = client from if_neg absent]
      exact ⟨rfl, rfl⟩
  | drop id =>
      rw [perform]
      split <;> exact ⟨rfl, rfl⟩
  | dropObserver id =>
      rw [perform]
      split <;> exact ⟨rfl, rfl⟩

theorem perform_setMode_of_same {mode : Mode} (same : client.mode = mode) :
    client.perform (.setMode mode) = client := by
  have still : client.stage.setMode mode = client.stage := if_pos same
  rw [perform, still]

theorem perform_silent {operation : Operation} (silent : client.asks operation = false)
    (unset : ∀ mode, operation ≠ .setMode mode) :
    (client.perform operation).mode = client.mode ∧ client.answered operation = 0 := by
  obtain ⟨mode, reports⟩ := perform_untold silent unset
  exact ⟨mode, by rw [answered, Stage.answers, Stage.answers, reports, Nat.sub_self]⟩

theorem perform_asking {operation : Operation} (asking : client.asks operation = true) :
    ∃ answers, Stage.Announced answers (client.stage.flipsOf (answers + 1)) client.stage
      (client.perform operation).stage := by
  cases operation with
  | tryToggle => exact client.stage.announced_tryToggle
  | requestToggle => exact client.stage.announced_requestToggle
  | toggleThrough id =>
      have held : id ∈ client.scopes := by simpa [asks] using asking
      rw [perform, if_pos held]
      exact client.stage.announced_tryToggle
  | mount => contradiction
  | drop id => contradiction
  | setMode mode => contradiction
  | observe retoggles => contradiction
  | dropObserver id => contradiction

theorem Sound.mode_perform (sound : client.Sound) {operation : Operation}
    (unset : ∀ mode, operation ≠ .setMode mode) :
    (client.perform operation).mode = Mode.toggled^[client.togglesIn operation] client.mode := by
  cases asking : client.asks operation with
  | false =>
      obtain ⟨mode, answered⟩ := perform_silent asking unset
      rw [mode, togglesIn, asking, answered]
      split <;> rfl
  | true =>
      obtain ⟨answers, announced⟩ := perform_asking asking
      rw [togglesIn, asking, answered_eq announced, if_pos rfl, Nat.add_comm]
      exact sound.mode_announced announced

/-- The answers to a mode that was set flip it again, one after the other. -/
theorem Sound.mode_perform_setMode (sound : client.Sound) (mode : Mode) :
    (client.perform (.setMode mode)).mode =
      Mode.toggled^[client.togglesIn (.setMode mode)] mode := by
  by_cases same : client.stage.registry.mode = mode
  · rw [togglesIn, answered, perform_setMode_of_same same, Nat.sub_self]
    split <;> exact same
  · rcases Stage.announced_setMode same with ⟨live, answers, announced⟩ | ⟨idle, answers, announced⟩
    · have mounted : client.scopes ≠ [] := by
        rw [Ne, ← sound.isMounted_eq_false_iff, live]
        exact Bool.noConfusion
      have unasked : client.asks (.setMode mode) = false := rfl
      rw [togglesIn, if_neg mounted, answered_eq announced, unasked, if_neg Bool.false_ne_true,
        Nat.zero_add]
      calc (client.perform (.setMode mode)).mode
        _ = Mode.toggled^[answers + 1] client.mode :=
          sound.registry.mode_turned announced.turned (by rw [live]; exact Bool.noConfusion)
        _ = Mode.toggled^[answers] client.mode.toggled := Function.iterate_succ_apply ..
        _ = Mode.toggled^[answers] mode := congrArg _ (Mode.toggled_eq_of_ne same)
    · have none : client.scopes = [] := sound.isMounted_eq_false_iff.mp idle
      rw [togglesIn, if_pos none]
      exact announced.turned.idle rfl

theorem run_append (client : Client) (first second : List Operation) :
    client.run (first ++ second) = (client.run first).run second :=
  List.foldl_append

theorem Sound.mode_run (sound : client.Sound) {operations : List Operation}
    (unset : ∀ mode, .setMode mode ∉ operations) :
    (client.run operations).mode = Mode.toggled^[client.toggles operations] client.mode := by
  induction operations generalizing client with
  | nil => rfl
  | cons operation rest ih =>
      have first : ∀ mode, operation ≠ .setMode mode := fun mode set =>
        unset mode (set ▸ List.mem_cons_self)
      have later := ih (sound.perform operation) fun mode member =>
        unset mode (List.mem_cons_of_mem _ member)
      rw [run_cons, later, sound.mode_perform first, toggles, Nat.add_comm,
        Function.iterate_add_apply]

/-- The mode after a run is the one that was set last, or else the one at the start, flipped once
for each toggle since that was issued while a scope was live.  Nothing else changes it, and a scope
that is mounted starts in it. -/
theorem mode_follows_history (start : Mode) (operations : List Operation) :
    let client := (started start).run operations
    ((∀ mode, .setMode mode ∉ operations) →
        client.mode = Mode.toggled^[(started start).toggles operations] start) ∧
      (∀ earlier mode later, operations = earlier ++ .setMode mode :: later →
        (∀ other, .setMode other ∉ later) →
          client.mode =
            Mode.toggled^[((started start).run earlier).toggles (.setMode mode :: later)] mode) ∧
      (∀ operation, (∀ mode, operation ≠ .setMode mode) →
        (client.asks operation = true → client.scopes = []) →
          (client.perform operation).mode = client.mode) ∧
      (client.stage.tryToggle.1 = .error .notMounted ↔ client.scopes = []) ∧
      ∃ id, (client.perform .mount).scopes = id :: client.scopes ∧
        (client.perform .mount).stage.registry.scope? id = some ⟨client.mode, 0⟩ := by
  intro client
  have sound : client.Sound := (sound_started start).run operations
  refine ⟨?_, ?_, ?_, ?_, ?_⟩
  · exact (sound_started start).mode_run
  · rintro earlier mode later split unset
    have before : ((started start).run earlier).Sound := (sound_started start).run earlier
    have rest := (before.perform (.setMode mode)).mode_run unset
    rw [before.mode_perform_setMode, ← Function.iterate_add_apply, Nat.add_comm] at rest
    have whole : client = (((started start).run earlier).perform (.setMode mode)).run later := by
      rw [show client = (started start).run operations from rfl, split, run_append, run_cons]
    rw [whole]
    exact rest
  · intro operation unset idle
    rw [sound.mode_perform unset]
    cases asking : client.asks operation with
    | true => rw [togglesIn, if_pos (idle asking)]; rfl
    | false =>
        rw [togglesIn, asking, (perform_silent asking unset).2]
        split <;> rfl
  · rw [← sound.isMounted_eq_false_iff, ← Registry.flipActive?_eq_none_iff, Stage.tryToggle]
    cases client.stage.registry.flipActive? with
    | none => exact iff_of_true rfl rfl
    | some flipped => exact iff_of_false nofun nofun
  · exact ⟨_, rfl, (client.stage.registry.scope?_mount _).trans (if_pos rfl)⟩

/-- Of the toggles after the mode is set one finds nothing mounted, and one is answered. -/
theorem mode_after_answered_toggle :
    let earlier := [.tryToggle, .mount, .tryToggle]
    let later := [.mount, .requestToggle, .drop 1, .toggleThrough 2, .observe 1, .tryToggle,
      .drop 2, .tryToggle, .mount, .tryToggle]
    let settled := (started .light).run earlier
    (∀ other, .setMode other ∉ later) ∧ settled.toggles (.setMode .dark :: later) = 5 ∧
      ((started .light).run (earlier ++ .setMode .dark :: later)).mode =
        Mode.toggled^[settled.toggles (.setMode .dark :: later)] .dark := by
  intro earlier later settled
  have unset : ∀ other, .setMode other ∉ later := by simp [later]
  exact ⟨unset, by decide,
    (mode_follows_history .light (earlier ++ .setMode .dark :: later)).2.1 earlier .dark later rfl
      unset⟩

end Client

end WalletScreens.Scope
