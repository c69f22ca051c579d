import WalletScreens.Proofs.Scope.Newest

/-!
What observers are told.

Observers that only read leave a registry as they find it.  So a change of mode comes to one call to
each of those that are registered at that time, in the order they were added, and nothing else comes
to any.
-/

namespace WalletScreens.Scope

open Theme

namespace Report

/-- The mode that a report tells an observer. -/
def deliveredTo? (id : SubscriptionId) : Report → Option Mode
  | .received observer delivered _ => if observer = id then some delivered else none
  | .resumed .. => none

/-- Of calls to different observers one at most is to the observer of a number. -/
theorem filterMap_deliveredTo? {ids : List SubscriptionId} (different : ids.Nodup)
    (id : SubscriptionId) (delivered current : Mode) :
    (ids.map fun observer => received observer delivered current).filterMap (deliveredTo? id) =
      if id ∈ ids then [delivered] else [] := by
  induction ids with
  | nil => rfl
  | cons first rest ih =>
      obtain ⟨absent, others⟩ := List.nodup_cons.mp different
      rw [List.map_cons, List.filterMap_cons, ih others, deliveredTo?]
      by_cases same : first = id
      · subst same
        simp [absent]
      · have other : id ≠ first := Ne.symm same
        simp [same, other]

end Report

namespace Registry

variable {registry before after : Registry}

theorem spendRetoggle?_eq_none (reading : registry.retoggles = 0) (id : SubscriptionId) :
    registry.spendRetoggle? id = none := by
  rw [retoggles_eq_zero_iff] at reading
  have unable : ¬ registry.observers.any
      (fun observer => observer.id == id && 0 < observer.retoggles) = true := by
    simp only [List.any_eq_true, Bool.and_eq_true, decide_eq_true_eq, not_exists, not_and]
    intro observer member _ left
    rw [reading observer member] at left
    exact Nat.lt_irrefl 0 left
  rw [spendRetoggle?, if_neg unable]

/-- The active scope of a sound registry flips to another mode, and the registry follows it. -/
theorem Sound.flipped {mode : Mode} (sound : before.Sound)
    (flipped : before.flipActive? = some (mode, after)) :
    after.mode = mode ∧ mode ≠ before.mode ∧ after.observers = before.observers := by
  rcases sound.newest with none | ⟨id, revision, older, active⟩
  · simp [flipActive?, none] at flipped
  · simp only [flipActive?, active, Option.some.injEq, Prod.mk.injEq] at flipped
    obtain ⟨rfl, rfl⟩ := flipped
    exact ⟨rfl, before.mode.toggled_ne, rfl⟩

end Registry

namespace Stage

variable {stage before after : Stage}

/-- The modes that an observer has been told, in order. -/
def delivered (stage : Stage) (id : SubscriptionId) : List Mode :=
  stage.reports.filterMap (Report.deliveredTo? id)

theorem tell_of_reading (announce : Mode → Stage → Stage) (mode : Mode)
    (reading : stage.registry.retoggles = 0) (observer : SubscriptionId) :
    tell announce mode stage observer =
      stage.report (.received observer mode stage.registry.mode) := by
  have unpaid : (stage.report (.received observer mode
      stage.registry.mode)).registry.spendRetoggle? observer = none :=
    Registry.spendRetoggle?_eq_none reading observer
  unfold tell
  simp only [unpaid]

theorem foldl_tell_of_reading (announce : Mode → Stage → Stage) (mode : Mode)
    (reading : stage.registry.retoggles = 0) (observers : List SubscriptionId) :
    observers.foldl (tell announce mode) stage =
      { stage with
        reports := stage.reports ++
          observers.map fun id => .received id mode stage.registry.mode } := by
  induction observers generalizing stage with
  | nil => simp
  | cons observer rest ih =>
      rw [List.foldl_cons, tell_of_reading announce mode reading, ih (by exact reading)]
      simp [report]

/-- To announce a mode to observers that only read is to call each of them. -/
theorem announce_of_reading (mode : Mode) (reading : stage.registry.retoggles = 0) :
    announce mode stage =
      { stage with
        reports := stage.reports ++
          stage.registry.observerIds.map fun id => .received id mode stage.registry.mode } := by
  rw [announce, announceWithin]
  exact foldl_tell_of_reading _ mode reading _

/-- What an operation makes of a stage: it tells nothing and keeps the mode, or it moves to another
mode and announces that to the observers. -/
inductive Told (before : Stage) : Stage → Prop where
  | nothing {after : Stage} (mode : after.registry.mode = before.registry.mode)
      (reports : after.reports = before.reports) : Told before after
  | another (registry : Registry) (observers : registry.observers = before.registry.observers)
      (differs : registry.mode ≠ before.registry.mode) :
      Told before (announce registry.mode { before with registry })

/-- Where observers only read, another mode is told to each of them while the registry is in it. -/
theorem Told.reports (told : Told before after) (reading : before.registry.retoggles = 0) :
    after.reports = before.reports ++
      if after.registry.mode = before.registry.mode then []
      else before.registry.observerIds.map fun id =>
        .received id after.registry.mode after.registry.mode := by
  cases told with
  | nothing mode reports => rw [if_pos mode, reports, List.append_nil]
  | another registry observers differs =>
      have still : registry.retoggles = 0 := by
        rw [Registry.retoggles, observers]
        exact reading
      have same : registry.observerIds = before.registry.observerIds := by
        rw [Registry.observerIds, Registry.observerIds, observers]
      rw [announce_of_reading registry.mode (by exact still), if_neg (by exact differs), ← same]

theorem told_flip {mode : Mode} {registry : Registry} (sound : stage.registry.Sound)
    (flipped : stage.registry.flipActive? = some (mode, registry)) :
    Told stage (announce mode { stage with registry }) := by
  obtain ⟨rfl, differs, observers⟩ := sound.flipped flipped
  exact .another registry observers differs

theorem told_tryToggle (sound : stage.registry.Sound) : Told stage stage.tryToggle.2 := by
  unfold tryToggle
  cases flipped : stage.registry.flipActive? with
  | none => exact .nothing rfl rfl
  | some result => exact told_flip sound flipped

theorem told_requestToggle (sound : stage.registry.Sound) : Told stage stage.requestToggle := by
  unfold requestToggle requestThrough
  cases flipped : stage.registry.flipActive? with
  | none => exact .nothing rfl rfl
  | some result => exact told_flip sound flipped

theorem told_setMode (sound : stage.registry.Sound) (mode : Mode) :
    Told stage (stage.setMode mode) := by
  unfold setMode
  split
  · exact .nothing rfl rfl
  · rename_i differs
    cases flipped : stage.registry.flipActive? with
    | none => exact .another { stage.registry with mode } rfl (Ne.symm differs)
    | some result => exact told_flip sound flipped

end Stage

namespace Client

variable {client : Client} {operation : Operation} {id : SubscriptionId}

theorem Sound.told_perform (sound : client.Sound) (operation : Operation) :
    Stage.Told client.stage (client.perform operation).stage := by
  have untold (unasked : client.asks operation = false)
      (unset : ∀ mode, operation ≠ .setMode mode) :
      Stage.Told client.stage (client.perform operation).stage := by
    obtain ⟨mode, reports⟩ := perform_untold unasked unset
    exact .nothing mode reports
  cases operation with
  | mount => exact untold rfl (by simp)
  | drop id => exact untold rfl (by simp)
  | tryToggle => exact Stage.told_tryToggle sound.registry
  | requestToggle => exact Stage.told_requestToggle sound.registry
  | toggleThrough id =>
      rw [Client.perform]
      split
      · exact Stage.told_tryToggle sound.registry
      · exact .nothing rfl rfl
  | setMode mode => exact Stage.told_setMode sound.registry mode
  | observe retoggles => exact untold rfl (by simp)
  | dropObserver id => exact untold rfl (by simp)

/-- The calls that are due when an operation has been performed: one to each observer, with the new
mode, if the mode has changed. -/
def callsIn (client : Client) (operation : Operation) : List Report :=
  let mode := (client.perform operation).mode
  if mode = client.mode then [] else client.observers.map fun id => .received id mode mode

/-- The calls that are due in a run. -/
def calls (client : Client) : List Operation → List Report
  | [] => []
  | operation :: rest => client.callsIn operation ++ (client.perform operation).calls rest

/-- The modes that the registry is moved to in a run while an observer is registered. -/
def modesDuring (client : Client) (id : SubscriptionId) : List Operation → List Mode
  | [] => []
  | operation :: rest =>
      let after := client.perform operation
      if id ∈ client.observers ∧ after.mode ≠ client.mode then
        after.mode :: after.modesDuring id rest
      else after.modesDuring id rest

theorem Sound.reports_perform (sound : client.Sound)
    (reading : client.stage.registry.retoggles = 0) (operation : Operation) :
    (client.perform operation).stage.reports =
      client.stage.reports ++ client.callsIn operation := by
  rw [(sound.told_perform operation).reports reading, callsIn, ← sound.observers]
  rfl

/-- All that observers that only read are told. -/
theorem Sound.reports_run (sound : client.Sound) (reading : client.stage.registry.retoggles = 0)
    {operations : List Operation}
    (readers : ∀ retoggles, .observe retoggles ∈ operations → retoggles = 0) :
    (client.run operations).stage.reports = client.stage.reports ++ client.calls operations := by
  induction operations generalizing client with
  | nil => exact (List.append_nil _).symm
  | cons operation rest ih =>
      have still := (client.effect_perform operation).retoggles_eq_zero reading
        fun retoggles same => readers retoggles (same ▸ List.mem_cons_self)
      have later := ih (sound.perform operation) still fun retoggles member =>
        readers retoggles (List.mem_cons_of_mem _ member)
      rw [run_cons, later, sound.reports_perform reading, calls, List.append_assoc]

theorem Sound.filterMap_callsIn (sound : client.Sound) (operation : Operation)
    (id : SubscriptionId) :
    (client.callsIn operation).filterMap (Report.deliveredTo? id) =
      if id ∈ client.observers ∧ (client.perform operation).mode ≠ client.mode then
        [(client.perform operation).mode]
      else [] := by
  have different : client.observers.Nodup := by
    rw [← sound.observers]
    exact sound.registry.observersOrdered.imp Nat.ne_of_lt
  rw [callsIn]
  by_cases same : (client.perform operation).mode = client.mode
  · simp [same]
  · simp [same, Report.filterMap_deliveredTo? different]

theorem Sound.filterMap_calls (sound : client.Sound) (operations : List Operation)
    (id : SubscriptionId) :
    (client.calls operations).filterMap (Report.deliveredTo? id) =
      client.modesDuring id operations := by
  induction operations generalizing client with
  | nil => rfl
  | cons operation rest ih =>
      rw [calls, List.filterMap_append, sound.filterMap_callsIn, ih (sound.perform operation),
        modesDuring]
      split <;> rfl

theorem Sound.delivered_perform (sound : client.Sound)
    (reading : client.stage.registry.retoggles = 0) (operation : Operation) (id : SubscriptionId) :
    (client.perform operation).stage.delivered id = client.stage.delivered id ++
      if id ∈ client.observers ∧ (client.perform operation).mode ≠ client.mode then
        [(client.perform operation).mode]
      else [] := by
  rw [Stage.delivered, sound.reports_perform reading, List.filterMap_append,
    sound.filterMap_callsIn, Stage.delivered]

theorem mem_observers_perform (registered : id ∈ (client.perform operation).observers) :
    id ∈ client.observers ∨ id = client.stage.registry.lastId + 1 := by
  cases operation with
  | observe retoggles =>
      rcases List.mem_append.mp registered with before | added
      · exact .inl before
      · exact .inr (List.mem_singleton.mp added)
  | dropObserver other =>
      rw [perform] at registered
      split at registered
      · exact .inl (List.mem_of_mem_filter registered)
      · exact .inl registered
  | drop other =>
      rw [perform] at registered
      split at registered <;> exact .inl registered
  | toggleThrough other =>
      rw [perform] at registered
      split at registered <;> exact .inl registered
  | _ => exact .inl registered

/-- What an observer has been told is up to date while it is registered. -/
structure Heard (client : Client) (id : SubscriptionId) : Prop where
  alternating : (client.stage.delivered id).IsChain (· ≠ ·)
  current : id ∈ client.observers →
    ∀ mode ∈ (client.stage.delivered id).getLast?, mode = client.mode
  fresh : client.stage.registry.lastId < id → client.stage.delivered id = []

theorem heard_started (start : Mode) (id : SubscriptionId) : (started start).Heard id where
  alternating := .nil
  current := nofun
  fresh _ := rfl

theorem Sound.heard_perform (sound : client.Sound) (reading : client.stage.registry.retoggles = 0)
    (operation : Operation) (heard : client.Heard id) : (client.perform operation).Heard id := by
  have delivered := sound.delivered_perform reading operation id
  have grown := (client.effect_perform operation).lastId_le
  by_cases told : id ∈ client.observers ∧ (client.perform operation).mode ≠ client.mode
  · obtain ⟨registered, differs⟩ := told
    have bounded : id ≤ client.stage.registry.lastId :=
      sound.registry.observersBounded id (by rwa [sound.observers])
    rw [if_pos ⟨registered, differs⟩] at delivered
    refine ⟨?_, ?_, fun fresh => ?_⟩
    · rw [delivered]
      refine heard.alternating.append (.singleton _) ?_
      intro last member next head
      cases Option.mem_some_iff.mp head
      rw [heard.current registered last member]
      exact Ne.symm differs
    · simp [delivered]
    · exact absurd bounded (Nat.not_le_of_lt (Nat.lt_of_le_of_lt grown fresh))
  · rw [if_neg told, List.append_nil] at delivered
    refine ⟨?_, ?_, fun fresh => ?_⟩
    · rw [delivered]
      exact heard.alternating
    · intro registered mode last
      rw [delivered] at last
      rcases mem_observers_perform registered with before | added
      · have same : (client.perform operation).mode = client.mode :=
          of_not_not fun differs => told ⟨before, differs⟩
        rw [same]
        exact heard.current before mode last
      · -- The mode may have changed since the last call, but one that is new has had none.
        rw [heard.fresh (by rw [added]; exact Nat.lt_succ_self _)] at last
        contradiction
    · rw [delivered]
      exact heard.fresh (Nat.lt_of_le_of_lt grown fresh)

theorem heard_run (start : Mode) {operations : List Operation}
    (reading : ∀ retoggles, .observe retoggles ∈ operations → retoggles = 0)
    (id : SubscriptionId) : ((started start).run operations).Heard id := by
  induction operations using List.reverseRecOn with
  | nil => exact heard_started start id
  | append_singleton operations operation ih =>
      have earlier : ∀ retoggles, .observe retoggles ∈ operations → retoggles = 0 :=
        fun retoggles member => reading retoggles (List.mem_append_left _ member)
      have sound : ((started start).run operations).Sound := (sound_started start).run operations
      rw [run_append]
      exact sound.heard_perform (retoggles_run rfl earlier) operation (ih earlier)

/-- A toggle with nothing mounted and a mode that is set again change nothing, and neither does what
asks for no mode. -/
theorem Sound.mode_perform_idle (sound : client.Sound)
    (idle : client.asks operation = true → client.scopes = [])
    (unset : client.sets operation = false) :
    (client.perform operation).mode = client.mode := by
  by_cases asking : client.asks operation = true
  · obtain ⟨answers, announced⟩ := perform_asking asking
    rw [sound.flipsOf, if_pos (idle asking)] at announced
    exact announced.turned.idle rfl
  · rw [Bool.not_eq_true] at asking
    cases operation with
    | setMode mode =>
        have same : client.mode = mode := (bne_eq_false_iff_eq.mp unset).symm
        rw [perform_setMode_of_same same]
    | _ => exact (perform_untold asking nofun).1

/-- Where observers only read, they are called once for each operation that changes the mode: all
that are registered at that time and in the order they were added, with the new mode, which the
registry is in.  So the modes that one is told alternate, and the last of them is the registry's as
long as it is registered.  A toggle with nothing mounted, a mode that is set again, a mount and
whatever ends are told to nobody. -/
theorem observers_hear_every_change (start : Mode) (operations : List Operation)
    (reading : ∀ retoggles, .observe retoggles ∈ operations → retoggles = 0) :
    let client := (started start).run operations
    client.stage.reports = (started start).calls operations ∧
      (∀ id, client.stage.delivered id = (started start).modesDuring id operations ∧
        (client.stage.delivered id).IsChain (· ≠ ·) ∧
        (id ∈ client.observers →
          ∀ mode ∈ (client.stage.delivered id).getLast?, mode = client.mode)) ∧
      ∀ operation, (client.asks operation = true → client.scopes = []) →
        client.sets operation = false →
          (client.perform operation).mode = client.mode ∧
            (client.perform operation).stage.reports = client.stage.reports := by
  intro client
  have sound : client.Sound := (sound_started start).run operations
  have reports : client.stage.reports = (started start).calls operations :=
    (sound_started start).reports_run rfl reading
  refine ⟨reports, fun id => ⟨?_, ?_, ?_⟩, ?_⟩
  · rw [Stage.delivered, reports, (sound_started start).filterMap_calls]
  · exact (heard_run start reading id).alternating
  · exact (heard_run start reading id).current
  · intro operation idle unset
    have same := sound.mode_perform_idle idle unset
    refine ⟨same, ?_⟩
    rw [sound.reports_perform (retoggles_run rfl reading), callsIn, if_pos same, List.append_nil]

/-- The observer that is numbered 4 is registered while the mode changes three times.  It is not
told that a scope hands over to one that is out of date, nor of a toggle with nothing mounted. -/
theorem calls_to_second_observer :
    let operations := [.mount, .observe 0, .tryToggle, .mount, .observe 0, .requestToggle,
      .setMode .dark, .drop 3, .dropObserver 2, .setMode .light, .drop 1, .tryToggle,
      .setMode .dark]
    let client := (started .dark).run operations
    (∀ retoggles, .observe retoggles ∈ operations → retoggles = 0) ∧
      (started .dark).modesDuring 4 operations = [.dark, .light, .dark] ∧
      client.stage.delivered 4 = (started .dark).modesDuring 4 operations ∧
      client.stage.reports = (started .dark).calls operations := by
  intro operations client
  have reading : ∀ retoggles, .observe retoggles ∈ operations → retoggles = 0 := by
    simp [operations]
  obtain ⟨reports, heard, -⟩ := observers_hear_every_change .dark operations reading
  exact ⟨reading, by decide, (heard 4).1, reports⟩

end Client

end WalletScreens.Scope
