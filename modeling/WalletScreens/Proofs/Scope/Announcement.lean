import WalletScreens.Proofs.Scope.Turning

/-!
What announcements leave of a registry.

An observer may answer an announcement with a request to toggle, which is announced in its turn.
However deep that goes, nothing but the active target is flipped, once for each answer.
-/

namespace WalletScreens.Scope

open Theme

/-- Whether an observer tells that its own request to toggle is through. -/
def Report.isAnswer : Report → Bool
  | .received .. => false
  | .resumed .. => true

/-- How many announcements observers have answered with a request to toggle. -/
def Stage.answers (stage : Stage) : Nat :=
  stage.reports.countP Report.isAnswer

namespace Stage

theorem answers_report (stage : Stage) (report : Report) :
    (stage.report report).answers = stage.answers + if report.isAnswer then 1 else 0 := by
  rw [answers, answers, Stage.report, List.countP_append, List.countP_singleton]

variable {before middle after stage : Stage} {answers flips : Nat}

/-- `after` is `before` after announcements with `answers` answers, in which the active target was
flipped `flips` times. -/
structure Announced (answers flips : Nat) (before after : Stage) : Prop where
  turned : Registry.Turned flips before.registry after.registry
  answered : after.answers = before.answers + answers
  spent : after.registry.retoggles + answers ≤ before.registry.retoggles
  ambient : after.ambient = before.ambient

namespace Announced

theorem refl (stage : Stage) : Announced 0 0 stage stage :=
  ⟨.refl _, rfl, Nat.le_refl _, rfl⟩

theorem trans {moreAnswers moreFlips : Nat} (first : Announced answers flips before middle)
    (second : Announced moreAnswers moreFlips middle after) :
    Announced (answers + moreAnswers) (flips + moreFlips) before after where
  turned := first.turned.trans second.turned
  answered := by rw [second.answered, first.answered, Nat.add_assoc]
  spent := by
    have early := first.spent
    have late := second.spent
    omega
  ambient := second.ambient.trans first.ambient

end Announced

/-- How many flips come of so many requests: none where nothing is mounted. -/
def flipsOf (stage : Stage) (requests : Nat) : Nat :=
  if stage.registry.isMounted then requests else 0

theorem Announced.flipsOf (announced : Announced answers flips before after) (requests : Nat) :
    after.flipsOf requests = before.flipsOf requests := by
  rw [Stage.flipsOf, Stage.flipsOf, announced.turned.isMounted]

theorem flipsOf_add (stage : Stage) (first second : Nat) :
    stage.flipsOf (first + second) = stage.flipsOf first + stage.flipsOf second := by
  unfold flipsOf
  split <;> rfl

@[simp] theorem flipsOf_zero (stage : Stage) : stage.flipsOf 0 = 0 := by
  unfold flipsOf
  split <;> rfl

theorem flipsOf_mounted (mounted : stage.registry.isMounted = true) (requests : Nat) :
    stage.flipsOf requests = requests := by
  rw [flipsOf, if_pos mounted]

theorem flipsOf_idle (idle : stage.registry.isMounted = false) (requests : Nat) :
    stage.flipsOf requests = 0 := by
  rw [flipsOf, idle, if_neg Bool.false_ne_true]

theorem announced_received (stage : Stage) (observer : SubscriptionId) (delivered current : Mode) :
    Announced 0 0 stage (stage.report (.received observer delivered current)) where
  turned := .refl _
  answered := answers_report _ _
  spent := Nat.le_refl _
  ambient := rfl

theorem announced_flip {mode : Mode} {registry : Registry}
    (flipped : stage.registry.flipActive? = some (mode, registry)) :
    stage.registry.isMounted = true ∧ Announced 0 1 stage { stage with registry } := by
  constructor
  · cases mounted : stage.registry.isMounted with
    | true => rfl
    | false =>
        rw [stage.registry.flipActive?_eq_none_iff.mpr mounted] at flipped
        contradiction
  · exact ⟨Registry.turned_of_flipActive? flipped, rfl,
      Nat.le_of_eq (Registry.retoggles_of_flipActive? flipped), rfl⟩

section

variable {announce : Mode → Stage → Stage}
  (announces : ∀ mode stage, ∃ answers,
    Announced answers (stage.flipsOf answers) stage (announce mode stage))
include announces

/-- A flip that is announced is followed by one flip for each answer. -/
theorem announced_flip_announce {mode : Mode} {registry : Registry}
    (flipped : stage.registry.flipActive? = some (mode, registry)) :
    ∃ answers, Announced answers (stage.flipsOf (answers + 1)) stage
      (announce mode { stage with registry }) := by
  obtain ⟨mounted, first⟩ := announced_flip flipped
  obtain ⟨answers, rest⟩ := announces mode { stage with registry }
  refine ⟨answers, ?_⟩
  rw [first.flipsOf, flipsOf_mounted mounted] at rest
  have whole := first.trans rest
  rwa [Nat.zero_add, Nat.add_comm 1, ← flipsOf_mounted mounted (answers + 1)] at whole

theorem announced_requestThrough (stage : Stage) :
    ∃ answers,
      Announced answers (stage.flipsOf (answers + 1)) stage (requestThrough announce stage) := by
  unfold requestThrough
  cases flipped : stage.registry.flipActive? with
  | none =>
      refine ⟨0, ?_⟩
      rw [flipsOf_idle (stage.registry.flipActive?_eq_none_iff.mp flipped)]
      exact ⟨.refl _, rfl, Nat.le_refl _, rfl⟩
  | some result => exact announced_flip_announce announces flipped

/-- An observer's answer is paid for by a retoggle before it is made. -/
theorem announced_answer {observer : SubscriptionId} {registry : Registry}
    (paid : stage.registry.spendRetoggle? observer = some registry) :
    ∃ answers, Announced answers (stage.flipsOf answers) stage
      ((requestThrough announce { stage with registry }).report (.resumed observer
        (requestThrough announce { stage with registry }).registry.mode)) := by
  obtain ⟨answers, asked⟩ := announced_requestThrough announces { stage with registry }
  have turned := Registry.turned_of_spendRetoggle? paid
  have same : flipsOf { stage with registry } (answers + 1) = stage.flipsOf (answers + 1) := by
    rw [flipsOf, flipsOf, turned.isMounted]
  rw [same] at asked
  refine ⟨answers + 1, ?_, ?_, ?_, asked.ambient⟩
  · have whole := turned.trans asked.turned
    rwa [Nat.zero_add] at whole
  · rw [answers_report, asked.answered, Nat.add_assoc]
    rfl
  · have left := Registry.retoggles_of_spendRetoggle? paid
    have spent := asked.spent
    simp only [report] at spent ⊢
    omega

theorem announced_tell (mode : Mode) (stage : Stage) (observer : SubscriptionId) :
    ∃ answers, Announced answers (stage.flipsOf answers) stage
      (tell announce mode stage observer) := by
  have told := announced_received stage observer mode stage.registry.mode
  unfold tell
  dsimp only
  split
  · rename_i registry paid
    obtain ⟨answers, answered⟩ := announced_answer announces paid
    have whole := told.trans answered
    rw [told.flipsOf, Nat.zero_add, Nat.zero_add] at whole
    exact ⟨answers, whole⟩
  · exact ⟨0, by rw [flipsOf_zero]; exact told⟩

theorem announced_tellAll (mode : Mode) (observers : List SubscriptionId) (stage : Stage) :
    ∃ answers, Announced answers (stage.flipsOf answers) stage
      (observers.foldl (tell announce mode) stage) := by
  induction observers generalizing stage with
  | nil => exact ⟨0, by rw [flipsOf_zero]; exact .refl stage⟩
  | cons observer rest ih =>
      obtain ⟨first, told⟩ := announced_tell announces mode stage observer
      obtain ⟨more, others⟩ := ih (tell announce mode stage observer)
      rw [told.flipsOf] at others
      exact ⟨first + more, by rw [flipsOf_add]; exact told.trans others⟩

end

theorem announced_announceWithin (depth : Nat) (mode : Mode) (stage : Stage) :
    ∃ answers, Announced answers (stage.flipsOf answers) stage
      (announceWithin depth mode stage) := by
  induction depth generalizing mode stage with
  | zero => exact ⟨0, by rw [flipsOf_zero]; exact .refl stage⟩
  | succ depth ih => exact announced_tellAll ih mode _ stage

theorem announced_announce (mode : Mode) (stage : Stage) :
    ∃ answers, Announced answers (stage.flipsOf answers) stage (announce mode stage) :=
  announced_announceWithin _ mode stage

/-- A request to toggle flips the active target, and once more for each answer to it. -/
theorem announced_requestToggle (stage : Stage) :
    ∃ answers, Announced answers (stage.flipsOf (answers + 1)) stage stage.requestToggle :=
  announced_requestThrough announced_announce stage

theorem announced_tryToggle (stage : Stage) :
    ∃ answers, Announced answers (stage.flipsOf (answers + 1)) stage stage.tryToggle.2 := by
  unfold tryToggle
  cases flipped : stage.registry.flipActive? with
  | none =>
      refine ⟨0, ?_⟩
      rw [flipsOf_idle (stage.registry.flipActive?_eq_none_iff.mp flipped)]
      exact .refl stage
  | some result => exact announced_flip_announce announced_announce flipped

/-- A mode that is set is announced after a flip or, with nothing mounted, after it is stored. -/
theorem announced_setMode {mode : Mode} (differs : stage.registry.mode ≠ mode) :
    (stage.registry.isMounted = true ∧
      ∃ answers, Announced answers (answers + 1) stage (stage.setMode mode)) ∨
    (stage.registry.isMounted = false ∧
      ∃ answers, Announced answers 0 { stage with registry := { stage.registry with mode } }
        (stage.setMode mode)) := by
  unfold setMode
  rw [if_neg differs]
  cases flipped : stage.registry.flipActive? with
  | none =>
      have idle := stage.registry.flipActive?_eq_none_iff.mp flipped
      have none (answers : Nat) :
          flipsOf { stage with registry := { stage.registry with mode } } answers = 0 :=
        flipsOf_idle idle answers
      obtain ⟨answers, announced⟩ :=
        announced_announce mode { stage with registry := { stage.registry with mode } }
      rw [none] at announced
      exact .inr ⟨idle, answers, announced⟩
  | some result =>
      obtain ⟨mounted, -⟩ := announced_flip flipped
      obtain ⟨answers, announced⟩ := announced_flip_announce announced_announce flipped
      rw [flipsOf_mounted mounted] at announced
      exact .inl ⟨mounted, answers, announced⟩

/-- So many requests in a row. -/
theorem announced_requestToggle_iterate (count : Nat) (stage : Stage) :
    ∃ answers, Announced answers (stage.flipsOf (count + answers)) stage
      (requestToggle^[count] stage) := by
  induction count generalizing stage with
  | zero => exact ⟨0, by rw [flipsOf_zero]; exact .refl stage⟩
  | succ count ih =>
      obtain ⟨first, announced⟩ := stage.announced_requestToggle
      obtain ⟨more, later⟩ := ih stage.requestToggle
      rw [announced.flipsOf] at later
      refine ⟨first + more, ?_⟩
      have whole := announced.trans later
      rw [← flipsOf_add] at whole
      have total : count + 1 + (first + more) = first + 1 + (count + more) := by omega
      rwa [total, Function.iterate_succ_apply]

theorem ambient_requestToggle_iterate (count : Nat) (stage : Stage) :
    (requestToggle^[count] stage).ambient = stage.ambient := by
  obtain ⟨_, announced⟩ := announced_requestToggle_iterate count stage
  exact announced.ambient

theorem agreeing_requestToggle_iterate (count : Nat) (agreeing : stage.registry.Agreeing) :
    (requestToggle^[count] stage).registry.Agreeing := by
  obtain ⟨_, announced⟩ := announced_requestToggle_iterate count stage
  exact announced.turned.agreeing agreeing

/-- The active target is a scope in the registry's mode, no observer has a retoggle left, and
nothing is provided. -/
structure Quiet (stage : Stage) (id : SubscriptionId) (scope : ScopeState) : Prop where
  active : ∃ older, stage.registry.targets = (id, .scope scope) :: older
  agrees : scope.mode = stage.registry.mode
  silent : stage.registry.retoggles = 0
  bare : stage.ambient = []

namespace Quiet

variable {id : SubscriptionId} {scope : ScopeState}

theorem scope? (quiet : stage.Quiet id scope) : stage.registry.scope? id = some scope := by
  obtain ⟨older, active⟩ := quiet.active
  simp [Registry.scope?, Registry.target?, active]

theorem mount (mode : Mode) (terminal : Bool) :
    let empty : Stage := { registry := { mode }, terminal }
    empty.mount.2.Quiet empty.mount.1 ⟨mode, 0⟩ where
  active := ⟨[], by simp [Stage.mount, Registry.mount, Registry.subscribe, Target.sync,
    ScopeState.sync]⟩
  agrees := rfl
  silent := rfl
  bare := rfl

/-- With no retoggle left there is no answer, so requests flip the scope as often as they are
made. -/
theorem requestToggle_iterate (quiet : stage.Quiet id scope) (count : Nat) :
    (Stage.requestToggle^[count] stage).Quiet id
      ⟨Mode.toggled^[count] scope.mode, scope.revision + count⟩ := by
  obtain ⟨⟨older, active⟩, agrees, silent, bare⟩ := quiet
  obtain ⟨answers, announced⟩ := stage.announced_requestToggle_iterate count
  have spent := announced.spent
  have unanswered : answers = 0 := by omega
  rw [unanswered, flipsOf_mounted (by rw [Registry.isMounted, active]; rfl)] at announced
  have inMode : stage.registry.targets =
      (id, .scope ⟨stage.registry.mode, scope.revision⟩) :: older := by
    rw [active, ← agrees]
  obtain ⟨mode, targets⟩ := announced.turned.of_scope inMode
  rw [agrees]
  exact ⟨⟨older, targets⟩, mode.symm, by omega, announced.ambient.trans bare⟩

end Quiet

end Stage

end WalletScreens.Scope
