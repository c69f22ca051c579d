import Mathlib.Logic.Function.Iterate
import WalletScreens.Scope.Stage

/-!
What requests do not look at.

A request reads and changes the registry, and it adds reports and notices to those that are there.
So it does the same under any provided themes and after any notices.
-/

namespace WalletScreens.Scope

open Theme

namespace Stage

variable {change : Stage → Stage}

/-- A change of a stage that shows in nothing a request reads, and that can as well be made after
all a request does. -/
structure Unread (change : Stage → Stage) : Prop where
  registry : ∀ stage, (change stage).registry = stage.registry
  withRegistry : ∀ stage registry,
    change { stage with registry } = { change stage with registry }
  report : ∀ stage report, change (stage.report report) = (change stage).report report
  note : ∀ stage notices, change (stage.note notices) = (change stage).note notices

namespace Unread

section

variable {announce : Mode → Stage → Stage} (unread : Unread change)
  (announces : ∀ mode stage, announce mode (change stage) = change (announce mode stage))
include unread announces

theorem requestThrough (stage : Stage) :
    Stage.requestThrough announce (change stage) =
      change (Stage.requestThrough announce stage) := by
  have flips := congrArg Registry.flipActive? (unread.registry stage)
  unfold Stage.requestThrough
  cases flipped : stage.registry.flipActive? with
  | none =>
      rw [flips, flipped]
      exact (unread.note stage _).symm
  | some result =>
      rw [flips, flipped]
      dsimp only
      rw [← announces, unread.withRegistry stage result.2]

theorem tell (mode : Mode) (stage : Stage) (observer : SubscriptionId) :
    Stage.tell announce mode (change stage) observer =
      change (Stage.tell announce mode stage observer) := by
  unfold Stage.tell
  rw [unread.registry, ← unread.report]
  generalize stage.report (.received observer mode stage.registry.mode) = told
  have spends := congrArg (·.spendRetoggle? observer) (unread.registry told)
  dsimp only at spends ⊢
  cases spent : told.registry.spendRetoggle? observer with
  | none => rw [spends, spent]
  | some registry =>
      rw [spends, spent]
      dsimp only
      rw [← unread.withRegistry told registry, unread.requestThrough announces, unread.registry,
        ← unread.report]

end

theorem announceWithin (unread : Unread change) (depth : Nat) (mode : Mode) (stage : Stage) :
    Stage.announceWithin depth mode (change stage) =
      change (Stage.announceWithin depth mode stage) := by
  induction depth generalizing mode stage with
  | zero => rfl
  | succ depth ih =>
      unfold Stage.announceWithin
      rw [unread.registry]
      generalize stage.registry.observers.map (·.id) = observers
      induction observers generalizing stage with
      | nil => rfl
      | cons observer rest told =>
          rw [List.foldl_cons, List.foldl_cons, unread.tell ih, told]

theorem announce (unread : Unread change) (mode : Mode) (stage : Stage) :
    Stage.announce mode (change stage) = change (Stage.announce mode stage) := by
  rw [Stage.announce, Stage.announce, unread.registry]
  exact unread.announceWithin _ mode stage

theorem requestToggle (unread : Unread change) : Function.Commute Stage.requestToggle change :=
  fun stage => unread.requestThrough unread.announce stage

end Unread

/-- The stage with other themes provided. -/
def under (stage : Stage) (ambient : List Definition) : Stage :=
  { stage with ambient }

theorem requestToggle_iterate_under (count : Nat) (stage : Stage) (ambient : List Definition) :
    requestToggle^[count] (stage.under ambient) = (requestToggle^[count] stage).under ambient :=
  have unread : Unread fun other => other.under ambient :=
    ⟨fun _ => rfl, fun _ _ => rfl, fun _ _ => rfl, fun _ _ => rfl⟩
  unread.requestToggle.iterate_left count stage

/-- The stage as it is but for its notices. -/
def unnoted (stage : Stage) : Stage :=
  { stage with notices := [] }

/-- Notices that were there before do not change what a request does. -/
theorem unnoted_requestToggle (stage : Stage) :
    stage.requestToggle.unnoted = stage.unnoted.requestToggle.unnoted := by
  have unread : Unread fun other => { other with notices := stage.notices ++ other.notices } :=
    ⟨fun _ => rfl, fun _ _ => rfl, fun _ _ => rfl, fun _ _ => by
      rw [note, note, List.append_assoc]⟩
  have before : { stage.unnoted with notices := stage.notices ++ [] } = stage := by
    rw [List.append_nil]
    rfl
  have after := unread.requestToggle stage.unnoted
  change requestToggle { stage.unnoted with notices := stage.notices ++ [] } = _ at after
  rw [before] at after
  rw [after]
  rfl

end Stage

end WalletScreens.Scope
