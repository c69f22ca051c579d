import WalletScreens.Proofs.Scope.Turning

/-!
Which requests to toggle leave a notice.

A request that nothing is mounted for leaves one and does no more.  Any other leaves none, nor do
the requests by which observers answer it, since nobody is unmounted while they are told.
-/

namespace WalletScreens.Scope

open Theme

namespace Stage

variable {before middle after stage : Stage}

/-- Nothing is noted in between, and something is mounted in the end. -/
structure Heeded (before after : Stage) : Prop where
  notices : after.notices = before.notices
  mounted : after.registry.isMounted = true

namespace Heeded

theorem refl (mounted : stage.registry.isMounted = true) : Heeded stage stage :=
  ⟨rfl, mounted⟩

theorem trans (first : Heeded before middle) (second : Heeded middle after) :
    Heeded before after :=
  ⟨second.notices.trans first.notices, second.mounted⟩

theorem report (heeded : Heeded before after) (report : Report) :
    Heeded before (after.report report) :=
  ⟨heeded.notices, heeded.mounted⟩

theorem turned {registry : Registry} {count : Nat} (mounted : stage.registry.isMounted = true)
    (turned : Registry.Turned count stage.registry registry) :
    Heeded stage { stage with registry } :=
  ⟨rfl, turned.isMounted.trans mounted⟩

end Heeded

theorem exists_flipActive? (mounted : stage.registry.isMounted = true) :
    ∃ mode registry, stage.registry.flipActive? = some (mode, registry) := by
  cases flipped : stage.registry.flipActive? with
  | none =>
      rw [stage.registry.flipActive?_eq_none_iff.mp flipped] at mounted
      contradiction
  | some result => exact ⟨result.1, result.2, rfl⟩

section

variable {announce : Mode → Stage → Stage}
  (heeds : ∀ mode stage, stage.registry.isMounted = true → Heeded stage (announce mode stage))
include heeds

theorem heeded_requestThrough (mounted : stage.registry.isMounted = true) :
    Heeded stage (requestThrough announce stage) := by
  obtain ⟨mode, registry, flipped⟩ := exists_flipActive? mounted
  have first := Heeded.turned mounted (Registry.turned_of_flipActive? flipped)
  rw [requestThrough, flipped]
  exact first.trans (heeds mode _ first.mounted)

theorem heeded_tell (mode : Mode) (observer : SubscriptionId)
    (mounted : stage.registry.isMounted = true) :
    Heeded stage (tell announce mode stage observer) := by
  have told := (Heeded.refl mounted).report (.received observer mode stage.registry.mode)
  unfold tell
  dsimp only
  split
  · rename_i registry paid
    have spent := told.trans (.turned told.mounted (Registry.turned_of_spendRetoggle? paid))
    exact (spent.trans (heeded_requestThrough heeds spent.mounted)).report _
  · exact told

end

theorem heeded_announceWithin (depth : Nat) (mode : Mode) (stage : Stage)
    (mounted : stage.registry.isMounted = true) :
    Heeded stage (announceWithin depth mode stage) := by
  induction depth generalizing mode stage with
  | zero => exact .refl mounted
  | succ depth ih =>
      unfold announceWithin
      generalize stage.registry.observers.map (·.id) = observers
      induction observers generalizing stage with
      | nil => exact .refl mounted
      | cons observer rest others =>
          have told := heeded_tell ih mode observer mounted
          exact told.trans (others _ told.mounted)

theorem heeded_requestToggle (mounted : stage.registry.isMounted = true) :
    Heeded stage stage.requestToggle :=
  heeded_requestThrough (fun mode stage => heeded_announceWithin _ mode stage) mounted

theorem requestToggle_of_idle (idle : stage.registry.isMounted = false) :
    stage.requestToggle = stage.note [.toggleIgnored .notMounted] := by
  rw [requestToggle, requestThrough, stage.registry.flipActive?_eq_none_iff.mpr idle]

end Stage

end WalletScreens.Scope
