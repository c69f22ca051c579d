import Mathlib.Data.List.Basic
import WalletScreens.Proofs.Scope.Turning

/-!
Sound registries.

Scopes below the active one may be out of date.  What every operation keeps is that numbers are
given out in order, that no number is a target's and an observer's at once, and that the active
scope is in the registry's mode; a scope that becomes active is brought to it.
-/

namespace WalletScreens.Scope

open Theme

namespace Registry

variable {registry before after : Registry} {count : Nat}

/-- Targets are listed the newest first, observers the oldest first. -/
structure Sound (registry : Registry) : Prop where
  ordered : registry.targetIds.Pairwise (· > ·)
  observersOrdered : registry.observerIds.Pairwise (· < ·)
  apart : registry.targetIds.Disjoint registry.observerIds
  bounded : ∀ id ∈ registry.targetIds, id ≤ registry.lastId
  observersBounded : ∀ id ∈ registry.observerIds, id ≤ registry.lastId
  scopes : ∀ entry ∈ registry.targets, ∃ state, entry.2 = .scope state
  agreeing : registry.Agreeing

theorem sound_empty (mode : Mode) : ({ mode } : Registry).Sound where
  ordered := .nil
  observersOrdered := .nil
  apart := by simp [targetIds, List.Disjoint]
  bounded := by simp [targetIds]
  observersBounded := by simp [observerIds]
  scopes := by simp
  agreeing := by simp [Agreeing]

theorem Sound.turned (sound : before.Sound) (turned : Turned count before after) : after.Sound where
  ordered := by rw [turned.targetIds]; exact sound.ordered
  observersOrdered := by rw [turned.observerIds]; exact sound.observersOrdered
  apart := by rw [turned.targetIds, turned.observerIds]; exact sound.apart
  bounded := by rw [turned.targetIds, turned.lastId]; exact sound.bounded
  observersBounded := by rw [turned.observerIds, turned.lastId]; exact sound.observersBounded
  agreeing := turned.agreeing sound.agreeing
  scopes := by
    have scopes := sound.scopes
    rw [turned.targets]
    cases found : before.targets with
    | nil => simp
    | cons active older =>
        rw [found] at scopes
        intro entry member
        rw [List.modifyHead_cons] at member
        rcases List.mem_cons.mp member with rfl | member
        · obtain ⟨state, scope⟩ := scopes active List.mem_cons_self
          exact ⟨_, by rw [scope, Target.flip_scope]⟩
        · exact scopes entry (List.mem_cons_of_mem _ member)

/-- Where nothing is mounted there is no scope that another mode could disagree with. -/
theorem Sound.withMode (sound : registry.Sound) (idle : registry.isMounted = false) (mode : Mode) :
    ({ registry with mode } : Registry).Sound := by
  have empty : registry.targets = [] := by simpa [isMounted] using idle
  exact { sound with agreeing := by simp [Agreeing, empty] }

theorem Sound.mount (sound : registry.Sound) : registry.mount.2.Sound where
  ordered := by
    refine List.pairwise_cons.mpr ⟨fun id member => ?_, sound.ordered⟩
    exact Nat.lt_succ_of_le (sound.bounded id member)
  observersOrdered := sound.observersOrdered
  apart := by
    refine List.disjoint_cons_left.mpr ⟨fun member => ?_, sound.apart⟩
    exact Nat.not_succ_le_self _ (sound.observersBounded _ member)
  bounded := by
    intro id member
    rcases List.mem_cons.mp member with rfl | member
    · exact Nat.le_refl _
    · exact Nat.le_succ_of_le (sound.bounded id member)
  observersBounded id member := Nat.le_succ_of_le (sound.observersBounded id member)
  scopes := by
    intro entry member
    rcases List.mem_cons.mp member with rfl | member
    · exact ⟨_, rfl⟩
    · exact sound.scopes entry member
  agreeing := by
    intro entry member
    cases Option.mem_some_iff.mp member
    exact (Target.scope _).mode_sync registry.mode

theorem observerIds_observe (registry : Registry) (retoggles : Nat) :
    (registry.observe retoggles).2.observerIds = registry.observerIds ++ [registry.lastId + 1] := by
  simp [observe, observerIds]

theorem Sound.observe (sound : registry.Sound) (retoggles : Nat) :
    (registry.observe retoggles).2.Sound where
  ordered := sound.ordered
  observersOrdered := by
    rw [observerIds_observe]
    refine List.pairwise_append.mpr ⟨sound.observersOrdered, List.pairwise_singleton _ _, ?_⟩
    intro id member last same
    rw [List.mem_singleton.mp same]
    exact Nat.lt_succ_of_le (sound.observersBounded id member)
  apart := by
    rw [observerIds_observe]
    refine List.disjoint_append_right.mpr
      ⟨sound.apart, List.disjoint_singleton.mpr fun member => ?_⟩
    exact Nat.not_succ_le_self _ (sound.bounded _ member)
  bounded id member := Nat.le_succ_of_le (sound.bounded id member)
  observersBounded := by
    rw [observerIds_observe]
    intro id member
    rcases List.mem_append.mp member with member | last
    · exact Nat.le_succ_of_le (sound.observersBounded id member)
    · rw [List.mem_singleton.mp last]
      exact Nat.le_refl _
  scopes := sound.scopes
  agreeing := sound.agreeing

theorem map_fst_syncActive (mode : Mode) (targets : List (SubscriptionId × Target)) :
    (syncActive mode targets).map Prod.fst = targets.map Prod.fst := by
  cases targets <;> rfl

theorem targetIds_unsubscribe (registry : Registry) (id : SubscriptionId) :
    (registry.unsubscribe id).targetIds = registry.targetIds.filter (· != id) := by
  have kept : (registry.targets.filter (·.1 != id)).map Prod.fst =
      registry.targetIds.filter (· != id) := by
    rw [targetIds, List.filter_map]
    rfl
  rw [targetIds, unsubscribe]
  dsimp only
  split
  · rw [map_fst_syncActive, kept]
  · exact kept

theorem observerIds_unsubscribe (registry : Registry) (id : SubscriptionId) :
    (registry.unsubscribe id).observerIds = registry.observerIds.filter (· != id) := by
  rw [observerIds, observerIds, unsubscribe, List.filter_map]
  rfl

/-- A target that is not the active one leaves without any effect on the others. -/
theorem targets_unsubscribe_inactive {id : SubscriptionId}
    (inactive : registry.isActive id = false) :
    (registry.unsubscribe id).targets = registry.targets.filter (·.1 != id) := by
  rw [unsubscribe]
  dsimp only
  rw [inactive, if_neg Bool.false_ne_true]

/-- When the active target leaves, the one before it takes over in the registry's mode. -/
theorem targets_unsubscribe_active {id : SubscriptionId} (active : registry.isActive id = true) :
    (registry.unsubscribe id).targets =
      syncActive registry.mode (registry.targets.filter (·.1 != id)) := by
  rw [unsubscribe]
  dsimp only
  rw [active, if_pos rfl]

theorem mem_syncActive {mode : Mode} {entry : SubscriptionId × Target}
    {targets : List (SubscriptionId × Target)} (member : entry ∈ syncActive mode targets) :
    ∃ kept ∈ targets, entry = kept ∨ entry = (kept.1, kept.2.sync mode) := by
  cases targets with
  | nil => contradiction
  | cons first older =>
      rcases List.mem_cons.mp member with rfl | member
      · exact ⟨first, List.mem_cons_self, .inr rfl⟩
      · exact ⟨entry, List.mem_cons_of_mem _ member, .inl rfl⟩

theorem Sound.scopes_unsubscribe (sound : registry.Sound) (id : SubscriptionId) :
    ∀ entry ∈ (registry.unsubscribe id).targets, ∃ state, entry.2 = .scope state := by
  intro entry member
  cases active : registry.isActive id with
  | false =>
      rw [targets_unsubscribe_inactive active] at member
      exact sound.scopes entry (List.mem_of_mem_filter member)
  | true =>
      rw [targets_unsubscribe_active active] at member
      obtain ⟨kept, member, synced⟩ := mem_syncActive member
      obtain ⟨state, scope⟩ := sound.scopes kept (List.mem_of_mem_filter member)
      rcases synced with rfl | rfl
      · exact ⟨state, scope⟩
      · exact ⟨state.sync registry.mode, by rw [scope]; rfl⟩

theorem Sound.agreeing_unsubscribe (sound : registry.Sound) (id : SubscriptionId) :
    (registry.unsubscribe id).Agreeing := by
  intro entry member
  rw [mode_unsubscribe]
  cases active : registry.isActive id with
  | false =>
      rw [targets_unsubscribe_inactive active] at member
      -- The active target is not the one that leaves, so it is still the first.
      cases found : registry.targets with
      | nil => simp [found] at member
      | cons first older =>
          have stays : (first.1 != id) = true := by
            simpa [isActive, activeId?, found] using active
          rw [found, List.filter_cons, if_pos stays] at member
          exact sound.agreeing entry (by rw [found]; exact member)
  | true =>
      rw [targets_unsubscribe_active active] at member
      cases left : registry.targets.filter (·.1 != id) with
      | nil => simp [left, syncActive] at member
      | cons next older =>
          rw [left] at member
          cases Option.mem_some_iff.mp member
          exact next.2.mode_sync registry.mode

theorem Sound.unsubscribe (sound : registry.Sound) (id : SubscriptionId) :
    (registry.unsubscribe id).Sound where
  ordered := by rw [targetIds_unsubscribe]; exact sound.ordered.filter _
  observersOrdered := by rw [observerIds_unsubscribe]; exact sound.observersOrdered.filter _
  apart := by
    rw [targetIds_unsubscribe, observerIds_unsubscribe]
    intro other target observer
    exact sound.apart (List.mem_of_mem_filter target) (List.mem_of_mem_filter observer)
  bounded := by
    rw [targetIds_unsubscribe]
    exact fun other member => sound.bounded other (List.mem_of_mem_filter member)
  observersBounded := by
    rw [observerIds_unsubscribe]
    exact fun other member => sound.observersBounded other (List.mem_of_mem_filter member)
  scopes := sound.scopes_unsubscribe id
  agreeing := sound.agreeing_unsubscribe id

/-- Of a sound registry's targets only the newest is active, and it is in the registry's mode. -/
theorem Sound.active (sound : registry.Sound) {newest : SubscriptionId}
    {older : List SubscriptionId} (targets : registry.targetIds = newest :: older) :
    (∀ id, registry.isActive id = true ↔ id = newest) ∧
      ∃ scope, registry.scope? newest = some scope ∧ scope.mode = registry.mode := by
  cases found : registry.targets with
  | nil => simp [targetIds, found] at targets
  | cons first rest =>
      have same : first.1 = newest := by
        simp only [targetIds, found, List.map_cons, List.cons.injEq] at targets
        exact targets.1
      constructor
      · intro id
        simp only [isActive, activeId?, found, List.head?_cons, Option.map_some, same,
          beq_iff_eq, Option.some.injEq]
        exact eq_comm
      · obtain ⟨state, scope⟩ := sound.scopes first (by rw [found]; exact List.mem_cons_self)
        have agreed := sound.agreeing first (by rw [found]; rfl)
        refine ⟨state, ?_, ?_⟩
        · obtain ⟨number, target⟩ := first
          simp only at same scope
          simp [scope?, target?, found, same, scope]
        · rw [scope] at agreed
          exact agreed

end Registry

end WalletScreens.Scope
