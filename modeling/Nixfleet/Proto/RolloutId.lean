import Nixfleet.Lib.Split
import Nixfleet.Proto.Fleet

set_option autoImplicit false

/-!
# The parts of a rollout id

A rollout id is read back by splitting it at its first `@`. The parts come back iff the channel has
no `@` (`rolloutId_parts_iff`). Two ids whose refs have no `@` are told apart whatever their
channels are called (`rolloutId_new_inj`).
-/

namespace Nixfleet

/-- `split_once('@')`. -/
def splitOnceAt (s : String) : Option (String × String) :=
  (splitOnce '@' s.toList).map fun p => (String.ofList p.1, String.ofList p.2)

/-- `RolloutId::channel`: what stands before the first `@`. -/
def RolloutId.channel (rid : RolloutId) : ChannelId :=
  String.ofList (rid.asStr.toList.takeWhile (· ≠ '@'))

/-- `RolloutId::channel_ref`. -/
def RolloutId.channelRef (rid : RolloutId) : ChannelRef :=
  ((splitOnceAt rid.asStr).map (·.2)).getD ""

section Parts

variable {channel channel' : ChannelId} {ref ref' : ChannelRef}

theorem toList_rolloutId_new (channel : ChannelId) (ref : ChannelRef) :
    (RolloutId.new channel ref).asStr.toList = channel.toList ++ '@' :: ref.toList := by
  simp [RolloutId.new, String.toList_append]

theorem splitOnceAt_eq_some {s before after : String} :
    splitOnceAt s = some (before, after) ↔
      '@' ∉ before.toList ∧ s.toList = before.toList ++ '@' :: after.toList := by
  unfold splitOnceAt
  constructor
  · intro h
    obtain ⟨p, hp, hparts⟩ := Option.map_eq_some_iff.mp h
    cases hparts
    simpa using splitOnce_eq_some.mp hp
  · intro h
    rw [splitOnce_eq_some.mpr h]
    simp

/-- Every id has an `@`. -/
theorem exists_splitOnceAt (channel : ChannelId) (ref : ChannelRef) :
    ∃ before after, splitOnceAt (RolloutId.new channel ref).asStr = some (before, after) := by
  have hmem : '@' ∈ (RolloutId.new channel ref).asStr.toList := by
    rw [toList_rolloutId_new]
    simp
  obtain ⟨before, after, hlist, hnot⟩ := List.eq_append_cons_of_mem hmem
  refine ⟨String.ofList before, String.ofList after, splitOnceAt_eq_some.mpr ?_⟩
  simpa using ⟨hnot, hlist⟩

/-- **The parts of an id come back iff its channel has no `@`.** -/
theorem rolloutId_parts_iff (channel : ChannelId) (ref : ChannelRef) :
    ((RolloutId.new channel ref).channel = channel ∧
      (RolloutId.new channel ref).channelRef = ref) ↔ '@' ∉ channel.toList := by
  obtain ⟨before, after, hsplit⟩ := exists_splitOnceAt channel ref
  have hchannel : (RolloutId.new channel ref).channel = before := by
    obtain ⟨hnot, hlist⟩ := splitOnceAt_eq_some.mp hsplit
    rw [RolloutId.channel, hlist, takeWhile_append_sep hnot, String.ofList_toList]
  have href : (RolloutId.new channel ref).channelRef = after := by
    simp [RolloutId.channelRef, hsplit]
  rw [hchannel, href]
  constructor
  · rintro ⟨rfl, -⟩
    exact (splitOnceAt_eq_some.mp hsplit).1
  · intro h
    have hwhole := splitOnceAt_eq_some.mpr ⟨h, toList_rolloutId_new channel ref⟩
    rw [hsplit] at hwhole
    cases hwhole
    exact ⟨rfl, rfl⟩

/-- **Ids whose refs have no `@` are told apart.** -/
theorem rolloutId_new_inj (href : '@' ∉ ref.toList) (href' : '@' ∉ ref'.toList)
    (h : RolloutId.new channel ref = RolloutId.new channel' ref') :
    channel = channel' ∧ ref = ref' := by
  have hlist : channel.toList ++ '@' :: ref.toList = channel'.toList ++ '@' :: ref'.toList := by
    rw [← toList_rolloutId_new, ← toList_rolloutId_new, h]
  obtain ⟨hchannels, hrefs⟩ := append_sep_inj_right href href' hlist
  exact ⟨String.toList_injective hchannels, String.toList_injective hrefs⟩

end Parts

end Nixfleet
