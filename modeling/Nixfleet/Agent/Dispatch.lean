import Nixfleet.Agent.Freshness
import Nixfleet.Agent.ManifestPoll
import Nixfleet.Agent.Rollback
import Nixfleet.Host.Contract

set_option autoImplicit false

/-!
# Where switches come from

The control plane advises, the signed manifests decide: the long-poll worker hands a dispatch on
only if a manifest that verifies names its closure for this host. Whatever the control plane answers
and whatever lies in the cache, an agent switches only for a rollout with such a dispatch
(`intents_vouched`). The closure is the dispatch's own, except where a snapshot has put a pending
record in its way, whose closure no manifest vouches for (`snapshot_redirects_switch`).
-/

namespace Nixfleet

/-! ## Receiving a dispatch -/

/-- `DispatchResponse`, as the control plane sends it. -/
structure DispatchMessage extends DispatchResponse where
  hostname : HostId
deriving DecidableEq, Repr

/-- `assert_target_closure`; the error shows its strings without escapes. -/
def assertTargetClosure (manifest : RolloutManifest) (hostname : HostId)
    (expectedTargetClosure : ClosureHash) : Except ManifestError Unit :=
  match manifest.hostSet.find? fun h => h.hostname = hostname with
  | none => .error (.mismatch ("hostname \"" ++ hostname ++ "\" not in manifest.host_set"))
  | some host =>
      if host.targetClosure ≠ expectedTargetClosure then
        .error (.mismatch ("dispatch target_closure \"" ++ expectedTargetClosure
          ++ "\" != manifest target_closure \"" ++ host.targetClosure ++ "\" for hostname \""
          ++ hostname ++ "\""))
      else .ok ()

/-- Why `handle_dispatch` gives up; a stale manifest keeps its numbers in place of its text. -/
inductive DispatchError where
  | hostname (dispatched machineId : HostId)
  | manifest (rolloutId : RolloutId) (err : ManifestError)
  | stale (rolloutId : RolloutId) (signedAt : Time) (freshnessWindowSecs : UInt32) (ageSecs : Int)
deriving DecidableEq

/-- The window of the check at dispatch, in seconds. -/
def dispatchWindowSecs : UInt32 := 3600

namespace ManifestCache

variable (cache : ManifestCache) (env : LoadEnv)

/-- `ensure_for_dispatch`. -/
def ensureForDispatch (disk : CacheDisk) (rolloutId : RolloutId) (hostname : HostId)
    (expectedTargetClosure : ClosureHash) :
    Except ManifestError (Verified RolloutManifest) × CacheDisk :=
  match cache.fetchOrLoad env disk rolloutId with
  | (.error err, disk) => (.error err, disk)
  | (.ok verified, disk) =>
      ((assertTargetClosure verified.inner hostname expectedTargetClosure).map fun _ => verified,
        disk)

/-- `handle_dispatch`, up to the event that it posts. -/
def checkDispatch (machineId : HostId) (checkedAt : Time) (disk : CacheDisk)
    (d : DispatchMessage) : Except DispatchError (Verified RolloutManifest) × CacheDisk :=
  if d.hostname ≠ machineId then (.error (.hostname d.hostname machineId), disk)
  else
    match cache.ensureForDispatch env disk d.rolloutId machineId d.targetClosure with
    | (.error err, disk) => (.error (.manifest d.rolloutId err), disk)
    | (.ok verified, disk) =>
        match checkSignedAt verified.signedAt dispatchWindowSecs checkedAt with
        | .fresh => (.ok verified, disk)
        | .stale signedAt window age => (.error (.stale d.rolloutId signedAt window age), disk)

end ManifestCache

/-! ## What the checks vouch for -/

/-- The manifest verifies against the trust file, under the keys that are active when it is read. -/
structure TrustedManifest (cache : ManifestCache) (env : LoadEnv) (rolloutId : RolloutId)
    (verified : Verified RolloutManifest) : Prop where
  signed : ∃ slot bytes sig, env.trust = some slot ∧
    Acceptable cache.hooks bytes sig (slot.activeKeysAt env.now) env.now cache.freshnessWindow
      slot.rejectBefore verified
  named : RolloutId.new verified.inner.channel verified.inner.channelRef = rolloutId

/-- A dispatch that the agent hands on: when it was checked, and the closure then running. -/
structure Acceptance where
  message : DispatchMessage
  env : LoadEnv
  checkedAt : Time
  verified : Verified RolloutManifest
  prior : ClosureHash

/-- The dispatch is for the host, and a fresh trusted manifest names its closure. -/
structure Acceptance.Vouched (cache : ManifestCache) (machineId : HostId) (a : Acceptance) :
    Prop where
  addressed : a.message.hostname = machineId
  trusted : TrustedManifest cache a.env a.message.rolloutId a.verified
  declared : ∃ wave ∈ a.verified.inner.hostSet, wave.hostname = machineId ∧
    wave.targetClosure = a.message.targetClosure
  fresh : a.checkedAt - a.verified.signedAt <
    seconds (dispatchWindowSecs.toNat + dispatchSlackSecs + 1)

section Checks

variable {cache : ManifestCache} {env : LoadEnv} {disk : CacheDisk} {rolloutId : RolloutId}
  {verified : Verified RolloutManifest}

theorem assertTargetClosure_eq_ok {manifest : RolloutManifest} {hostname : HostId}
    {target : ClosureHash} (h : assertTargetClosure manifest hostname target = .ok ()) :
    ∃ wave ∈ manifest.hostSet, wave.hostname = hostname ∧ wave.targetClosure = target := by
  unfold assertTargetClosure at h
  split at h
  · cases h
  · rename_i wave hwave
    split at h
    · cases h
    · rename_i hclosure
      have hname := List.find?_some hwave
      exact ⟨wave, List.mem_of_find?_eq_some hwave, of_decide_eq_true hname,
        not_ne_iff.mp hclosure⟩

theorem verifyBytes_trusted {bytes sig : Bytes}
    (h : cache.verifyBytes env bytes sig rolloutId = .ok verified) :
    TrustedManifest cache env rolloutId verified := by
  unfold ManifestCache.verifyBytes at h
  split at h
  · cases h
  · rename_i slot hslot
    split at h
    · cases h
    · rename_i v hv
      obtain ⟨_, hid, rfl⟩ := Except.map_eq_ok.mp h
      refine ⟨⟨slot, bytes, sig, hslot, verifySignedSidecar_eq_ok.mp hv⟩, ?_⟩
      unfold assertRolloutIdMatches at hid
      by_contra hne
      rw [if_pos hne] at hid
      cases hid

/-- What is loaded verifies, whether it comes from the cache or from the control plane. -/
theorem fetchOrLoad_trusted (h : (cache.fetchOrLoad env disk rolloutId).1 = .ok verified) :
    TrustedManifest cache env rolloutId verified := by
  unfold ManifestCache.fetchOrLoad at h
  split at h
  · cases h
  · split at h
    · rename_i v hcached
      cases h
      obtain ⟨pair, -, hverify⟩ := Option.bind_eq_some_iff.mp hcached
      exact verifyBytes_trusted (Except.toOption_eq_some.mp hverify)
    · split at h
      · cases h
      · rename_i pair v hfetch
        cases h
        exact verifyBytes_trusted (fetchManifest_eq_ok hfetch).2

theorem ensureForDispatch_eq_ok {hostname : HostId} {target : ClosureHash}
    (h : (cache.ensureForDispatch env disk rolloutId hostname target).1 = .ok verified) :
    TrustedManifest cache env rolloutId verified ∧
      ∃ wave ∈ verified.inner.hostSet, wave.hostname = hostname ∧ wave.targetClosure = target := by
  unfold ManifestCache.ensureForDispatch at h
  split at h
  · cases h
  · rename_i v disk' hload
    obtain ⟨_, hclosure, rfl⟩ := Except.map_eq_ok.mp h
    have hfirst : (cache.fetchOrLoad env disk rolloutId).1 = .ok v := by rw [hload]
    exact ⟨fetchOrLoad_trusted hfirst, assertTargetClosure_eq_ok hclosure⟩

/-- **A dispatch that is handed on is vouched for.** -/
theorem checkDispatch_vouched {machineId : HostId} {checkedAt : Time} {d : DispatchMessage}
    (h : (cache.checkDispatch env machineId checkedAt disk d).1 = .ok verified)
    (prior : ClosureHash) :
    (Acceptance.mk d env checkedAt verified prior).Vouched cache machineId := by
  unfold ManifestCache.checkDispatch at h
  split at h
  · cases h
  · rename_i haddressed
    split at h
    · cases h
    · rename_i v disk' hensure
      split at h
      · rename_i hfresh
        cases h
        have hfirst : (cache.ensureForDispatch env disk d.rolloutId machineId d.targetClosure).1 =
            .ok verified := by rw [hensure]
        obtain ⟨htrusted, hdeclared⟩ := ensureForDispatch_eq_ok hfirst
        exact ⟨not_ne_iff.mp haddressed, htrusted, hdeclared, checkSignedAt_eq_fresh.mp hfresh⟩
      · cases h

end Checks

/-! ## The agent behind its checks -/

/-- An agent with the files of its cache. -/
structure GuardedAgent where
  agent : AgentState
  disk : CacheDisk

/-- An agent that has just started, on whatever cache it finds. -/
def GuardedAgent.started (sys : System) (disk : CacheDisk) : GuardedAgent := ⟨.started sys, disk⟩

/-- Only the long-poll worker posts the acknowledgement of a dispatch. -/
def ReducerInput.acknowledges : ReducerInput → Bool
  | .hostEvent _ event => event.stamp?.isSome
  | _ => false

inductive GuardedInput where
  /-- A dispatch arrives, from whoever answers the long poll. -/
  | poll (message : DispatchMessage) (env : LoadEnv) (checkedAt : Time)
  /-- Another worker posts an input. -/
  | post (input : ReducerInput) (h : input.acknowledges = false)
  /-- The reducer reads its next input. -/
  | reduce (orders : AgentOrders) (now : Time)
  /-- The activation worker handles its next intent. -/
  | work (now : Time) (run : WorkerRun)
  /-- The system changes from outside. -/
  | system (sys : System)
  /-- The cache changes from outside, or by another load. -/
  | disk (disk : CacheDisk)

/-- What an agent has heard of a rollout. -/
inductive Hearsay where
  | accepted (a : Acceptance)
  | snapshot (snapshot : HostRolloutSnapshot)

/-- The snapshot of an input. -/
def ReducerInput.hearsay : ReducerInput → List Hearsay
  | .bootstrapHost snapshot => [.snapshot snapshot]
  | _ => []

def guardedStep (nix : NixEnv) (cache : ManifestCache) (machineId : HostId) (s : GuardedAgent) :
    GuardedInput → GuardedAgent × List Hearsay
  | .poll message env checkedAt =>
      match cache.checkDispatch env machineId checkedAt s.disk message with
      | (.error _, disk) => ({ s with disk := disk }, [])
      | (.ok verified, disk) =>
          (⟨(agentStep nix s.agent (.dispatch message.toDispatchResponse)).1, disk⟩,
            [.accepted ⟨message, env, checkedAt, verified, s.agent.sys.running.getD ""⟩])
  | .post input _ => ({ s with agent := (agentStep nix s.agent (.post input)).1 }, input.hearsay)
  | .reduce orders now => ({ s with agent := (agentStep nix s.agent (.reduce orders now)).1 }, [])
  | .work now run => ({ s with agent := (agentStep nix s.agent (.work now run)).1 }, [])
  | .system sys => ({ s with agent := (agentStep nix s.agent (.system sys)).1 }, [])
  | .disk disk => ({ s with disk := disk }, [])

def guardedMachine (nix : NixEnv) (cache : ManifestCache) (machineId : HostId) :
    Machine GuardedAgent GuardedInput Hearsay := ⟨guardedStep nix cache machineId⟩

/-! ## What stands behind an intent -/

/-- A pending record of the rollout with this closure was in a snapshot. -/
def ToldPending (out : List Hearsay) (rid : RolloutId) (target : ClosureHash) : Prop :=
  ∃ snapshot, .snapshot snapshot ∈ out ∧ snapshot.rolloutId = rid ∧ snapshot.state = .pending ∧
    snapshot.targetClosure = target

/-- A dispatch of the rollout was handed on, and its closure is this one unless a snapshot says
otherwise. -/
def Directed (out : List Hearsay) (rid : RolloutId) (target : ClosureHash) : Prop :=
  ∃ a, .accepted a ∈ out ∧ a.message.rolloutId = rid ∧
    (a.message.targetClosure = target ∨ ToldPending out rid target)

/-- The closure ran when a dispatch of the rollout was handed on, or a snapshot says that it ran. -/
def Recalled (out : List Hearsay) (rid : RolloutId) (prior : ClosureHash) : Prop :=
  (∃ a, .accepted a ∈ out ∧ a.message.rolloutId = rid ∧ a.prior = prior) ∨
    ∃ snapshot, .snapshot snapshot ∈ out ∧ snapshot.rolloutId = rid ∧
      snapshot.currentClosureAtDispatch = some prior

/-- What stands behind an intent of the activation worker. -/
def IntentGrounded (out : List Hearsay) (intent : ActivationIntent) : Prop :=
  if intent.rollback then Recalled out intent.rolloutId intent.targetClosure
  else Directed out intent.rolloutId intent.targetClosure

/-- What stands behind an event that the reducer reads. -/
def EventGrounded (out : List Hearsay) (rid : RolloutId) : Event → Prop
  | .localActivate prior target _ _ _ =>
      ∃ a, .accepted a ∈ out ∧ a.message.rolloutId = rid ∧ a.message.targetClosure = target ∧
        a.prior = prior
  | e => e.stamp? = none

/-- What stands behind an input of the reducer. -/
def InputGrounded (out : List Hearsay) : ReducerInput → Prop
  | .hostEvent rid event => EventGrounded out rid event
  | .bootstrapHost snapshot => .snapshot snapshot ∈ out
  | _ => True

/-- What stands behind the records of the reducer. -/
structure RecordsGrounded (out : List Hearsay) (r : AgentReducer) : Prop where
  keyed : r.Keyed
  pending : ∀ rid s, r.hostStates.lookup rid = some s → s.state = .pending →
    ToldPending out rid s.targetClosure
  prior : ∀ rid s c, r.hostStates.lookup rid = some s → s.currentClosureAtDispatch = some c →
    Recalled out rid c

/-- What stands behind everything that an agent holds. -/
structure AgentGrounded (cache : ManifestCache) (machineId : HostId) (s : GuardedAgent)
    (out : List Hearsay) : Prop where
  vouched : ∀ a, .accepted a ∈ out → a.Vouched cache machineId
  inbox : ∀ input ∈ s.agent.inbox, InputGrounded out input
  records : RecordsGrounded out s.agent.reducer
  intents : ∀ intent ∈ s.agent.intents, IntentGrounded out intent

section Mono

variable {out out' : List Hearsay} {rid : RolloutId} {target : ClosureHash}

/-- What is heard later takes nothing back. -/
theorem ToldPending.mono (hsub : out ⊆ out') (h : ToldPending out rid target) :
    ToldPending out' rid target := by
  obtain ⟨snapshot, hmem, hrest⟩ := h
  exact ⟨snapshot, hsub hmem, hrest⟩

theorem Directed.mono (hsub : out ⊆ out') (h : Directed out rid target) :
    Directed out' rid target := by
  obtain ⟨a, hmem, hrid, htarget⟩ := h
  exact ⟨a, hsub hmem, hrid, htarget.imp_right (ToldPending.mono hsub)⟩

theorem Recalled.mono (hsub : out ⊆ out') (h : Recalled out rid target) :
    Recalled out' rid target := by
  rcases h with ⟨a, hmem, hrest⟩ | ⟨snapshot, hmem, hrest⟩
  · exact .inl ⟨a, hsub hmem, hrest⟩
  · exact .inr ⟨snapshot, hsub hmem, hrest⟩

theorem IntentGrounded.mono {intent : ActivationIntent} (hsub : out ⊆ out')
    (h : IntentGrounded out intent) : IntentGrounded out' intent := by
  unfold IntentGrounded at h ⊢
  split
  · rename_i hroll
    rw [if_pos hroll] at h
    exact h.mono hsub
  · rename_i hroll
    rw [if_neg hroll] at h
    exact h.mono hsub

theorem InputGrounded.mono {input : ReducerInput} (hsub : out ⊆ out')
    (h : InputGrounded out input) : InputGrounded out' input := by
  cases input with
  | hostEvent rid event =>
      cases event with
      | localActivate =>
          obtain ⟨a, hmem, hrest⟩ := h
          exact ⟨a, hsub hmem, hrest⟩
      | _ => exact h
  | bootstrapHost snapshot => exact hsub h
  | agentAdvanceTick | manifestSetUpdated => trivial

theorem RecordsGrounded.mono {r : AgentReducer} (hsub : out ⊆ out') (h : RecordsGrounded out r) :
    RecordsGrounded out' r :=
  ⟨h.keyed, fun rid s hs hstate => (h.pending rid s hs hstate).mono hsub,
    fun rid s c hs hc => (h.prior rid s c hs hc).mono hsub⟩

end Mono

/-! ## One input -/

section Reducer

variable {out : List Hearsay} {r : AgentReducer} {now : Time} {rid : RolloutId} {event : Event}
  {s next : HostRolloutState} {policy : RolloutPolicy} {effects : List Effect}

/-- The intents of a transition carry what the record holds. -/
theorem hostStep_intent_closure (h : hostStep s event policy = .ok (next, effects))
    {intent : ActivationIntent} (hmem : intent ∈ effects.filterMap Effect.intent?) :
    intent.rolloutId = s.rolloutId ∧
      if intent.rollback then s.currentClosureAtDispatch = some intent.targetClosure
      else s.targetClosure = intent.targetClosure ∧ event.stamp?.isSome := by
  obtain ⟨effect, heffect, hintent⟩ := List.mem_filterMap.mp hmem
  cases effect with
  | localFireSwitch rid target =>
      cases hintent
      have hswitch : (rid, target) ∈ effects.filterMap Effect.switch? :=
        List.mem_filterMap.mpr ⟨_, heffect, rfl⟩
      rw [(hostStep_effects h).switch] at hswitch
      split at hswitch
      · rename_i hevent
        cases List.mem_singleton.mp hswitch
        exact ⟨rfl, rfl, hevent.2⟩
      · cases hswitch
  | localFireRollbackTo rid closure =>
      cases hintent
      obtain ⟨hrid, hclosure, -⟩ := hostStep_rollback h heffect
      exact ⟨hrid, hclosure⟩
  | _ => cases hintent

/-- A number changes nothing of what stands behind an event. -/
theorem stamp?_withSeq (e : Event) (seq : Nat) : (withSeq e seq).stamp? = e.stamp? := by
  cases e <;> rfl

/-- The closure of an acknowledgement with ground under it ran at a dispatch. -/
theorem EventGrounded.recalled (h : EventGrounded out rid event) {prior : ClosureHash}
    (hstamp : event.stamp? = some prior) : Recalled out rid prior := by
  cases event with
  | localActivate prior' target receivedAt soakDueAt seq =>
      cases hstamp
      obtain ⟨a, hmem, hrid, -, hprior⟩ := h
      exact .inl ⟨a, hmem, hrid, hprior⟩
  | _ =>
      have hnone : Event.stamp? _ = none := h
      rw [hnone] at hstamp
      cases hstamp

/-- The record of an event: what it holds has ground under it, or the event creates it. -/
theorem RecordsGrounded.recordFor (h : RecordsGrounded out r) (he : EventGrounded out rid event)
    (hs : r.recordFor now rid event = some s) :
    s.rolloutId = rid ∧ (∀ c, s.currentClosureAtDispatch = some c → Recalled out rid c) ∧
      (s.state = .pending → event.stamp?.isSome → Directed out rid s.targetClosure) := by
  unfold AgentReducer.recordFor at hs
  cases hrecord : r.hostStates.lookup rid with
  | some record =>
      simp only [hrecord, Option.some.injEq] at hs
      subst hs
      refine ⟨h.keyed rid record hrecord, fun c => h.prior rid record c hrecord, ?_⟩
      intro hstate hstamp
      have htold := h.pending rid record hrecord hstate
      cases event with
      | localActivate =>
          obtain ⟨a, hmem, hrid, -⟩ := he
          exact ⟨a, hmem, hrid, .inr htold⟩
      | _ =>
          have hnone : Event.stamp? _ = none := he
          rw [hnone] at hstamp
          cases hstamp
  | none =>
      simp only [hrecord] at hs
      cases event with
      | localActivate =>
          cases hs
          refine ⟨rfl, nofun, fun _ _ => ?_⟩
          obtain ⟨a, hmem, hrid, htarget, -⟩ := he
          exact ⟨a, hmem, hrid, .inl htarget⟩
      | _ => cases hs

/-- **One event.** What it leaves and what it fires has ground under it. -/
theorem runHostEvent_grounded (h : RecordsGrounded out r) (he : EventGrounded out rid event)
    (now : Time) :
    RecordsGrounded out (runHostEvent now r rid event).1 ∧
      ∀ intent ∈ (runHostEvent now r rid event).2.filterMap Effect.intent?,
        IntentGrounded out intent := by
  rcases runHostEvent_cases now r rid event with hdrop | ⟨s, policy, next, effects, ht⟩
  · rw [hdrop]
    exact ⟨h, nofun⟩
  · obtain ⟨hrid, hprior, hpending⟩ := h.recordFor he ht.record
    have hspec := hostStep_spec ht.step
    have hstamp := hostStep_stamp ht.step
    rw [stamp?_withSeq] at hstamp
    rw [ht.run]
    refine ⟨⟨h.keyed.insert (hspec.same.rolloutId.trans hrid), ?_, ?_⟩, ?_⟩
    · intro rid' s' hs' hstate
      rw [Table.lookup_insert_eq] at hs'
      split at hs'
      · -- no transition leads to `Pending`
        cases hs'
        exact absurd hstate hspec.move.ne_pending
      · exact h.pending rid' s' hs' hstate
    · intro rid' s' c hs' hc
      rw [Table.lookup_insert_eq] at hs'
      split at hs'
      · rename_i heq
        cases hs'
        rw [heq]
        by_cases hstate : s.state = .pending
        · obtain ⟨prior, hevent, hnext⟩ := hstamp.1 hstate
          rw [hnext] at hc
          cases hc
          exact he.recalled hevent
        · rw [(hstamp.2 hstate).2] at hc
          exact hprior c hc
      · exact h.prior rid' s' c hs' hc
    · intro intent hintent
      obtain ⟨hown, hclosure⟩ := hostStep_intent_closure ht.step hintent
      unfold IntentGrounded
      rw [hown, hrid]
      split
      · rename_i hroll
        rw [if_pos hroll] at hclosure
        exact hprior _ hclosure
      · rename_i hroll
        rw [if_neg hroll, stamp?_withSeq] at hclosure
        obtain ⟨htarget, hsome⟩ := hclosure
        have hstate : s.state = .pending := by
          by_contra hne
          rw [(hstamp.2 hne).1] at hsome
          cases hsome
        rw [← htarget]
        exact hpending hstate hsome

theorem EventGrounded.of_isVerdict (h : event.isVerdict = true) : EventGrounded out rid event := by
  cases event <;> first | rfl | cases h

/-- **One input.** What it leaves and what it fires has ground under it. -/
theorem handleInput_grounded {input : ReducerInput} (h : RecordsGrounded out r)
    (hi : InputGrounded out input) (orders : AgentOrders) (now : Time) :
    RecordsGrounded out (handleInput orders now r input).1 ∧
      ∀ intent ∈ (handleInput orders now r input).2.filterMap Effect.intent?,
        IntentGrounded out intent := by
  cases input with
  | hostEvent rid event => exact runHostEvent_grounded h hi now
  | agentAdvanceTick =>
      refine runAdvanceTick_induction
        (P := fun acc => RecordsGrounded out acc.1 ∧
          ∀ intent ∈ acc.2.filterMap Effect.intent?, IntentGrounded out intent) ⟨h, nofun⟩ ?_
      intro acc rid e hverdict hacc
      have he : EventGrounded out rid e := EventGrounded.of_isVerdict hverdict
      have hevent := runHostEvent_grounded hacc.1 he now
      refine ⟨hevent.1, fun intent hintent => ?_⟩
      rw [List.filterMap_append, List.mem_append] at hintent
      exact hintent.elim (hacc.2 intent) (hevent.2 intent)
  | manifestSetUpdated set => exact ⟨⟨h.keyed, h.pending, h.prior⟩, nofun⟩
  | bootstrapHost snapshot =>
      have hfires : (rehydrationEffects (mergeSnapshotIntoState
          (r.hostStates.lookup snapshot.rolloutId) snapshot)).filterMap Effect.intent? = [] := by
        unfold rehydrationEffects
        split <;> rfl
      refine ⟨⟨h.keyed.insert rfl, ?_, ?_⟩, ?_⟩
      · intro rid s hs hstate
        simp only [handleInput, applyBootstrapSnapshot, Table.lookup_insert_eq] at hs
        split at hs
        · rename_i heq
          cases hs
          exact ⟨snapshot, hi, heq.symm, hstate, rfl⟩
        · exact h.pending rid s hs hstate
      · intro rid s c hs hc
        simp only [handleInput, applyBootstrapSnapshot, Table.lookup_insert_eq] at hs
        split at hs
        · rename_i heq
          cases hs
          exact .inr ⟨snapshot, hi, heq.symm, hc⟩
        · exact h.prior rid s c hs hc
      · intro intent hintent
        simp only [handleInput, applyBootstrapSnapshot, hfires] at hintent
        cases hintent

theorem EventGrounded.of_stamp? (h : event.stamp? = none) : EventGrounded out rid event := by
  cases event with
  | localActivate => cases h
  | _ => exact h

end Reducer

/-! ## Runs -/

section Run

variable {nix : NixEnv} {cache : ManifestCache} {machineId : HostId} {s : GuardedAgent}
  {out : List Hearsay}

/-- The activation worker acknowledges no dispatch. -/
theorem handleIntent_stamp? {now : Time} {sys : System} {intent : ActivationIntent}
    {run : WorkerRun} {event : Event}
    (h : event ∈ (handleIntent nix now sys intent run).1) : event.stamp? = none := by
  unfold handleIntent at h
  split at h
  · rw [List.mem_singleton.mp h]
    unfold rollbackEvent
    split <;> rfl
  · rcases List.mem_cons.mp h with rfl | h
    · rfl
    · rw [List.mem_singleton.mp h]
      unfold activationEvent
      split <;> rfl

/-- What is heard, with nothing new in the inbox but one input with ground under it. -/
theorem AgentGrounded.post (h : AgentGrounded cache machineId s out) {heard : List Hearsay}
    {input : ReducerInput} (hvouched : ∀ a, .accepted a ∈ heard → a.Vouched cache machineId)
    (hinput : InputGrounded (out ++ heard) input) (disk : CacheDisk) :
    AgentGrounded cache machineId
      ⟨{ s.agent with inbox := s.agent.inbox ++ [input] }, disk⟩ (out ++ heard) := by
  have hsub : out ⊆ out ++ heard := List.subset_append_left out heard
  refine ⟨?_, ?_, h.records.mono hsub, fun intent hmem => (h.intents intent hmem).mono hsub⟩
  · intro a ha
    exact (List.mem_append.mp ha).elim (h.vouched a) (hvouched a)
  · intro input' hinput'
    rcases List.mem_append.mp hinput' with hold | hnew
    · exact (h.inbox input' hold).mono hsub
    · rw [List.mem_singleton.mp hnew]
      exact hinput

theorem guardedStep_grounded (h : AgentGrounded cache machineId s out) (i : GuardedInput) :
    AgentGrounded cache machineId (guardedStep nix cache machineId s i).1
      (out ++ (guardedStep nix cache machineId s i).2) := by
  cases i with
  | poll message env checkedAt =>
      simp only [guardedStep]
      split
      · rw [List.append_nil]
        exact ⟨h.vouched, h.inbox, h.records, h.intents⟩
      · rename_i verified disk' hcheck
        have hfirst : (cache.checkDispatch env machineId checkedAt s.disk message).1 =
            .ok verified := by rw [hcheck]
        refine h.post ?_ ?_ disk'
        · intro a ha
          cases List.mem_singleton.mp ha
          exact checkDispatch_vouched hfirst _
        · exact ⟨_, List.mem_append_right _ List.mem_cons_self, rfl, rfl, rfl⟩
  | post input hack =>
      simp only [guardedStep, agentStep]
      refine h.post ?_ ?_ s.disk
      · intro a ha
        cases input <;> simp [ReducerInput.hearsay] at ha
      · cases input with
        | hostEvent rid event =>
            have hnone : event.stamp? = none := by
              simpa [ReducerInput.acknowledges] using hack
            exact EventGrounded.of_stamp? hnone
        | bootstrapHost snapshot => exact List.mem_append_right _ List.mem_cons_self
        | agentAdvanceTick | manifestSetUpdated => trivial
  | reduce orders now =>
      simp only [guardedStep, agentStep, List.append_nil]
      split
      · exact h
      · rename_i input rest hinbox
        have hin : InputGrounded out input := h.inbox input (hinbox ▸ List.mem_cons_self)
        have hnext := handleInput_grounded h.records hin orders now
        refine ⟨h.vouched, ?_, hnext.1, ?_⟩
        · exact fun other hother => h.inbox other (hinbox ▸ List.mem_cons_of_mem _ hother)
        · intro intent hintent
          exact (List.mem_append.mp hintent).elim (h.intents intent) (hnext.2 intent)
  | work now run =>
      simp only [guardedStep, agentStep, List.append_nil]
      split
      · exact h
      · rename_i intent rest hintents
        refine ⟨h.vouched, ?_, h.records, ?_⟩
        · intro input hinput
          rcases List.mem_append.mp hinput with hold | hnew
          · exact h.inbox input hold
          · obtain ⟨event, hevent, rfl⟩ := List.mem_map.mp hnew
            exact EventGrounded.of_stamp? (handleIntent_stamp? hevent)
        · exact fun other hother => h.intents other (hintents ▸ List.mem_cons_of_mem _ hother)
  | system sys =>
      rw [guardedStep, List.append_nil]
      exact ⟨h.vouched, h.inbox, h.records, h.intents⟩
  | disk disk =>
      rw [guardedStep, List.append_nil]
      exact ⟨h.vouched, h.inbox, h.records, h.intents⟩

theorem started_grounded (cache : ManifestCache) (machineId : HostId) (sys : System)
    (disk : CacheDisk) : AgentGrounded cache machineId (.started sys disk) [] := by
  have hnone : ∀ rid s, (AgentState.started sys).reducer.hostStates.lookup rid ≠ some s := by
    intro rid s hs
    cases hs
  constructor
  · intro a ha
    cases ha
  · intro input hinput
    cases hinput
  · exact ⟨fun rid s hs => absurd hs (hnone rid s), fun rid s hs => absurd hs (hnone rid s),
      fun rid s c hs => absurd hs (hnone rid s)⟩
  · intro intent hintent
    cases hintent

/-- In every run everything that an agent holds has ground under it. -/
theorem run_grounded (nix : NixEnv) (cache : ManifestCache) (machineId : HostId) (sys : System)
    (disk : CacheDisk) (is : List GuardedInput) :
    AgentGrounded cache machineId
      ((guardedMachine nix cache machineId).run (.started sys disk) is)
      ((guardedMachine nix cache machineId).trace (.started sys disk) is) := by
  have hmeets : (guardedMachine nix cache machineId).Meets (fun _ _ => True) (.started sys disk)
      is := Machine.meets_of_forall _ (P := fun _ => True) (fun _ _ => trivial) _
  have hrun := Machine.history_invariant _ (R := AgentGrounded cache machineId)
    (fun s i out h _ => guardedStep_grounded h i) (started_grounded cache machineId sys disk)
    hmeets
  rwa [List.nil_append] at hrun

/-- **Manifests decide.** Whatever the control plane answers and whatever the cache holds: a switch
that waits for the activation worker is of a rollout of which a fresh trusted manifest declared a
closure for this host, that closure or the one of a pending snapshot; a rollback goes to what ran at
such a dispatch, or to what a snapshot says ran. -/
theorem intents_vouched (nix : NixEnv) (cache : ManifestCache) (machineId : HostId) (sys : System)
    (disk : CacheDisk) (is : List GuardedInput) :
    let M := guardedMachine nix cache machineId
    ∀ intent ∈ (M.run (.started sys disk) is).agent.intents,
      (intent.rollback = false → ∃ a, .accepted a ∈ M.trace (.started sys disk) is ∧
        a.Vouched cache machineId ∧ a.message.rolloutId = intent.rolloutId ∧
        (a.message.targetClosure = intent.targetClosure ∨
          ToldPending (M.trace (.started sys disk) is) intent.rolloutId intent.targetClosure)) ∧
      (intent.rollback = true →
        (∃ a, .accepted a ∈ M.trace (.started sys disk) is ∧ a.Vouched cache machineId ∧
          a.message.rolloutId = intent.rolloutId ∧ a.prior = intent.targetClosure) ∨
        ∃ snapshot, .snapshot snapshot ∈ M.trace (.started sys disk) is ∧
          snapshot.rolloutId = intent.rolloutId ∧
          snapshot.currentClosureAtDispatch = some intent.targetClosure) := by
  intro M intent hmem
  have hrun := run_grounded nix cache machineId sys disk is
  have hground := hrun.intents intent hmem
  unfold IntentGrounded at hground
  constructor
  · intro hroll
    rw [hroll, if_neg (by decide)] at hground
    obtain ⟨a, ha, hrest⟩ := hground
    exact ⟨a, ha, hrun.vouched a ha, hrest⟩
  · intro hroll
    rw [hroll, if_pos rfl] at hground
    rcases hground with ⟨a, ha, hrest⟩ | hsnapshot
    · exact .inl ⟨a, ha, hrun.vouched a ha, hrest⟩
    · exact .inr hsnapshot

end Run

/-! ## A snapshot in the way -/

/-- A pending record of the rollout, with a closure that no manifest names. -/
def rogueSnapshot : HostRolloutSnapshot :=
  ⟨.new "stable" "c1", "a", "stable", .pending, "rogue", none, none, 0, none, none, none, none, 0⟩

/-- The snapshot is read before the dispatch that the manifest vouches for. -/
def rogueRun : List GuardedInput :=
  let reduce : GuardedInput := .reduce ⟨fun _ => 0, fun _ => 0⟩ 0
  [.post (.manifestSetUpdated (stableManifests (commitFleet "new"))) rfl, reduce,
   .post (.bootstrapHost rogueSnapshot) rfl, reduce,
   .poll ⟨⟨.new "stable" "c1", "new", 0, 0⟩, "a"⟩ resignedPoll.env (seconds 30), reduce]

set_option maxRecDepth 4000 in
/-- The dispatch is handed on for the closure of the manifest, and the switch goes to the closure
of the snapshot. -/
theorem snapshot_redirects_switch :
    let M := guardedMachine plainNix resignedCache "a"
    let s := GuardedAgent.started twoGenerations ⟨none, none, ∅, ∅⟩
    (M.run s rogueRun).agent.intents = [⟨.new "stable" "c1", "rogue", false⟩] ∧
      ∀ a, .accepted a ∈ M.trace s rogueRun → a.message.targetClosure = "new" := by
  intro M s
  have htrace : M.trace s rogueRun = [.snapshot rogueSnapshot, .accepted
      ⟨⟨⟨.new "stable" "c1", "new", 0, 0⟩, "a"⟩, resignedPoll.env, seconds 30,
        ⟨commitManifest "new" "h2", 0⟩, "prior"⟩] := rfl
  refine ⟨rfl, fun a ha => ?_⟩
  rw [htrace] at ha
  rcases List.mem_cons.mp ha with hsnapshot | haccepted
  · cases hsnapshot
  · cases List.mem_singleton.mp haccepted
    rfl

/-- The rollout of the switch that waits is one whose manifest was checked. -/
theorem rogueRun_vouched :
    let M := guardedMachine plainNix resignedCache "a"
    let s := GuardedAgent.started twoGenerations ⟨none, none, ∅, ∅⟩
    ∃ a, .accepted a ∈ M.trace s rogueRun ∧ a.Vouched resignedCache "a" ∧
      a.message.rolloutId = .new "stable" "c1" ∧
      (a.message.targetClosure = "rogue" ∨
        ToldPending (M.trace s rogueRun) (.new "stable" "c1") "rogue") := by
  intro M s
  have hmem : ⟨.new "stable" "c1", "rogue", false⟩ ∈ (M.run s rogueRun).agent.intents := by
    rw [snapshot_redirects_switch.1]
    exact List.mem_singleton_self _
  exact (intents_vouched plainNix resignedCache "a" twoGenerations ⟨none, none, ∅, ∅⟩ rogueRun _
    hmem).1 rfl

end Nixfleet
