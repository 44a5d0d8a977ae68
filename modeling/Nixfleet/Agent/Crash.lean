import Nixfleet.Host.Mirror
import Nixfleet.Agent.Snapshots
import Nixfleet.ControlPlane.Records

set_option autoImplicit false

/-!
# Crashes of the agent

When the agent's process dies, its reducer and the intents of its workers are lost, and the events
in the outbound queue survive. A dispatch that was accepted and whose acknowledgement survived is
`Activating` for the control plane. Then nothing fires the switch again: the synthesis completes
such a record only on its target closure, a snapshot resets probes only, and the planner dispatches
`Pending` hosts only. Where the acknowledgement was not queued yet, or is refused, the record is not
`Activating` until the restarted agent fires the switch itself (`crash_recovers`).
-/

namespace Nixfleet

/-! ## Acknowledgements -/

/-- The event that moves a record to `Activating`. -/
def Event.acknowledges : Event → Bool
  | .localActivate .. | .remoteDispatchAck .. => true
  | _ => false

/-- Its payload. -/
def OutboundAgentEvent.isAck : OutboundAgentEvent → Bool
  | .dispatchAck .. => true
  | _ => false

theorem acknowledges_remote (payload : OutboundAgentEvent) :
    payload.remote.acknowledges = payload.isAck := by
  cases payload <;> rfl

section Handlers

variable {s next : HostRolloutState} {e : Event} {p : RolloutPolicy} {effects : List Effect}

/-- Only an acknowledgement makes a record `Activating`. -/
theorem acknowledges_of_activating (h : hostStep s e p = .ok (next, effects))
    (hnext : next.state = .activating) : s.state = .activating ∨ e.acknowledges = true := by
  have hmove := (hostStep_spec h).move
  rw [hnext] at hmove
  cases hs : s.state with
  | activating => exact .inl rfl
  | pending =>
      right
      unfold hostStep at h
      split at h
      · cases h
      · simp only [hs] at h
        cases e <;> first | rfl | simp [pendingHandle] at h
  | deferred | soaking | failed | converged | reverted =>
      rw [hs] at hmove
      cases hmove

/-- An agent that acknowledges a dispatch fires its switch. -/
theorem hostStep_fires_of_ack (h : hostStep s e p = .ok (next, effects)) {rid : RolloutId}
    {payload : OutboundAgentEvent} (hack : payload.isAck = true)
    (hmem : (rid, payload) ∈ effects.filterMap Effect.emitted?) :
    ∃ target, .localFireSwitch rid target ∈ effects := by
  rw [hostStep_emitted h, Option.mem_toList, Option.map_eq_some_iff] at hmem
  obtain ⟨payload', he, hpair⟩ := hmem
  cases hpair
  cases e <;> cases he <;> cases hack
  -- the acknowledgement is that of a dispatch that was accepted out of `Pending`
  unfold hostStep at h
  split at h
  · cases h
  · cases hs : s.state <;> simp only [hs] at h
    case pending =>
      cases h
      exact ⟨s.targetClosure, by simp⟩
    all_goals simp [activatingHandle, deferredHandle, soakingHandle, failedHandle] at h

end Handlers

/-- Every acknowledgement that the effects emit comes with the switch of its rollout. -/
def AcksFire (effects : List Effect) : Prop :=
  ∀ rid payload, payload.isAck = true → (rid, payload) ∈ effects.filterMap Effect.emitted? →
    ∃ target, .localFireSwitch rid target ∈ effects

/-- An agent's input acknowledges nothing that it does not fire. -/
theorem handleInput_acksFire (orders : AgentOrders) (now : Time) (r : AgentReducer)
    (input : ReducerInput) : AcksFire (handleInput orders now r input).2 := by
  refine handleInput_induction (P := fun acc => AcksFire acc.2) nofun ?_ (fun _ => nofun) ?_
  · intro acc rid e hacc rid' payload hack hmem
    rw [List.filterMap_append, List.mem_append] at hmem
    rcases hmem with hold | hnew
    · obtain ⟨target, htarget⟩ := hacc rid' payload hack hold
      exact ⟨target, List.mem_append_left _ htarget⟩
    · rcases runHostEvent_cases now acc.1 rid e with hdrop | ⟨s, policy, next, effects, ht⟩
      · rw [hdrop] at hnew
        cases hnew
      · rw [ht.run] at hnew ⊢
        obtain ⟨target, htarget⟩ := hostStep_fires_of_ack ht.step hack hnew
        exact ⟨target, List.mem_append_right _ htarget⟩
  · -- a snapshot emits nothing
    intro snapshot _ rid payload _ hmem
    simp only [applyBootstrapSnapshot, rehydrationEffects] at hmem
    split at hmem <;> cases hmem

/-! ## The record of the control plane -/

/-- The control plane does not take the host for activating. -/
def Db.NotActivating (db : Db) (rid : RolloutId) (host : HostId) : Prop :=
  ∀ record, db.loadRecord rid host = some record → record.state ≠ .activating

section Record

variable {db : Db} {rs : ReducerState} {now : Time} {faults : Faults} {rid : RolloutId}
  {host : HostId}

/-- An event that is not the host's acknowledgement for the rollout activates nothing. -/
theorem handleHostEvent_notActivating (hk : db.RecordsKeyed) (h : db.NotActivating rid host)
    {rid' : RolloutId} {host' : HostId} {event : Event}
    (hevent : rid' = rid → host' = host → event.acknowledges = false) :
    (handleHostEvent rs now faults db host' rid' event).NotActivating rid host := by
  intro record hrecord hactivating
  rcases handleHostEvent_record hk hrecord with hold | ⟨hrid, hhost, m, prior, effects, hacc⟩
  · exact h record hold hactivating
  · obtain ⟨policy, -, hstep⟩ := hacc.step
    rcases acknowledges_of_activating hstep hactivating with hprior | hack
    · exact h prior hacc.loaded hprior
    · rw [hevent hrid.symm hhost.symm] at hack
      cases hack

/-- The chain of a `Pending` record leaves no `Activating` one, unless a statement fails: what its
acknowledgement has moved, its completion moves on. -/
theorem synthesizePendingToConverged_notActivating (hk : db.RecordsKeyed)
    (h : db.NotActivating rid host) {record : HostRolloutState} (hrid : record.rolloutId = rid)
    (hhost : record.hostname = host) (agentCurrent : ClosureHash) (at' : Time) :
    let db' := synthesizePendingToConverged rs now noFaults db record agentCurrent at'
    db'.RecordsKeyed ∧ db'.NotActivating rid host := by
  intro db'
  have hkacked : (handleHostEvent rs now noFaults db host rid
      (.remoteDispatchAck "" at' (record.lastEventSeq + 1))).RecordsKeyed :=
    handleHostEvent_recordsKeyed hk _ _ _
  refine synthesizePendingToConverged_rule (P := fun db => db.RecordsKeyed ∧
    db.NotActivating rid host) ?_ fun db' convergedAt hdb' => ?_
  · rw [hrid, hhost]
    refine ⟨handleHostEvent_recordsKeyed hkacked _ _ _, ?_⟩
    rcases handleHostEvent_cases rs now noFaults db host rid
        (.remoteDispatchAck "" at' (record.lastEventSeq + 1)) with
      heq | ⟨m, prior, next, effects, hacc, -⟩
    · rw [heq]
      exact handleHostEvent_notActivating hk h fun _ _ => rfl
    · obtain ⟨policy, hpolicy, hstep⟩ := hacc.step
      have hspec := hostStep_spec hstep
      have hload : (handleHostEvent rs now noFaults db host rid
          (.remoteDispatchAck "" at' (record.lastEventSeq + 1))).loadRecord rid host = some next :=
        handleHostEvent_moves hk hacc.loaded hacc.fresh hacc.cached hpolicy hstep rfl rfl
      by_cases hnext : next.state = .activating
      · -- the completion is the next event of the record
        have hcompleted : hostStep next
            (.remoteActivationCompleted agentCurrent 0 at' (record.lastEventSeq + 2)) policy =
            .ok (next.complete agentCurrent at' (record.lastEventSeq + 2),
              [next.appendEventLog (.activationCompleted agentCurrent 0 at'
                (record.lastEventSeq + 2)), next.recordTransition .soaking at']) := by
          have hseq : ¬ record.lastEventSeq + 2 ≤ next.lastEventSeq := by
            have hnum : next.lastEventSeq = record.lastEventSeq + 1 := hspec.seq
            omega
          simp only [hostStep, hnext, Event.seq, if_neg hseq, activatingHandle]
        have hchannel : resolvePolicy m next.channel = some policy := by
          rw [hspec.same.channel]
          exact hpolicy
        intro record' hrecord'
        rw [handleHostEvent_moves hkacked hload (hspec.seq ▸ Nat.lt_succ_self _) hacc.cached
          hchannel hcompleted rfl rfl] at hrecord'
        cases hrecord'
        show HostState.soaking ≠ .activating
        decide
      · refine handleHostEvent_notActivating hkacked ?_ fun _ _ => rfl
        intro record' hrecord'
        rw [hload] at hrecord'
        cases hrecord'
        exact hnext
  · rw [hrid, hhost]
    exact ⟨handleHostEvent_recordsKeyed hdb'.1 _ _ _,
      handleHostEvent_notActivating hdb'.1 hdb'.2 fun _ _ => rfl⟩

/-- A heartbeat activates nothing, unless it completes the host's record and a statement fails. -/
theorem handleHeartbeat_notActivating {order : MapOrders} {hb : Heartbeat} (hk : db.RecordsKeyed)
    (h : db.NotActivating rid host)
    (hb' : hb.host = host → faults = noFaults ∨ ∀ record, db.loadRecord rid host = some record →
      hb.currentClosure ≠ some record.targetClosure) :
    (handleHeartbeat rs order now faults db hb).1.NotActivating rid host := by
  refine (handleHeartbeat_steps (P := fun db => db.RecordsKeyed ∧ db.NotActivating rid host)
    ⟨hk, h⟩ ?_).2
  rintro agentCurrent hclosure record hmem db' ⟨hk', h'⟩
  obtain ⟨rid', hload, -⟩ := mem_activeForHost.mp hmem
  obtain ⟨hrid, hhost⟩ := hk rid' hb.host record hload
  have hother : ∀ event, event.acknowledges = false →
      (handleHostEvent rs now faults db' hb.host record.rolloutId event).RecordsKeyed ∧
        (handleHostEvent rs now faults db' hb.host record.rolloutId event).NotActivating rid host :=
    fun event hack => ⟨handleHostEvent_recordsKeyed hk' _ _ _,
      handleHostEvent_notActivating hk' h' fun _ _ => hack⟩
  refine synthesizeFor_rule (P := fun db => db.RecordsKeyed ∧ db.NotActivating rid host)
    ⟨hk', h'⟩ (fun _ => hother _ rfl) (hother _ rfl) fun htarget => ?_
  by_cases hsame : record.rolloutId = rid ∧ hb.host = host
  · obtain ⟨hsame, rfl⟩ := hsame
    rcases hb' rfl with rfl | hne
    · exact synthesizePendingToConverged_notActivating hk' h' hsame hhost agentCurrent hb.sentAt
    · -- the record that was read is the host's, and its target is not the reported closure
      have hkey : rid' = rid := hrid.symm.trans hsame
      subst hkey
      exact absurd (by rw [hclosure, htarget]) (hne record hload)
  · -- a chain of another rollout or another host
    have hchain : ∀ event, ∀ db : Db, db.RecordsKeyed ∧ db.NotActivating rid host →
        (handleHostEvent rs now faults db record.hostname record.rolloutId event).RecordsKeyed ∧
          (handleHostEvent rs now faults db record.hostname record.rolloutId
            event).NotActivating rid host := by
      rintro event db ⟨hk, h⟩
      refine ⟨handleHostEvent_recordsKeyed hk _ _ _, handleHostEvent_notActivating hk h ?_⟩
      exact fun hr hh => absurd ⟨hr, hhost.symm.trans hh⟩ hsame
    exact synthesizePendingToConverged_rule
      (P := fun db => db.RecordsKeyed ∧ db.NotActivating rid host)
      (hchain _ _ (hchain _ db' ⟨hk', h'⟩)) fun db _ => hchain _ db

/-- The input of the control plane comes from the host. -/
def CpEvent.isFrom (host : HostId) : CpEvent → Bool
  | .hostEvent host' _ _ => host' = host
  | .heartbeatReceived hb => hb.host = host
  | _ => false

/-- What does not come from the host activates nothing. -/
theorem cpStep_notActivating {cp : Cp} {i : CpInput} (hk : cp.db.RecordsKeyed)
    (h : cp.db.NotActivating rid host) (hi : i.event.isFrom host = false) :
    (cpStep cp i).1.db.NotActivating rid host := by
  have hplan : ∀ rs : ReducerState,
      (runPlan rs i.order i.now i.faults cp.db).NotActivating rid host := by
    intro rs record hrecord
    rcases runPlan_record hrecord with hold | ⟨_, _, _, -, -, -, _, _, -, _, -, -, rfl⟩
    · exact h record hold
    · exact nofun
  unfold cpStep
  split
  · rename_i host' rid' event hev
    simp only [hev, CpEvent.isFrom, decide_eq_false_iff_not] at hi
    exact handleHostEvent_notActivating hk h fun _ hsame => absurd hsame hi
  · exact hplan _
  · rename_i hb hev
    simp only [hev, CpEvent.isFrom, decide_eq_false_iff_not] at hi
    exact handleHeartbeat_notActivating hk h fun hsame => absurd hsame hi
  · exact hplan _
  · exact h
  · intro record hrecord
    exact h record (loadRecord_of_prune hrecord)
  · intro record hrecord
    rw [loadRecord_takeForHost] at hrecord
    exact h record hrecord

end Record

/-! ## The system -/

/-- One input of an agent that may crash, and its control plane. -/
inductive CrashInput where
  | link (input : LinkInput)
  /-- The process dies when it has applied the first `n` effects of the input. -/
  | crash (call : ReducerCall) (n : Nat)

/-- The effects that a process applies before it dies. -/
def Link.lastEffects (s : Link) (call : ReducerCall) (n : Nat) : List Effect :=
  (reducerMachine.step s.agent call).2.take n

/-- The process dies and starts again. The outbound queue survives, the reducer's memory and the
snapshots that wait for it do not. -/
def Link.crash (s : Link) (call : ReducerCall) (n : Nat) : Link where
  agent := .fresh
  outbound := s.outbound ++ (s.lastEffects call n).filterMap Effect.emitted?
  cp := s.cp
  snapshots := []

def crashStep (host : HostId) (s : Link) : CrashInput → Link × List Effect
  | .link input => linkStep host s input
  | .crash call n => (s.crash call n, s.lastEffects call n)

def crashMachine (host : HostId) : Machine Link CrashInput Effect := ⟨crashStep host⟩

/-- A step of the link is a step of the control plane, or none. -/
theorem linkStep_recordsKeyed (host : HostId) {s : Link} (hk : s.cp.db.RecordsKeyed)
    (i : LinkInput) : (linkStep host s i).1.cp.db.RecordsKeyed := by
  cases i with
  | worker call h => exact hk
  | bootstrap orders now =>
      simp only [linkStep]
      split <;> exact hk
  | deliver k w answered =>
      simp only [linkStep]
      split
      · exact hk
      · exact cpStep_recordsKeyed hk _
  | heartbeat w closure sentAt answered => exact cpStep_recordsKeyed hk _
  | control i => exact cpStep_recordsKeyed hk i

theorem crash_run_recordsKeyed (host : HostId) (is : List CrashInput) :
    ((crashMachine host).run .initial is).cp.db.RecordsKeyed := by
  refine (crashMachine host).run_invariant_of_step (P := fun s => s.cp.db.RecordsKeyed) ?_ ?_ is
  · intro s i hk
    cases i with
    | link i => exact linkStep_recordsKeyed host hk i
    | crash call n => exact hk
  · intro rid host r hr
    cases hr

/-! ## A crash and its recovery -/

/-- The start of an activation, or its outcome. -/
def Event.isActivation : Event → Bool
  | .localActivationStarted .. | .localActivationCompleted .. | .localActivationDeferred ..
  | .localActivationFailed .. => true
  | _ => false

def OutboundAgentEvent.isOutcome : OutboundAgentEvent → Bool
  | .activationCompleted .. | .activationDeferred .. | .activationFailed .. => true
  | _ => false

/-- An input of the recovery: no switch is in progress, the host runs the closure that it ran before
the dispatch, and reaches the control plane through its agent only. -/
def LinkInput.Recovers (host : HostId) (rid : RolloutId) (prior : ClosureHash) : LinkInput → Prop
  | .worker call _ => ∀ e, call.input = .hostEvent rid e → e.isActivation = false
  | .heartbeat _ closure _ _ => closure = some prior
  | .control i => i.event.isFrom host = false
  | .bootstrap .. | .deliver .. => True

/-- The process of `host` has accepted a dispatch and dies before it has reported the outcome. After
the inputs `after` the surviving events are delivered and a handshake is answered and applied; then
a plan tick runs with open gates. -/
structure RecoveredCrash (host : HostId) (rid : RolloutId) (prior : ClosureHash) (s : Link)
    (call : ReducerCall) (n : Nat) (after : List LinkInput) (tick : CpInput) : Prop where
  activating : ∃ record, (s.agent.hostStates.lookup rid = some record ∨
      (reducerMachine.step s.agent call).1.hostStates.lookup rid = some record) ∧
    record.state = .activating ∧ record.currentClosureAtDispatch = some prior
  unreported : ∀ payload, (rid, payload) ∈ (s.lastEffects call n).filterMap Effect.emitted? →
    payload.isOutcome = false
  inputs : ∀ i ∈ after, i.Recovers host rid prior
  delivered : ∀ e ∈ (s.crash call n).outbound,
    e ∉ ((linkMachine host).run (s.crash call n) after).outbound
  handshake : ∃ w sentAt, .heartbeat w (some prior) sentAt true ∈ after
  applied : ((linkMachine host).run (s.crash call n) after).snapshots = []
  ticks : tick.event = .planTick
  gates : ∃ manifests plan,
    let cp := ((linkMachine host).run (s.crash call n) after).cp
    cp.rs.manifests = some manifests ∧ cp.plan tick = some plan ∧
      ∀ record, cp.db.loadRecord rid host = some record →
        evaluateForDispatch plan.fleetState manifests cp.rs.quarantines rid host
          record.targetClosure record.channel (fun _ => 0) = none

/-- The dispatch was queued again between two states, or the agent has fired the switch again, or
the control plane does not wait for an activation. -/
def NotOrphaned (host : HostId) (rid : RolloutId) (s s' : Link) (effects : List Effect) : Prop :=
  (∃ entry ∈ s'.cp.db.eventLog.drop s.cp.db.eventLog.length,
    entry.payload.queued = some (host, rid)) ∨
  (∃ effect ∈ effects, effect.fires rid false = true) ∨
  s'.cp.db.NotActivating rid host

/-- The control plane drops the event. -/
def Refuses (cp : Cp) (w : CpSurroundings) (host : HostId) (rid : RolloutId) (event : Event) :
    Prop :=
  w.faults (.loadRecord rid host event.seq) = true ∨
  w.faults (.upsertRecord rid host event.seq) = true ∨
  ∀ manifests prior next effects, ¬ Accepted cp.rs cp.db host rid event manifests prior next effects

/-- A surviving acknowledgement that is delivered is refused, and a heartbeat that completes the
host's record meets no failing statement. -/
def AcksRefused (host : HostId) (rid : RolloutId)
    (survivors : List (RolloutId × OutboundAgentEvent)) (s : Link) : LinkInput → Prop
  | .deliver k w _ => ∀ payload, s.outbound[k]? = some (rid, payload) → payload.isAck = true →
      (rid, payload) ∈ survivors → Refuses s.cp w host rid payload.remote
  | .heartbeat w closure _ _ => w.faults = noFaults ∨
      ∀ record, s.cp.db.loadRecord rid host = some record → closure ≠ some record.targetClosure
  | _ => True

theorem handleHostEvent_of_refused {cp : Cp} {w : CpSurroundings} {host : HostId}
    {rid : RolloutId} {event : Event} (h : Refuses cp w host rid event) :
    handleHostEvent cp.rs w.now w.faults cp.db host rid event = cp.db := by
  rcases h with hload | hstore | hrefuse
  · exact handleHostEvent_of_fault (.inl hload)
  · exact handleHostEvent_of_fault (.inr hstore)
  · exact handleHostEvent_of_not_accepted hrefuse

section Recovery

variable {host : HostId} {rid : RolloutId} {survivors : List (RolloutId × OutboundAgentEvent)}

/-- What holds of a recovery until the switch is fired again: the control plane does not wait for an
activation, and every queued acknowledgement of the rollout survived the crash. -/
structure Unfired (host : HostId) (rid : RolloutId)
    (survivors : List (RolloutId × OutboundAgentEvent)) (s : Link) : Prop where
  keyed : s.cp.db.RecordsKeyed
  notActivating : s.cp.db.NotActivating rid host
  acks : ∀ payload, payload.isAck = true → (rid, payload) ∈ s.outbound → (rid, payload) ∈ survivors

/-- An input of the reducer fires the switch, or queues no acknowledgement. -/
theorem Unfired.reduce {s : Link} (h : Unfired host rid survivors s) (call : ReducerCall)
    (snapshots : List HostRolloutSnapshot) :
    (∃ effect ∈ (reducerMachine.step s.agent call).2, effect.fires rid false = true) ∨
      Unfired host rid survivors
        { s with
          agent := (reducerMachine.step s.agent call).1
          outbound := s.outbound ++
            (reducerMachine.step s.agent call).2.filterMap Effect.emitted?
          snapshots := snapshots } := by
  have hfires := handleInput_acksFire call.orders call.now s.agent call.input
  by_cases hack : ∃ payload, payload.isAck = true ∧
      (rid, payload) ∈ (reducerMachine.step s.agent call).2.filterMap Effect.emitted?
  · obtain ⟨payload, hisAck, hmem⟩ := hack
    obtain ⟨target, htarget⟩ := hfires rid payload hisAck hmem
    exact .inl ⟨_, htarget, by simp [Effect.fires]⟩
  · refine .inr ⟨h.keyed, h.notActivating, fun payload hisAck hmem => ?_⟩
    rcases List.mem_append.mp hmem with hold | hnew
    · exact h.acks payload hisAck hold
    · exact absurd ⟨payload, hisAck, hnew⟩ hack

/-- **One step of a recovery.** -/
theorem linkStep_unfired {prior : ClosureHash} {s : Link} {i : LinkInput}
    (h : Unfired host rid survivors s)
    (hi : i.Recovers host rid prior ∧ AcksRefused host rid survivors s i) :
    (∃ effect ∈ (linkStep host s i).2, effect.fires rid false = true) ∨
      Unfired host rid survivors (linkStep host s i).1 := by
  obtain ⟨hrecovers, hrefused⟩ := hi
  cases i with
  | worker call hcall => exact h.reduce call s.snapshots
  | bootstrap orders now =>
      simp only [linkStep]
      split
      · exact .inr h
      · exact h.reduce _ _
  | deliver k w answered =>
      right
      simp only [linkStep]
      cases hk : s.outbound[k]? with
      | none => exact h
      | some e =>
          obtain ⟨rid', payload⟩ := e
          have hmem : (rid', payload) ∈ s.outbound := List.mem_of_getElem? hk
          have hqueue : ∀ e ∈ (if answered then s.outbound.eraseIdx k else s.outbound),
              e ∈ s.outbound := by
            intro e he
            split at he
            · exact List.mem_of_mem_eraseIdx he
            · exact he
          have hrecord : (handleHostEvent s.cp.rs w.now w.faults s.cp.db host rid'
              payload.remote).NotActivating rid host := by
            by_cases hack : rid' = rid ∧ payload.isAck = true
            · obtain ⟨rfl, hack⟩ := hack
              -- the acknowledgement survived the crash, so it is refused
              rw [handleHostEvent_of_refused
                (hrefused payload hk hack (h.acks payload hack hmem))]
              exact h.notActivating
            · refine handleHostEvent_notActivating h.keyed h.notActivating fun hrid _ => ?_
              rw [acknowledges_remote]
              simpa [hrid] using hack
          exact ⟨handleHostEvent_recordsKeyed h.keyed _ _ _, hrecord,
            fun payload hack hmem => h.acks payload hack (hqueue _ hmem)⟩
  | heartbeat w closure sentAt answered =>
      right
      refine ⟨cpStep_recordsKeyed h.keyed _, ?_, h.acks⟩
      exact handleHeartbeat_notActivating h.keyed h.notActivating fun _ => hrefused
  | control i =>
      exact .inr ⟨cpStep_recordsKeyed h.keyed i, cpStep_notActivating h.keyed h.notActivating
        hrecovers, h.acks⟩

/-- **No orphaned activation, where no acknowledgement gets through.** In every run, a crash leaves
no orphaned activation if the control plane does not wait for one when the process dies, and
refuses the acknowledgements that survive. -/
theorem crash_recovers (prior : ClosureHash) {before : List CrashInput} {call : ReducerCall}
    {n : Nat} {after : List LinkInput} {tick : CpInput}
    (hcrash : ((crashMachine host).run .initial before).cp.db.NotActivating rid host)
    (hafter : (linkMachine host).Meets
      (AcksRefused host rid (((crashMachine host).run .initial before).crash call n).outbound)
      (((crashMachine host).run .initial before).crash call n) after)
    (h : RecoveredCrash host rid prior ((crashMachine host).run .initial before) call n after
      tick) :
    NotOrphaned host rid (((crashMachine host).run .initial before).crash call n)
      ((linkMachine host).run (((crashMachine host).run .initial before).crash call n)
        (after ++ [.control tick]))
      ((linkMachine host).trace (((crashMachine host).run .initial before).crash call n)
        (after ++ [.control tick])) := by
  have hkeyed := crash_run_recordsKeyed host before
  generalize (crashMachine host).run .initial before = s at *
  have htick : LinkInput.Recovers host rid prior (.control tick) := by
    show tick.event.isFrom host = false
    rw [h.ticks]
    rfl
  have hmeets : (linkMachine host).Meets
      (fun s' i => i.Recovers host rid prior ∧ AcksRefused host rid (s.crash call n).outbound s' i)
      (s.crash call n) (after ++ [.control tick]) := by
    rw [(linkMachine host).meets_append]
    exact ⟨((linkMachine host).meets_of_forall h.inputs _).and _ hafter, ⟨htick, trivial⟩, trivial⟩
  have hstart : Unfired host rid (s.crash call n).outbound (s.crash call n) :=
    ⟨hkeyed, hcrash, fun _ _ hmem => hmem⟩
  rcases (linkMachine host).run_invariant_unless (fun s' i h hi => linkStep_unfired h hi) hstart
    hmeets with hfired | hend
  · exact .inr (.inl hfired)
  · exact .inr (.inr hend.notActivating)

end Recovery

/-! ## The crash points of a dispatch -/

/-- The acceptance of the dispatch, which the process does not survive. -/
def acceptCall : ReducerCall :=
  ⟨⟨fun _ => 0, fun _ => 0⟩, 0, .hostEvent (.new "stable" "r1") (.localActivate "old" "new" 0 0 0)⟩

/-- The rollout is opened, and its dispatch is delivered to `host`. -/
def deliveredInputs : List CrashInput := (openedInputs.take 4).map .link

/-- The queue is delivered, then the restarted agent shakes hands on the closure it still runs. -/
def recoveryInputs : List LinkInput :=
  [.deliver 0 plainSurroundings true, heartbeatAt "old", bootstrapAt]

def recoveryTick : CpInput := plainSurroundings.input .planTick

theorem recoveryInputs_recover :
    ∀ i ∈ recoveryInputs, i.Recovers "host" (.new "stable" "r1") "old" := by
  intro i hi
  simp only [recoveryInputs, heartbeatAt, bootstrapAt, List.mem_cons, List.not_mem_nil,
    or_false] at hi
  rcases hi with rfl | rfl | rfl
  · trivial
  · rfl
  · trivial

set_option maxRecDepth 8000 in
/-- The process dies before the acknowledgement is queued. -/
theorem unackedCrash_recovers :
    NotOrphaned "host" (.new "stable" "r1")
      (((crashMachine "host").run .initial deliveredInputs).crash acceptCall 1)
      ((linkMachine "host").run (((crashMachine "host").run .initial deliveredInputs).crash
        acceptCall 1) (recoveryInputs ++ [.control recoveryTick]))
      ((linkMachine "host").trace (((crashMachine "host").run .initial deliveredInputs).crash
        acceptCall 1) (recoveryInputs ++ [.control recoveryTick])) := by
  refine crash_recovers "old" ?_ ?_ ?_
  · rintro record ⟨⟩
    exact nofun
  · refine ⟨?_, .inl rfl, trivial, trivial⟩
    intro payload hpayload
    cases hpayload
  · refine ⟨⟨_, .inr rfl, rfl, rfl⟩, ?_, recoveryInputs_recover, ?_,
      ⟨plainSurroundings, 0, .tail _ (.head _)⟩, rfl, rfl, ?_⟩
    · intro payload hmem
      cases hmem
    · intro e hmem
      cases hmem
    · refine ⟨_, _, rfl, rfl, ?_⟩
      rintro record ⟨⟩
      decide

set_option maxRecDepth 8000 in
/-- The process dies when the acknowledgement is queued and the switch is not fired. -/
theorem ackedCrash_orphans :
    ¬ ∀ (host : HostId) (rid : RolloutId) (prior : ClosureHash) (before : List CrashInput)
        (call : ReducerCall) (n : Nat) (after : List LinkInput) (tick : CpInput),
      let s := (crashMachine host).run .initial before
      RecoveredCrash host rid prior s call n after tick →
        NotOrphaned host rid (s.crash call n)
          ((linkMachine host).run (s.crash call n) (after ++ [.control tick]))
          ((linkMachine host).trace (s.crash call n) (after ++ [.control tick])) := by
  intro h
  have horphan := h "host" (.new "stable" "r1") "old" deliveredInputs acceptCall 2 recoveryInputs
    recoveryTick ?_
  · rcases horphan with hqueued | hfired | hrecord
    · exact absurd hqueued (by decide)
    · exact absurd hfired (by decide)
    · exact hrecord _ rfl rfl
  · refine ⟨⟨_, .inr rfl, rfl, rfl⟩, ?_, recoveryInputs_recover, ?_,
      ⟨plainSurroundings, 0, .tail _ (.head _)⟩, rfl, rfl, ?_⟩
    · intro payload hmem
      have hack : (.new "stable" "r1", payload) ∈
          [(RolloutId.new "stable" "r1", OutboundAgentEvent.dispatchAck "old" 0 1)] := hmem
      cases List.mem_singleton.mp hack
      rfl
    · -- the acknowledgement is delivered, and nothing else was queued
      intro e _ hmem
      cases hmem
    · refine ⟨_, _, rfl, rfl, ?_⟩
      rintro record ⟨⟩
      decide

end Nixfleet
