import Nixfleet.Host.Run
import Nixfleet.Host.Wire

set_option autoImplicit false

/-!
# The mirror of a host record

The control plane keeps a record of its own and feeds it the events that the agent emits. One
accepted local event emits one payload, and the remote event it arrives as does to the same
record what the local event did (`hostStep_mirror`). So a mirror that has read a first part of
what was emitted is the agent's record of that time (`mirror_agrees`).
-/

namespace Nixfleet

/-- What an effect sends to the control plane, if it sends something. -/
def Effect.emitted? : Effect → Option (RolloutId × OutboundAgentEvent)
  | .localEmitEvent rid payload _ => some (rid, payload)
  | _ => none

section Effects

variable (s : HostRolloutState)

@[simp] theorem emitted?_emitEvent (payload : OutboundAgentEvent) (durable : Bool) :
    (s.emitEvent payload durable).emitted? = some (s.rolloutId, payload) := rfl

@[simp] theorem emitted?_appendEventLog (payload : OutboundAgentEvent) :
    (s.appendEventLog payload).emitted? = none := rfl

@[simp] theorem emitted?_recordTransition (dst : HostState) (at' : Time) :
    (s.recordTransition dst at').emitted? = none := rfl

@[simp] theorem emitted?_localFireSwitch (rid : RolloutId) (target : ClosureHash) :
    (Effect.localFireSwitch rid target).emitted? = none := rfl

@[simp] theorem emitted?_localResetProbeCache (rid : RolloutId) :
    (Effect.localResetProbeCache rid).emitted? = none := rfl

@[simp] theorem emitted?_remoteInsertQuarantine (channel : ChannelId) (closure : ClosureHash) :
    (Effect.remoteInsertQuarantine channel closure).emitted? = none := rfl

@[simp] theorem filterMap_emitted?_rollbackEffects (policy : OnHealthFailure) :
    (s.rollbackEffects policy).filterMap Effect.emitted? = [] := by
  unfold HostRolloutState.rollbackEffects
  split <;> rfl

end Effects

/-! ## One event -/

/-- The payload of a local event: the event itself, under its wire name. -/
def Event.payload? : Event → Option OutboundAgentEvent
  | .localActivate prior _ receivedAt _ seq => some (.dispatchAck prior receivedAt seq)
  | .localActivationStarted startedAt method seq => some (.activationStarted startedAt method seq)
  | .localActivationCompleted observed exitCode completedAt seq =>
      some (.activationCompleted observed exitCode completedAt seq)
  | .localActivationDeferred component deferredAt seq =>
      some (.activationDeferred component deferredAt seq)
  | .localActivationFailed exitCode stderrTail failedAt seq =>
      some (.activationFailed exitCode stderrTail failedAt seq)
  | .localProbeTopologyDeclared probes declaredAt seq =>
      some (.probeTopologyDeclared probes declaredAt seq)
  | .localProbeObservedFirst name mode observedAt seq =>
      some (.probeObservedFirst name mode observedAt seq)
  | .localProbeResult name mode status observedAt reason subResults seq =>
      some (.probeResult name mode status observedAt reason subResults seq)
  | .localProbeFailureFirst name mode firstFailedAt seq =>
      some (.probeFailureFirst name mode firstFailedAt seq)
  | .localSustainedFailureCrossed failedAt secs failing policyApplied seq =>
      some (.failed failedAt secs failing policyApplied seq)
  | .localRollbackCompleted closure exitCode completedAt seq =>
      some (.rollbackComplete closure exitCode completedAt seq)
  | .localConvergedReached convergedAt closure seq => some (.converged convergedAt closure seq)
  | _ => none

/-- `outbound_event_seq`. -/
def OutboundAgentEvent.seq : OutboundAgentEvent → Nat
  | .dispatchAck _ _ seq => seq
  | .activationStarted _ _ seq => seq
  | .activationCompleted _ _ _ seq => seq
  | .activationFailed _ _ _ seq => seq
  | .activationDeferred _ _ seq => seq
  | .probeTopologyDeclared _ _ seq => seq
  | .probeObservedFirst _ _ _ seq => seq
  | .probeResult _ _ _ _ _ _ seq => seq
  | .probeFailureFirst _ _ _ seq => seq
  | .failed _ _ _ _ seq => seq
  | .rollbackComplete _ _ _ seq => seq
  | .converged _ _ seq => seq

theorem seq_payload {e : Event} {payload : OutboundAgentEvent}
    (he : e.payload? = some payload) : payload.seq = e.seq := by
  cases e <;> cases he <;> rfl

@[simp] theorem seq_remote {e : Event} {payload : OutboundAgentEvent}
    (he : e.payload? = some payload) : payload.remote.seq = e.seq := by
  cases e <;> cases he <;> rfl

section Handlers

variable {s next : HostRolloutState} {e : Event} {p : RolloutPolicy} {effects : List Effect}
  {payload : OutboundAgentEvent}

/-- **What a step emits.** The payload of a local event, and of a remote one nothing. -/
theorem hostStep_emitted (h : hostStep s e p = .ok (next, effects)) :
    effects.filterMap Effect.emitted? =
      (e.payload?.map fun payload => (s.rolloutId, payload)).toList := by
  unfold hostStep at h
  split at h
  · cases h
  · cases e with
    | localConvergedReached t c n | remoteConverged t c n =>
        cases hs : s.state <;>
          simp only [hs, pendingHandle, activatingHandle, deferredHandle, soakingHandle,
            failedHandle, reduceCtorEq, Except.bind_eq_ok, Except.ok.injEq, Prod.mk.injEq] at h
        -- the one handler with a check of its own
        obtain ⟨_, -, -, rfl⟩ := h
        simp [Event.payload?, List.filterMap_cons]
    | _ =>
        cases hs : s.state <;>
          simp only [hs, pendingHandle, activatingHandle, deferredHandle, soakingHandle,
            failedHandle, reduceCtorEq, Except.ok.injEq, Prod.mk.injEq] at h
        all_goals
          obtain ⟨-, rfl⟩ := h
          simp [Event.payload?, List.filterMap_cons]

/-- The two sides of a handler agree: the remote event moves the record as the local one. -/
def Mirrors (handle : HostRolloutState → Event → RolloutPolicy → StepResult)
    (s next : HostRolloutState) (p : RolloutPolicy) (payload : OutboundAgentEvent) : Prop :=
  ∃ remoteEffects, handle s payload.remote p = .ok (next, remoteEffects)

theorem pendingHandle_mirrors (h : pendingHandle s e p = .ok (next, effects))
    (he : e.payload? = some payload) : Mirrors pendingHandle s next p payload := by
  cases e with
  | localActivate =>
      simp only [pendingHandle, Except.ok.injEq, Prod.mk.injEq] at h
      obtain ⟨rfl, rfl⟩ := h
      cases he
      exact ⟨_, rfl⟩
  | _ => cases he <;> simp [pendingHandle] at h

theorem activatingHandle_mirrors (h : activatingHandle s e p = .ok (next, effects))
    (he : e.payload? = some payload) : Mirrors activatingHandle s next p payload := by
  cases e with
  | localActivationStarted | localActivationCompleted | localActivationDeferred
  | localActivationFailed =>
      simp only [activatingHandle, Except.ok.injEq, Prod.mk.injEq] at h
      obtain ⟨rfl, rfl⟩ := h
      cases he
      exact ⟨_, rfl⟩
  | _ => cases he <;> simp [activatingHandle] at h

theorem deferredHandle_mirrors (h : deferredHandle s e p = .ok (next, effects))
    (he : e.payload? = some payload) : Mirrors deferredHandle s next p payload := by
  cases e with
  | localActivationCompleted | localActivationFailed =>
      simp only [deferredHandle, Except.ok.injEq, Prod.mk.injEq] at h
      obtain ⟨rfl, rfl⟩ := h
      cases he
      exact ⟨_, rfl⟩
  | _ => cases he <;> simp [deferredHandle] at h

theorem soakingHandle_mirrors (h : soakingHandle s e p = .ok (next, effects))
    (he : e.payload? = some payload) : Mirrors soakingHandle s next p payload := by
  cases e with
  | localConvergedReached t c n =>
      simp only [soakingHandle, Except.bind_eq_ok, Except.ok.injEq, Prod.mk.injEq] at h
      obtain ⟨u, hv, rfl, rfl⟩ := h
      cases he
      -- both sides run the same check on the same record
      refine ⟨[s.appendEventLog (.converged t c n), s.recordTransition .converged t], ?_⟩
      exact Except.bind_eq_ok.mpr ⟨u, hv, rfl⟩
  | localProbeTopologyDeclared | localProbeObservedFirst | localProbeResult
  | localProbeFailureFirst | localSustainedFailureCrossed =>
      simp only [soakingHandle, Except.ok.injEq, Prod.mk.injEq] at h
      obtain ⟨rfl, rfl⟩ := h
      cases he
      -- the fields survive the way over the wire
      simp only [Mirrors, OutboundAgentEvent.remote, OutboundAgentEvent.toAgentEvent,
        AgentEvent.toEvent, ProbeMode.ofWire_toWire, ProbeStatus.ofWire_toWire,
        OnHealthFailure.ofWire_toWire, soakingHandle]
      exact ⟨_, rfl⟩
  | _ => cases he <;> simp [soakingHandle] at h

theorem failedHandle_mirrors (h : failedHandle s e p = .ok (next, effects))
    (he : e.payload? = some payload) : Mirrors failedHandle s next p payload := by
  cases e with
  | localRollbackCompleted =>
      simp only [failedHandle, Except.ok.injEq, Prod.mk.injEq] at h
      obtain ⟨rfl, rfl⟩ := h
      cases he
      exact ⟨_, rfl⟩
  | _ => cases he <;> simp [failedHandle] at h

/-- **The mirror step.** The record after the remote event is the one after the local event. -/
theorem hostStep_mirrors (h : hostStep s e p = .ok (next, effects))
    (he : e.payload? = some payload) : Mirrors hostStep s next p payload := by
  unfold Mirrors hostStep at *
  rw [seq_remote he]
  split at h
  · cases h
  · rename_i hseq
    rw [if_neg hseq]
    cases hs : s.state with
    | pending => exact pendingHandle_mirrors (by simpa only [hs] using h) he
    | activating => exact activatingHandle_mirrors (by simpa only [hs] using h) he
    | deferred => exact deferredHandle_mirrors (by simpa only [hs] using h) he
    | soaking => exact soakingHandle_mirrors (by simpa only [hs] using h) he
    | failed => exact failedHandle_mirrors (by simpa only [hs] using h) he
    | converged => simp [hs] at h
    | reverted => simp [hs] at h

end Handlers

/-! ## What the mirror logs -/

/-- The payload under which a remote event is logged: the event itself, under its wire name. -/
def Event.logged? : Event → Option OutboundAgentEvent
  | .remoteDispatchAck closure receivedAt seq => some (.dispatchAck closure receivedAt seq)
  | .remoteActivationStarted startedAt method seq => some (.activationStarted startedAt method seq)
  | .remoteActivationCompleted observed exitCode completedAt seq =>
      some (.activationCompleted observed exitCode completedAt seq)
  | .remoteActivationDeferred component deferredAt seq =>
      some (.activationDeferred component deferredAt seq)
  | .remoteActivationFailed exitCode stderrTail failedAt seq =>
      some (.activationFailed exitCode stderrTail failedAt seq)
  | .remoteProbeTopologyDeclared probes declaredAt seq =>
      some (.probeTopologyDeclared probes declaredAt seq)
  | .remoteProbeObservedFirst name mode observedAt seq =>
      some (.probeObservedFirst name mode observedAt seq)
  | .remoteProbeResult name mode status observedAt reason subResults seq =>
      some (.probeResult name mode status observedAt reason subResults seq)
  | .remoteProbeFailureFirst name mode firstFailedAt seq =>
      some (.probeFailureFirst name mode firstFailedAt seq)
  | .remoteFailed failedAt secs failing policyApplied seq =>
      some (.failed failedAt secs failing policyApplied seq)
  | .remoteRollbackComplete closure exitCode completedAt seq =>
      some (.rollbackComplete closure exitCode completedAt seq)
  | .remoteConverged convergedAt closure seq => some (.converged convergedAt closure seq)
  | _ => none

theorem seq_logged {e : Event} {payload : OutboundAgentEvent} (he : e.logged? = some payload) :
    payload.seq = e.seq := by
  cases e <;> cases he <;> rfl

theorem exists_logged {e : Event} (h : e.isLocal = false) :
    ∃ payload, e.logged? = some payload := by
  cases e <;> first | exact ⟨_, rfl⟩ | cases h

section Logged

variable {s : HostRolloutState} {host : HostId} {rid : RolloutId} {payload : OutboundAgentEvent}

@[simp] theorem logged_eq_appendEventLog (payload' : OutboundAgentEvent) :
    .remoteAppendEventLog host rid payload = s.appendEventLog payload' ↔
      host = s.hostname ∧ rid = s.rolloutId ∧ payload' = payload := by
  simp [HostRolloutState.appendEventLog, eq_comm]

@[simp] theorem logged_ne_emitEvent (payload' : OutboundAgentEvent) (durable : Bool) :
    .remoteAppendEventLog host rid payload ≠ s.emitEvent payload' durable := nofun

@[simp] theorem logged_ne_recordTransition (dst : HostState) (t : Time) :
    .remoteAppendEventLog host rid payload ≠ s.recordTransition dst t := nofun

@[simp] theorem logged_not_mem_rollbackEffects (policy : OnHealthFailure) :
    .remoteAppendEventLog host rid payload ∉ s.rollbackEffects policy := by
  unfold HostRolloutState.rollbackEffects
  split <;> simp

/-- **What the mirror logs.** A remote event appends its payload to the event log, a local one
nothing. -/
theorem hostStep_logged {next : HostRolloutState} {e : Event} {p : RolloutPolicy}
    {effects : List Effect} (h : hostStep s e p = .ok (next, effects)) :
    .remoteAppendEventLog host rid payload ∈ effects ↔
      host = s.hostname ∧ rid = s.rolloutId ∧ e.logged? = some payload := by
  unfold hostStep at h
  split at h
  · cases h
  · cases e with
    | localConvergedReached t c n | remoteConverged t c n =>
        cases hs : s.state <;>
          simp only [hs, pendingHandle, activatingHandle, deferredHandle, soakingHandle,
            failedHandle, reduceCtorEq, Except.bind_eq_ok, Except.ok.injEq, Prod.mk.injEq] at h
        obtain ⟨_, -, -, rfl⟩ := h
        simp [Event.logged?]
    | _ =>
        cases hs : s.state <;>
          simp only [hs, pendingHandle, activatingHandle, deferredHandle, soakingHandle,
            failedHandle, reduceCtorEq, Except.ok.injEq, Prod.mk.injEq] at h
        all_goals
          obtain ⟨-, rfl⟩ := h
          simp [Event.logged?]

end Logged

/-! ## A run of local events -/

/-- `step` accepts every event of the run. -/
def AcceptsAll (s : HostRolloutState) (is : List HostInput) : Prop :=
  hostMachine.Meets (fun s i => ∃ out, hostStep s i.event i.policy = .ok out) s is

/-- The payloads that a run emits, in order. -/
def emitted (out : List AcceptedEvent) : List OutboundAgentEvent :=
  (out.flatMap fun a => a.effects.filterMap Effect.emitted?).map Prod.snd

/-- What the mirror reads of a run: the payloads that it emits, as they arrive. -/
def mirrored (policy : RolloutPolicy) (s : HostRolloutState) (events : List Event) :
    List HostInput :=
  underPolicy policy ((emitted (hostMachine.trace s (underPolicy policy events))).map (·.remote))

theorem payload?_isSome (e : Event) : e.payload?.isSome = e.isLocal := by
  cases e <;> rfl

section Runs

variable {policy : RolloutPolicy}

theorem mirrored_cons {s next : HostRolloutState} {e : Event} {events : List Event}
    {effects : List Effect} {payload : OutboundAgentEvent}
    (h : hostStep s e policy = .ok (next, effects)) (he : e.payload? = some payload) :
    mirrored policy s (e :: events) = ⟨payload.remote, policy⟩ :: mirrored policy next events := by
  have hstep : hostMachine.step s ⟨e, policy⟩ = (next, [⟨e, effects⟩]) := hostRunStep_of_ok h
  have hemit := hostStep_emitted h
  simp [mirrored, underPolicy, emitted, hstep, hemit, he]

/-- The mirror accepts what a run of accepted local events emits, one payload an event, and
keeps up with the record. -/
theorem mirrored_spec {s : HostRolloutState} {events : List Event}
    (hlocal : ∀ e ∈ events, e.isLocal = true) (hacc : AcceptsAll s (underPolicy policy events)) :
    (mirrored policy s events).length = events.length ∧
      AcceptsAll s (mirrored policy s events) ∧
      ∀ n, hostMachine.run s ((mirrored policy s events).take n) =
        hostMachine.run s (underPolicy policy (events.take n)) := by
  induction events generalizing s with
  | nil => exact ⟨rfl, trivial, fun n => by simp [mirrored, underPolicy, emitted]⟩
  | cons e events ih =>
      obtain ⟨⟨⟨next, effects⟩, hstep⟩, hrest⟩ := hacc
      obtain ⟨payload, he⟩ := Option.isSome_iff_exists.mp
        ((payload?_isSome e).trans (hlocal e List.mem_cons_self))
      -- one payload of the agent is one step of the mirror
      obtain ⟨remoteEffects, hremote⟩ := hostStep_mirrors hstep he
      have hnext : hostMachine.step s ⟨e, policy⟩ = (next, [⟨e, effects⟩]) :=
        hostRunStep_of_ok hstep
      have hmirror : hostMachine.step s ⟨payload.remote, policy⟩ =
          (next, [⟨payload.remote, remoteEffects⟩]) := hostRunStep_of_ok hremote
      rw [hnext] at hrest
      obtain ⟨hlen, hacc', hrun⟩ := ih (fun e' h => hlocal e' (List.mem_cons_of_mem _ h)) hrest
      rw [mirrored_cons hstep he]
      refine ⟨by rw [List.length_cons, List.length_cons, hlen], ⟨⟨_, hremote⟩, ?_⟩, ?_⟩
      · rw [hmirror]
        exact hacc'
      · intro n
        cases n with
        | zero => rfl
        | succ n =>
            calc hostMachine.run s
                  ((⟨payload.remote, policy⟩ :: mirrored policy next events).take (n + 1))
                = hostMachine.run next ((mirrored policy next events).take n) := by
                  rw [List.take_succ_cons, Machine.run_cons, hmirror]
              _ = hostMachine.run next (underPolicy policy (events.take n)) := hrun n
              _ = hostMachine.run s (underPolicy policy ((e :: events).take (n + 1))) := by
                  show _ = hostMachine.run s (⟨e, policy⟩ :: underPolicy policy (events.take n))
                  rw [Machine.run_cons, hnext]

variable (rid : RolloutId) (host : HostId) (channel : ChannelId) (target : ClosureHash)
  (dispatchedAt soakDueAt : Time)

/-- **The mirrors agree.** The mirror of a run of accepted local events accepts every payload,
and after each one its record is the agent's. -/
theorem mirror_agrees {events : List Event} (hlocal : ∀ e ∈ events, e.isLocal = true)
    (hacc : AcceptsAll (.newPending rid host channel target dispatchedAt soakDueAt)
      (underPolicy policy events)) :
    let s : HostRolloutState := .newPending rid host channel target dispatchedAt soakDueAt
    (mirrored policy s events).length = events.length ∧
      AcceptsAll s (mirrored policy s events) ∧
      ∀ n, hostMachine.run s ((mirrored policy s events).take n) =
        hostMachine.run s (underPolicy policy (events.take n)) := by
  intro s
  exact mirrored_spec hlocal hacc

end Runs

theorem convergingEvents_mirrored :
    let mirror := mirrored (plainPolicy .halt) freshRecord convergingEvents
    mirror.length = 4 ∧ AcceptsAll freshRecord mirror ∧
      ∀ n, hostMachine.run freshRecord (mirror.take n) =
        hostMachine.run freshRecord (underPolicy (plainPolicy .halt) (convergingEvents.take n)) :=
  mirror_agrees (.new "stable" "r1") "host" "stable" "new" 0 5 (by decide)
    ⟨⟨_, rfl⟩, ⟨_, rfl⟩, ⟨_, rfl⟩, ⟨_, rfl⟩, trivial⟩

end Nixfleet
