import Nixfleet.Agent.Sequence

set_option autoImplicit false

/-!
# Sustained failure

A tick fails a soaking rollout when the timer of its record has run for the threshold and a probe
in mode `enforce` fails. The record has one timer for all probes: the first failure of any probe
in any mode starts it, a pass does not stop it, and a snapshot keeps it. A failure is therefore
sustained where the probe that started the timer is in mode `enforce` and has not passed since
(`crossed_is_sustained`).
-/

namespace Nixfleet

/-! ## Reports of the probes -/

/-- A failure that a probe reports. -/
structure FailureReport where
  probeName : String
  mode : ProbeMode
  failedAt : Time
deriving DecidableEq, Repr

/-- A probe reports a failure with its result, and the first one by an event before it. -/
def Event.probeFailure? : Event → Option FailureReport
  | .localProbeResult name mode .fail observedAt _ _ _
  | .remoteProbeResult name mode .fail observedAt _ _ _ => some ⟨name, mode, observedAt⟩
  | .localProbeFailureFirst name mode firstFailedAt _
  | .remoteProbeFailureFirst name mode firstFailedAt _ => some ⟨name, mode, firstFailedAt⟩
  | _ => none

/-- The probe that an event reports as passing. -/
def Event.probePass? : Event → Option String
  | .localProbeResult name _ .pass _ _ _ _ | .remoteProbeResult name _ .pass _ _ _ _ => some name
  | _ => none

/-- The event for a rollout that an input is, if it is one. -/
def ReducerInput.eventFor (rid : RolloutId) : ReducerInput → Option Event
  | .hostEvent rid' e => if rid' = rid then some e else none
  | _ => none

/-- The failure that a call reports for a rollout. -/
def ReducerCall.failure? (rid : RolloutId) (c : ReducerCall) : Option FailureReport :=
  (c.input.eventFor rid).bind Event.probeFailure?

/-- The probe that a call reports as passing for a rollout. -/
def ReducerCall.pass? (rid : RolloutId) (c : ReducerCall) : Option String :=
  (c.input.eventFor rid).bind Event.probePass?

/-- The probe does not pass in these calls. -/
def NotPassed (rid : RolloutId) (probeName : String) (calls : List ReducerCall) : Prop :=
  ∀ c ∈ calls, c.pass? rid ≠ some probeName

instance (rid : RolloutId) (probeName : String) (calls : List ReducerCall) :
    Decidable (NotPassed rid probeName calls) :=
  inferInstanceAs (Decidable (∀ c ∈ calls, _))

/-- In a history, oldest first, some probe in mode `enforce` failed at least the threshold before
`now` and has not passed since. -/
def FailsSustained (rid : RolloutId) (now : Time) : List ReducerCall → Prop
  | [] => False
  | c :: later =>
      (∃ f ∈ c.failure? rid, f.mode = .enforce ∧
        sustainedFailureThresholdSecs ≤ numSeconds (now - f.failedAt) ∧
          NotPassed rid f.probeName later) ∨ FailsSustained rid now later

instance decidableFailsSustained (rid : RolloutId) (now : Time) :
    DecidablePred (FailsSustained rid now)
  | [] => isFalse id
  | c :: later =>
      have := decidableFailsSustained rid now later
      inferInstanceAs (Decidable ((∃ f ∈ c.failure? rid, _) ∨ FailsSustained rid now later))

/-! ## The timer -/

/-- `probe_failure_first_at` of a rollout's record. -/
def AgentReducer.timerOf (r : AgentReducer) (rid : RolloutId) : Option Time :=
  (r.hostStates.lookup rid).bind (·.probeFailureFirstAt)

/-- The call starts the timer of a rollout. -/
def StartsTimer (rid : RolloutId) (r : AgentReducer) (c : ReducerCall) : Prop :=
  r.timerOf rid = none ∧ (reducerMachine.step r c).1.timerOf rid ≠ none

instance (rid : RolloutId) (r : AgentReducer) (c : ReducerCall) : Decidable (StartsTimer rid r c) :=
  inferInstanceAs (Decidable (_ ∧ _))

/-- Whatever probe started the timer is in mode `enforce` and has not passed since. -/
def TimerKept (rid : RolloutId) : AgentReducer → List ReducerCall → Prop
  | _, [] => True
  | r, c :: later =>
      (StartsTimer rid r c → ∃ f ∈ c.failure? rid, f.mode = .enforce ∧
        NotPassed rid f.probeName later) ∧ TimerKept rid (reducerMachine.step r c).1 later

instance decidableTimerKept (rid : RolloutId) :
    (r : AgentReducer) → DecidablePred (TimerKept rid r)
  | _, [] => isTrue trivial
  | r, c :: later =>
      have := decidableTimerKept rid (reducerMachine.step r c).1 later
      inferInstanceAs (Decidable ((StartsTimer rid r c → ∃ f ∈ c.failure? rid, _) ∧
        TimerKept rid (reducerMachine.step r c).1 later))

/-- A transition keeps the timer, or its event is a failure that starts it. -/
theorem hostStep_timer {s s' : HostRolloutState} {e : Event} {p : RolloutPolicy}
    {effects : List Effect} (h : hostStep s e p = .ok (s', effects)) :
    s'.probeFailureFirstAt = s.probeFailureFirstAt ∨
      s.probeFailureFirstAt = none ∧ e.isVerdict = false ∧
        ∃ f, e.probeFailure? = some f ∧ s'.probeFailureFirstAt = some f.failedAt := by
  unfold hostStep at h
  split at h
  · cases h
  · cases e with
    | localConvergedReached t c n | remoteConverged t c n =>
        cases hs : s.state <;>
          simp only [hs, pendingHandle, activatingHandle, deferredHandle, soakingHandle,
            failedHandle, reduceCtorEq, Except.bind_eq_ok, Except.ok.injEq, Prod.mk.injEq] at h
        obtain ⟨_, -, rfl, -⟩ := h
        exact .inl rfl
    | localProbeFailureFirst name mode t | remoteProbeFailureFirst name mode t =>
        cases hs : s.state <;>
          simp only [hs, pendingHandle, activatingHandle, deferredHandle, soakingHandle,
            failedHandle, reduceCtorEq, Except.ok.injEq, Prod.mk.injEq] at h
        obtain ⟨rfl, -⟩ := h
        cases htimer : s.probeFailureFirstAt with
        | none => exact .inr ⟨rfl, rfl, ⟨name, mode, t⟩, rfl, by simp⟩
        | some first => exact .inl (by simp)
    | _ =>
        cases hs : s.state <;>
          simp only [hs, pendingHandle, activatingHandle, deferredHandle, soakingHandle,
            failedHandle, reduceCtorEq, Except.ok.injEq, Prod.mk.injEq] at h
        all_goals
          obtain ⟨rfl, -⟩ := h
          exact .inl rfl

section Timer

variable {r : AgentReducer} {rid : RolloutId} {t : Time}

theorem timerOf_insert (r : AgentReducer) (rid rid' : RolloutId) (s : HostRolloutState) :
    AgentReducer.timerOf { r with hostStates := r.hostStates.insert rid s } rid' =
      if rid' = rid then s.probeFailureFirstAt else r.timerOf rid' := by
  unfold AgentReducer.timerOf
  rw [Table.lookup_insert_eq]
  by_cases h : rid' = rid
  · rw [if_pos h, if_pos h]
    rfl
  · rw [if_neg h, if_neg h]

/-- The record of a first dispatch has no timer. -/
theorem timerOf_of_recordFor {now : Time} {e : Event} {s : HostRolloutState}
    (h : r.recordFor now rid e = some s) : r.timerOf rid = s.probeFailureFirstAt := by
  unfold AgentReducer.recordFor at h
  unfold AgentReducer.timerOf
  split at h
  · rename_i s' hs'
    cases h
    rw [hs']
    rfl
  · rename_i hnone
    cases h
    rw [hnone]
    rfl
  · cases h

@[simp] theorem probeFailure?_withSeq (e : Event) (n : Nat) :
    (withSeq e n).probeFailure? = e.probeFailure? := by
  cases e with
  | localProbeResult name mode status => cases status <;> rfl
  | _ => rfl

@[simp] theorem isVerdict_withSeq (e : Event) (n : Nat) :
    (withSeq e n).isVerdict = e.isVerdict := by
  cases e <;> rfl

/-- What an event does to the timers. -/
theorem runHostEvent_timer (now : Time) (r : AgentReducer) (rid' : RolloutId) (e : Event)
    (h : (runHostEvent now r rid' e).1.timerOf rid = some t) :
    r.timerOf rid = some t ∨ rid' = rid ∧ r.timerOf rid = none ∧ e.isVerdict = false ∧
      ∃ f, e.probeFailure? = some f ∧ f.failedAt = t := by
  rcases runHostEvent_cases now r rid' e with hdrop | ⟨s, policy, next, effects, htr⟩
  · rw [hdrop] at h
    exact .inl h
  · rw [htr.run] at h
    rw [timerOf_insert] at h
    split at h
    · rename_i heq
      subst heq
      have hold := timerOf_of_recordFor htr.record
      rcases hostStep_timer htr.step with hkept | ⟨hnone, hverdict, f, hf, hstarted⟩
      · exact .inl (hold.trans (hkept.symm.trans h))
      · rw [isVerdict_withSeq] at hverdict
        rw [probeFailure?_withSeq] at hf
        exact .inr ⟨rfl, hold.trans hnone, hverdict, f, hf, Option.some.inj (hstarted.symm.trans h)⟩
    · exact .inl h

/-- **One input.** A timer that runs ran before, or the input is a failure that starts it. -/
theorem step_timer {c : ReducerCall} (h : (reducerMachine.step r c).1.timerOf rid = some t) :
    r.timerOf rid = some t ∨
      StartsTimer rid r c ∧ ∃ f, c.failure? rid = some f ∧ f.failedAt = t := by
  have hsome : (reducerMachine.step r c).1.timerOf rid ≠ none := by
    rw [h]
    exact Option.some_ne_none t
  change (handleInput c.orders c.now r c.input).1.timerOf rid = some t at h
  cases hinput : c.input with
  | hostEvent rid' e =>
      rw [hinput] at h
      rcases runHostEvent_timer c.now r rid' e h with hold | ⟨hrid, hnone, -, f, hf, hat⟩
      · exact .inl hold
      · refine .inr ⟨⟨hnone, hsome⟩, f, ?_, hat⟩
        simp [ReducerCall.failure?, hinput, ReducerInput.eventFor, hrid, hf]
  | agentAdvanceTick =>
      rw [hinput] at h
      -- a tick synthesizes verdicts only, and none of them is a failure of a probe
      refine .inl (runAdvanceTick_induction
        (P := fun acc => ∀ t', acc.1.timerOf rid = some t' → r.timerOf rid = some t')
        (fun _ ht => ht) ?_ t h)
      intro acc rid' e hverdict hacc t' ht'
      rcases runHostEvent_timer c.now acc.1 rid' e ht' with hold | ⟨-, -, hno, -⟩
      · exact hacc t' hold
      · rw [hverdict] at hno
        cases hno
  | manifestSetUpdated set =>
      rw [hinput] at h
      exact .inl h
  | bootstrapHost snapshot =>
      rw [hinput] at h
      simp only [handleInput, applyBootstrapSnapshot, timerOf_insert] at h
      split at h
      · rename_i heq
        rw [heq]
        exact .inl h
      · exact .inl h

/-- A timer that has run for the threshold was started by a failure that lasts. -/
theorem timer_of_history {now : Time} {is : List ReducerCall} (hkept : TimerKept rid r is)
    (h : (reducerMachine.run r is).timerOf rid = some t)
    (hlong : sustainedFailureThresholdSecs ≤ numSeconds (now - t)) :
    r.timerOf rid = some t ∨ FailsSustained rid now is := by
  induction is generalizing r with
  | nil => exact .inl h
  | cons c later ih =>
      rcases ih hkept.2 h with htimer | hfails
      · rcases step_timer htimer with hold | ⟨hstarts, f, hf, hat⟩
        · exact .inl hold
        · obtain ⟨f', hf', hmode, hnotPassed⟩ := hkept.1 hstarts
          have heq : f' = f := Option.some.inj (hf'.symm.trans hf)
          subst heq
          exact .inr (.inl ⟨f', hf', hmode, hat ▸ hlong, hnotPassed⟩)
      · exact .inr (.inr hfails)

end Timer

/-- The verdict of the fail gate needs a timer that has run for the threshold. -/
theorem timer_of_crossed {r : AgentReducer} {orders : AgentOrders} {now : Time} {rid : RolloutId}
    {failedAt : Time} {secs : Nat} {failing : List String} {policy : OnHealthFailure} {seq : Nat}
    (h : (rid, Event.localSustainedFailureCrossed failedAt secs failing policy seq) ∈
      r.advanceEvents orders now) :
    ∃ t, r.timerOf rid = some t ∧ sustainedFailureThresholdSecs ≤ numSeconds (now - t) := by
  obtain ⟨s, hs, hgate | hgate⟩ := mem_advanceEvents.mp h
  · obtain ⟨-, t, htimer, hlong, -, -⟩ := failGate_eq_some hgate
    exact ⟨t, by rw [AgentReducer.timerOf, hs]; exact htimer, hlong⟩
  · obtain ⟨-, -, -, -, -, -, heq⟩ := passGate_eq_some hgate
    cases heq

/-- **When a sustained failure is sustained.** After every run in which the probe that started the
timer is in mode `enforce` and has not passed since, a tick fails the rollout only where a probe in
mode `enforce` has reported nothing but failure for the threshold. -/
theorem crossed_is_sustained {is : List ReducerCall} {orders : AgentOrders} {now : Time}
    {rid : RolloutId} {failedAt : Time} {secs : Nat} {failing : List String}
    {policy : OnHealthFailure} {seq : Nat} (hkept : TimerKept rid .fresh is)
    (hcrossed : (rid, Event.localSustainedFailureCrossed failedAt secs failing policy seq) ∈
      (reducerMachine.run .fresh is).advanceEvents orders now) :
    FailsSustained rid now is := by
  obtain ⟨t, htimer, hlong⟩ := timer_of_crossed hcrossed
  rcases timer_of_history hkept htimer hlong with hfresh | hfails
  · cases hfresh
  · exact hfails

/-! ## A timer that outlives a pass -/

/-- The soak of `new` on a host of the channel `stable`, and what its probe `http` reports, second
by second. -/
def soakingCalls (reports : List (Int × Event)) : List ReducerCall :=
  let call (now : Time) (e : Event) : ReducerCall :=
    ⟨⟨fun _ => 0, fun _ => 0⟩, now, .hostEvent (.new "stable" "r1") e⟩
  startedCalls ++ call 0 (.localActivationCompleted "new" 0 0 0) ::
    reports.map fun report => call (report.1 * 1000000000) report.2

/-- The reports of a probe that fails at a time: the first failure and the result. -/
def failureReports (secs : Int) (mode : ProbeMode) : List (Int × Event) :=
  let observedAt := secs * 1000000000
  [(secs, .localProbeFailureFirst "http" mode observedAt 0),
   (secs, .localProbeResult "http" mode .fail observedAt none none 0)]

/-- A result of the probe that passes. -/
def passReport (secs : Int) : Int × Event :=
  (secs, .localProbeResult "http" .enforce .pass (secs * 1000000000) none none 0)

/-- What a tick synthesizes on the rollout after these reports. -/
def tickAt (secs : Int) (reports : List (Int × Event)) : List (RolloutId × Event) :=
  (reducerMachine.run .fresh (soakingCalls reports)).advanceEvents ⟨fun _ => 0, fun _ => 0⟩
    (secs * 1000000000)

set_option maxRecDepth 8000 in
/-- A probe that fails for two minutes. -/
theorem failing_probe_is_sustained : FailsSustained (.new "stable" "r1") (120 * 1000000000)
    (soakingCalls (failureReports 0 .enforce)) := by
  have hcrossed : (RolloutId.new "stable" "r1", Event.localSustainedFailureCrossed
      (120 * 1000000000) 120 ["http"] .rollbackAndHalt 0) ∈
        tickAt 120 (failureReports 0 .enforce) := by decide
  exact crossed_is_sustained (by decide) hcrossed

set_option maxRecDepth 8000 in
/-- A probe that fails, passes and has failed again for ten seconds. -/
theorem recovered_probe_not_sustained :
    (RolloutId.new "stable" "r1", Event.localSustainedFailureCrossed (120 * 1000000000) 120
        ["http"] .rollbackAndHalt 0) ∈
      tickAt 120 (failureReports 0 .enforce ++ passReport 60 :: failureReports 110 .enforce) ∧
    ¬ FailsSustained (.new "stable" "r1") (120 * 1000000000)
      (soakingCalls
        (failureReports 0 .enforce ++ passReport 60 :: failureReports 110 .enforce)) := by
  constructor <;> decide

end Nixfleet
