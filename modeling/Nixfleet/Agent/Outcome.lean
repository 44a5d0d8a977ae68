import Nixfleet.Agent.Rollback

set_option autoImplicit false

/-!
# What becomes of an activation's outcome

The activation worker posts an event when it takes an intent and one when its pipeline ends;
inputs of other tasks come in between. A rollout has at most one intent on its way at a time,
and its record waits for it in `Activating` or in `Failed` (`Pipeline`). The two outcomes that
the waiting record refuses are a deferred switch, whose event is not numbered, and a rollback
that fails, whose event `Failed` does not accept. All others are accepted
(`outcomes_accepted`).
-/

namespace Nixfleet

/-! ## The worker between its two events -/

/-- What the worker posts when it takes an intent; for a rollback nothing. -/
def startedEvents (now : Time) (intent : ActivationIntent) : List Event :=
  if intent.rollback then [] else [.localActivationStarted now "switch-to-configuration" 0]

/-- The pipeline of an intent: the event that reports its outcome, and the system it leaves. -/
def runPipeline (nix : NixEnv) (now : Time) (sys : System) (intent : ActivationIntent)
    (run : WorkerRun) : Event × System :=
  if intent.rollback then
    let out := rollbackWith sys run.rollback
    (rollbackEvent now out.1, out.2)
  else
    let out := activateWith nix sys intent.targetClosure run.activation
    (activationEvent intent.targetClosure now out.1, out.2)

/-- An agent, and the intent that its activation worker is handling. -/
structure WorkingAgent where
  agent : AgentState
  handling : Option ActivationIntent

inductive WorkingInput where
  | post (input : ReducerInput)
  | dispatch (d : DispatchResponse)
  | reduce (orders : AgentOrders) (now : Time)
  | system (sys : System)
  /-- The activation worker takes its next intent. -/
  | take (now : Time)
  /-- Its pipeline ends. -/
  | finish (now : Time) (run : WorkerRun)

/-- An agent that has just started. -/
def WorkingAgent.started (sys : System) : WorkingAgent := ⟨.started sys, none⟩

/-- A step of the agent in which `handle_intent` is two steps. -/
def workingStep (nix : NixEnv) (s : WorkingAgent) :
    WorkingInput → WorkingAgent × List RollbackReport
  | .post input => ({ s with agent := (agentStep nix s.agent (.post input)).1 }, [])
  | .dispatch d => ({ s with agent := (agentStep nix s.agent (.dispatch d)).1 }, [])
  | .reduce orders now => ({ s with agent := (agentStep nix s.agent (.reduce orders now)).1 }, [])
  | .system sys => ({ s with agent := (agentStep nix s.agent (.system sys)).1 }, [])
  | .take now =>
      match s.handling, s.agent.intents with
      | none, intent :: rest =>
          (⟨{ s.agent with
                intents := rest
                inbox := s.agent.inbox ++
                  (startedEvents now intent).map (.hostEvent intent.rolloutId) }, some intent⟩, [])
      | _, _ => (s, [])
  | .finish now run =>
      match s.handling with
      | none => (s, [])
      | some intent =>
          let out := runPipeline nix now s.agent.sys intent run
          (⟨{ s.agent with
                sys := out.2
                inbox := s.agent.inbox ++ [.hostEvent intent.rolloutId out.1] }, none⟩,
            if intent.rollback then [(intent, (rollbackWith s.agent.sys run.rollback).1)] else [])

def workingMachine (nix : NixEnv) : Machine WorkingAgent WorkingInput RollbackReport :=
  ⟨workingStep nix⟩

section Worker

variable {nix : NixEnv} {now : Time} {run : WorkerRun}

/-- The events of `handle_intent` are those of its two steps. -/
theorem handleIntent_eq (sys : System) (intent : ActivationIntent) :
    handleIntent nix now sys intent run =
      (startedEvents now intent ++ [(runPipeline nix now sys intent run).1],
        (runPipeline nix now sys intent run).2) := by
  unfold handleIntent startedEvents runPipeline
  by_cases hroll : intent.rollback = true
  · simp [hroll]
  · simp [hroll]

/-- A step of `agentMachine`, with nothing between the events of an intent. -/
def AgentInput.steps : AgentInput → List WorkingInput
  | .post input => [.post input]
  | .dispatch d => [.dispatch d]
  | .reduce orders now => [.reduce orders now]
  | .system sys => [.system sys]
  | .work now run => [.take now, .finish now run]

/-- The runs of `agentMachine` are among those of `workingMachine`. -/
theorem run_steps (a : AgentState) (is : List AgentInput) :
    (workingMachine nix).run ⟨a, none⟩ (is.flatMap AgentInput.steps) =
      ⟨(agentMachine nix).run a is, none⟩ := by
  induction is generalizing a with
  | nil => rfl
  | cons i is ih =>
      have hstep : (workingMachine nix).run ⟨a, none⟩ i.steps = ⟨(agentStep nix a i).1, none⟩ := by
        cases i with
        | work now run =>
            show (workingStep nix (workingStep nix ⟨a, none⟩ (.take now)).1 (.finish now run)).1 = _
            cases hintents : a.intents with
            | nil => simp [workingStep, agentStep, hintents]
            | cons intent rest => simp [workingStep, agentStep, hintents, handleIntent_eq]
        | _ => rfl
      rw [List.flatMap_cons, Machine.run_append, hstep]
      exact ih _

end Worker

/-! ## The way of an intent -/

/-- An event that only the activation worker posts. -/
def Event.isReport : Event → Bool
  | .localActivationStarted .. | .localActivationCompleted .. | .localActivationDeferred ..
  | .localActivationFailed .. | .localRollbackCompleted .. => true
  | _ => false

/-- The outcome of a switch that takes place at once, or of one that fails. -/
def Event.endsSwitch : Event → Bool
  | .localActivationCompleted .. | .localActivationFailed .. => true
  | _ => false

/-- What is on its way for a rollout: whether each waiting intent is a rollback, whether the one
that is being handled is, the reports that wait, and the state of the record. -/
inductive Pipeline : List Bool → Option Bool → List Event → Option HostState → Prop
  | idle (state : Option HostState) : Pipeline [] none [] state
  | switching : Pipeline [false] none [] (some .activating)
  | begun (startedAt : Time) (method : String) (seq : Nat) :
      Pipeline [] (some false) [.localActivationStarted startedAt method seq] (some .activating)
  | underway : Pipeline [] (some false) [] (some .activating)
  | switched (startedAt : Time) (method : String) (seq : Nat) (outcome : Event)
      (h : outcome.endsSwitch = true) :
      Pipeline [] none [.localActivationStarted startedAt method seq, outcome] (some .activating)
  | reporting (outcome : Event) (h : outcome.endsSwitch = true) :
      Pipeline [] none [outcome] (some .activating)
  | rolling : Pipeline [true] none [] (some .failed)
  | rollingBack : Pipeline [] (some true) [] (some .failed)
  | rolledBack (revertedTo : ClosureHash) (exitCode : Int) (completedAt : Time) (seq : Nat) :
      Pipeline [] none [.localRollbackCompleted revertedTo exitCode completedAt seq] (some .failed)

section Pipeline

variable {waiting : List Bool} {handled : Option Bool} {reports : List Event}
  {s next : HostRolloutState} {e : Event} {policy : RolloutPolicy} {effects : List Effect}

/-- Whether each intent of a transition is a rollback. -/
def rollbackFlags (effects : List Effect) : List Bool :=
  (effects.filterMap Effect.intent?).map (·.rollback)

theorem hostStep_activating (hs : s.state = .activating) (h : s.lastEventSeq < e.seq) :
    hostStep s e policy = activatingHandle s e policy := by
  unfold hostStep
  rw [if_neg (by omega), hs]

theorem hostStep_failed (hs : s.state = .failed) (h : s.lastEventSeq < e.seq) :
    hostStep s e policy = failedHandle s e policy := by
  unfold hostStep
  rw [if_neg (by omega), hs]

/-- An outcome ends the switch: the record soaks, or it fails and may be rolled back. -/
theorem endsSwitch_accepted (hs : s.state = .activating) (he : e.endsSwitch = true)
    (policy : RolloutPolicy) : ∃ next effects,
      hostStep s (withSeq e (s.lastEventSeq + 1)) policy = .ok (next, effects) ∧
        Pipeline (rollbackFlags effects) none [] (some next.state) := by
  have hlt : s.lastEventSeq < s.lastEventSeq + 1 := by omega
  cases e with
  | localActivationCompleted observed exitCode completedAt n =>
      refine ⟨_, _, Eq.trans (hostStep_activating hs hlt) rfl, ?_⟩
      simpa [rollbackFlags, List.filterMap_cons] using Pipeline.idle _
  | localActivationFailed exitCode stderrTail failedAt n =>
      refine ⟨_, _, Eq.trans (hostStep_activating hs hlt) rfl, ?_⟩
      have hflags : Pipeline ((s.rollbackOf policy.onHealthFailure).map fun _ => true) none []
          (some .failed) := by
        unfold HostRolloutState.rollbackOf
        split
        · cases s.currentClosureAtDispatch with
          | none => exact .idle _
          | some prior => exact .rolling
        · exact .idle _
      simpa [rollbackFlags, List.filterMap_cons, Function.comp_def] using hflags
  | _ => cases he

/-- **The next report is accepted**, and the rollout moves on. -/
theorem Pipeline.report (h : Pipeline waiting handled (e :: reports) (some s.state))
    (policy : RolloutPolicy) : ∃ next effects,
      hostStep s (withSeq e (s.lastEventSeq + 1)) policy = .ok (next, effects) ∧
        Pipeline (waiting ++ rollbackFlags effects) handled reports (some next.state) := by
  have hlt : s.lastEventSeq < s.lastEventSeq + 1 := by omega
  generalize hstate : s.state = state at h
  cases h with
  | begun startedAt method n =>
      refine ⟨_, _, Eq.trans (hostStep_activating hstate hlt) rfl, ?_⟩
      simpa [rollbackFlags, List.filterMap_cons, hstate] using Pipeline.underway
  | switched startedAt method n outcome houtcome =>
      refine ⟨_, _, Eq.trans (hostStep_activating hstate hlt) rfl, ?_⟩
      simpa [rollbackFlags, List.filterMap_cons, hstate] using Pipeline.reporting outcome houtcome
  | reporting _ houtcome => exact endsSwitch_accepted hstate houtcome policy
  | rolledBack revertedTo exitCode completedAt n =>
      refine ⟨_, _, Eq.trans (hostStep_failed hstate hlt) rfl, ?_⟩
      simpa [rollbackFlags, List.filterMap_cons] using Pipeline.idle _

theorem Pipeline.state_of_report {state : Option HostState}
    (h : Pipeline waiting handled (e :: reports) state) : state ≠ none := by
  cases h <;> exact Option.some_ne_none _

/-- The worker takes the intent that waits. -/
theorem Pipeline.take {flag : Bool} {flags : List Bool} {state : Option HostState}
    (h : Pipeline (flag :: flags) none reports state) (startedAt : Time) (method : String) :
    Pipeline flags (some flag)
      (reports ++ if flag then [] else [.localActivationStarted startedAt method 0]) state := by
  cases h with
  | switching => exact .begun startedAt method 0
  | rolling => exact .rollingBack

/-- The pipeline of the intent ends. -/
theorem Pipeline.finish {flag : Bool} {state : Option HostState} {outcome : Event}
    (h : Pipeline waiting (some flag) reports state)
    (houtcome : if flag then
        ∃ revertedTo exitCode completedAt seq,
          outcome = .localRollbackCompleted revertedTo exitCode completedAt seq
      else outcome.endsSwitch = true) :
    Pipeline waiting none (reports ++ [outcome]) state := by
  cases h with
  | begun startedAt method n => exact .switched startedAt method n outcome houtcome
  | underway => exact .reporting outcome houtcome
  | rollingBack =>
      obtain ⟨revertedTo, exitCode, completedAt, n, rfl⟩ := houtcome
      exact .rolledBack revertedTo exitCode completedAt n

/-- Nothing is on its way for a record that waits for nothing. -/
theorem Pipeline.of_not_waiting {state : Option HostState}
    (h : Pipeline waiting handled reports state) (hactivating : state ≠ some .activating)
    (hfailed : state ≠ some .failed) : waiting = [] ∧ handled = none ∧ reports = [] := by
  cases h with
  | idle => exact ⟨rfl, rfl, rfl⟩
  | switching | begun | underway | switched | reporting => exact absurd rfl hactivating
  | rolling | rollingBack | rolledBack => exact absurd rfl hfailed

/-- An event of another task is refused while the record waits. -/
theorem hostStep_not_waiting (h : hostStep s e policy = .ok (next, effects))
    (hlocal : e.isLocal = true) (hreport : e.isReport = false) :
    s.state = .pending ∨ s.state = .soaking := by
  have hafter := hostStep_after h
  generalize s.state = src at hafter
  generalize next.state = dst at hafter
  unfold HostState.after at hafter
  split at hafter <;> cases hafter
  -- the local arrows out of the other states are the worker's reports
  all_goals first
    | exact .inl rfl
    | exact .inr rfl
    | (cases hlocal; done)
    | cases hreport

/-- What an event of another task puts on its way. -/
theorem Decision.pipeline {rid : RolloutId} {src dst : HostState} {intents : List ActivationIntent}
    (h : Decision rid src dst intents) :
    Pipeline (intents.map (·.rollback)) Option.none [] (some dst) := by
  cases h with
  | none => exact .idle _
  | switch => exact .switching
  | rollback => exact .rolling

end Pipeline

/-! ## The channels of the agent -/

/-- The report for a rollout that an input is, if it is one. -/
def ReducerInput.reportFor (rid : RolloutId) : ReducerInput → Option Event
  | .hostEvent rid' e => if rid' = rid ∧ e.isReport = true then some e else none
  | _ => none

/-- The flags of the intents for a rollout. -/
def flagsFor (rid : RolloutId) (intents : List ActivationIntent) : List Bool :=
  (intents.filter (·.rolloutId = rid)).map (·.rollback)

/-- The flag of the intent that is being handled, if it is for a rollout. -/
def flagFor (rid : RolloutId) (handling : Option ActivationIntent) : Option Bool :=
  handling.bind fun intent => if intent.rolloutId = rid then some intent.rollback else none

/-- An input of a task of the agent; no snapshot is among them. -/
def ReducerInput.FromTask : ReducerInput → Prop
  | .hostEvent _ e => e.isLocal = true
  | .bootstrapHost _ => False
  | _ => True

/-- What the two channels and the worker hold agrees with the records. -/
structure Tracked (r : AgentReducer) (intents : List ActivationIntent)
    (handling : Option ActivationIntent) (inbox : List ReducerInput) : Prop where
  keyed : r.Keyed
  tasks : ∀ input ∈ inbox, input.FromTask
  pipeline : ∀ rid, Pipeline (flagsFor rid intents) (flagFor rid handling)
    (inbox.filterMap (·.reportFor rid)) ((r.hostStates.lookup rid).map (·.state))

section Channels

variable {r : AgentReducer} {intents : List ActivationIntent}
  {handling : Option ActivationIntent} {inbox rest : List ReducerInput} {now : Time}
  {rid : RolloutId} {e : Event} {s next : HostRolloutState} {policy : RolloutPolicy}
  {effects : List Effect}

@[simp] theorem flagsFor_append (rid : RolloutId) (intents intents' : List ActivationIntent) :
    flagsFor rid (intents ++ intents') = flagsFor rid intents ++ flagsFor rid intents' := by
  simp [flagsFor]

/-- The intents of a transition are for its own rollout. -/
theorem Decision.flagsFor {src dst : HostState} {new : List ActivationIntent}
    (h : Decision rid src dst new) (rid' : RolloutId) :
    flagsFor rid' new = if rid = rid' then new.map (·.rollback) else [] := by
  cases h with
  | none => simp [Nixfleet.flagsFor]
  | switch | rollback =>
      by_cases heq : rid = rid'
      · simp [Nixfleet.flagsFor, heq]
      · simp [Nixfleet.flagsFor, heq]

/-- A transition moves its own rollout only. -/
theorem Tracked.transition (h : Tracked r intents handling inbox)
    (ht : Transition now r rid e s policy next effects) (hrest : ∀ input ∈ rest, input ∈ inbox)
    (hothers : ∀ rid', rid ≠ rid' →
      rest.filterMap (·.reportFor rid') = inbox.filterMap (·.reportFor rid'))
    (hown : Pipeline (flagsFor rid intents ++ rollbackFlags effects) (flagFor rid handling)
      (rest.filterMap (·.reportFor rid)) (some next.state)) :
    Tracked (runHostEvent now r rid e).1
      (intents ++ (runHostEvent now r rid e).2.filterMap Effect.intent?) handling rest := by
  have hrid := ht.rolloutId h.keyed
  have hdecision := hrid ▸ hostStep_intents ht.step
  rw [ht.run]
  refine ⟨h.keyed.insert ((hostStep_spec ht.step).same.rolloutId.trans hrid),
    fun input hin => h.tasks input (hrest input hin), fun rid' => ?_⟩
  rw [flagsFor_append, hdecision.flagsFor, Table.lookup_insert_eq]
  by_cases heq : rid = rid'
  · subst heq
    rw [if_pos rfl, if_pos rfl]
    exact hown
  · rw [if_neg heq, if_neg (Ne.symm heq), List.append_nil, hothers rid' heq]
    exact h.pipeline rid'

@[simp] theorem isReport_withSeq (e : Event) (n : Nat) :
    (withSeq e n).isReport = e.isReport := by
  cases e <;> rfl

/-- An event of another task finds nothing on its way for its rollout. -/
theorem Tracked.event (h : Tracked r intents handling inbox) (now : Time) (rid : RolloutId)
    (hlocal : e.isLocal = true) (hreport : e.isReport = false) :
    Tracked (runHostEvent now r rid e).1
      (intents ++ (runHostEvent now r rid e).2.filterMap Effect.intent?) handling inbox := by
  rcases runHostEvent_cases now r rid e with hdrop | ⟨s, policy, next, effects, ht⟩
  · rw [hdrop]
    simpa using h
  · refine h.transition ht (fun _ hin => hin) (fun _ _ => rfl) ?_
    have hstate := hostStep_not_waiting ht.step (by simpa using hlocal) (by simpa using hreport)
    have hne : ∀ state, (state = .activating ∨ state = .failed) →
        (r.hostStates.lookup rid).map (·.state) ≠ some state := by
      intro state hwaits heq
      rcases recordFor_eq_some ht.record with hold | ⟨hnone, -⟩
      · rw [hold] at heq
        have hs : s.state = state := Option.some.inj heq
        rcases hstate with hp | hp <;> rcases hwaits with rfl | rfl <;> simp [hp] at hs
      · rw [hnone] at heq
        cases heq
    obtain ⟨hwaiting, hhandled, hreports⟩ :=
      (h.pipeline rid).of_not_waiting (hne _ (.inl rfl)) (hne _ (.inr rfl))
    rw [hwaiting, hhandled, hreports, List.nil_append]
    exact (hostStep_intents ht.step).pipeline

/-- A tick synthesizes events of its own. -/
theorem Tracked.tick (h : Tracked r intents handling inbox) (orders : AgentOrders) (now : Time) :
    Tracked (runAdvanceTick orders now r).1
      (intents ++ (runAdvanceTick orders now r).2.filterMap Effect.intent?) handling inbox := by
  refine runAdvanceTick_induction (P := fun acc =>
    Tracked acc.1 (intents ++ acc.2.filterMap Effect.intent?) handling inbox) ?_ ?_
  · simpa using h
  · intro acc rid e he hacc
    have hkind : e.isLocal = true ∧ e.isReport = false := by
      cases e <;> first | exact ⟨rfl, rfl⟩ | cases he
    have hevent := hacc.event now rid hkind.1 hkind.2
    rwa [List.append_assoc, ← List.filterMap_append] at hevent

/-- Every record's rollout has its policy cached. -/
def PolicyCached (r : AgentReducer) : Prop :=
  ∀ entry ∈ r.hostStates.rows, (r.resolvePolicy entry.2.channel).isSome = true

/-- A report makes a transition of its record. -/
theorem Tracked.report (h : Tracked r intents handling (.hostEvent rid e :: rest))
    (hreport : e.isReport = true) (hpolicy : PolicyCached r) (now : Time) :
    ∃ s policy next effects, Transition now r rid e s policy next effects ∧
      Tracked (runHostEvent now r rid e).1
        (intents ++ (runHostEvent now r rid e).2.filterMap Effect.intent?) handling rest := by
  have hown := h.pipeline rid
  have hhead : (ReducerInput.hostEvent rid e).reportFor rid = some e := by
    simp [ReducerInput.reportFor, hreport]
  rw [List.filterMap_cons_some hhead] at hown
  -- a report on its way means that its rollout has a record
  cases hs : r.hostStates.lookup rid with
  | none =>
      rw [hs] at hown
      exact absurd rfl hown.state_of_report
  | some s =>
      have hcached := hpolicy (rid, s) (Table.mem_rows.mpr hs)
      obtain ⟨policy, hpol⟩ := Option.isSome_iff_exists.mp hcached
      rw [hs] at hown
      obtain ⟨next, effects, hstep, hnext⟩ := hown.report policy
      have hrecord : r.recordFor now rid e = some s := by
        unfold AgentReducer.recordFor
        rw [hs]
      have ht : Transition now r rid e s policy next effects :=
        ⟨hrecord, hpol, hstep, by simp only [runHostEvent, hrecord, hpol, hstep]⟩
      refine ⟨s, policy, next, effects, ht, h.transition ht (fun _ => List.mem_cons_of_mem _) ?_
        hnext⟩
      -- the reports of the other rollouts stay where they are
      intro rid' hne
      have hother : (ReducerInput.hostEvent rid e).reportFor rid' = none := by
        simp [ReducerInput.reportFor, hne]
      rw [List.filterMap_cons_none hother]

end Channels

/-! ## One step -/

/-- An event of the probe worker. -/
def Event.isProbe : Event → Bool
  | .localProbeTopologyDeclared .. | .localProbeObservedFirst .. | .localProbeResult ..
  | .localProbeFailureFirst .. => true
  | _ => false

/-- The probe, ticker and manifest workers post what they post; nothing posts a snapshot. -/
def PostsOwn : WorkingInput → Prop
  | .post (.hostEvent _ e) => e.isProbe = true
  | .post (.bootstrapHost _) => False
  | _ => True

/-- A switch stages the closure for the next boot only. -/
def ActivationRun.Defers (run : ActivationRun) (sys : System) (target : ClosureHash) : Prop :=
  run.SetsProfile target ∧ sys.running.isSome = true ∧ run.inhibitor.isSome = true ∧
    run.boot.success = true

/-- The pipeline that ends is no switch that defers and no rollback that fails. -/
def OutcomeLegal (s : WorkingAgent) : WorkingInput → Prop
  | .finish _ run => ∀ intent ∈ s.handling,
      if intent.rollback then
        ∃ below ∈ s.agent.sys.profile.older.head?, run.rollback.Completes below
      else ¬ run.activation.Defers s.agent.sys intent.targetClosure
  | _ => True

/-- A report that the reducer reads is accepted, and an event about it goes out. -/
def ReportAccepted (s : WorkingAgent) : WorkingInput → Prop
  | .reduce _ now => ∀ rid e, s.agent.inbox.head? = some (.hostEvent rid e) → e.isReport = true →
      ∃ record policy next effects,
        Transition now s.agent.reducer rid e record policy next effects ∧
        ∃ payload, (withSeq e (record.lastEventSeq + 1)).payload? = some payload ∧
          (rid, payload) ∈ effects.filterMap Effect.emitted?
  | _ => True

section Step

variable {nix : NixEnv} {sys : System}

/-- When a switch ends deferred. -/
theorem defers_of_fireSwitch {run : ActivationRun} {component : String}
    (h : fireSwitch run = .ok (some (.deferredPendingReboot component))) :
    run.inhibitor.isSome = true ∧ run.boot.success = true := by
  unfold fireSwitch at h
  cases hinhibitor : run.inhibitor with
  | none =>
      simp only [hinhibitor] at h
      split at h
      · cases h
      · split at h <;> cases h
  | some other =>
      simp only [hinhibitor] at h
      split at h
      · cases h
      · split at h
        · cases h
        · rename_i hboot
          exact ⟨rfl, by simpa using hboot⟩

theorem defers_of_outcome {target : ClosureHash} {run : ActivationRun} {component : String}
    (h : (activateWith nix sys target run).1 = .ok (.deferredPendingReboot component)) :
    run.Defers sys target := by
  by_cases hset : run.SetsProfile target
  · rw [activateWith_of_sets hset] at h
    unfold switchAndPoll at h
    cases hrunning : sys.running with
    | none => simp [hrunning] at h
    | some previous =>
        simp only [hrunning] at h
        -- the poll after the switch knows no deferral, so it is the switch that deferred
        cases hfire : fireSwitch run with
        | error err => simp [hfire] at h
        | ok fired =>
            cases fired with
            | some outcome =>
                simp only [hfire, Except.ok.injEq] at h
                subst h
                exact ⟨hset, by rw [hrunning]; rfl, defers_of_fireSwitch hfire⟩
            | none =>
                simp only [hfire] at h
                split at h <;> cases h
  · exact absurd h ((activateWith_of_not_sets nix sys hset).2 component)

/-- A switch that does not defer is over when its pipeline ends. -/
theorem activationEvent_endsSwitch (nix : NixEnv) (now : Time) {target : ClosureHash}
    {run : ActivationRun} (h : ¬ run.Defers sys target) :
    (activationEvent target now (activateWith nix sys target run).1).endsSwitch = true := by
  cases hout : (activateWith nix sys target run).1 with
  | error err => rfl
  | ok outcome =>
      cases outcome with
      | deferredPendingReboot component => exact absurd (defers_of_outcome hout) h
      | _ => rfl

/-- The event that a pipeline posts, when the pipeline is one whose outcome is accepted. -/
theorem runPipeline_outcome (nix : NixEnv) (now : Time) {intent : ActivationIntent}
    {run : WorkerRun} (h : if intent.rollback then
        ∃ below ∈ sys.profile.older.head?, run.rollback.Completes below
      else ¬ run.activation.Defers sys intent.targetClosure) :
    if intent.rollback then
      ∃ revertedTo exitCode completedAt seq, (runPipeline nix now sys intent run).1 =
        .localRollbackCompleted revertedTo exitCode completedAt seq
    else (runPipeline nix now sys intent run).1.endsSwitch = true := by
  by_cases hroll : intent.rollback = true
  · rw [if_pos hroll] at h
    obtain ⟨below, hbelow, hruns⟩ := h
    have hout := (rollbackWith_eq_firedAndPolled sys run.rollback below).mpr ⟨hbelow, hruns⟩
    rw [if_pos hroll]
    exact ⟨below, 0, now, 0, by simp [runPipeline, hroll, hout, rollbackEvent]⟩
  · rw [if_neg hroll] at h
    rw [if_neg hroll]
    have hswitch := activationEvent_endsSwitch nix now h
    simpa [runPipeline, hroll] using hswitch

theorem reports_map {events : List Event} (h : ∀ e ∈ events, e.isReport = true)
    (rid rid' : RolloutId) :
    (events.map (ReducerInput.hostEvent rid)).filterMap (·.reportFor rid') =
      if rid = rid' then events else [] := by
  induction events with
  | nil => simp
  | cons e events ih =>
      have hrest := ih fun e' he' => h e' (List.mem_cons_of_mem _ he')
      have he := h e List.mem_cons_self
      by_cases heq : rid = rid'
      · rw [if_pos heq] at hrest ⊢
        rw [List.map_cons, List.filterMap_cons_some (b := e), hrest]
        simp [ReducerInput.reportFor, heq, he]
      · rw [if_neg heq] at hrest ⊢
        rw [List.map_cons, List.filterMap_cons_none, hrest]
        simp [ReducerInput.reportFor, heq]

theorem Tracked.append_inbox {r : AgentReducer} {intents : List ActivationIntent}
    {handling : Option ActivationIntent} {inbox : List ReducerInput} {input : ReducerInput}
    (h : Tracked r intents handling inbox) (htask : input.FromTask)
    (hreport : ∀ rid, input.reportFor rid = none) :
    Tracked r intents handling (inbox ++ [input]) := by
  refine ⟨h.keyed, ?_, fun rid => ?_⟩
  · intro other hother
    rcases List.mem_append.mp hother with hold | hnew
    · exact h.tasks other hold
    · rw [List.mem_singleton.mp hnew]
      exact htask
  · rw [List.filterMap_append, List.filterMap_cons_none (hreport rid), List.filterMap_nil,
      List.append_nil]
    exact h.pipeline rid

/-- What holds of an agent at every moment of a run. -/
def WorkingAgent.Tracked (s : WorkingAgent) : Prop :=
  Nixfleet.Tracked s.agent.reducer s.agent.intents s.handling s.agent.inbox

theorem take_tracked {s : WorkingAgent} (h : s.Tracked) (now : Time) :
    (workingStep nix s (.take now)).1.Tracked := by
  simp only [workingStep]
  split
  · rename_i intent rest hhandling hintents
    refine ⟨h.keyed, ?_, fun rid => ?_⟩
    · intro input hin
      rcases List.mem_append.mp hin with hold | hnew
      · exact h.tasks input hold
      · obtain ⟨e, he, rfl⟩ := List.mem_map.mp hnew
        unfold startedEvents at he
        split at he
        · cases he
        · rw [List.mem_singleton.mp he]
          rfl
    · have hpipe := h.pipeline rid
      have hreports : ∀ e ∈ startedEvents now intent, e.isReport = true := by
        unfold startedEvents
        split <;> simp [Event.isReport]
      rw [List.filterMap_append, reports_map hreports]
      -- of its own rollout, the intent goes from the queue to the worker
      by_cases hrid : intent.rolloutId = rid
      · rw [hintents, hhandling] at hpipe
        rw [if_pos hrid]
        simp only [flagsFor, List.filter_cons, hrid, decide_true, if_true, List.map_cons] at hpipe
        have htake := hpipe.take now "switch-to-configuration"
        simpa [flagsFor, flagFor, startedEvents, hrid] using htake
      · rw [hintents, hhandling] at hpipe
        rw [if_neg hrid, List.append_nil]
        simpa [flagsFor, flagFor, hrid] using hpipe
  · exact h

theorem finish_tracked {s : WorkingAgent} (h : s.Tracked) {now : Time} {run : WorkerRun}
    (hlegal : OutcomeLegal s (.finish now run)) :
    (workingStep nix s (.finish now run)).1.Tracked := by
  simp only [workingStep]
  cases hhandling : s.handling with
  | none => exact h
  | some intent =>
      have houtcome := runPipeline_outcome nix now
        (hlegal intent (by rw [hhandling]; rfl))
      have hkind : (runPipeline nix now s.agent.sys intent run).1.isLocal = true ∧
          (runPipeline nix now s.agent.sys intent run).1.isReport = true := by
        split at houtcome
        · obtain ⟨revertedTo, exitCode, completedAt, n, heq⟩ := houtcome
          rw [heq]
          exact ⟨rfl, rfl⟩
        · cases he : (runPipeline nix now s.agent.sys intent run).1 <;> rw [he] at houtcome <;>
            first | exact ⟨rfl, rfl⟩ | cases houtcome
      refine ⟨h.keyed, ?_, fun rid => ?_⟩
      · intro input hin
        rcases List.mem_append.mp hin with hold | hnew
        · exact h.tasks input hold
        · rw [List.mem_singleton.mp hnew]
          exact hkind.1
      · have hpipe := h.pipeline rid
        have hreport : ∀ e ∈ [(runPipeline nix now s.agent.sys intent run).1],
            e.isReport = true := by simpa using hkind.2
        have hposted := reports_map hreport intent.rolloutId rid
        rw [List.map_singleton] at hposted
        rw [List.filterMap_append, hposted]
        -- the worker's intent becomes the report of its outcome
        by_cases hrid : intent.rolloutId = rid
        · rw [if_pos hrid]
          rw [hhandling] at hpipe
          simp only [flagFor, Option.bind_some, hrid, if_true] at hpipe
          exact hpipe.finish houtcome
        · rw [if_neg hrid, List.append_nil]
          simpa [flagFor, hhandling, hrid] using hpipe

/-- The reducer reads its next input. -/
theorem reduce_tracked {s : WorkingAgent} (h : s.Tracked) (hpolicy : PolicyCached s.agent.reducer)
    (orders : AgentOrders) (now : Time) :
    (workingStep nix s (.reduce orders now)).1.Tracked := by
  simp only [workingStep, agentStep]
  cases hinbox : s.agent.inbox with
  | nil => exact h
  | cons input rest =>
      have hs : Nixfleet.Tracked s.agent.reducer s.agent.intents s.handling (input :: rest) :=
        hinbox ▸ h
      by_cases hreport : ∃ rid e, input = .hostEvent rid e ∧ e.isReport = true
      · obtain ⟨rid, e, rfl, he⟩ := hreport
        -- a report is taken off the pipeline of its rollout
        obtain ⟨record, policy, next, effects, -, hnext⟩ := hs.report he hpolicy now
        exact hnext
      · have hrest : Nixfleet.Tracked s.agent.reducer s.agent.intents s.handling rest := by
          refine ⟨hs.keyed, fun other hin => hs.tasks other (List.mem_cons_of_mem _ hin),
            fun rid => ?_⟩
          have hnone : input.reportFor rid = none := by
            cases input with
            | hostEvent rid' e =>
                have he : e.isReport ≠ true := fun he => hreport ⟨rid', e, rfl, he⟩
                simp [ReducerInput.reportFor, he]
            | _ => rfl
          have hpipe := hs.pipeline rid
          rwa [List.filterMap_cons_none hnone] at hpipe
        -- every other input leaves the reports on their way
        have htask := hs.tasks input List.mem_cons_self
        cases input with
        | hostEvent rid e =>
            have he : e.isReport = false := by
              by_contra hne
              exact hreport ⟨rid, e, rfl, by simpa using hne⟩
            exact hrest.event now rid htask he
        | agentAdvanceTick => exact hrest.tick orders now
        | manifestSetUpdated set =>
            have hkept :
                Nixfleet.Tracked s.agent.reducer (s.agent.intents ++ []) s.handling rest := by
              rw [List.append_nil]
              exact hrest
            exact ⟨hkept.keyed, hkept.tasks, hkept.pipeline⟩
        | bootstrapHost snapshot => exact absurd htask id

theorem workingStep_tracked {s : WorkingAgent} {i : WorkingInput} (h : s.Tracked)
    (hposts : PostsOwn i) (hpolicy : PolicyCached s.agent.reducer) (hlegal : OutcomeLegal s i) :
    (workingStep nix s i).1.Tracked := by
  cases i with
  | post input =>
      cases input with
      | hostEvent rid e =>
          have hprobe : e.isLocal = true ∧ e.isReport = false := by
            cases e <;> first | exact ⟨rfl, rfl⟩ | cases hposts
          exact h.append_inbox hprobe.1 fun rid' => by
            simp [ReducerInput.reportFor, hprobe.2]
      | agentAdvanceTick | manifestSetUpdated => exact h.append_inbox trivial fun _ => rfl
      | bootstrapHost => exact absurd hposts id
  | dispatch d =>
      refine h.append_inbox rfl fun rid => ?_
      simp [handleDispatch, ReducerInput.reportFor, Event.isReport]
  | reduce orders now => exact reduce_tracked h hpolicy orders now
  | system sys => exact h
  | take now => exact take_tracked h now
  | finish now run => exact finish_tracked h hlegal

/-- What the invariant says of the step that reads a report. -/
theorem reportAccepted_of_tracked {s : WorkingAgent} {i : WorkingInput} (h : s.Tracked)
    (hpolicy : PolicyCached s.agent.reducer) : ReportAccepted s i := by
  cases i with
  | reduce orders now =>
      intro rid e hhead hreport
      obtain ⟨rest, hinbox⟩ := List.head?_eq_some_iff.mp hhead
      have hs : Nixfleet.Tracked s.agent.reducer s.agent.intents s.handling
          (.hostEvent rid e :: rest) := hinbox ▸ h
      obtain ⟨record, policy, next, effects, ht, -⟩ := hs.report hreport hpolicy now
      refine ⟨record, policy, next, effects, ht, ?_⟩
      have hlocal : (withSeq e (record.lastEventSeq + 1)).isLocal = true := by
        rw [isLocal_withSeq]
        exact hs.tasks _ List.mem_cons_self
      obtain ⟨payload, hpayload⟩ := Option.isSome_iff_exists.mp
        ((payload?_isSome _).trans hlocal)
      refine ⟨payload, hpayload, ?_⟩
      rw [hostStep_emitted ht.step, hpayload, ← ht.rolloutId hs.keyed]
      exact List.mem_singleton_self _
  | _ => trivial

end Step

section Run

variable {nix : NixEnv}

/-- **No outcome is swallowed.** In a run without snapshots in which the policies stay cached,
and in which no switch defers and no rollback fails, every event that the activation worker
posts is accepted, and an event about it goes out. -/
theorem outcomes_accepted (sys : System) {is : List WorkingInput} (hposts : ∀ i ∈ is, PostsOwn i)
    (hpolicy : (workingMachine nix).Meets (fun s _ => PolicyCached s.agent.reducer)
      (.started sys) is)
    (hlegal : (workingMachine nix).Meets OutcomeLegal (.started sys) is) :
    (workingMachine nix).Meets ReportAccepted (.started sys) is := by
  have hstart : (WorkingAgent.started sys).Tracked := by
    refine ⟨?_, ?_, fun rid => .idle _⟩
    · intro rid s hs
      cases hs
    · intro input hin
      cases hin
  have hall := (((workingMachine nix).meets_of_forall hposts _).and _ hpolicy).and _ hlegal
  refine (workingMachine nix).meets_of_invariant (P := WorkingAgent.Tracked) ?_ ?_ hstart hall
  · exact fun s i h hi => workingStep_tracked h hi.1.1 hi.1.2 hi.2
  · exact fun s i h hi => reportAccepted_of_tracked h hi.1.2

end Run

instance : DecidablePred PostsOwn
  | .post (.hostEvent _ e) => inferInstanceAs (Decidable (e.isProbe = true))
  | .post (.bootstrapHost _) => isFalse id
  | .post .agentAdvanceTick | .post (.manifestSetUpdated _) => isTrue trivial
  | .dispatch _ | .reduce _ _ | .system _ | .take _ | .finish _ _ => isTrue trivial

instance (r : AgentReducer) : Decidable (PolicyCached r) :=
  inferInstanceAs (Decidable (∀ entry ∈ r.hostStates.rows, _))

/-- The dispatch of `new`, whose switch and rollback run as given, to the last report. -/
def reportedRun (activation : ActivationRun) (reads : List (Option ClosureHash)) :
    List WorkingInput :=
  (dispatchRun activation reads).flatMap AgentInput.steps ++ [.reduce ⟨fun _ => 0, fun _ => 0⟩ 0]

/-- A component cannot be swapped live. -/
def deferredActivation : ActivationRun :=
  ⟨false, .ok (storePath "new"), .exited (some 0), some "dbus", .exited (some 0), .spawnFailed,
    none, [], .spawnFailed, none⟩

set_option maxRecDepth 4000 in
/-- A switch that never takes effect is rolled back, and both outcomes are reported. -/
theorem stuckRun_accepted : (workingMachine plainNix).Meets ReportAccepted
    (.started twoGenerations) (reportedRun stuckActivation [some "prior"]) := by
  refine outcomes_accepted twoGenerations (by decide) (by decide) ?_
  · refine ⟨trivial, trivial, trivial, trivial, trivial, ?_, trivial, trivial, trivial, ?_,
      trivial, trivial⟩
    · intro intent hintent
      cases hintent
      rintro ⟨-, -, hinhibitor, -⟩
      cases hinhibitor
    · intro intent hintent
      cases hintent
      exact ⟨"prior", rfl, by decide⟩

/-- A run without snapshots, with cached policies, in which a report is refused. -/
def Swallows (is : List WorkingInput) : Prop :=
  (∀ i ∈ is, PostsOwn i) ∧
    (workingMachine plainNix).Meets (fun s _ => PolicyCached s.agent.reducer)
      (.started twoGenerations) is ∧
    ¬ (workingMachine plainNix).Meets ReportAccepted (.started twoGenerations) is

set_option maxRecDepth 4000 in
/-- A deferred switch and a failed rollback are dropped without a trace. -/
theorem deferral_and_failedRollback_swallowed :
    Swallows (reportedRun deferredActivation []) ∧ Swallows (reportedRun lockedActivation []) := by
  refine ⟨⟨by decide, by decide, fun h => ?_⟩, ⟨by decide, by decide, fun h => ?_⟩⟩
  · have hstep := h.2.2.2.2.2.2.2.1
    obtain ⟨record, policy, next, effects, ht, payload, -, hmem⟩ := hstep _ _ rfl rfl
    have hdropped : effects = [] := (congrArg Prod.snd ht.run).symm
    rw [hdropped] at hmem
    cases hmem
  · have hstep := h.2.2.2.2.2.2.2.2.2.2.1
    obtain ⟨record, policy, next, effects, ht, payload, -, hmem⟩ := hstep _ _ rfl rfl
    have hdropped : effects = [] := (congrArg Prod.snd ht.run).symm
    rw [hdropped] at hmem
    cases hmem

end Nixfleet
