import Nixfleet.Agent.Facts
import Nixfleet.Reconciler.Manifest

set_option autoImplicit false

/-!
# Where a rollback lands

A rollback intent carries the closure that the host ran when the rollout was dispatched, but
the pipeline never looks at it: it goes to the generation below the current one. The two agree
when the activation of the rollout added exactly one generation and nothing else touched the
profile since (`older_of_activated`). They differ when the activation failed before it set the
profile, when the target was already the current generation, or when another rollout or an
operator moved the profile in between.
-/

namespace Nixfleet

/-! ## The closure an intent carries -/

/-- Every rollback intent carries the closure its rollout's record took at dispatch. -/
structure IntentsCarry (r : AgentReducer) (intents : List ActivationIntent) : Prop where
  keyed : ∀ rid s, r.hostStates.lookup rid = some s → s.rolloutId = rid
  carried : ∀ intent ∈ intents, intent.rollback = true →
    ∃ s, r.hostStates.lookup intent.rolloutId = some s ∧
      s.currentClosureAtDispatch = some intent.targetClosure ∧ s.state ≠ .pending

section Carry

variable {r : AgentReducer} {intents : List ActivationIntent}

theorem mem_filterMap_intent {effects : List Effect} {intent : ActivationIntent}
    (h : intent ∈ effects.filterMap Effect.intent?) (hroll : intent.rollback = true) :
    .localFireRollbackTo intent.rolloutId intent.targetClosure ∈ effects := by
  obtain ⟨effect, hmem, heffect⟩ := List.mem_filterMap.mp h
  cases effect with
  | localFireRollbackTo rid closure =>
      cases heffect
      exact hmem
  | localFireSwitch rid target =>
      cases heffect
      cases hroll
  | _ => cases heffect

theorem runHostEvent_carry (h : IntentsCarry r intents) (now : Time) (rid : RolloutId)
    (event : Event) :
    IntentsCarry (runHostEvent now r rid event).1
      (intents ++ (runHostEvent now r rid event).2.filterMap Effect.intent?) := by
  rcases runHostEvent_cases now r rid event with hdrop | ⟨s, policy, next, effects, ht⟩
  · rw [hdrop]
    simpa using h
  · rw [ht.run]
    have hspec := hostStep_spec ht.step
    have hrid : s.rolloutId = rid := ht.rolloutId h.keyed
    constructor
    · exact AgentReducer.Keyed.insert h.keyed (hspec.same.rolloutId.trans hrid)
    · intro intent hmem hroll
      -- the records after the event
      have hlook : ∀ rid' s', r.hostStates.lookup rid' = some s' →
          s'.currentClosureAtDispatch = some intent.targetClosure → s'.state ≠ .pending →
          ∃ s'', (r.hostStates.insert rid next).lookup rid' = some s'' ∧
            s''.currentClosureAtDispatch = some intent.targetClosure ∧
            s''.state ≠ .pending := by
        intro rid' s' hs' hclosure hpending
        by_cases heq : rid' = rid
        · subst heq
          have hsame' : s' = s := by
            rcases recordFor_eq_some ht.record with hold | ⟨hnone, -⟩
            · rw [hs'] at hold
              exact Option.some.inj hold
            · rw [hs'] at hnone
              cases hnone
          subst hsame'
          have hkept : next.currentClosureAtDispatch = some intent.targetClosure := by
            rcases hspec.closure with hc | hp
            · exact hc.trans hclosure
            · exact absurd hp hpending
          exact ⟨next, by rw [Table.lookup_insert_eq, if_pos rfl], hkept,
            hspec.move.ne_pending⟩
        · exact ⟨s', by rw [Table.lookup_insert_eq, if_neg heq]; exact hs', hclosure,
            hpending⟩
      rcases List.mem_append.mp hmem with hold | hnew
      · obtain ⟨s', hs', hclosure, hpending⟩ := h.carried intent hold hroll
        exact hlook _ _ hs' hclosure hpending
      · have hfire := mem_filterMap_intent hnew hroll
        obtain ⟨hid, hclosure, hpending⟩ := hostStep_rollback ht.step hfire
        have hold : r.hostStates.lookup rid = some s := by
          rcases recordFor_eq_some ht.record with hold | ⟨-, -, hp⟩
          · exact hold
          · exact absurd hp hpending
        have hrid' : intent.rolloutId = rid := hid.trans hrid
        rw [hrid']
        exact hlook rid s hold hclosure hpending

theorem runAdvanceTick_carry (h : IntentsCarry r intents) (orders : AgentOrders) (now : Time) :
    IntentsCarry (runAdvanceTick orders now r).1
      (intents ++ (runAdvanceTick orders now r).2.filterMap Effect.intent?) := by
  refine runAdvanceTick_induction
    (P := fun acc => IntentsCarry acc.1 (intents ++ acc.2.filterMap Effect.intent?)) ?_ ?_
  · simpa using h
  · intro acc rid e _ hacc
    have hevent := runHostEvent_carry hacc now rid e
    rwa [List.append_assoc, ← List.filterMap_append] at hevent

end Carry

/-- No snapshot replaces a record. -/
def NoSnapshot : ReducerInput → Prop
  | .bootstrapHost _ => False
  | _ => True

/-- A worker posts no snapshot. -/
def PostsNoSnapshot : AgentInput → Prop
  | .post input => NoSnapshot input
  | _ => True

/-- The invariant of a run without snapshots. -/
structure AgentState.Carries (s : AgentState) : Prop where
  inbox : ∀ input ∈ s.inbox, NoSnapshot input
  intents : IntentsCarry s.reducer s.intents

section Run

variable {nix : NixEnv}

theorem agentStep_carries {s : AgentState} {i : AgentInput} (h : s.Carries)
    (hi : PostsNoSnapshot i) : (agentStep nix s i).1.Carries := by
  cases i with
  | post input =>
      refine ⟨?_, h.intents⟩
      intro other hother
      rcases List.mem_append.mp hother with hold | hnew
      · exact h.inbox other hold
      · rw [List.mem_singleton.mp hnew]
        exact hi
  | dispatch d =>
      refine ⟨?_, h.intents⟩
      intro other hother
      rcases List.mem_append.mp hother with hold | hnew
      · exact h.inbox other hold
      · rw [List.mem_singleton.mp hnew]
        exact trivial
  | reduce orders now =>
      simp only [agentStep]
      split
      · exact h
      · rename_i input rest hinbox
        -- the input that is read is none that could reset a record
        have hin : NoSnapshot input := h.inbox input (hinbox ▸ List.mem_cons_self)
        refine ⟨fun other hother => h.inbox other (hinbox ▸ List.mem_cons_of_mem _ hother), ?_⟩
        cases input with
        | hostEvent rid event => exact runHostEvent_carry h.intents now rid event
        | agentAdvanceTick => exact runAdvanceTick_carry h.intents orders now
        | manifestSetUpdated set =>
            have hkept : IntentsCarry s.reducer (s.intents ++ []) := by
              rw [List.append_nil]
              exact h.intents
            exact ⟨hkept.keyed, hkept.carried⟩
        | bootstrapHost snapshot => exact absurd hin (by simp [NoSnapshot])
  | work now run =>
      simp only [agentStep]
      split
      · exact h
      · rename_i intent rest hintents
        constructor
        · intro other hother
          rcases List.mem_append.mp hother with hold | hnew
          -- what the worker posts is an event
          · exact h.inbox other hold
          · obtain ⟨event, -, rfl⟩ := List.mem_map.mp hnew
            exact trivial
        · refine ⟨h.intents.keyed, fun intent' hmem => ?_⟩
          exact h.intents.carried intent' (hintents ▸ List.mem_cons_of_mem _ hmem)
  | system sys => exact ⟨h.inbox, h.intents⟩

/-- **The closure an intent carries.** In a run without snapshots it is the
`current_closure_at_dispatch` of the rollout's record. -/
theorem run_carries (sys : System) {is : List AgentInput} (his : ∀ i ∈ is, PostsNoSnapshot i) :
    ((agentMachine nix).run (.started sys) is).Carries := by
  have hstart : (AgentState.started sys).Carries := by
    constructor
    · intro input hmem
      cases hmem
    · constructor
      · intro rid s hs
        cases hs
      · intro intent hmem
        cases hmem
  exact (agentMachine nix).run_invariant (fun _ _ => agentStep_carries) hstart
    ((agentMachine nix).meets_of_forall his _)

end Run

/-! ## The generation below -/

/-- The report of a rollback that completes names the closure its intent carries. -/
def RollbackReport.Restores (r : RollbackReport) : Prop :=
  ∀ closure, r.2 = .ok (.firedAndPolled closure) → closure = r.1.targetClosure

/-- Every rollback of a run restores the closure of dispatch time. -/
def RollbacksRestore (nix : NixEnv) (s : AgentState) (is : List AgentInput) : Prop :=
  ∀ report ∈ (agentMachine nix).trace s is, report.Restores

/-- Whenever a rollback intent is handled and its commands succeed, the generation below the
current one is of the closure the intent carries. -/
def RollbackLands (s : AgentState) : AgentInput → Prop
  | .work _ run => ∀ intent ∈ s.intents.head?, intent.rollback = true →
      ∀ below ∈ s.sys.profile.older.head?, run.rollback.Completes below →
        below = intent.targetClosure
  | _ => True

theorem agentStep_restores (nix : NixEnv) (s : AgentState) (i : AgentInput) :
    (∀ report ∈ (agentStep nix s i).2, report.Restores) ↔ RollbackLands s i := by
  cases i with
  | post | dispatch | system => simp [agentStep, RollbackLands]
  | reduce orders now =>
      cases hinbox : s.inbox <;> simp [agentStep, hinbox, RollbackLands]
  | work now run =>
      cases hintents : s.intents with
      | nil => simp [agentStep, hintents, RollbackLands]
      | cons intent rest =>
          by_cases hroll : intent.rollback = true
          · have hreport : (agentStep nix s (.work now run)).2 =
                [(intent, (rollbackWith s.sys run.rollback).1)] := by
              simp [agentStep, hintents, hroll]
            rw [hreport]
            simp only [List.mem_singleton, forall_eq, RollbackReport.Restores,
              rollbackWith_eq_firedAndPolled, RollbackLands, hintents, List.head?_cons,
              Option.mem_def, Option.some.injEq, forall_eq', hroll, forall_const]
            -- the two sides differ in how they group the hypotheses
            constructor
            · intro h below hbelow hrun
              exact h below ⟨hbelow, hrun⟩
            · rintro h below ⟨hbelow, hrun⟩
              exact h below hbelow hrun
          · simp [agentStep, hintents, hroll, RollbackLands]

/-- **When rollbacks restore the closure of dispatch time.** From any profile, any queue of
intents and for any outcomes of the commands: iff every rollback that completes finds that
closure in the generation below the current one. -/
theorem rollbacksRestore_iff_lands (nix : NixEnv) (s : AgentState) (is : List AgentInput) :
    RollbacksRestore nix s is ↔ (agentMachine nix).Meets RollbackLands s is := by
  unfold RollbacksRestore
  rw [Machine.forall_mem_trace]
  exact (agentMachine nix).meets_congr (agentStep_restores nix) s is

/-! ## One generation since dispatch -/

/-- The commands of an activation up to `nix-env --set` succeed. -/
def ActivationRun.SetsProfile (run : ActivationRun) (target : ClosureHash) : Prop :=
  run.switchInProgress = false ∧ run.realise = .ok (storePath target) ∧ run.set.success = true

section History

variable {nix : NixEnv}

/-- The switch itself leaves the profile alone, unless the activation script moves it. -/
theorem switchAndPoll_profile {sys : System} {target : ClosureHash} {run : ActivationRun}
    (hscript : run.scriptProfile = none) (hcurrent : sys.profile.current = target) :
    (switchAndPoll nix sys target run).2.profile = sys.profile := by
  have hpolled : ∀ poll, (sys.polled target run.reads poll).profile = sys.profile := by
    intro poll
    cases poll <;> rfl
  unfold switchAndPoll
  split
  · rfl
  · split
    · rfl
    · rfl
    · simp only [hscript, Option.getD_none]
      split
      · have hcorrect : selfCorrectProfile nix sys.profile target run = sys.profile := by
          unfold selfCorrectProfile
          rw [if_pos hcurrent]
        simp only [hpolled, hcorrect]
      · exact hpolled _
      · exact hpolled _

/-- An activation that gets to `nix-env --set` goes on with the switch. -/
theorem activateWith_of_sets {sys : System} {target : ClosureHash} {run : ActivationRun}
    (hset : run.SetsProfile target) : activateWith nix sys target run =
      switchAndPoll nix { sys with profile := nix.set sys.profile target } target run := by
  obtain ⟨hlock, hrealise, hstatus⟩ := hset
  have hspawn : run.set ≠ .spawnFailed := by
    intro h
    rw [h] at hstatus
    cases hstatus
  unfold activateWith
  simp [hlock, hrealise, hspawn, hstatus]

/-- An activation that sets the profile adds one generation. -/
theorem activateWith_profile {sys : System} {target : ClosureHash} {run : ActivationRun}
    (hset : run.SetsProfile target) (hscript : run.scriptProfile = none)
    (hne : target ≠ sys.profile.current) :
    (activateWith nix sys target run).2.profile = sys.profile.append target := by
  rw [activateWith_of_sets hset, nix.set_of_ne sys.profile target hne]
  exact switchAndPoll_profile hscript rfl

/-- An activation that does not get to `nix-env --set` leaves the system as it is, and has not
staged anything for the next boot. -/
theorem activateWith_of_not_sets (nix : NixEnv) (sys : System) {target : ClosureHash}
    {run : ActivationRun} (hset : ¬ run.SetsProfile target) :
    (activateWith nix sys target run).2 = sys ∧
      ∀ component,
        (activateWith nix sys target run).1 ≠ .ok (.deferredPendingReboot component) := by
  unfold activateWith
  split
  · exact ⟨rfl, nofun⟩
  · rename_i hlock
    split
    · exact ⟨rfl, nofun⟩
    · exact ⟨rfl, nofun⟩
    · rename_i realised hrealise
      split
      · exact ⟨rfl, nofun⟩
      · rename_i hpath
        split
        · exact ⟨rfl, nofun⟩
        · split
          · exact ⟨rfl, nofun⟩
          · -- the lock was free, the path is the target's and the command succeeded
            rename_i hstatus
            refine absurd ⟨by simpa using hlock, ?_, by simpa using hstatus⟩ hset
            rw [hrealise, not_not.mp hpath]

/-- A step that does not touch the profile. -/
def LeavesProfile (s : AgentState) : AgentInput → Prop
  | .work _ run => ∀ intent ∈ s.intents.head?, intent.rollback = false ∧
      ¬ run.activation.SetsProfile intent.targetClosure
  | .system sys => sys.profile = s.sys.profile
  | _ => True

theorem agentStep_profile {s : AgentState} {i : AgentInput} (hi : LeavesProfile s i) :
    (agentStep nix s i).1.sys.profile = s.sys.profile := by
  cases i with
  | post | dispatch => rfl
  | reduce orders now =>
      simp only [agentStep]
      split <;> rfl
  | work now run =>
      simp only [agentStep]
      split
      · rfl
      · rename_i intent rest hintents
        obtain ⟨hroll, hset⟩ := hi intent (by rw [hintents]; rfl)
        simp only [handleIntent, hroll]
        have hsame := (activateWith_of_not_sets nix s.sys hset).1
        exact congrArg System.profile hsame
  | system sys => exact hi

theorem run_profile {s : AgentState} {is : List AgentInput}
    (his : (agentMachine nix).Meets LeavesProfile s is) :
    ((agentMachine nix).run s is).sys.profile = s.sys.profile := by
  induction is generalizing s with
  | nil => rfl
  | cons i is ih => exact (ih his.2).trans (agentStep_profile his.1)

/-- **One generation.** When an activation sets the profile from its last generation to another
closure and nothing touches the profile afterwards, the generation below is the one from
before the activation. -/
theorem older_of_activated {s : AgentState} {intent : ActivationIntent}
    {rest : List ActivationIntent} {now : Time} {run : WorkerRun} {is : List AgentInput}
    (hintents : s.intents = intent :: rest) (hroll : intent.rollback = false)
    (hset : run.activation.SetsProfile intent.targetClosure)
    (hscript : run.activation.scriptProfile = none)
    (hne : intent.targetClosure ≠ s.sys.profile.current) (hlast : s.sys.profile.newer = [])
    (hrest : (agentMachine nix).Meets LeavesProfile (agentStep nix s (.work now run)).1 is) :
    ((agentMachine nix).run s (.work now run :: is)).sys.profile.older.head? =
      some s.sys.profile.current := by
  have hprofile : (agentStep nix s (.work now run)).1.sys.profile =
      s.sys.profile.append intent.targetClosure := by
    simp only [agentStep, hintents, handleIntent, hroll]
    exact activateWith_profile hset hscript hne
  have hrun := run_profile hrest
  rw [Machine.run_cons]
  calc ((agentMachine nix).run (agentStep nix s (.work now run)).1 is).sys.profile.older.head?
      = (agentStep nix s (.work now run)).1.sys.profile.older.head? := by rw [hrun]
    _ = (s.sys.profile.append intent.targetClosure).older.head? := by rw [hprofile]
    _ = some s.sys.profile.current := by simp [SystemProfile.append, hlast]

end History

/-! ## An activation that fails before it sets the profile -/

/-- A nix that keeps the profile when the closure is the current one. -/
def plainNix : NixEnv where
  set p closure := if closure = p.current then p else p.append closure
  set_of_ne _ _ h := if_neg h

/-- A host on its second generation. -/
def twoGenerations : System := ⟨⟨["old"], "prior", []⟩, some "prior"⟩

/-- The dispatch of `new` under `rollback-and-halt`; the activation's commands are given, and
the rollback's all succeed. -/
def dispatchRun (activation : ActivationRun) (reads : List (Option ClosureHash)) :
    List AgentInput :=
  let manifests := stableManifests
    (stableFleet "r1" [("self", "new")] ⟨"all-at-once", [], .rollbackAndHalt⟩ [] [] [])
  let reduce : AgentInput := .reduce ⟨fun _ => 0, fun _ => 0⟩ 0
  let ok : CommandStatus := .exited (some 0)
  [.post (.manifestSetUpdated manifests), reduce,
   .dispatch ⟨.new "stable" "r1", "new", 0, 0⟩, reduce,
   .work 0 ⟨activation, ⟨ok, true, ok, reads, none⟩⟩, reduce, reduce,
   .work 0 ⟨activation, ⟨ok, true, ok, reads, none⟩⟩]

/-- Another process holds the switch lock. -/
def lockedActivation : ActivationRun :=
  ⟨true, .error (.other ""), .spawnFailed, none, .spawnFailed, .spawnFailed, none, [],
    .spawnFailed, none⟩

/-- Every command succeeds, but the system keeps running the old closure. -/
def stuckActivation : ActivationRun :=
  ⟨false, .ok (storePath "new"), .exited (some 0), none, .exited (some 0), .exited (some 0), none,
    [some "prior"], .exited (some 0), none⟩

set_option maxRecDepth 4000 in
/-- The activation fails after it set the profile, and the rollback takes that back. -/
example : (agentMachine plainNix).trace (.started twoGenerations)
    (dispatchRun stuckActivation [some "prior"]) =
      [(⟨.new "stable" "r1", "prior", true⟩, .ok (.firedAndPolled "prior"))] := rfl

set_option maxRecDepth 4000 in
/-- The activation fails on the lock, and the rollback goes below the closure of dispatch. -/
theorem lockedRun_not_restored :
    ¬ RollbacksRestore plainNix (.started twoGenerations)
      (dispatchRun lockedActivation [some "old"]) := by
  intro h
  have htrace : (agentMachine plainNix).trace (.started twoGenerations)
      (dispatchRun lockedActivation [some "old"]) =
        [(⟨.new "stable" "r1", "prior", true⟩, .ok (.firedAndPolled "old"))] := rfl
  have hrestores := h _ (htrace ▸ List.mem_singleton_self _) "old" rfl
  exact absurd hrestores (by decide)

end Nixfleet
