import Nixfleet.Reconciler.Manifest
import Nixfleet.ControlPlane.Rows

set_option autoImplicit false

/-!
# Halted rollouts over whole runs

A failed host sets its rollout to `Failed` (or `Reverted`). The planner lists the rows that
are not closed, and a halted row is not closed: no gate reads the rollout's state, so its
remaining hosts are still dispatched. A halted rollout stops exactly as long as the gates hold
its hosts, which is what `HaltHeld` asks of every tick.
-/

namespace Nixfleet

/-- `Failed` or `Reverted`. -/
def RolloutState.isHalted (s : RolloutState) : Bool := s = .failed || s = .reverted

theorem RolloutState.isClosed_of_isHalted {s : RolloutState} (h : s.isHalted = true) :
    s.isClosed = false := by
  cases s <;> first | rfl | cases h

/-- The rollout has a row that is halted. -/
def Db.Halted (db : Db) (rid : RolloutId) : Prop :=
  (db.rollouts.lookup rid).any (·.state.isHalted) = true

/-- A transition of the rollout out of `src` has been logged since `db₀`. -/
def LeftSince (db₀ db : Db) (rid : RolloutId) (src : RolloutState) : Prop :=
  ∃ new, db.eventLog = db₀.eventLog ++ new ∧ ∃ entry ∈ new, ExitLogged rid src entry

/-- Once a row is halted, no later step plans a dispatch for its rollout, unless the rollout
has left the state by a transition of the rollout machine. -/
def HaltStops (cp : Cp) (is : List CpInput) : Prop :=
  ∀ earlier between i later, is = earlier ++ between ++ i :: later →
    ∀ rid row, (cpMachine.run cp earlier).db.rollouts.lookup rid = some row →
      row.state.isHalted = true →
        ∀ fs host closure due, .planned fs (.queueDispatch host rid closure due) ∈
            (cpStep (cpMachine.run cp (earlier ++ between)) i).2 →
          LeftSince (cpMachine.run cp earlier).db (cpMachine.run cp (earlier ++ between)).db
            rid row.state

/-- If the step runs a plan tick, every candidate of a halted rollout is blocked by a gate. -/
def HaltHeld (cp : Cp) (i : CpInput) : Prop :=
  ∀ plan manifests, cp.plan i = some plan → cp.manifestsAt i = some manifests →
    ∀ c ∈ candidates i.order plan.fleetState, cp.db.Halted c.rolloutId →
      c.evaluate manifests plan.fleetState cp.rs.quarantines (fun _ => 0) ≠ none

instance (db : Db) (rid : RolloutId) : Decidable (db.Halted rid) :=
  inferInstanceAs (Decidable (_ = true))

instance (cp : Cp) (i : CpInput) : Decidable (HaltHeld cp i) :=
  match hp : cp.plan i, hm : cp.manifestsAt i with
  | some plan, some manifests =>
      decidable_of_iff
        (∀ c ∈ candidates i.order plan.fleetState, cp.db.Halted c.rolloutId →
          (c.evaluate manifests plan.fleetState cp.rs.quarantines (fun _ => 0)).isSome)
        (by simp [HaltHeld, hp, hm, Option.isSome_iff_ne_none])
  | none, _ => isTrue (by simp [HaltHeld, hp])
  | some _, none => isTrue (by simp [HaltHeld, hm])

/-- **A halted row stays halted until a logged transition.** -/
theorem run_halted {cp : Cp} (hok : cp.db.RowsOk) {rid : RolloutId} {row : RolloutRow}
    (hrow : cp.db.rollouts.lookup rid = some row) (hhalt : row.state.isHalted = true)
    (is : List CpInput) :
    (cpMachine.run cp is).db.RowsOk ∧
      ((∃ row', (cpMachine.run cp is).db.rollouts.lookup rid = some row' ∧
        row'.state = row.state ∧ ∃ new, (cpMachine.run cp is).db.eventLog =
          cp.db.eventLog ++ new) ∨
      LeftSince cp.db (cpMachine.run cp is).db rid row.state) := by
  refine cpMachine.run_invariant_of_step (P := fun cp' => cp'.db.RowsOk ∧
    ((∃ row', cp'.db.rollouts.lookup rid = some row' ∧ row'.state = row.state ∧
      ∃ new, cp'.db.eventLog = cp.db.eventLog ++ new) ∨
    LeftSince cp.db cp'.db rid row.state)) ?_ ?_ is
  · rintro cp' i ⟨hok', hcase⟩
    obtain ⟨hok₂, new', hlog', hrows⟩ := cpStep_rows hok' i
    refine ⟨hok₂, ?_⟩
    rcases hcase with ⟨row', hrow', hst, new, hlog⟩ | ⟨new, hlog, entry, hmem, hexit⟩
    · have hopen : row'.state.isClosed = false :=
        RolloutState.isClosed_of_isHalted (hst ▸ hhalt)
      obtain ⟨row₂, hrow₂, hst₂⟩ := hrows rid row' hrow' hopen
      have hlog₂ : (cpStep cp' i).1.db.eventLog = cp.db.eventLog ++ (new ++ new') := by
        rw [hlog', hlog, List.append_assoc]
      rcases hst₂ with heq | ⟨entry, hmem, hexit⟩
      · exact .inl ⟨row₂, hrow₂, heq.trans hst, _, hlog₂⟩
      · exact .inr ⟨_, hlog₂, entry, List.mem_append_right _ hmem, hst ▸ hexit⟩
    · have hlog₂ : (cpStep cp' i).1.db.eventLog = cp.db.eventLog ++ (new ++ new') := by
        rw [hlog', hlog, List.append_assoc]
      exact .inr ⟨_, hlog₂, entry, List.mem_append_left _ hmem, hexit⟩
  · exact ⟨hok, .inl ⟨row, hrow, rfl, [], (List.append_nil _).symm⟩⟩

/-- **A halted rollout stops where the gates hold its hosts.** -/
theorem haltStops_of_held (is : List CpInput)
    (hheld : cpMachine.Meets HaltHeld Cp.initial is) : HaltStops Cp.initial is := by
  rintro earlier between i later rfl rid row hrow hhalt fs host closure due hout
  obtain ⟨-, hcase⟩ := run_halted (run_rowsOk earlier) hrow hhalt between
  rw [← cpMachine.run_append] at hcase
  rcases hcase with ⟨row', hrow', hst, -⟩ | hleft
  · exfalso
    obtain ⟨plan, manifests, hplan, rfl, hm, c, hc, rfl, rfl, rfl, -, heval⟩ :=
      exists_candidate_of_planned hout
    have hhalt' : (cpMachine.run Cp.initial (earlier ++ between)).db.Halted c.rolloutId := by
      simp [Db.Halted, hrow', hst, hhalt]
    exact Machine.Meets.at_step cpMachine hheld plan manifests hplan hm c hc hhalt' heval
  · exact hleft

/-- A run in which host `a` fails; host `b` waits, in the waves that are given. -/
def haltRun (waves : List Wave) : List CpInput :=
  let manifests := stableManifests
    (stableFleet "r1" [("a", "new"), ("b", "new")] ⟨"staged", [], .halt⟩ waves [] [])
  let event (e : Event) := CpEvent.hostEvent "a" (.new "stable" "r1") e
  [.plain (.manifestSetUpdated manifests) 0,
   .plain (event (.remoteDispatchAck "good" 1 1)) 1,
   .plain (event (.remoteActivationFailed 1 "" 2 2)) 2,
   .plain .planTick 3]

set_option maxRecDepth 4000 in
/-- With host `b` in a later wave the wave gate holds it, and the rollout stops. -/
theorem haltRun_stops : HaltStops Cp.initial (haltRun [⟨["a"], 0⟩, ⟨["b"], 0⟩]) :=
  haltStops_of_held _ (by decide)

set_option maxRecDepth 4000 in
/-- Without waves host `b` is dispatched although the rollout has failed. -/
theorem haltRun_not_stopped : ¬ HaltStops Cp.initial (haltRun []) := by
  intro h
  have hrow : ((cpMachine.run Cp.initial ((haltRun []).take 3)).db.rollouts.lookup
      (.new "stable" "r1")).any (·.state.isHalted) = true := by decide
  have hplan : ((cpMachine.run Cp.initial ((haltRun []).take 3)).plan (.plain .planTick 3)).any
      (fun plan => .queueDispatch "b" (.new "stable" "r1") "new" (minutes 60) ∈ plan.actions &&
        (plan.fleetState.rollouts.lookup (.new "stable" "r1")).any (·.channel = "stable")) =
      true := by decide
  obtain ⟨fs, summary, hout, -, -⟩ := exists_planned_of_check hplan
  obtain ⟨row, hlook, hhalt⟩ := (Option.any_eq_true _ _).mp hrow
  -- nothing is logged between the failure and the tick
  obtain ⟨new, hlog, entry, hmem, -⟩ :=
    h ((haltRun []).take 3) [] _ [] rfl _ row hlook hhalt fs _ _ _ hout
  rw [List.append_nil, List.self_eq_append_right] at hlog
  subst hlog
  cases hmem

end Nixfleet
