import Nixfleet.Reconciler.Manifest
import Nixfleet.ControlPlane.Rules

set_option autoImplicit false

/-!
# Quarantine over whole runs

A rolled-back closure is inserted into the quarantine table of its channel, and the table is
append-only. The planner, however, reads the reducer's in-memory set, and no step ever fills
it (`cpStep_quarantines`): the quarantine gate never blocks. A quarantined closure therefore
stays back exactly as long as some other gate holds it, which is what `QuarantineHeld` asks of
every tick.
-/

namespace Nixfleet

/-- The closure has a row in the quarantine table of the channel. -/
def Db.Quarantined (db : Db) (channel : ChannelId) (closure : ClosureHash) : Prop :=
  (db.quarantinedClosures.lookup (channel, closure)).isSome = true

/-- A control plane that has just been started on a database. -/
def Cp.started (db : Db) : Cp := ⟨db, ReducerState.initial⟩

/-- Once a closure is quarantined on a channel, no later step plans a dispatch of it for a
rollout of that channel. -/
def QuarantineEffective (cp : Cp) (is : List CpInput) : Prop :=
  ∀ earlier between i later, is = earlier ++ between ++ i :: later →
    ∀ channel closure, (cpMachine.run cp earlier).db.Quarantined channel closure →
      ∀ fs host rid due, .planned fs (.queueDispatch host rid closure due) ∈
          (cpStep (cpMachine.run cp (earlier ++ between)) i).2 →
        ∀ summary, fs.rollouts.lookup rid = some summary → summary.channel ≠ channel

/-- If the step runs a plan tick, every candidate whose closure is quarantined on its channel
is blocked by a gate other than the quarantine gate. -/
def QuarantineHeld (cp : Cp) (i : CpInput) : Prop :=
  ∀ plan manifests, cp.plan i = some plan → cp.manifestsAt i = some manifests →
    ∀ c ∈ candidates i.order plan.fleetState,
      cp.db.Quarantined c.summary.channel c.record.targetClosure →
        c.evaluate manifests plan.fleetState QuarantineSet.new (fun _ => 0) ≠ none

instance (db : Db) (channel : ChannelId) (closure : ClosureHash) :
    Decidable (db.Quarantined channel closure) :=
  inferInstanceAs (Decidable (_ = true))

instance (cp : Cp) (i : CpInput) : Decidable (QuarantineHeld cp i) :=
  match hp : cp.plan i, hm : cp.manifestsAt i with
  | some plan, some manifests =>
      decidable_of_iff
        (∀ c ∈ candidates i.order plan.fleetState,
          cp.db.Quarantined c.summary.channel c.record.targetClosure →
            (c.evaluate manifests plan.fleetState QuarantineSet.new (fun _ => 0)).isSome)
        (by simp [QuarantineHeld, hp, hm, Option.isSome_iff_ne_none])
  | none, _ => isTrue (by simp [QuarantineHeld, hp])
  | some _, none => isTrue (by simp [QuarantineHeld, hm])

/-! ## The table only grows -/

section Grows

variable {ch : ChannelId} {cl : ClosureHash}

theorem quarantined_congr {db db' : Db} (h : db'.quarantinedClosures = db.quarantinedClosures) :
    db'.Quarantined ch cl ↔ db.Quarantined ch cl := by
  unfold Db.Quarantined
  rw [h]

theorem insertQuarantine_quarantined {db : Db} {channel : ChannelId} {closure : ClosureHash}
    {t : Time} (h : db.Quarantined ch cl) :
    (db.insertQuarantine channel closure t).Quarantined ch cl := by
  unfold Db.insertQuarantine
  split
  · exact h
  · unfold Db.Quarantined at h ⊢
    rw [Table.lookup_insert_eq]
    split
    · rfl
    · exact h

theorem applyEffect_quarantined {ctx : ApplierCtx} {db : Db} (h : db.Quarantined ch cl)
    (e : Effect) : (applyEffect ctx db e).Quarantined ch cl := by
  cases e with
  | remoteInsertQuarantine channel closure =>
      simp only [applyEffect]
      split
      · exact h
      · exact insertQuarantine_quarantined h
  | remoteAppendEventLog host rid payload =>
      simp only [applyEffect]
      split <;> exact h
  | _ => exact h

theorem acceptHostEvent_quarantined {ctx : ApplierCtx} {db : Db} {host : HostId}
    {rid : RolloutId} {src : HostState} {next : HostRolloutState} {effects : List Effect}
    (h : db.Quarantined ch cl) :
    (acceptHostEvent ctx db host rid src next effects).Quarantined ch cl := by
  refine hostStateChanged_rule (P := fun db => db.Quarantined ch cl) ?_ ?_
  · intro db e _ _ hdb
    exact (quarantined_congr (processRolloutEvent_quarantinedClosures ctx db e)).mpr hdb
  · exact List.foldlRecOn (motive := fun db => Db.Quarantined db ch cl) _ _ h
      fun db hdb e _ => applyEffect_quarantined hdb e

theorem handleHostEvent_quarantined {rs : ReducerState} {now : Time} {faults : Faults} {db : Db}
    (host : HostId) (rid : RolloutId) (event : Event) (h : db.Quarantined ch cl) :
    (handleHostEvent rs now faults db host rid event).Quarantined ch cl :=
  handleHostEvent_rule (P := fun db => db.Quarantined ch cl) h
    fun _ _ _ _ _ => acceptHostEvent_quarantined h

theorem runPlan_quarantined {rs : ReducerState} {order : MapOrders} {now : Time}
    {faults : Faults} {db : Db} (h : db.Quarantined ch cl) :
    (runPlan rs order now faults db).Quarantined ch cl := by
  refine runPlan_rule (P := fun db => db.Quarantined ch cl) h ?_ ?_
  · intro manifests plan _ hplan
    obtain ⟨_, _, _, _, hdb, _, _⟩ := planOf_eq_some hplan
    exact (quarantined_congr (by rw [hdb, advanceCurrentWaves_quarantinedClosures])).mpr h
  · intro manifests plan _ _ db hdb a _
    exact (quarantined_congr (applyPlanAction_quarantinedClosures _ db a)).mpr hdb

/-- No step takes a row out of the quarantine table. -/
theorem cpStep_quarantined {cp : Cp} (h : cp.db.Quarantined ch cl) (i : CpInput) :
    (cpStep cp i).1.db.Quarantined ch cl := by
  refine cpStep_rule (P := fun db => db.Quarantined ch cl) h ?_ ?_ ?_ ?_
  · exact fun _ _ host rid event _ hdb => handleHostEvent_quarantined host rid event hdb
  · exact fun _ _ _ _ => runPlan_quarantined h
  · exact fun _ => h
  · exact fun _ => (quarantined_congr (takeForHost_quarantinedClosures _ _ _)).mpr h

end Grows

/-! ## The planner's set stays empty -/

theorem cpStep_quarantines {cp : Cp} (h : cp.rs.quarantines = QuarantineSet.new) (i : CpInput) :
    (cpStep cp i).1.rs.quarantines = QuarantineSet.new := by
  unfold cpStep
  split
  · exact h
  · exact h
  · exact h
  · exact h
  · rfl
  · exact h
  · exact h

theorem run_quarantines (db : Db) (is : List CpInput) :
    (cpMachine.run (Cp.started db) is).rs.quarantines = QuarantineSet.new :=
  cpMachine.run_invariant_of_step (P := fun cp => cp.rs.quarantines = QuarantineSet.new)
    (fun _ i h => cpStep_quarantines h i) rfl is

/-- **Quarantine holds where another gate holds.** In every run from any database whose plan
ticks keep the quarantined candidates back by another gate, quarantine is effective. -/
theorem quarantineEffective_of_held (db : Db) (is : List CpInput)
    (hheld : cpMachine.Meets QuarantineHeld (Cp.started db) is) :
    QuarantineEffective (Cp.started db) is := by
  rintro earlier between i later rfl channel closure hq fs host rid due hout summary hsummary rfl
  have hq' : (cpMachine.run (Cp.started db) (earlier ++ between)).db.Quarantined
      summary.channel closure := by
    rw [cpMachine.run_append]
    exact cpMachine.run_invariant_of_step
      (P := fun cp => cp.db.Quarantined summary.channel closure)
      (fun _ j h => cpStep_quarantined h j) hq between
  obtain ⟨plan, manifests, hplan, rfl, hm, c, hc, rfl, rfl, rfl, -, heval⟩ :=
    exists_candidate_of_planned hout
  have hlook := (mem_candidates.mp hc).1
  rw [hsummary, Option.some.injEq] at hlook
  subst hlook
  rw [run_quarantines] at heval
  exact Machine.Meets.at_step cpMachine hheld plan manifests hplan hm c hc hq' heval

/-- A run that quarantines the closure `bad` of host `a`, then declares it again in a second
release whose waves are given. -/
def requeueRun (waves : List Wave) : List CpInput :=
  let manifests (ref : ChannelRef) (waves : List Wave) := stableManifests
    (stableFleet ref [("a", "bad"), ("b", "new")] ⟨"staged", [], .rollbackAndHalt⟩ waves [] [])
  let event (e : Event) := CpEvent.hostEvent "a" (.new "stable" "r1") e
  [.plain (.manifestSetUpdated (manifests "r1" [])) 0,
   .plain (event (.remoteDispatchAck "good" 1 1)) 1,
   .plain (event (.remoteActivationFailed 1 "" 2 2)) 2,
   .plain (event (.remoteRollbackComplete "good" 0 3 3)) 3,
   .plain (.manifestSetUpdated (manifests "r2" waves)) 4,
   .plain .planTick 5]

set_option maxRecDepth 4000 in
/-- With the host in a later wave the wave gate holds it, and the condition is met. -/
theorem requeueRun_held :
    QuarantineEffective (Cp.started Db.empty) (requeueRun [⟨["b"], 0⟩, ⟨["a"], 0⟩]) :=
  quarantineEffective_of_held _ _ (by decide)

set_option maxRecDepth 4000 in
/-- Without waves the quarantined closure is dispatched again. -/
theorem requeueRun_not_effective :
    ¬ QuarantineEffective (Cp.started Db.empty) (requeueRun []) := by
  intro h
  have hq : (cpMachine.run (Cp.started Db.empty) ((requeueRun []).take 4)).db.Quarantined
      "stable" "bad" := by decide
  have hplan : ((cpMachine.run (Cp.started Db.empty) ((requeueRun []).take 5)).plan
      (.plain .planTick 5)).any (fun plan =>
        .queueDispatch "a" (.new "stable" "r2") "bad" (4 + minutes 60) ∈ plan.actions &&
        (plan.fleetState.rollouts.lookup (.new "stable" "r2")).any (·.channel = "stable")) =
      true := by decide
  obtain ⟨fs, summary, hout, hlook, hch⟩ := exists_planned_of_check hplan
  exact h ((requeueRun []).take 4) (((requeueRun []).drop 4).take 1) _ [] rfl _ _ hq _ _ _ _ hout
    summary hlook hch

end Nixfleet
