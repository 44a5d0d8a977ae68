import Nixfleet.Host.Run
import Nixfleet.Reconciler.PlannerFacts
import Nixfleet.Rollout.Facts
import Nixfleet.ControlPlane.Frame

set_option autoImplicit false

/-!
# Rules for the reducer's steps

One rule per step: what has to be shown of the small operations for a property of the database
to survive the step. An accepted host event (`handleHostEvent_rule`) is the only way a record
moves; a heartbeat is a series of host events; a plan tick is wave bumps and plan actions.
-/

namespace Nixfleet

section HostEvent

variable {rs : ReducerState} {now : Time} {faults : Faults} {db : Db} {host : HostId}
  {rid : RolloutId} {event : Event}

/-- What is known of a host event that is accepted. -/
structure Accepted (rs : ReducerState) (db : Db) (host : HostId) (rid : RolloutId)
    (event : Event) (manifests : SignedManifestSet) (prior next : HostRolloutState)
    (effects : List Effect) : Prop where
  loaded : db.loadRecord rid host = some prior
  fresh : prior.lastEventSeq < event.seq
  cached : rs.manifests = some manifests
  step : ∃ policy, resolvePolicy manifests prior.channel = some policy ∧
    hostStep prior event policy = .ok (next, effects)

/-- A host event is dropped, or accepted and stored. -/
theorem handleHostEvent_cases (rs : ReducerState) (now : Time) (faults : Faults) (db : Db)
    (host : HostId) (rid : RolloutId) (event : Event) :
    handleHostEvent rs now faults db host rid event = db ∨
    ∃ manifests prior next effects,
      Accepted rs db host rid event manifests prior next effects ∧
      handleHostEvent rs now faults db host rid event =
        acceptHostEvent ⟨manifests, now, faults⟩ db host rid prior.state next effects := by
  unfold handleHostEvent
  split
  · exact .inl rfl
  · split
    · exact .inl rfl
    · rename_i prior hload
      split
      · exact .inl rfl
      · rename_i hseq
        split
        · exact .inl rfl
        · rename_i manifests hm
          split
          · exact .inl rfl
          · rename_i policy hp
            split
            · exact .inl rfl
            · rename_i next effects hstep
              split
              · exact .inl rfl
              · -- the machine has already stored the event's sequence number
                have hnext : { next with lastEventSeq := event.seq } = next := by
                  rw [← (hostStep_spec hstep).seq]
                rw [hnext]
                exact .inr ⟨manifests, prior, next, effects,
                  ⟨hload, Nat.lt_of_not_le hseq, hm, policy, hp, hstep⟩, rfl⟩

/-- **Host-event rule.** -/
theorem handleHostEvent_rule {P : Db → Prop} (hdb : P db)
    (haccept : ∀ manifests prior next effects,
      Accepted rs db host rid event manifests prior next effects →
      P (acceptHostEvent ⟨manifests, now, faults⟩ db host rid prior.state next effects)) :
    P (handleHostEvent rs now faults db host rid event) := by
  rcases handleHostEvent_cases rs now faults db host rid event with
    h | ⟨m, prior, next, effects, hacc, h⟩
  · rw [h]
    exact hdb
  · rw [h]
    exact haccept m prior next effects hacc

/-- An event whose record cannot be read, or whose next record cannot be written, is dropped. -/
theorem handleHostEvent_of_fault (h : faults (.loadRecord rid host event.seq) = true ∨
    faults (.upsertRecord rid host event.seq) = true) :
    handleHostEvent rs now faults db host rid event = db := by
  rcases h with hload | hstore
  · simp only [handleHostEvent, hload, if_true]
  · -- every arm before the failing statement drops the event too
    simp only [handleHostEvent, hstore, if_true]
    repeat' split
    all_goals rfl

theorem handleHostEvent_of_not_accepted (h : ∀ manifests prior next effects,
    ¬ Accepted rs db host rid event manifests prior next effects) :
    handleHostEvent rs now faults db host rid event = db := by
  rcases handleHostEvent_cases rs now faults db host rid event with
    heq | ⟨m, prior, next, effects, hacc, -⟩
  · exact heq
  · exact absurd hacc (h m prior next effects)

/-- What rollout events keep, the report of a changed host state keeps. -/
theorem hostStateChanged_rule {P : Db → Prop} {ctx : ApplierCtx} {src dst : HostState}
    (hevent : ∀ db e, e.isWaveAdvanced = false → e.ends = false → P db →
      P (processRolloutEvent ctx db e))
    (hdb : P db) : P (hostStateChanged ctx db host rid src dst) := by
  unfold hostStateChanged
  split
  · exact hdb
  · dsimp only
    split
    · exact hevent _ _ rfl rfl (hevent _ _ rfl rfl hdb)
    · exact hevent _ _ rfl rfl hdb

end HostEvent

section Synthesis

variable {P : Db → Prop} {rs : ReducerState} {order : MapOrders} {now : Time} {faults : Faults}
  {db : Db}

/-- What a heartbeat synthesizes for one record: one event, or the chain of a `Pending` record whose
target is the reported closure. -/
theorem synthesizeFor_rule {host : HostId} {agentCurrent : ClosureHash} {at' : Time}
    {record : HostRolloutState} (hdb : P db)
    (hcompleted : record.targetClosure = agentCurrent →
      P (handleHostEvent rs now faults db host record.rolloutId
        (.remoteActivationCompleted agentCurrent 0 at' (record.lastEventSeq + 1))))
    (hreverted : P (handleHostEvent rs now faults db host record.rolloutId
      (.remoteRollbackComplete agentCurrent 0 at' (record.lastEventSeq + 1))))
    (hchain : record.targetClosure = agentCurrent →
      P (synthesizePendingToConverged rs now faults db record agentCurrent at')) :
    P (synthesizeFor rs order now faults host agentCurrent at' db record) := by
  unfold synthesizeFor
  split
  · split
    · rename_i htarget
      exact hcompleted htarget
    · exact hdb
  · split
    · rename_i htarget
      exact hcompleted htarget
    · exact hdb
  · split
    · rename_i htarget
      dsimp only
      split
      · exact hdb
      · exact hchain htarget
    · exact hdb
  · split
    · exact hreverted
    · exact hdb
  · exact hdb

/-- The chain of three events, the last one only if the record is still there. -/
theorem synthesizePendingToConverged_rule {record : HostRolloutState} {agentCurrent : ClosureHash}
    {at' : Time}
    (hcompleted : P (handleHostEvent rs now faults
      (handleHostEvent rs now faults db record.hostname record.rolloutId
        (.remoteDispatchAck "" at' (record.lastEventSeq + 1))) record.hostname record.rolloutId
      (.remoteActivationCompleted agentCurrent 0 at' (record.lastEventSeq + 2))))
    (hconverged : ∀ db convergedAt, P db →
      P (handleHostEvent rs now faults db record.hostname record.rolloutId
        (.remoteConverged convergedAt agentCurrent (record.lastEventSeq + 3)))) :
    P (synthesizePendingToConverged rs now faults db record agentCurrent at') := by
  unfold synthesizePendingToConverged
  dsimp only
  split
  · exact hcompleted
  · split
    · exact hcompleted
    · exact hconverged _ _ hcompleted

/-- What the synthesis for every active record of its host keeps, a heartbeat keeps. -/
theorem handleHeartbeat_steps {hb : Heartbeat} (hdb : P db)
    (hrecord : ∀ agentCurrent, hb.currentClosure = some agentCurrent →
      ∀ record ∈ db.activeForHost hb.host, ∀ db, P db →
        P (synthesizeFor rs order now faults hb.host agentCurrent hb.sentAt db record)) :
    P (handleHeartbeat rs order now faults db hb).1 := by
  unfold handleHeartbeat
  dsimp only
  split
  · rename_i agentCurrent hclosure
    unfold maybeSynthesizeRecoveryCompletion
    split
    · exact hdb
    · exact List.foldlRecOn (motive := P) _ _ hdb fun db hdb record hmem =>
        hrecord agentCurrent hclosure record hmem db hdb
  · exact hdb

/-- **Heartbeat rule.** What every remote host event keeps, a heartbeat keeps. -/
theorem handleHeartbeat_rule {hb : Heartbeat}
    (hevent : ∀ db host rid event, event.isLocal = false → P db →
      P (handleHostEvent rs now faults db host rid event))
    (hdb : P db) : P (handleHeartbeat rs order now faults db hb).1 := by
  refine handleHeartbeat_steps hdb fun agentCurrent _ record _ db hdb => ?_
  refine synthesizeFor_rule hdb (fun _ => hevent _ _ _ _ rfl hdb) (hevent _ _ _ _ rfl hdb) ?_
  exact fun _ => synthesizePendingToConverged_rule
    (hevent _ _ _ _ rfl (hevent _ _ _ _ rfl hdb)) fun db _ => hevent db _ _ _ rfl

end Synthesis

section Open

variable {P : Db → Prop} {ctx : ApplierCtx} {db : Db} {rid : RolloutId} {channel : ChannelId}
  {targetRef : ChannelRef}

/-- Opening a rollout writes its row and logs it, supersedes the channel's other live rollouts,
and joins the hosts of the manifest. -/
theorem openRollout_steps (hfault : ctx.faults (.recordRolloutOpened rid) = true → P db)
    (hopened : ctx.faults (.recordRolloutOpened rid) = false →
      P ((db.recordRolloutOpened rid channel targetRef ctx.now).appendEventLog ctx.now none
        (some rid) (.rolloutEvent (.rolloutOpened rid channel targetRef ctx.now))))
    (hsuccessor : ∀ predecessor row, (predecessor, row) ∈ db.listActive → row.channel = channel →
      predecessor ≠ rid → ∀ db, P db →
        P (processRolloutEvent ctx db (.successorOpened predecessor rid ctx.now)))
    (hjoined : ∀ manifest, ctx.manifests.rollouts.lookup channel = some manifest →
      ∀ hw ∈ manifest.hostSet, ∀ db, P db →
        P (processRolloutEvent ctx (db.upsertRecord (pendingRecord ctx rid channel hw))
          (.hostJoined rid hw.hostname hw.waveIndex ctx.now)))
    (hlog : ∀ db hosts, P db → P (db.appendEventLog ctx.now none (some rid)
      (.openRollout rid channel targetRef hosts))) :
    P (openRollout ctx db rid channel targetRef) := by
  unfold openRollout
  dsimp only
  split
  · rename_i hf
    exact hfault hf
  · rename_i hf
    have hpredecessors : ∀ predecessors : List RolloutId,
        (∀ p ∈ predecessors, ∃ row, (p, row) ∈ db.listActive ∧ row.channel = channel ∧ p ≠ rid) →
        P (predecessors.foldl (fun db predecessor => processRolloutEvent ctx db
          (.successorOpened predecessor rid ctx.now)) ((db.recordRolloutOpened rid channel
            targetRef ctx.now).appendEventLog ctx.now none (some rid)
              (.rolloutEvent (.rolloutOpened rid channel targetRef ctx.now)))) := by
      intro predecessors hall
      refine List.foldlRecOn (motive := P) _ _ (hopened (by simpa using hf)) ?_
      intro db' hdb' p hp
      obtain ⟨row, hactive, hchannel, hne⟩ := hall p hp
      exact hsuccessor p row hactive hchannel hne db' hdb'
    have hsuperseded := hpredecessors (if ctx.faults (.listActive rid) then [] else
      (db.listActive.filter fun r => r.2.channel = channel ∧ r.1 ≠ rid).map Prod.fst) ?_
    · split
      · exact hsuperseded
      · rename_i manifest hm
        refine hlog _ _ (List.foldlRecOn (motive := P) manifest.hostSet
          (openHost ctx rid channel) hsuperseded ?_)
        intro db' hdb' hw hmem
        unfold openHost
        split
        · exact hdb'
        · exact hjoined manifest hm hw hmem db' hdb'
    · intro p hp
      split at hp
      · cases hp
      · obtain ⟨⟨p', row⟩, hmem, rfl⟩ := List.mem_map.mp hp
        obtain ⟨hactive, hcond⟩ := List.mem_filter.mp hmem
        obtain ⟨hchannel, hne⟩ := of_decide_eq_true hcond
        exact ⟨row, hactive, hchannel, hne⟩

/-- **Opening rule.** What the row's insert, rollout events and fresh records keep, opening a
rollout keeps. -/
theorem openRollout_rule (hfault : ctx.faults (.recordRolloutOpened rid) = true → P db)
    (hopened : ctx.faults (.recordRolloutOpened rid) = false →
      P ((db.recordRolloutOpened rid channel targetRef ctx.now).appendEventLog ctx.now none
        (some rid) (.rolloutEvent (.rolloutOpened rid channel targetRef ctx.now))))
    (hevent : ∀ db e, e.isWaveAdvanced = false → P db → P (processRolloutEvent ctx db e))
    (hpending : ∀ manifest, ctx.manifests.rollouts.lookup channel = some manifest →
      ∀ hw ∈ manifest.hostSet, ∀ db, P db → P (db.upsertRecord (pendingRecord ctx rid channel hw)))
    (hlog : ∀ db hosts, P db → P (db.appendEventLog ctx.now none (some rid)
      (.openRollout rid channel targetRef hosts))) :
    P (openRollout ctx db rid channel targetRef) :=
  openRollout_steps hfault hopened (fun _ _ _ _ _ _ hdb => hevent _ _ rfl hdb)
    (fun manifest hm hw hmem db hdb => hevent _ _ rfl (hpending manifest hm hw hmem db hdb)) hlog

end Open

/-- **Plan rule.** A tick changes the database through wave bumps, then the plan's actions. -/
theorem runPlan_rule {P : Db → Prop} {rs : ReducerState} {order : MapOrders} {now : Time}
    {faults : Faults} {db : Db} (hdb : P db)
    (hplan : ∀ manifests plan, rs.manifests = some manifests →
      planOf rs order now faults db = some plan → P plan.db)
    (haction : ∀ manifests plan, rs.manifests = some manifests →
      planOf rs order now faults db = some plan → ∀ db, P db → ∀ a ∈ plan.actions,
        P (applyPlanAction ⟨manifests, now, faults⟩ db a)) :
    P (runPlan rs order now faults db) := by
  unfold runPlan
  split
  · rename_i manifests plan hm hp
    exact List.foldlRecOn _ _ (hplan manifests plan hm hp) (haction manifests plan hm hp)
  · exact hdb

/-- What `planOf` returns: the wave bumps on a fleet state built from the database, and the
plan for the result. -/
theorem planOf_eq_some {rs : ReducerState} {order : MapOrders} {now : Time} {faults : Faults}
    {db : Db} {plan : Plan} (h : planOf rs order now faults db = some plan) :
    ∃ manifests fs, rs.manifests = some manifests ∧
      buildFleetState order faults db manifests = some fs ∧
      plan.db = (advanceCurrentWaves order faults manifests.fleet db fs).1 ∧
      plan.fleetState = (advanceCurrentWaves order faults manifests.fleet db fs).2 ∧
      plan.actions = planNext order manifests plan.fleetState rs.quarantines now := by
  unfold planOf at h
  split at h
  · cases h
  · rename_i manifests hm
    split at h
    · cases h
    · rename_i fs hfs
      cases h
      exact ⟨manifests, fs, hm, hfs, rfl, rfl, rfl⟩

/-- The reducer memory a plan tick runs with. -/
theorem Cp.plan_eq_some {cp : Cp} {i : CpInput} {plan : Plan} (h : cp.plan i = some plan) :
    ∃ rs, rs.quarantines = cp.rs.quarantines ∧ rs.manifests = cp.manifestsAt i ∧
      planOf rs i.order i.now i.faults cp.db = some plan := by
  unfold Cp.plan at h
  unfold Cp.manifestsAt
  split at h
  · rename_i set hev
    exact ⟨{ cp.rs with manifests := some set }, rfl, by simp [hev], h⟩
  · rename_i hev
    exact ⟨cp.rs, rfl, by simp [hev], h⟩
  · cases h

/-- An action in the outputs of a step is one of its plan. -/
theorem exists_plan_of_planned_mem {cp : Cp} {i : CpInput} {fs : FleetState} {a : PlanAction}
    (h : .planned fs a ∈ (cpStep cp i).2) :
    ∃ plan, cp.plan i = some plan ∧ plan.fleetState = fs ∧ a ∈ plan.actions := by
  have key : ∀ o : Option Plan, CpOutput.planned fs a ∈ planOutputs o →
      ∃ plan, o = some plan ∧ plan.fleetState = fs ∧ a ∈ plan.actions := by
    intro o ho
    cases o with
    | none => simp [planOutputs] at ho
    | some plan =>
        simp only [planOutputs, List.mem_map, CpOutput.planned.injEq] at ho
        obtain ⟨a', ha', hfs, rfl⟩ := ho
        exact ⟨plan, rfl, hfs, ha'⟩
  unfold cpStep at h
  split at h
  · simp at h
  · exact key _ h
  · simp at h
  · exact key _ h
  · simp at h
  · simp at h
  · simp at h

/-- The actions of its plan are in the outputs of a step. -/
theorem planned_mem_of_plan {cp : Cp} {i : CpInput} {plan : Plan} {a : PlanAction}
    (hplan : cp.plan i = some plan) (ha : a ∈ plan.actions) :
    .planned plan.fleetState a ∈ (cpStep cp i).2 := by
  have hout : CpOutput.planned plan.fleetState a ∈ planOutputs (cp.plan i) := by
    rw [hplan]
    exact List.mem_map_of_mem ha
  have hev : (cpStep cp i).2 = planOutputs (cp.plan i) := by
    unfold Cp.plan at hplan
    unfold cpStep
    split at hplan
    · rename_i heq
      simp only [heq]
    · rename_i heq
      simp only [heq]
    · cases hplan
  rw [hev]
  exact hout

/-- A check of a step's plan: it contains the action, and knows the rollout under a channel. -/
theorem exists_planned_of_check {cp : Cp} {i : CpInput} {a : PlanAction} {rid : RolloutId}
    {channel : ChannelId}
    (h : (cp.plan i).any (fun plan => a ∈ plan.actions &&
      (plan.fleetState.rollouts.lookup rid).any (·.channel = channel)) = true) :
    ∃ fs summary, .planned fs a ∈ (cpStep cp i).2 ∧ fs.rollouts.lookup rid = some summary ∧
      summary.channel = channel := by
  obtain ⟨plan, hplan, hcheck⟩ := (Option.any_eq_true _ _).mp h
  simp only [Bool.and_eq_true, decide_eq_true_eq] at hcheck
  obtain ⟨hmem, hany⟩ := hcheck
  obtain ⟨summary, hlook, hch⟩ := (Option.any_eq_true _ _).mp hany
  exact ⟨plan.fleetState, summary, planned_mem_of_plan hplan hmem, hlook, of_decide_eq_true hch⟩

/-- **What a dispatch in the outputs says about the step's input.** -/
theorem exists_candidate_of_planned {cp : Cp} {i : CpInput} {fs : FleetState} {host : HostId}
    {rid : RolloutId} {closure : ClosureHash} {due : Time}
    (h : .planned fs (.queueDispatch host rid closure due) ∈ (cpStep cp i).2) :
    ∃ plan manifests, cp.plan i = some plan ∧ plan.fleetState = fs ∧
      cp.manifestsAt i = some manifests ∧
      ∃ c ∈ candidates i.order fs, c.rolloutId = rid ∧ c.host = host ∧
        closure = c.record.targetClosure ∧ due = c.record.soakDueAt.getD i.now ∧
        c.evaluate manifests fs cp.rs.quarantines (fun _ => 0) = none := by
  obtain ⟨plan, hplan, hfs, ha⟩ := exists_plan_of_planned_mem h
  obtain ⟨rs, hq, hm, hpl⟩ := Cp.plan_eq_some hplan
  obtain ⟨manifests, fs', hm', -, -, -, hact⟩ := planOf_eq_some hpl
  rw [hact, hq, hfs] at ha
  exact ⟨plan, manifests, hplan, hfs, hm.symm.trans hm', exists_candidate_of_queueDispatch ha⟩

/-! ## Any step -/

/-- The manifests that a step plans with, if it runs a plan tick. -/
def Cp.planSet (cp : Cp) (i : CpInput) : Option SignedManifestSet :=
  match i.event with
  | .manifestSetUpdated set => some set
  | .planTick => cp.rs.manifests
  | _ => none

theorem Cp.planSet_of_plan {cp : Cp} {i : CpInput} {plan : Plan} (h : cp.plan i = some plan) :
    cp.planSet i = cp.manifestsAt i := by
  unfold Cp.plan at h
  unfold Cp.planSet Cp.manifestsAt
  split at h
  · rename_i hev
    simp only [hev]
  · rename_i hev
    simp only [hev]
  · cases h

theorem cpStep_of_planSet {cp : Cp} {i : CpInput} {m : SignedManifestSet}
    (h : cp.planSet i = some m) : ∃ rs, rs.manifests = some m ∧
      (cpStep cp i).1.db = runPlan rs i.order i.now i.faults cp.db := by
  unfold Cp.planSet at h
  unfold cpStep
  split at h
  · rename_i hev
    simp only [hev]
    exact ⟨_, h, rfl⟩
  · rename_i hev
    simp only [hev]
    exact ⟨_, h, rfl⟩
  · cases h

/-- **Step rule.** What host events, the step's plan tick, the sweep and a delivery keep, the step
keeps. A local host event can only be the step's own. -/
theorem cpStep_rule {P : Db → Prop} {cp : Cp} {i : CpInput} (hdb : P cp.db)
    (hevent : ∀ rs db host rid event,
      (event.isLocal = false ∨ i.event = .hostEvent host rid event) → P db →
      P (handleHostEvent rs i.now i.faults db host rid event))
    (hplan : ∀ rs m, cp.planSet i = some m → rs.manifests = some m →
      P (runPlan rs i.order i.now i.faults cp.db))
    (hsweep : i.event = .pruneSweep →
      P (cp.db.pruneFinishedRollouts (i.now - hours finishedRolloutsRetentionHours)))
    (htake : ∀ host, P (cp.db.takeForHost i.rank host).2) : P (cpStep cp i).1.db := by
  unfold cpStep
  split
  · rename_i hi
    exact hevent _ _ _ _ _ (.inr hi) hdb
  · rename_i set hi
    exact hplan _ set (by simp only [Cp.planSet, hi]) rfl
  · exact handleHeartbeat_rule
      (fun db host rid event hremote => hevent _ db host rid event (.inl hremote)) hdb
  · rename_i hi
    cases hm : cp.rs.manifests with
    | none =>
        have hnone : runPlan cp.rs i.order i.now i.faults cp.db = cp.db := by
          simp only [runPlan, hm]
        rw [hnone]
        exact hdb
    | some m => exact hplan cp.rs m (by simp only [Cp.planSet, hi, hm]) hm
  · exact hdb
  · rename_i hi
    exact hsweep hi
  · exact htake _

end Nixfleet
