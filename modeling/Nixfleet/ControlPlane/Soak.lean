import Nixfleet.Reconciler.Manifest
import Nixfleet.ControlPlane.Projection

set_option autoImplicit false

/-!
# Soaking over whole runs

The soak deadline of a host is fixed when its rollout is opened and copied from there on, but
a host that a wave, an edge or a budget holds back is dispatched long after that. A host soaks
for the minutes of its wave exactly as long as it is first queued at the opening, which is
what `QueuedAtOpening` asks of every tick.
-/

namespace Nixfleet

/-- The soak time of a record's own wave. -/
def soakOf (m : SignedManifestSet) (r : HostRolloutState) : Int :=
  minutes (soakMinutesOf m r.channel (waveIndexOf (m.fleet.waves.lookup r.channel) r.hostname))

/-- When the log first records a dispatch of the rollout for the host. -/
def Db.firstQueuedAt (db : Db) (rid : RolloutId) (host : HostId) : Option Time :=
  (db.eventLog.find? fun e => e.payload.queued = some (host, rid)).map (·.ts)

/-- The stamp of a convergence event. -/
def CpEvent.convergedAt : CpEvent → Option Time
  | .hostEvent _ _ (.localConvergedReached t _ _) => some t
  | .hostEvent _ _ (.remoteConverged t _ _) => some t
  | _ => none

/-- Synchronized clocks: the step's clock does not run behind the log, and the agent's stamp
does not run ahead of it. -/
def Synchronized (cp : Cp) (i : CpInput) : Prop :=
  (∀ e ∈ cp.db.eventLog, e.ts ≤ i.now) ∧ ∀ t ∈ i.event.convergedAt, t ≤ i.now

/-- No other manifests than `m` arrive. -/
def CpEvent.Fixed (m : SignedManifestSet) (event : CpEvent) : Prop :=
  ∀ set, event = .manifestSetUpdated set → set = m

/-- A host event brings a host to `Converged` no earlier than the soak time of its wave after
its dispatch was first queued. -/
def SoaksFully (m : SignedManifestSet) (cp : Cp) (is : List CpInput) : Prop :=
  ∀ earlier i later, is = earlier ++ i :: later →
    ∀ host rid event, i.event = .hostEvent host rid event →
      ∀ prior next t, (cpMachine.run cp earlier).db.loadRecord rid host = some prior →
        (cpStep (cpMachine.run cp earlier) i).1.db.loadRecord rid host = some next →
        prior.state ≠ .converged → next.state = .converged →
        (cpMachine.run cp earlier).db.firstQueuedAt rid host = some t → t + soakOf m next ≤ i.now

/-- A candidate that the tick may queue for the first time has no soak time, or has it still
before its deadline. -/
def QueuedAtOpening (m : SignedManifestSet) (cp : Cp) (i : CpInput) : Prop :=
  ∀ plan, cp.plan i = some plan → ∀ c ∈ candidates i.order plan.fleetState,
    c.evaluate m plan.fleetState cp.rs.quarantines (fun _ => 0) = none →
      cp.db.firstQueuedAt c.rolloutId c.host = none →
        soakOf m c.record = 0 ∨ ∀ due ∈ c.record.soakDueAt, i.now + soakOf m c.record ≤ due

instance (cp : Cp) (i : CpInput) : Decidable (Synchronized cp i) :=
  inferInstanceAs (Decidable (_ ∧ _))

instance (m : SignedManifestSet) (cp : Cp) (i : CpInput) : Decidable (QueuedAtOpening m cp i) :=
  match hp : cp.plan i with
  | some plan =>
      decidable_of_iff
        (∀ c ∈ candidates i.order plan.fleetState,
          (c.evaluate m plan.fleetState cp.rs.quarantines (fun _ => 0)).isNone →
            (cp.db.firstQueuedAt c.rolloutId c.host).isNone →
              soakOf m c.record = 0 ∨
                c.record.soakDueAt.all (fun due => i.now + soakOf m c.record ≤ due))
        (by simp [QueuedAtOpening, hp, Option.all_eq_true])
  | none => isTrue (by simp [QueuedAtOpening, hp])

/-! ## The first queueing in the log -/

section FirstQueued

variable {rid : RolloutId} {host : HostId}

theorem firstQueuedAt_appendEventLog (db : Db) (t : Time) (h : Option HostId)
    (r : Option RolloutId) (p : LogPayload) :
    (db.appendEventLog t h r p).firstQueuedAt rid host =
      (db.firstQueuedAt rid host).or (if p.queued = some (host, rid) then some t else none) := by
  unfold Db.firstQueuedAt Db.appendEventLog
  rw [List.find?_append, Option.map_or]
  congr 1
  rw [List.find?_singleton]
  split <;> simp_all

theorem logReading_firstQueuedAt : LogReading fun db => db.firstQueuedAt rid host where
  congr h := by
    unfold Db.firstQueuedAt
    rw [h]
  append db t h r p hp _ := by
    rw [firstQueuedAt_appendEventLog, hp, if_neg nofun, Option.or_none]

theorem mem_eventLog_of_firstQueuedAt {db : Db} {t : Time}
    (h : db.firstQueuedAt rid host = some t) : ∃ e ∈ db.eventLog, e.ts = t := by
  obtain ⟨e, he, rfl⟩ := Option.map_eq_some_iff.mp h
  exact ⟨e, List.mem_of_find?_eq_some he, rfl⟩

theorem applyEffect_firstQueuedAt (ctx : ApplierCtx) (db : Db) (e : Effect) :
    (applyEffect ctx db e).firstQueuedAt rid host = db.firstQueuedAt rid host := by
  by_cases he : ∃ host rid payload, e = .remoteAppendEventLog host rid payload
  · obtain ⟨host', rid', payload, rfl⟩ := he
    -- an agent event is no queued dispatch
    have hlog : (db.appendEventLog ctx.now (some host') (some rid')
        (.agentEvent payload)).firstQueuedAt rid host = db.firstQueuedAt rid host := by
      rw [firstQueuedAt_appendEventLog, if_neg nofun, Option.or_none]
    simp only [applyEffect]
    split <;> exact hlog
  · exact logReading_firstQueuedAt.effect ctx db fun host' rid' payload h =>
      he ⟨host', rid', payload, h⟩

theorem handleHostEvent_firstQueuedAt (rs : ReducerState) (now : Time) (faults : Faults)
    (db : Db) (host' : HostId) (rid' : RolloutId) (event : Event) :
    (handleHostEvent rs now faults db host' rid' event).firstQueuedAt rid host =
      db.firstQueuedAt rid host := by
  refine handleHostEvent_rule
    (P := fun db' => db'.firstQueuedAt rid host = db.firstQueuedAt rid host) rfl ?_
  intro m prior next effects _
  refine hostStateChanged_rule
    (P := fun db' => db'.firstQueuedAt rid host = db.firstQueuedAt rid host) ?_ ?_
  · intro db' e _ _ hdb'
    exact (logReading_firstQueuedAt.rolloutEvent _ db' e).trans hdb'
  · exact foldl_proj_eq (f := fun db : Db => db.firstQueuedAt rid host)
      (applyEffect_firstQueuedAt _) _ _

/-- A plan action queues what the log does not know yet at its own time, and no other. -/
theorem applyPlanAction_firstQueuedAt {ctx : ApplierCtx} {db : Db} {a : PlanAction} {t : Time}
    (h : (applyPlanAction ctx db a).firstQueuedAt rid host = some t) :
    db.firstQueuedAt rid host = some t ∨ db.firstQueuedAt rid host = none ∧ t = ctx.now ∧
      ∃ closure due, a = .queueDispatch host rid closure due := by
  cases a with
  | openRollout rid' channel targetRef =>
      exact .inl
        ((logReading_firstQueuedAt.rolloutOpened ctx db rid' channel targetRef).symm.trans h)
  | queueDispatch host' rid' closure due =>
      simp only [applyPlanAction, queueDispatch] at h
      split at h
      · exact .inl h
      · rw [firstQueuedAt_appendEventLog, Option.or_eq_some_iff] at h
        rcases h with hold | ⟨hnone, hnew⟩
        · exact .inl hold
        · split at hnew
          · rename_i heq
            simp only [LogPayload.queued, Option.some.injEq, Prod.mk.injEq] at heq
            obtain ⟨rfl, rfl⟩ := heq
            cases hnew
            exact .inr ⟨hnone, rfl, closure, due, rfl⟩
          · cases hnew
  | deferDispatch host' rid' gate reason =>
      exact .inl ((logReading_firstQueuedAt.append _ _ _ _ _ rfl rfl).symm.trans h)

theorem applyPlanAction_firstQueuedAt_of_some {ctx : ApplierCtx} {db : Db} {a : PlanAction}
    {t : Time} (h : db.firstQueuedAt rid host = some t) :
    (applyPlanAction ctx db a).firstQueuedAt rid host = some t := by
  cases a with
  | openRollout rid' channel targetRef =>
      exact (logReading_firstQueuedAt.rolloutOpened ctx db rid' channel targetRef).trans h
  | queueDispatch host' rid' closure due =>
      simp only [applyPlanAction, queueDispatch]
      split
      · exact h
      · rw [firstQueuedAt_appendEventLog]
        show (db.firstQueuedAt rid host).or _ = some t
        rw [h, Option.some_or]
  | deferDispatch host' rid' gate reason =>
      exact (logReading_firstQueuedAt.append _ _ _ _ _ rfl rfl).trans h

end FirstQueued

/-! ## The invariant -/

/-- The records are keyed, and a record that was queued has no soak time, or keeps it from its
first queueing to its deadline. -/
structure SoakOk (m : SignedManifestSet) (db : Db) : Prop where
  keyed : db.RecordsKeyed
  due : ∀ rid host r, db.loadRecord rid host = some r → ∃ due, r.soakDueAt = some due ∧
    ∀ t, db.firstQueuedAt rid host = some t → soakOf m r = 0 ∨ t + soakOf m r ≤ due

theorem soakOf_congr {m : SignedManifestSet} {r r' : HostRolloutState} (h : SameDispatch r r') :
    soakOf m r' = soakOf m r := by
  unfold soakOf
  rw [h.channel, h.hostname]

/-- A record has its soak time from the opening to its deadline. -/
theorem soak_of_fresh {ctx : ApplierCtx} (hm : ctx.manifests.Projected) {rid : RolloutId}
    {host : HostId} {r : HostRolloutState} (h : FreshRecord ctx rid host r) :
    r.rolloutId = rid ∧ r.hostname = host ∧
      r.soakDueAt = some (ctx.now + soakOf ctx.manifests r) := by
  obtain ⟨channel, manifest, hlook, hw, hhw, rfl, rfl⟩ := h
  refine ⟨rfl, rfl, ?_⟩
  unfold soakOf pendingRecord HostRolloutState.newPending computeSoakDueAt
  rw [hm.waveIndex hlook hhw]

section Steps

variable {m : SignedManifestSet} {rs : ReducerState} {order : MapOrders} {now : Time}
  {faults : Faults} {db : Db}

theorem handleHostEvent_soakOk (h : SoakOk m db) (host : HostId) (rid : RolloutId)
    (event : Event) : SoakOk m (handleHostEvent rs now faults db host rid event) := by
  constructor
  · exact handleHostEvent_recordsKeyed h.keyed host rid event
  · intro rid' host' r hr
    rw [handleHostEvent_firstQueuedAt]
    rcases handleHostEvent_record h.keyed hr with hold | ⟨-, -, _, prior, _, hacc⟩
    · exact h.due _ _ _ hold
    · -- the moved record keeps its deadline, and is of the same wave
      obtain ⟨policy, -, hok⟩ := hacc.step
      have hsame := (hostStep_spec hok).same
      obtain ⟨due, hdue, hsoak⟩ := h.due _ _ _ hacc.loaded
      rw [soakOf_congr hsame]
      exact ⟨due, hsame.soakDueAt.trans hdue, hsoak⟩

/-- What holds of the database while the actions of a tick are applied to `db`. -/
structure SoakTick (m : SignedManifestSet) (now : Time) (db db' : Db) : Prop where
  ok : SoakOk m db'
  past : ∀ rid host t, db'.firstQueuedAt rid host = some t → t ≤ now
  queued : ∀ rid host, db'.firstQueuedAt rid host = none → db.firstQueuedAt rid host = none
  fresh : ∀ rid host r, db'.loadRecord rid host = some r → db.loadRecord rid host = some r ∨
    r.soakDueAt = some (now + soakOf m r)

theorem applyPlanAction_soakTick (hm : m.Projected) {db' : Db} (h : SoakTick m now db db')
    {a : PlanAction}
    (ha : ∀ host rid closure due, a = .queueDispatch host rid closure due →
      db.firstQueuedAt rid host = none → ∃ r, db.loadRecord rid host = some r ∧
        (soakOf m r = 0 ∨ ∀ due ∈ r.soakDueAt, now + soakOf m r ≤ due)) :
    SoakTick m now db (applyPlanAction ⟨m, now, faults⟩ db' a) := by
  have moved : ∀ {rid host r},
      (applyPlanAction ⟨m, now, faults⟩ db' a).loadRecord rid host = some r →
      db'.loadRecord rid host = some r ∨
        r.rolloutId = rid ∧ r.hostname = host ∧ r.soakDueAt = some (now + soakOf m r) := by
    intro rid host r hr
    rcases applyPlanAction_record hr with hold | ⟨-, hfresh⟩
    · exact .inl hold
    · exact .inr (soak_of_fresh hm hfresh)
  refine ⟨⟨?_, ?_⟩, ?_, ?_, ?_⟩
  · intro rid host r hr
    rcases moved hr with hold | ⟨hrid, hhost, -⟩
    · exact h.ok.keyed _ _ _ hold
    · exact ⟨hrid, hhost⟩
  · intro rid host r hr
    rcases moved hr with hold | ⟨-, -, hdue⟩
    · obtain ⟨due, hdue, hsoak⟩ := h.ok.due _ _ _ hold
      refine ⟨due, hdue, fun t ht => ?_⟩
      rcases applyPlanAction_firstQueuedAt ht with hq | ⟨hnone, rfl, closure, due', rfl⟩
      · exact hsoak t hq
      · -- queued for the first time, by this action
        -- a record from before the tick is late enough by `ha`; a fresh one is due a full soak
        -- from now
        rcases h.fresh _ _ _ hold with hr₀ | hfresh
        · obtain ⟨r', hr', hlate⟩ := ha _ _ _ _ rfl (h.queued _ _ hnone)
          rw [hr₀] at hr'
          cases hr'
          exact hlate.imp_right fun hle => hle due hdue
        · rw [hdue] at hfresh
          cases hfresh
          exact .inr le_rfl
    · refine ⟨_, hdue, fun t ht => .inr ?_⟩
      have hle : t ≤ now := by
        rcases applyPlanAction_firstQueuedAt ht with hq | ⟨-, rfl, -⟩
        · exact h.past _ _ _ hq
        · exact le_rfl
      exact Int.add_le_add_right hle _
  · intro rid host t ht
    rcases applyPlanAction_firstQueuedAt ht with hq | ⟨-, rfl, -⟩
    · exact h.past _ _ _ hq
    · exact le_rfl
  · intro rid host hnone
    refine h.queued rid host ?_
    by_contra hsome
    obtain ⟨t, ht⟩ := Option.ne_none_iff_exists'.mp hsome
    have hkeep : (applyPlanAction ⟨m, now, faults⟩ db' a).firstQueuedAt rid host = some t :=
      applyPlanAction_firstQueuedAt_of_some ht
    rw [hnone] at hkeep
    cases hkeep
  · intro rid host r hr
    rcases moved hr with hold | ⟨-, -, hdue⟩
    · exact h.fresh _ _ _ hold
    · exact .inr hdue

theorem runPlan_soakOk (hm : m.Projected) (hrs : ∀ set, rs.manifests = some set → set = m)
    (h : SoakOk m db) (hclock : ∀ e ∈ db.eventLog, e.ts ≤ now)
    (hopen : ∀ plan, planOf rs order now faults db = some plan →
      ∀ c ∈ candidates order plan.fleetState,
        c.evaluate m plan.fleetState rs.quarantines (fun _ => 0) = none →
          db.firstQueuedAt c.rolloutId c.host = none →
            soakOf m c.record = 0 ∨ ∀ due ∈ c.record.soakDueAt, now + soakOf m c.record ≤ due) :
    SoakOk m (runPlan rs order now faults db) := by
  have hstart : SoakTick m now db db := by
    refine ⟨h, fun rid host t ht => ?_, fun _ _ hnone => hnone, fun _ _ _ hr => .inl hr⟩
    obtain ⟨e, he, rfl⟩ := mem_eventLog_of_firstQueuedAt ht
    exact hclock e he
  refine (runPlan_rule (P := SoakTick m now db) hstart ?_ ?_).ok
  · intro manifests plan hmf hplan
    obtain ⟨_, fs, _, _, hdb, _, _⟩ := planOf_eq_some hplan
    -- the wave bumps touch neither the records nor the log
    have hrec : plan.db.hostRolloutRecords = db.hostRolloutRecords := by
      rw [hdb, advanceCurrentWaves_hostRolloutRecords]
    have hlog : plan.db.eventLog = db.eventLog := by
      rw [hdb]
      exact advanceCurrentWaves_proj _ _ _ _ _ (f := Db.eventLog) fun _ _ _ => rfl
    refine ⟨⟨?_, ?_⟩, ?_, ?_, ?_⟩
    · intro rid host r hr
      rw [loadRecord_congr hrec] at hr
      exact h.keyed _ _ _ hr
    · intro rid host r hr
      rw [loadRecord_congr hrec] at hr
      rw [logReading_firstQueuedAt.congr hlog]
      exact h.due _ _ _ hr
    · intro rid host t ht
      rw [logReading_firstQueuedAt.congr hlog] at ht
      exact hstart.past _ _ _ ht
    · intro rid host hnone
      rwa [logReading_firstQueuedAt.congr hlog] at hnone
    · intro rid host r hr
      rw [loadRecord_congr hrec] at hr
      exact .inl hr
  · intro manifests plan hmf hplan db' hdb' a ha
    obtain rfl := hrs manifests hmf
    refine applyPlanAction_soakTick hm hdb' ?_
    rintro host rid closure due rfl hnone
    obtain ⟨c, hc, rfl, rfl, heval⟩ := exists_candidate_of_mem_plan hplan hmf ha
    have hload := loadRecord_of_candidate hplan h.keyed hc
    exact ⟨c.record, hload, hopen plan hplan c hc heval hnone⟩

end Steps

/-- The manifests in the reducer's memory are `m`, and the database is in order. -/
def CpSoakOk (m : SignedManifestSet) (cp : Cp) : Prop :=
  (∀ set, cp.rs.manifests = some set → set = m) ∧ SoakOk m cp.db

theorem cpStep_soakOk {m : SignedManifestSet} (hm : m.Projected) {cp : Cp} (h : CpSoakOk m cp)
    {i : CpInput} (hfixed : i.event.Fixed m) (hsync : Synchronized cp i)
    (hopen : QueuedAtOpening m cp i) :
    CpSoakOk m (cpStep cp i).1 := by
  obtain ⟨hrs, hdb⟩ := h
  unfold QueuedAtOpening Cp.plan at hopen
  unfold cpStep
  split
  · exact ⟨hrs, handleHostEvent_soakOk hdb _ _ _⟩
  · rename_i set hev
    obtain rfl := hfixed set hev
    have hrs' : ∀ set', ({ cp.rs with manifests := some set } : ReducerState).manifests =
        some set' → set' = set := by
      rintro set' ⟨⟩
      rfl
    simp only [hev] at hopen
    exact ⟨hrs', runPlan_soakOk hm hrs' hdb hsync.1 hopen⟩
  · exact ⟨hrs, handleHeartbeat_rule (P := SoakOk m)
      (fun _ host rid event _ hdb => handleHostEvent_soakOk hdb host rid event) hdb⟩
  · rename_i hev
    simp only [hev] at hopen
    exact ⟨hrs, runPlan_soakOk hm hrs hdb hsync.1 hopen⟩
  · exact ⟨nofun, hdb⟩
  · refine ⟨hrs, fun rid host r hr => ?_, fun rid host r hr => ?_⟩
    · exact hdb.keyed _ _ _ (loadRecord_of_prune hr)
    · exact hdb.due _ _ _ (loadRecord_of_prune hr)
  · rename_i host _
    have hlog : (cp.db.takeForHost i.rank host).2.eventLog = cp.db.eventLog :=
      takeForHost_proj cp.db (f := Db.eventLog) (fun _ _ => rfl) i.rank host
    refine ⟨hrs, fun rid host r hr => ?_, fun rid host r hr => ?_⟩
    · rw [loadRecord_takeForHost] at hr
      exact hdb.keyed _ _ _ hr
    · rw [loadRecord_takeForHost] at hr
      rw [logReading_firstQueuedAt.congr hlog]
      exact hdb.due _ _ _ hr

/-- **Hosts soak where they are queued at the opening.** -/
theorem soaksFully_of_queuedAtOpening (m : SignedManifestSet) (hm : m.Projected)
    (is : List CpInput) (hfixed : ∀ i ∈ is, i.event.Fixed m)
    (hsync : cpMachine.Meets Synchronized Cp.initial is)
    (hopen : cpMachine.Meets (QueuedAtOpening m) Cp.initial is) :
    SoaksFully m Cp.initial is := by
  rintro earlier i later rfl host rid event hev prior next t hprior hnext hnot hconv hq
  have hinit : CpSoakOk m Cp.initial := by
    refine ⟨nofun, ?_, ?_⟩ <;> intro rid host r hr <;> cases hr
  have hstep : ∀ cp i, CpSoakOk m cp →
      i.event.Fixed m ∧ Synchronized cp i ∧ QueuedAtOpening m cp i →
      CpSoakOk m (cpMachine.step cp i).1 :=
    fun cp i hcp hok => cpStep_soakOk hm hcp hok.1 hok.2.1 hok.2.2
  have hmeets := Machine.Meets.and cpMachine (cpMachine.meets_of_forall hfixed Cp.initial)
    (Machine.Meets.and cpMachine hsync hopen)
  have hinv : CpSoakOk m (cpMachine.run Cp.initial earlier) :=
    cpMachine.run_invariant hstep hinit (Machine.Meets.of_append cpMachine hmeets)
  -- the invariant stands before the event; what is left is that event
  have hsync' := Machine.Meets.at_step cpMachine hsync
  have hevent' : (cpStep (cpMachine.run Cp.initial earlier) i).1.db = handleHostEvent
      (cpMachine.run Cp.initial earlier).rs i.now i.faults (cpMachine.run Cp.initial earlier).db
      host rid event := by
    simp only [cpStep, hev]
  rw [hevent'] at hnext
  rcases handleHostEvent_record hinv.2.keyed hnext with hold | ⟨-, -, _, prior', effects, hacc⟩
  · rw [hprior] at hold
    cases hold
    exact absurd hconv hnot
  · obtain ⟨policy, -, hok⟩ := hacc.step
    have hspec := hostStep_spec hok
    obtain ⟨-, tc, c, n, hevent, -, hduele⟩ := hspec.due hconv
    obtain ⟨due, hdue, hsoak⟩ := hinv.2.due _ _ _ hacc.loaded
    -- the event is stamped no later than the clock that reads it
    have hstamp : tc ≤ i.now := by
      refine hsync'.2 tc ?_
      rw [hev]
      rcases hevent with rfl | rfl <;> rfl
    rw [soakOf_congr hspec.same]
    -- no soak is asked for, or the deadline is a full soak after the queueing
    rcases hsoak t hq with hzero | hle
    · obtain ⟨e, he, rfl⟩ := mem_eventLog_of_firstQueuedAt hq
      rw [hzero, Int.add_zero]
      exact hsync'.1 e he
    · exact le_trans hle (le_trans (hduele due hdue) hstamp)

/-- Two waves of one host; the second host soaks for the given minutes. -/
def soakManifests (soakB : Nat) : SignedManifestSet :=
  stableManifests (stableFleet "r1" [("a", "new"), ("b", "new")]
    ⟨"staged", [⟨Selector.empty, 60⟩, ⟨Selector.empty, soakB⟩], .halt⟩
    [⟨["a"], 60⟩, ⟨["b"], soakB⟩] [] [])

/-- Host `a` is queued at the opening and converges after an hour; then host `b` is queued,
and converges as soon as it has switched. -/
def soakRun (soakB : Nat) : List CpInput :=
  let rid := RolloutId.new "stable" "r1"
  let event (host : HostId) (t : Nat) (e : Event) :=
    CpInput.plain (.hostEvent host rid e) (minutes t)
  [.plain (.manifestSetUpdated (soakManifests soakB)) (minutes 0),
   .plain .planTick (minutes 0),
   .plain (.takeDispatch "a") (minutes 1),
   event "a" 1 (.remoteDispatchAck "old" (minutes 1) 1),
   event "a" 2 (.remoteActivationCompleted "new" 0 (minutes 2) 2),
   event "a" 60 (.remoteConverged (minutes 60) "new" 3),
   .plain .planTick (minutes 61),
   .plain (.takeDispatch "b") (minutes 61),
   event "b" 61 (.remoteDispatchAck "old" (minutes 61) 1),
   event "b" 62 (.remoteActivationCompleted "new" 0 (minutes 62) 2),
   event "b" 62 (.remoteConverged (minutes 62) "new" 3)]

theorem soakRun_fixed (soakB : Nat) : ∀ i ∈ soakRun soakB, i.event.Fixed (soakManifests soakB) := by
  intro i hi set hset
  simp only [soakRun, List.mem_cons, List.not_mem_nil, or_false] at hi
  rcases hi with rfl | rfl | rfl | rfl | rfl | rfl | rfl | rfl | rfl | rfl | rfl <;> cases hset
  rfl

set_option maxRecDepth 8000 in
/-- When the second wave does not soak, both hosts soak fully. -/
theorem soakRun_soaksFully : SoaksFully (soakManifests 0) Cp.initial (soakRun 0) :=
  soaksFully_of_queuedAtOpening _ (stableManifests_projected _) _ (soakRun_fixed 0) (by decide)
    (by decide)

set_option maxRecDepth 8000 in
/-- When it is to soak for an hour, host `b` converges one minute after it was queued. -/
theorem soakRun_not_soaksFully :
    (∀ i ∈ soakRun 60, i.event.Fixed (soakManifests 60)) ∧
    cpMachine.Meets Synchronized Cp.initial (soakRun 60) ∧
    ¬ SoaksFully (soakManifests 60) Cp.initial (soakRun 60) := by
  refine ⟨soakRun_fixed 60, by decide, fun h => ?_⟩
  have hq : (cpMachine.run Cp.initial ((soakRun 60).take 10)).db.firstQueuedAt
      (.new "stable" "r1") "b" = some (minutes 61) := by decide
  have hprior : ((cpMachine.run Cp.initial ((soakRun 60).take 10)).db.loadRecord
      (.new "stable" "r1") "b").any (·.state = .soaking) = true := by decide
  have hnext : ((cpMachine.run Cp.initial (soakRun 60)).db.loadRecord
      (.new "stable" "r1") "b").any (fun r => r.state = .converged ∧
        soakOf (soakManifests 60) r = minutes 60) = true := by decide
  obtain ⟨prior, hload, hst⟩ := (Option.any_eq_true _ _).mp hprior
  obtain ⟨next, hload', hst'⟩ := (Option.any_eq_true _ _).mp hnext
  simp only [decide_eq_true_eq] at hst hst'
  have hle := h ((soakRun 60).take 10) _ [] rfl "b" _ _ rfl prior next _ hload hload'
    (by rw [hst]; decide) hst'.1 hq
  rw [hst'.2] at hle
  exact absurd hle (by decide)

end Nixfleet
