import Nixfleet.ControlPlane.Rules

set_option autoImplicit false

/-!
# The host records

Where a host record can come from. A host event replaces the record it is about by the next
state of the host machine, a plan tick writes fresh `Pending` records for the rollouts it
opens, and nothing else writes records. `cpStep_records` turns this into an invariant rule: a
property of single records that fresh records have and the host machine keeps is kept by every
step of the control plane.
-/

namespace Nixfleet

/-- Every record is stored under its own key. -/
def Db.RecordsKeyed (db : Db) : Prop :=
  ∀ rid host r, db.loadRecord rid host = some r → r.rolloutId = rid ∧ r.hostname = host

/-- The record is one that opening the rollout writes for the host. -/
def FreshRecord (ctx : ApplierCtx) (rid : RolloutId) (host : HostId) (r : HostRolloutState) :
    Prop :=
  ∃ channel manifest, ctx.manifests.rollouts.lookup channel = some manifest ∧
    ∃ hw ∈ manifest.hostSet, hw.hostname = host ∧ r = pendingRecord ctx rid channel hw

theorem loadRecord_upsertRecord (db : Db) (s : HostRolloutState) (rid : RolloutId)
    (host : HostId) :
    (db.upsertRecord s).loadRecord rid host =
      if rid = s.rolloutId ∧ host = s.hostname then some s else db.loadRecord rid host := by
  simp only [Db.loadRecord, Db.upsertRecord, Table.lookup_insert_eq, Prod.mk.injEq]

theorem loadRecord_congr {db db' : Db} (h : db'.hostRolloutRecords = db.hostRolloutRecords)
    (rid : RolloutId) (host : HostId) : db'.loadRecord rid host = db.loadRecord rid host := by
  unfold Db.loadRecord
  rw [h]

/-- The sweep only deletes records. -/
theorem loadRecord_of_prune {db : Db} {cutoff : Time} {rid : RolloutId} {host : HostId}
    {r : HostRolloutState} (h : (db.pruneFinishedRollouts cutoff).loadRecord rid host = some r) :
    db.loadRecord rid host = some r :=
  ((Table.lookup_filterRows _ _ _ _).mp h).1

theorem loadRecord_takeForHost (db : Db) (rank : RolloutId → Nat) (host' : HostId)
    (rid : RolloutId) (host : HostId) :
    (db.takeForHost rank host').2.loadRecord rid host = db.loadRecord rid host :=
  loadRecord_congr (takeForHost_hostRolloutRecords ..) rid host

theorem mem_activeForHost {db : Db} {host : HostId} {r : HostRolloutState} :
    r ∈ db.activeForHost host ↔
      ∃ rid, db.loadRecord rid host = some r ∧ r.state.isActive = true := by
  simp only [Db.activeForHost, Db.loadRecord, List.mem_map, List.mem_filter, Prod.exists,
    Table.mem_rows, Bool.and_eq_true, decide_eq_true_eq]
  constructor
  · rintro ⟨rid, host', r', ⟨hr, rfl, hactive⟩, rfl⟩
    exact ⟨rid, hr, hactive⟩
  · rintro ⟨rid, hr, hactive⟩
    exact ⟨rid, host, r, ⟨hr, rfl, hactive⟩, rfl⟩

/-! ## Plan actions -/

section Actions

variable {ctx : ApplierCtx} {db : Db} {rid : RolloutId} {host : HostId} {r : HostRolloutState}

theorem openRollout_record {rid' : RolloutId} {channel : ChannelId} {targetRef : ChannelRef}
    (h : (openRollout ctx db rid' channel targetRef).loadRecord rid host = some r) :
    db.loadRecord rid host = some r ∨
      rid = rid' ∧ r.channel = channel ∧ FreshRecord ctx rid host r := by
  revert h
  refine openRollout_rule (P := fun db' : Db => db'.loadRecord rid host = some r → _)
    (fun _ => .inl) (fun _ h => ?_) (fun db' e _ ih h => ?_)
    (fun manifest hm hw hmem db' ih h => ?_)
    fun _ _ ih => ih
  · exact .inl (by simpa [Db.loadRecord] using h)
  · rw [loadRecord_congr (processRolloutEvent_hostRolloutRecords ctx db' e)] at h
    exact ih h
  · rw [loadRecord_upsertRecord] at h
    split at h
    · -- the record of the manifest's host
      rename_i hkey
      cases h
      obtain ⟨rfl, rfl⟩ := hkey
      exact .inr ⟨rfl, rfl, channel, manifest, hm, hw, hmem, rfl, rfl⟩
    · exact ih h

/-- Opening another rollout leaves the records alone. -/
theorem openRollout_loadRecord_of_ne {rid' : RolloutId}
    (hne : rid ≠ rid') (channel : ChannelId) (targetRef : ChannelRef) (host : HostId) :
    (openRollout ctx db rid' channel targetRef).loadRecord rid host = db.loadRecord rid host := by
  refine openRollout_rule (P := fun db' => db'.loadRecord rid host = db.loadRecord rid host)
    (fun _ => rfl) (fun _ => ?_) (fun db' e _ hdb' => ?_) (fun _ _ hw _ db' hdb' => ?_)
    fun _ _ hdb' => hdb'
  · exact loadRecord_congr (by simp) rid host
  · rw [loadRecord_congr (processRolloutEvent_hostRolloutRecords ctx db' e)]
    exact hdb'
  · rw [loadRecord_upsertRecord, if_neg fun hkey => hne hkey.1]
    exact hdb'

/-- A plan action leaves a record as it is, or opens the record's rollout. -/
theorem applyPlanAction_record {a : PlanAction}
    (h : (applyPlanAction ctx db a).loadRecord rid host = some r) :
    db.loadRecord rid host = some r ∨
      (∃ targetRef, a = .openRollout rid r.channel targetRef) ∧ FreshRecord ctx rid host r := by
  cases a with
  | openRollout rid' channel targetRef =>
      rcases openRollout_record h with hold | ⟨rfl, rfl, hfresh⟩
      · exact .inl hold
      · exact .inr ⟨⟨targetRef, rfl⟩, hfresh⟩
  | queueDispatch host' rid' closure due =>
      rw [applyPlanAction, loadRecord_congr (queueDispatch_hostRolloutRecords ..)] at h
      exact .inl h
  | deferDispatch host' rid' gate reason => exact .inl h

end Actions

/-! ## The steps -/

section Steps

variable {rid : RolloutId} {host : HostId} {r : HostRolloutState}

/-- After a plan tick a record is as before, or its rollout was opened by the tick. -/
theorem runPlan_record {rs : ReducerState} {order : MapOrders} {now : Time} {faults : Faults}
    {db : Db} (h : (runPlan rs order now faults db).loadRecord rid host = some r) :
    db.loadRecord rid host = some r ∨
      ∃ manifests plan targetRef, rs.manifests = some manifests ∧
        planOf rs order now faults db = some plan ∧
        .openRollout rid r.channel targetRef ∈ plan.actions ∧
        FreshRecord ⟨manifests, now, faults⟩ rid host r := by
  revert h
  refine runPlan_rule (P := fun db' => db'.loadRecord rid host = some r → _) .inl ?_ ?_
  · intro manifests plan _ hplan h
    obtain ⟨_, _, _, _, hdb, _, _⟩ := planOf_eq_some hplan
    rw [hdb, loadRecord_congr (advanceCurrentWaves_hostRolloutRecords ..)] at h
    exact .inl h
  · intro manifests plan hm hplan db' ih a ha h
    rcases applyPlanAction_record h with hold | ⟨⟨targetRef, rfl⟩, hfresh⟩
    · exact ih hold
    · exact .inr ⟨manifests, plan, targetRef, hm, hplan, ha, hfresh⟩

theorem acceptHostEvent_hostRolloutRecords (ctx : ApplierCtx) (db : Db) (host : HostId)
    (rid : RolloutId) (src : HostState) (next : HostRolloutState) (effects : List Effect) :
    (acceptHostEvent ctx db host rid src next effects).hostRolloutRecords =
      (db.upsertRecord next).hostRolloutRecords := by
  refine hostStateChanged_rule
    (P := fun db' => db'.hostRolloutRecords = (db.upsertRecord next).hostRolloutRecords) ?_ ?_
  · intro db' e _ _ hdb'
    rw [processRolloutEvent_hostRolloutRecords, hdb']
  · exact foldl_applyEffect_hostRolloutRecords ..

/-- After a host event a record is as before, or it is the one the event moved. -/
theorem handleHostEvent_record {rs : ReducerState} {now : Time} {faults : Faults} {db : Db}
    {host' : HostId} {rid' : RolloutId} {event : Event} (hk : db.RecordsKeyed)
    (h : (handleHostEvent rs now faults db host' rid' event).loadRecord rid host = some r) :
    db.loadRecord rid host = some r ∨
      rid = rid' ∧ host = host' ∧ ∃ manifests prior effects,
        Accepted rs db host rid event manifests prior r effects := by
  rcases handleHostEvent_cases rs now faults db host' rid' event with
    heq | ⟨m, prior, next, effects, hacc, heq⟩
  · rw [heq] at h
    exact .inl h
  · rw [heq, loadRecord_congr (acceptHostEvent_hostRolloutRecords ..),
      loadRecord_upsertRecord] at h
    obtain ⟨policy, -, hstep⟩ := hacc.step
    -- the upsert goes to the record's own key, which is the event's by `RecordsKeyed`
    have hsame := (hostStep_spec hstep).same
    obtain ⟨hrid, hhost⟩ := hk _ _ _ hacc.loaded
    split at h
    · rename_i hkey
      cases h
      have hrid' : rid = rid' := by rw [hkey.1, hsame.rolloutId, hrid]
      have hhost' : host = host' := by rw [hkey.2, hsame.hostname, hhost]
      subst hrid'
      subst hhost'
      exact .inr ⟨rfl, rfl, m, prior, effects, hacc⟩
    · exact .inl h

/-- A legal event with a new number, which meets no reason to drop it, moves its record. -/
theorem handleHostEvent_moves {rs : ReducerState} {now : Time} {faults : Faults} {db : Db}
    {event : Event} {prior : HostRolloutState} (hk : db.RecordsKeyed) {m : SignedManifestSet}
    {policy : RolloutPolicy} {next : HostRolloutState} {effects : List Effect}
    (hload : db.loadRecord rid host = some prior) (hseq : prior.lastEventSeq < event.seq)
    (hm : rs.manifests = some m) (hp : resolvePolicy m prior.channel = some policy)
    (hstep : hostStep prior event policy = .ok (next, effects))
    (hloads : faults (.loadRecord rid host event.seq) = false)
    (hstores : faults (.upsertRecord rid host event.seq) = false) :
    (handleHostEvent rs now faults db host rid event).loadRecord rid host = some next := by
  have hnext : { next with lastEventSeq := event.seq } = next := by
    rw [← (hostStep_spec hstep).seq]
  have hrun : handleHostEvent rs now faults db host rid event =
      acceptHostEvent ⟨m, now, faults⟩ db host rid prior.state next effects := by
    simp only [handleHostEvent, hloads, hload, hm, hp, hstep, hstores, hnext, Bool.false_eq_true,
      if_false, if_neg (Nat.not_le.mpr hseq)]
  -- the record is stored under its own key
  obtain ⟨hrid, hhost⟩ := hk _ _ _ hload
  have hsame := (hostStep_spec hstep).same
  rw [hrun, loadRecord_congr (acceptHostEvent_hostRolloutRecords ..), loadRecord_upsertRecord,
    if_pos ⟨(hsame.rolloutId.trans hrid).symm, (hsame.hostname.trans hhost).symm⟩]

end Steps

/-! ## The rule -/

/-- Every record is keyed and has the property. -/
def Db.RecordsAll (R : HostRolloutState → Prop) (db : Db) : Prop :=
  ∀ rid host r, db.loadRecord rid host = some r →
    (r.rolloutId = rid ∧ r.hostname = host) ∧ R r

theorem Db.RecordsAll.keyed {R : HostRolloutState → Prop} {db : Db} (h : db.RecordsAll R) :
    db.RecordsKeyed := fun rid host r hr => (h rid host r hr).1

section Rule

variable {R : HostRolloutState → Prop}

theorem runPlan_recordsAll {rs : ReducerState} {order : MapOrders} {now : Time}
    {faults : Faults} {db : Db}
    (hfresh : ∀ ctx rid channel hw, R (pendingRecord ctx rid channel hw))
    (h : db.RecordsAll R) : (runPlan rs order now faults db).RecordsAll R := by
  intro rid host r hr
  rcases runPlan_record hr with hold | ⟨m, plan, ref, -, -, -, ch', manifest, -, hw, -, rfl, rfl⟩
  · exact h rid host r hold
  · exact ⟨⟨rfl, rfl⟩, hfresh _ _ _ _⟩

theorem handleHostEvent_recordsAll {rs : ReducerState} {now : Time} {faults : Faults} {db : Db}
    (hstep : ∀ s e p s' effects, R s → hostStep s e p = .ok (s', effects) → R s')
    (h : db.RecordsAll R) (host : HostId) (rid : RolloutId) (event : Event) :
    (handleHostEvent rs now faults db host rid event).RecordsAll R := by
  intro rid' host' r hr
  rcases handleHostEvent_record h.keyed hr with hold | ⟨-, -, m, prior, effects, hacc⟩
  · exact h rid' host' r hold
  · obtain ⟨hkey, hprior⟩ := h _ _ _ hacc.loaded
    obtain ⟨policy, -, hok⟩ := hacc.step
    have hsame := (hostStep_spec hok).same
    exact ⟨⟨hsame.rolloutId.trans hkey.1, hsame.hostname.trans hkey.2⟩,
      hstep _ _ _ _ _ hprior hok⟩

/-- **Record rule.** What fresh records have and the host machine keeps, every step keeps. -/
theorem cpStep_records (hfresh : ∀ ctx rid channel hw, R (pendingRecord ctx rid channel hw))
    (hstep : ∀ s e p s' effects, R s → hostStep s e p = .ok (s', effects) → R s')
    {cp : Cp} (h : cp.db.RecordsAll R) (i : CpInput) : (cpStep cp i).1.db.RecordsAll R := by
  refine cpStep_rule (P := fun db => db.RecordsAll R) h ?_ ?_ ?_ ?_
  · exact fun _ _ host rid event _ hdb => handleHostEvent_recordsAll hstep hdb host rid event
  · exact fun _ _ _ _ => runPlan_recordsAll hfresh h
  · exact fun _ rid host r hr => h rid host r (loadRecord_of_prune hr)
  · intro host' rid host r hr
    rw [loadRecord_takeForHost] at hr
    exact h rid host r hr

end Rule

theorem Db.RecordsKeyed.all {db : Db} (h : db.RecordsKeyed) : db.RecordsAll fun _ => True :=
  fun rid host r hr => ⟨h rid host r hr, trivial⟩

theorem runPlan_recordsKeyed {rs : ReducerState} {order : MapOrders} {now : Time}
    {faults : Faults} {db : Db} (h : db.RecordsKeyed) :
    (runPlan rs order now faults db).RecordsKeyed :=
  (runPlan_recordsAll (fun _ _ _ _ => trivial) h.all).keyed

theorem handleHostEvent_recordsKeyed {rs : ReducerState} {now : Time} {faults : Faults} {db : Db}
    (h : db.RecordsKeyed) (host : HostId) (rid : RolloutId) (event : Event) :
    (handleHostEvent rs now faults db host rid event).RecordsKeyed :=
  (handleHostEvent_recordsAll (fun _ _ _ _ _ _ _ => trivial) h.all host rid event).keyed

theorem cpStep_recordsKeyed {cp : Cp} (h : cp.db.RecordsKeyed) (i : CpInput) :
    (cpStep cp i).1.db.RecordsKeyed :=
  (cpStep_records (fun _ _ _ _ => trivial) (fun _ _ _ _ _ _ _ => trivial) h.all i).keyed

theorem run_recordsKeyed (is : List CpInput) :
    (cpMachine.run .initial is).db.RecordsKeyed :=
  cpMachine.run_invariant_of_step (P := fun cp => cp.db.RecordsKeyed)
    (fun _ i h => cpStep_recordsKeyed h i) (fun _ _ _ h => by cases h) is

end Nixfleet
