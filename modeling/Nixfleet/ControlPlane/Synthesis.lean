import Nixfleet.Host.Contract
import Nixfleet.ControlPlane.Projection
import Nixfleet.ControlPlane.Quarantine

set_option autoImplicit false

/-!
# Synthesized recoveries

A heartbeat gives every active record of its host one turn, in the order in which the records
were read. At its turn a record is still stored as it was read (`Agenda`), so what the turn
does is decided by the record, the reported closure and the gates of that moment.

A `Failed` record is then completed to `Reverted` whenever the host runs the closure from before
the dispatch, whatever policy failed it (`run_rollbacksByPolicy`).
-/

namespace Nixfleet

/-! ## Turns -/

/-- The records stay keyed, and all but one are as they were. -/
def OthersKept (rid : RolloutId) (host : HostId) (db db' : Db) : Prop :=
  db'.RecordsKeyed ∧ ∀ rid' host', ¬ (rid' = rid ∧ host' = host) →
    db'.loadRecord rid' host' = db.loadRecord rid' host'

/-- The records whose turn is still to come are stored as they were read. -/
structure Agenda (host : HostId) (db : Db) (records : List HostRolloutState) : Prop where
  keyed : db.RecordsKeyed
  nodup : (records.map (·.rolloutId)).Nodup
  stored : ∀ r ∈ records, r.hostname = host ∧ db.loadRecord r.rolloutId host = some r

section Turns

variable {rs : ReducerState} {order : MapOrders} {now : Time} {faults : Faults} {db : Db}
  {host : HostId} {agentCurrent : ClosureHash} {at' : Time}

/-- The records that are read are stored, each under a rollout of its own. -/
theorem agenda_activeForHost (hk : db.RecordsKeyed) (host : HostId) :
    Agenda host db (db.activeForHost host) := by
  have hmem : ∀ r ∈ db.activeForHost host,
      r.hostname = host ∧ db.loadRecord r.rolloutId host = some r := by
    intro r hr
    obtain ⟨rid, hload, -⟩ := mem_activeForHost.mp hr
    obtain ⟨hrid, hhost⟩ := hk _ _ _ hload
    exact ⟨hhost, hrid.symm ▸ hload⟩
  refine ⟨hk, ?_, hmem⟩
  -- the rollouts of the rows are the rows' keys, and those are distinct
  have hkeys : (db.activeForHost host).map (·.rolloutId) =
      (db.hostRolloutRecords.rows.filter fun r =>
        r.1.2 = host && r.2.state.isActive).map (·.1.1) := by
    unfold Db.activeForHost
    rw [List.map_map]
    refine List.map_congr_left ?_
    rintro ⟨⟨rid, host'⟩, r⟩ hr
    have hrow : db.loadRecord rid host' = some r := Table.mem_rows.mp (List.mem_of_mem_filter hr)
    exact (hk _ _ _ hrow).1
  rw [hkeys]
  have hnodup := db.hostRolloutRecords.rows_keys_nodup
  rw [List.Nodup, List.pairwise_map] at hnodup ⊢
  refine (List.Pairwise.filter _ hnodup).imp_of_mem ?_
  intro a b ha hb hne heq
  have ha' := (List.mem_filter.mp ha).2
  have hb' := (List.mem_filter.mp hb).2
  simp only [Bool.and_eq_true, decide_eq_true_eq] at ha' hb'
  exact hne (Prod.ext heq (ha'.1.trans hb'.1.symm))

/-- A host event writes no other record than its own. -/
theorem loadRecord_handleHostEvent_of_ne (hk : db.RecordsKeyed) {rid rid' : RolloutId}
    {host' : HostId} {event : Event} (hne : ¬ (rid' = rid ∧ host' = host)) :
    (handleHostEvent rs now faults db host rid event).loadRecord rid' host' =
      db.loadRecord rid' host' := by
  rcases handleHostEvent_cases rs now faults db host rid event with
    heq | ⟨m, prior, next, effects, hacc, heq⟩
  · rw [heq]
  · obtain ⟨policy, -, hstep⟩ := hacc.step
    have hsame := (hostStep_spec hstep).same
    have hkey := hk _ _ _ hacc.loaded
    rw [heq, loadRecord_congr (acceptHostEvent_hostRolloutRecords ..), loadRecord_upsertRecord,
      hsame.rolloutId, hkey.1, hsame.hostname, hkey.2, if_neg hne]

/-- A turn leaves every record but its own as it is. -/
theorem synthesizeFor_othersKept (hk : db.RecordsKeyed) {record : HostRolloutState}
    (hhost : record.hostname = host) :
    OthersKept record.rolloutId host db
      (synthesizeFor rs order now faults host agentCurrent at' db record) := by
  have hdb : OthersKept record.rolloutId host db db := ⟨hk, fun _ _ _ => rfl⟩
  have hevent : ∀ db' event, OthersKept record.rolloutId host db db' →
      OthersKept record.rolloutId host db
        (handleHostEvent rs now faults db' host record.rolloutId event) := by
    rintro db' event ⟨hk', hrest⟩
    refine ⟨handleHostEvent_recordsKeyed hk' _ _ _, ?_⟩
    intro rid host' hne
    rw [loadRecord_handleHostEvent_of_ne hk' hne]
    exact hrest rid host' hne
  refine synthesizeFor_rule hdb (fun _ => hevent _ _ hdb) (hevent _ _ hdb) fun _ => ?_
  refine synthesizePendingToConverged_rule (P := OthersKept record.rolloutId host db) ?_ ?_
  · rw [hhost]
    exact hevent _ _ (hevent _ _ hdb)
  · intro db' convergedAt hdb'
    rw [hhost]
    exact hevent _ _ hdb'

/-- No two records on an agenda are of one rollout. -/
theorem Agenda.ne {record r : HostRolloutState} {records : List HostRolloutState}
    (h : Agenda host db (record :: records)) (hr : r ∈ records) :
    r.rolloutId ≠ record.rolloutId := by
  intro heq
  exact (List.nodup_cons.mp h.nodup).1 (List.mem_map.mpr ⟨r, hr, heq⟩)

/-- One turn takes its record off the agenda. -/
theorem Agenda.next {record : HostRolloutState} {records : List HostRolloutState}
    (h : Agenda host db (record :: records)) :
    Agenda host (synthesizeFor rs order now faults host agentCurrent at' db record) records := by
  have hkept : OthersKept record.rolloutId host db
      (synthesizeFor rs order now faults host agentCurrent at' db record) :=
    synthesizeFor_othersKept h.keyed (h.stored record List.mem_cons_self).1
  refine ⟨hkept.1, (List.nodup_cons.mp h.nodup).2, ?_⟩
  intro r hr
  obtain ⟨hhost, hload⟩ := h.stored r (List.mem_cons_of_mem _ hr)
  refine ⟨hhost, ?_⟩
  rw [hkept.2 _ _ fun heq => h.ne hr heq.1]
  exact hload

/-- **Turn rule.** What every turn of a stored record keeps, all turns keep. -/
theorem turns_invariant {P : Db → Prop} {records : List HostRolloutState}
    (hturn : ∀ db, ∀ record ∈ records, db.RecordsKeyed →
      db.loadRecord record.rolloutId host = some record → P db →
        P (synthesizeFor rs order now faults host agentCurrent at' db record))
    (h : Agenda host db records) (hdb : P db) :
    P (records.foldl (synthesizeFor rs order now faults host agentCurrent at') db) := by
  induction records generalizing db with
  | nil => exact hdb
  | cons record records ih =>
      have hfirst := hturn db record List.mem_cons_self h.keyed
        (h.stored record List.mem_cons_self).2 hdb
      exact ih (fun db' r hr => hturn db' r (List.mem_cons_of_mem _ hr)) h.next hfirst

/-- Every record has its turn, and is left by it as the heartbeat leaves it. -/
theorem exists_turn {records : List HostRolloutState} (h : Agenda host db records)
    {record : HostRolloutState} (hmem : record ∈ records) :
    ∃ db', db'.RecordsKeyed ∧ db'.loadRecord record.rolloutId host = some record ∧
      (records.foldl (synthesizeFor rs order now faults host agentCurrent at') db).loadRecord
          record.rolloutId host =
        (synthesizeFor rs order now faults host agentCurrent at' db' record).loadRecord
          record.rolloutId host := by
  induction records generalizing db with
  | nil => cases hmem
  | cons r records ih =>
      rcases List.mem_cons.mp hmem with rfl | hrest
      · refine ⟨db, h.keyed, (h.stored record List.mem_cons_self).2, ?_⟩
        -- the later turns are about other rollouts
        rw [List.foldl_cons]
        refine turns_invariant (P := fun db' => db'.loadRecord record.rolloutId host =
          (synthesizeFor rs order now faults host agentCurrent at' db record).loadRecord
            record.rolloutId host) ?_ h.next rfl
        intro db' r' hr' hk' hload' hsame
        have hhost : r'.hostname = host := (hk' _ _ _ hload').2
        rw [(synthesizeFor_othersKept hk' hhost).2 _ _ fun heq => h.ne hr' heq.1.symm]
        exact hsame
      · exact ih h.next hrest

end Turns

/-- The reducer's memory while it handles a heartbeat. -/
def Cp.memoryAt (cp : Cp) (hb : Heartbeat) : ReducerState :=
  { cp.rs with lastHeartbeatAt := cp.rs.lastHeartbeatAt.insert hb.host hb.sentAt }

/-- The database after the turns of the host's active records. -/
def Cp.turns (cp : Cp) (i : CpInput) (hb : Heartbeat) (agentCurrent : ClosureHash) : Db :=
  (cp.db.activeForHost hb.host).foldl
    (synthesizeFor (cp.memoryAt hb) i.order i.now i.faults hb.host agentCurrent hb.sentAt) cp.db

section Heartbeat

variable {cp : Cp} {i : CpInput} {hb : Heartbeat} {agentCurrent : ClosureHash}

/-- A heartbeat that reports a closure takes the turns. -/
theorem cpStep_turns (hi : i.event = .heartbeatReceived hb)
    (hc : hb.currentClosure = some agentCurrent)
    (hread : i.faults (.activeForHost hb.host) = false) :
    (cpStep cp i).1.db = cp.turns i hb agentCurrent := by
  unfold cpStep
  simp only [hi, handleHeartbeat, hc, maybeSynthesizeRecoveryCompletion, hread, Bool.false_eq_true,
    if_false]
  rfl

variable (cp) in
/-- Any other heartbeat leaves the database as it is. -/
theorem cpStep_turns_cases (hi : i.event = .heartbeatReceived hb) :
    (cpStep cp i).1.db = cp.db ∨ ∃ agentCurrent, hb.currentClosure = some agentCurrent ∧
      i.faults (.activeForHost hb.host) = false ∧
      (cpStep cp i).1.db = cp.turns i hb agentCurrent := by
  cases hc : hb.currentClosure with
  | none =>
      left
      unfold cpStep
      simp only [hi, handleHeartbeat, hc]
  | some agentCurrent =>
      by_cases hread : i.faults (.activeForHost hb.host) = true
      · left
        unfold cpStep
        simp only [hi, handleHeartbeat, hc, maybeSynthesizeRecoveryCompletion, hread, if_true]
      · rw [Bool.not_eq_true] at hread
        exact .inr ⟨agentCurrent, rfl, hread, cpStep_turns hi hc hread⟩

end Heartbeat

/-! ## New quarantines -/

section NewQuarantine

variable {ch : ChannelId} {cl : ClosureHash}

theorem applyEffect_newQuarantine {ctx : ApplierCtx} {db : Db} {e : Effect}
    (h : (applyEffect ctx db e).Quarantined ch cl) :
    db.Quarantined ch cl ∨ e.quarantine? = some (ch, cl) := by
  cases e with
  | remoteInsertQuarantine channel closure =>
      simp only [applyEffect] at h
      split at h
      · exact .inl h
      · unfold Db.Quarantined at h
        simp only [appendEventLog_quarantinedClosures, Db.insertQuarantine] at h
        split at h
        · exact .inl h
        · rw [Table.lookup_insert_eq] at h
          split at h
          · rename_i hkey
            exact .inr (congrArg some hkey.symm)
          · exact .inl h
  | remoteAppendEventLog host rid payload =>
      simp only [applyEffect] at h
      split at h <;> exact .inl h
  | _ => exact .inl h

theorem acceptHostEvent_newQuarantine {ctx : ApplierCtx} {db : Db} {host : HostId}
    {rid : RolloutId} {src : HostState} {next : HostRolloutState} {effects : List Effect}
    (h : (acceptHostEvent ctx db host rid src next effects).Quarantined ch cl) :
    db.Quarantined ch cl ∨ (ch, cl) ∈ effects.filterMap Effect.quarantine? := by
  revert h
  refine hostStateChanged_rule (P := fun db' => db'.Quarantined ch cl → _) ?_ ?_
  · intro db' e _ _ ih h
    exact ih ((quarantined_congr (processRolloutEvent_quarantinedClosures ctx db' e)).mp h)
  · refine List.foldlRecOn (motive := fun db' => Db.Quarantined db' ch cl → _) _ _ .inl ?_
    intro db' ih e he h
    rcases applyEffect_newQuarantine h with hold | hnew
    · exact ih hold
    · exact .inr (List.mem_filterMap.mpr ⟨e, he, hnew⟩)

/-- A host event quarantines the closure of a failed record that it completes, and no other. -/
theorem handleHostEvent_newQuarantine {rs : ReducerState} {now : Time} {faults : Faults}
    {db : Db} {host : HostId} {rid : RolloutId} {event : Event}
    (h : (handleHostEvent rs now faults db host rid event).Quarantined ch cl) :
    db.Quarantined ch cl ∨ event.confirmsRollback = true ∧ ∃ prior,
      db.loadRecord rid host = some prior ∧ prior.state = .failed ∧ prior.channel = ch ∧
      prior.targetClosure = cl := by
  revert h
  refine handleHostEvent_rule (P := fun db' => db'.Quarantined ch cl → _) .inl ?_
  intro manifests prior next effects hacc h
  obtain ⟨policy, -, hstep⟩ := hacc.step
  rcases acceptHostEvent_newQuarantine h with hold | hnew
  · exact .inl hold
  · rw [(hostStep_effects hstep).quarantine] at hnew
    split at hnew
    · rename_i hfailed
      have hmove := (hostStep_spec hstep).move
      rw [hfailed.2] at hmove
      cases List.mem_singleton.mp hnew
      exact .inr ⟨(hostStep_reverted hstep hmove.from_failed).2, prior, hacc.loaded, hfailed.2,
        rfl, rfl⟩
    · cases hnew

/-- Other events quarantine nothing. -/
theorem handleHostEvent_quarantined_iff {rs : ReducerState} {now : Time} {faults : Faults}
    {db : Db} {host : HostId} {rid : RolloutId} {event : Event}
    (he : event.confirmsRollback = false) :
    (handleHostEvent rs now faults db host rid event).Quarantined ch cl ↔
      db.Quarantined ch cl := by
  constructor
  · intro h
    rcases handleHostEvent_newQuarantine h with hold | ⟨hrollback, -⟩
    · exact hold
    · rw [he] at hrollback
      cases hrollback
  · exact handleHostEvent_quarantined host rid event

end NewQuarantine

/-! ## Rollbacks -/

/-- The next event of the record is stored if the machine accepts it: the reducer has a policy for
its channel, and no statement of `handle_host_event` fails. -/
structure Storable (rs : ReducerState) (faults : Faults) (r : HostRolloutState) : Prop where
  loads : faults (.loadRecord r.rolloutId r.hostname (r.lastEventSeq + 1)) = false
  stores : faults (.upsertRecord r.rolloutId r.hostname (r.lastEventSeq + 1)) = false
  policy : ∃ m policy, rs.manifests = some m ∧ resolvePolicy m r.channel = some policy

/-- The record fails, and its policy does not ask for a rollback. -/
def HostRolloutState.HaltsOnly (r : HostRolloutState) : Prop :=
  r.state = .failed ∧ r.policyApplied ≠ some .rollbackAndHalt

/-- A heartbeat completes rollbacks of policies that ask for one, and no others: a record that
halts only stays as it is, and a new quarantine is of a failed record under `rollback-and-halt`. -/
def RollbacksByPolicy (cp : Cp) (i : CpInput) : Prop :=
  ∀ hb, i.event = .heartbeatReceived hb →
    (∀ rid host r, cp.db.loadRecord rid host = some r → r.HaltsOnly →
      (cpStep cp i).1.db.loadRecord rid host = some r) ∧
    ∀ channel closure, (cpStep cp i).1.db.Quarantined channel closure →
      cp.db.Quarantined channel closure ∨
        ∃ rid r, cp.db.loadRecord rid hb.host = some r ∧ r.state = .failed ∧
          r.policyApplied = some .rollbackAndHalt ∧ r.channel = channel ∧
          r.targetClosure = closure

/-- No record of the host that halts only, and whose closure from before the dispatch is the one
that the heartbeat reports, can be stored. -/
def HaltedElsewhere (cp : Cp) (i : CpInput) : Prop :=
  ∀ hb closure, i.event = .heartbeatReceived hb → hb.currentClosure = some closure →
    i.faults (.activeForHost hb.host) = false →
      ∀ rid r, cp.db.loadRecord rid hb.host = some r → r.HaltsOnly →
        r.currentClosureAtDispatch = some closure → ¬ Storable cp.rs i.faults r

section Rollback

variable {rs : ReducerState} {order : MapOrders} {now : Time} {faults : Faults} {db : Db}
  {host : HostId} {agentCurrent : ClosureHash} {at' : Time} {r : HostRolloutState}

/-- An event that cannot be stored is dropped. -/
theorem handleHostEvent_of_not_storable {rid : RolloutId} {event : Event}
    (hk : db.RecordsKeyed) (hload : db.loadRecord rid host = some r)
    (hseq : event.seq = r.lastEventSeq + 1) (h : ¬ Storable rs faults r) :
    handleHostEvent rs now faults db host rid event = db := by
  obtain ⟨hrid, hhost⟩ := hk _ _ _ hload
  by_cases hfault : faults (.loadRecord rid host event.seq) = true ∨
      faults (.upsertRecord rid host event.seq) = true
  · exact handleHostEvent_of_fault hfault
  · refine handleHostEvent_of_not_accepted fun m prior next effects hacc => h ?_
    obtain ⟨policy, hpolicy, -⟩ := hacc.step
    have hprior : prior = r := Option.some.inj (hacc.loaded.symm.trans hload)
    rw [hprior] at hpolicy
    rw [not_or, Bool.not_eq_true, Bool.not_eq_true, hseq] at hfault
    rw [← hrid, ← hhost] at hfault
    exact ⟨hfault.1, hfault.2, m, policy, hacc.cached, hpolicy⟩

/-- The turn of a failed record that halts only, where its next event cannot be stored. -/
theorem synthesizeFor_of_halted (hk : db.RecordsKeyed)
    (hload : db.loadRecord r.rolloutId host = some r) (hs : r.state = .failed)
    (h : r.currentClosureAtDispatch = some agentCurrent → ¬ Storable rs faults r) :
    synthesizeFor rs order now faults host agentCurrent at' db r = db := by
  simp only [synthesizeFor, hs]
  by_cases hc : r.currentClosureAtDispatch = some agentCurrent
  · rw [if_pos hc]
    exact handleHostEvent_of_not_storable hk hload rfl (h hc)
  · rw [if_neg hc]

/-- The turn of a record that has not failed feeds no rollback. -/
theorem synthesizeFor_of_not_failed {P : Db → Prop} (hs : r.state ≠ .failed) (hdb : P db)
    (hevent : ∀ db host rid event, event.confirmsRollback = false → P db →
      P (handleHostEvent rs now faults db host rid event)) :
    P (synthesizeFor rs order now faults host agentCurrent at' db r) := by
  unfold synthesizeFor
  split
  · split
    · exact hevent _ _ _ _ rfl hdb
    · exact hdb
  · split
    · exact hevent _ _ _ _ rfl hdb
    · exact hdb
  · split
    · dsimp only
      split
      · exact hdb
      · exact synthesizePendingToConverged_rule (hevent _ _ _ _ rfl (hevent _ _ _ _ rfl hdb))
          fun db _ => hevent db _ _ _ rfl
    · exact hdb
  · rename_i hfailed
    exact absurd hfailed hs
  · exact hdb

/-- A turn quarantines the closure of its own record, which has failed. -/
theorem synthesizeFor_newQuarantine (hload : db.loadRecord r.rolloutId host = some r)
    {ch : ChannelId} {cl : ClosureHash}
    (h : (synthesizeFor rs order now faults host agentCurrent at' db r).Quarantined ch cl) :
    db.Quarantined ch cl ∨ r.state = .failed ∧ r.channel = ch ∧ r.targetClosure = cl := by
  by_cases hs : r.state = .failed
  · simp only [synthesizeFor, hs] at h
    split at h
    · rcases handleHostEvent_newQuarantine h with hold | ⟨-, prior, hprior, -, hch, hcl⟩
      · exact .inl hold
      · have heq : prior = r := Option.some.inj (hprior.symm.trans hload)
        exact .inr ⟨hs, heq ▸ hch, heq ▸ hcl⟩
    · exact .inl h
  · left
    revert h
    refine synthesizeFor_of_not_failed (P := fun db' => db'.Quarantined ch cl → _) hs id ?_
    exact fun db' host rid event he ih h => ih ((handleHostEvent_quarantined_iff he).mp h)

end Rollback

section Rollback

variable {cp : Cp} {i : CpInput}

/-- A failed record whose prior closure is reported, and whose event can be stored, is completed to
`Reverted`. -/
theorem turns_revert (hk : cp.db.RecordsKeyed) {hb : Heartbeat} {agentCurrent : ClosureHash}
    {rid : RolloutId} {r : HostRolloutState} (hload : cp.db.loadRecord rid hb.host = some r)
    (hs : r.state = .failed) (hc : r.currentClosureAtDispatch = some agentCurrent)
    (hstore : Storable cp.rs i.faults r) :
    ∃ next, (cp.turns i hb agentCurrent).loadRecord rid hb.host = some next ∧
      next.state = .reverted := by
  obtain ⟨hrid, hhost⟩ := hk _ _ _ hload
  have hmem : r ∈ cp.db.activeForHost hb.host :=
    mem_activeForHost.mpr ⟨rid, hload, by rw [hs]; rfl⟩
  have hturn : ∃ db : Db, db.RecordsKeyed ∧ db.loadRecord r.rolloutId hb.host = some r ∧
      (cp.turns i hb agentCurrent).loadRecord r.rolloutId hb.host =
        (synthesizeFor (cp.memoryAt hb) i.order i.now i.faults hb.host agentCurrent hb.sentAt db
          r).loadRecord r.rolloutId hb.host := exists_turn (agenda_activeForHost hk hb.host) hmem
  obtain ⟨db, hk', hload', hturn⟩ := hturn
  obtain ⟨m, policy, hm, hpolicy⟩ := hstore.policy
  have hseq : r.lastEventSeq < (Event.remoteRollbackComplete agentCurrent 0 hb.sentAt
      (r.lastEventSeq + 1)).seq := Nat.lt_succ_self _
  obtain ⟨next, effects, hstep, hnext⟩ := hostStep_of_confirmsRollback hs rfl hseq policy
  refine ⟨next, ?_, hnext⟩
  rw [← hrid, hturn]
  simp only [synthesizeFor, hs, if_pos hc]
  exact handleHostEvent_moves hk' hload' hseq hm hpolicy hstep (hhost ▸ hstore.loads)
    (hhost ▸ hstore.stores)

/-- A failed record stays as it is if it is of another host, its prior closure is not the reported
one, or its event cannot be stored. -/
theorem turns_keep_failed (hk : cp.db.RecordsKeyed) {hb : Heartbeat} {agentCurrent : ClosureHash}
    {rid : RolloutId} {host : HostId} {r : HostRolloutState}
    (hload : cp.db.loadRecord rid host = some r) (hs : r.state = .failed)
    (h : host = hb.host → r.currentClosureAtDispatch = some agentCurrent →
      ¬ Storable cp.rs i.faults r) :
    (cp.turns i hb agentCurrent).loadRecord rid host = some r := by
  refine turns_invariant (P := fun db => db.loadRecord rid host = some r) ?_
    (agenda_activeForHost hk hb.host) hload
  intro db record hrecord hk' hload' hdb
  by_cases hown : rid = record.rolloutId ∧ host = hb.host
  · obtain ⟨rfl, rfl⟩ := hown
    have hsame : record = r := Option.some.inj (hload'.symm.trans hdb)
    subst hsame
    have hheld : record.currentClosureAtDispatch = some agentCurrent →
        ¬ Storable (cp.memoryAt hb) i.faults record := fun hc hstore =>
      h rfl hc ⟨hstore.loads, hstore.stores, hstore.policy⟩
    rw [synthesizeFor_of_halted hk' hload' hs hheld]
    exact hdb
  · have hhost : record.hostname = hb.host := (hk' _ _ _ hload').2
    rw [(synthesizeFor_othersKept hk' hhost).2 rid host hown]
    exact hdb

/-- **Synthesized rollbacks, one step.** -/
theorem rollbacksByPolicy_iff (hk : cp.db.RecordsKeyed) (i : CpInput) :
    RollbacksByPolicy cp i ↔ HaltedElsewhere cp i := by
  constructor
  · intro h hb closure hi hc hread rid r hload hhalts hprior hstore
    obtain ⟨next, hnext, hreverted⟩ := turns_revert (i := i) hk hload hhalts.1 hprior hstore
    have hkept := (h hb hi).1 rid hb.host r hload hhalts
    rw [cpStep_turns hi hc hread, hnext, Option.some.injEq] at hkept
    rw [hkept, hhalts.1] at hreverted
    cases hreverted
  · intro h hb hi
    rcases cpStep_turns_cases cp hi with heq | ⟨agentCurrent, hc, hread, heq⟩
    · rw [heq]
      exact ⟨fun rid host r hload _ => hload, fun channel closure hq => .inl hq⟩
    · rw [heq]
      have hagenda := agenda_activeForHost hk hb.host
      have hheld : ∀ rid r, cp.db.loadRecord rid hb.host = some r → r.HaltsOnly →
          r.currentClosureAtDispatch = some agentCurrent →
            ¬ Storable (cp.memoryAt hb) i.faults r := by
        intro rid r hload hhalts hprior hstore
        exact h hb agentCurrent hi hc hread rid r hload hhalts hprior
          ⟨hstore.loads, hstore.stores, hstore.policy⟩
      constructor
      · intro rid host r hload hhalts
        refine turns_keep_failed hk hload hhalts.1 fun hhost hprior => ?_
        exact h hb agentCurrent hi hc hread rid r (hhost ▸ hload) hhalts hprior
      · intro channel closure
        refine turns_invariant (P := fun db => db.Quarantined channel closure → _) ?_ hagenda .inl
        intro db record hrecord hk' hload' ih hq
        obtain ⟨rid, hload, -⟩ := mem_activeForHost.mp hrecord
        by_cases hhalts : record.HaltsOnly
        · -- the turn does nothing
          rw [synthesizeFor_of_halted hk' hload' hhalts.1
            (hheld rid record hload hhalts)] at hq
          exact ih hq
        · rcases synthesizeFor_newQuarantine hload' hq with hold | ⟨hs, hch, hcl⟩
          · exact ih hold
          · have hpolicy : record.policyApplied = some .rollbackAndHalt := by
              by_contra hne
              exact hhalts ⟨hs, hne⟩
            exact .inr ⟨rid, record, hload, hs, hpolicy, hch, hcl⟩

/-- **Synthesized rollbacks.** -/
theorem run_rollbacksByPolicy (is : List CpInput) :
    cpMachine.Meets RollbacksByPolicy Cp.initial is ↔
      cpMachine.Meets HaltedElsewhere Cp.initial is := by
  refine cpMachine.meets_congr_of_invariant (P := fun cp => cp.db.RecordsKeyed)
    (fun cp i _ hk _ => cpStep_recordsKeyed hk i) (fun cp i _ hk => rollbacksByPolicy_iff hk i) ?_
  exact fun _ _ _ h => by cases h

end Rollback

/-- Host `a` fails under `halt`, before it has switched away from the closure `good`. -/
def haltedRun : List CpInput :=
  let manifests := stableManifests
    (stableFleet "r1" [("a", "bad")] ⟨"staged", [], .halt⟩ [] [] [])
  let event (e : Event) := CpEvent.hostEvent "a" (.new "stable" "r1") e
  [.plain (.manifestSetUpdated manifests) 0,
   .plain (event (.remoteDispatchAck "good" 1 1)) 1,
   .plain (event (.remoteActivationFailed 1 "" 2 2)) 2,
   .plain (.heartbeatReceived ⟨"a", some (.new "stable" "r1"), some "good", 3⟩) 3]

set_option maxRecDepth 4000 in
/-- The heartbeat completes a rollback that no policy asked for. -/
theorem haltedRun_rolled_back : ¬ cpMachine.Meets RollbacksByPolicy Cp.initial haltedRun := by
  intro h
  have hsplit : cpMachine.Meets RollbacksByPolicy Cp.initial (haltedRun.take 3 ++
      [.plain (.heartbeatReceived ⟨"a", some (.new "stable" "r1"), some "good", 3⟩) 3]) := h
  have hlast := Machine.Meets.at_step cpMachine hsplit
  have hfailed : ((cpMachine.run Cp.initial (haltedRun.take 3)).db.loadRecord
      (.new "stable" "r1") "a").any (fun r => r.state = .failed ∧ r.policyApplied = some .halt) =
        true := by decide
  have hreverted : ((cpMachine.run Cp.initial haltedRun).db.loadRecord
      (.new "stable" "r1") "a").any (·.state = .reverted) = true := by decide
  obtain ⟨r, hload, hr⟩ := (Option.any_eq_true _ _).mp hfailed
  obtain ⟨next, hnext, hr'⟩ := (Option.any_eq_true _ _).mp hreverted
  obtain ⟨hstate, hpolicy⟩ := of_decide_eq_true hr
  have hkept := (hlast _ rfl).1 _ _ r hload ⟨hstate, by rw [hpolicy]; decide⟩
  have hsame : next = r := Option.some.inj (hnext.symm.trans hkept)
  rw [hsame, hstate] at hr'
  exact absurd hr' (by decide)

end Nixfleet
