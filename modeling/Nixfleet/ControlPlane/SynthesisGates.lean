import Nixfleet.Reconciler.GateFacts
import Nixfleet.ControlPlane.Synthesis

set_option autoImplicit false

/-!
# The gates of a synthesized convergence

A heartbeat that reports the target of a `Pending` record drives the record to `Converged` at its
turn, but asks the dispatch gates first. A fleet state that cannot be built counts as no block, and
the gates are asked with the reducer's quarantine set, not with the table: `GatesSound` is what
both leave open, and exactly where it holds every turn is gated (`heartbeatGated_iff`).
-/

namespace Nixfleet

/-! ## The quarantine table as a set -/

/-- `QuarantinedClosures::active_by_channel`. -/
def Db.activeByChannel (db : Db) : QuarantineSet :=
  db.quarantinedClosures.rows.foldl (fun out r =>
    out.insert r.1.1 (r.1.2 :: (out.lookup r.1.1).getD [])) ∅

/-- The quarantine gate blocks the closures of the set. -/
theorem quarantineCheck_eq_none {q : QuarantineSet} {channel : ChannelId}
    {closure : ClosureHash} :
    quarantineCheck q channel closure = none ↔ closure ∉ (q.lookup channel).getD [] := by
  unfold quarantineCheck
  cases q.lookup channel with
  | none => simp
  | some set => simp

theorem mem_activeByChannel {db : Db} {channel : ChannelId} {closure : ClosureHash} :
    closure ∈ (db.activeByChannel.lookup channel).getD [] ↔ db.Quarantined channel closure := by
  have hfold : ∀ (l : List ((ChannelId × ClosureHash) × Time)) (q : QuarantineSet),
      closure ∈ ((l.foldl (fun out r =>
        out.insert r.1.1 (r.1.2 :: (out.lookup r.1.1).getD [])) q).lookup channel).getD [] ↔
      closure ∈ (q.lookup channel).getD [] ∨ (channel, closure) ∈ l.map Prod.fst := by
    intro l
    induction l with
    | nil => simp
    | cons r l ih =>
        intro q
        rw [List.foldl_cons, ih, Table.lookup_insert_eq, List.map_cons, List.mem_cons]
        by_cases hch : channel = r.1.1
        · subst hch
          rw [if_pos rfl, Option.getD_some, List.mem_cons]
          have hkey : (r.1.1, closure) = r.1 ↔ closure = r.1.2 := by
            constructor
            · intro heq
              exact congrArg Prod.snd heq
            · rintro rfl
              rfl
          rw [hkey]
          tauto
        · rw [if_neg hch]
          have hkey : (channel, closure) ≠ r.1 := by
            intro heq
            exact hch (congrArg Prod.fst heq)
          tauto
  unfold Db.activeByChannel Db.Quarantined
  rw [hfold]
  have hempty : closure ∉ ((∅ : QuarantineSet).lookup channel).getD [] := by
    intro h
    cases h
  rw [or_iff_right hempty, List.mem_map]
  constructor
  · rintro ⟨⟨key, t⟩, hrow, rfl⟩
    rw [Table.mem_rows.mp hrow]
    rfl
  · intro h
    obtain ⟨t, ht⟩ := Option.isSome_iff_exists.mp h
    exact ⟨((channel, closure), t), Table.mem_rows.mpr ht, rfl⟩

/-! ## One turn -/

/-- The turn of a `Pending` record is gated: it leaves the record in `Pending`, or the dispatch
gates were asked about the fleet state of the moment, with the closures that the table
quarantines, and none of them blocks. -/
def GatedTurn (rs : ReducerState) (order : MapOrders) (now : Time) (faults : Faults)
    (host : HostId) (agentCurrent : ClosureHash) (at' : Time) (db : Db)
    (record : HostRolloutState) : Prop :=
  record.state = .pending →
    (synthesizeFor rs order now faults host agentCurrent at' db record).loadRecord
        record.rolloutId host ≠ some record →
      ¬ db.Quarantined record.channel record.targetClosure ∧
        ∃ m fs, rs.manifests = some m ∧ buildFleetState order faults db m = some fs ∧
          evaluateForDispatch fs m db.activeByChannel record.rolloutId record.hostname
            record.targetClosure record.channel (fun _ => 0) = none

/-- Where a `Pending` record of the reported closure can be stored, no record query of the fleet
state fails, and a closure that the table quarantines is in the reducer's set too, or held by
another gate. -/
def GatesSound (rs : ReducerState) (order : MapOrders) (faults : Faults)
    (agentCurrent : ClosureHash) (db : Db) (record : HostRolloutState) : Prop :=
  record.state = .pending → record.targetClosure = agentCurrent → Storable rs faults record →
    ∀ m, rs.manifests = some m →
      (∀ channel manifest, m.rollouts.lookup channel = some manifest →
        faults (.allForRollout (.new channel manifest.channelRef)) = false) ∧
      (db.Quarantined record.channel record.targetClosure →
        record.targetClosure ∈ (rs.quarantines.lookup record.channel).getD [] ∨
        ∀ fs, buildFleetState order faults db m = some fs →
          evaluateForDispatch fs m QuarantineSet.new record.rolloutId record.hostname
            record.targetClosure record.channel (fun _ => 0) ≠ none)

section Turn

variable {rs : ReducerState} {order : MapOrders} {now : Time} {faults : Faults} {db : Db}
  {host : HostId} {agentCurrent : ClosureHash} {at' : Time} {record : HostRolloutState}

/-- The record is stored, and no longer `Pending`. -/
def Left (rid : RolloutId) (host : HostId) (db : Db) : Prop :=
  db.RecordsKeyed ∧ ∃ r, db.loadRecord rid host = some r ∧ r.state ≠ .pending

/-- No host event takes a record back to `Pending`. -/
theorem Left.event {rid rid' : RolloutId} {host' : HostId} {event : Event}
    (h : Left rid host db) : Left rid host (handleHostEvent rs now faults db host' rid' event) := by
  obtain ⟨hk, r, hload, hne⟩ := h
  refine ⟨handleHostEvent_recordsKeyed hk _ _ _, ?_⟩
  rcases handleHostEvent_cases rs now faults db host' rid' event with
    heq | ⟨m, prior, next, effects, hacc, heq⟩
  · rw [heq]
    exact ⟨r, hload, hne⟩
  · obtain ⟨policy, -, hstep⟩ := hacc.step
    rw [heq, loadRecord_congr (acceptHostEvent_hostRolloutRecords ..), loadRecord_upsertRecord]
    split
    · exact ⟨next, rfl, (hostStep_spec hstep).move.ne_pending⟩
    · exact ⟨r, hload, hne⟩

/-- The acknowledgement is the one event that a `Pending` record accepts. -/
theorem handleHostEvent_of_pending {rid : RolloutId} {event : Event}
    (hload : db.loadRecord rid host = some record) (hs : record.state = .pending)
    (he : event.stamp? = none) : handleHostEvent rs now faults db host rid event = db := by
  refine handleHostEvent_of_not_accepted fun m prior next effects hacc => ?_
  obtain ⟨policy, -, hstep⟩ := hacc.step
  have hprior : prior = record := Option.some.inj (hacc.loaded.symm.trans hload)
  rw [hprior] at hstep
  obtain ⟨closure, hstamp, -⟩ := (hostStep_stamp hstep).1 hs
  rw [he] at hstamp
  cases hstamp

/-- A chain whose first event cannot be stored does nothing. -/
theorem synthesizePendingToConverged_of_not_storable (hk : db.RecordsKeyed)
    (hload : db.loadRecord record.rolloutId record.hostname = some record)
    (hs : record.state = .pending) (h : ¬ Storable rs faults record) :
    synthesizePendingToConverged rs now faults db record agentCurrent at' = db := by
  have hack : handleHostEvent rs now faults db record.hostname record.rolloutId
      (.remoteDispatchAck "" at' (record.lastEventSeq + 1)) = db :=
    handleHostEvent_of_not_storable hk hload rfl h
  have hcompleted : handleHostEvent rs now faults db record.hostname record.rolloutId
      (.remoteActivationCompleted agentCurrent 0 at' (record.lastEventSeq + 2)) = db :=
    handleHostEvent_of_pending hload hs rfl
  refine synthesizePendingToConverged_rule (P := fun db' => db' = db) ?_ ?_
  · rw [hack, hcompleted]
  · rintro _ convergedAt rfl
    exact handleHostEvent_of_pending hload hs rfl

/-- A chain whose first event can be stored drives the record out of `Pending`. -/
theorem synthesizePendingToConverged_left (hk : db.RecordsKeyed)
    (hload : db.loadRecord record.rolloutId record.hostname = some record)
    (hs : record.state = .pending) (h : Storable rs faults record) :
    Left record.rolloutId record.hostname
      (synthesizePendingToConverged rs now faults db record agentCurrent at') := by
  obtain ⟨m, policy, hm, hpolicy⟩ := h.policy
  have hseq : record.lastEventSeq <
      (Event.remoteDispatchAck "" at' (record.lastEventSeq + 1)).seq := Nat.lt_succ_self _
  have hstep : ∃ effects, hostStep record (.remoteDispatchAck "" at' (record.lastEventSeq + 1))
      policy = .ok (record.activate "" at' (record.lastEventSeq + 1), effects) := by
    unfold hostStep
    rw [if_neg (Nat.not_le.mpr hseq), hs]
    exact ⟨_, rfl⟩
  obtain ⟨effects, hstep⟩ := hstep
  have hleft : Left record.rolloutId record.hostname
      (handleHostEvent rs now faults db record.hostname record.rolloutId
        (.remoteDispatchAck "" at' (record.lastEventSeq + 1))) :=
    ⟨handleHostEvent_recordsKeyed hk _ _ _, _,
      handleHostEvent_moves hk hload hseq hm hpolicy hstep h.loads h.stores, nofun⟩
  exact synthesizePendingToConverged_rule hleft.event fun db' convergedAt hdb' => hdb'.event

/-- **When a turn drives a record out of `Pending`.** -/
theorem synthesizeFor_moves_iff (hk : db.RecordsKeyed)
    (hload : db.loadRecord record.rolloutId host = some record) (hs : record.state = .pending) :
    (synthesizeFor rs order now faults host agentCurrent at' db record).loadRecord
        record.rolloutId host ≠ some record ↔
      record.targetClosure = agentCurrent ∧ Storable rs faults record ∧
        ∀ m, rs.manifests = some m →
          evaluateSynthGates order faults db m rs.quarantines record = none := by
  have hhost : record.hostname = host := (hk _ _ _ hload).2
  subst hhost
  simp only [synthesizeFor, hs]
  by_cases htarget : record.targetClosure = agentCurrent
  · rw [if_pos htarget]
    by_cases hstore : Storable rs faults record
    · obtain ⟨m, policy, hm, -⟩ := hstore.policy
      simp only [hm, Option.bind_some]
      cases hgate : evaluateSynthGates order faults db m rs.quarantines record with
      | some block => simp [hload, hgate]
      | none =>
          have hleft : Left record.rolloutId record.hostname
              (synthesizePendingToConverged rs now faults db record agentCurrent at') :=
            synthesizePendingToConverged_left hk hload hs hstore
          obtain ⟨-, r, hr, hne⟩ := hleft
          have hmoved : r ≠ record := fun heq => hne (heq ▸ hs)
          simp [hr, hmoved, htarget, hstore, hgate]
    · rw [synthesizePendingToConverged_of_not_storable hk hload hs hstore]
      simp [hload, hstore]
  · rw [if_neg htarget]
    simp [hload, htarget]

/-- The gates pass with a set iff they pass without one, and the set does not hold the closure. -/
theorem evaluateForDispatch_quarantines {fs : FleetState} {m : SignedManifestSet}
    {q : QuarantineSet} {rid : RolloutId} {host : HostId} {closure : ClosureHash}
    {channel : ChannelId} {tick : TickDispatched} :
    evaluateForDispatch fs m q rid host closure channel tick = none ↔
      closure ∉ (q.lookup channel).getD [] ∧
        evaluateForDispatch fs m QuarantineSet.new rid host closure channel tick = none := by
  rw [evaluateForDispatch_eq_none, evaluateForDispatch_eq_none, quarantineCheck_eq_none,
    quarantineCheck_new]
  tauto

/-- The fleet state is built iff every record query is answered. -/
theorem buildFleetState_isSome_iff {m : SignedManifestSet} :
    (buildFleetState order faults db m).isSome = true ↔
      ∀ channel manifest, m.rollouts.lookup channel = some manifest →
        faults (.allForRollout (.new channel manifest.channelRef)) = false := by
  unfold buildFleetState
  dsimp only
  constructor
  · intro h channel manifest hlook
    split at h
    · cases h
    · rename_i hany
      rw [Bool.not_eq_true, List.any_eq_false] at hany
      exact Bool.not_eq_true _ ▸ hany (channel, manifest)
        (mem_iterBy.mpr (Table.mem_rows.mpr hlook))
  · intro h
    rw [if_neg]
    · rfl
    · intro hany
      obtain ⟨⟨channel, manifest⟩, hmem, hfault⟩ := List.any_eq_true.mp hany
      rw [h channel manifest (Table.mem_rows.mp (mem_iterBy.mp hmem))] at hfault
      cases hfault

/-- **One turn is gated iff the gates are sound for it.** -/
theorem gatedTurn_iff (hk : db.RecordsKeyed)
    (hload : db.loadRecord record.rolloutId host = some record) :
    GatedTurn rs order now faults host agentCurrent at' db record ↔
      GatesSound rs order faults agentCurrent db record := by
  have hbuilt : ∀ m, (∀ channel manifest, m.rollouts.lookup channel = some manifest →
      faults (.allForRollout (.new channel manifest.channelRef)) = false) ↔
        ∃ fs, buildFleetState order faults db m = some fs := by
    intro m
    rw [← buildFleetState_isSome_iff, Option.isSome_iff_exists]
  constructor
  · intro h hs htarget hstore m hm
    have hmoves : evaluateSynthGates order faults db m rs.quarantines record = none →
        ¬ db.Quarantined record.channel record.targetClosure ∧
          ∃ m fs, rs.manifests = some m ∧ buildFleetState order faults db m = some fs ∧
            evaluateForDispatch fs m db.activeByChannel record.rolloutId record.hostname
              record.targetClosure record.channel (fun _ => 0) = none := by
      intro hgate
      refine h hs ((synthesizeFor_moves_iff hk hload hs).mpr ⟨htarget, hstore, ?_⟩)
      intro m' hm'
      rw [hm, Option.some.injEq] at hm'
      exact hm' ▸ hgate
    constructor
    · rw [hbuilt]
      by_contra hnone
      have hfs : buildFleetState order faults db m = none :=
        Option.eq_none_iff_forall_ne_some.mpr fun fs hfs => hnone ⟨fs, hfs⟩
      obtain ⟨-, m', fs, hm', hfs', -⟩ := hmoves (by simp [evaluateSynthGates, hfs])
      rw [hm, Option.some.injEq] at hm'
      rw [← hm', hfs] at hfs'
      cases hfs'
    · intro hq
      by_contra hopen
      obtain ⟨hnot, hpass⟩ := not_or.mp hopen
      simp only [not_forall, not_not] at hpass
      obtain ⟨fs, hfs, hpass⟩ := hpass
      refine (hmoves ?_).1 hq
      rw [evaluateSynthGates, hfs, Option.bind_some]
      exact evaluateForDispatch_quarantines.mpr ⟨hnot, hpass⟩
  · intro h hs hmoves
    obtain ⟨htarget, hstore, hgate⟩ := (synthesizeFor_moves_iff hk hload hs).mp hmoves
    obtain ⟨m, policy, hm, -⟩ := hstore.policy
    obtain ⟨hqueries, hheld⟩ := h hs htarget hstore m hm
    obtain ⟨fs, hfs⟩ := (hbuilt m).mp hqueries
    have hpass := hgate m hm
    rw [evaluateSynthGates, hfs, Option.bind_some, evaluateForDispatch_quarantines] at hpass
    have hfree : ¬ db.Quarantined record.channel record.targetClosure := by
      intro hq
      rcases hheld hq with hset | hblocked
      · exact hpass.1 hset
      · exact hblocked fs hfs hpass.2
    refine ⟨hfree, m, fs, hm, hfs, ?_⟩
    exact evaluateForDispatch_quarantines.mpr
      ⟨fun hmem => hfree (mem_activeByChannel.mp hmem), hpass.2⟩

end Turn

/-! ## The heartbeat -/

/-- The turns of a heartbeat, as a machine that reads the records. -/
def turnMachine (cp : Cp) (i : CpInput) (hb : Heartbeat) (agentCurrent : ClosureHash) :
    Machine Db HostRolloutState Empty :=
  .ofFold (synthesizeFor (cp.memoryAt hb) i.order i.now i.faults hb.host agentCurrent hb.sentAt)

/-- The turns of the machine are those of the step. -/
theorem run_turnMachine {cp : Cp} {i : CpInput} {hb : Heartbeat} {agentCurrent : ClosureHash}
    (hi : i.event = .heartbeatReceived hb) (hc : hb.currentClosure = some agentCurrent)
    (hread : i.faults (.activeForHost hb.host) = false) :
    (turnMachine cp i hb agentCurrent).run cp.db (cp.db.activeForHost hb.host) =
      (cpStep cp i).1.db := by
  rw [cpStep_turns hi hc hread]
  exact Machine.run_ofFold _ _ _

/-- At every turn of the step, if it is a heartbeat, `ok` holds of the database of the moment and
the record. -/
def EachTurn (ok : ReducerState → Heartbeat → ClosureHash → Db → HostRolloutState → Prop)
    (cp : Cp) (i : CpInput) : Prop :=
  ∀ hb agentCurrent, i.event = .heartbeatReceived hb → hb.currentClosure = some agentCurrent →
    i.faults (.activeForHost hb.host) = false →
      (turnMachine cp i hb agentCurrent).Meets (ok (cp.memoryAt hb) hb agentCurrent) cp.db
        (cp.db.activeForHost hb.host)

/-- Every turn of a heartbeat is gated. -/
def HeartbeatGated (cp : Cp) (i : CpInput) : Prop :=
  EachTurn (fun rs hb agentCurrent =>
    GatedTurn rs i.order i.now i.faults hb.host agentCurrent hb.sentAt) cp i

/-- The gates are sound for every turn of a heartbeat. -/
def HeartbeatSound (cp : Cp) (i : CpInput) : Prop :=
  EachTurn (fun rs _ agentCurrent => GatesSound rs i.order i.faults agentCurrent) cp i

/-- **Synthesized convergence is gated iff the gates are sound.** -/
theorem heartbeatGated_iff {cp : Cp} (hk : cp.db.RecordsKeyed) (i : CpInput) :
    HeartbeatGated cp i ↔ HeartbeatSound cp i := by
  refine forall_congr' fun hb => forall_congr' fun agentCurrent => ?_
  refine imp_congr_right fun _ => imp_congr_right fun _ => imp_congr_right fun _ => ?_
  refine Machine.meets_congr_of_agenda (P := Agenda hb.host) _ ?_ ?_
    (agenda_activeForHost hk hb.host)
  · exact fun db record records h => h.next
  · intro db record records h
    exact gatedTurn_iff h.keyed (h.stored record List.mem_cons_self).2

/-- The closure `bad` of host `a` is quarantined, then declared again for both hosts. -/
def requarantinedRun : List CpInput :=
  let manifests (ref : ChannelRef) (hosts : List HostId) := stableManifests
    (stableFleet ref (hosts.map fun host => (host, "bad")) ⟨"staged", [], .rollbackAndHalt⟩ []
      [] [])
  let event (e : Event) := CpEvent.hostEvent "a" (.new "stable" "r1") e
  [.plain (.manifestSetUpdated (manifests "r1" ["a"])) 0,
   .plain (event (.remoteDispatchAck "good" 1 1)) 1,
   .plain (event (.remoteActivationFailed 1 "" 2 2)) 2,
   .plain (event (.remoteRollbackComplete "good" 0 3 3)) 3,
   .plain (.manifestSetUpdated (manifests "r2" ["a", "b"])) 4]

/-- A heartbeat of a host that runs the closure already. -/
def adoptingInput : CpInput :=
  .plain (.heartbeatReceived ⟨"b", some (.new "stable" "r2"), some "bad", 5⟩) 5

/-- The result at the state of a run. -/
theorem requarantinedRun_gated_iff :
    HeartbeatGated (cpMachine.run Cp.initial requarantinedRun) adoptingInput ↔
      HeartbeatSound (cpMachine.run Cp.initial requarantinedRun) adoptingInput :=
  heartbeatGated_iff (run_recordsKeyed requarantinedRun) adoptingInput

set_option maxRecDepth 4000 in
/-- The heartbeat drives the host to `Converged` on the quarantined closure. -/
theorem requarantinedRun_not_gated :
    ¬ HeartbeatGated (cpMachine.run Cp.initial requarantinedRun) adoptingInput := by
  intro h
  have hturns := h ⟨"b", some (.new "stable" "r2"), some "bad", 5⟩ "bad" rfl rfl rfl
  have hafter : ((cpStep (cpMachine.run Cp.initial requarantinedRun) adoptingInput).1.db.loadRecord
      (.new "stable" "r2") "b").any (·.state = .converged) = true := by decide
  have hone : ((cpMachine.run Cp.initial requarantinedRun).db.activeForHost "b").length = 1 := by
    decide
  have hpending : ((cpMachine.run Cp.initial requarantinedRun).db.activeForHost "b").all (fun r =>
      r.state = .pending ∧ r.rolloutId = .new "stable" "r2" ∧ r.channel = "stable" ∧
        r.targetClosure = "bad") = true := by decide
  obtain ⟨r, hr⟩ := List.length_eq_one_iff.mp hone
  rw [hr] at hpending hturns
  simp only [List.all_cons, List.all_nil, Bool.and_true, decide_eq_true_eq] at hpending
  obtain ⟨hs, hrid, hchannel, htarget⟩ := hpending
  obtain ⟨next, hnext, hconverged⟩ := (Option.any_eq_true _ _).mp hafter
  have hturn : (turnMachine (cpMachine.run Cp.initial requarantinedRun) adoptingInput
      ⟨"b", some (.new "stable" "r2"), some "bad", 5⟩ "bad").run
        (cpMachine.run Cp.initial requarantinedRun).db [r] =
      (cpStep (cpMachine.run Cp.initial requarantinedRun) adoptingInput).1.db := by
    rw [← hr]
    exact run_turnMachine rfl rfl rfl
  have hquarantined :
      (cpMachine.run Cp.initial requarantinedRun).db.Quarantined "stable" "bad" := by
    decide
  rw [← hturn] at hnext
  refine (hturns.1 hs ?_).1 (hchannel.symm ▸ htarget.symm ▸ hquarantined)
  intro hsame
  rw [hrid] at hsame
  have heq : next = r := Option.some.inj (hnext.symm.trans hsame)
  rw [heq, hs] at hconverged
  exact absurd hconverged (by decide)

end Nixfleet
