import Mathlib.Data.List.Dedup
import Nixfleet.ControlPlane.Records
import Nixfleet.ControlPlane.Rows

set_option autoImplicit false

/-!
# What the planner sees

`buildFleetState` projects the records and rows of the rollouts that the manifests name. The
lemmas below say in which tables an entry of the projection stands, and that without failing
statements nothing named is missing. The wave bumps then change wave cursors only.
-/

namespace Nixfleet

/-- The rollout is the one of a manifest. -/
def SignedManifestSet.Names (m : SignedManifestSet) (rid : RolloutId) : Prop :=
  ∃ channel manifest, m.rollouts.lookup channel = some manifest ∧
    rid = .new channel manifest.channelRef

theorem mem_allForRollout {db : Db} {rid : RolloutId} {r : HostRolloutState} :
    r ∈ db.allForRollout rid ↔ ∃ host, db.loadRecord rid host = some r := by
  simp only [Db.allForRollout, Db.loadRecord, List.mem_map, List.mem_filter, decide_eq_true_eq,
    Prod.exists, Table.mem_rows]
  constructor
  · rintro ⟨rid', host, r', ⟨hr, rfl⟩, rfl⟩
    exact ⟨host, hr⟩
  · rintro ⟨host, hr⟩
    exact ⟨rid, host, r, ⟨hr, rfl⟩, rfl⟩

section Build

variable {order : MapOrders} {faults : Faults} {db : Db} {m : SignedManifestSet}
  {fs : FleetState}

/-- The host states are the records of the named rollouts. -/
theorem buildFleetState_hostState (h : buildFleetState order faults db m = some fs)
    (hk : db.RecordsKeyed) {rid : RolloutId} {host : HostId} {r : HostRolloutState} :
    fs.hostStates.lookup (rid, host) = some r ↔
      m.Names rid ∧ db.loadRecord rid host = some r := by
  unfold buildFleetState at h
  dsimp only at h
  split at h
  · cases h
  · cases h
    dsimp only
    generalize hentries : iterBy order.channels m.rollouts.rows = entries
    have hmem : ∀ e, e ∈ entries ↔ m.rollouts.lookup e.1 = some e.2 := by
      intro e
      rw [← hentries, mem_iterBy, ← Table.mem_rows]
    -- each state is the record of its key
    have hsound : ∀ (l : List (ChannelId × RolloutManifest)), (∀ e ∈ l, e ∈ entries) →
        ∀ rid host r, (l.foldl (fun states m =>
          (db.allForRollout (RolloutId.new m.1 m.2.channelRef)).foldl (fun states row =>
            states.insert (RolloutId.new m.1 m.2.channelRef, row.hostname) row) states)
          (∅ : Table (RolloutId × HostId) HostRolloutState)).lookup (rid, host) = some r →
        m.Names rid ∧ db.loadRecord rid host = some r := by
      intro l hl
      refine List.foldlRecOn (motive := fun states : Table (RolloutId × HostId)
        HostRolloutState => ∀ rid host r, states.lookup (rid, host) = some r →
          m.Names rid ∧ db.loadRecord rid host = some r) _ _ ?_ ?_
      · intro rid host r hr
        cases hr
      · intro states ih e he rid host r hr
        rcases Table.lookup_foldl_insert hr with hold | ⟨row, hrow, hkey, rfl⟩
        · exact ih rid host r hold
        · simp only [Prod.mk.injEq] at hkey
          obtain ⟨rfl, rfl⟩ := hkey
          obtain ⟨host', hload⟩ := mem_allForRollout.mp hrow
          rw [(hk _ _ _ hload).2]
          exact ⟨⟨e.1, e.2, (hmem e).mp (hl e he), rfl⟩, hload⟩
    constructor
    · exact hsound entries (fun _ he => he) rid host r
    · rintro ⟨⟨channel, manifest, hlook, rfl⟩, hload⟩
      -- the key is there, and its state is the record
      have hsome : ((entries.foldl (fun states m =>
          (db.allForRollout (RolloutId.new m.1 m.2.channelRef)).foldl (fun states row =>
            states.insert (RolloutId.new m.1 m.2.channelRef, row.hostname) row) states)
          (∅ : Table (RolloutId × HostId) HostRolloutState)).lookup
            (RolloutId.new channel manifest.channelRef, host)).isSome = true := by
        obtain ⟨before, after, hsplit⟩ :=
          List.append_of_mem ((hmem (channel, manifest)).mpr hlook)
        -- the rollout's own turn inserts the key, and no later turn removes one
        rw [hsplit, List.foldl_append, List.foldl_cons]
        refine List.foldlRecOn (motive := fun states : Table (RolloutId × HostId)
          HostRolloutState => (states.lookup
            (RolloutId.new channel manifest.channelRef, host)).isSome = true) _ _ ?_ ?_
        · refine Table.isSome_lookup_foldl_insert
            (.inr ⟨r, mem_allForRollout.mpr ⟨host, hload⟩, ?_⟩)
          rw [(hk _ _ _ hload).2]
        · intro states hstates e _
          exact Table.isSome_lookup_foldl_insert (.inl hstates)
      obtain ⟨r', hr'⟩ := Option.isSome_iff_exists.mp hsome
      have hload' := (hsound entries (fun _ he => he) _ _ _ hr').2
      rw [hload] at hload'
      cases hload'
      exact hr'

/-- Every summary is the projection of the row of a named rollout. -/
theorem buildFleetState_summary (h : buildFleetState order faults db m = some fs)
    {rid : RolloutId} {summary : RolloutSummary} (hs : fs.rollouts.lookup rid = some summary) :
    ∃ channel manifest row, m.rollouts.lookup channel = some manifest ∧
      rid = .new channel manifest.channelRef ∧ db.rollouts.lookup rid = some row ∧
      summary = summaryOf channel manifest row := by
  unfold buildFleetState at h
  dsimp only at h
  split at h
  · cases h
  · cases h
    revert rid summary
    dsimp only
    refine List.foldlRecOn (motive := fun rollouts : Table RolloutId RolloutSummary =>
      ∀ {rid summary}, rollouts.lookup rid = some summary → ∃ channel manifest row,
        m.rollouts.lookup channel = some manifest ∧ rid = .new channel manifest.channelRef ∧
        db.rollouts.lookup rid = some row ∧ summary = summaryOf channel manifest row) _ _ ?_ ?_
    · intro rid summary hs
      cases hs
    · intro rollouts ih e he rid summary hs
      split at hs
      · exact ih hs
      · split at hs
        · rename_i row hrow
          rw [Table.lookup_insert_eq] at hs
          split at hs
          · rename_i hrid
            cases hs
            have hlook : m.rollouts.lookup e.1 = some e.2 := Table.mem_rows.mp (mem_iterBy.mp he)
            exact ⟨e.1, e.2, row, hlook, hrid, hrid ▸ hrow, rfl⟩
          · exact ih hs
        · exact ih hs

/-- A row whose query fails has no summary. -/
theorem buildFleetState_summary_read (h : buildFleetState order faults db m = some fs)
    {rid : RolloutId} {summary : RolloutSummary} (hs : fs.rollouts.lookup rid = some summary) :
    faults (.rolloutSummary rid) = false := by
  unfold buildFleetState at h
  dsimp only at h
  split at h
  · cases h
  · cases h
    revert rid summary
    dsimp only
    refine List.foldlRecOn (motive := fun rollouts : Table RolloutId RolloutSummary =>
      ∀ {rid summary}, rollouts.lookup rid = some summary →
        faults (.rolloutSummary rid) = false) _ _ (fun hs => by cases hs) ?_
    intro rollouts ih e _ rid summary hs
    split at hs
    · exact ih hs
    · rename_i hread
      split at hs
      · rw [Table.lookup_insert_eq] at hs
        split at hs
        · rename_i hrid
          rw [hrid, ← Bool.not_eq_true]
          exact hread
        · exact ih hs
      · exact ih hs

/-- Every named rollout with a row that is read has a summary. -/
theorem buildFleetState_isSome_summary (h : buildFleetState order faults db m = some fs)
    {rid : RolloutId} (hread : faults (.rolloutSummary rid) = false) (hn : m.Names rid)
    (hrow : (db.rollouts.lookup rid).isSome = true) :
    (fs.rollouts.lookup rid).isSome = true := by
  obtain ⟨channel, manifest, hlook, rfl⟩ := hn
  obtain ⟨row, hrow⟩ := Option.isSome_iff_exists.mp hrow
  unfold buildFleetState at h
  dsimp only at h
  split at h
  · cases h
  · cases h
    dsimp only
    have hmem : (channel, manifest) ∈ iterBy order.channels m.rollouts.rows :=
      mem_iterBy.mpr (Table.mem_rows.mpr hlook)
    obtain ⟨before, after, hsplit⟩ := List.append_of_mem hmem
    rw [hsplit, List.foldl_append, List.foldl_cons]
    refine List.foldlRecOn (motive := fun rollouts : Table RolloutId RolloutSummary =>
      (rollouts.lookup (RolloutId.new channel manifest.channelRef)).isSome = true) _ _ ?_ ?_
    -- the manifest's own turn, then the ones that follow it
    · simp [hread, hrow]
    · intro rollouts hrollouts e _
      split
      · exact hrollouts
      · split
        · exact Table.isSome_lookup_insert hrollouts
        · exact hrollouts

/-- The failing probes are those of the database, if their query is answered. -/
theorem buildFleetState_outstanding (h : buildFleetState order faults db m = some fs)
    (hread : faults .outstandingFailures = false) :
    fs.outstandingFailingEnforceProbes = db.outstandingFailingEnforceProbes := by
  unfold buildFleetState at h
  dsimp only at h
  split at h
  · cases h
  · cases h
    simp [hread]

theorem buildFleetState_isSome (order : MapOrders) (db : Db) (m : SignedManifestSet) :
    (buildFleetState order noFaults db m).isSome = true := by
  simp [buildFleetState, noFaults]

/-- A rollout without failure rows has no failing probes. -/
theorem outstanding_eq_none {rid : RolloutId} (h : ∀ p ∈ db.probeFailures, p.rolloutId ≠ rid) :
    db.outstandingFailingEnforceProbes.lookup rid = none := by
  unfold Db.outstandingFailingEnforceProbes
  refine List.foldlRecOn (motive := fun out : Table RolloutId (Table HostId Nat) =>
    out.lookup rid = none) _ _ rfl ?_
  intro out hout g hg
  obtain ⟨p, hp, rfl⟩ := List.mem_map.mp (List.mem_dedup.mp hg)
  have hne : rid ≠ p.rolloutId := (h p hp).symm
  rw [Table.lookup_insert_eq, if_neg hne]
  exact hout

end Build

/-! ## The wave bumps -/

/-- A bump moves to the next wave, and all hosts of the current one are done. -/
theorem nextWave_eq_some {fleet : FleetResolved} {fs : FleetState} {rid : RolloutId}
    {summary : RolloutSummary} {wave : Nat} (h : nextWave fleet fs rid summary = some wave) :
    wave = summary.currentWave + 1 ∧
      ∀ current, ((fleet.waves.lookup summary.channel).getD [])[summary.currentWave]? =
          some current →
        ∀ host ∈ current.hosts, ∃ s, fs.hostStates.lookup (rid, host) = some s ∧
          s.state.orderingEligible = true := by
  unfold nextWave at h
  split at h
  · cases h
  · split at h
    · cases h
    · rename_i waves hwaves
      split at h
      · cases h
      · split at h
        · cases h
        · rename_i current hcurrent
          split at h
          · cases h
          · split at h
            · rename_i hall
              refine ⟨(Option.some.inj h).symm, ?_⟩
              simp only [hwaves, Option.getD_some, hcurrent, Option.some.injEq, forall_eq']
              intro host hhost
              have hany := List.all_eq_true.mp hall host hhost
              simpa [Option.any_eq_true] using hany
            · cases h

/-- The bumps of a tick, before they are written. -/
theorem mem_bumps {order : MapOrders} {fleet : FleetResolved} {fs : FleetState}
    {bump : RolloutId × Nat} :
    bump ∈ (iterBy order.rollouts fs.rollouts.rows).filterMap (fun r =>
        (nextWave fleet fs r.1 r.2).map fun wave => (r.1, wave)) ↔
      ∃ summary, fs.rollouts.lookup bump.1 = some summary ∧
        nextWave fleet fs bump.1 summary = some bump.2 := by
  simp only [List.mem_filterMap, mem_iterBy, Prod.exists, Table.mem_rows, Option.map_eq_some_iff]
  constructor
  · rintro ⟨rid, summary, hs, wave, hw, rfl⟩
    exact ⟨summary, hs, hw⟩
  · rintro ⟨summary, hs, hw⟩
    exact ⟨bump.1, summary, hs, bump.2, hw, rfl⟩

/-- A summary after the bumps is as before, or its bump is written. -/
theorem advanceCurrentWaves_summary_cases {order : MapOrders} {faults : Faults}
    {fleet : FleetResolved} {db : Db} {fs : FleetState} {rid : RolloutId}
    {summary : RolloutSummary}
    (h : (advanceCurrentWaves order faults fleet db fs).2.rollouts.lookup rid = some summary) :
    ∃ summary₀, fs.rollouts.lookup rid = some summary₀ ∧ (summary = summary₀ ∨
      ∃ wave, nextWave fleet fs rid summary₀ = some wave ∧
        summary = { summary₀ with currentWave := wave }) := by
  revert rid summary
  unfold advanceCurrentWaves
  refine List.foldlRecOn (motive := fun acc : Db × FleetState => ∀ {rid summary},
    acc.2.rollouts.lookup rid = some summary → ∃ summary₀, fs.rollouts.lookup rid =
      some summary₀ ∧ (summary = summary₀ ∨ ∃ wave, nextWave fleet fs rid summary₀ = some wave ∧
        summary = { summary₀ with currentWave := wave })) _ _ ?_ ?_
  · intro rid summary hs
    exact ⟨summary, hs, .inl rfl⟩
  · intro acc ih bump hbump rid summary hs
    dsimp only at hs
    split at hs
    · exact ih hs
    · rw [Table.lookup_modify] at hs
      split at hs
      · rename_i hrid
        subst hrid
        obtain ⟨summary₁, hs₁, rfl⟩ := Option.map_eq_some_iff.mp hs
        obtain ⟨summary₀, hs₀, hsame⟩ := ih hs₁
        -- the bump is the one of the summary the tick started with
        obtain ⟨summary', hs', hnext⟩ := mem_bumps.mp hbump
        rw [hs₀] at hs'
        cases hs'
        refine ⟨summary₀, hs₀, .inr ⟨bump.2, hnext, ?_⟩⟩
        rcases hsame with rfl | ⟨wave, -, rfl⟩
        · rfl
        · rfl
      · exact ih hs

/-- A bumped summary differs in the wave cursor only, which moves forward. -/
theorem advanceCurrentWaves_summary {order : MapOrders} {faults : Faults}
    {fleet : FleetResolved} {db : Db} {fs : FleetState} {rid : RolloutId}
    {summary : RolloutSummary}
    (h : (advanceCurrentWaves order faults fleet db fs).2.rollouts.lookup rid = some summary) :
    ∃ summary₀, fs.rollouts.lookup rid = some summary₀ ∧
      ∃ wave, summary₀.currentWave ≤ wave ∧ summary = { summary₀ with currentWave := wave } := by
  obtain ⟨summary₀, hs₀, rfl | ⟨wave, hnext, rfl⟩⟩ := advanceCurrentWaves_summary_cases h
  · exact ⟨summary, hs₀, summary.currentWave, le_rfl, rfl⟩
  · have hwave := (nextWave_eq_some hnext).1
    exact ⟨summary₀, hs₀, wave, by omega, rfl⟩

/-- Without failing statements a bump reaches the row. -/
theorem advanceCurrentWaves_raises {order : MapOrders} {fleet : FleetResolved} {db : Db}
    {fs : FleetState} {rid : RolloutId} {summary : RolloutSummary} {wave : Nat}
    (hs : fs.rollouts.lookup rid = some summary) (hw : nextWave fleet fs rid summary = some wave)
    (hrow : (db.rollouts.lookup rid).isSome = true) :
    ∃ row, (advanceCurrentWaves order noFaults fleet db fs).1.rollouts.lookup rid = some row ∧
      wave ≤ row.currentWave := by
  have hbump : (rid, wave) ∈ (iterBy order.rollouts fs.rollouts.rows).filterMap (fun r =>
      (nextWave fleet fs r.1 r.2).map fun wave => (r.1, wave)) := mem_bumps.mpr ⟨summary, hs, hw⟩
  unfold advanceCurrentWaves
  -- the bumps were computed beforehand, so the fold does not depend on what it writes
  generalize (iterBy order.rollouts fs.rollouts.rows).filterMap (fun r =>
    (nextWave fleet fs r.1 r.2).map fun wave => (r.1, wave)) = bumps at hbump
  obtain ⟨before, after, rfl⟩ := List.append_of_mem hbump
  rw [List.foldl_append, List.foldl_cons]
  refine List.foldlRecOn (motive := fun acc : Db × FleetState => ∃ row,
    acc.1.rollouts.lookup rid = some row ∧ wave ≤ row.currentWave) after _ ?_ ?_
  · -- the row is still there when its bump is written
    have hthere := List.foldlRecOn (motive := fun acc : Db × FleetState =>
      (acc.1.rollouts.lookup rid).isSome = true) before (fun acc bump =>
        if noFaults (.setCurrentWave bump.1 bump.2) then acc
        else (acc.1.setCurrentWave bump.1 bump.2,
          { acc.2 with
            rollouts := acc.2.rollouts.modify bump.1 fun s => { s with currentWave := bump.2 } }))
      (b := (db, fs)) hrow (fun acc hacc bump _ => by
        simpa only [noFaults, Bool.false_eq_true, if_false, setCurrentWave_lookup,
          Option.isSome_map] using hacc)
    obtain ⟨row, hrow'⟩ := Option.isSome_iff_exists.mp hthere
    simp only [noFaults, Bool.false_eq_true, if_false] at hrow' ⊢
    refine ⟨_, by rw [setCurrentWave_lookup, hrow']; rfl, ?_⟩
    by_cases hlt : row.currentWave < wave
    · simp [hlt]
    · simp only [hlt, and_false, if_false]
      omega
  · rintro acc ⟨row, hacc, hle⟩ bump _
    simp only [noFaults, Bool.false_eq_true, if_false, setCurrentWave_lookup, hacc,
      Option.map_some]
    refine ⟨_, rfl, ?_⟩
    split
    · rename_i hcond
      dsimp only
      omega
    · exact hle

/-- No bump takes a summary away. -/
theorem advanceCurrentWaves_isSome_summary {order : MapOrders} {faults : Faults}
    {fleet : FleetResolved} {db : Db} {fs : FleetState} {rid : RolloutId}
    (h : (fs.rollouts.lookup rid).isSome = true) :
    ((advanceCurrentWaves order faults fleet db fs).2.rollouts.lookup rid).isSome = true := by
  unfold advanceCurrentWaves
  refine List.foldlRecOn (motive := fun acc : Db × FleetState =>
    (acc.2.rollouts.lookup rid).isSome = true) _ _ h ?_
  intro acc hacc bump _
  dsimp only
  split
  · exact hacc
  · rw [Table.lookup_modify]
    split
    · rename_i hrid
      rw [← hrid, Option.isSome_map]
      exact hacc
    · exact hacc

/-! ## A plan -/

section Plan

variable {rs : ReducerState} {order : MapOrders} {now : Time} {faults : Faults} {db : Db}
  {plan : Plan}

/-- The record of a candidate is the stored one. -/
theorem loadRecord_of_candidate (h : planOf rs order now faults db = some plan)
    (hk : db.RecordsKeyed) {c : Candidate} (hc : c ∈ candidates order plan.fleetState) :
    db.loadRecord c.rolloutId c.host = some c.record := by
  obtain ⟨m, fs, -, hfs, -, hplan, -⟩ := planOf_eq_some h
  have hlook := (mem_candidates.mp hc).2.2.1
  rw [hplan, advanceCurrentWaves_hostStates] at hlook
  exact ((buildFleetState_hostState hfs hk).mp hlook).2

/-- The rollout of a candidate has a row, and has not ended. -/
theorem row_of_candidate (h : planOf rs order now faults db = some plan) {c : Candidate}
    (hc : c ∈ candidates order plan.fleetState) :
    ∃ row, db.rollouts.lookup c.rolloutId = some row ∧ row.terminalAt = none := by
  obtain ⟨m, fs, -, hfs, -, hplan, -⟩ := planOf_eq_some h
  obtain ⟨hlook, hopen, -, -⟩ := mem_candidates.mp hc
  rw [hplan] at hlook
  obtain ⟨summary₀, hs₀, wave, -, hsummary⟩ := advanceCurrentWaves_summary hlook
  obtain ⟨channel, manifest, row, -, -, hrow, rfl⟩ := buildFleetState_summary hfs hs₀
  rw [hsummary] at hopen
  exact ⟨row, hrow, hopen⟩

/-- A planned dispatch is one of a candidate that the gates let pass. -/
theorem exists_candidate_of_mem_plan (h : planOf rs order now faults db = some plan)
    {m : SignedManifestSet} (hm : rs.manifests = some m) {host : HostId} {rid : RolloutId}
    {closure : ClosureHash} {due : Time} (ha : .queueDispatch host rid closure due ∈ plan.actions) :
    ∃ c ∈ candidates order plan.fleetState, c.rolloutId = rid ∧ c.host = host ∧
      c.evaluate m plan.fleetState rs.quarantines (fun _ => 0) = none := by
  obtain ⟨m', -, hm', -, -, -, hact⟩ := planOf_eq_some h
  rw [hm] at hm'
  cases hm'
  rw [hact] at ha
  obtain ⟨c, hc, hrid, hhost, -, -, heval⟩ := exists_candidate_of_queueDispatch ha
  exact ⟨c, hc, hrid, hhost, heval⟩

/-- What the planner sees of a named rollout: the row, if it is read. -/
theorem terminalAt_of_summary (h : planOf rs order now faults db = some plan)
    {rid : RolloutId} {summary : RolloutSummary}
    (hs : plan.fleetState.rollouts.lookup rid = some summary) :
    faults (.rolloutSummary rid) = false ∧
      ∃ row, db.rollouts.lookup rid = some row ∧ summary.terminalAt = row.terminalAt := by
  obtain ⟨m, fs, -, hfs, -, hplan, -⟩ := planOf_eq_some h
  rw [hplan] at hs
  obtain ⟨summary₀, hs₀, wave, -, rfl⟩ := advanceCurrentWaves_summary hs
  obtain ⟨channel, manifest, row, -, -, hrow, rfl⟩ := buildFleetState_summary hfs hs₀
  exact ⟨buildFleetState_summary_read hfs hs₀, row, hrow, rfl⟩

theorem exists_summary (h : planOf rs order now faults db = some plan)
    {m : SignedManifestSet} (hm : rs.manifests = some m) {rid : RolloutId} (hn : m.Names rid)
    (hread : faults (.rolloutSummary rid) = false)
    (hrow : (db.rollouts.lookup rid).isSome = true) :
    ∃ summary, plan.fleetState.rollouts.lookup rid = some summary := by
  obtain ⟨m', fs, hm', hfs, -, hplan, -⟩ := planOf_eq_some h
  rw [hm] at hm'
  cases hm'
  rw [hplan]
  exact Option.isSome_iff_exists.mp
    (advanceCurrentWaves_isSome_summary (buildFleetState_isSome_summary hfs hread hn hrow))

/-- A plan opens a rollout only if it has no row, or its row is not read. -/
theorem row_none_of_openRollout (h : planOf rs order now faults db = some plan)
    {rid : RolloutId} (hread : faults (.rolloutSummary rid) = false) {channel : ChannelId}
    {targetRef : ChannelRef} (ha : .openRollout rid channel targetRef ∈ plan.actions) :
    db.rollouts.lookup rid = none := by
  obtain ⟨m, fs, -, hfs, -, hplan, hact⟩ := planOf_eq_some h
  rw [hact, openRollout_mem_planNext] at ha
  obtain ⟨manifest, hlook, rfl, -, hnone⟩ := ha
  by_contra hrow
  -- a row that is read would have been seen
  have hseen : (plan.fleetState.rollouts.lookup (.new channel manifest.channelRef)).isSome =
      true := by
    rw [hplan]
    exact advanceCurrentWaves_isSome_summary (buildFleetState_isSome_summary hfs hread
      ⟨channel, manifest, hlook, rfl⟩ (Option.isSome_iff_ne_none.mpr hrow))
  rw [hnone] at hseen
  cases hseen

end Plan

end Nixfleet
