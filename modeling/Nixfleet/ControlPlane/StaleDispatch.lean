import Nixfleet.ControlPlane.Deployment
import Nixfleet.ControlPlane.Supersession

set_option autoImplicit false

/-!
# Dispatches of superseded rollouts

A dispatch waits in the queue until its host asks for it, and the queue knows nothing of the
rollouts: superseding one does not take its dispatches out, and taking one does not look at the
row. What keeps the deliveries current is therefore a property of the queue in every state, that no
dispatch of a superseded rollout waits in it (`QueueUnended`). A tick breaks it when it supersedes a
rollout whose dispatch still waits, or when its manifests name a rollout again that was superseded
with hosts left to dispatch (`deliveries_unended`).
-/

namespace Nixfleet

/-- A step delivers no dispatch of a superseded rollout. -/
def DeliversUnended (cp : Cp) (i : CpInput) : Prop :=
  ∀ d, .delivered d ∈ (cpStep cp i).2 →
    ∀ row ∈ cp.db.rollouts.lookup d.rolloutId, row.state ≠ .superseded

/-- The plan tick finds the queue drained of the rollouts that it supersedes, and the manifests name
no superseded rollout that has hosts to dispatch. -/
structure QueueFollows (cp : Cp) (i : CpInput) : Prop where
  own : ∀ m ∈ cp.planSet i, ∀ e ∈ m.rollouts.rows,
    ∀ row ∈ cp.db.rollouts.lookup (.new e.1 e.2.channelRef), row.channel = e.1
  drained : ∀ m ∈ cp.planSet i, ∀ fs ∈ buildFleetState i.order i.faults cp.db m,
    ∀ e ∈ m.rollouts.rows, fs.rollouts.lookup (.new e.1 e.2.channelRef) = none →
      ∀ q ∈ cp.db.dispatchQueue.rows, cp.db.Live q.1.2 e.1 → q.1.2 = .new e.1 e.2.channelRef
  settled : ∀ m ∈ cp.planSet i, ∀ e ∈ m.rollouts.rows,
    ∀ row ∈ cp.db.rollouts.lookup (.new e.1 e.2.channelRef), row.state = .superseded →
      row.terminalAt = none → ∀ r ∈ cp.db.hostRolloutRecords.rows,
        r.1.1 = .new e.1 e.2.channelRef → r.2.awaitsDispatch = false

/-- No dispatch of a superseded rollout waits in the queue. -/
def Db.QueueUnended (db : Db) : Prop :=
  ∀ host rid q, db.dispatchQueue.lookup (host, rid) = some q →
    q.rolloutId = rid ∧ ∀ row ∈ db.rollouts.lookup rid, row.state ≠ .superseded

/-! ## What a tick supersedes -/

section Tick

variable {ctx : ApplierCtx} {db : Db}

/-- A row after a rollout was opened: the fresh one, or one from before. It was superseded before,
or it was live in the channel and is another rollout's. -/
inductive OpenedFrom (db : Db) (rid : RolloutId) (channel : ChannelId) (rid' : RolloutId)
    (row' : RolloutRow) : Prop
  | fresh (hrid : rid' = rid) (hchannel : row'.channel = channel)
      (hlive : row'.state.isLive = true)
  | kept (row : RolloutRow) (hrow : db.rollouts.lookup rid' = some row)
      (hchannel : row'.channel = row.channel)
      (hlive : row'.state.isLive = true → row.state.isLive = true)
      (hended : row'.state = .superseded → row.state = .superseded ∨
        row.channel = channel ∧ row.state.isLive = true ∧ rid' ≠ rid)

theorem isLive_eq_false {s : RolloutState} (h : s = .superseded) : s.isLive = false := by
  subst h
  rfl

/-- **The rows after a rollout was opened**, also with failing statements. -/
theorem openRollout_row (ctx : ApplierCtx) (h : db.RowsOk) (rid : RolloutId)
    (channel : ChannelId) (targetRef : ChannelRef) :
    (openRollout ctx db rid channel targetRef).RowsOk ∧
      ∀ rid' row', (openRollout ctx db rid channel targetRef).rollouts.lookup rid' = some row' →
        OpenedFrom db rid channel rid' row' := by
  have before : ∀ rid' row', db.rollouts.lookup rid' = some row' →
      OpenedFrom db rid channel rid' row' := fun rid' row' hrow =>
    .kept row' hrow rfl id .inl
  refine openRollout_steps (P := fun db' : Db => db'.RowsOk ∧ ∀ rid' row',
    db'.rollouts.lookup rid' = some row' → OpenedFrom db rid channel rid' row')
    (fun _ => ⟨h, before⟩) (fun _ => ⟨?_, ?_⟩) ?_ ?_ fun _ _ hdb => hdb
  · exact (recordRolloutOpened_rows ⟨h, .refl db⟩ rid channel targetRef ctx.now).1
  · intro rid' row' hrow'
    simp only [appendEventLog_rollouts, Db.recordRolloutOpened] at hrow'
    split at hrow'
    · exact before rid' row' hrow'
    · rw [Table.lookup_insert_eq] at hrow'
      split at hrow'
      · rename_i heq
        cases hrow'
        exact .fresh heq rfl rfl
      · exact before rid' row' hrow'
  · -- a predecessor: live in the channel before the rollout was opened
    rintro predecessor row₀ hactive hchannel₀ hne db' ⟨hok, ih⟩
    obtain ⟨hrow₀, hlive₀⟩ := mem_listActive.mp hactive
    refine ⟨(processRolloutEvent_rows hok _).1, fun rid' row' hrow' => ?_⟩
    obtain ⟨mid, hmid, hmoved⟩ := processRolloutEvent_moved hok hrow'
    by_cases hrid : rid' = predecessor
    · subst hrid
      rcases ih rid' mid hmid with ⟨rfl, -, -⟩ | ⟨row, hrow, hchannel, hlive, -⟩
      · exact absurd rfl hne
      · rw [hrow₀] at hrow
        cases hrow
        exact .kept row₀ hrow₀ (hmoved.1.trans hchannel) (fun hl => hlive (hmoved.isLive hl))
          fun _ => .inr ⟨hchannel₀, hlive₀, hne⟩
    · have hstate : row'.state = mid.state := hmoved.2.resolve_right fun hbad => hrid hbad.1
      rcases ih rid' mid hmid with ⟨hfresh, hchannel, hlive⟩ | ⟨row, hrow, hchannel, hlive, hended⟩
      · exact .fresh hfresh (hmoved.1.trans hchannel) (hstate ▸ hlive)
      · exact .kept row hrow (hmoved.1.trans hchannel) (hstate ▸ hlive) (hstate ▸ hended)
  · -- a host joins: no rollout ends
    rintro manifest _ hw _ db' ⟨hok, ih⟩
    have hup : (db'.upsertRecord (pendingRecord ctx rid channel hw)).RowsOk := hok
    refine ⟨(processRolloutEvent_rows hup _).1, fun rid' row' hrow' => ?_⟩
    obtain ⟨mid, hmid, hmoved⟩ := processRolloutEvent_moved hup hrow'
    have hsame := hmoved.same_or_isLive rfl
    rcases ih rid' mid hmid with ⟨hfresh, hchannel, hlive⟩ | ⟨row, hrow, hchannel, hlive, hended⟩
    · refine .fresh hfresh (hmoved.1.trans hchannel) ?_
      rcases hsame with heq | hl
      · rw [heq]
        exact hlive
      · exact hl
    · refine .kept row hrow (hmoved.1.trans hchannel) (fun hl => hlive (hmoved.isLive hl))
        fun hs => hended ?_
      rcases hsame with heq | hl
      · rw [← heq]
        exact hs
      · rw [isLive_eq_false hs] at hl
        cases hl

/-- What a tick has done to the rows, as far as it got. -/
structure TickRows (m : SignedManifestSet) (fs : FleetState) (db₀ db : Db) : Prop where
  rows : db.RowsOk
  live : ∀ rid channel, db.Live rid channel → db₀.Live rid channel ∨
    ∃ manifest, m.rollouts.lookup channel = some manifest ∧
      rid = .new channel manifest.channelRef
  ended : ∀ rid row, db.rollouts.lookup rid = some row → row.state = .superseded →
    (∃ row₀ ∈ db₀.rollouts.lookup rid, row₀.state = .superseded) ∨
      ∃ channel manifest, m.rollouts.lookup channel = some manifest ∧
        fs.rollouts.lookup (.new channel manifest.channelRef) = none ∧
        db₀.Live rid channel ∧ rid ≠ .new channel manifest.channelRef

theorem TickRows.of_rollouts {m : SignedManifestSet} {fs : FleetState} {db₀ db db' : Db}
    (h : TickRows m fs db₀ db) (hsame : db'.rollouts = db.rollouts) : TickRows m fs db₀ db' :=
  ⟨fun rid row hrow => h.rows rid row (hsame ▸ hrow),
    fun rid channel hlive => h.live rid channel ((live_congr hsame).mp hlive),
    fun rid row hrow => h.ended rid row (hsame ▸ hrow)⟩

theorem TickRows.openRollout {m : SignedManifestSet} {fs : FleetState} {db₀ : Db}
    (h : TickRows m fs db₀ db) {channel : ChannelId} {manifest : RolloutManifest}
    (hm : m.rollouts.lookup channel = some manifest)
    (hnone : fs.rollouts.lookup (.new channel manifest.channelRef) = none)
    (targetRef : ChannelRef) :
    TickRows m fs db₀
      (openRollout ctx db (.new channel manifest.channelRef) channel targetRef) := by
  obtain ⟨hok, hrows⟩ := openRollout_row ctx h.rows (.new channel manifest.channelRef) channel
    targetRef
  refine ⟨hok, ?_, ?_⟩
  · rintro rid channel' ⟨row', hrow', rfl, hlive'⟩
    rcases hrows rid row' hrow' with ⟨rfl, hch, -⟩ | ⟨row, hrow, hch, hlive, -⟩
    · rw [hch]
      exact .inr ⟨manifest, hm, rfl⟩
    · exact h.live rid _ ⟨row, hrow, hch.symm, hlive hlive'⟩
  · intro rid row' hrow' hs
    rcases hrows rid row' hrow' with ⟨-, -, hlive⟩ | ⟨row, hrow, -, -, hended⟩
    · rw [isLive_eq_false hs] at hlive
      cases hlive
    · rcases hended hs with hold | ⟨hch, hlive, hne⟩
      · exact h.ended rid row hrow hold
      · -- a live rollout of the channel, which is not the one that is opened
        rcases h.live rid channel ⟨row, hrow, hch, hlive⟩ with hold | ⟨manifest', hm', hid⟩
        · exact .inr ⟨channel, manifest, hm, hnone, hold, hne⟩
        · rw [hm] at hm'
          cases hm'
          exact absurd hid hne

/-- **What a plan tick supersedes**: live rollouts of the channels whose rollout it opens. -/
theorem runPlan_tickRows {rs : ReducerState} {order : MapOrders} {now : Time} {faults : Faults}
    {m : SignedManifestSet} (hrs : rs.manifests = some m) (h : db.RowsOk) {fs : FleetState}
    (hfs : buildFleetState order faults db m = some fs) :
    TickRows m fs db (runPlan rs order now faults db) := by
  have hstart : TickRows m fs db db :=
    ⟨h, fun _ _ hlive => .inl hlive, fun _ row hrow hs => .inl ⟨row, hrow, hs⟩⟩
  refine runPlan_rule hstart ?_ ?_
  · intro m' plan _ hplan
    obtain ⟨m₁, fs₁, -, -, hdb, -, -⟩ := planOf_eq_some hplan
    rw [hdb]
    unfold advanceCurrentWaves
    refine List.foldlRecOn (motive := fun acc : Db × FleetState => TickRows m fs db acc.1) _ _
      hstart ?_
    intro acc hacc bump _
    dsimp only
    split
    · exact hacc
    · refine ⟨setCurrentWave_rowsOk hacc.rows _ _, ?_, ?_⟩
      · exact fun rid channel hlive => hacc.live rid channel ((setCurrentWave_live _ _).mp hlive)
      · intro rid row hrow hs
        rw [setCurrentWave_lookup] at hrow
        obtain ⟨row₁, hrow₁, rfl⟩ := Option.map_eq_some_iff.mp hrow
        refine hacc.ended rid row₁ hrow₁ ?_
        split at hs
        · exact hs
        · exact hs
  · intro m' plan hm' hplan db' hdb' a ha
    obtain ⟨m₁, fs₁, hm₁, hfs₁, -, hseen, hact⟩ := planOf_eq_some hplan
    rw [hrs] at hm₁
    cases hm₁
    rw [hfs] at hfs₁
    cases hfs₁
    cases a with
    | openRollout rid channel targetRef =>
        rw [hact, openRollout_mem_planNext] at ha
        obtain ⟨manifest, hlook, rfl, -, hnone⟩ := ha
        refine hdb'.openRollout hlook ?_ targetRef
        -- the bumps add no summary and take none away
        by_contra hsome
        have hthere : (plan.fleetState.rollouts.lookup (.new channel manifest.channelRef)).isSome =
            true := by
          rw [hseen]
          exact advanceCurrentWaves_isSome_summary (Option.isSome_iff_ne_none.mpr hsome)
        rw [hnone] at hthere
        cases hthere
    | queueDispatch host rid closure due =>
        exact hdb'.of_rollouts (queueDispatch_rollouts _ db' host rid closure due)
    | deferDispatch => exact hdb'.of_rollouts rfl

end Tick

/-! ## The steps -/

section Steps

variable {cp : Cp} {i : CpInput}

/-- A delivered dispatch is the next one of a host. -/
theorem nextDispatch_of_delivered {d : QueuedDispatch} (h : .delivered d ∈ (cpStep cp i).2) :
    ∃ host, cp.db.nextDispatch i.rank host = some d := by
  have notPlanned : ∀ plan, CpOutput.delivered d ∉ planOutputs plan := by
    intro plan hmem
    cases plan <;> simp [planOutputs] at hmem
  unfold cpStep at h
  split at h
  · cases h
  · exact absurd h (notPlanned _)
  · simp at h
  · exact absurd h (notPlanned _)
  · cases h
  · cases h
  · rename_i host _
    refine ⟨host, ?_⟩
    unfold Db.takeForHost at h
    split at h
    · cases h
    · rename_i q hq
      simp only [Option.toList_some, List.map_cons, List.map_nil, List.mem_singleton,
        CpOutput.delivered.injEq] at h
      rw [h]
      exact hq

/-- After a plan tick that finds the queue drained, no dispatch of a superseded rollout waits. -/
theorem runPlan_queueUnended {rs : ReducerState} {m : SignedManifestSet}
    (hm : cp.planSet i = some m) (hrs : rs.manifests = some m) (hk : cp.db.RecordsKeyed)
    (hrows : cp.db.RowsOk) (hqueue : cp.db.QueueUnended) (hi : QueueFollows cp i) :
    (runPlan rs i.order i.now i.faults cp.db).QueueUnended := by
  cases hfs : buildFleetState i.order i.faults cp.db m with
  | none =>
      have hsame : runPlan rs i.order i.now i.faults cp.db = cp.db := by
        simp only [runPlan, planOf, hrs, hfs]
      rw [hsame]
      exact hqueue
  | some fs =>
      have htick : TickRows m fs cp.db (runPlan rs i.order i.now i.faults cp.db) :=
        runPlan_tickRows hrs hrows hfs
      intro host rid q hq
      rcases runPlan_queue hq with hold | ⟨⟨-, hkey⟩, plan, closure, due, hplan, ha⟩
      · -- a dispatch that waited before the tick
        obtain ⟨hkey, hnot⟩ := hqueue host rid q hold
        refine ⟨hkey, fun row hrow hs => ?_⟩
        rcases htick.ended rid row hrow hs with ⟨row₀, hrow₀, hs₀⟩ |
          ⟨channel, manifest, hlook, hnone, hlive, hne⟩
        · exact hnot row₀ hrow₀ hs₀
        · exact hne (hi.drained m hm fs hfs (channel, manifest) (Table.mem_rows.mpr hlook) hnone
            ((host, rid), q) (Table.mem_rows.mpr hold) hlive)
      · -- a dispatch of this tick, for a rollout that a manifest names
        refine ⟨hkey, fun row hrow hs => ?_⟩
        obtain ⟨c, hc, rfl, rfl, -⟩ := exists_candidate_of_mem_plan hplan hrs ha
        obtain ⟨row₁, hrow₁, hopen⟩ := row_of_candidate hplan hc
        obtain ⟨m₁, fs₁, hm₁, hfs₁, -, hseen, -⟩ := planOf_eq_some hplan
        rw [hrs] at hm₁
        cases hm₁
        rw [hfs] at hfs₁
        cases hfs₁
        have hlookup := (mem_candidates.mp hc).1
        rw [hseen] at hlookup
        obtain ⟨summary₀, hs₀, -⟩ := advanceCurrentWaves_summary hlookup
        obtain ⟨channel, manifest, row₂, hlook, hid, -, -⟩ := buildFleetState_summary hfs hs₀
        have hmem : (channel, manifest) ∈ m.rollouts.rows := Table.mem_rows.mpr hlook
        rcases htick.ended _ row hrow hs with ⟨row₀, hrow₀, hs₀⟩ |
          ⟨channel', manifest', hlook', -, hlive, hne⟩
        · rw [hrow₁] at hrow₀
          cases hrow₀
          rw [hid] at hrow₁
          have hrecord := loadRecord_of_candidate hplan hk hc
          have hnone := hi.settled m hm (channel, manifest) hmem row₁ hrow₁ hs₀ hopen
            ((c.rolloutId, c.host), c.record) (Table.mem_rows.mpr hrecord) hid
          rw [(mem_candidates.mp hc).2.2.2] at hnone
          cases hnone
        · obtain ⟨row₃, hrow₃, rfl, -⟩ := hlive
          rw [hid] at hrow₃
          have hch : row₃.channel = channel := hi.own m hm (channel, manifest) hmem row₃ hrow₃
          rw [hch, hlook] at hlook'
          cases hlook'
          exact hne (hid.trans (by rw [hch]))

/-- What the reports of hosts keep: the queue, and which rollouts are superseded. -/
theorem handleHostEvent_queueUnended {rs : ReducerState} {now : Time} {faults : Faults} {db : Db}
    (h : db.RowsOk ∧ db.QueueUnended) (host : HostId) (rid : RolloutId) (event : Event) :
    (handleHostEvent rs now faults db host rid event).RowsOk ∧
      (handleHostEvent rs now faults db host rid event).QueueUnended := by
  refine handleHostEvent_rule (P := fun db : Db => db.RowsOk ∧ db.QueueUnended) h
    fun manifests prior next effects _ => ?_
  refine hostStateChanged_rule (P := fun db : Db => db.RowsOk ∧ db.QueueUnended) ?_ ?_
  · rintro db e - he ⟨hok, hqueue⟩
    refine ⟨(processRolloutEvent_rows hok e).1, fun host rid q hq => ?_⟩
    rw [processRolloutEvent_dispatchQueue] at hq
    obtain ⟨hkey, hnot⟩ := hqueue host rid q hq
    refine ⟨hkey, fun row' hrow' hs => ?_⟩
    obtain ⟨row, hrow, hmoved⟩ := processRolloutEvent_moved hok hrow'
    rcases hmoved.same_or_isLive he with heq | hlive
    · exact hnot row hrow (heq ▸ hs)
    · rw [isLive_eq_false hs] at hlive
      cases hlive
  · refine List.foldlRecOn (motive := fun db : Db => db.RowsOk ∧ db.QueueUnended) _ _ h ?_
    rintro db ⟨hok, hqueue⟩ e _
    refine ⟨fun rid row hrow => hok rid row (applyEffect_rollouts _ db e ▸ hrow), ?_⟩
    intro host rid q hq
    rw [applyEffect_dispatchQueue] at hq
    rw [applyEffect_rollouts]
    exact hqueue host rid q hq

theorem cpStep_queueUnended (hk : cp.db.RecordsKeyed) (hrows : cp.db.RowsOk)
    (hqueue : cp.db.QueueUnended) (hi : QueueFollows cp i) : (cpStep cp i).1.db.QueueUnended := by
  refine (cpStep_rule (P := fun db : Db => db.RowsOk ∧ db.QueueUnended) ⟨hrows, hqueue⟩
    ?_ ?_ ?_ ?_).2
  · exact fun _ _ host rid event _ hdb => handleHostEvent_queueUnended hdb host rid event
  · exact fun rs m hm hrs =>
      ⟨(runPlan_rows ⟨hrows, .refl _⟩).1, runPlan_queueUnended hm hrs hk hrows hqueue hi⟩
  · -- the sweep deletes rows only
    intro _
    refine ⟨prune_rowsOk hrows _, fun host rid q hq => ?_⟩
    obtain ⟨hkey, hnot⟩ := hqueue host rid q hq
    exact ⟨hkey, fun row hrow => hnot row (lookup_of_prune hrow)⟩
  · intro host
    refine ⟨fun rid row hrow => hrows rid row ?_, fun host' rid q hq => ?_⟩
    · rwa [takeForHost_rollouts] at hrow
    · rw [takeForHost_rollouts]
      refine hqueue host' rid q ?_
      -- the queue loses at most one row
      unfold Db.takeForHost at hq
      split at hq
      · exact hq
      · rename_i taken _
        by_cases hkey : (host', rid) = (taken.hostname, taken.rolloutId)
        · rw [hkey, AList.lookup_erase] at hq
          cases hq
        · rwa [AList.lookup_erase_ne hkey] at hq

/-- **No delivery for a superseded rollout.** In every run whose plan ticks find the queue drained
of what they supersede and name no superseded rollout with hosts to dispatch, no step delivers a
dispatch of a superseded rollout. -/
theorem deliveries_unended {is : List CpInput} (his : cpMachine.Meets QueueFollows .initial is) :
    cpMachine.Meets DeliversUnended .initial is := by
  refine cpMachine.meets_of_invariant
    (P := fun cp => cp.db.RecordsKeyed ∧ cp.db.RowsOk ∧ cp.db.QueueUnended) ?_ ?_ ?_ his
  · rintro cp i ⟨hk, hrows, hqueue⟩ hi
    exact ⟨cpStep_recordsKeyed hk i, (cpStep_rows hrows i).1,
      cpStep_queueUnended hk hrows hqueue hi⟩
  · rintro cp i ⟨-, -, hqueue⟩ - d hd row hrow
    obtain ⟨host, hnext⟩ := nextDispatch_of_delivered hd
    obtain ⟨rid, hlook⟩ := lookup_of_nextDispatch hnext
    obtain ⟨hkey, hnot⟩ := hqueue host rid d hlook
    exact hnot row (hkey ▸ hrow)
  · refine ⟨?_, ?_, ?_⟩
    · intro rid host r hr
      cases hr
    · intro rid row hrow
      cases hrow
    · intro host rid q hq
      cases hq

end Steps

/-! ## Two orders of the same steps -/

/-- The host asks for its dispatch before the next rollout is opened. -/
def promptRun : List CpInput :=
  refHistory ["r1"] ++ [.plain .planTick 1, .plain (.takeDispatch "a") 2] ++ refHistory ["r2"] ++
    [.plain .planTick 4, .plain (.takeDispatch "a") 5]

set_option maxRecDepth 4000 in
theorem promptRun_deliveries : cpMachine.Meets DeliversUnended .initial promptRun := by
  refine deliveries_unended ⟨⟨?_, ?_, ?_⟩, ⟨?_, ?_, ?_⟩, ⟨?_, ?_, ?_⟩, ⟨?_, ?_, ?_⟩, ⟨?_, ?_, ?_⟩,
    ⟨?_, ?_, ?_⟩, trivial⟩ <;>
    decide

/-- The host asks after the next rollout is opened. -/
def lateRun : List CpInput :=
  refHistory ["r1"] ++ [.plain .planTick 1] ++ refHistory ["r2"] ++ [.plain (.takeDispatch "a") 3]

set_option maxRecDepth 4000 in
/-- The dispatch of the first rollout is still in the queue, and is delivered. -/
theorem lateRun_delivers_superseded : ¬ cpMachine.Meets DeliversUnended .initial lateRun := by
  intro h
  have hlast := h.2.2.2.1
  have hdelivered := hlast ⟨"a", .new "stable" "r1", "closure-r1", minutes 60, 1⟩ ?_ _ rfl
  · exact hdelivered (by decide)
  · refine List.mem_map_of_mem (Option.mem_toList.mpr ?_)
    decide

end Nixfleet
