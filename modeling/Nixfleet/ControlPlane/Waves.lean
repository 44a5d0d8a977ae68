import Mathlib.Data.List.Induction
import Nixfleet.ControlPlane.Progress

set_option autoImplicit false

/-!
# Waves in order

A wave is raised in the reducer (`nextWave`) and asked for in the gate (`wavePromotionCheck`), and
the cursor between the two lives in the row. The cursor never moves back, and while the signed
manifests stay the same, every wave below it was done at some plan tick: a property of the past,
which later moves of the hosts do not take away (`run_covered`). A host is dispatched with the
first wave that lists it, so all earlier waves were done by then (`waves_in_order`).
-/

namespace Nixfleet

/-- The inputs of a run with one manifest set: no other set arrives, and no sweep runs. -/
structure KeepsManifests (m : SignedManifestSet) (i : CpInput) : Prop where
  set : ∀ set, i.event = .manifestSetUpdated set → set = m
  noSweep : i.event ≠ .pruneSweep

/-- At some plan tick of the run the host was `Converged` or `Deferred` in the rollout. -/
def ReadyAtTick (is : List CpInput) (rid : RolloutId) (host : HostId) : Prop :=
  cpMachine.Sometime (fun cp i => (cp.planSet i).isSome = true ∧
    ∃ r ∈ cp.db.loadRecord rid host, r.state = .converged ∨ r.state = .deferred) .initial is

instance (is : List CpInput) (rid : RolloutId) (host : HostId) :
    Decidable (ReadyAtTick is rid host) :=
  inferInstanceAs (Decidable (cpMachine.Sometime _ .initial is))

theorem ReadyAtTick.append {is : List CpInput} {rid : RolloutId} {host : HostId}
    (h : ReadyAtTick is rid host) (js : List CpInput) : ReadyAtTick (is ++ js) rid host :=
  (cpMachine.sometime_append _ _ is js).mpr (.inl h)

theorem readyAtTick_of_record {is : List CpInput} {i : CpInput} {rid : RolloutId} {host : HostId}
    {m : SignedManifestSet} (hm : (cpMachine.run .initial is).planSet i = some m)
    {r : HostRolloutState} (hr : (cpMachine.run .initial is).db.loadRecord rid host = some r)
    (hready : r.state.orderingEligible = true) : ReadyAtTick (is ++ [i]) rid host := by
  refine (cpMachine.sometime_append _ _ is [i]).mpr (.inr (.inl ⟨by simp [hm], r, hr, ?_⟩))
  simpa [HostState.orderingEligible] using hready

/-! ## The cursors -/

/-- Every cursor of the table has the property. -/
def Db.CursorsAll (Q : RolloutId → Nat → Prop) (db : Db) : Prop :=
  ∀ rid row, db.rollouts.lookup rid = some row → Q rid row.currentWave

section Cursors

variable {Q : RolloutId → Nat → Prop} {db : Db}

theorem Db.CursorsAll.of_rollouts {db' : Db} (h : db.CursorsAll Q)
    (hsame : db'.rollouts = db.rollouts) : db'.CursorsAll Q := by
  intro rid row hrow
  rw [hsame] at hrow
  exact h rid row hrow

/-- The events of the control plane leave the cursors alone. -/
theorem Db.CursorsAll.event (h : db.CursorsAll Q) (ctx : ApplierCtx) {e : RolloutEvent}
    (he : e.isWaveAdvanced = false) : (processRolloutEvent ctx db e).CursorsAll Q := by
  unfold processRolloutEvent
  split
  · exact h
  · split
    · exact h
    · dsimp only
      split
      · rename_i effects hstep
        refine List.foldlRecOn (motive := Db.CursorsAll Q) _ _ (h.of_rollouts rfl) ?_
        intro db' hdb' effect heffect
        cases effect with
        | updateCurrentWave rid wave =>
            exact absurd heffect (updateCurrentWave_not_mem hstep he rid wave)
        | recordRolloutTransition rid src dst t =>
            simp only [applyRolloutEffect]
            split
            · exact hdb'.of_rollouts rfl
            · intro rid' row' hrow'
              simp only [appendEventLog_rollouts, Db.recordRolloutTransition,
                Table.lookup_modify] at hrow'
              split at hrow'
              · obtain ⟨row, hrow, rfl⟩ := Option.map_eq_some_iff.mp hrow'
                rw [setState_currentWave]
                rename_i hrid
                exact hdb' rid' row (hrid ▸ hrow)
              · exact hdb' rid' row' hrow'
      · exact h.of_rollouts rfl

theorem Db.CursorsAll.hostEvent {rs : ReducerState} {now : Time} {faults : Faults}
    (h : db.CursorsAll Q) (host : HostId) (rid : RolloutId) (event : Event) :
    (handleHostEvent rs now faults db host rid event).CursorsAll Q := by
  refine handleHostEvent_rule h fun manifests prior next effects _ => ?_
  refine hostStateChanged_rule (fun _ e he _ hdb => hdb.event _ he) (h.of_rollouts ?_)
  exact foldl_applyEffect_rollouts ..

/-- A rollout starts at wave `0`. -/
theorem Db.CursorsAll.action {ctx : ApplierCtx} (hzero : ∀ rid, Q rid 0) (h : db.CursorsAll Q)
    (a : PlanAction) : (applyPlanAction ctx db a).CursorsAll Q := by
  cases a with
  | openRollout rid channel targetRef =>
      refine openRollout_rule (fun _ => h) (fun _ => ?_) (fun _ e he hdb => hdb.event ctx he)
        (fun _ _ _ _ _ hdb => hdb.of_rollouts rfl) fun _ _ hdb => hdb.of_rollouts rfl
      intro rid' row hrow
      simp only [appendEventLog_rollouts, Db.recordRolloutOpened] at hrow
      split at hrow
      · exact h rid' row hrow
      · rw [Table.lookup_insert_eq] at hrow
        split at hrow
        · cases hrow
          exact hzero rid'
        · exact h rid' row hrow
  | queueDispatch host rid closure due =>
      exact h.of_rollouts (queueDispatch_rollouts ctx db host rid closure due)
  | deferDispatch => exact h.of_rollouts rfl

theorem Db.CursorsAll.advance {order : MapOrders} {faults : Faults} {fleet : FleetResolved}
    {fs : FleetState} (h : db.CursorsAll Q)
    (hnext : ∀ rid summary wave, fs.rollouts.lookup rid = some summary →
      nextWave fleet fs rid summary = some wave → Q rid wave) :
    (advanceCurrentWaves order faults fleet db fs).1.CursorsAll Q := by
  unfold advanceCurrentWaves
  refine List.foldlRecOn (motive := fun acc : Db × FleetState => acc.1.CursorsAll Q) _ _ h ?_
  intro acc hacc bump hbump
  obtain ⟨summary, hs, hwave⟩ := mem_bumps.mp hbump
  dsimp only
  split
  · exact hacc
  · intro rid row' hrow'
    rw [setCurrentWave_lookup] at hrow'
    obtain ⟨row, hrow, rfl⟩ := Option.map_eq_some_iff.mp hrow'
    split
    · rename_i hcond
      obtain ⟨rfl, -⟩ := hcond
      exact hnext _ _ _ hs hwave
    · exact hacc rid row hrow

end Cursors

/-! ## The waves below the cursor -/

/-- All hosts of all waves below the cursor have the property in the rollout. -/
def Covered (m : SignedManifestSet) (Ready : RolloutId → HostId → Prop) (rid : RolloutId)
    (cursor : Nat) : Prop :=
  ∀ channel manifest, m.rollouts.lookup channel = some manifest →
    rid = .new channel manifest.channelRef → ∀ j < cursor,
      ∀ wave ∈ (m.fleet.channelWaves channel)[j]?, ∀ host ∈ wave.hosts, Ready rid host

theorem Covered.mono {m : SignedManifestSet} {Ready Ready' : RolloutId → HostId → Prop}
    (hmono : ∀ rid host, Ready rid host → Ready' rid host) {rid : RolloutId} {cursor : Nat}
    (h : Covered m Ready rid cursor) : Covered m Ready' rid cursor :=
  fun channel manifest hm hid j hj wave hw host hhost =>
    hmono rid host (h channel manifest hm hid j hj wave hw host hhost)

theorem covered_zero (m : SignedManifestSet) (Ready : RolloutId → HostId → Prop)
    (rid : RolloutId) : Covered m Ready rid 0 :=
  fun _ _ _ _ _ hj => absurd hj (Nat.not_lt_zero _)

section Tick

variable {cfg : FleetConfig} {m : SignedManifestSet} {is : List CpInput} {i : CpInput}
  {order : MapOrders} {faults : Faults} {fs : FleetState}

/-- A bump covers the wave it leaves: its hosts are done at this very tick. -/
theorem covered_next (hrel : ReleasedFrom cfg m)
    (hm : (cpMachine.run .initial is).planSet i = some m)
    (hfs : buildFleetState order faults (cpMachine.run .initial is).db m = some fs)
    (hk : (cpMachine.run .initial is).db.RecordsKeyed)
    (hrows : (cpMachine.run .initial is).db.CursorsAll (Covered m (ReadyAtTick (is ++ [i]))))
    {rid : RolloutId} {summary : RolloutSummary} (hs : fs.rollouts.lookup rid = some summary) :
    Covered m (ReadyAtTick (is ++ [i])) rid summary.currentWave ∧
      ∀ wave, nextWave m.fleet fs rid summary = some wave →
        Covered m (ReadyAtTick (is ++ [i])) rid wave := by
  obtain ⟨channel, manifest, row, hlook, hid, hrow, rfl⟩ := buildFleetState_summary hfs hs
  have hcovered := hrows rid row hrow
  refine ⟨hcovered, fun wave hnext => ?_⟩
  obtain ⟨rfl, hdone⟩ := nextWave_eq_some hnext
  intro channel' manifest' hlook' hid' j hj current hcurrent host hhost
  have hch : channel' = channel := hrel.channel_eq hlook' hlook (hid'.symm.trans hid)
  subst hch
  rcases Nat.lt_succ_iff_lt_or_eq.mp hj with hlt | rfl
  · exact hcovered channel' manifest' hlook' hid' j hlt current hcurrent host hhost
  · -- the current wave, with the records that the tick reads
    obtain ⟨s, hstate, helig⟩ := hdone current hcurrent host hhost
    exact readyAtTick_of_record hm ((buildFleetState_hostState hfs hk).mp hstate).2 helig

end Tick

/-! ## Runs -/

section Runs

variable {cfg : FleetConfig} {m : SignedManifestSet}

theorem run_manifests {is : List CpInput} (his : ∀ i ∈ is, KeepsManifests m i) :
    ∀ m' ∈ (cpMachine.run .initial is).rs.manifests, m' = m := by
  refine cpMachine.run_invariant (P := fun cp => ∀ m' ∈ cp.rs.manifests, m' = m) ?_
    (fun _ h => by cases h) (cpMachine.meets_of_forall his _)
  intro cp i h hi m' hm'
  cases hev : i.event with
  | manifestSetUpdated set =>
      simp only [cpMachine, cpStep, hev, Option.mem_some_iff] at hm'
      rw [← hm', hi.set set hev]
  | restart =>
      simp only [cpMachine, cpStep, hev] at hm'
      cases hm'
  | hostEvent | heartbeatReceived | planTick | pruneSweep | takeDispatch =>
      simp only [cpMachine, cpStep, hev] at hm'
      exact h m' hm'

theorem run_planSet {is : List CpInput} (his : ∀ i ∈ is, KeepsManifests m i) {i : CpInput}
    (hi : KeepsManifests m i) {m' : SignedManifestSet}
    (h : (cpMachine.run .initial is).planSet i = some m') : m' = m := by
  unfold Cp.planSet at h
  split at h
  · rename_i set hev
    cases h
    exact hi.set _ hev
  · exact run_manifests his m' h
  · cases h

/-- **Every wave below a cursor was done at some plan tick.** -/
theorem run_covered (hrel : ReleasedFrom cfg m) (is : List CpInput)
    (his : ∀ i ∈ is, KeepsManifests m i) :
    (cpMachine.run .initial is).db.CursorsAll (Covered m (ReadyAtTick is)) := by
  -- the last input may bump a cursor, and its tick is then the one that covers the wave
  induction is using List.reverseRecOn with
  | nil =>
      intro rid row hrow
      cases hrow
  | append_singleton is i ih =>
      have hprefix : ∀ j ∈ is, KeepsManifests m j := fun j hj =>
        his j (List.mem_append_left _ hj)
      have hi : KeepsManifests m i := his i (by simp)
      have hrows : (cpMachine.run .initial is).db.CursorsAll
          (Covered m (ReadyAtTick (is ++ [i]))) := fun rid row hrow =>
        (ih hprefix rid row hrow).mono fun _ _ hready => hready.append [i]
      rw [cpMachine.run_append]
      refine cpStep_rule (P := Db.CursorsAll (Covered m (ReadyAtTick (is ++ [i])))) hrows
        (fun _ _ host rid event _ hdb => hdb.hostEvent host rid event) ?_
        (fun hsweep => absurd hsweep hi.noSweep)
        fun host => hrows.of_rollouts (takeForHost_rollouts _ _ _)
      intro rs m' hset hrs
      have hsame := run_planSet hprefix hi hset
      subst hsame
      refine runPlan_rule hrows ?_ fun _ _ _ _ _ hdb a _ =>
        hdb.action (covered_zero m' _) a
      intro m'' plan hm'' hplan
      obtain ⟨m₁, fs, hm₁, hfs, hdb, -, -⟩ := planOf_eq_some hplan
      rw [hrs] at hm₁
      cases hm₁
      rw [hdb]
      exact hrows.advance fun rid summary wave hs hnext =>
        (covered_next hrel hset hfs (run_recordsKeyed is) hrows hs).2 wave hnext

/-- Every record is of a host of the manifest that its rollout is named after. -/
def Db.RecordsDeclared (m : SignedManifestSet) (db : Db) : Prop :=
  ∀ rid host r, db.loadRecord rid host = some r →
    ∃ manifest, m.rollouts.lookup r.channel = some manifest ∧
      rid = .new r.channel manifest.channelRef ∧ ∃ hw ∈ manifest.hostSet, hw.hostname = host

theorem cpStep_recordsDeclared {cp : Cp} {i : CpInput}
    (hk : cp.db.RecordsKeyed) (hset : ∀ m', cp.planSet i = some m' → m' = m)
    (h : cp.db.RecordsDeclared m) : (cpStep cp i).1.db.RecordsDeclared m := by
  refine (cpStep_rule (P := fun db => db.RecordsKeyed ∧ db.RecordsDeclared m) ⟨hk, h⟩
    ?_ ?_ ?_ ?_).2
  · rintro rs db host rid event - ⟨hk, hdb⟩
    refine ⟨handleHostEvent_recordsKeyed hk host rid event, ?_⟩
    intro rid' host' r hr
    rcases handleHostEvent_record hk hr with hold | ⟨-, -, m', prior, effects, hacc⟩
    · exact hdb rid' host' r hold
    · obtain ⟨policy, -, hstep⟩ := hacc.step
      rw [(hostStep_spec hstep).same.channel]
      exact hdb _ _ _ hacc.loaded
  · intro rs m' hm' hrs
    have hsame := hset m' hm'
    subst hsame
    refine ⟨(runPlan_recordsAll (fun _ _ _ _ => trivial) hk.all).keyed, ?_⟩
    intro rid host r hr
    rcases runPlan_record hr with hold | ⟨m₁, plan, targetRef, hm₁, hplan, ha, hfresh⟩
    · exact h rid host r hold
    · rw [hrs] at hm₁
      cases hm₁
      obtain ⟨m₂, fs, hm₂, -, -, -, hact⟩ := planOf_eq_some hplan
      rw [hrs] at hm₂
      cases hm₂
      rw [hact, openRollout_mem_planNext] at ha
      obtain ⟨manifest, hlook, hid, -, -⟩ := ha
      obtain ⟨channel, manifest', hlook', hw, hhw, hhost, rfl⟩ := hfresh
      rw [show (pendingRecord ⟨m', i.now, i.faults⟩ rid channel hw).channel = channel from rfl]
        at hlook hid ⊢
      rw [hlook] at hlook'
      cases hlook'
      exact ⟨manifest, hlook, hid, hw, hhw, hhost⟩
  · intro _
    exact ⟨fun rid host r hr => hk rid host r (loadRecord_of_prune hr),
      fun rid host r hr => h rid host r (loadRecord_of_prune hr)⟩
  · intro host
    refine ⟨fun rid host' r hr => hk rid host' r ?_, fun rid host' r hr => h rid host' r ?_⟩ <;>
    · rw [loadRecord_takeForHost] at hr
      exact hr

theorem run_recordsDeclared {is : List CpInput} (his : ∀ i ∈ is, KeepsManifests m i) :
    (cpMachine.run .initial is).db.RecordsDeclared m := by
  induction is using List.reverseRecOn with
  | nil =>
      intro rid host r hr
      cases hr
  | append_singleton is i ih =>
      have hprefix : ∀ j ∈ is, KeepsManifests m j := fun j hj =>
        his j (List.mem_append_left _ hj)
      rw [cpMachine.run_append]
      exact cpStep_recordsDeclared (run_recordsKeyed is)
        (fun _ hset => run_planSet hprefix (his i (by simp)) hset) (ih hprefix)

/-- No cursor moves back while no row is swept. -/
theorem run_rowsSince {is js : List CpInput} (hjs : ∀ j ∈ js, KeepsManifests m j) :
    RowsSince (cpMachine.run .initial is).db (cpMachine.run .initial (is ++ js)).db := by
  rw [cpMachine.run_append]
  refine cpMachine.run_invariant (P := fun cp => RowsSince (cpMachine.run .initial is).db cp.db)
    ?_ ⟨run_rowsOk is, .refl _⟩ (cpMachine.meets_of_forall hjs _)
  intro cp j h hj
  refine cpStep_rule (P := RowsSince (cpMachine.run .initial is).db) h
    (fun _ _ host rid event _ hdb => handleHostEvent_rows hdb host rid event)
    (fun _ _ _ _ => runPlan_rows h) (fun hsweep => absurd hsweep hj.noSweep) ?_
  exact fun host => h.of_log (takeForHost_rollouts _ _ _)
    ⟨[], by rw [takeForHost_proj _ (f := Db.eventLog) (fun _ _ => rfl), List.append_nil]⟩

/-- A dispatched host's first wave is at most the cursor that the planner saw. -/
theorem dispatched_wave {fs : FleetState} {q : QuarantineSet} {c : Candidate}
    {order : MapOrders} (hc : c ∈ candidates order fs)
    (heval : c.evaluate m fs q (fun _ => 0) = none) {h : Host}
    (hh : m.fleet.hosts.lookup c.host = some h) {k : Nat}
    (hk : waveOf (m.fleet.channelWaves h.channel) c.host = some k) :
    k ≤ c.summary.currentWave := by
  obtain ⟨-, -, hwave, -, -, -⟩ := evaluateForDispatch_eq_none.mp heval
  have hlook := (mem_candidates.mp hc).1
  rcases (wavePromotionCheck_eq_none hh hlook).mp hwave with hnil | ⟨k', hk', hle⟩
  · -- a channel without waves lists no host
    have hlt := waveOf_lt_length hk
    unfold FleetResolved.channelWaves at hlt
    rw [hnil] at hlt
    exact absurd hlt (Nat.not_lt_zero k)
  · have hsame : some k' = some k := hk'.symm.trans hk
    cases hsame
    exact hle

/-- **Waves in order.** With one manifest set no wave cursor moves back, and a host is dispatched
only when all hosts of the waves before its first one were done at a plan tick. -/
theorem waves_in_order (hrel : ReleasedFrom cfg m) {is : List CpInput}
    (his : ∀ i ∈ is, KeepsManifests m i) :
    (∀ before after, is = before ++ after → ∀ rid row,
      (cpMachine.run .initial before).db.rollouts.lookup rid = some row →
        ∃ row' ∈ (cpMachine.run .initial is).db.rollouts.lookup rid,
          row.currentWave ≤ row'.currentWave) ∧
    ∀ before i after, is = before ++ i :: after → ∀ fs host rid closure due,
      .planned fs (.queueDispatch host rid closure due) ∈
          (cpStep (cpMachine.run .initial before) i).2 →
        ∀ h ∈ m.fleet.hosts.lookup host,
          ∀ k ∈ waveOf (m.fleet.channelWaves h.channel) host, ∀ j < k,
            ∀ wave ∈ (m.fleet.channelWaves h.channel)[j]?, ∀ host' ∈ wave.hosts,
              ReadyAtTick (before ++ [i]) rid host' := by
  constructor
  · rintro before after rfl rid row hrow
    have hsince : RowsSince (cpMachine.run .initial before).db
        (cpMachine.run .initial (before ++ after)).db :=
      run_rowsSince fun j hj => his j (List.mem_append_right _ hj)
    obtain ⟨_, -, hrows⟩ := hsince.2
    obtain ⟨row', hrow', hle, -⟩ := hrows rid row hrow
    exact ⟨row', hrow', hle⟩
  · rintro before i after rfl fs host rid closure due hplanned h hh k hk j hj wave hwave host'
      hhost'
    have hbefore : ∀ j ∈ before, KeepsManifests m j := fun j hj =>
      his j (List.mem_append_left _ hj)
    have hi : KeepsManifests m i := his i (by simp)
    have hkeyed := run_recordsKeyed before
    have hdeclared := run_recordsDeclared hbefore
    have hcovered := run_covered hrel before hbefore
    obtain ⟨plan, m', hplan, rfl, hm', c, hc, rfl, rfl, -, -, heval⟩ :=
      exists_candidate_of_planned hplanned
    have hset : (cpMachine.run .initial before).planSet i = some m' :=
      (Cp.planSet_of_plan hplan).trans hm'
    have hsame := run_planSet hbefore hi hset
    subst hsame
    obtain ⟨rs, -, hrs, hplanOf⟩ := Cp.plan_eq_some hplan
    obtain ⟨m₁, fs, hm₁, hfs, -, hseen, -⟩ := planOf_eq_some hplanOf
    have hsame : m₁ = m' := Option.some.inj (hm₁.symm.trans (hrs.trans hm'))
    subst hsame
    -- the host is one of its rollout's channel
    obtain ⟨manifest, hlook, hid, hw, hhw, hhost⟩ :=
      hdeclared _ _ _ (loadRecord_of_candidate hplanOf hkeyed hc)
    rw [hrel.hostSet hlook, mem_hostSetOf] at hhw
    obtain ⟨h', hh', hch, -, -⟩ := hhw
    rw [hhost, Option.mem_def.mp hh] at hh'
    cases hh'
    -- its first wave is at most the cursor that the planner saw, and below that all is covered
    have hle := dispatched_wave hc heval hh hk
    have hlookup := (mem_candidates.mp hc).1
    rw [hseen] at hlookup
    obtain ⟨summary₀, hs₀, hcases⟩ := advanceCurrentWaves_summary_cases hlookup
    obtain ⟨hrow, hnext⟩ := covered_next hrel hset hfs hkeyed
      (fun rid row hrow => (hcovered rid row hrow).mono fun _ _ hready => hready.append [i]) hs₀
    have hcursor :
        Covered m₁ (ReadyAtTick (before ++ [i])) c.rolloutId c.summary.currentWave := by
      rcases hcases with heq | ⟨wave, hwave, heq⟩
      · rw [heq]
        exact hrow
      · rw [heq]
        exact hnext wave hwave
    rw [hch] at hwave
    exact hcursor _ manifest hlook hid j (by omega) wave hwave host' hhost'

end Runs

/-! ## Two runs -/

/-- A host is dispatched, its switch waits for a reboot, and the next tick dispatches the host of
the second wave. -/
def promotedRun : List CpInput :=
  stagedRun [["a"], ["b"]] ++ [.plain .planTick 1,
    .plain (.hostEvent "a" (.new "stable" "r1") (.remoteDispatchAck "old" 2 1)) 2,
    .plain (.hostEvent "a" (.new "stable" "r1") (.remoteActivationDeferred "dbus" 3 2)) 3,
    .plain .planTick 4]

set_option maxRecDepth 4000 in
/-- The cursor has moved to the second wave. -/
theorem promotedRun_in_order :
    (∀ before after, promotedRun = before ++ after → ∀ rid row,
      (cpMachine.run .initial before).db.rollouts.lookup rid = some row →
        ∃ row' ∈ (cpMachine.run .initial promotedRun).db.rollouts.lookup rid,
          row.currentWave ≤ row'.currentWave) ∧
    ∀ before i after, promotedRun = before ++ i :: after → ∀ fs host rid closure due,
      .planned fs (.queueDispatch host rid closure due) ∈
          (cpStep (cpMachine.run .initial before) i).2 →
        ∀ h ∈ (stagedSet [["a"], ["b"]]).fleet.hosts.lookup host,
          ∀ k ∈ waveOf ((stagedSet [["a"], ["b"]]).fleet.channelWaves h.channel) host, ∀ j < k,
            ∀ wave ∈ ((stagedSet [["a"], ["b"]]).fleet.channelWaves h.channel)[j]?,
              ∀ host' ∈ wave.hosts, ReadyAtTick (before ++ [i]) rid host' := by
  refine waves_in_order (stagedSet_released (by decide)) fun i hi => ?_
  simp only [promotedRun, stagedRun, CpInput.plain, List.cons_append, List.nil_append,
    List.mem_cons, List.not_mem_nil, or_false] at hi
  rcases hi with rfl | rfl | rfl | rfl | rfl <;>
  · constructor <;> simp

set_option maxRecDepth 4000 in
/-- A host that a later wave lists again goes out with its first wave, before the other hosts of
that wave are done. -/
theorem overlappingWaves_dispatched :
    ReleasedFrom (stagedConfig [["a", "b"], ["a"]]) (stagedSet [["a", "b"], ["a"]]) ∧
    (∃ fs summary, .planned fs (.queueDispatch "a" (.new "stable" "r1") "new" (minutes 60)) ∈
        (cpStep (cpMachine.run .initial (stagedRun [["a", "b"], ["a"]]))
          (.plain .planTick 1)).2 ∧ fs.rollouts.lookup (.new "stable" "r1") = some summary ∧
      summary.channel = "stable") ∧
    (∃ wave ∈ ((stagedSet [["a", "b"], ["a"]]).fleet.channelWaves "stable")[1]?,
      "a" ∈ wave.hosts) ∧
    (∃ wave ∈ ((stagedSet [["a", "b"], ["a"]]).fleet.channelWaves "stable")[0]?,
      "b" ∈ wave.hosts) ∧
    ¬ ReadyAtTick (stagedRun [["a", "b"], ["a"]] ++ [.plain .planTick 1]) (.new "stable" "r1")
      "b" := by
  refine ⟨stagedSet_released (by decide), exists_planned_of_check ?_, ?_, ?_, by decide⟩
  · decide
  · exact ⟨_, rfl, by decide⟩
  · exact ⟨_, rfl, by decide⟩

end Nixfleet
