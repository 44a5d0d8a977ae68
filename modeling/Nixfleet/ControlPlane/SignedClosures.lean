import Nixfleet.Reconciler.Manifest
import Nixfleet.ControlPlane.Projection
import Nixfleet.ControlPlane.Quarantine

set_option autoImplicit false

/-!
# Dispatched and signed closures

A rollout id is the channel and its ref. The closure of a host is copied into its record when the
rollout is opened, and is dispatched from there. Signing the same ref again with other closures
gives no new rollout, so the hosts that still wait are dispatched with the closure of the earlier
manifest, unless a gate holds them (`dispatchesSigned_of_held`).
-/

namespace Nixfleet

/-- The closure that the manifest of the channel declares for the host. -/
def SignedManifestSet.targetOf (m : SignedManifestSet) (channel : ChannelId) (host : HostId) :
    Option ClosureHash :=
  (m.rollouts.lookup channel).bind fun manifest =>
    (manifest.hostSet.find? (·.hostname = host)).map (·.targetClosure)

/-- Every dispatch that the step plans is of the closure that the current manifest of the rollout's
channel declares for the host. -/
def DispatchesSigned (cp : Cp) (i : CpInput) : Prop :=
  ∀ m, cp.manifestsAt i = some m → ∀ fs host rid closure due summary,
    .planned fs (.queueDispatch host rid closure due) ∈ (cpStep cp i).2 →
      fs.rollouts.lookup rid = some summary → m.targetOf summary.channel host = some closure

/-- The manifest sets that a run is handed. -/
def manifestSets (is : List CpInput) : List SignedManifestSet :=
  is.filterMap fun i =>
    match i.event with
    | .manifestSetUpdated set => some set
    | _ => none

/-- One of the sets declares the closure for the host under the rollout's id. -/
def DeclaredIn (sets : List SignedManifestSet) (rid : RolloutId) (host : HostId)
    (closure : ClosureHash) : Prop :=
  ∃ set ∈ sets, ∃ e ∈ set.rollouts.rows, rid = .new e.1 e.2.channelRef ∧
    ∃ hw ∈ e.2.hostSet, hw.hostname = host ∧ hw.targetClosure = closure

instance (sets : List SignedManifestSet) (rid : RolloutId) (host : HostId)
    (closure : ClosureHash) : Decidable (DeclaredIn sets rid host closure) :=
  inferInstanceAs (Decidable (∃ set ∈ sets, ∃ e ∈ set.rollouts.rows, _))

/-- If the step runs a plan tick, every candidate whose closure was declared under the rollout's id
and is not what the current manifest declares is blocked by a gate. -/
def RedeclaredHeld (sets : List SignedManifestSet) (cp : Cp) (i : CpInput) : Prop :=
  ∀ plan m, cp.plan i = some plan → cp.manifestsAt i = some m →
    ∀ c ∈ candidates i.order plan.fleetState,
      DeclaredIn sets c.rolloutId c.host c.record.targetClosure →
        m.targetOf c.summary.channel c.host ≠ some c.record.targetClosure →
          c.evaluate m plan.fleetState cp.rs.quarantines (fun _ => 0) ≠ none

instance (sets : List SignedManifestSet) (cp : Cp) (i : CpInput) :
    Decidable (RedeclaredHeld sets cp i) :=
  match hp : cp.plan i, hm : cp.manifestsAt i with
  | some plan, some m =>
      decidable_of_iff
        (∀ c ∈ candidates i.order plan.fleetState,
          DeclaredIn sets c.rolloutId c.host c.record.targetClosure →
            m.targetOf c.summary.channel c.host ≠ some c.record.targetClosure →
              (c.evaluate m plan.fleetState cp.rs.quarantines (fun _ => 0)).isSome)
        (by simp [RedeclaredHeld, hp, hm, Option.isSome_iff_ne_none])
  | none, _ => isTrue (by simp [RedeclaredHeld, hp])
  | some _, none => isTrue (by simp [RedeclaredHeld, hm])

/-! ## Where the closures come from -/

section Declared

variable {sets : List SignedManifestSet}

/-- The manifests in memory are of the sets, and so is the target of every record. -/
structure Cp.DeclaredBy (sets : List SignedManifestSet) (cp : Cp) : Prop where
  keyed : cp.db.RecordsKeyed
  cached : ∀ m, cp.rs.manifests = some m → m ∈ sets
  targets : ∀ rid host r, cp.db.loadRecord rid host = some r →
    DeclaredIn sets rid host r.targetClosure

theorem mem_manifestSets {is : List CpInput} {i : CpInput} {set : SignedManifestSet} (hi : i ∈ is)
    (hev : i.event = .manifestSetUpdated set) : set ∈ manifestSets is :=
  List.mem_filterMap.mpr ⟨i, hi, by rw [hev]⟩

/-- A plan tick copies the targets of its manifests. -/
theorem runPlan_targets {rs : ReducerState} {order : MapOrders} {now : Time} {faults : Faults}
    {db : Db} {m : SignedManifestSet} (hm : rs.manifests = some m) (hmem : m ∈ sets)
    (h : ∀ rid host r, db.loadRecord rid host = some r → DeclaredIn sets rid host r.targetClosure) :
    ∀ rid host r, (runPlan rs order now faults db).loadRecord rid host = some r →
      DeclaredIn sets rid host r.targetClosure := by
  intro rid host r hr
  rcases runPlan_record hr with hold | ⟨m', plan, ref, hm', hplan, hopen, hfresh⟩
  · exact h rid host r hold
  · obtain ⟨m'', fs, hm'', -, -, -, hact⟩ := planOf_eq_some hplan
    rw [hm, Option.some.injEq] at hm' hm''
    subst hm'
    subst hm''
    rw [hact, openRollout_mem_planNext] at hopen
    obtain ⟨manifest, hlook, hid, -, -⟩ := hopen
    obtain ⟨channel, manifest', hlook', hw, hhw, hhost, rfl⟩ := hfresh
    -- the rollout is opened with the manifest of the record's channel
    have hsame : manifest' = manifest := by
      have hchannel : m.rollouts.lookup channel = some manifest := hlook
      rw [hlook', Option.some.injEq] at hchannel
      exact hchannel
    subst hsame
    exact ⟨m, hmem, (channel, manifest'), Table.mem_rows.mpr hlook', hid, hw, hhw, hhost, rfl⟩

/-- A host event does not change the target. -/
theorem handleHostEvent_targets {rs : ReducerState} {now : Time} {faults : Faults} {db : Db}
    (hk : db.RecordsKeyed) (host : HostId) (rid : RolloutId) (event : Event)
    (h : ∀ rid host r, db.loadRecord rid host = some r → DeclaredIn sets rid host r.targetClosure) :
    ∀ rid' host' r, (handleHostEvent rs now faults db host rid event).loadRecord rid' host' =
      some r → DeclaredIn sets rid' host' r.targetClosure := by
  intro rid' host' r hr
  rcases handleHostEvent_record hk hr with hold | ⟨-, -, m, prior, effects, hacc⟩
  · exact h rid' host' r hold
  · obtain ⟨policy, -, hstep⟩ := hacc.step
    rw [(hostStep_spec hstep).same.targetClosure]
    exact h _ _ _ hacc.loaded

/-- **Every target was declared.** -/
theorem cpStep_declaredBy {cp : Cp} (h : cp.DeclaredBy sets) {i : CpInput}
    (hi : ∀ set, i.event = .manifestSetUpdated set → set ∈ sets) :
    (cpStep cp i).1.DeclaredBy sets := by
  have hset : ∀ m, cp.planSet i = some m → m ∈ sets := by
    intro m hm
    unfold Cp.planSet at hm
    split at hm
    · rename_i set hev
      cases hm
      exact hi _ hev
    · exact h.cached m hm
    · cases hm
  have hdb : (cpStep cp i).1.db.RecordsKeyed ∧ ∀ rid host r,
      (cpStep cp i).1.db.loadRecord rid host = some r →
        DeclaredIn sets rid host r.targetClosure := by
    refine cpStep_rule (P := fun db => db.RecordsKeyed ∧ ∀ rid host r,
      db.loadRecord rid host = some r → DeclaredIn sets rid host r.targetClosure)
      ⟨h.keyed, h.targets⟩ ?_ ?_ ?_ ?_
    · rintro rs db host rid event - ⟨hk, ht⟩
      exact ⟨handleHostEvent_recordsKeyed hk host rid event, handleHostEvent_targets hk _ _ _ ht⟩
    · intro rs m hm hrs
      exact ⟨runPlan_recordsKeyed h.keyed, runPlan_targets hrs (hset m hm) h.targets⟩
    · intro _
      exact ⟨fun rid host r hr => h.keyed rid host r (loadRecord_of_prune hr),
        fun rid host r hr => h.targets rid host r (loadRecord_of_prune hr)⟩
    · intro host'
      refine ⟨fun rid host r hr => ?_, fun rid host r hr => ?_⟩
      · rw [loadRecord_takeForHost] at hr
        exact h.keyed rid host r hr
      · rw [loadRecord_takeForHost] at hr
        exact h.targets rid host r hr
  refine ⟨hdb.1, ?_, hdb.2⟩
  intro m hm
  cases hev : i.event with
  | manifestSetUpdated set =>
      simp only [cpStep, hev, Option.some.injEq] at hm
      exact hm ▸ hi set hev
  | restart =>
      simp only [cpStep, hev] at hm
      cases hm
  | hostEvent | heartbeatReceived | planTick | pruneSweep | takeDispatch =>
      simp only [cpStep, hev] at hm
      exact h.cached m hm

theorem initial_declaredBy (sets : List SignedManifestSet) : Cp.initial.DeclaredBy sets where
  keyed := fun _ _ _ h => by cases h
  cached := fun _ h => by cases h
  targets := fun _ _ _ h => by cases h

/-- A dispatch is of the target of a record, which was declared; if no longer, a gate would have to
block it. -/
theorem dispatchesSigned_step {cp : Cp} (h : cp.DeclaredBy sets) {i : CpInput}
    (hheld : RedeclaredHeld sets cp i) : DispatchesSigned cp i := by
  intro m hm fs host rid closure due summary hout hlook
  obtain ⟨plan, m', hplan, rfl, hm', c, hc, rfl, rfl, rfl, -, heval⟩ :=
    exists_candidate_of_planned hout
  rw [hm, Option.some.injEq] at hm'
  subst hm'
  have hsummary : c.summary = summary := by
    rw [(mem_candidates.mp hc).1] at hlook
    exact Option.some.inj hlook
  obtain ⟨rs, -, -, hpl⟩ := Cp.plan_eq_some hplan
  have hload := loadRecord_of_candidate hpl h.keyed hc
  have hdeclared := h.targets _ _ _ hload
  by_contra hother
  rw [← hsummary] at hother
  exact hheld plan m hplan hm c hc hdeclared hother heval

end Declared

/-- **Dispatched closures are the signed ones where no waiting host is declared anew.** In every
run whose plan ticks hold the hosts back that wait with a closure of an earlier manifest, every
dispatch is of the closure that the current manifest declares. -/
theorem dispatchesSigned_of_held (is : List CpInput)
    (hheld : cpMachine.Meets (RedeclaredHeld (manifestSets is)) Cp.initial is) :
    cpMachine.Meets DispatchesSigned Cp.initial is := by
  have hsets : cpMachine.Meets (fun _ i => ∀ set, i.event = .manifestSetUpdated set →
      set ∈ manifestSets is) Cp.initial is :=
    cpMachine.meets_of_forall (fun _ hi _ hev => mem_manifestSets hi hev) _
  exact cpMachine.meets_of_invariant (P := Cp.DeclaredBy (manifestSets is))
    (fun _ _ h hok => cpStep_declaredBy h hok.1) (fun _ _ h hok => dispatchesSigned_step h hok.2)
    (initial_declaredBy _) (Machine.Meets.and cpMachine hsets hheld)

/-- The ref `r1` is signed with one closure for the host, and then again with another one. -/
def resignedRun (first second : ClosureHash) : List CpInput :=
  let manifests (closure : ClosureHash) := stableManifests
    (stableFleet "r1" [("a", closure)] ⟨"all-at-once", [], .halt⟩ [] [] [])
  [.plain (.manifestSetUpdated (manifests first)) 0,
   .plain (.manifestSetUpdated (manifests second)) 1]

set_option maxRecDepth 4000 in
/-- Signed again with the same closure. -/
theorem resignedRun_signed :
    cpMachine.Meets DispatchesSigned Cp.initial (resignedRun "new" "new") :=
  dispatchesSigned_of_held _ (by decide)

set_option maxRecDepth 4000 in
/-- Signed again with another closure, the host is dispatched with the first one. -/
theorem resignedRun_not_signed :
    ¬ cpMachine.Meets DispatchesSigned Cp.initial (resignedRun "bad" "fixed") := by
  intro h
  have hsplit : cpMachine.Meets DispatchesSigned Cp.initial
      ((resignedRun "bad" "fixed").take 1 ++ (resignedRun "bad" "fixed").drop 1) := h
  obtain ⟨hlast, -⟩ := ((cpMachine.meets_append _ _ _ _).mp hsplit).2
  have hplan : ((cpMachine.run Cp.initial ((resignedRun "bad" "fixed").take 1)).plan
      ((resignedRun "bad" "fixed").getLast (by decide))).any (fun plan =>
        .queueDispatch "a" (.new "stable" "r1") "bad" (minutes 60) ∈ plan.actions &&
        (plan.fleetState.rollouts.lookup (.new "stable" "r1")).any (·.channel = "stable")) =
      true := by decide
  obtain ⟨fs, summary, hout, hlook, hchannel⟩ := exists_planned_of_check hplan
  have htarget := hlast _ rfl fs "a" _ _ _ summary hout hlook
  rw [hchannel] at htarget
  exact absurd htarget (by decide)

end Nixfleet
