import Nixfleet.ControlPlane.Projection
import Nixfleet.ControlPlane.Rows

set_option autoImplicit false

/-!
# The control plane with its agents

The control plane does not know when a dispatch was taken from its queue: the row is deleted,
and the agent's acknowledgement arrives later. A `Deployment` adds the dispatches that agents
have taken, and an agent reports on a rollout only after it took its dispatch. Between a plan
tick and the acknowledgement a dispatch is in the queue, then with the agent; `Outstanding`
covers both.
-/

namespace Nixfleet

/-- The control plane, and the dispatches its agents have taken. -/
structure Deployment where
  cp : Cp
  taken : List (HostId × RolloutId)

inductive DeploymentEvent where
  | planTick
  | takeDispatch (host : HostId)
  | hostEvent (host : HostId) (rolloutId : RolloutId) (event : Event)

/-- An event, with what its step reads from the outside. No statement fails. -/
structure DeploymentInput where
  event : DeploymentEvent
  now : Time
  order : MapOrders
  rank : RolloutId → Nat

def DeploymentEvent.toCp : DeploymentEvent → CpEvent
  | .planTick => .planTick
  | .takeDispatch host => .takeDispatch host
  | .hostEvent host rid event => .hostEvent host rid event

def DeploymentInput.toCp (i : DeploymentInput) : CpInput :=
  ⟨i.event.toCp, i.now, i.order, i.rank, noFaults⟩

/-- An input with stored orders. -/
def DeploymentInput.plain (event : DeploymentEvent) (now : Time) : DeploymentInput :=
  ⟨event, now, .stored, fun _ => 0⟩

/-- One step. An event of an agent that has not taken the dispatch does not occur. -/
def deploymentStep (s : Deployment) (i : DeploymentInput) : Deployment × List CpOutput :=
  match i.event with
  | .planTick => ({ s with cp := (cpStep s.cp i.toCp).1 }, (cpStep s.cp i.toCp).2)
  | .takeDispatch host =>
      let dispatch := (s.cp.db.takeForHost i.rank host).1
      (⟨(cpStep s.cp i.toCp).1,
        s.taken ++ (dispatch.map fun q => (q.hostname, q.rolloutId)).toList⟩,
        (cpStep s.cp i.toCp).2)
  | .hostEvent host rid _ =>
      if (host, rid) ∈ s.taken then ({ s with cp := (cpStep s.cp i.toCp).1 }, [])
      else (s, [])

/-- The deployment as a machine. -/
def deploymentMachine : Machine Deployment DeploymentInput CpOutput := ⟨deploymentStep⟩

/-- A dispatch of the rollout is in the queue or with the agent. -/
def Deployment.Outstanding (s : Deployment) (host : HostId) (rid : RolloutId) : Prop :=
  (s.cp.db.dispatchQueue.lookup (host, rid)).isSome = true ∨ (host, rid) ∈ s.taken

instance (s : Deployment) (host : HostId) (rid : RolloutId) :
    Decidable (s.Outstanding host rid) :=
  inferInstanceAs (Decidable (_ ∨ _))

/-- What every state of a deployment with the manifests `m` satisfies. -/
structure Deployment.Ok (m : SignedManifestSet) (s : Deployment) : Prop where
  manifests : s.cp.rs.manifests = some m
  records : s.cp.db.RecordsKeyed
  rows : s.cp.db.RowsOk
  queue : ∀ host rid q, s.cp.db.dispatchQueue.lookup (host, rid) = some q →
    q.hostname = host ∧ q.rolloutId = rid
  opened : ∀ host rid, s.Outstanding host rid → (s.cp.db.rollouts.lookup rid).isSome = true

/-! ## The queue -/

theorem lookup_of_nextDispatch {db : Db} {rank : RolloutId → Nat} {host : HostId}
    {q : QueuedDispatch} (h : db.nextDispatch rank host = some q) :
    ∃ rid, db.dispatchQueue.lookup (host, rid) = some q := by
  have hmem := List.mem_of_mem_head? (Option.mem_def.mpr h)
  simp only [List.mem_insertionSort, List.mem_map, List.mem_filter, decide_eq_true_eq,
    Prod.exists, Table.mem_rows] at hmem
  obtain ⟨host', rid, q', ⟨hlook, rfl⟩, rfl⟩ := hmem
  exact ⟨rid, hlook⟩

theorem handleHostEvent_dispatchQueue (rs : ReducerState) (now : Time) (faults : Faults)
    (db : Db) (host : HostId) (rid : RolloutId) (event : Event) :
    (handleHostEvent rs now faults db host rid event).dispatchQueue = db.dispatchQueue := by
  refine handleHostEvent_rule (P := fun db' => db'.dispatchQueue = db.dispatchQueue) rfl ?_
  intro m prior next effects _
  refine hostStateChanged_rule (P := fun db' => db'.dispatchQueue = db.dispatchQueue) ?_ ?_
  · intro db' e _ _ hdb'
    rw [processRolloutEvent_dispatchQueue, hdb']
  · exact foldl_proj_eq (f := Db.dispatchQueue) (applyEffect_dispatchQueue _) _ _

/-- After a plan tick a row of the queue is as before, or queued by the tick. -/
theorem runPlan_queued {rs : ReducerState} {order : MapOrders} {now : Time} {faults : Faults}
    {db : Db} {host : HostId} {rid : RolloutId} {q : QueuedDispatch}
    (h : (runPlan rs order now faults db).dispatchQueue.lookup (host, rid) = some q) :
    db.dispatchQueue.lookup (host, rid) = some q ∨
      (q.hostname = host ∧ q.rolloutId = rid) ∧ ∃ plan due,
        planOf rs order now faults db = some plan ∧
        .queueDispatch host rid q.targetClosure due ∈ plan.actions := by
  revert h
  refine runPlan_rule (P := fun db' => db'.dispatchQueue.lookup (host, rid) = some q → _)
    .inl ?_ ?_
  · intro m plan _ hplan h
    obtain ⟨_, _, _, _, hdb, _, _⟩ := planOf_eq_some hplan
    rw [hdb, advanceCurrentWaves_dispatchQueue] at h
    exact .inl h
  · intro m plan _ hplan db' ih a ha h
    cases a with
    | openRollout rid' channel targetRef =>
        rw [applyPlanAction, openRollout_dispatchQueue] at h
        exact ih h
    | queueDispatch host' rid' closure due =>
        simp only [applyPlanAction, queueDispatch] at h
        split at h
        · exact ih h
        · rw [appendEventLog_dispatchQueue, Db.upsertDispatch, Table.lookup_insert_eq] at h
          -- the row is the one this action writes, or another
          split at h
          · rename_i hkey
            simp only [Prod.mk.injEq] at hkey
            obtain ⟨rfl, rfl⟩ := hkey
            cases h
            exact .inr ⟨⟨rfl, rfl⟩, plan, due, hplan, ha⟩
          · exact ih h
    | deferDispatch host' rid' gate reason => exact ih h

theorem runPlan_queue {rs : ReducerState} {order : MapOrders} {now : Time} {faults : Faults}
    {db : Db} {host : HostId} {rid : RolloutId} {q : QueuedDispatch}
    (h : (runPlan rs order now faults db).dispatchQueue.lookup (host, rid) = some q) :
    db.dispatchQueue.lookup (host, rid) = some q ∨
      (q.hostname = host ∧ q.rolloutId = rid) ∧ ∃ plan closure due,
        planOf rs order now faults db = some plan ∧
        .queueDispatch host rid closure due ∈ plan.actions :=
  (runPlan_queued h).imp_right fun ⟨hkey, plan, due, hplan, ha⟩ =>
    ⟨hkey, plan, q.targetClosure, due, hplan, ha⟩

/-! ## The invariant -/

section Invariant

variable {m : SignedManifestSet} {s : Deployment}

/-- Rows of the rollout table stay, since nothing here prunes. -/
theorem isSome_row_of_evolve {db db' : Db} (h : RowsEvolve db db') {rid : RolloutId}
    (hrow : (db.rollouts.lookup rid).isSome = true) : (db'.rollouts.lookup rid).isSome = true := by
  obtain ⟨new, -, hrows⟩ := h
  obtain ⟨row, hrow⟩ := Option.isSome_iff_exists.mp hrow
  obtain ⟨row', hrow', -⟩ := hrows rid row hrow
  exact Option.isSome_iff_exists.mpr ⟨row', hrow'⟩

/-- The dispatches that are outstanding after a step were so before, or the step planned
them. -/
theorem deploymentStep_outstanding (h : s.Ok m) {i : DeploymentInput} {host : HostId}
    {rid : RolloutId} (hout : (deploymentStep s i).1.Outstanding host rid) :
    s.Outstanding host rid ∨ i.event = .planTick ∧ ∃ plan closure due,
      s.cp.plan i.toCp = some plan ∧ .queueDispatch host rid closure due ∈ plan.actions := by
  cases hev : i.event with
  | planTick =>
      simp only [deploymentStep, hev] at hout
      rcases hout with hq | htaken
      · simp only [cpStep, DeploymentInput.toCp, hev, DeploymentEvent.toCp] at hq
        obtain ⟨q, hq⟩ := Option.isSome_iff_exists.mp hq
        rcases runPlan_queue hq with hold | ⟨-, plan, closure, due, hplan, ha⟩
        · exact .inl (.inl (Option.isSome_iff_exists.mpr ⟨q, hold⟩))
        · refine .inr ⟨rfl, plan, closure, due, ?_, ha⟩
          simpa only [Cp.plan, DeploymentInput.toCp, hev, DeploymentEvent.toCp] using hplan
      · exact .inl (.inr htaken)
  | takeDispatch host' =>
      left
      simp only [deploymentStep, hev] at hout
      simp only [Deployment.Outstanding, cpStep, DeploymentInput.toCp, hev,
        DeploymentEvent.toCp, Db.takeForHost] at hout
      cases hnext : s.cp.db.nextDispatch i.rank host' with
      | none =>
          simp only [hnext, Option.map_none, Option.toList_none, List.append_nil] at hout
          exact hout
      | some q =>
          simp only [hnext, Option.map_some, Option.toList_some, List.mem_append,
            List.mem_singleton, Prod.mk.injEq] at hout
          obtain ⟨rid', hlook⟩ := lookup_of_nextDispatch hnext
          -- still queued, taken before, or taken now
          rcases hout with hq | htaken | ⟨rfl, rfl⟩
          · by_cases hkey : (host, rid) = (q.hostname, q.rolloutId)
            · rw [hkey] at hq
              simp at hq
            · rw [AList.lookup_erase_ne hkey] at hq
              exact .inl hq
          · exact .inr htaken
          · -- the row that was taken
            obtain ⟨hhost, hrid⟩ := h.queue _ _ _ hlook
            rw [← hhost, ← hrid] at hlook
            exact .inl (Option.isSome_iff_exists.mpr ⟨q, hlook⟩)
  | hostEvent host' rid' event =>
      left
      simp only [deploymentStep, hev] at hout
      split at hout
      · rcases hout with hq | htaken
        · simp only [cpStep, DeploymentInput.toCp, hev, DeploymentEvent.toCp,
            handleHostEvent_dispatchQueue] at hq
          exact .inl hq
        · exact .inr htaken
      · exact hout

/-- Every step keeps the rollout rows. -/
theorem deploymentStep_evolve (h : s.Ok m) (i : DeploymentInput) :
    RowsEvolve s.cp.db (deploymentStep s i).1.cp.db := by
  have hsince : RowsSince s.cp.db s.cp.db := ⟨h.rows, .refl _⟩
  cases hev : i.event with
  | planTick =>
      simp only [deploymentStep, hev, cpStep, DeploymentInput.toCp, DeploymentEvent.toCp]
      exact (runPlan_rows hsince).2
  | takeDispatch host =>
      simp only [deploymentStep, hev, cpStep, DeploymentInput.toCp, DeploymentEvent.toCp]
      -- a poll touches the queue only
      have hlog : (s.cp.db.takeForHost i.rank host).2.eventLog =
          s.cp.db.eventLog ++ [] := by
        rw [List.append_nil]
        exact takeForHost_proj _ (f := Db.eventLog) (fun _ _ => rfl) _ _
      exact .of_log (takeForHost_rollouts _ _ _) hlog
  | hostEvent host rid event =>
      simp only [deploymentStep, hev]
      split
      · simp only [cpStep, DeploymentInput.toCp, hev, DeploymentEvent.toCp]
        exact (handleHostEvent_rows hsince _ _ _).2
      · exact .refl _

/-- The control-plane half of a step is a step of the control plane, or nothing. -/
theorem deploymentStep_cp (s : Deployment) (i : DeploymentInput) :
    (deploymentStep s i).1.cp = (cpStep s.cp i.toCp).1 ∨ (deploymentStep s i).1.cp = s.cp := by
  unfold deploymentStep
  split
  · exact .inl rfl
  · exact .inl rfl
  · split
    · exact .inl rfl
    · exact .inr rfl

theorem deploymentStep_manifests (h : s.Ok m) (i : DeploymentInput) :
    (deploymentStep s i).1.cp.rs.manifests = some m := by
  rcases deploymentStep_cp s i with heq | heq
  · rw [heq, ← h.manifests]
    cases hev : i.event <;> simp [cpStep, DeploymentInput.toCp, hev, DeploymentEvent.toCp]
  · rw [heq]
    exact h.manifests

theorem deploymentStep_records (h : s.Ok m) (i : DeploymentInput) :
    (deploymentStep s i).1.cp.db.RecordsKeyed := by
  rcases deploymentStep_cp s i with heq | heq
  · rw [heq]
    exact cpStep_recordsKeyed h.records _
  · rw [heq]
    exact h.records

theorem deploymentStep_queue (h : s.Ok m) (i : DeploymentInput) {host : HostId}
    {rid : RolloutId} {q : QueuedDispatch}
    (hq : (deploymentStep s i).1.cp.db.dispatchQueue.lookup (host, rid) = some q) :
    q.hostname = host ∧ q.rolloutId = rid := by
  rcases deploymentStep_cp s i with heq | heq
  · rw [heq] at hq
    cases hev : i.event with
    | planTick =>
        simp only [cpStep, DeploymentInput.toCp, hev, DeploymentEvent.toCp] at hq
        rcases runPlan_queue hq with hold | ⟨hkey, -⟩
        · exact h.queue _ _ _ hold
        · exact hkey
    | takeDispatch host' =>
        simp only [cpStep, DeploymentInput.toCp, hev, DeploymentEvent.toCp, Db.takeForHost] at hq
        split at hq
        · exact h.queue _ _ _ hq
        · rename_i q' _
          by_cases hkey : (host, rid) = (q'.hostname, q'.rolloutId)
          · rw [hkey] at hq
            simp at hq
          · rw [AList.lookup_erase_ne hkey] at hq
            exact h.queue _ _ _ hq
    | hostEvent host' rid' event =>
        simp only [cpStep, DeploymentInput.toCp, hev, DeploymentEvent.toCp,
          handleHostEvent_dispatchQueue] at hq
        exact h.queue _ _ _ hq
  · rw [heq] at hq
    exact h.queue _ _ _ hq

/-- The plan of a tick is the one of the reducer's memory. -/
theorem planOf_of_plan {i : DeploymentInput} {plan : Plan} (h : s.cp.plan i.toCp = some plan) :
    planOf s.cp.rs i.order i.now noFaults s.cp.db = some plan := by
  cases hev : i.event <;>
    simp [Cp.plan, DeploymentInput.toCp, hev, DeploymentEvent.toCp] at h
  exact h

/-- **Every step keeps the deployment in order.** -/
theorem deploymentStep_ok (h : s.Ok m) (i : DeploymentInput) : (deploymentStep s i).1.Ok m := by
  refine ⟨deploymentStep_manifests h i, deploymentStep_records h i, ?_,
    fun _ _ _ hq => deploymentStep_queue h i hq, ?_⟩
  · rcases deploymentStep_cp s i with heq | heq
    · rw [heq]
      exact (cpStep_rows h.rows _).1
    · rw [heq]
      exact h.rows
  · intro host rid hout
    refine isSome_row_of_evolve (deploymentStep_evolve h i) ?_
    rcases deploymentStep_outstanding h hout with hold | ⟨-, plan, closure, due, hplan, ha⟩
    · exact h.opened host rid hold
    · obtain ⟨c, hc, rfl, -, -⟩ :=
        exists_candidate_of_mem_plan (planOf_of_plan hplan) h.manifests ha
      obtain ⟨row, hrow, -⟩ := row_of_candidate (planOf_of_plan hplan) hc
      exact Option.isSome_iff_exists.mpr ⟨row, hrow⟩

end Invariant

/-! ## The start -/

/-- A fresh control plane that has received its manifests. -/
def Deployment.start (m : SignedManifestSet) (now : Time) : Deployment :=
  ⟨cpMachine.run Cp.initial [.plain (.manifestSetUpdated m) now], []⟩

/-- Nothing is queued yet: the first tick finds no records. -/
theorem start_outstanding {m : SignedManifestSet} {now : Time} {host : HostId} {rid : RolloutId}
    {q : QueuedDispatch} :
    (Deployment.start m now).cp.db.dispatchQueue.lookup (host, rid) ≠ some q := by
  intro hq
  have hrun : (Deployment.start m now).cp.db =
      runPlan { ReducerState.initial with manifests := some m } .stored now noFaults Db.empty := rfl
  rw [hrun] at hq
  rcases runPlan_queue hq with hold | ⟨-, plan, closure, due, hplan, ha⟩
  · cases hold
  · obtain ⟨c, hc, -, -, -⟩ := exists_candidate_of_mem_plan hplan rfl ha
    obtain ⟨row, hrow, -⟩ := row_of_candidate hplan hc
    cases hrow

theorem start_ok (m : SignedManifestSet) (now : Time) : (Deployment.start m now).Ok m := by
  refine ⟨rfl, ?_, ?_, fun host rid q hq => absurd hq start_outstanding, ?_⟩
  · have hrecords : Cp.initial.db.RecordsKeyed := by
      intro rid host r hr
      cases hr
    exact cpStep_recordsKeyed hrecords _
  · have hrows : Cp.initial.db.RowsOk := by
      intro rid row hrow
      cases hrow
    exact (cpStep_rows hrows _).1
  · rintro host rid (hq | htaken)
    · obtain ⟨q, hq⟩ := Option.isSome_iff_exists.mp hq
      exact absurd hq start_outstanding
    · cases htaken

end Nixfleet
