import Nixfleet.Agent.Outcome

set_option autoImplicit false

/-!
# The advance tick and the state machine

A tick synthesizes verdicts from its own reading of the records, and every verdict then goes through
`step`, which checks again. Here the number of an event is one of `u64`, as in `run_host_event`
(`AgentReducer.verdict`): while no record has the last one, `step` accepts every verdict of a tick
at its turn (`runAdvanceTick_accepted`), and the tick is `runAdvanceTick`.
-/

namespace Nixfleet

/-- The number of the next event, in a build without overflow checks. -/
def HostRolloutState.nextSeq (s : HostRolloutState) : Nat := (s.lastEventSeq + 1) % 2 ^ 64

/-- What `step` says of an event that `run_host_event` takes to it. -/
def AgentReducer.verdict (r : AgentReducer) (now : Time) (rid : RolloutId) (event : Event) :
    Option StepResult :=
  (r.recordFor now rid event).bind fun s =>
    (r.resolvePolicy s.channel).map fun policy => hostStep s (withSeq event s.nextSeq) policy

/-- `run_host_event`, with its counter in `u64`. -/
def runHostEventWrapping (now : Time) (r : AgentReducer) (rid : RolloutId) (event : Event) :
    AgentReducer × List Effect :=
  match r.verdict now rid event with
  | some (.ok (next, effects)) =>
      ({ r with hostStates := r.hostStates.insert rid next }, effects)
  | _ => (r, [])

/-- Events that are run one after the other. -/
def runEvents (now : Time) (r : AgentReducer) (events : List (RolloutId × Event)) :
    AgentReducer × List Effect :=
  events.foldl
    (fun acc e =>
      let out := runHostEventWrapping now acc.1 e.1 e.2
      (out.1, acc.2 ++ out.2))
    (r, [])

/-- No record in `Soaking` has the last number. -/
def SeqBelowMax (r : AgentReducer) : Prop :=
  ∀ entry ∈ r.hostStates.rows, entry.2.state = .soaking → entry.2.lastEventSeq < 2 ^ 64 - 1

instance (r : AgentReducer) : Decidable (SeqBelowMax r) :=
  inferInstanceAs (Decidable (∀ _ ∈ _, _))

theorem nextSeq_of_lt {s : HostRolloutState} (h : s.lastEventSeq < 2 ^ 64 - 1) :
    s.nextSeq = s.lastEventSeq + 1 := Nat.mod_eq_of_lt (by omega)

/-! ## One verdict -/

section Record

variable {r : AgentReducer} {orders : AgentOrders} {now : Time} {s : HostRolloutState} {e : Event}

/-- The pass gate asks for what the convergence check does. -/
theorem allEnforceProbesPass_iff : allEnforceProbesPass s.probes = true ↔ s.EnforcePass := by
  simp only [allEnforceProbesPass, List.all_eq_true, List.mem_filter, decide_eq_true_eq,
    Prod.forall, Table.mem_rows, and_imp, HostRolloutState.EnforcePass]

/-- A record with a failing probe in mode `enforce` does not pass. -/
theorem not_enforcePass_of_failing (h : collectFailingEnforceProbes orders s.probes ≠ []) :
    ¬ s.EnforcePass := by
  obtain ⟨name, hname⟩ := List.exists_mem_of_ne_nil _ h
  simp only [collectFailingEnforceProbes, List.mem_map, List.mem_filter, mem_iterBy, Prod.exists,
    Table.mem_rows, decide_eq_true_eq] at hname
  obtain ⟨name, probe, ⟨hprobe, hfail, hmode⟩, -⟩ := hname
  intro hpass
  have hstatus := hpass name probe hprobe hmode
  rw [hfail] at hstatus
  cases hstatus

/-- **The gates exclude each other.** -/
theorem gates_exclusive (h : r.failGate orders now s = some e) : passGate now s = none := by
  rw [Option.eq_none_iff_forall_ne_some]
  intro e' hpass
  obtain ⟨-, -, -, -, hfailing, -⟩ := failGate_eq_some h
  obtain ⟨-, -, -, -, -, hprobes, -⟩ := passGate_eq_some hpass
  exact not_enforcePass_of_failing hfailing (allEnforceProbesPass_iff.mp hprobes)

/-- **The gates agree with the state machine.** With a later number `step` accepts what a gate
synthesizes for the record. -/
theorem hostStep_of_gate (h : r.failGate orders now s = some e ∨ passGate now s = some e)
    {seq : Nat} (hseq : s.lastEventSeq < seq) (policy : RolloutPolicy) :
    ∃ next effects, hostStep s (withSeq e seq) policy = .ok (next, effects) := by
  rcases h with h | h
  · obtain ⟨hstate, -, -, -, -, rfl⟩ := failGate_eq_some h
    rw [hostStep_of_seq_lt hseq, HostRolloutState.dispatch, hstate]
    exact ⟨_, _, rfl⟩
  · obtain ⟨hstate, soakDue, hdue, hle, -, hprobes, rfl⟩ := passGate_eq_some h
    have hverified : verifyConvergedInvariants s s.targetClosure now = .ok () := by
      rw [verifyConvergedInvariants_eq_ok]
      refine ⟨rfl, ?_, allEnforceProbesPass_iff.mp hprobes⟩
      intro due hdue'
      rw [hdue] at hdue'
      cases hdue'
      exact hle
    rw [hostStep_of_seq_lt hseq, HostRolloutState.dispatch, hstate]
    simp only [withSeq, soakingHandle, hverified]
    exact ⟨_, _, rfl⟩

end Record

/-! ## A tick -/

section Tick

variable {r : AgentReducer} {orders : AgentOrders} {now : Time}

/-- The rollouts of a gate's events are among those of the records, in their order. -/
theorem gate_rollouts_sublist (gate : HostRolloutState → Option Event)
    (records : List (RolloutId × HostRolloutState)) :
    ((records.filterMap fun e => (gate e.2).map fun event => (e.1, event)).map Prod.fst).Sublist
      (records.map Prod.fst) := by
  induction records with
  | nil => exact List.Sublist.slnil
  | cons entry records ih =>
      cases hgate : gate entry.2 with
      | none =>
          rw [List.filterMap_cons_none (by rw [hgate]; rfl), List.map_cons]
          exact ih.cons entry.1
      | some event =>
          rw [List.filterMap_cons_some (by rw [hgate]; rfl), List.map_cons, List.map_cons]
          exact ih.cons_cons entry.1

/-- **At most one verdict for a rollout.** -/
theorem advanceEvents_nodup (r : AgentReducer) (orders : AgentOrders) (now : Time) :
    ((r.advanceEvents orders now).map Prod.fst).Nodup := by
  have hkeys : ((iterBy orders.rollouts r.hostStates.rows).map Prod.fst).Nodup :=
    nodup_iterBy r.hostStates.rows_keys_nodup
  unfold AgentReducer.advanceEvents
  rw [List.map_append]
  refine List.Nodup.append ?_ ?_ ?_
  · exact (gate_rollouts_sublist _ _).nodup hkeys
  · exact (gate_rollouts_sublist _ _).nodup hkeys
  · intro rid hfail hpass
    simp only [List.mem_map, List.mem_filterMap, mem_iterBy, Prod.exists, Table.mem_rows,
      Option.map_eq_some_iff, Prod.mk.injEq] at hfail hpass
    obtain ⟨_, _, ⟨rid₁, s₁, hs₁, e₁, hgate₁, rfl, -⟩, rfl⟩ := hfail
    obtain ⟨_, _, ⟨rid₂, s₂, hs₂, e₂, hgate₂, hrid, -⟩, rfl⟩ := hpass
    subst hrid
    rw [hs₁] at hs₂
    cases hs₂
    rw [gates_exclusive hgate₁] at hgate₂
    cases hgate₂

/-- An event leaves the policies and the records of other rollouts as they are. -/
theorem runHostEventWrapping_other (now : Time) (r : AgentReducer) {rid rid' : RolloutId}
    (event : Event) (h : rid' ≠ rid) :
    (runHostEventWrapping now r rid event).1.manifests = r.manifests ∧
      (runHostEventWrapping now r rid event).1.hostStates.lookup rid' =
        r.hostStates.lookup rid' := by
  unfold runHostEventWrapping
  split
  · exact ⟨rfl, by rw [Table.lookup_insert_eq, if_neg h]⟩
  · exact ⟨rfl, rfl⟩

theorem runEvents_other (now : Time) (r : AgentReducer) {events : List (RolloutId × Event)}
    {rid : RolloutId} (h : rid ∉ events.map Prod.fst) :
    (runEvents now r events).1.manifests = r.manifests ∧
      (runEvents now r events).1.hostStates.lookup rid = r.hostStates.lookup rid := by
  unfold runEvents
  let Kept (acc : AgentReducer × List Effect) : Prop :=
    acc.1.manifests = r.manifests ∧ acc.1.hostStates.lookup rid = r.hostStates.lookup rid
  refine List.foldlRecOn (motive := Kept) _ _ ⟨rfl, rfl⟩ ?_
  rintro acc ⟨hmanifests, hlookup⟩ e he
  have hne : rid ≠ e.1 := by
    rintro rfl
    exact h (List.mem_map_of_mem he)
  obtain ⟨hmanifests', hlookup'⟩ := runHostEventWrapping_other now acc.1 e.2 hne
  exact ⟨hmanifests'.trans hmanifests, hlookup'.trans hlookup⟩

/-- A verdict of the tick is accepted wherever its record and the policies are as they were. -/
theorem verdict_of_mem {r' : AgentReducer} (hcached : PolicyCached r) (hseq : SeqBelowMax r)
    {rid : RolloutId} {e : Event} (he : (rid, e) ∈ r.advanceEvents orders now)
    (hmanifests : r'.manifests = r.manifests)
    (hlookup : r'.hostStates.lookup rid = r.hostStates.lookup rid) :
    ∃ s next effects, r'.hostStates.lookup rid = some s ∧ s.lastEventSeq < 2 ^ 64 - 1 ∧
      r'.verdict now rid e = some (.ok (next, effects)) := by
  obtain ⟨s, hs, hgate⟩ := mem_advanceEvents.mp he
  have hstate : s.state = .soaking := by
    rcases hgate with hgate | hgate
    · exact (failGate_eq_some hgate).1
    · exact (passGate_eq_some hgate).1
  have hlt : s.lastEventSeq < 2 ^ 64 - 1 := hseq _ (Table.mem_rows.mpr hs) hstate
  obtain ⟨policy, hpolicy⟩ := Option.isSome_iff_exists.mp (hcached _ (Table.mem_rows.mpr hs))
  have hrecord : r'.recordFor now rid e = some s := by
    unfold AgentReducer.recordFor
    rw [hlookup, hs]
  have hpolicy' : r'.resolvePolicy s.channel = some policy := by
    rw [AgentReducer.resolvePolicy, hmanifests]
    exact hpolicy
  have hnext : s.lastEventSeq < s.nextSeq := by
    rw [nextSeq_of_lt hlt]
    omega
  obtain ⟨next, effects, hstep⟩ := hostStep_of_gate hgate hnext policy
  refine ⟨s, next, effects, hlookup.trans hs, hlt, ?_⟩
  rw [AgentReducer.verdict, hrecord, Option.bind_some, hpolicy', Option.map_some, hstep]

/-- Below the last number `run_host_event` counts as in `runHostEvent`. -/
theorem runHostEventWrapping_eq {rid : RolloutId} {event : Event} {s : HostRolloutState}
    (hs : r.hostStates.lookup rid = some s) (hlt : s.lastEventSeq < 2 ^ 64 - 1) :
    runHostEventWrapping now r rid event = runHostEvent now r rid event := by
  have hrecord : r.recordFor now rid event = some s := by
    unfold AgentReducer.recordFor
    rw [hs]
  simp only [runHostEventWrapping, runHostEvent, AgentReducer.verdict, hrecord, Option.bind_some,
    nextSeq_of_lt hlt]
  cases r.resolvePolicy s.channel with
  | none => rfl
  | some policy =>
      simp only [Option.map_some]
      cases hostStep s (withSeq event (s.lastEventSeq + 1)) policy with
      | error err => rfl
      | ok out => rfl

/-- Events that find records below the last number are run as by `runHostEvent`. -/
theorem runEvents_eq {events : List (RolloutId × Event)}
    (h : ∀ earlier rid e later, events = earlier ++ (rid, e) :: later →
      ∃ s, (runEvents now r earlier).1.hostStates.lookup rid = some s ∧
        s.lastEventSeq < 2 ^ 64 - 1) :
    runEvents now r events =
      events.foldl (fun acc e =>
        ((runHostEvent now acc.1 e.1 e.2).1, acc.2 ++ (runHostEvent now acc.1 e.1 e.2).2))
        (r, []) := by
  induction events using List.reverseRecOn with
  | nil => rfl
  | append_singleton events event ih =>
      have hprefix := ih fun earlier rid e later hsplit =>
        h earlier rid e (later ++ [event]) (by rw [hsplit, List.append_assoc, List.cons_append])
      obtain ⟨s, hs, hlt⟩ := h events event.1 event.2 [] rfl
      have hevent : runHostEventWrapping now _ event.1 event.2 =
          runHostEvent now _ event.1 event.2 := runHostEventWrapping_eq hs hlt
      rw [List.foldl_append, ← hprefix, runEvents, List.foldl_append]
      simp only [List.foldl_cons, List.foldl_nil]
      rw [← runEvents, hevent]

/-- **The advance tick agrees with the state machine.** Of records with cached policies and numbers
below the last one, `step` accepts every verdict of a tick at its turn, a rollout gets at most one
verdict, and the tick is `runAdvanceTick`. -/
theorem runAdvanceTick_accepted (hcached : PolicyCached r) (hseq : SeqBelowMax r)
    (orders : AgentOrders) (now : Time) :
    (∀ earlier rid e later, r.advanceEvents orders now = earlier ++ (rid, e) :: later →
      ∃ next effects,
        (runEvents now r earlier).1.verdict now rid e = some (.ok (next, effects))) ∧
    ((r.advanceEvents orders now).map Prod.fst).Nodup ∧
    runEvents now r (r.advanceEvents orders now) = runAdvanceTick orders now r := by
  have hturn : ∀ earlier rid e later, r.advanceEvents orders now = earlier ++ (rid, e) :: later →
      ∃ s next effects, (runEvents now r earlier).1.hostStates.lookup rid = some s ∧
        s.lastEventSeq < 2 ^ 64 - 1 ∧
        (runEvents now r earlier).1.verdict now rid e = some (.ok (next, effects)) := by
    intro earlier rid e later hsplit
    have hnodup := advanceEvents_nodup r orders now
    rw [hsplit, List.map_append, List.map_cons] at hnodup
    have hnew : rid ∉ earlier.map Prod.fst := by
      intro hmem
      exact (List.nodup_append.mp hnodup).2.2 rid hmem rid List.mem_cons_self rfl
    obtain ⟨hmanifests, hlookup⟩ := runEvents_other now r hnew
    exact verdict_of_mem hcached hseq (by rw [hsplit]; simp) hmanifests hlookup
  refine ⟨?_, advanceEvents_nodup r orders now, ?_⟩
  · intro earlier rid e later hsplit
    obtain ⟨_, next, effects, -, -, haccepted⟩ := hturn earlier rid e later hsplit
    exact ⟨next, effects, haccepted⟩
  · refine runEvents_eq fun earlier rid e later hsplit => ?_
    obtain ⟨s, _, _, hs, hlt, -⟩ := hturn earlier rid e later hsplit
    exact ⟨s, hs, hlt⟩

end Tick

/-! ## The last number -/

/-- An agent with one record, whose soak is over at time `5`. -/
def soakedAgent (lastEventSeq : Nat) : AgentReducer where
  hostStates := (∅ : Table RolloutId HostRolloutState).insert (.new "stable" "r1")
    { HostRolloutState.newPending (.new "stable" "r1") "self" "stable" "new" 0 5 with
      state := .soaking, currentClosure := some "new", lastEventSeq := lastEventSeq }
  manifests := some (stableManifests
    (stableFleet "r1" [("host", "new")] ⟨"all-at-once", [], .halt⟩ [] [] []))

theorem runAdvanceTick_accepted_soaked :
    ∃ next effects, (soakedAgent 3).verdict 5 (.new "stable" "r1")
      (.localConvergedReached 5 "new" 0) = some (.ok (next, effects)) := by
  have hevents : (soakedAgent 3).advanceEvents ⟨fun _ => 0, fun _ => 0⟩ 5 =
      [] ++ (.new "stable" "r1", .localConvergedReached 5 "new" 0) :: [] := by decide
  exact (runAdvanceTick_accepted (r := soakedAgent 3) (by decide) (by decide)
    ⟨fun _ => 0, fun _ => 0⟩ 5).1 [] _ _ [] hevents

/-- After the last number the next one is `0`, and the verdict is a regression. -/
theorem runAdvanceTick_last_seq :
    PolicyCached (soakedAgent (2 ^ 64 - 1)) ∧
    (soakedAgent (2 ^ 64 - 1)).advanceEvents ⟨fun _ => 0, fun _ => 0⟩ 5 =
      [(.new "stable" "r1", .localConvergedReached 5 "new" 0)] ∧
    (soakedAgent (2 ^ 64 - 1)).verdict 5 (.new "stable" "r1")
        (.localConvergedReached 5 "new" 0) =
      some (.error (.seqRegression 0 (2 ^ 64 - 1) (.new "stable" "r1") "self")) := by
  exact ⟨by decide, by decide, rfl⟩

end Nixfleet
