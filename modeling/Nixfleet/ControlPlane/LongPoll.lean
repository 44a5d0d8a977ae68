import Nixfleet.ControlPlane.Deployment
import Nixfleet.Lib.Slot
import Nixfleet.Lib.Watch

set_option autoImplicit false

/-!
# Parked dispatch requests

A request for a dispatch looks into the queue, subscribes to the kick, and parks; the applier stores
a row and then sends the kick, which wakes every parked request to look again. Requests and the
applier run side by side, so each of these is a step of its own. Whatever their order, a stored row
is delivered at most once (`delivered_once`). A row whose kick is sent between the first look of a
request and its subscription is slept on; with no such kick a parked request gets the row that waits
(`parked_gets_row`).
-/

namespace Nixfleet

/-! ## The requests -/

/-- Where a request stands: it has looked in vain and not subscribed, it is parked, or `changed` has
returned and it is to look again. -/
inductive PollPhase where
  | looked
  | parked
  | woken
deriving DecidableEq, Repr

structure PollRequest where
  host : HostId
  phase : PollPhase
deriving DecidableEq, Repr

/-- What the requests and the applier share, and the host whose row the applier has stored and not
yet sent the kick for. Requests are told apart by a number. -/
structure DispatchRoutes where
  db : Db
  requests : Table Nat PollRequest
  dispatchKick : Watch Nat
  kicking : Option HostId

/-- No request, and an empty queue. -/
def DispatchRoutes.initial : DispatchRoutes := ⟨Db.empty, ∅, Watch.empty, none⟩

/-- The steps of the applier and of the handlers. A request is abandoned when its client is gone. -/
inductive DispatchEvent where
  | upsert (q : QueuedDispatch)
  | kick
  | arrive (id : Nat) (host : HostId)
  | subscribe (id : Nat)
  | changed (id : Nat)
  | retake (id : Nat)
  | timeout (id : Nat)
  | abandon (id : Nat)

/-- An event, whether its statement fails, and the order of equal timestamps in the queue. -/
structure DispatchInput where
  event : DispatchEvent
  fails : Bool
  rank : RolloutId → Nat

/-- An event whose statement succeeds. -/
def DispatchInput.plain (event : DispatchEvent) : DispatchInput := ⟨event, false, fun _ => 0⟩

/-- What a request is answered with: `200` with the row, `204` or `500`. -/
inductive DispatchAnswer where
  | deliver (q : QueuedDispatch)
  | noContent
  | internalServerError
deriving DecidableEq, Repr

inductive DispatchOutput where
  | stored (q : QueuedDispatch)
  | answered (id : Nat) (host : HostId) (answer : DispatchAnswer)
deriving DecidableEq, Repr

namespace DispatchRoutes

/-- The request is answered, and its receiver dropped. -/
def close (routes : DispatchRoutes) (id : Nat) : DispatchRoutes :=
  { routes with
    requests := routes.requests.erase id
    dispatchKick := routes.dispatchKick.drop id }

/-- A look into the queue: the request is answered, or goes on in the phase. -/
def look (routes : DispatchRoutes) (i : DispatchInput) (id : Nat) (host : HostId)
    (phase : PollPhase) : DispatchRoutes × List DispatchOutput :=
  if i.fails then (routes.close id, [.answered id host .internalServerError])
  else
    match routes.db.takeForHost i.rank host with
    | (some q, db) => (({ routes with db := db }).close id, [.answered id host (.deliver q)])
    | (none, _) => ({ routes with requests := routes.requests.insert id ⟨host, phase⟩ }, [])

end DispatchRoutes

/-- `dispatch`, and the applier's `queue_dispatch`, step by step. -/
def dispatchStep (routes : DispatchRoutes) (i : DispatchInput) :
    DispatchRoutes × List DispatchOutput :=
  match i.event with
  | .upsert q =>
      -- the applier sends the kick before it stores the next row
      if routes.kicking.isSome || i.fails then (routes, [])
      else ({ routes with db := routes.db.upsertDispatch q, kicking := some q.hostname },
        [.stored q])
  | .kick =>
      if routes.kicking.isNone then (routes, [])
      else ({ routes with dispatchKick := routes.dispatchKick.send, kicking := none }, [])
  | .arrive id host =>
      if (routes.requests.lookup id).isSome then (routes, [])
      else routes.look i id host .looked
  | .subscribe id =>
      match routes.requests.lookup id with
      | some ⟨host, .looked⟩ =>
          ({ routes with
              requests := routes.requests.insert id ⟨host, .parked⟩
              dispatchKick := routes.dispatchKick.see id }, [])
      | _ => (routes, [])
  | .changed id =>
      match routes.requests.lookup id with
      | some ⟨host, .parked⟩ =>
          if routes.dispatchKick.ready id then
            ({ routes with
                requests := routes.requests.insert id ⟨host, .woken⟩
                dispatchKick := routes.dispatchKick.see id }, [])
          else (routes, [])
      | _ => (routes, [])
  | .retake id =>
      match routes.requests.lookup id with
      | some ⟨host, .woken⟩ => routes.look i id host .parked
      | _ => (routes, [])
  | .timeout id =>
      match routes.requests.lookup id with
      | some ⟨host, .parked⟩ => (routes.close id, [.answered id host .noContent])
      | _ => (routes, [])
  | .abandon id => (routes.close id, [])

/-- The requests and the applier as a machine. -/
def dispatchMachine : Machine DispatchRoutes DispatchInput DispatchOutput := ⟨dispatchStep⟩

/-! ## One row at most once -/

/-- What an output says of the slot that a host and a rollout have in the queue. -/
def DispatchOutput.slotEvent (host : HostId) (rid : RolloutId) :
    DispatchOutput → Option (SlotEvent QueuedDispatch)
  | .stored q => if q.hostname = host ∧ q.rolloutId = rid then some (.put q) else none
  | .answered _ _ (.deliver q) =>
      if q.hostname = host ∧ q.rolloutId = rid then some (.take q) else none
  | .answered _ _ .noContent | .answered _ _ .internalServerError => none

/-- The history of a slot. -/
def slotHistory (host : HostId) (rid : RolloutId) (outputs : List DispatchOutput) :
    List (SlotEvent QueuedDispatch) :=
  outputs.filterMap (·.slotEvent host rid)

/-- The queue holds the slots, and every delivery so far has emptied one, for its own host. -/
structure DispatchRoutes.Slots (routes : DispatchRoutes) (outputs : List DispatchOutput) :
    Prop where
  held : ∀ host rid, routes.db.dispatchQueue.lookup (host, rid) =
    SlotEvent.held (slotHistory host rid outputs)
  served : ∀ host rid, SlotEvent.Served (slotHistory host rid outputs)
  keyed : ∀ host rid q, routes.db.dispatchQueue.lookup (host, rid) = some q →
    q.hostname = host ∧ q.rolloutId = rid
  addressed : ∀ id host q, .answered id host (.deliver q) ∈ outputs → q.hostname = host

section Slots

variable {routes : DispatchRoutes} {outputs : List DispatchOutput} {i : DispatchInput}

theorem slotHistory_append (host : HostId) (rid : RolloutId) (o : DispatchOutput) :
    slotHistory host rid (outputs ++ [o]) =
      slotHistory host rid outputs ++ (o.slotEvent host rid).toList := by
  unfold slotHistory
  rw [List.filterMap_append]
  cases ho : o.slotEvent host rid <;> simp [ho]

/-- The next dispatch of a host lies in the slot that it names. -/
theorem nextDispatch_slot {db : Db} {rank : RolloutId → Nat} {host : HostId} {q : QueuedDispatch}
    (hkeyed : ∀ host rid q, db.dispatchQueue.lookup (host, rid) = some q →
      q.hostname = host ∧ q.rolloutId = rid) (h : db.nextDispatch rank host = some q) :
    q.hostname = host ∧ db.dispatchQueue.lookup (q.hostname, q.rolloutId) = some q := by
  have hmem := List.mem_of_mem_head? (Option.mem_def.mpr h)
  simp only [List.mem_insertionSort, List.mem_map, List.mem_filter, decide_eq_true_eq,
    Prod.exists, Table.mem_rows] at hmem
  obtain ⟨host', rid, q', ⟨hlook, rfl⟩, rfl⟩ := hmem
  obtain ⟨hhost, hrid⟩ := hkeyed _ _ _ hlook
  rw [hhost, hrid]
  exact ⟨rfl, hlook⟩

/-- An output that says nothing of a slot leaves the slots as they are. -/
theorem DispatchRoutes.Slots.of_silent {routes' : DispatchRoutes} {new : List DispatchOutput}
    (h : routes.Slots outputs) (hqueue : routes'.db.dispatchQueue = routes.db.dispatchQueue)
    (hsilent : ∀ host rid, slotHistory host rid new = [])
    (hnone : ∀ id host q, .answered id host (.deliver q) ∉ new) :
    routes'.Slots (outputs ++ new) := by
  have hsame : ∀ host rid, slotHistory host rid (outputs ++ new) =
      slotHistory host rid outputs := by
    intro host rid
    unfold slotHistory
    rw [List.filterMap_append]
    have hnew := hsilent host rid
    unfold slotHistory at hnew
    rw [hnew, List.append_nil]
  refine ⟨fun host rid => ?_, fun host rid => ?_, fun host rid q hq => ?_,
    fun id host q hmem => ?_⟩
  · rw [hqueue, hsame]
    exact h.held host rid
  · rw [hsame]
    exact h.served host rid
  · rw [hqueue] at hq
    exact h.keyed host rid q hq
  · rcases List.mem_append.mp hmem with hold | hnew
    · exact h.addressed id host q hold
    · exact absurd hnew (hnone id host q)

/-- A stored row fills its slot. -/
theorem DispatchRoutes.Slots.stored {routes' : DispatchRoutes} {q : QueuedDispatch}
    (h : routes.Slots outputs)
    (hqueue : routes'.db.dispatchQueue =
      routes.db.dispatchQueue.insert (q.hostname, q.rolloutId) q) :
    routes'.Slots (outputs ++ [.stored q]) := by
  refine ⟨fun host rid => ?_, fun host rid => ?_, fun host rid q' hq' => ?_,
    fun id host q' hmem => ?_⟩
  · rw [hqueue, Table.lookup_insert_eq, slotHistory_append]
    by_cases hkey : q.hostname = host ∧ q.rolloutId = rid
    · obtain ⟨rfl, rfl⟩ := hkey
      simp [DispatchOutput.slotEvent, SlotEvent.after]
    · have hne : ¬ (host, rid) = (q.hostname, q.rolloutId) := by
        rintro ⟨⟩
        exact hkey ⟨rfl, rfl⟩
      simp [DispatchOutput.slotEvent, hkey, hne, h.held host rid]
  · rw [slotHistory_append]
    by_cases hkey : q.hostname = host ∧ q.rolloutId = rid
    · simp only [DispatchOutput.slotEvent, hkey, and_self, if_true, Option.toList_some]
      refine (h.served host rid).append ?_
      rintro a ⟨⟩
    · simpa [DispatchOutput.slotEvent, hkey] using h.served host rid
  · rw [hqueue, Table.lookup_insert_eq] at hq'
    split at hq'
    · rename_i hkey
      cases hq'
      exact ⟨(congrArg Prod.fst hkey).symm, (congrArg Prod.snd hkey).symm⟩
    · exact h.keyed host rid q' hq'
  · rcases List.mem_append.mp hmem with hold | hnew
    · exact h.addressed id host q' hold
    · cases List.mem_singleton.mp hnew

/-- A delivered row empties its slot. -/
theorem DispatchRoutes.Slots.delivered {routes' : DispatchRoutes} {q : QueuedDispatch} {id : Nat}
    (h : routes.Slots outputs)
    (hslot : routes.db.dispatchQueue.lookup (q.hostname, q.rolloutId) = some q)
    (hqueue : routes'.db.dispatchQueue = routes.db.dispatchQueue.erase (q.hostname, q.rolloutId)) :
    routes'.Slots (outputs ++ [.answered id q.hostname (.deliver q)]) := by
  refine ⟨fun host rid => ?_, fun host rid => ?_, fun host rid q' hq' => ?_,
    fun id' host q' hmem => ?_⟩
  · rw [hqueue, slotHistory_append]
    by_cases hkey : q.hostname = host ∧ q.rolloutId = rid
    · obtain ⟨rfl, rfl⟩ := hkey
      simp [DispatchOutput.slotEvent, SlotEvent.after]
    · have hne : (host, rid) ≠ (q.hostname, q.rolloutId) := by
        rintro ⟨⟩
        exact hkey ⟨rfl, rfl⟩
      rw [AList.lookup_erase_ne hne]
      simp [DispatchOutput.slotEvent, hkey, h.held host rid]
  · rw [slotHistory_append]
    by_cases hkey : q.hostname = host ∧ q.rolloutId = rid
    · obtain ⟨rfl, rfl⟩ := hkey
      simp only [DispatchOutput.slotEvent, and_self, if_true, Option.toList_some]
      refine (h.served _ _).append ?_
      rintro a ⟨⟩
      rw [← h.held]
      exact hslot
    · simpa [DispatchOutput.slotEvent, hkey] using h.served host rid
  · rw [hqueue] at hq'
    by_cases hkey : (host, rid) = (q.hostname, q.rolloutId)
    · rw [hkey, AList.lookup_erase] at hq'
      cases hq'
    · rw [AList.lookup_erase_ne hkey] at hq'
      exact h.keyed host rid q' hq'
  · rcases List.mem_append.mp hmem with hold | hnew
    · exact h.addressed id' host q' hold
    · cases List.mem_singleton.mp hnew
      rfl

/-- What a look does: it fails, or delivers the next row, or goes on without one. -/
theorem look_cases (routes : DispatchRoutes) (i : DispatchInput) (id : Nat) (host : HostId)
    (phase : PollPhase) :
    routes.look i id host phase = (routes.close id, [.answered id host .internalServerError]) ∨
      (∃ q, routes.db.nextDispatch i.rank host = some q ∧ routes.look i id host phase =
        (({ routes with db := { routes.db with
              dispatchQueue := routes.db.dispatchQueue.erase (q.hostname, q.rolloutId) } } :
            DispatchRoutes).close id, [.answered id host (.deliver q)])) ∨
      (routes.db.nextDispatch i.rank host = none ∧ routes.look i id host phase =
        ({ routes with requests := routes.requests.insert id ⟨host, phase⟩ }, [])) := by
  unfold DispatchRoutes.look Db.takeForHost
  by_cases hfails : i.fails = true
  · left
    rw [if_pos hfails]
  · right
    rw [if_neg hfails]
    cases hnext : routes.db.nextDispatch i.rank host with
    | none => exact .inr ⟨rfl, rfl⟩
    | some q => exact .inl ⟨q, rfl, rfl⟩

theorem look_slots (h : routes.Slots outputs) (i : DispatchInput) (id : Nat) (host : HostId)
    (phase : PollPhase) :
    (routes.look i id host phase).1.Slots (outputs ++ (routes.look i id host phase).2) := by
  rcases look_cases routes i id host phase with heq | ⟨q, hnext, heq⟩ | ⟨-, heq⟩
  · rw [heq]
    exact h.of_silent rfl (fun _ _ => rfl) (by simp)
  · obtain ⟨rfl, hslot⟩ := nextDispatch_slot h.keyed hnext
    rw [heq]
    exact h.delivered hslot rfl
  · rw [heq]
    exact h.of_silent rfl (fun _ _ => rfl) (by simp)

/-- **Every step keeps the slots.** -/
theorem dispatchStep_slots (h : routes.Slots outputs) (i : DispatchInput) :
    (dispatchStep routes i).1.Slots (outputs ++ (dispatchStep routes i).2) := by
  have hsame : ∀ {routes' : DispatchRoutes},
      routes'.db.dispatchQueue = routes.db.dispatchQueue → routes'.Slots (outputs ++ []) :=
    fun hqueue => h.of_silent hqueue (fun _ _ => rfl) (by simp)
  unfold dispatchStep
  split
  · split
    · exact hsame rfl
    · exact h.stored rfl
  · split
    · exact hsame rfl
    · exact hsame rfl
  · split
    · exact hsame rfl
    · exact look_slots h i _ _ _
  · split
    · exact hsame rfl
    · exact hsame rfl
  · split
    · split
      · exact hsame rfl
      · exact hsame rfl
    · exact hsame rfl
  · split
    · exact look_slots h i _ _ _
    · exact hsame rfl
  · split
    · exact h.of_silent rfl (fun _ _ => rfl) (by simp)
    · exact hsame rfl
  · exact hsame rfl

theorem run_slots (is : List DispatchInput) :
    (dispatchMachine.run .initial is).Slots (dispatchMachine.trace .initial is) := by
  have hstart : DispatchRoutes.initial.Slots [] := by
    refine ⟨fun _ _ => rfl, fun _ _ => SlotEvent.served_nil, ?_, ?_⟩
    · intro host rid q hq
      cases hq
    · intro id host q hmem
      cases hmem
  have hall : dispatchMachine.Meets (fun _ _ => True) .initial is :=
    dispatchMachine.meets_of_forall (fun _ _ => trivial) _
  exact dispatchMachine.history_invariant (R := fun routes outputs => routes.Slots outputs)
    (fun _ i _ h _ => dispatchStep_slots h i) hstart hall

end Slots

/-- **A stored row is delivered at most once.** In every run, what is delivered goes to its own
host, and of what happens to the host's row for the rollout, the last before it is that the applier
has stored this very row: it was not delivered before, and no later one has replaced it. -/
theorem delivered_once (is : List DispatchInput) {id : Nat} {host : HostId} {q : QueuedDispatch}
    {past later : List DispatchOutput}
    (h : dispatchMachine.trace .initial is = past ++ .answered id host (.deliver q) :: later) :
    q.hostname = host ∧ ∃ before,
      slotHistory q.hostname q.rolloutId past = before ++ [.put q] := by
  have hslots := run_slots is
  have hmem : .answered id host (.deliver q) ∈ dispatchMachine.trace .initial is := by
    rw [h]
    simp
  have hhistory : slotHistory q.hostname q.rolloutId (dispatchMachine.trace .initial is) =
      slotHistory q.hostname q.rolloutId past ++
        .take q :: slotHistory q.hostname q.rolloutId later := by
    rw [h]
    simp [slotHistory, DispatchOutput.slotEvent]
  exact ⟨hslots.addressed id host q hmem, (hslots.served _ _).last_put hhistory⟩


/-! ## Parked requests -/

/-- A row of the host waits in the queue. -/
def Db.HasRow (db : Db) (host : HostId) : Prop :=
  ∃ rid, (db.dispatchQueue.lookup (host, rid)).isSome = true

/-- No kick for a host is sent while a request of the host stands between its first look and its
subscription. -/
def KicksSeen (routes : DispatchRoutes) (i : DispatchInput) : Prop :=
  i.event = .kick → ∀ host, routes.kicking = some host →
    ∀ id, routes.requests.lookup id ≠ some ⟨host, .looked⟩

/-- The request is parked, and its host has a row. -/
def DispatchRoutes.Work (routes : DispatchRoutes) (id : Nat) : Prop :=
  ∃ host, routes.requests.lookup id = some ⟨host, .parked⟩ ∧ routes.db.HasRow host

/-- Who has subscribed receives, a row that a request has not seen in its first look is still to be
announced, and so is one that a parked request sleeps on. -/
structure DispatchRoutes.Awake (routes : DispatchRoutes) : Prop where
  receives : ∀ id host phase, routes.requests.lookup id = some ⟨host, phase⟩ → phase ≠ .looked →
    routes.dispatchKick.Receives id
  looked : ∀ id host, routes.requests.lookup id = some ⟨host, .looked⟩ → routes.db.HasRow host →
    routes.kicking = some host
  alert : routes.dispatchKick.Alert routes.Work (routes.kicking.isSome = true)

section Awake

variable {routes : DispatchRoutes} {i : DispatchInput} {id : Nat} {host : HostId}
  {phase : PollPhase}

theorem nextDispatch_eq_none {db : Db} {rank : RolloutId → Nat} {host : HostId} :
    db.nextDispatch rank host = none ↔ ¬ db.HasRow host := by
  unfold Db.nextDispatch Db.HasRow
  rw [List.head?_eq_none_iff]
  constructor
  · rintro hnil ⟨rid, hsome⟩
    obtain ⟨q, hq⟩ := Option.isSome_iff_exists.mp hsome
    have hmem : q ∈ ((db.dispatchQueue.rows.filter fun r => r.1.1 = host).map
        Prod.snd).insertionSort fun a b => a.enqueuedAt < b.enqueuedAt ∨
          (a.enqueuedAt = b.enqueuedAt ∧ rank a.rolloutId ≤ rank b.rolloutId) := by
      rw [List.mem_insertionSort, List.mem_map]
      exact ⟨((host, rid), q), List.mem_filter.mpr ⟨Table.mem_rows.mpr hq, by simp⟩, rfl⟩
    rw [hnil] at hmem
    cases hmem
  · intro hnone
    refine List.eq_nil_iff_forall_not_mem.mpr fun q hmem => hnone ?_
    simp only [List.mem_insertionSort, List.mem_map, List.mem_filter, decide_eq_true_eq,
      Prod.exists, Table.mem_rows] at hmem
    obtain ⟨host', rid, q', ⟨hlook, rfl⟩, rfl⟩ := hmem
    exact ⟨rid, by rw [hlook]; rfl⟩

/-- Fewer rows are no more work. -/
theorem DispatchRoutes.Awake.of_db {db : Db} (h : routes.Awake)
    (hrows : ∀ host, db.HasRow host → routes.db.HasRow host) :
    DispatchRoutes.Awake { routes with db := db } := by
  refine ⟨h.receives, fun id host hlook hrow => h.looked id host hlook (hrows host hrow), ?_⟩
  refine h.alert.change (fun id hwork => .inl ?_) fun hsending => hsending
  obtain ⟨host, hlook, hrow⟩ := hwork
  exact ⟨host, hlook, hrows host hrow⟩

/-- A request goes on in a phase. -/
theorem DispatchRoutes.Awake.goOn (h : routes.Awake)
    (hreceives : phase ≠ .looked → routes.dispatchKick.Receives id)
    (hrow : routes.db.HasRow host → phase ≠ .woken → routes.kicking = some host) :
    DispatchRoutes.Awake
      { routes with requests := routes.requests.insert id ⟨host, phase⟩ } := by
  refine ⟨fun id' host' phase' hlook hphase => ?_, fun id' host' hlook hrow' => ?_, ?_⟩
  · rw [Table.lookup_insert_eq] at hlook
    split at hlook
    · rename_i heq
      cases hlook
      exact heq ▸ hreceives hphase
    · exact h.receives id' host' phase' hlook hphase
  · rw [Table.lookup_insert_eq] at hlook
    split at hlook
    · cases hlook
      exact hrow hrow' (by simp)
    · exact h.looked id' host' hlook hrow'
  · refine h.alert.change (fun id' hwork => ?_) fun hsending => hsending
    obtain ⟨host', hlook, hrow'⟩ := hwork
    rw [Table.lookup_insert_eq] at hlook
    split at hlook
    · cases hlook
      right
      show routes.kicking.isSome = true
      rw [hrow hrow' (by simp)]
      rfl
    · exact .inl ⟨host', hlook, hrow'⟩

/-- A request without work looks at the newest kick. -/
theorem DispatchRoutes.Awake.see (h : routes.Awake) (hid : ¬ routes.Work id) :
    DispatchRoutes.Awake { routes with dispatchKick := routes.dispatchKick.see id } := by
  refine ⟨fun id' host' phase' hlook hphase => ?_, h.looked, ?_⟩
  · exact Watch.receives_see.mpr (.inr (h.receives id' host' phase' hlook hphase))
  · exact h.alert.see fun hwork => absurd hwork hid

/-- A request leaves. -/
theorem DispatchRoutes.Awake.close (h : routes.Awake) (id : Nat) : (routes.close id).Awake := by
  have hlookup : ∀ id' request, (routes.requests.erase id).lookup id' = some request →
      id' ≠ id ∧ routes.requests.lookup id' = some request := by
    intro id' request hlook
    by_cases heq : id' = id
    · rw [heq, AList.lookup_erase] at hlook
      cases hlook
    · rw [AList.lookup_erase_ne heq] at hlook
      exact ⟨heq, hlook⟩
  refine ⟨fun id' host' phase' hlook hphase => ?_, fun id' host' hlook hrow => ?_, ?_⟩
  · obtain ⟨hne, hlook⟩ := hlookup id' _ hlook
    exact (Watch.receives_drop_of_ne hne).mpr (h.receives id' host' phase' hlook hphase)
  · exact h.looked id' host' (hlookup id' _ hlook).2 hrow
  · intro id' hreceives hwork
    obtain ⟨host', hlook, hrow⟩ := hwork
    obtain ⟨hne, hlook⟩ := hlookup id' _ hlook
    rw [show (routes.close id).dispatchKick.ready id' = routes.dispatchKick.ready id' from
      Watch.ready_drop_of_ne hne]
    exact h.alert id' ((Watch.receives_drop_of_ne hne).mp hreceives) ⟨host', hlook, hrow⟩

/-- A look keeps the parked requests awake: a request that goes on has found no row. -/
theorem look_awake (h : routes.Awake)
    (hreceives : phase ≠ .looked → routes.dispatchKick.Receives id) :
    (routes.look i id host phase).1.Awake := by
  rcases look_cases routes i id host phase with heq | ⟨q, -, heq⟩ | ⟨hnone, heq⟩
  · rw [heq]
    exact h.close id
  · rw [heq]
    refine DispatchRoutes.Awake.close (h.of_db ?_) id
    rintro host' ⟨rid, hsome⟩
    refine ⟨rid, ?_⟩
    by_cases hkey : (host', rid) = (q.hostname, q.rolloutId)
    · rw [hkey, AList.lookup_erase] at hsome
      cases hsome
    · rwa [AList.lookup_erase_ne hkey] at hsome
  · rw [heq]
    exact h.goOn hreceives fun hrow => absurd hrow (nextDispatch_eq_none.mp hnone)

/-- **Every step keeps the parked requests awake**, as long as no kick falls between a first look
and its subscription. -/
theorem dispatchStep_awake (h : routes.Awake) (hi : KicksSeen routes i) :
    (dispatchStep routes i).1.Awake := by
  cases hevent : i.event with
  | upsert q =>
      simp only [dispatchStep, hevent]
      split
      · exact h
      · rename_i hidle
        have hnone : routes.kicking = none := by
          simp only [Bool.or_eq_true, not_or, Bool.not_eq_true, Option.isSome_eq_false_iff,
            Option.isNone_iff_eq_none] at hidle
          exact hidle.1
        have hrows : ∀ host, (routes.db.upsertDispatch q).HasRow host →
            routes.db.HasRow host ∨ q.hostname = host := by
          rintro host ⟨rid, hsome⟩
          by_cases hkey : (host, rid) = (q.hostname, q.rolloutId)
          · exact .inr (congrArg Prod.fst hkey).symm
          · left
            refine ⟨rid, ?_⟩
            simpa only [Db.upsertDispatch, Table.lookup_insert_eq, if_neg hkey] using hsome
        refine ⟨h.receives, fun id host hlook hrow => ?_, ?_⟩
        · rcases hrows host hrow with hold | hnew
          · -- the applier is idle, so the row was seen
            have hkicking := h.looked id host hlook hold
            rw [hnone] at hkicking
            cases hkicking
          · show some q.hostname = some host
            rw [hnew]
        · exact h.alert.change (fun _ _ => .inr rfl) fun _ => rfl
  | kick =>
      simp only [dispatchStep, hevent]
      split
      · exact h
      · refine ⟨fun id host phase hlook hphase => ?_, fun id host hlook hrow => ?_, ?_⟩
        · exact Watch.receives_send.mpr (h.receives id host phase hlook hphase)
        · exact absurd hlook (hi hevent host (h.looked id host hlook hrow) id)
        · exact Watch.Alert.send _ _ _
  | arrive id host =>
      simp only [dispatchStep, hevent]
      split
      · exact h
      · exact look_awake h fun hphase => absurd rfl hphase
  | subscribe id =>
      simp only [dispatchStep, hevent]
      split
      · rename_i host hlook
        have hidle : ¬ routes.Work id := by
          rintro ⟨host', hparked, -⟩
          rw [hlook] at hparked
          cases hparked
        exact (h.see hidle).goOn (fun _ => Watch.receives_see.mpr (.inl rfl))
          fun hrow _ => h.looked id host hlook hrow
      · exact h
  | changed id =>
      simp only [dispatchStep, hevent]
      split
      · rename_i host hlook
        split
        · have hwoken : DispatchRoutes.Awake
              { routes with requests := routes.requests.insert id ⟨host, .woken⟩ } :=
            h.goOn (fun _ => h.receives id host .parked hlook (by simp))
              fun _ hphase => absurd rfl hphase
          refine hwoken.see ?_
          rintro ⟨host', hparked, -⟩
          rw [Table.lookup_insert_eq, if_pos rfl] at hparked
          cases hparked
        · exact h
      · exact h
  | retake id =>
      simp only [dispatchStep, hevent]
      split
      · rename_i host hlook
        exact look_awake h fun _ => h.receives id host .woken hlook (by simp)
      · exact h
  | timeout id =>
      simp only [dispatchStep, hevent]
      split
      · exact h.close id
      · exact h
  | abandon id =>
      simp only [dispatchStep, hevent]
      exact h.close id

theorem run_awake {is : List DispatchInput} (his : dispatchMachine.Meets KicksSeen .initial is) :
    (dispatchMachine.run .initial is).Awake := by
  have hstart : DispatchRoutes.initial.Awake := by
    refine ⟨?_, ?_, ?_⟩
    · intro id host phase hlook
      cases hlook
    · intro id host hlook
      cases hlook
    · rintro id - ⟨host, hlook, -⟩
      cases hlook
  exact dispatchMachine.run_invariant (P := DispatchRoutes.Awake)
    (fun _ _ h hi => dispatchStep_awake h hi) hstart his

/-- A parked request that is ready gets the next row of its host when it looks again. -/
theorem retake_delivers {q : QueuedDispatch}
    (hlook : routes.requests.lookup id = some ⟨host, .parked⟩)
    (hready : routes.dispatchKick.ready id = true)
    (hnext : routes.db.nextDispatch (fun _ => 0) host = some q) :
    .answered id host (.deliver q) ∈
      dispatchMachine.trace routes [.plain (.changed id), .plain (.retake id)] := by
  have hchanged : dispatchStep routes (.plain (.changed id)) =
      ({ routes with
          requests := routes.requests.insert id ⟨host, .woken⟩
          dispatchKick := routes.dispatchKick.see id }, []) := by
    simp [dispatchStep, DispatchInput.plain, hlook, hready]
  have hretake : (dispatchStep (dispatchStep routes (.plain (.changed id))).1
      (.plain (.retake id))).2 = [.answered id host (.deliver q)] := by
    rw [hchanged]
    simp [dispatchStep, DispatchInput.plain, DispatchRoutes.look, Db.takeForHost, hnext]
  show _ ∈ (dispatchStep routes (.plain (.changed id))).2 ++
    ((dispatchStep (dispatchStep routes (.plain (.changed id))).1 (.plain (.retake id))).2 ++ [])
  rw [hchanged] at hretake ⊢
  rw [hretake]
  simp

/-- **A parked request gets the row that waits.** In every run with no kick between a first look and
its subscription, a request that is parked while a row of its host waits is answered with one as
soon as the applier has sent what it still has to send and the request has looked again. -/
theorem parked_gets_row {is : List DispatchInput}
    (his : dispatchMachine.Meets KicksSeen .initial is)
    (hparked : (dispatchMachine.run .initial is).requests.lookup id = some ⟨host, .parked⟩)
    (hrow : (dispatchMachine.run .initial is).db.HasRow host) :
    ∃ q, .answered id host (.deliver q) ∈
      dispatchMachine.trace (dispatchMachine.run .initial is)
        [.plain .kick, .plain (.changed id), .plain (.retake id)] := by
  have hawake := run_awake his
  generalize dispatchMachine.run .initial is = routes at hawake hparked hrow ⊢
  have hreceives := hawake.receives id host .parked hparked (by simp)
  obtain ⟨q, hnext⟩ : ∃ q, routes.db.nextDispatch (fun _ => 0) host = some q := by
    by_contra hnone
    exact nextDispatch_eq_none.mp (Option.eq_none_iff_forall_ne_some.mpr
      fun q hq => hnone ⟨q, hq⟩) hrow
  refine ⟨q, ?_⟩
  rw [Machine.trace_cons]
  refine List.mem_append_right _ ?_
  cases hkicking : routes.kicking with
  | none =>
      have hready : routes.dispatchKick.ready id = true := by
        rcases hawake.alert id hreceives ⟨host, hparked, hrow⟩ with hready | hsending
        · exact hready
        · rw [hkicking] at hsending
          cases hsending
      have hkick : (dispatchMachine.step routes (.plain .kick)).1 = routes := by
        simp [dispatchMachine, dispatchStep, DispatchInput.plain, hkicking]
      rw [hkick]
      exact retake_delivers hparked hready hnext
  | some kicked =>
      have hkick : (dispatchMachine.step routes (.plain .kick)).1 =
          { routes with dispatchKick := routes.dispatchKick.send, kicking := none } := by
        simp [dispatchMachine, dispatchStep, DispatchInput.plain, hkicking]
      rw [hkick]
      exact retake_delivers hparked (Watch.ready_send hreceives) hnext

end Awake

/-! ## The control plane's steps -/

section Refinement

/-- The applier's part of a plan tick, row by row. -/
def applierSteps (stores : List QueuedDispatch) : List DispatchInput :=
  stores.flatMap fun q => [.plain (.upsert q), .plain .kick]

/-- The queue after some rows have been stored. -/
def storeAll (queue : Table (HostId × RolloutId) QueuedDispatch) (stores : List QueuedDispatch) :
    Table (HostId × RolloutId) QueuedDispatch :=
  stores.foldl (fun queue q => queue.insert (q.hostname, q.rolloutId) q) queue

theorem run_applierSteps {routes : DispatchRoutes} (hidle : routes.kicking = none)
    (stores : List QueuedDispatch) :
    (dispatchMachine.run routes (applierSteps stores)).db.dispatchQueue =
      storeAll routes.db.dispatchQueue stores := by
  induction stores generalizing routes with
  | nil => rfl
  | cons q stores ih =>
      have hstep : dispatchMachine.run routes [.plain (.upsert q), .plain .kick] =
          ⟨routes.db.upsertDispatch q, routes.requests, routes.dispatchKick.send, none⟩ := by
        simp [dispatchMachine, dispatchStep, DispatchInput.plain, hidle]
      have hsplit : applierSteps (q :: stores) =
          [.plain (.upsert q), .plain .kick] ++ applierSteps stores := rfl
      rw [hsplit, Machine.run_append, hstep, ih rfl]
      rfl

/-- A plan tick stores some rows. -/
theorem runPlan_stores (rs : ReducerState) (order : MapOrders) (now : Time) (faults : Faults)
    (db : Db) : ∃ stores,
      (runPlan rs order now faults db).dispatchQueue = storeAll db.dispatchQueue stores := by
  refine runPlan_rule (P := fun db' => ∃ stores,
    db'.dispatchQueue = storeAll db.dispatchQueue stores) ⟨[], rfl⟩ ?_ ?_
  · intro m plan _ hplan
    obtain ⟨_, _, _, _, hdb, _, _⟩ := planOf_eq_some hplan
    refine ⟨[], ?_⟩
    rw [hdb, advanceCurrentWaves_dispatchQueue]
    rfl
  · rintro m plan _ hplan db' ⟨stores, hstores⟩ a ha
    cases a with
    | openRollout rid channel targetRef =>
        refine ⟨stores, ?_⟩
        rw [applyPlanAction, openRollout_dispatchQueue, hstores]
    | queueDispatch host rid closure due =>
        simp only [applyPlanAction, queueDispatch]
        split
        · exact ⟨stores, hstores⟩
        · refine ⟨stores ++ [⟨host, rid, closure, due, now⟩], ?_⟩
          rw [appendEventLog_dispatchQueue, Db.upsertDispatch, hstores]
          simp [storeAll]
    | deferDispatch host rid gate reason => exact ⟨stores, hstores⟩

/-- **A step of the control plane is a run of the routes and the applier**, as far as the queue
goes: a plan tick is the applier's rows one after the other, a taken dispatch is a first look. -/
theorem cpStep_queue_run (cp : Cp) (i : CpInput) {routes : DispatchRoutes} {id : Nat}
    (hqueue : routes.db.dispatchQueue = cp.db.dispatchQueue) (hidle : routes.kicking = none)
    (hfresh : routes.requests.lookup id = none) :
    ∃ is, (dispatchMachine.run routes is).db.dispatchQueue =
      (cpStep cp i).1.db.dispatchQueue := by
  refine cpStep_rule (P := fun db => ∃ is,
    (dispatchMachine.run routes is).db.dispatchQueue = db.dispatchQueue) ⟨[], hqueue⟩ ?_ ?_ ?_ ?_
  · rintro rs db host rid event - ⟨is, his⟩
    exact ⟨is, by rw [handleHostEvent_dispatchQueue, his]⟩
  · intro rs m _ _
    obtain ⟨stores, hstores⟩ := runPlan_stores rs i.order i.now i.faults cp.db
    exact ⟨applierSteps stores, by rw [run_applierSteps hidle, hstores, hqueue]⟩
  · exact fun _ => ⟨[], hqueue⟩
  · intro host
    refine ⟨[⟨.arrive id host, false, i.rank⟩], ?_⟩
    have hnext : routes.db.nextDispatch i.rank host = cp.db.nextDispatch i.rank host := by
      unfold Db.nextDispatch
      rw [hqueue]
    have hlook : (dispatchMachine.run routes [⟨.arrive id host, false, i.rank⟩]) =
        (routes.look ⟨.arrive id host, false, i.rank⟩ id host .looked).1 := by
      simp [dispatchMachine, dispatchStep, hfresh]
    rw [hlook]
    simp only [DispatchRoutes.look, Db.takeForHost, hnext, Bool.false_eq_true, if_false]
    cases cp.db.nextDispatch i.rank host with
    | none => exact hqueue
    | some q =>
        show routes.db.dispatchQueue.erase _ = cp.db.dispatchQueue.erase _
        rw [hqueue]

end Refinement

/-- A row for host `a`. -/
def waitingRow : QueuedDispatch := ⟨"a", .new "stable" "r1", "new", 0, 0⟩

/-- The kick is sent once the request has parked. -/
def parkedRun : List DispatchInput :=
  [.plain (.arrive 1 "a"), .plain (.subscribe 1), .plain (.upsert waitingRow), .plain .kick]

/-- The kick is sent before the request has subscribed. -/
def unsubscribedRun : List DispatchInput :=
  [.plain (.arrive 1 "a"), .plain (.upsert waitingRow), .plain .kick, .plain (.subscribe 1)]

theorem parkedRun_delivered :
    (∃ q, .answered 1 "a" (.deliver q) ∈
      dispatchMachine.trace (dispatchMachine.run .initial parkedRun)
        [.plain .kick, .plain (.changed 1), .plain (.retake 1)]) := by
  have hseen : dispatchMachine.Meets KicksSeen .initial parkedRun := by
    refine ⟨?_, ?_, ?_, ?_, trivial⟩
    · rintro ⟨⟩
    · rintro ⟨⟩
    · rintro ⟨⟩
    · rintro - host - id hlook
      have hrequests : ((∅ : Table Nat PollRequest).insert 1 ⟨"a", .parked⟩).lookup id =
        some ⟨host, .looked⟩ := hlook
      rw [Table.lookup_insert_eq] at hrequests
      split at hrequests <;> cases hrequests
  exact parked_gets_row hseen rfl ⟨.new "stable" "r1", rfl⟩

/-- The row is slept on. -/
theorem unsubscribedRun_not_delivered :
    (dispatchMachine.run .initial unsubscribedRun).requests.lookup 1 = some ⟨"a", .parked⟩ ∧
      (dispatchMachine.run .initial unsubscribedRun).db.HasRow "a" ∧
        dispatchMachine.trace (dispatchMachine.run .initial unsubscribedRun)
          [.plain .kick, .plain (.changed 1), .plain (.retake 1)] = [] :=
  ⟨rfl, ⟨.new "stable" "r1", rfl⟩, rfl⟩

/-- What was stored is delivered to the request. -/
theorem parkedRun_delivered_once :
    waitingRow.hostname = "a" ∧ ∃ before, slotHistory waitingRow.hostname waitingRow.rolloutId
      [.stored waitingRow] = before ++ [.put waitingRow] := by
  have htrace : dispatchMachine.trace .initial
      (parkedRun ++ [.plain (.changed 1), .plain (.retake 1)]) =
        [.stored waitingRow] ++ .answered 1 "a" (.deliver waitingRow) :: [] := rfl
  exact delivered_once _ htrace

end Nixfleet
