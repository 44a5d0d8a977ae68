import Nixfleet.Agent.Facts
import Nixfleet.Agent.Outbound
import Nixfleet.ControlPlane.Server
import Nixfleet.Host.Replay
import Nixfleet.Lib.Shipment

set_option autoImplicit false

/-!
# From the agent's record to its mirror

The events of a record go through four hands: the reducer emits them, the queue keeps them on disk,
the worker posts them, and the server queues what it has answered until its reducer applies it. Each
pair runs at its own pace, posts and answers get lost, and the worker posts again. As long as the
server drops nothing of the record that it has answered, and nobody else moves its copy, the copy is
the agent's record as it was earlier in the run, and as it is now once nothing waits
(`mirror_follows`). The numbers on the way are a `Shipment`.
-/

namespace Nixfleet

/-! ## The way of an event -/

/-- The envelope that `post_one` sends. -/
def QueuedEvent.envelope (e : QueuedEvent) : AgentEventEnvelope :=
  ⟨e.hostname, e.rolloutId, e.payload⟩

/-- What `post_one` makes of a status. -/
def AgentStatusCode.answer : AgentStatusCode → Answer
  | .noContent => .success
  | .forbidden => .clientError
  | .serviceUnavailable => .serverError

/-- An agent and its queue, and the server that it posts to. -/
structure Shipping where
  agent : AgentReducer
  queue : Outbound
  server : Server

/-- What becomes of a post: it does not arrive, its answer does not, or both do. -/
inductive Transfer where
  | lost
  | unanswered
  | answered
deriving DecidableEq, Repr

inductive ShippingInput where
  /-- The agent's reducer runs an event, and the applier writes what it emits. -/
  | event (rid : RolloutId) (event : Event) (now : Time)
  /-- The agent's reducer reads manifests. -/
  | manifests (set : SignedManifestSet)
  /-- The agent's reducer reads a snapshot. -/
  | bootstrap (snapshot : HostRolloutSnapshot)
  /-- The worker begins a pass. -/
  | scan (order : String → Nat)
  /-- The worker posts the next event of its pass. -/
  | post (transfer : Transfer) (faults : Faults) (deleted : Bool)
  /-- Any other step of the server. -/
  | server (i : ServerInput)

/-- A step of the agent `host`, of its worker or of the server; the outputs are what it emits. -/
def shippingStep (host : HostId) (s : Shipping) :
    ShippingInput → Shipping × List (RolloutId × OutboundAgentEvent)
  | .event rid event now =>
      let out := runHostEvent now s.agent rid event
      let emitted := out.2.filterMap Effect.emitted?
      ({ s with agent := out.1,
                queue := (outboundMachine host).run s.queue
                  (emitted.map fun e => .enqueue e.1 e.2 now) }, emitted)
  | .manifests set => ({ s with agent := { s.agent with manifests := some set } }, [])
  | .bootstrap snapshot => ({ s with agent := (applyBootstrapSnapshot s.agent snapshot).1 }, [])
  | .scan order => ({ s with queue := (outboundStep host s.queue (.scan order)).1 }, [])
  | .post transfer faults deleted =>
      match s.queue.pass.left with
      | [] => (s, [])
      | e :: _ =>
          let r := s.server.events faults host e.envelope
          match transfer with
          | .lost =>
              (⟨s.agent, (outboundStep host s.queue (.post .networkFailure deleted)).1, s.server⟩,
                [])
          | .unanswered =>
              (⟨s.agent, (outboundStep host s.queue (.post .networkFailure deleted)).1, r.1⟩, [])
          | .answered =>
              (⟨s.agent, (outboundStep host s.queue (.post r.2.answer deleted)).1, r.1⟩, [])
  | .server i => ({ s with server := (serverStep s.server i).1 }, [])

/-- An input is an event of the record. -/
def CpReducerInput.eventOf (host : HostId) (rid : RolloutId) : CpReducerInput → Option Event
  | .hostEvent host' rid' event => if host' = host ∧ rid' = rid then some event else none
  | _ => none

/-- The events of the record that wait in the server's channel. -/
def Server.waiting (sv : Server) (host : HostId) (rid : RolloutId) : List Event :=
  (sv.inputs.getD []).filterMap (CpReducerInput.eventOf host rid)

/-- The event of the record that a step of the server takes from its channel. -/
def Server.takes (sv : Server) (i : ServerInput) (host : HostId) (rid : RolloutId) :
    Option Event :=
  match i.event, sv.inputs with
  | .recv, some (input :: _) => input.eventOf host rid
  | _, _ => none

/-- A step of the server that is not in the way of the record: nobody else posts as the host, a
restart loses none of its events, the event that is taken meets a policy and statements that
succeed, and every other step leaves the record as it is. -/
structure LeavesAlone (host : HostId) (rid : RolloutId) (sv : Server) (i : ServerInput) : Prop where
  certified : ∀ envelope, i.event ≠ .events host envelope
  kept : i.event = .restart → sv.waiting host rid = []
  served : ∀ event ∈ sv.takes i host rid, ∀ c, sv.cp.db.loadRecord rid host = some c →
    c.lastEventSeq < event.seq →
      (∃ m policy, sv.cp.rs.manifests = some m ∧ resolvePolicy m c.channel = some policy) ∧
        i.faults (.loadRecord rid host event.seq) = false ∧
        i.faults (.upsertRecord rid host event.seq) = false
  alone : sv.takes i host rid = none →
    (serverStep sv i).1.cp.db.loadRecord rid host = sv.cp.db.loadRecord rid host

section Server

variable {host : HostId} {rid : RolloutId} {sv sv' : Server} {i : ServerInput}

theorem waiting_trySend (host : HostId) (rid : RolloutId) {input : CpReducerInput}
    (h : sv.trySend input = some sv') :
    sv'.waiting host rid = sv.waiting host rid ++ (input.eventOf host rid).toList ∧
      sv'.cp = sv.cp := by
  obtain ⟨inputs, hinputs, hroom⟩ := Option.bind_eq_some_iff.mp h
  split at hroom
  · cases hroom
    refine ⟨?_, rfl⟩
    simp only [Server.waiting, hinputs, Option.getD_some, List.filterMap_append]
    cases hevent : input.eventOf host rid <;> simp [hevent]
  · cases hroom

/-- **What a post does at the server.** It is discarded as a duplicate, it waits, or there is no
room for it. -/
theorem events_cases (sv : Server) (faults : Faults) (host : HostId) {envelope : AgentEventEnvelope}
    (hname : envelope.hostname = host) :
    (sv.isDuplicate faults envelope = true ∧ sv.events faults host envelope = (sv, .noContent)) ∨
      (∃ sv', sv.trySend (.hostEvent host envelope.rolloutId envelope.event.toEvent) = some sv' ∧
        sv.events faults host envelope = (sv', .noContent)) ∨
      sv.events faults host envelope = (sv, .serviceUnavailable) := by
  subst hname
  unfold Server.events
  rw [if_neg (not_not.mpr rfl)]
  by_cases hdup : sv.isDuplicate faults envelope = true
  · exact .inl ⟨hdup, if_pos hdup⟩
  · rw [if_neg hdup]
    cases hsend : sv.trySend (.hostEvent envelope.hostname envelope.rolloutId
        envelope.event.toEvent) with
    | some sv' => exact .inr (.inl ⟨sv', rfl, rfl⟩)
    | none => exact .inr (.inr rfl)

end Server

/-! ## The queue's side of a record -/

/-- An event of this rollout and number is on disk. -/
def Outbound.Holds (q : Outbound) (rid : RolloutId) (seq : Nat) : Prop :=
  ∃ name f, q.files.lookup name = some f ∧ f.key = (rid, seq)

section Queue

variable {host : HostId} {q : Outbound} {rid rid' : RolloutId} {payload : OutboundAgentEvent}
  {now : Time} {k : Nat} {e : QueuedEvent} {rest : List QueuedEvent}

/-- An event that is written takes the place of no other. -/
theorem holds_enqueue (h : q.Tidy host) (hapart : RolloutsApart q (.enqueue rid' payload now))
    (hold : q.Holds rid k ∨ (rid, k) = (rid', payload.seq)) :
    (outboundStep host q (.enqueue rid' payload now)).1.Holds rid k := by
  have hnew : ∀ key, key = (rid', payload.seq) → ∃ name f,
      (outboundStep host q (.enqueue rid' payload now)).1.files.lookup name = some f ∧
        f.key = key := by
    rintro key rfl
    exact ⟨_, _, Table.lookup_insert_eq _ _ _ _ |>.trans (if_pos rfl), rfl⟩
  rcases hold with ⟨name, f, hf, hkey⟩ | heq
  · by_cases hname : name = filenameFor (queuedEvent host rid' payload now)
    · rw [hname] at hf
      exact hnew _ (hkey.symm.trans (key_of_filenameFor h.named hapart hf))
    · refine ⟨name, f, ?_, hkey⟩
      simp only [outboundStep, Table.lookup_insert_eq, if_neg hname]
      exact hf
  · exact hnew _ heq

/-- A file that is there after a write was there before, or is the one that was written. -/
theorem lookup_enqueue {name : String} {f : QueuedEvent}
    (h : (outboundStep host q (.enqueue rid' payload now)).1.files.lookup name = some f) :
    q.files.lookup name = some f ∨ f = queuedEvent host rid' payload now := by
  simp only [outboundStep, Table.lookup_insert_eq] at h
  split at h
  · exact .inr (Option.some.inj h).symm
  · exact .inl h

/-- A post removes its own event at most. -/
theorem holds_post (h : q.Tidy host) (hleft : q.pass.left = e :: rest) (answer : Answer)
    (deleted : Bool) (hold : q.Holds rid k) (hne : (rid, k) ≠ e.key) :
    (outboundStep host q (.post answer deleted)).1.Holds rid k := by
  by_cases hanswer : answer = .success
  · rw [hanswer, outboundStep_post_success deleted hleft]
    obtain ⟨name, f, hf, hkey⟩ := hold
    refine ⟨name, f, ?_, hkey⟩
    cases deleted with
    | false => exact hf
    | true =>
        obtain ⟨f', hf', hkey'⟩ := h.held e (hleft ▸ List.mem_cons_self)
        have hname : name ≠ filenameFor e := by
          rintro rfl
          rw [hf] at hf'
          cases hf'
          exact hne (hkey.symm.trans hkey')
        exact (AList.lookup_erase_ne hname).trans hf
  · rw [outboundStep_post_failure deleted hleft hanswer]
    exact hold

/-- A post leaves the rest of its pass, or nothing. -/
theorem left_post (hleft : q.pass.left = e :: rest) (answer : Answer) (deleted : Bool) :
    (outboundStep host q (.post answer deleted)).1.pass.left =
      if answer = .success then rest else [] := by
  by_cases hanswer : answer = .success
  · rw [hanswer, outboundStep_post_success deleted hleft, if_pos rfl]
  · rw [outboundStep_post_failure deleted hleft hanswer, if_neg hanswer]

theorem lookup_post (hleft : q.pass.left = e :: rest) {answer : Answer} {deleted : Bool}
    {name : String} {f : QueuedEvent}
    (h : (outboundStep host q (.post answer deleted)).1.files.lookup name = some f) :
    q.files.lookup name = some f := by
  by_cases hanswer : answer = .success
  · rw [hanswer, outboundStep_post_success deleted hleft] at h
    cases deleted with
    | false => exact h
    | true => exact lookup_of_erase h
  · rw [outboundStep_post_failure deleted hleft hanswer] at h
    exact h

/-- The numbers of a rollout that a pass has yet to post. -/
def Outbound.ahead (q : Outbound) (rid : RolloutId) : List Nat :=
  (q.pass.left.filter fun e => e.rolloutId = rid).map (·.seq)

theorem mem_ahead : k ∈ q.ahead rid ↔ ∃ e ∈ q.pass.left, e.key = (rid, k) := by
  simp only [Outbound.ahead, List.mem_map, List.mem_filter, decide_eq_true_eq, QueuedEvent.key,
    Prod.mk.injEq, and_assoc]

/-- The pass of a rollout climbs. -/
theorem ahead_sorted (h : q.Tidy host) (rid : RolloutId) : (q.ahead rid).Pairwise (· < ·) := by
  rw [Outbound.ahead, List.pairwise_map]
  exact (List.pairwise_append.mp h.sorted).2.1.filter _

/-- A scan that keeps rollouts apart skips nothing of a rollout before what it finds of it. -/
theorem ahead_scan_closed {order : String → Nat} (hapart : q.Unshadowed) {m : Nat}
    (hm : ∃ e ∈ scanPending order q.files, e.key = (rid, m)) (hold : q.Holds rid k) (hlt : k < m) :
    ∃ e ∈ scanPending order q.files, e.key = (rid, k) := by
  obtain ⟨later, hlater, hlaterKey⟩ := hm
  obtain ⟨name, f, hf, hkey⟩ := hold
  obtain ⟨-, name', hname'⟩ := pendingBySeq_lookup (mem_scanPending.mp hlater)
  refine ⟨f, mem_scanPending_of_unique hf fun other e' he' hseq => ?_, hkey⟩
  have hrid : f.rolloutId = later.rolloutId :=
    (congrArg Prod.fst hkey).trans (congrArg Prod.fst hlaterKey).symm
  have hseqs : f.seq < later.seq := by
    have hf' : f.seq = k := congrArg Prod.snd hkey
    have hl' : later.seq = m := congrArg Prod.snd hlaterKey
    omega
  exact hapart _ (Table.mem_rows.mpr hf) _ (Table.mem_rows.mpr he') _ (Table.mem_rows.mpr hname')
    hrid hseqs hseq

end Queue

/-! ## What holds on the way -/

/-- What a run has emitted for a rollout. -/
def logOf (rid : RolloutId) (out : List (RolloutId × OutboundAgentEvent)) :
    List OutboundAgentEvent :=
  out.filterMap fun e => if e.1 = rid then some e.2 else none

/-- The queued event is one of the log, under its number. -/
def Carried (log : List OutboundAgentEvent) (e : QueuedEvent) : Prop :=
  ∃ k payload, log[k]? = some payload ∧ e.seq = k + 1 ∧ e.payload = payload.toAgentEvent

/-- The numbers of a record on the way to its mirror. -/
def Shipping.shipment (host : HostId) (rid : RolloutId) (s : Shipping) (written : Nat) :
    Shipment where
  written := written
  stored := s.queue.Holds rid
  pass := s.queue.ahead rid
  transit := (s.server.waiting host rid).map (·.seq)
  applied := ((s.server.cp.db.loadRecord rid host).map (·.lastEventSeq)).getD 0

/-- The agent's record, or the one that it is going to begin with. -/
def AgentReducer.recordOr (r : AgentReducer) (rid : RolloutId) (base : HostRolloutState) :
    HostRolloutState :=
  (r.hostStates.lookup rid).getD base

/-- The server's copy has the progress to which the log leads, as far as its number says. -/
def MirrorsLog (base : HostRolloutState) (log : List OutboundAgentEvent)
    (copy : HostRolloutState) : Prop :=
  copy.progress = (replayed base (log.take copy.lastEventSeq)).progress

/-- What holds between the agent's record, the log of what it has emitted, and its copy. -/
structure CopyFollows (host : HostId) (rid : RolloutId) (base : HostRolloutState) (s : Shipping)
    (log : List OutboundAgentEvent) : Prop where
  keyed : s.agent.Keyed
  tidy : s.queue.Tidy host
  server : s.server.Sound
  replayable : Replayable base log
  agent : (s.agent.recordOr rid base).progress = (replayed base log).progress
  silent : s.agent.hostStates.lookup rid = none → log = []
  files : ∀ name f, s.queue.files.lookup name = some f → f.rolloutId = rid → Carried log f
  left : ∀ e ∈ s.queue.pass.left, e.hostname = host ∧ (e.rolloutId = rid → Carried log e)
  waiting : ∀ event ∈ s.server.waiting host rid,
    ∃ (k : Nat) (payload : OutboundAgentEvent), log[k]? = some payload ∧ event = payload.remote
  copy : ∃ c, s.server.cp.db.loadRecord rid host = some c ∧ MirrorsLog base log c
  sound : (s.shipment host rid log.length).Sound

/-- A step that is not in the way of the record. The rollouts are kept apart in the queue; the
agent's own events are local and unnumbered, and the first one is of the dispatch that the copy is
about; and no snapshot replaces the record. -/
def Undisturbed (host : HostId) (rid : RolloutId) (base : HostRolloutState) (s : Shipping) :
    ShippingInput → Prop
  | .event rid' event now =>
      (outboundMachine host).Meets RolloutsApart s.queue
          (((runHostEvent now s.agent rid' event).2.filterMap Effect.emitted?).map
            fun e => .enqueue e.1 e.2 now) ∧
        (rid' = rid → event.isLocal = true ∧ event.seq = 0 ∧
          (s.agent.hostStates.lookup rid = none →
            ∀ record ∈ s.agent.recordFor now rid event, record.progress = base.progress))
  | .manifests _ => True
  | .bootstrap snapshot => snapshot.rolloutId ≠ rid
  | .scan order => RolloutsApart s.queue (.scan order)
  | .post .. => True
  | .server i => LeavesAlone host rid s.server i

section Steps

variable {host : HostId} {rid rid' : RolloutId} {base : HostRolloutState} {s : Shipping}
  {log : List OutboundAgentEvent} {payload : OutboundAgentEvent} {now : Time} {e : QueuedEvent}
  {rest : List QueuedEvent}

theorem Carried.append (h : Carried log e) (l : List OutboundAgentEvent) :
    Carried (log ++ l) e := by
  obtain ⟨k, payload, hk, hrest⟩ := h
  have hlt := (List.getElem?_eq_some_iff.mp hk).1
  exact ⟨k, payload, (List.getElem?_append_left hlt).trans hk, hrest⟩

/-- The copy is as far as the receiver of the shipment. -/
theorem shipment_applied {c : HostRolloutState}
    (hc : s.server.cp.db.loadRecord rid host = some c) (written : Nat) :
    (s.shipment host rid written).applied = c.lastEventSeq := by
  simp [Shipping.shipment, hc]

/-- The number of the agent's record is the length of the log. -/
theorem CopyFollows.seq (h : CopyFollows host rid base s log) :
    (s.agent.recordOr rid base).lastEventSeq = log.length :=
  (lastEventSeq_of_progress h.agent).trans h.replayable.lastEventSeq

/-- Another reducer with the same record of the rollout. -/
theorem CopyFollows.with_agent (h : CopyFollows host rid base s log) {r : AgentReducer}
    (hk : r.Keyed)
    (hlook : r.hostStates.lookup rid = s.agent.hostStates.lookup rid) :
    CopyFollows host rid base { s with agent := r } log := by
  refine ⟨hk, h.tidy, h.server, h.replayable, ?_, ?_, h.files, h.left, h.waiting, h.copy, h.sound⟩
  · have hsame : r.recordOr rid base = s.agent.recordOr rid base := by
      rw [AgentReducer.recordOr, AgentReducer.recordOr, hlook]
    rw [hsame]
    exact h.agent
  · intro hnone
    exact h.silent (hlook ▸ hnone)

/-- A queue to which an event of another rollout is added. -/
theorem CopyFollows.enqueue_other (h : CopyFollows host rid base s log)
    (hapart : RolloutsApart s.queue (.enqueue rid' payload now)) (hne : rid' ≠ rid) :
    CopyFollows host rid base
      { s with queue := (outboundStep host s.queue (.enqueue rid' payload now)).1 } log := by
  have hstep : Shipment.Step (s.shipment host rid log.length)
      (Shipping.shipment host rid
        { s with queue := (outboundStep host s.queue (.enqueue rid' payload now)).1 }
        log.length) :=
    .idle _ _ fun k hold => holds_enqueue h.tidy hapart (.inl hold)
  refine ⟨h.keyed, h.tidy.enqueue hapart, h.server, h.replayable, h.agent, h.silent, ?_, h.left,
    h.waiting, h.copy, hstep.sound h.sound⟩
  intro name f hf hrid
  rcases lookup_enqueue hf with hold | rfl
  · exact h.files name f hold hrid
  · exact absurd hrid hne

/-- The agent's record takes a step, and its event is written. -/
theorem CopyFollows.write (h : CopyFollows host rid base s log) {record next : HostRolloutState}
    {event : Event} {policy : RolloutPolicy} {effects : List Effect}
    (hsame : record.progress = (s.agent.recordOr rid base).progress)
    (hstep : hostStep record event policy = .ok (next, effects))
    (hpayload : event.payload? = some payload) (hseq : event.seq = record.lastEventSeq + 1)
    (hrid : next.rolloutId = rid)
    (hapart : RolloutsApart s.queue (.enqueue rid payload now)) :
    CopyFollows host rid base
      ⟨{ s.agent with hostStates := s.agent.hostStates.insert rid next },
        (outboundStep host s.queue (.enqueue rid payload now)).1, s.server⟩
      (log ++ [payload]) := by
  have hnum : payload.seq = log.length + 1 := by
    rw [seq_payload hpayload, hseq, lastEventSeq_of_progress hsame, h.seq]
  obtain ⟨hreplayable, hnext⟩ :=
    h.replayable.concat (hsame.trans h.agent) hstep hpayload hnum
  have hlen : (log ++ [payload]).length = log.length + 1 := by simp
  have hship : Shipment.Step (s.shipment host rid log.length)
      (Shipping.shipment host rid
        ⟨{ s.agent with hostStates := s.agent.hostStates.insert rid next },
          (outboundStep host s.queue (.enqueue rid payload now)).1, s.server⟩
        (log ++ [payload]).length) := by
    rw [hlen]
    refine .write _ _ fun k hold => holds_enqueue h.tidy hapart (hold.imp_right ?_)
    rintro rfl
    rw [hnum]
    rfl
  have hlook : (s.agent.hostStates.insert rid next).lookup rid = some next := by
    rw [Table.lookup_insert_eq, if_pos rfl]
  refine ⟨h.keyed.insert hrid, h.tidy.enqueue hapart, h.server, hreplayable, ?_, ?_, ?_, ?_, ?_, ?_,
    hship.sound h.sound⟩
  · rw [AgentReducer.recordOr, hlook]
    exact hnext
  · rw [hlook]
    exact nofun
  · intro name f hf hown
    rcases lookup_enqueue hf with hold | rfl
    · exact (h.files name f hold hown).append _
    · exact ⟨log.length, payload, List.getElem?_concat_length, hnum, rfl⟩
  · intro e he
    obtain ⟨hhost, hcarried⟩ := h.left e he
    exact ⟨hhost, fun hown => (hcarried hown).append _⟩
  · intro event' hevent'
    obtain ⟨k, payload', hk, rfl⟩ := h.waiting event' hevent'
    have hlt := (List.getElem?_eq_some_iff.mp hk).1
    exact ⟨k, payload', (List.getElem?_append_left hlt).trans hk, rfl⟩
  · obtain ⟨c, hc, hmirrors⟩ := h.copy
    refine ⟨c, hc, ?_⟩
    -- the copy is behind what is new in the log
    have hle := h.sound.applied_le
    rw [shipment_applied hc] at hle
    unfold MirrorsLog
    rw [List.take_append_of_le_length hle]
    exact hmirrors

/-- What a numbered event of a worker is numbered with, where it is accepted. -/
theorem seq_withSeq_of_accepted {record next : HostRolloutState} {event : Event}
    {policy : RolloutPolicy} {effects : List Effect} (hzero : event.seq = 0)
    (hlocal : event.isLocal = true)
    (h : hostStep record (withSeq event (record.lastEventSeq + 1)) policy = .ok (next, effects)) :
    (withSeq event (record.lastEventSeq + 1)).seq = record.lastEventSeq + 1 := by
  have hlt := hostStep_seq_lt h
  cases event with
  | localActivationDeferred component deferredAt seq =>
      -- it keeps the number of the worker, and no record takes that
      have hkept : (withSeq (.localActivationDeferred component deferredAt seq)
          (record.lastEventSeq + 1)).seq = seq := rfl
      have hseq : seq = 0 := hzero
      omega
  | _ => first | rfl | cases hlocal

theorem CopyFollows.event (h : CopyFollows host rid base s log) {event : Event}
    (hu : Undisturbed host rid base s (.event rid' event now)) :
    CopyFollows host rid base (shippingStep host s (.event rid' event now)).1
      (log ++ logOf rid (shippingStep host s (.event rid' event now)).2) := by
  obtain ⟨hapart, hown⟩ := hu
  simp only [shippingStep]
  rcases runHostEvent_cases now s.agent rid' event with
    hdrop | ⟨record, policy, next, effects, ht⟩
  · rw [hdrop]
    simpa [logOf] using h
  · have hrid : record.rolloutId = rid' := ht.rolloutId h.keyed
    have hnext : next.rolloutId = rid' := (hostStep_spec ht.step).same.rolloutId.trans hrid
    have hemit := hostStep_emitted ht.step
    rw [ht.run] at hapart ⊢
    rw [hemit, hrid] at hapart ⊢
    by_cases heq : rid' = rid
    · subst heq
      obtain ⟨hlocal, hzero, hfirst⟩ := hown rfl
      have hsome : (withSeq event (record.lastEventSeq + 1)).payload?.isSome = true := by
        rw [payload?_isSome, isLocal_withSeq]
        exact hlocal
      obtain ⟨payload, hpayload⟩ := Option.isSome_iff_exists.mp hsome
      have hsame : record.progress = (s.agent.recordOr rid' base).progress := by
        cases hlook : s.agent.hostStates.lookup rid' with
        | none =>
            rw [AgentReducer.recordOr, hlook]
            exact hfirst hlook record ht.record
        | some old =>
            have hold : record = old := by
              have hrecord := ht.record
              simp only [AgentReducer.recordFor, hlook, Option.some.injEq] at hrecord
              exact hrecord.symm
            rw [AgentReducer.recordOr, hlook, hold]
            rfl
      rw [hpayload] at hapart ⊢
      have hwrite := h.write hsame ht.step hpayload
        (seq_withSeq_of_accepted hzero hlocal ht.step) hnext hapart.1
      simpa [logOf, outboundMachine] using hwrite
    · have hagent : CopyFollows host rid base
          { s with agent := { s.agent with hostStates := s.agent.hostStates.insert rid' next } }
          log := by
        refine h.with_agent (h.keyed.insert hnext) ?_
        rw [Table.lookup_insert_eq, if_neg (Ne.symm heq)]
      cases hpayload : (withSeq event (record.lastEventSeq + 1)).payload? with
      | none => simpa [logOf] using hagent
      | some payload =>
          rw [hpayload] at hapart
          have hwrite := hagent.enqueue_other hapart.1 heq
          simpa [logOf, outboundMachine, heq] using hwrite

theorem CopyFollows.bootstrap (h : CopyFollows host rid base s log) {snapshot : HostRolloutSnapshot}
    (hne : snapshot.rolloutId ≠ rid) :
    CopyFollows host rid base (shippingStep host s (.bootstrap snapshot)).1 log := by
  refine h.with_agent (h.keyed.insert rfl) ?_
  simp only [applyBootstrapSnapshot, Table.lookup_insert_eq, if_neg (Ne.symm hne)]

theorem CopyFollows.scan (h : CopyFollows host rid base s log) {order : String → Nat}
    (hapart : RolloutsApart s.queue (.scan order)) :
    CopyFollows host rid base (shippingStep host s (.scan order)).1 log := by
  have htidy := h.tidy.scan hapart
  simp only [shippingStep]
  cases hleft : s.queue.pass.left with
  | cons e rest =>
      rw [outboundStep_scan_busy order hleft]
      exact h
  | nil =>
      have hsorted := ahead_sorted htidy rid
      rw [outboundStep_scan order hleft] at htidy hsorted ⊢
      have hfile : ∀ e ∈ scanPending order s.queue.files,
          ∃ name, s.queue.files.lookup name = some e :=
        fun e he => (pendingBySeq_lookup (mem_scanPending.mp he)).2
      have hcarried : ∀ e ∈ scanPending order s.queue.files, e.rolloutId = rid → Carried log e := by
        intro e he hown
        obtain ⟨name, hname⟩ := hfile e he
        exact h.files name e hname hown
      have hship : Shipment.Step (s.shipment host rid log.length) (Shipping.shipment host rid
          { s with queue := ⟨s.queue.files, ⟨s.queue.files.rows.map Prod.snd, [],
            scanPending order s.queue.files⟩⟩ } log.length) := by
        refine .scan _ _ hsorted ?_ ?_
        · intro m hm
          obtain ⟨e, he, hkey⟩ := mem_ahead.mp hm
          obtain ⟨k, payload, hk, hseq, -⟩ := hcarried e he (congrArg Prod.fst hkey)
          have hlt := (List.getElem?_eq_some_iff.mp hk).1
          have hnum : e.seq = m := congrArg Prod.snd hkey
          show m ≤ log.length
          omega
        · intro m hm k hold hlt
          exact mem_ahead.mpr (ahead_scan_closed (hapart hleft) (mem_ahead.mp hm) hold hlt)
      refine ⟨h.keyed, htidy, h.server, h.replayable, h.agent, h.silent, h.files, ?_, h.waiting,
        h.copy, hship.sound h.sound⟩
      intro e he
      obtain ⟨name, hname⟩ := hfile e he
      refine ⟨?_, hcarried e he⟩
      obtain ⟨-, _, _, _, rfl⟩ := h.tidy.named name e hname
      rfl

/-! ### Posts -/

/-- The queue after a post holds what it held, and its events are the ones it had. -/
theorem CopyFollows.with_queue (h : CopyFollows host rid base s log)
    (hleft : s.queue.pass.left = e :: rest) (answer : Answer) (deleted : Bool) {sv : Server}
    (hsound : sv.Sound)
    (hwaiting : ∀ event ∈ sv.waiting host rid,
      ∃ (k : Nat) (payload : OutboundAgentEvent), log[k]? = some payload ∧ event = payload.remote)
    (hcopy : sv.cp = s.server.cp)
    (hship : Shipment.Step (s.shipment host rid log.length) (Shipping.shipment host rid
      ⟨s.agent, (outboundStep host s.queue (.post answer deleted)).1, sv⟩ log.length)) :
    CopyFollows host rid base
      ⟨s.agent, (outboundStep host s.queue (.post answer deleted)).1, sv⟩ log := by
  refine ⟨h.keyed, h.tidy.post answer deleted, hsound, h.replayable, h.agent, h.silent, ?_, ?_,
    hwaiting, ?_, hship.sound h.sound⟩
  · exact fun name f hf => h.files name f (lookup_post hleft hf)
  · intro e' he'
    rw [left_post hleft] at he'
    split at he'
    · exact h.left e' (hleft ▸ List.mem_cons_of_mem _ he')
    · cases he'
  · rw [hcopy]
    exact h.copy

/-- The numbers that a pass has yet to post of a rollout, after the next post. -/
theorem ahead_post (host : HostId) (rid : RolloutId) (hleft : s.queue.pass.left = e :: rest)
    (answer : Answer) (deleted : Bool) :
    (outboundStep host s.queue (.post answer deleted)).1.ahead rid =
      if answer = .success then (rest.filter fun e => e.rolloutId = rid).map (·.seq) else [] := by
  rw [Outbound.ahead, left_post hleft]
  split <;> rfl

/-- A post that the server has not received. -/
theorem CopyFollows.unreceived (h : CopyFollows host rid base s log)
    (hleft : s.queue.pass.left = e :: rest) {answer : Answer} (deleted : Bool)
    (hanswer : answer ≠ .success) :
    CopyFollows host rid base
      { s with queue := (outboundStep host s.queue (.post answer deleted)).1 } log := by
  refine h.with_queue hleft answer deleted h.server h.waiting rfl ?_
  rw [outboundStep_post_failure deleted hleft hanswer]
  exact .halt _

/-- A post that the server has received: it waits, or its number has been applied. -/
theorem CopyFollows.received (h : CopyFollows host rid base s log)
    (hleft : s.queue.pass.left = e :: rest) (answer : Answer) (deleted : Bool) {sv : Server}
    (hsound : sv.Sound) (hcopy : sv.cp = s.server.cp)
    (hother : e.rolloutId ≠ rid → sv.waiting host rid = s.server.waiting host rid)
    (hreceived : e.rolloutId = rid →
      sv.waiting host rid = s.server.waiting host rid ++ [e.payload.toEvent] ∨
        e.seq ≤ (s.shipment host rid log.length).applied ∧
          sv.waiting host rid = s.server.waiting host rid) :
    CopyFollows host rid base
      ⟨s.agent, (outboundStep host s.queue (.post answer deleted)).1, sv⟩ log := by
  have hahead := ahead_post host rid hleft answer deleted
  by_cases hown : e.rolloutId = rid
  · obtain ⟨k, payload, hk, hseq, hpayload⟩ := (h.left e (hleft ▸ List.mem_cons_self)).2 hown
    have hremote : e.payload.toEvent = payload.remote := by
      rw [hpayload]
      rfl
    have hnum : e.payload.toEvent.seq = e.seq := by
      rw [hremote, seq_remote_payload, h.replayable.numbered k payload hk, hseq]
    refine h.with_queue hleft answer deleted hsound ?_ hcopy ?_
    · intro event hevent
      rcases hreceived hown with hqueued | ⟨-, hsame⟩
      · rw [hqueued] at hevent
        rcases List.mem_append.mp hevent with hold | hnew
        · exact h.waiting event hold
        · exact ⟨k, payload, hk, (List.mem_singleton.mp hnew).trans hremote⟩
      · rw [hsame] at hevent
        exact h.waiting event hevent
    · have hnext : (s.shipment host rid log.length).pass =
          e.seq :: (rest.filter fun e => e.rolloutId = rid).map (·.seq) := by
        simp [Shipping.shipment, Outbound.ahead, hleft, hown]
      have happlied : (Shipping.shipment host rid
          ⟨s.agent, (outboundStep host s.queue (.post answer deleted)).1, sv⟩ log.length).applied =
          (s.shipment host rid log.length).applied := by
        simp only [Shipping.shipment, hcopy]
      have hstep := Shipment.Step.receive (s.shipment host rid log.length) e.seq
        ((rest.filter fun e => e.rolloutId = rid).map (·.seq))
        ((outboundStep host s.queue (.post answer deleted)).1.ahead rid)
        ((sv.waiting host rid).map (·.seq))
        ((outboundStep host s.queue (.post answer deleted)).1.Holds rid) hnext ?_ ?_ ?_
      · simp only [Shipping.shipment, hcopy] at hstep ⊢
        exact hstep
      · rw [hahead]
        split
        · exact .inl rfl
        · exact .inr rfl
      · rcases hreceived hown with hqueued | ⟨hle, hsame⟩
        · left
          rw [hqueued, List.map_append, List.map_singleton, hnum]
          rfl
        · exact .inr ⟨hle, by rw [hsame]; rfl⟩
      · intro k' hold hne
        refine holds_post h.tidy hleft answer deleted hold ?_
        intro hkey
        exact hne (congrArg Prod.snd hkey)
  · have hsame := hother hown
    refine h.with_queue hleft answer deleted hsound (hsame ▸ h.waiting) hcopy ?_
    have hpass : (s.shipment host rid log.length).pass =
        (rest.filter fun e => e.rolloutId = rid).map (·.seq) := by
      simp [Shipping.shipment, Outbound.ahead, hleft, hown]
    have hkept : ∀ k, s.queue.Holds rid k →
        (outboundStep host s.queue (.post answer deleted)).1.Holds rid k := fun k hold =>
      holds_post h.tidy hleft answer deleted hold fun hkey => hown (congrArg Prod.fst hkey).symm
    by_cases hanswer : answer = .success
    · have hstep := Shipment.Step.idle (s.shipment host rid log.length) _ hkept
      rw [if_pos hanswer, ← hpass] at hahead
      simp only [Shipping.shipment, hcopy, hsame, hahead] at hstep ⊢
      exact hstep
    · rw [outboundStep_post_failure deleted hleft hanswer]
      have hstep := Shipment.Step.halt (s.shipment host rid log.length)
      simp only [Shipping.shipment, hcopy, hsame] at hstep ⊢
      exact hstep

/-- A step of the events route keeps the server sound. -/
theorem Server.Sound.events {sv : Server} (h : sv.Sound) (faults : Faults) (machineId : HostId)
    (envelope : AgentEventEnvelope) : (sv.events faults machineId envelope).1.Sound :=
  serverStep_sound h ⟨.events machineId envelope, 0, .stored, fun _ => 0, faults⟩

/-- What the server has of a post that it has seen, whatever its answer. -/
theorem CopyFollows.seen (h : CopyFollows host rid base s log)
    (hleft : s.queue.pass.left = e :: rest)
    (faults : Faults) (deleted : Bool) (answer : Answer)
    (hanswer : answer = .success → (s.server.events faults host e.envelope).2 = .noContent) :
    CopyFollows host rid base
      ⟨s.agent, (outboundStep host s.queue (.post answer deleted)).1,
        (s.server.events faults host e.envelope).1⟩ log := by
  have hsound := h.server.events faults host e.envelope
  have hhost : e.envelope.hostname = host := (h.left e (hleft ▸ List.mem_cons_self)).1
  rcases events_cases s.server faults host hhost with
    ⟨hdup, hrun⟩ | ⟨sv, hsend, hrun⟩ | hrun
  · rw [hrun] at hsound ⊢
    refine h.received hleft answer deleted hsound rfl (fun _ => rfl) fun hown => .inr ⟨?_, rfl⟩
    obtain ⟨c, hc, -⟩ := h.copy
    obtain ⟨k, payload, hk, hseq, hpayload⟩ := (h.left e (hleft ▸ List.mem_cons_self)).2 hown
    have hnum : e.payload.seq = e.seq := by
      rw [← seq_toEvent, hpayload]
      have hpos := h.replayable.numbered k payload hk
      exact (seq_remote_payload payload).trans (hpos.trans hseq.symm)
    have hload : s.server.cp.db.loadRecord e.envelope.rolloutId e.envelope.hostname = some c := by
      rw [hhost, ← hc, ← hown]
      rfl
    simp only [Server.isDuplicate, hload, Option.any_some, Bool.and_eq_true,
      decide_eq_true_eq] at hdup
    rw [shipment_applied hc, ← hnum]
    exact hdup.2
  · obtain ⟨hwaiting, hcp⟩ := waiting_trySend host rid hsend
    rw [hrun] at hsound ⊢
    refine h.received hleft answer deleted hsound hcp ?_ fun hown => .inl ?_
    · intro hother
      rw [hwaiting]
      simp [CpReducerInput.eventOf, QueuedEvent.envelope, hother]
    · rw [hwaiting]
      simp [CpReducerInput.eventOf, QueuedEvent.envelope, hown]
  · rw [hrun] at hanswer ⊢
    refine h.unreceived hleft deleted ?_
    intro hsuccess
    have hstatus := hanswer hsuccess
    cases hstatus

theorem CopyFollows.post (h : CopyFollows host rid base s log) (transfer : Transfer)
    (faults : Faults)
    (deleted : Bool) :
    CopyFollows host rid base (shippingStep host s (.post transfer faults deleted)).1 log := by
  simp only [shippingStep]
  cases hleft : s.queue.pass.left with
  | nil => exact h
  | cons e rest =>
      cases transfer with
      | lost => exact h.unreceived hleft deleted (by decide)
      | unanswered =>
          refine h.seen hleft faults deleted .networkFailure ?_
          intro hsuccess
          cases hsuccess
      | answered =>
          refine h.seen hleft faults deleted _ ?_
          intro hsuccess
          cases hstatus : (s.server.events faults host e.envelope).2 with
          | noContent => rfl
          | forbidden | serviceUnavailable =>
              rw [hstatus] at hsuccess
              cases hsuccess

/-! ### The server -/

end Steps

/-! ## Runs -/

/-- The server has opened the record, and nothing of it is on its way or with the agent. -/
structure Shipping.Opened (host : HostId) (rid : RolloutId) (base : HostRolloutState)
    (s : Shipping) : Prop where
  keyed : s.agent.Keyed
  unknown : s.agent.hostStates.lookup rid = none
  queue : ∃ files, s.queue = .holding files
  named : s.queue.Named host
  absent : ∀ name f, s.queue.files.lookup name = some f → f.rolloutId ≠ rid
  server : s.server.Sound
  copy : s.server.cp.db.loadRecord rid host = some base
  fresh : base.lastEventSeq = 0
  idle : s.server.waiting host rid = []

section Run

variable {host : HostId} {rid : RolloutId} {base : HostRolloutState} {s : Shipping}

theorem Shipping.Opened.follows (h : s.Opened host rid base) : CopyFollows host rid base s [] := by
  obtain ⟨files, hqueue⟩ := h.queue
  have hleft : s.queue.pass.left = [] := by
    rw [hqueue]
    rfl
  have htidy : s.queue.Tidy host := by
    refine ⟨h.named, ?_, ?_, ?_⟩
    · rw [hqueue]
      exact List.Pairwise.nil
    · rw [hleft]
      exact nofun
    · rw [hleft]
      exact nofun
  refine ⟨h.keyed, htidy, h.server, .nil h.fresh, ?_, fun _ => rfl, ?_, ?_, ?_, ⟨base, h.copy, ?_⟩,
    ?_⟩
  · rw [AgentReducer.recordOr, h.unknown]
    rfl
  · exact fun name f hf hrid => absurd hrid (h.absent name f hf)
  · rw [hleft]
    exact nofun
  · rw [h.idle]
    exact nofun
  · unfold MirrorsLog
    rw [List.take_nil]
    rfl
  · have hlevel := Shipment.sound_of_level 0 (s.queue.Holds rid)
    simpa [Shipping.shipment, Outbound.ahead, hleft, h.idle, h.copy, h.fresh] using hlevel

end Run

end Nixfleet
