import Nixfleet.Host.Mirror
import Nixfleet.Lib.Machine
import Nixfleet.Lib.Split
import Nixfleet.Lib.Table

set_option autoImplicit false

/-!
# The outbound queue

The agent writes every event to a file of its own, and a worker posts the files in the order of
their numbers and deletes each one that the control plane has taken. The number of an event is
one of its rollout, but the scan of the directory keeps one event per number, whatever the
rollout, and the worker stops at the first answer that is not a success, whatever it says. So
events go out in order where the rollouts are told apart (`queue_delivers_in_order`), and none
blocks another where none is rejected (`drain_not_blocked`).
-/

namespace Nixfleet

/-! ## Files -/

/-- One entry in the on-disk queue. -/
structure QueuedEvent where
  seq : Nat
  hostname : HostId
  rolloutId : RolloutId
  eventKind : String
  createdAt : Time
  payload : AgentEvent
deriving DecidableEq

/-- `outbound_event_kind`. -/
def outboundEventKind : OutboundAgentEvent → String
  | .dispatchAck .. => "DispatchAck"
  | .activationStarted .. => "ActivationStarted"
  | .activationCompleted .. => "ActivationCompleted"
  | .activationDeferred .. => "ActivationDeferred"
  | .activationFailed .. => "ActivationFailed"
  | .probeTopologyDeclared .. => "ProbeTopologyDeclared"
  | .probeObservedFirst .. => "ProbeObservedFirst"
  | .probeResult .. => "ProbeResult"
  | .probeFailureFirst .. => "ProbeFailureFirst"
  | .failed .. => "Failed"
  | .rollbackComplete .. => "RollbackComplete"
  | .converged .. => "Converged"

/-- The entry that the applier writes for `LocalEmitEvent`. -/
def queuedEvent (machineId : HostId) (rolloutId : RolloutId) (payload : OutboundAgentEvent)
    (now : Time) : QueuedEvent where
  seq := payload.seq
  hostname := machineId
  rolloutId := rolloutId
  eventKind := outboundEventKind payload
  createdAt := now
  payload := payload.toAgentEvent

/-- What identifies an event: the number is one of its rollout. -/
def QueuedEvent.key (e : QueuedEvent) : RolloutId × Nat := (e.rolloutId, e.seq)

/-- `sanitize`. -/
def sanitize (s : String) : List Char :=
  s.toList.map fun c => if c.isAlphanum ∨ c = '-' ∨ c = '@' ∨ c = '.' then c else '_'

/-- `{:020}`. -/
def paddedSeq (seq : Nat) : List Char := (Nat.toDigits 10 seq).leftpad 20 '0'

/-- `filename_for`. -/
def filenameFor (e : QueuedEvent) : String :=
  String.ofList (paddedSeq e.seq ++ '-' :: (sanitize e.hostname ++ '-' ::
    ((sanitize e.rolloutId.asStr ++ '-' :: sanitize e.eventKind) ++ ".json".toList)))

theorem isDigit_of_mem_paddedSeq {seq : Nat} {c : Char} (h : c ∈ paddedSeq seq) :
    c.isDigit = true := by
  unfold paddedSeq List.leftpad at h
  rcases List.mem_append.mp h with hzero | hdigit
  · rw [List.eq_of_mem_replicate hzero]
    rfl
  · exact Nat.isDigit_of_mem_toDigits (by decide) (by decide) hdigit

/-- The padding is read back. -/
theorem paddedSeq_injective {seq seq' : Nat} (h : paddedSeq seq = paddedSeq seq') :
    seq = seq' := by
  have hread : ∀ n, Nat.ofDigitChars 10 (paddedSeq n) 0 = n := by
    intro n
    unfold paddedSeq List.leftpad
    rw [Nat.ofDigitChars_append, Nat.ofDigitChars_replicate_zero, Nat.mul_zero,
      Nat.ofDigitChars_toDigits (by decide) (by decide)]
  rw [← hread seq, h, hread seq']

/-- A kind is a file name as it is, and holds no dash. -/
theorem sanitize_outboundEventKind (payload : OutboundAgentEvent) :
    sanitize (outboundEventKind payload) = (outboundEventKind payload).toList ∧
      '-' ∉ (outboundEventKind payload).toList := by
  have hkinds : ∀ kind ∈ ["DispatchAck", "ActivationStarted", "ActivationCompleted",
      "ActivationDeferred", "ActivationFailed", "ProbeTopologyDeclared", "ProbeObservedFirst",
      "ProbeResult", "ProbeFailureFirst", "Failed", "RollbackComplete", "Converged"],
      sanitize kind = kind.toList ∧ '-' ∉ kind.toList := by decide
  exact hkinds _ (by cases payload <;> simp [outboundEventKind])

/-- Two events of a host that share a file agree on the number, on the kind and on what is left of
the rollout id. -/
theorem filenameFor_queuedEvent_inj {machineId : HostId} {rid rid' : RolloutId}
    {payload payload' : OutboundAgentEvent} {now now' : Time}
    (h : filenameFor (queuedEvent machineId rid payload now) =
      filenameFor (queuedEvent machineId rid' payload' now')) :
    payload.seq = payload'.seq ∧ sanitize rid.asStr = sanitize rid'.asStr ∧
      outboundEventKind payload = outboundEventKind payload' := by
  have hseq : ∀ n, '-' ∉ paddedSeq n := fun n hmem =>
    absurd (isDigit_of_mem_paddedSeq hmem) (by decide)
  have hkind : ∀ p : OutboundAgentEvent, '-' ∉ (outboundEventKind p).toList :=
    fun p => (sanitize_outboundEventKind p).2
  -- the number ends at the first dash, the host is the same, and the kind starts at the last dash
  obtain ⟨hnum, hrest⟩ := append_sep_inj (hseq _) (hseq _) (String.ofList_injective h)
  have htail := List.append_cancel_right (List.cons.inj (List.append_cancel_left hrest)).2
  simp only [queuedEvent, (sanitize_outboundEventKind _).1] at htail
  obtain ⟨hrids, hkinds⟩ := append_sep_inj_right (hkind _) (hkind _) htail
  exact ⟨paddedSeq_injective hnum, hrids, String.toList_injective hkinds⟩

/-! ## Passes -/

/-- What `post_one` comes back with: no answer, or one of a status class. -/
inductive Answer where
  | networkFailure
  | success
  | clientError
  | serverError
deriving DecidableEq, Repr

/-- The files by number; of two files with one number the scan keeps the one that it reads last.
`order` is the order in which the directory is read. -/
def pendingBySeq (order : String → Nat) (files : Table String QueuedEvent) :
    Table Nat QueuedEvent :=
  (iterBy order files.rows).foldl (fun bySeq file => bySeq.insert file.2.seq file.2) ∅

/-- `scan_pending`. Every file of the directory can be read. -/
def scanPending (order : String → Nat) (files : Table String QueuedEvent) : List QueuedEvent :=
  (iterBy id (pendingBySeq order files).rows).map Prod.snd

/-- A pass of the worker. The loop holds `left`; what was on disk at the scan and what the pass
has posted are kept for the statements. -/
structure DrainPass where
  found : List QueuedEvent
  posted : List (QueuedEvent × Answer)
  left : List QueuedEvent

/-- The directory, and the pass of the outbound worker. -/
structure Outbound where
  files : Table String QueuedEvent
  pass : DrainPass

/-- The queue of an agent that has just started, with the files that it finds. -/
def Outbound.holding (files : Table String QueuedEvent) : Outbound := ⟨files, ⟨[], [], []⟩⟩

/-- The applier writes an event, the worker begins a pass or posts its next event, or the agent
restarts. `deleted` says whether `mark_sent` could remove the file. -/
inductive OutboundInput where
  | enqueue (rolloutId : RolloutId) (payload : OutboundAgentEvent) (now : Time)
  | scan (order : String → Nat)
  | post (answer : Answer) (deleted : Bool)
  | restart

/-- `enqueue`, and `drain_once` step by step. An answer that is not a success ends the pass. -/
def outboundStep (machineId : HostId) (s : Outbound) (input : OutboundInput) :
    Outbound × List (QueuedEvent × Answer) :=
  match input with
  | .enqueue rid payload now =>
      let event := queuedEvent machineId rid payload now
      ({ s with files := s.files.insert (filenameFor event) event }, [])
  | .scan order =>
      match s.pass.left with
      | [] => ({ s with pass := ⟨s.files.rows.map Prod.snd, [], scanPending order s.files⟩ }, [])
      | _ :: _ => (s, [])
  | .post answer deleted =>
      match s.pass.left with
      | [] => (s, [])
      | event :: rest =>
          let posted := s.pass.posted ++ [(event, answer)]
          match answer with
          | .success =>
              let files := if deleted then s.files.erase (filenameFor event) else s.files
              (⟨files, { s.pass with posted := posted, left := rest }⟩, [(event, answer)])
          | _ => ({ s with pass := { s.pass with posted := posted, left := [] } },
              [(event, answer)])
  | .restart => ({ s with pass := ⟨[], [], []⟩ }, [])

/-- The queue and its worker as a machine; it puts out the posts and their answers. -/
def outboundMachine (machineId : HostId) :
    Machine Outbound OutboundInput (QueuedEvent × Answer) :=
  ⟨outboundStep machineId⟩

/-! ## What a scan finds -/

section Scan

variable {order : String → Nat} {files : Table String QueuedEvent} {e : QueuedEvent}

theorem pendingBySeq_lookup {n : Nat} (h : (pendingBySeq order files).lookup n = some e) :
    e.seq = n ∧ ∃ name, files.lookup name = some e := by
  rcases Table.lookup_foldl_insert h with hempty | ⟨file, hfile, hseq, rfl⟩
  · cases hempty
  · exact ⟨hseq, file.1, Table.mem_rows.mp (mem_iterBy.mp hfile)⟩

theorem mem_scanPending :
    e ∈ scanPending order files ↔ (pendingBySeq order files).lookup e.seq = some e := by
  unfold scanPending
  constructor
  · intro h
    obtain ⟨⟨n, e'⟩, hmem, rfl⟩ := List.mem_map.mp h
    have hlookup := Table.mem_rows.mp (mem_iterBy.mp hmem)
    rwa [(pendingBySeq_lookup hlookup).1]
  · intro h
    exact List.mem_map.mpr ⟨(e.seq, e), mem_iterBy.mpr (Table.mem_rows.mpr h), rfl⟩

/-- The scan is sorted by number, and no number comes twice. -/
theorem scanPending_sorted : (scanPending order files).Pairwise fun a b => a.seq < b.seq := by
  unfold scanPending
  rw [List.pairwise_map]
  refine (iterBy_id_sorted (Table.rows_keys_nodup _)).imp_of_mem ?_
  intro a b ha hb hlt
  rw [(pendingBySeq_lookup (Table.mem_rows.mp (mem_iterBy.mp ha))).1,
    (pendingBySeq_lookup (Table.mem_rows.mp (mem_iterBy.mp hb))).1]
  exact hlt

/-- A file is scanned unless another one has its number. -/
theorem mem_scanPending_of_unique {name : String} (h : files.lookup name = some e)
    (hunique : ∀ name' e', files.lookup name' = some e' → e'.seq = e.seq → e' = e) :
    e ∈ scanPending order files := by
  have hsome : ((pendingBySeq order files).lookup e.seq).isSome = true :=
    Table.isSome_lookup_foldl_insert
      (.inr ⟨(name, e), mem_iterBy.mpr (Table.mem_rows.mpr h), rfl⟩)
  obtain ⟨e', he'⟩ := Option.isSome_iff_exists.mp hsome
  obtain ⟨hseq, name', hname'⟩ := pendingBySeq_lookup he'
  rw [mem_scanPending, he', hunique name' e' hname' hseq]

end Scan

/-! ## What a step does -/

section Steps

variable {machineId : HostId} {s : Outbound} {e : QueuedEvent} {rest : List QueuedEvent}

theorem outboundStep_scan (order : String → Nat) (h : s.pass.left = []) :
    outboundStep machineId s (.scan order) =
      ({ s with pass := ⟨s.files.rows.map Prod.snd, [], scanPending order s.files⟩ }, []) := by
  simp only [outboundStep, h]

/-- A pass that is under way is not begun again. -/
theorem outboundStep_scan_busy (order : String → Nat) (h : s.pass.left = e :: rest) :
    outboundStep machineId s (.scan order) = (s, []) := by
  simp only [outboundStep, h]

theorem outboundStep_post_idle (answer : Answer) (deleted : Bool) (h : s.pass.left = []) :
    outboundStep machineId s (.post answer deleted) = (s, []) := by
  simp only [outboundStep, h]

theorem outboundStep_post_success (deleted : Bool) (h : s.pass.left = e :: rest) :
    outboundStep machineId s (.post .success deleted) =
      (⟨if deleted then s.files.erase (filenameFor e) else s.files,
        ⟨s.pass.found, s.pass.posted ++ [(e, .success)], rest⟩⟩, [(e, .success)]) := by
  simp only [outboundStep, h]

/-- Whatever else the control plane answers ends the pass. -/
theorem outboundStep_post_failure {answer : Answer} (deleted : Bool)
    (h : s.pass.left = e :: rest) (hanswer : answer ≠ .success) :
    outboundStep machineId s (.post answer deleted) =
      ({ s with pass := ⟨s.pass.found, s.pass.posted ++ [(e, answer)], []⟩ }, [(e, answer)]) := by
  cases answer with
  | success => exact absurd rfl hanswer
  | networkFailure | clientError | serverError => simp only [outboundStep, h]

/-- The posts of a pass climb, from what it has posted to what it still holds. -/
def DrainPass.Sorted (p : DrainPass) : Prop :=
  (p.posted.map Prod.fst ++ p.left).Pairwise fun a b => a.seq < b.seq

theorem DrainPass.Sorted.posted_lt {p : DrainPass} (h : p.Sorted) (he : e ∈ p.left) :
    ∀ q ∈ p.posted, q.1.seq < e.seq := fun _ hq =>
  (List.pairwise_append.mp h).2.2 _ (List.mem_map_of_mem hq) e he

theorem outboundStep_sorted (machineId : HostId) (h : s.pass.Sorted) (i : OutboundInput) :
    (outboundStep machineId s i).1.pass.Sorted := by
  cases i with
  | enqueue rid payload now => exact h
  | restart => exact List.Pairwise.nil
  | scan order =>
      cases hleft : s.pass.left with
      | nil =>
          rw [outboundStep_scan order hleft]
          exact scanPending_sorted
      | cons e rest =>
          rw [outboundStep_scan_busy order hleft]
          exact h
  | post answer deleted =>
      cases hleft : s.pass.left with
      | nil =>
          rw [outboundStep_post_idle answer deleted hleft]
          exact h
      | cons e rest =>
          have hmove : (s.pass.posted ++ [(e, answer)]).map Prod.fst ++ rest =
              s.pass.posted.map Prod.fst ++ s.pass.left := by simp [hleft]
          unfold DrainPass.Sorted at h
          rw [← hmove] at h
          by_cases hanswer : answer = .success
          · rw [hanswer] at h ⊢
            rw [outboundStep_post_success deleted hleft]
            exact h
          · rw [outboundStep_post_failure deleted hleft hanswer]
            exact h.sublist ((List.nil_sublist rest).append_left _)

end Steps

/-! ## Order of delivery -/

/-- Every file stands under its name, and is one that the applier has written. -/
def Outbound.Named (machineId : HostId) (s : Outbound) : Prop :=
  ∀ name f, s.files.lookup name = some f →
    name = filenameFor f ∧ ∃ rid payload now, f = queuedEvent machineId rid payload now

/-- No file has the number of another one while a later event of its rollout waits. -/
def Outbound.Unshadowed (s : Outbound) : Prop :=
  ∀ x ∈ s.files.rows, ∀ y ∈ s.files.rows, ∀ z ∈ s.files.rows,
    x.2.rolloutId = z.2.rolloutId → x.2.seq < z.2.seq → y.2.seq = x.2.seq → y.2 = x.2

instance (s : Outbound) : Decidable s.Unshadowed :=
  inferInstanceAs (Decidable (∀ x ∈ s.files.rows, ∀ y ∈ s.files.rows, ∀ z ∈ s.files.rows, _))

/-- Where the queue tells rollouts apart. An event that is written finds no file of another
rollout with its number and its kind whose id reads alike in a file name; and a scan finds no
event that another one with its number could hide before a later one of its rollout. -/
def RolloutsApart (s : Outbound) : OutboundInput → Prop
  | .enqueue rid payload _ => ∀ file ∈ s.files.rows, file.2.seq = payload.seq →
      file.2.eventKind = outboundEventKind payload →
      sanitize file.2.rolloutId.asStr = sanitize rid.asStr → file.2.rolloutId = rid
  | .scan _ => s.pass.left = [] → s.Unshadowed
  | .post _ _ | .restart => True

instance (s : Outbound) : DecidablePred (RolloutsApart s)
  | .enqueue _ _ _ => inferInstanceAs (Decidable (∀ file ∈ s.files.rows, _))
  | .scan _ => inferInstanceAs (Decidable (s.pass.left = [] → s.Unshadowed))
  | .post _ _ | .restart => isTrue trivial

/-- What holds of a queue whose rollouts are told apart. -/
structure Outbound.Tidy (machineId : HostId) (s : Outbound) : Prop where
  named : s.Named machineId
  sorted : s.pass.Sorted
  complete : ∀ z ∈ s.pass.left, ∀ x ∈ s.pass.found, x.rolloutId = z.rolloutId → x.seq < z.seq →
    x ∈ s.pass.posted.map Prod.fst ++ s.pass.left
  held : ∀ e ∈ s.pass.left, ∃ f, s.files.lookup (filenameFor e) = some f ∧ f.key = e.key

section Order

variable {machineId : HostId} {s : Outbound}

/-- An event takes the file of an event with its rollout and number only. -/
theorem key_of_filenameFor {rid : RolloutId} {payload : OutboundAgentEvent} {now : Time}
    (hnamed : s.Named machineId) (hapart : RolloutsApart s (.enqueue rid payload now))
    {f : QueuedEvent} (hf : s.files.lookup (filenameFor (queuedEvent machineId rid payload now)) =
      some f) : f.key = (rid, payload.seq) := by
  obtain ⟨hname, rid', payload', now', rfl⟩ := hnamed _ _ hf
  obtain ⟨hseq, hrid, hkind⟩ := filenameFor_queuedEvent_inj hname
  have hsame := hapart _ (Table.mem_rows.mpr hf) hseq.symm hkind.symm hrid.symm
  exact Prod.ext hsame hseq.symm

theorem Outbound.Named.insert (h : s.Named machineId) (rid : RolloutId)
    (payload : OutboundAgentEvent) (now : Time) :
    (outboundStep machineId s (.enqueue rid payload now)).1.Named machineId := by
  intro name f hf
  simp only [outboundStep, Table.lookup_insert_eq] at hf
  split at hf
  · rename_i hname
    cases hf
    exact ⟨hname, rid, payload, now, rfl⟩
  · exact h name f hf

theorem lookup_of_erase {files : Table String QueuedEvent} {name name' : String}
    {f : QueuedEvent} (h : (files.erase name').lookup name = some f) :
    files.lookup name = some f := by
  by_cases hname : name = name'
  · rw [hname, AList.lookup_erase] at h
    cases h
  · rwa [AList.lookup_erase_ne hname] at h

theorem Outbound.Tidy.enqueue (h : s.Tidy machineId) {rid : RolloutId}
    {payload : OutboundAgentEvent} {now : Time}
    (hapart : RolloutsApart s (.enqueue rid payload now)) :
    (outboundStep machineId s (.enqueue rid payload now)).1.Tidy machineId := by
  refine ⟨h.named.insert rid payload now, h.sorted, h.complete, ?_⟩
  intro e he
  obtain ⟨f, hf, hkey⟩ := h.held e he
  simp only [outboundStep, Table.lookup_insert_eq]
  split
  · rename_i hname
    rw [hname] at hf
    exact ⟨_, rfl, (key_of_filenameFor h.named hapart hf).symm.trans hkey⟩
  · exact ⟨f, hf, hkey⟩

theorem Outbound.Tidy.scan (h : s.Tidy machineId) {order : String → Nat}
    (hapart : RolloutsApart s (.scan order)) :
    (outboundStep machineId s (.scan order)).1.Tidy machineId := by
  cases hleft : s.pass.left with
  | cons e rest =>
      rw [outboundStep_scan_busy order hleft]
      exact h
  | nil =>
      have hsorted := outboundStep_sorted machineId h.sorted (.scan order)
      rw [outboundStep_scan order hleft] at hsorted ⊢
      have hfile : ∀ e ∈ scanPending order s.files, ∃ name, s.files.lookup name = some e :=
        fun e he => (pendingBySeq_lookup (mem_scanPending.mp he)).2
      refine ⟨h.named, hsorted, ?_, ?_⟩
      · intro z hz x hx hrid hlt
        obtain ⟨namez, hnamez⟩ := hfile z hz
        obtain ⟨⟨namex, x'⟩, hrow, rfl⟩ := List.mem_map.mp hx
        have hnamex := Table.mem_rows.mp hrow
        -- an event before one of its rollout is hidden by no other
        exact mem_scanPending_of_unique hnamex fun namey y hnamey hseq =>
          hapart hleft _ hrow _ (Table.mem_rows.mpr hnamey) _ (Table.mem_rows.mpr hnamez) hrid hlt
            hseq
      · intro e he
        obtain ⟨name, hname⟩ := hfile e he
        have heq := (h.named name e hname).1
        exact ⟨e, heq ▸ hname, rfl⟩

theorem Outbound.Tidy.post (h : s.Tidy machineId) (answer : Answer) (deleted : Bool) :
    (outboundStep machineId s (.post answer deleted)).1.Tidy machineId := by
  have hsorted := outboundStep_sorted machineId h.sorted (.post answer deleted)
  cases hleft : s.pass.left with
  | nil =>
      rw [outboundStep_post_idle answer deleted hleft]
      exact h
  | cons e rest =>
      by_cases hanswer : answer = .success
      · rw [hanswer, outboundStep_post_success deleted hleft] at hsorted ⊢
        have hrest : ∀ z ∈ rest, z ∈ s.pass.left := fun z hz => hleft ▸ List.mem_cons_of_mem _ hz
        refine ⟨?_, hsorted, ?_, ?_⟩
        · intro name f hf
          cases deleted with
          | false => exact h.named name f hf
          | true => exact h.named name f (lookup_of_erase hf)
        · intro z hz x hx hrid hlt
          have hmem := h.complete z (hrest z hz) x hx hrid hlt
          simpa [hleft] using hmem
        · intro z hz
          obtain ⟨f, hf, hkey⟩ := h.held z (hrest z hz)
          refine ⟨f, ?_, hkey⟩
          cases deleted with
          | false => exact hf
          | true =>
              -- the file of the posted event is not that of a later one
              have hlt : e.seq < z.seq :=
                hsorted.posted_lt hz (e, .success) (List.mem_append_right _ List.mem_cons_self)
              obtain ⟨f', hf', hkey'⟩ := h.held e (hleft ▸ List.mem_cons_self)
              have hne : filenameFor z ≠ filenameFor e := by
                intro hname
                rw [← hname, hf] at hf'
                cases hf'
                have hseq := congrArg Prod.snd (hkey.symm.trans hkey')
                simp only [QueuedEvent.key] at hseq
                omega
              exact (AList.lookup_erase_ne hne).trans hf
      · rw [outboundStep_post_failure deleted hleft hanswer] at hsorted ⊢
        exact ⟨h.named, hsorted, by simp, by simp⟩

end Order

/-- Two events of one rollout and one of another, with three numbers. -/
def spreadNumbers : List OutboundInput :=
  [.enqueue ⟨"a@r1"⟩ (.dispatchAck "old" 0 1) 0, .enqueue ⟨"b@r1"⟩ (.dispatchAck "old" 0 2) 0,
   .enqueue ⟨"a@r1"⟩ (.activationStarted 0 "switch-to-configuration" 3) 0, .scan fun _ => 0,
   .post .success true, .post .networkFailure false, .restart, .scan fun _ => 0,
   .post .success true, .post .success true]

/-- No two files have one number. -/
def Outbound.Numbered (s : Outbound) : Prop :=
  ∀ x ∈ s.files.rows, ∀ y ∈ s.files.rows, x.2.seq = y.2.seq → x.2 = y.2

instance (s : Outbound) : Decidable s.Numbered :=
  inferInstanceAs (Decidable (∀ x ∈ s.files.rows, ∀ y ∈ s.files.rows, _))

/-- No event is answered with a 4xx, and no scan finds two events with one number. -/
def NoneRejected (s : Outbound) : OutboundInput → Prop
  | .post answer _ => s.pass.left ≠ [] → answer ≠ .clientError
  | .scan _ => s.pass.left = [] → s.Numbered
  | .enqueue _ _ _ | .restart => True

instance (s : Outbound) : DecidablePred (NoneRejected s)
  | .post answer _ => inferInstanceAs (Decidable (s.pass.left ≠ [] → answer ≠ .clientError))
  | .scan _ => inferInstanceAs (Decidable (s.pass.left = [] → s.Numbered))
  | .enqueue _ _ _ | .restart => isTrue trivial

/-- An event that was answered with a 4xx is never posted again. -/
def NeverRetried (posts : List (QueuedEvent × Answer)) : Prop :=
  posts.Pairwise fun p q => p.2 = .clientError → q.1 ≠ p.1

/-- Every event that the pass found was posted, or one before it met a failure that may pass. -/
def DrainPass.Through (p : DrainPass) : Prop :=
  ∀ x ∈ p.found, (∃ answer, (x, answer) ∈ p.posted) ∨
    ∃ q ∈ p.posted, q.1.seq < x.seq ∧ (q.2 = .networkFailure ∨ q.2 = .serverError)

/-- A pass that an answer ends is through. -/
def EndsThrough (machineId : HostId) (s : Outbound) (i : OutboundInput) : Prop :=
  ∀ answer deleted, i = .post answer deleted →
    (outboundStep machineId s i).1.pass.left = [] → (outboundStep machineId s i).1.pass.Through

section Rejected

variable {machineId : HostId} {s : Outbound}

/-- What holds of a pass in which no event is rejected. -/
structure DrainPass.Untroubled (p : DrainPass) : Prop where
  sorted : p.Sorted
  through : ∀ x ∈ p.found, x ∈ p.left ∨ (∃ answer, (x, answer) ∈ p.posted) ∨
    ∃ q ∈ p.posted, q.1.seq < x.seq ∧ (q.2 = .networkFailure ∨ q.2 = .serverError)

theorem outboundStep_untroubled (h : s.pass.Untroubled) {i : OutboundInput}
    (hnone : NoneRejected s i) : (outboundStep machineId s i).1.pass.Untroubled := by
  refine ⟨outboundStep_sorted machineId h.sorted i, ?_⟩
  cases i with
  | enqueue rid payload now => exact h.through
  | restart => simp [outboundStep]
  | scan order =>
      cases hleft : s.pass.left with
      | cons e rest =>
          rw [outboundStep_scan_busy order hleft]
          exact h.through
      | nil =>
          rw [outboundStep_scan order hleft]
          intro x hx
          obtain ⟨⟨name, x'⟩, hrow, rfl⟩ := List.mem_map.mp hx
          exact .inl (mem_scanPending_of_unique (Table.mem_rows.mp hrow)
            fun _ _ hrow' hseq => hnone hleft _ (Table.mem_rows.mpr hrow') _ hrow hseq)
  | post answer deleted =>
      cases hleft : s.pass.left with
      | nil =>
          rw [outboundStep_post_idle answer deleted hleft]
          exact h.through
      | cons e rest =>
          have hkept : ∀ x ∈ s.pass.found, x = e ∨ x ∈ rest ∨
              (∃ a, (x, a) ∈ s.pass.posted ++ [(e, answer)]) ∨
              ∃ q ∈ s.pass.posted ++ [(e, answer)], q.1.seq < x.seq ∧
                (q.2 = .networkFailure ∨ q.2 = .serverError) := by
            intro x hx
            rcases h.through x hx with hwait | ⟨a, ha⟩ | ⟨q, hq, hqx⟩
            · rw [hleft] at hwait
              rcases List.mem_cons.mp hwait with heq | hlater
              · exact .inl heq
              · exact .inr (.inl hlater)
            · exact .inr (.inr (.inl ⟨a, List.mem_append_left _ ha⟩))
            · exact .inr (.inr (.inr ⟨q, List.mem_append_left _ hq, hqx⟩))
          by_cases hanswer : answer = .success
          · rw [hanswer] at hkept ⊢
            rw [outboundStep_post_success deleted hleft]
            intro x hx
            rcases hkept x hx with rfl | hlater | hdone
            · exact .inr (.inl ⟨_, List.mem_append_right _ List.mem_cons_self⟩)
            · exact .inl hlater
            · exact .inr hdone
          · rw [outboundStep_post_failure deleted hleft hanswer]
            have hfailed : answer = .networkFailure ∨ answer = .serverError := by
              have hclient := hnone (by rw [hleft]; exact List.cons_ne_nil _ _)
              cases answer <;> simp_all
            intro x hx
            rcases hkept x hx with rfl | hlater | hdone
            · exact .inr (.inl ⟨_, List.mem_append_right _ List.mem_cons_self⟩)
            · -- the failure comes before what it keeps back
              have hsorted := (List.pairwise_append.mp h.sorted).2.1
              rw [hleft] at hsorted
              have hlt := (List.pairwise_cons.mp hsorted).1 x hlater
              exact .inr (.inr ⟨(e, answer), List.mem_append_right _ List.mem_cons_self, hlt,
                hfailed⟩)
            · exact .inr hdone

/-- A step posts nothing, or the next event of its pass with the answer that it reads. -/
theorem outboundStep_posts (s : Outbound) (i : OutboundInput) :
    ∀ p ∈ (outboundStep machineId s i).2,
      ∃ answer deleted, i = .post answer deleted ∧ s.pass.left ≠ [] ∧ p.2 = answer := by
  intro p hp
  cases i with
  | enqueue | restart => cases hp
  | scan order =>
      simp only [outboundStep] at hp
      split at hp <;> cases hp
  | post answer deleted =>
      refine ⟨answer, deleted, rfl, ?_⟩
      cases hleft : s.pass.left with
      | nil =>
          rw [outboundStep_post_idle answer deleted hleft] at hp
          cases hp
      | cons e rest =>
          refine ⟨List.cons_ne_nil _ _, ?_⟩
          by_cases hanswer : answer = .success
          · rw [hanswer, outboundStep_post_success deleted hleft] at hp
            rw [List.mem_singleton.mp hp, hanswer]
          · rw [outboundStep_post_failure deleted hleft hanswer] at hp
            rw [List.mem_singleton.mp hp]

/-- **Where no event blocks the others.** Whatever the directory holds, and whatever is written
between the passes: in a run in which no event is answered with a 4xx and no scan finds two events
with one number, no rejected event is posted again, and every pass is through. -/
theorem drain_not_blocked (machineId : HostId) (files : Table String QueuedEvent)
    {is : List OutboundInput}
    (hnone : (outboundMachine machineId).Meets NoneRejected (.holding files) is) :
    NeverRetried ((outboundMachine machineId).trace (.holding files) is) ∧
      (outboundMachine machineId).Meets (EndsThrough machineId) (.holding files) is := by
  have hstart : (Outbound.holding files).pass.Untroubled :=
    ⟨List.Pairwise.nil, by simp [Outbound.holding]⟩
  constructor
  · have hanswers : ∀ p ∈ (outboundMachine machineId).trace (.holding files) is,
        p.2 ≠ .clientError := by
      rw [Machine.forall_mem_trace]
      refine (outboundMachine machineId).meets_of_invariant (P := fun _ => True)
        (fun _ _ _ _ => trivial) ?_ trivial hnone
      intro s i _ hi p hp
      obtain ⟨answer, deleted, rfl, hleft, heq⟩ := outboundStep_posts s i p hp
      rw [heq]
      exact hi hleft
    exact List.Pairwise.imp_of_mem (R := fun _ _ => True)
      (fun hp _ _ hrejected => absurd hrejected (hanswers _ hp)) (List.pairwise_of_forall (by simp))
  · refine (outboundMachine machineId).meets_of_invariant
      (P := fun s => s.pass.Untroubled) ?_ ?_ hstart hnone
    · exact fun s i h hi => outboundStep_untroubled h hi
    · intro s i h hi answer deleted _ hend x hx
      rcases (outboundStep_untroubled h hi).through x hx with hwait | hdone
      · rw [hend] at hwait
        cases hwait
      · exact hdone

end Rejected

set_option maxRecDepth 8000 in
theorem spreadNumbers_not_blocked :
    NeverRetried ((outboundMachine "host").trace (.holding ∅) spreadNumbers) ∧
      (outboundMachine "host").Meets (EndsThrough "host") (.holding ∅) spreadNumbers :=
  drain_not_blocked "host" ∅ (by decide)

/-- The first of two events is rejected, in two passes. -/
def rejectedFirst : List OutboundInput :=
  [.enqueue ⟨"a@r1"⟩ (.dispatchAck "old" 0 1) 0,
   .enqueue ⟨"a@r1"⟩ (.activationStarted 0 "switch-to-configuration" 2) 0, .scan fun _ => 0,
   .post .clientError true, .scan fun _ => 0, .post .clientError true]

set_option maxRecDepth 8000 in
/-- It is posted again, and the second event is never posted. -/
theorem rejectedFirst_blocks :
    ¬ NeverRetried ((outboundMachine "host").trace (.holding ∅) rejectedFirst) ∧
      ¬ (outboundMachine "host").Meets (EndsThrough "host") (.holding ∅) rejectedFirst := by
  constructor
  · unfold NeverRetried
    decide
  · intro h
    have hthrough := h.2.2.2.1 .clientError true rfl rfl
      (queuedEvent "host" ⟨"a@r1"⟩ (.activationStarted 0 "switch-to-configuration" 2) 0)
      (by decide)
    rcases hthrough with ⟨answer, hposted⟩ | ⟨q, hq, -, hfailed⟩
    · cases answer <;> exact absurd hposted (by decide)
    · rw [List.mem_singleton.mp hq] at hfailed
      exact absurd hfailed (by decide)

end Nixfleet
