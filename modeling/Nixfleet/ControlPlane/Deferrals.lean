import Nixfleet.ControlPlane.Db

set_option autoImplicit false

/-!
# The view of the deferred hosts

`projectDeferrals` reads the gate decisions of the event log, at most `scanLimit` of them, oldest
first, and keeps the last one of each pair of a host and a rollout. What it reads of a longer log is
its beginning. `mem_projectDeferrals` says which entries it gives; the rest of the module compares
them with the whole log.
-/

namespace Nixfleet

/-! ## The query -/

/-- `EventLogKind`. -/
inductive EventLogKind where
  | agentEvent
  | planAction
  | effect
  | gateDecision
  | verifyOutcome
  | manifestPoll
  | rolloutEvent
deriving DecidableEq, Repr

/-- The kind under which a payload is logged. -/
def LogPayload.kind : LogPayload → EventLogKind
  | .openRollout .. => .planAction
  | .queueDispatch .. => .planAction
  | .gateDecision .. => .gateDecision
  | .insertQuarantine .. => .effect
  | .recordTransition .. => .effect
  | .recordRolloutTransition .. => .effect
  | .agentEvent _ => .agentEvent
  | .rolloutEvent _ => .rolloutEvent

/-- `query_by_kind`, by ascending `seq`. -/
def queryByKind (log : List EventLogEntry) (kind : EventLogKind) (limit : Nat) :
    List EventLogEntry :=
  (log.filter fun row => row.payload.kind = kind).take limit

/-! ## The projection -/

/-- `SCAN_LIMIT`. -/
def scanLimit : Nat := 1024

/-- An entry of the response. -/
structure Deferral where
  host : HostId
  rollout : RolloutId
  blockedBy : String
  reason : String
  observedAt : Time
deriving DecidableEq, Repr

/-- The pair that an entry is about. -/
def Deferral.pair (d : Deferral) : HostId × RolloutId := (d.host, d.rollout)

/-- What a row of the log says, if it is a gate decision. -/
def EventLogEntry.deferral (row : EventLogEntry) : Option Deferral :=
  match row.payload with
  | .gateDecision gate reason host rollout => some ⟨host, rollout, gate, reason, row.ts⟩
  | _ => none

/-- The pairs already seen, and the entries so far. -/
structure DeferralScan where
  seen : List (HostId × RolloutId)
  deferrals : List Deferral

/-- One turn of the loop. -/
def DeferralScan.next (scan : DeferralScan) (row : EventLogEntry) : DeferralScan :=
  match row.deferral with
  | none => scan
  | some d =>
      if d.host = "" ∨ d.rollout.asStr = "" then scan
      else if scan.seen.contains d.pair then scan
      else ⟨d.pair :: scan.seen, scan.deferrals ++ [d]⟩

/-- `project_deferrals`; `none` when the query fails. -/
def projectDeferrals (db : Option Db) (queryFails : Bool) : Option (List Deferral) :=
  match db with
  | none => some []
  | some db =>
      if queryFails then none
      else
        some ((queryByKind db.eventLog .gateDecision scanLimit).reverse.foldl DeferralScan.next
          ⟨[], []⟩).deferrals

/-! ## What is claimed of the view -/

/-- All gate decisions of the log, oldest first. -/
def gateDecisions (log : List EventLogEntry) : List Deferral := log.filterMap (·.deferral)

/-- The last of some decisions about a pair. -/
def lastDecision (decisions : List Deferral) (pair : HostId × RolloutId) : Option Deferral :=
  (decisions.filter (·.pair = pair)).getLast?

/-- The most recent decisions, as many as the view reads. -/
def recentDecisions (log : List EventLogEntry) : List Deferral :=
  (gateDecisions log).drop ((gateDecisions log).length - scanLimit)

/-- The view gives every pair its last decision, and leaves out no recent one. -/
structure DeferralsCurrent (db : Db) : Prop where
  current : ∀ deferrals, projectDeferrals (some db) false = some deferrals → ∀ d ∈ deferrals,
    ∃ last, lastDecision (gateDecisions db.eventLog) d.pair = some last ∧
      d.blockedBy = last.blockedBy ∧ d.reason = last.reason
  complete : ∀ deferrals, projectDeferrals (some db) false = some deferrals →
    ∀ recent ∈ recentDecisions db.eventLog, ∃ d ∈ deferrals, d.pair = recent.pair

/-- The entry is about a host and a rollout that have a name. -/
def Deferral.Named (d : Deferral) : Prop := d.host ≠ "" ∧ d.rollout.asStr ≠ ""

/-- The decisions that the view does not read change nothing: of a pair that it reads, the last one
has the gate and the reason of the last one read; a pair that it does not read has none among the
recent ones. -/
structure LateDecisionsSettled (log : List EventLogEntry) : Prop where
  settled : ∀ late ∈ (gateDecisions log).drop scanLimit, late.Named →
    ∀ scanned, lastDecision ((gateDecisions log).take scanLimit) late.pair = some scanned →
      ∃ last, lastDecision (gateDecisions log) late.pair = some last ∧
        scanned.blockedBy = last.blockedBy ∧ scanned.reason = last.reason
  unread : ∀ late ∈ (gateDecisions log).drop scanLimit,
    lastDecision ((gateDecisions log).take scanLimit) late.pair = none →
      ∀ recent ∈ recentDecisions log, recent.pair ≠ late.pair
  named : ∀ recent ∈ recentDecisions log, recent.Named

/-! ## What the loop keeps -/

/-- Entries about one pair are named alike. -/
theorem Deferral.named_congr {d e : Deferral} (h : d.pair = e.pair) : d.Named ↔ e.Named := by
  obtain ⟨hhost, hrollout⟩ := Prod.mk.inj h
  rw [Deferral.Named, Deferral.Named, hhost, hrollout]

/-- **The loop.** It adds, for each pair that it has not seen, the first entry about it. -/
theorem mem_foldl_next {rows : List EventLogEntry} {scan : DeferralScan} {d : Deferral} :
    d ∈ (rows.foldl DeferralScan.next scan).deferrals ↔
      d ∈ scan.deferrals ∨
        d.Named ∧ d.pair ∉ scan.seen ∧
          (rows.filterMap (·.deferral)).find? (·.pair = d.pair) = some d := by
  induction rows generalizing scan with
  | nil => simp
  | cons row rest ih =>
      rw [List.foldl_cons, ih]
      cases hrow : row.deferral with
      | none =>
          rw [List.filterMap_cons_none hrow, DeferralScan.next, hrow]
      | some e =>
          rw [List.filterMap_cons_some hrow, DeferralScan.next, hrow, List.find?_cons]
          by_cases hpair : e.pair = d.pair
          · have hnamed := Deferral.named_congr hpair
            simp only [hpair, decide_true, Option.some.injEq]
            by_cases hskip : e.host = "" ∨ e.rollout.asStr = ""
            · -- the entry is skipped, and no other one about its pair counts
              have hunnamed : ¬ d.Named := by
                rw [← hnamed, Deferral.Named, ← not_or, not_not]
                exact hskip
              simp [hskip, hunnamed]
            · have hnamed' : d.Named := hnamed.mp (not_or.mp hskip)
              by_cases hseen : d.pair ∈ scan.seen
              · simp [hskip, hseen]
              · have hcomm : d = e ↔ e = d := eq_comm
                simp [hskip, hseen, hnamed', hcomm]
          · simp only [hpair, decide_false]
            by_cases hskip : e.host = "" ∨ e.rollout.asStr = ""
            · simp [hskip]
            · by_cases hseen : e.pair ∈ scan.seen
              · simp [hskip, hseen]
              · have hne : d ≠ e := fun heq => hpair (heq ▸ rfl)
                have hpair' : ¬ d.pair = e.pair := fun heq => hpair heq.symm
                simp [hskip, hseen, hne, hpair']

theorem isSome_deferral {row : EventLogEntry} :
    row.deferral.isSome = true ↔ row.payload.kind = .gateDecision := by
  unfold EventLogEntry.deferral
  cases row.payload <;> simp [LogPayload.kind]

/-- The rows of the query are the first gate decisions. -/
theorem filterMap_queryByKind (log : List EventLogEntry) (limit : Nat) :
    (queryByKind log .gateDecision limit).filterMap (·.deferral) =
      (gateDecisions log).take limit := by
  unfold queryByKind gateDecisions
  induction log generalizing limit with
  | nil => simp
  | cons row rest ih =>
      cases hrow : row.deferral with
      | none =>
          have hkind : ¬ row.payload.kind = .gateDecision := by
            rw [← isSome_deferral, hrow]
            simp
          rw [List.filterMap_cons_none hrow, List.filter_cons_of_neg (by simpa using hkind), ih]
      | some d =>
          have hkind : row.payload.kind = .gateDecision := by
            rw [← isSome_deferral, hrow, Option.isSome_some]
          rw [List.filterMap_cons_some hrow, List.filter_cons_of_pos (by simpa using hkind)]
          cases limit with
          | zero => rfl
          | succ limit =>
              rw [List.take_succ_cons, List.take_succ_cons, List.filterMap_cons_some hrow, ih]

/-- **The entries of the view.** -/
theorem mem_projectDeferrals {db : Db} {deferrals : List Deferral}
    (h : projectDeferrals (some db) false = some deferrals) {d : Deferral} :
    d ∈ deferrals ↔
      d.Named ∧ lastDecision ((gateDecisions db.eventLog).take scanLimit) d.pair = some d := by
  cases h
  rw [mem_foldl_next, List.filterMap_reverse, filterMap_queryByKind, lastDecision,
    List.getLast?_filter]
  simp

/-! ## When the view is current -/

theorem lastDecision_append (before after : List Deferral) (pair : HostId × RolloutId) :
    lastDecision (before ++ after) pair =
      (lastDecision after pair).or (lastDecision before pair) := by
  rw [lastDecision, List.filter_append, List.getLast?_append]
  rfl

/-- The last decision about a pair is one about it. -/
theorem lastDecision_eq_some {decisions : List Deferral} {pair : HostId × RolloutId}
    {d : Deferral} (h : lastDecision decisions pair = some d) : d ∈ decisions ∧ d.pair = pair := by
  obtain ⟨hmem, hpair⟩ := List.mem_filter.mp (List.mem_of_getLast? h)
  exact ⟨hmem, of_decide_eq_true hpair⟩

theorem lastDecision_eq_none {decisions : List Deferral} {pair : HostId × RolloutId} :
    lastDecision decisions pair = none ↔ ∀ d ∈ decisions, d.pair ≠ pair := by
  rw [lastDecision, List.getLast?_eq_none_iff, List.filter_eq_nil_iff]
  simp

/-- A pair with a name is in the view iff some decision about it is read. -/
theorem exists_mem_projectDeferrals {db : Db} {deferrals : List Deferral}
    (h : projectDeferrals (some db) false = some deferrals) {about : Deferral} :
    (∃ d ∈ deferrals, d.pair = about.pair) ↔
      about.Named ∧
        lastDecision ((gateDecisions db.eventLog).take scanLimit) about.pair ≠ none := by
  constructor
  · rintro ⟨d, hd, hpair⟩
    obtain ⟨hdnamed, hlast⟩ := (mem_projectDeferrals h).mp hd
    rw [hpair] at hlast
    exact ⟨(Deferral.named_congr hpair).mp hdnamed, by simp [hlast]⟩
  · rintro ⟨habout, hsome⟩
    obtain ⟨d, hlast⟩ := Option.ne_none_iff_exists'.mp hsome
    have hpair := (lastDecision_eq_some hlast).2
    refine ⟨d, (mem_projectDeferrals h).mpr ⟨(Deferral.named_congr hpair).mpr habout, ?_⟩, hpair⟩
    rw [hpair, hlast]

/-- A decision that is not read is one of the late ones. -/
theorem mem_drop_of_recent {log : List EventLogEntry} {recent : Deferral}
    (hrecent : recent ∈ recentDecisions log)
    (hnone : lastDecision ((gateDecisions log).take scanLimit) recent.pair = none) :
    recent ∈ (gateDecisions log).drop scanLimit := by
  have hmem : recent ∈ gateDecisions log := List.mem_of_mem_drop hrecent
  rw [← List.take_append_drop scanLimit (gateDecisions log), List.mem_append] at hmem
  exact hmem.resolve_left fun htake => lastDecision_eq_none.mp hnone recent htake rfl

/-- **When the view is current.** It is, iff the decisions beyond those that it reads change
nothing. -/
theorem deferralsCurrent_iff (db : Db) :
    DeferralsCurrent db ↔ LateDecisionsSettled db.eventLog := by
  have hproject : ∃ deferrals, projectDeferrals (some db) false = some deferrals := ⟨_, rfl⟩
  obtain ⟨deferrals, hproject⟩ := hproject
  constructor
  · intro h
    have hexists := fun recent hrecent =>
      (exists_mem_projectDeferrals hproject).mp (h.complete _ hproject recent hrecent)
    refine ⟨fun late hlate hnamed scanned hscanned => ?_, fun late hlate hnone recent hrecent heq =>
      ?_, fun recent hrecent => (hexists recent hrecent).1⟩
    · have hpair := (lastDecision_eq_some hscanned).2
      have hmem : scanned ∈ deferrals := by
        refine (mem_projectDeferrals hproject).mpr ⟨(Deferral.named_congr hpair).mpr hnamed, ?_⟩
        rw [hpair, hscanned]
      obtain ⟨last, hlast, hsame⟩ := h.current _ hproject scanned hmem
      rw [hpair] at hlast
      exact ⟨last, hlast, hsame⟩
    · rw [← heq] at hnone
      exact (hexists recent hrecent).2 hnone
  · intro h
    constructor
    · intro deferrals' hproject' d hd
      obtain ⟨hnamed, hscanned⟩ := (mem_projectDeferrals hproject').mp hd
      have hsplit := lastDecision_append ((gateDecisions db.eventLog).take scanLimit)
        ((gateDecisions db.eventLog).drop scanLimit) d.pair
      rw [List.take_append_drop] at hsplit
      cases hlate : lastDecision ((gateDecisions db.eventLog).drop scanLimit) d.pair with
      | none =>
          rw [hlate, Option.none_or, hscanned] at hsplit
          exact ⟨d, hsplit, rfl, rfl⟩
      | some late =>
          obtain ⟨hmem, hpair⟩ := lastDecision_eq_some hlate
          have hlateNamed := (Deferral.named_congr hpair).mpr hnamed
          rw [← hpair] at hscanned ⊢
          exact h.settled late hmem hlateNamed d hscanned
    · intro deferrals' hproject' recent hrecent
      refine (exists_mem_projectDeferrals hproject').mpr ⟨h.named recent hrecent, fun hnone => ?_⟩
      exact h.unread recent (mem_drop_of_recent hrecent hnone) hnone recent hrecent rfl

/-! ## A long log -/

theorem lastDecision_replicate (d : Deferral) {n : Nat} (hn : 0 < n) :
    lastDecision (List.replicate n d) d.pair = some d := by
  rw [lastDecision, List.getLast?_filter, List.reverse_replicate, List.find?_replicate]
  simp [Nat.pos_iff_ne_zero.mp hn]

/-- A gate decision about the host `a`. -/
def blockedBy (gate : String) : EventLogEntry :=
  ⟨0, some "a", some (.new "stable" "r1"), .gateDecision gate "" "a" (.new "stable" "r1")⟩

/-- The host has been waiting for its wave long enough to fill the scan, and is now held back by
a probe. -/
def longWait : Db :=
  { Db.empty with
    eventLog := List.replicate scanLimit (blockedBy "wave-promotion") ++
      [blockedBy "compliance-wave"] }

/-- The view still names the wave. -/
theorem longWait_not_current : ¬ DeferralsCurrent longWait := by
  intro h
  let waiting : Deferral := ⟨"a", .new "stable" "r1", "wave-promotion", "", 0⟩
  have hrows : gateDecisions longWait.eventLog = List.replicate scanLimit waiting ++
      [⟨"a", .new "stable" "r1", "compliance-wave", "", 0⟩] := by
    simp only [gateDecisions, longWait, List.filterMap_append]
    have hwaits : (blockedBy "wave-promotion").deferral = some waiting := rfl
    rw [List.filterMap_replicate_of_some hwaits]
    rfl
  have hscanned : lastDecision ((gateDecisions longWait.eventLog).take scanLimit) waiting.pair =
      some waiting := by
    rw [hrows, List.take_left' List.length_replicate]
    exact lastDecision_replicate waiting (by decide)
  have hwaiting : waiting.Named := ⟨by decide, by decide⟩
  obtain ⟨last, hlast, hgate, -⟩ := h.current _ rfl waiting
    ((mem_projectDeferrals rfl).mpr ⟨hwaiting, hscanned⟩)
  rw [hrows, lastDecision_append] at hlast
  cases hlast
  exact absurd hgate (by decide)

end Nixfleet
