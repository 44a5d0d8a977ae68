import Mathlib.Data.List.Perm.Basic
import Nixfleet.Lib.Machine
import Nixfleet.Auth.Identity

set_option autoImplicit false

/-!
# Bootstrap nonces over whole runs

Many `enroll` requests run side by side, each in its own step, while the allowlist is
refreshed and the hourly sweep deletes old rows of the replay table. Two requests cannot both
record a nonce, because the row is its primary key; but the sweep keeps a row for a day,
whatever the token's validity, and a request that comes after it records the nonce anew.
-/

namespace Nixfleet

/-- The last step of `enroll` that a request has passed. -/
inductive EnrollStage where
  | seen
  | allowed
  | verified (csr : CsrParams) (csrCn : String)
  | bound
  | recorded
deriving DecidableEq, Repr

/-- A request on its way, with the handler's reading of the clock. -/
structure PendingEnroll where
  req : EnrollRequest
  now : Time
  stage : EnrollStage
deriving DecidableEq, Repr

def PendingEnroll.nonce (p : PendingEnroll) : String := p.req.token.claims.nonce

/-- The server, the requests on their way and the nonces of the certificates issued. -/
structure EnrollServer where
  st : AppState
  pending : List PendingEnroll
  issued : List String

inductive EnrollEvent where
  | arrive (req : EnrollRequest)
  /-- The `k`-th request on its way takes its next step. -/
  | advance (k : Nat)
  | refreshAllowlist (view : Table String BootstrapNonceEntry)
  /-- The trust file, the verified fleet or the CA signer is replaced. -/
  | reconfigure (trust : BootstrapToken → Time → Except TrustVerifyError Unit)
      (verifiedFleet : Option FleetResolved) (caSigner : Option CaSigner)
  | pruneSweep

structure EnrollInput where
  event : EnrollEvent
  now : Time
  faults : TokenFaults

def EnrollInput.plain (event : EnrollEvent) (now : Time) : EnrollInput :=
  ⟨event, now, ⟨false, false⟩⟩

/-- `TOKEN_REPLAY_RETENTION_HOURS`. -/
def tokenReplayRetentionHours : Int := 24

/-- The next step of one request: the server's state, where the request stands then, and the
nonce of the certificate if the step issues one. -/
def advanceEnroll (given : Given) (st : AppState) (faults : TokenFaults) (now : Time)
    (p : PendingEnroll) : AppState × Option PendingEnroll × Option String :=
  match p.stage with
  | .seen =>
      match enrollAllowed st p.req p.now with
      | .ok () => (st, some { p with stage := .allowed }, none)
      | .error _ => (st, none, none)
  | .allowed =>
      match enrollVerified given st p.req p.now with
      | .ok (csr, csrCn) => (st, some { p with stage := .verified csr csrCn }, none)
      | .error _ => (st, none, none)
  | .verified csr csrCn =>
      match enrollBound given st csr csrCn with
      | .ok () => (st, some { p with stage := .bound }, none)
      | .error _ => (st, none, none)
  | .bound =>
      match enrollRecorded st faults p.req now with
      | .ok tokens => ({ st with db := some tokens }, some { p with stage := .recorded }, none)
      | .error _ => (st, none, none)
  | .recorded =>
      match enrollIssued given st p.req.csrPem p.now with
      | .ok _ => (st, none, some p.nonce)
      | .error _ => (st, none, none)

/-- One step of the server. -/
def enrollStep (given : Given) (s : EnrollServer) (i : EnrollInput) :
    EnrollServer × List String :=
  match i.event with
  | .arrive req =>
      match enrollSeen s.st i.faults req with
      | .ok () => ({ s with pending := s.pending ++ [⟨req, i.now, .seen⟩] }, [])
      | .error _ => (s, [])
  | .advance k =>
      match s.pending[k]? with
      | none => (s, [])
      | some p =>
          let r := advanceEnroll given s.st i.faults i.now p
          (⟨r.1, s.pending.eraseIdx k ++ r.2.1.toList, s.issued ++ r.2.2.toList⟩, r.2.2.toList)
  | .refreshAllowlist view => ({ s with st := { s.st with allowedNonces := view } }, [])
  | .reconfigure trust verifiedFleet caSigner =>
      let st := { s.st with trust, verifiedFleet, caSigner }
      ({ s with st }, [])
  | .pruneSweep =>
      let db := s.st.db.map (pruneTokenReplay · i.now tokenReplayRetentionHours)
      ({ s with st := { s.st with db } }, [])

/-- The enrollment server as a machine; its outputs are the nonces of issued certificates. -/
def enrollMachine (given : Given) : Machine EnrollServer EnrollInput String := ⟨enrollStep given⟩

/-- A server before its first request. -/
def EnrollServer.started (st : AppState) : EnrollServer := ⟨st, [], []⟩

/-- The certificates issued for a nonce, and those about to be signed. -/
def EnrollServer.certsOf (s : EnrollServer) (nonce : String) : Nat :=
  s.issued.count nonce + s.pending.countP fun p => p.stage = .recorded ∧ p.nonce = nonce

/-- No nonce ever has two certificates. -/
def AtMostOneCert (given : Given) (s : EnrollServer) (is : List EnrollInput) : Prop :=
  ∀ earlier later, is = earlier ++ later → ∀ nonce,
    ((enrollMachine given).run s earlier).issued.count nonce ≤ 1

/-- A request that is about to record its nonce finds the nonce's row still in the replay
table, if a certificate for it has been issued or is being signed. -/
def RowKept (s : EnrollServer) (i : EnrollInput) : Prop :=
  match i.event with
  | .advance k => ∀ p ∈ s.pending[k]?, p.stage = .bound → 0 < s.certsOf p.nonce →
      s.st.db.any (fun tokens => (tokens.lookup p.nonce).isSome) = true
  | _ => True

instance (s : EnrollServer) (i : EnrollInput) : Decidable (RowKept s i) :=
  match i with
  | ⟨.advance k, _, _⟩ => inferInstanceAs (Decidable (∀ p ∈ s.pending[k]?, _))
  | ⟨.arrive _, _, _⟩ => isTrue trivial
  | ⟨.refreshAllowlist _, _, _⟩ => isTrue trivial
  | ⟨.reconfigure .., _, _⟩ => isTrue trivial
  | ⟨.pruneSweep, _, _⟩ => isTrue trivial

/-! ## One step -/

section Step

variable {given : Given} {st st' : AppState} {faults : TokenFaults} {now : Time}

/-- The certificates that a request is about to get or gets. -/
def certsIn (next : Option PendingEnroll) (cert : Option String) (nonce : String) : Nat :=
  cert.toList.count nonce +
    next.toList.countP fun p => p.stage = .recorded ∧ p.nonce = nonce

/-- A step of a request adds a certificate for its nonce only by recording it, and the row of
the nonce is then not yet there. -/
theorem advanceEnroll_certs {p : PendingEnroll} {next : Option PendingEnroll}
    {cert : Option String} (h : advanceEnroll given st faults now p = (st', next, cert))
    (nonce : String) :
    certsIn next cert nonce ≤ (if p.stage = .recorded ∧ p.nonce = nonce then 1 else 0) ∨
    p.stage = .bound ∧ p.nonce = nonce ∧ certsIn next cert nonce = 1 ∧
      st.db.any (fun tokens => (tokens.lookup p.nonce).isSome) = false := by
  unfold advanceEnroll at h
  cases hstage : p.stage with
  | seen | allowed | verified =>
      left
      simp only [hstage] at h
      split at h <;> cases h <;> simp [certsIn]
  | bound =>
      simp only [hstage] at h
      split at h
      · rename_i tokens hrec
        cases h
        by_cases hnonce : p.nonce = nonce
        · refine .inr ⟨rfl, hnonce, ?_, ?_⟩
          · subst hnonce
            simp [certsIn, PendingEnroll.nonce]
          · -- the insert went through
            unfold enrollRecorded at hrec
            split at hrec
            · rename_i hdb
              rw [hdb]
              rfl
            · rename_i tokens' hdb
              split at hrec
              · cases hrec
              · split at hrec
                · cases hrec
                · rename_i hrow
                  rw [hdb]
                  simpa [PendingEnroll.nonce] using hrow
        · left
          simp only [PendingEnroll.nonce] at hnonce
          simp [certsIn, PendingEnroll.nonce, hnonce]
      · cases h
        left
        simp [certsIn]
  | recorded =>
      left
      simp only [hstage] at h
      split at h
      · cases h
        by_cases hnonce : p.nonce = nonce <;> simp [certsIn, hnonce]
      · cases h
        simp [certsIn]

/-- **One step keeps every nonce at one certificate.** -/
theorem enrollStep_certsOf {s : EnrollServer} (h : ∀ nonce, s.certsOf nonce ≤ 1)
    {i : EnrollInput} (hkept : RowKept s i) (nonce : String) :
    (enrollStep given s i).1.certsOf nonce ≤ 1 := by
  unfold enrollStep
  cases hev : i.event with
  | arrive req =>
      dsimp only
      split
      · -- a new request is not recorded yet
        have hn := h nonce
        unfold EnrollServer.certsOf at hn ⊢
        rw [List.countP_append]
        simpa using hn
      · exact h nonce
  | advance k =>
      dsimp only
      cases hp : s.pending[k]? with
      | none => exact h nonce
      | some p =>
          obtain ⟨hk, hget⟩ := List.getElem?_eq_some_iff.mp hp
          -- the request that advances leaves the list, and its successor joins the end
          have hperm : (p :: s.pending.eraseIdx k).Perm s.pending := by
            rw [← hget]
            exact List.getElem_cons_eraseIdx_perm hk
          have hcount := hperm.countP_eq fun p => decide (p.stage = .recorded ∧ p.nonce = nonce)
          rw [List.countP_cons] at hcount
          have hn := h nonce
          have hsplit : (⟨(advanceEnroll given s.st i.faults i.now p).1,
              s.pending.eraseIdx k ++ (advanceEnroll given s.st i.faults i.now p).2.1.toList,
              s.issued ++ (advanceEnroll given s.st i.faults i.now p).2.2.toList⟩ :
                EnrollServer).certsOf nonce =
              s.issued.count nonce + (s.pending.eraseIdx k).countP (fun p =>
                p.stage = .recorded ∧ p.nonce = nonce) +
              certsIn (advanceEnroll given s.st i.faults i.now p).2.1
                (advanceEnroll given s.st i.faults i.now p).2.2 nonce := by
            simp only [EnrollServer.certsOf, certsIn, List.count_append, List.countP_append]
            omega
          dsimp only
          rw [hsplit]
          simp only [EnrollServer.certsOf] at hn
          -- what the step adds for the nonce is what the request adds
          have hadvance : advanceEnroll given s.st i.faults i.now p =
              ((advanceEnroll given s.st i.faults i.now p).1,
                (advanceEnroll given s.st i.faults i.now p).2.1,
                (advanceEnroll given s.st i.faults i.now p).2.2) := rfl
          rcases advanceEnroll_certs hadvance nonce with
            hle | ⟨hstage, hnonce, hone, hrow⟩
          · simp only [decide_eq_true_eq] at hcount
            omega
          · -- the nonce has no certificate yet, or its row would still be there
            simp only [RowKept, hev] at hkept
            have hzero : s.certsOf nonce = 0 := by
              by_contra hpos
              subst hnonce
              have hsome := hkept p hp hstage (Nat.pos_of_ne_zero hpos)
              rw [hrow] at hsome
              cases hsome
            simp only [EnrollServer.certsOf] at hzero
            omega
  | refreshAllowlist | reconfigure | pruneSweep => exact h nonce

end Step

/-- **One certificate per nonce where the rows are kept.** -/
theorem atMostOneCert_of_rowKept (given : Given) (st : AppState) (is : List EnrollInput)
    (hkept : (enrollMachine given).Meets RowKept (.started st) is) :
    AtMostOneCert given (.started st) is := by
  rintro earlier later rfl nonce
  have hstart : ∀ nonce, (EnrollServer.started st).certsOf nonce ≤ 1 := by
    intro nonce
    simp [EnrollServer.started, EnrollServer.certsOf]
  have hstep : ∀ (s : EnrollServer) (i : EnrollInput), (∀ nonce, s.certsOf nonce ≤ 1) →
      RowKept s i → ∀ nonce, ((enrollMachine given).step s i).1.certsOf nonce ≤ 1 :=
    fun s i hs hi nonce => enrollStep_certsOf hs hi nonce
  have hrun := (enrollMachine given).run_invariant (P := fun s : EnrollServer =>
    ∀ nonce, s.certsOf nonce ≤ 1) hstep hstart (Machine.Meets.of_append _ hkept) nonce
  exact le_trans (Nat.le_add_right _ _) hrun

/-- A server whose allowlist has the nonce `n1` for three days. -/
def threeDays : AppState :=
  { webState with
    allowedNonces := (∅ : Table String BootstrapNonceEntry).insert "n1"
      ⟨"n1", "web-01", hours 72⟩ }

/-- A token of `web-01` that is valid for three days. -/
def threeDayEnroll : EnrollRequest :=
  ⟨⟨1, ⟨"web-01", "Ql7U5KNrMOohuQ4hxxLGSeghTCm36vaAidEDnG5VOEw=", 0, hours 72, "n1"⟩,
    "signature"⟩, "web-01"⟩

/-- The token is used after one hour and after 27 hours, with one sweep between. -/
def reuseRun (sweepAt : Int) : List EnrollInput :=
  let request (h : Int) := EnrollInput.plain (.arrive threeDayEnroll) (hours h) ::
    List.replicate 5 (.plain (.advance 0) (hours h))
  request 1 ++ .plain .pruneSweep (hours sweepAt) :: request 27

set_option maxRecDepth 8000 in
/-- A sweep within the day keeps the row, and the second request is refused. -/
theorem reuseRun_atMostOneCert : AtMostOneCert webGiven (.started threeDays) (reuseRun 24) :=
  atMostOneCert_of_rowKept _ _ _ (by decide)

set_option maxRecDepth 8000 in
/-- A later sweep deletes the row while the token is still valid. -/
theorem reuseRun_two_certs : ¬ AtMostOneCert webGiven (.started threeDays) (reuseRun 26) := by
  intro h
  have hle := h (reuseRun 26) [] (List.append_nil _).symm "n1"
  exact absurd hle (by decide)

end Nixfleet
