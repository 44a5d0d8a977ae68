import Nixfleet.Auth.Enrollment
import Nixfleet.Lib.Machine
import Nixfleet.Reconciler.Verify

set_option autoImplicit false

/-!
# Revocations in force

A verified list of revocations is written into `cert_revocations` entry by entry; a write that
fails is skipped, and each write replaces the host's row. Then the hosts that the list does not
name lose theirs, and the daemon counts as primed. `requireCn` reads the row of the host.

So the table holds, for each host of the list, its last entry that was written, or else what was
there before. The list is in force iff that row is not earlier than any of the host's entries
(`rejects_iff`), which the upsert was documented to provide and does not.
-/

namespace Nixfleet

/-! ## The list and the table -/

/-- An entry of `revocations.json`. -/
structure RevocationEntry where
  hostname : HostId
  notBefore : Time
  reason : Option String
  revokedBy : Option String
deriving DecidableEq, Repr

/-- `Revocations`; `meta` is `revocationsMeta`. -/
structure Revocations where
  schemaVersion : Nat
  revocations : List RevocationEntry
  revocationsMeta : Meta
deriving DecidableEq, Repr

/-- A row of `cert_revocations`, less the time of the write. -/
structure CertRevocation where
  notBefore : Time
  reason : Option String
  revokedBy : Option String
deriving DecidableEq, Repr

abbrev CertRevocations := Table HostId CertRevocation

/-- `revoke_cert`, an upsert. -/
def revokeCert (t : CertRevocations) (hostname : HostId) (notBefore : Time)
    (reason revokedBy : Option String) : CertRevocations :=
  t.insert hostname ⟨notBefore, reason, revokedBy⟩

/-- `cert_revoked_before`. -/
def certRevokedBefore (t : CertRevocations) (hostname : HostId) : Option Time :=
  (t.lookup hostname).map (·.notBefore)

/-- `retain_only`. -/
def retainOnly (t : CertRevocations) (keep : List HostId) : CertRevocations :=
  if keep.isEmpty then ∅ else t.filterRows fun hostname _ => keep.contains hostname

/-- The statements of an application that fail; an entry is given by its place in the list. -/
structure ApplyFaults where
  revokeCert : Nat → Bool
  retainOnly : Bool

/-- `apply_verified_revocations`. -/
def applyVerifiedRevocations (faults : ApplyFaults) (t : CertRevocations) (revs : Revocations) :
    CertRevocations :=
  let written := revs.revocations.zipIdx.foldl (fun t e =>
    if faults.revokeCert e.2 then t
    else revokeCert t e.1.hostname e.1.notBefore e.1.reason e.1.revokedBy) t
  if faults.retainOnly then written
  else retainOnly written (revs.revocations.map (·.hostname))

/-! ## The callers -/

/-- What is read of a certificate: its first common name, when it is text, and the Unix time from
which it is valid. -/
structure LeafCert where
  commonName : Option String
  notBefore : Int
deriving DecidableEq, Repr

/-- The certificates of a caller, leaf first; `none` where one cannot be read. -/
structure PeerCertificates where
  chain : List (Option LeafCert)
deriving DecidableEq, Repr

def PeerCertificates.isPresent (peer : PeerCertificates) : Bool := !peer.chain.isEmpty

def PeerCertificates.leaf (peer : PeerCertificates) : Option LeafCert := peer.chain.head?.join

def PeerCertificates.leafCn (peer : PeerCertificates) : Option String :=
  peer.leaf.bind (·.commonName)

/-- The years of a certificate are within those of `chrono`. -/
def PeerCertificates.leafNotBefore (peer : PeerCertificates) : Option Time :=
  peer.leaf.map (seconds ·.notBefore)

/-- `require_cn`. -/
def requireCn (agentCnSuffix : String) (db : Option CertRevocations) (lookupFails : Bool)
    (peer : PeerCertificates) : Except StatusCode String :=
  if !peer.isPresent then .error .unauthorized
  else
    match peer.leafCn with
    | none => .error .unauthorized
    | some cn =>
        match db with
        | none => .ok cn
        | some t =>
            if lookupFails then .error .internalServerError
            else
              match certRevokedBefore t (extractMachineId cn agentCnSuffix) with
              | none => .ok cn
              | some revokedBefore =>
                  match peer.leafNotBefore with
                  | none => .error .unauthorized
                  | some certNbf =>
                      if certNbf < revokedBefore then .error .unauthorized else .ok cn

/-! ## The daemon -/

/-- The table and the flag `revocations_primed`. `applied`, which the code does not keep, is the
last list that this process has applied. -/
structure RevocationState where
  certRevocations : CertRevocations
  primed : Bool
  applied : Option (Revocations × ApplyFaults)

/-- The daemon before its first poll, on the table that it finds. -/
def RevocationState.start (found : CertRevocations) : RevocationState := ⟨found, false, none⟩

inductive RevocationEvent where
  | start (found : CertRevocations)
  | pollFails
  | listVerified (revs : Revocations) (faults : ApplyFaults)

/-- One event; the flag is set whatever the writes did. -/
def revocationStep (st : RevocationState) : RevocationEvent → RevocationState
  | .start found => .start found
  | .pollFails => st
  | .listVerified revs faults =>
      ⟨applyVerifiedRevocations faults st.certRevocations revs, true, some (revs, faults)⟩

def revocationMachine : Machine RevocationState RevocationEvent Empty := .ofFold revocationStep

/-! ## What is claimed of the table -/

/-- Every certificate that an entry of the list revokes is refused. -/
def Rejects (agentCnSuffix : String) (t : CertRevocations) (revs : Revocations) : Prop :=
  ∀ (peer : PeerCertificates) (cn : String) (notBefore : Time) (lookupFails : Bool),
    peer.leafCn = some cn → peer.leafNotBefore = some notBefore →
    ∀ e ∈ revs.revocations, e.hostname = extractMachineId cn agentCnSuffix →
      notBefore < e.notBefore →
      ∃ status, requireCn agentCnSuffix (some t) lookupFails peer = .error status

/-- Every certificate that no entry of the list revokes is accepted. -/
def Admits (agentCnSuffix : String) (t : CertRevocations) (revs : Revocations) : Prop :=
  ∀ (peer : PeerCertificates) (cn : String) (notBefore : Time),
    peer.leafCn = some cn → peer.leafNotBefore = some notBefore →
    (∀ e ∈ revs.revocations, e.hostname = extractMachineId cn agentCnSuffix →
      ¬ notBefore < e.notBefore) →
    requireCn agentCnSuffix (some t) false peer = .ok cn

/-- No write of the application has failed. -/
def ApplyFaults.Clean (faults : ApplyFaults) (revs : Revocations) : Prop :=
  (∀ n < revs.revocations.length, faults.revokeCert n = false) ∧ faults.retainOnly = false

/-- A primed daemon enforces the list that it applied last, and no more than that when every
write was stored. -/
def RevocationState.InForce (agentCnSuffix : String) (st : RevocationState) : Prop :=
  st.primed = true → ∃ revs faults, st.applied = some (revs, faults) ∧
    Rejects agentCnSuffix st.certRevocations revs ∧
    (faults.Clean revs → Admits agentCnSuffix st.certRevocations revs)

/-- The entries that are written, in the order of the list. -/
def writtenEntries (faults : ApplyFaults) (revs : Revocations) : List RevocationEntry :=
  (revs.revocations.zipIdx.filter fun e => !faults.revokeCert e.2).map Prod.fst

/-- The last entry of a host that is written. -/
def lastWritten (faults : ApplyFaults) (revs : Revocations) (hostname : HostId) :
    Option RevocationEntry :=
  ((writtenEntries faults revs).filter (·.hostname = hostname)).getLast?

/-- The first whole second that is not before the time. -/
def ceilSeconds (t : Time) : Int := -(-t / 1000000000)

/-- For every entry of the list, the last one written for its host, or else the row that the host
had, is not earlier, as certificates count in whole seconds. -/
def RowsCover (t : CertRevocations) (revs : Revocations) (faults : ApplyFaults) : Prop :=
  ∀ e ∈ revs.revocations, ∃ notBefore,
    ((lastWritten faults revs e.hostname).map (·.notBefore)).or (certRevokedBefore t e.hostname) =
      some notBefore ∧ ceilSeconds e.notBefore ≤ ceilSeconds notBefore

/-- What an application needs of the table and its list. -/
def ListCovered (st : RevocationState) : RevocationEvent → Prop
  | .listVerified revs faults => RowsCover st.certRevocations revs faults
  | _ => True

/-! ## One request -/

/-- A caller with a readable name is refused for a row that is later than its certificate. -/
theorem requireCn_eq {agentCnSuffix cn : String} {t : CertRevocations} {lookupFails : Bool}
    {peer : PeerCertificates} {notBefore : Time} (hcn : peer.leafCn = some cn)
    (hnbf : peer.leafNotBefore = some notBefore) :
    requireCn agentCnSuffix (some t) lookupFails peer =
      if lookupFails then .error .internalServerError
      else if ∃ revokedBefore ∈ certRevokedBefore t (extractMachineId cn agentCnSuffix),
        notBefore < revokedBefore then .error .unauthorized
      else .ok cn := by
  have hpresent : peer.isPresent = true := by
    unfold PeerCertificates.leafCn PeerCertificates.leaf at hcn
    unfold PeerCertificates.isPresent
    cases hchain : peer.chain with
    | nil => simp [hchain] at hcn
    | cons leaf rest => rfl
  unfold requireCn
  simp only [hpresent, hcn, hnbf, Bool.not_true, Bool.false_eq_true, if_false]
  cases certRevokedBefore t (extractMachineId cn agentCnSuffix) with
  | none => simp
  | some revokedBefore => simp

theorem lt_ceilSeconds {s : Int} {t : Time} : seconds s < t ↔ s < ceilSeconds t := by
  unfold seconds ceilSeconds
  constructor
  · intro h
    have h' : s * 1000000000 < (t : Int) := h
    omega
  · intro h
    have h' : s * 1000000000 < (t : Int) := by omega
    exact h'

/-! ## One application -/

theorem writes_eq_foldl (faults : ApplyFaults) (revs : Revocations) (t : CertRevocations) :
    revs.revocations.zipIdx.foldl (fun t e =>
        if faults.revokeCert e.2 then t
        else revokeCert t e.1.hostname e.1.notBefore e.1.reason e.1.revokedBy) t =
      (writtenEntries faults revs).foldl (fun t e =>
        t.insert e.hostname ⟨e.notBefore, e.reason, e.revokedBy⟩) t := by
  unfold writtenEntries
  rw [List.foldl_map, List.foldl_filter]
  congr 1
  funext t e
  cases faults.revokeCert e.2 <;> rfl

/-- The row of a host after the writes. -/
theorem certRevokedBefore_foldl (faults : ApplyFaults) (revs : Revocations) (t : CertRevocations)
    (hostname : HostId) :
    certRevokedBefore ((writtenEntries faults revs).foldl (fun t e =>
        t.insert e.hostname ⟨e.notBefore, e.reason, e.revokedBy⟩) t) hostname =
      ((lastWritten faults revs hostname).map (·.notBefore)).or (certRevokedBefore t hostname) := by
  have hlookup := Table.lookup_foldl_insert_eq (fun e : RevocationEntry => e.hostname)
    (fun e => (⟨e.notBefore, e.reason, e.revokedBy⟩ : CertRevocation))
    (writtenEntries faults revs) t hostname
  unfold certRevokedBefore lastWritten
  rw [hlookup]
  cases ((writtenEntries faults revs).filter (·.hostname = hostname)).getLast? <;> rfl

theorem certRevokedBefore_retainOnly (t : CertRevocations) (keep : List HostId)
    (hostname : HostId) :
    certRevokedBefore (retainOnly t keep) hostname =
      if hostname ∈ keep then certRevokedBefore t hostname else none := by
  unfold certRevokedBefore retainOnly
  cases keep with
  | nil => simp
  | cons first rest =>
      rw [List.isEmpty_cons, if_neg Bool.false_ne_true]
      by_cases hmem : hostname ∈ first :: rest
      · have hlookup : (t.filterRows fun h _ => (first :: rest).contains h).lookup hostname =
            t.lookup hostname := by
          ext row
          simp only [Table.lookup_filterRows, List.contains_iff_mem, hmem, and_true]
        rw [if_pos hmem, hlookup]
      · have hlookup : (t.filterRows fun h _ => (first :: rest).contains h).lookup hostname =
            none := by
          ext row
          simp only [Table.lookup_filterRows, List.contains_iff_mem, hmem,
            and_false, reduceCtorEq]
        rw [if_neg hmem, hlookup, Option.map_none]

/-- The row of a host of the list after an application. -/
theorem certRevokedBefore_of_mem {faults : ApplyFaults} {revs : Revocations} {t : CertRevocations}
    {hostname : HostId} (hmem : hostname ∈ revs.revocations.map (·.hostname)) :
    certRevokedBefore (applyVerifiedRevocations faults t revs) hostname =
      ((lastWritten faults revs hostname).map (·.notBefore)).or (certRevokedBefore t hostname) := by
  unfold applyVerifiedRevocations
  rw [writes_eq_foldl, ← certRevokedBefore_foldl]
  split
  · rfl
  · rw [certRevokedBefore_retainOnly, if_pos hmem]

theorem writtenEntries_of_clean {faults : ApplyFaults} {revs : Revocations}
    (hclean : faults.Clean revs) : writtenEntries faults revs = revs.revocations := by
  have hall : ∀ e ∈ revs.revocations.zipIdx, (!faults.revokeCert e.2) = true := by
    intro e he
    rw [hclean.1 e.2 (List.snd_lt_of_mem_zipIdx he), Bool.not_false]
  rw [writtenEntries, List.filter_eq_self.mpr hall, List.zipIdx_map_fst]

/-- With no failed write a row is one of the list's entries. -/
theorem exists_entry_of_clean {faults : ApplyFaults} {revs : Revocations} {t : CertRevocations}
    {hostname : HostId} {revokedBefore : Time} (hclean : faults.Clean revs)
    (h : certRevokedBefore (applyVerifiedRevocations faults t revs) hostname =
      some revokedBefore) :
    ∃ e ∈ revs.revocations, e.hostname = hostname ∧ e.notBefore = revokedBefore := by
  have hmem : hostname ∈ revs.revocations.map (·.hostname) := by
    unfold applyVerifiedRevocations at h
    rw [hclean.2, if_neg Bool.false_ne_true, certRevokedBefore_retainOnly] at h
    split at h
    · assumption
    · cases h
  rw [certRevokedBefore_of_mem hmem, lastWritten, writtenEntries_of_clean hclean] at h
  cases hlast : (revs.revocations.filter (·.hostname = hostname)).getLast? with
  | none =>
      -- the host has an entry, and all are written
      obtain ⟨e, he, hhost⟩ := List.mem_map.mp hmem
      have hempty := List.getLast?_eq_none_iff.mp hlast
      have hin : e ∈ revs.revocations.filter (·.hostname = hostname) :=
        List.mem_filter.mpr ⟨he, decide_eq_true hhost⟩
      rw [hempty] at hin
      cases hin
  | some e =>
      rw [hlast, Option.map_some, Option.some_or, Option.some.injEq] at h
      obtain ⟨he, hhost⟩ := List.mem_filter.mp (List.mem_of_getLast? hlast)
      exact ⟨e, he, of_decide_eq_true hhost, h⟩

/-- **What a list needs to be in force.** The certificates that it revokes are refused iff no
entry is later than the row of its host. -/
theorem rejects_iff (agentCnSuffix : String) (faults : ApplyFaults) (t : CertRevocations)
    (revs : Revocations) :
    Rejects agentCnSuffix (applyVerifiedRevocations faults t revs) revs ↔
      RowsCover t revs faults := by
  constructor
  · intro h e he
    have hmem : e.hostname ∈ revs.revocations.map (·.hostname) := List.mem_map_of_mem he
    -- the certificate of the host that became valid in the last second before the entry's time
    let peer : PeerCertificates :=
      ⟨[some ⟨some (canonicalAgentCn e.hostname agentCnSuffix), ceilSeconds e.notBefore - 1⟩]⟩
    have hid := extractMachineId_canonicalAgentCn e.hostname agentCnSuffix
    have hlate : seconds (ceilSeconds e.notBefore - 1) < e.notBefore :=
      lt_ceilSeconds.mpr (by omega)
    obtain ⟨status, hstatus⟩ := h peer _ _ false rfl rfl e he hid.symm hlate
    have hcn : peer.leafCn = some (canonicalAgentCn e.hostname agentCnSuffix) := rfl
    have hnbf : peer.leafNotBefore = some (seconds (ceilSeconds e.notBefore - 1)) := rfl
    rw [requireCn_eq hcn hnbf, hid, certRevokedBefore_of_mem hmem] at hstatus
    simp only [Bool.false_eq_true, if_false] at hstatus
    split at hstatus
    · rename_i hrow
      obtain ⟨revokedBefore, hrow, hlt⟩ := hrow
      refine ⟨revokedBefore, hrow, ?_⟩
      have hceil := lt_ceilSeconds.mp hlt
      omega
    · cases hstatus
  · intro h peer cn notBefore lookupFails hcn hnbf e he hhost hlt
    have hmem : e.hostname ∈ revs.revocations.map (·.hostname) := List.mem_map_of_mem he
    obtain ⟨revokedBefore, hrow, hceil⟩ := h e he
    obtain ⟨leaf, -, rfl⟩ := Option.map_eq_some_iff.mp hnbf
    have hlate : seconds leaf.notBefore < revokedBefore :=
      lt_ceilSeconds.mpr (lt_of_lt_of_le (lt_ceilSeconds.mp hlt) hceil)
    rw [requireCn_eq hcn hnbf, ← hhost, certRevokedBefore_of_mem hmem]
    split
    · exact ⟨_, rfl⟩
    · rw [if_pos ⟨revokedBefore, hrow, hlate⟩]
      exact ⟨_, rfl⟩

/-- With no failed write nothing else is refused. -/
theorem admits_of_clean {agentCnSuffix : String} {faults : ApplyFaults} {t : CertRevocations}
    {revs : Revocations} (hclean : faults.Clean revs) :
    Admits agentCnSuffix (applyVerifiedRevocations faults t revs) revs := by
  intro peer cn notBefore hcn hnbf hall
  rw [requireCn_eq hcn hnbf, if_neg Bool.false_ne_true]
  refine if_neg ?_
  rintro ⟨revokedBefore, hrow, hlt⟩
  obtain ⟨e, he, hhost, rfl⟩ := exists_entry_of_clean hclean hrow
  exact hall e he hhost hlt

/-! ## Every run -/

/-- One event. -/
theorem revocationStep_inForce {agentCnSuffix : String} {st : RevocationState}
    {event : RevocationEvent} (h : st.InForce agentCnSuffix) :
    (revocationStep st event).InForce agentCnSuffix ↔ ListCovered st event := by
  cases event with
  | start found =>
      refine iff_of_true ?_ trivial
      intro hprimed
      cases hprimed
  | pollFails => exact iff_of_true h trivial
  | listVerified revs faults =>
      constructor
      · intro hforce
        obtain ⟨revs', faults', happlied, hrejects, -⟩ := hforce rfl
        cases happlied
        exact (rejects_iff _ _ _ _).mp hrejects
      · intro hcovered _
        exact ⟨revs, faults, rfl, (rejects_iff _ _ _ _).mpr hcovered, admits_of_clean⟩

/-- **When revocations are in force.** In a run of the daemon the list applied last is in force
after every event iff each application leaves no entry later than its host's row. -/
theorem revocations_in_force_iff (agentCnSuffix : String) (found : CertRevocations)
    (events : List RevocationEvent) :
    revocationMachine.Meets
        (fun st event => (revocationMachine.step st event).1.InForce agentCnSuffix)
        (.start found) events ↔
      revocationMachine.Meets ListCovered (.start found) events := by
  refine revocationMachine.meets_congr_of_invariant
    (P := fun st => st.InForce agentCnSuffix) (fun st event _ _ hnext => hnext)
    (fun st event _ h => revocationStep_inForce h) ?_
  intro hprimed
  cases hprimed

/-- A list with two entries for the host `a`, the later one for certificates up to second `50`
only. -/
def loweredList : Revocations :=
  ⟨1, [⟨"a", seconds 100, none, none⟩, ⟨"a", seconds 50, none, none⟩],
    ⟨1, some 0, none, none⟩⟩

/-- Every write is stored, and a certificate of second `70` is accepted. -/
theorem loweredList_not_in_force :
    ¬ (revocationMachine.run (.start ∅)
      [.listVerified loweredList ⟨fun _ => false, false⟩]).InForce "fleet" := by
  intro h
  obtain ⟨revs, faults, happlied, hrejects, -⟩ := h rfl
  cases happlied
  obtain ⟨status, hstatus⟩ := hrejects ⟨[some ⟨some "agent-a.fleet", 70⟩]⟩ "agent-a.fleet"
    (seconds 70) false rfl rfl ⟨"a", seconds 100, none, none⟩ (by decide) (by decide) (by decide)
  have haccepted : requireCn "fleet" (some (revocationMachine.run (.start ∅)
      [.listVerified loweredList ⟨fun _ => false, false⟩]).certRevocations) false
      ⟨[some ⟨some "agent-a.fleet", 70⟩]⟩ = .ok "agent-a.fleet" := by decide
  rw [haccepted] at hstatus
  cases hstatus

end Nixfleet
