import Nixfleet.Agent.Reducer
import Nixfleet.Reconciler.Acceptance

set_option autoImplicit false

/-!
# Freshness at dispatch

When a dispatch arrives the agent measures the age of its manifest once more. `checkSignedAt` counts
the age in whole seconds, the verifier in nanoseconds; the two part within the second behind the
window and its slack (`checkSignedAt_agrees_iff`).
-/

namespace Nixfleet

/-- `CLOCK_SKEW_SLACK_SECS` of `freshness.rs`. -/
def dispatchSlackSecs : Int := 60

/-- `FreshnessCheck`. -/
inductive FreshnessCheck where
  | fresh
  | stale (signedAt : Time) (freshnessWindowSecs : UInt32) (ageSecs : Int)
deriving DecidableEq

/-- `check_signed_at`. -/
def checkSignedAt (signedAt : Time) (freshnessWindowSecs : UInt32) (now : Time) : FreshnessCheck :=
  let ageSecs := numSeconds (now - signedAt)
  let limit := freshnessWindowSecs.toNat + dispatchSlackSecs
  if ageSecs > limit then .stale signedAt freshnessWindowSecs ageSecs else .fresh

/-- `Duration::from_secs` of a window, in nanoseconds. -/
def windowOfSecs (freshnessWindowSecs : UInt32) : Nat := freshnessWindowSecs.toNat * 1000000000

/-! ## Whole seconds -/

/-- More than `limit` whole seconds have passed once the next second is over. -/
theorem lt_numSeconds_iff {limit d : Int} (h : 0 ≤ limit) :
    limit < numSeconds d ↔ seconds (limit + 1) ≤ d := by
  unfold numSeconds seconds
  rcases Int.le_total 0 d with hd | hd
  · rw [Int.tdiv_eq_ediv_of_nonneg hd]
    omega
  · have hneg : d.tdiv 1000000000 = -(-d / 1000000000) := by
      rw [← Int.tdiv_eq_ediv_of_nonneg (by omega), Int.neg_tdiv, Int.neg_neg]
    rw [hneg]
    omega

theorem checkSignedAt_eq_fresh {signedAt now : Time} {window : UInt32} :
    checkSignedAt signedAt window now = .fresh ↔
      now - signedAt < seconds (window.toNat + dispatchSlackSecs + 1) := by
  have hlimit : 0 ≤ (window.toNat : Int) + dispatchSlackSecs :=
    Int.add_nonneg (Int.natCast_nonneg _) (by decide)
  have hage := lt_numSeconds_iff (d := now - signedAt) hlimit
  unfold checkSignedAt
  dsimp only
  split
  · rename_i hgt
    constructor
    · intro h
      cases h
    · intro h
      exact absurd (hage.mp hgt) (Int.not_le.mpr h)
  · rename_i hle
    constructor
    · intro _
      exact Int.not_le.mp ((not_congr hage).mp hle)
    · intro _
      rfl

/-! ## The verifier's test -/

/-- The window of an agent is one the verifier can hold. -/
theorem windowOfSecs_fits (window : UInt32) : WindowFits (windowOfSecs window) := by
  have hlt : window.toNat < 2 ^ 32 := window.toNat_lt
  unfold WindowFits windowOfSecs seconds clockSkewSlackSecs timeDeltaMax
  omega

section Verifier

variable {α : Type} [SignedSidecar α] {hooks : VerifyHooks} {canonical : Bytes} {payload : α}
  {signedAt now : Time} {rejectBefore : Option Time}

/-- A payload that reaches the staleness test is stale iff it is older than the window and the
slack. -/
theorem finishSidecarVerificationStd_stale_iff (window : UInt32)
    (hparse : SignedSidecar.parse hooks canonical = some payload)
    (hschema : SignedSidecar.schemaVersion payload = acceptedSchemaVersion)
    (hsigned : SignedSidecar.signedAt payload = some signedAt)
    (hswitch : ∀ rb ∈ rejectBefore, rb ≤ signedAt) :
    finishSidecarVerificationStd (α := α) hooks canonical now (windowOfSecs window) rejectBefore =
        some (.error (.stale signedAt now (windowOfSecs window))) ↔
      seconds (window.toNat + clockSkewSlackSecs) < now - signedAt := by
  have hlimit : (windowOfSecs window : Int) + seconds clockSkewSlackSecs =
      seconds (window.toNat + clockSkewSlackSecs) := by
    unfold windowOfSecs seconds
    omega
  rw [finishSidecarVerificationStd_of_fits (windowOfSecs_fits window), finishSidecarVerification]
  simp only [hparse, hschema, hsigned, filter_rejectBefore_eq_none.mpr hswitch, ne_eq,
    not_true_eq_false, if_false, hlimit, Option.some.injEq]
  constructor
  · intro h
    split at h
    · assumption
    · split at h <;> cases h
  · intro h
    rw [if_pos h]

/-- **Freshness agreement.** The check at dispatch accepts what the verifier's staleness test
accepts, and nothing else, iff the age is not strictly between the window with its slack and the
second after. -/
theorem checkSignedAt_agrees_iff (window : UInt32)
    (hparse : SignedSidecar.parse hooks canonical = some payload)
    (hschema : SignedSidecar.schemaVersion payload = acceptedSchemaVersion)
    (hsigned : SignedSidecar.signedAt payload = some signedAt)
    (hswitch : ∀ rb ∈ rejectBefore, rb ≤ signedAt) :
    (checkSignedAt signedAt window now = .fresh ↔
      finishSidecarVerificationStd (α := α) hooks canonical now (windowOfSecs window)
          rejectBefore ≠ some (.error (.stale signedAt now (windowOfSecs window)))) ↔
      ¬ (seconds (window.toNat + clockSkewSlackSecs) < now - signedAt ∧
        now - signedAt < seconds (window.toNat + clockSkewSlackSecs + 1)) := by
  have hslack : dispatchSlackSecs = clockSkewSlackSecs := rfl
  rw [checkSignedAt_eq_fresh, ne_eq,
    finishSidecarVerificationStd_stale_iff window hparse hschema hsigned hswitch, hslack]
  have hsecond : seconds (window.toNat + clockSkewSlackSecs + 1) =
      seconds (window.toNat + clockSkewSlackSecs) + 1000000000 := by
    unfold seconds
    omega
  have hsplit : ∀ age limit : Int, ((age < limit + 1000000000 ↔ ¬ limit < age) ↔
      ¬ (limit < age ∧ age < limit + 1000000000)) := by
    intro age limit
    omega
  rw [hsecond]
  exact hsplit _ _

end Verifier

/-- An hour and a minute after it was signed the bare manifest passes both checks. -/
theorem checkSignedAt_agrees_bare :
    checkSignedAt 0 3600 (seconds 3660) = .fresh ↔
      finishSidecarVerificationStd (α := RolloutManifest) bareHooks [1] (seconds 3660)
          (windowOfSecs 3600) none ≠
        some (.error (.stale 0 (seconds 3660) (windowOfSecs 3600))) := by
  have hparse : SignedSidecar.parse bareHooks [1] = some bareManifest := rfl
  exact (checkSignedAt_agrees_iff 3600 hparse rfl rfl (by simp)).mpr (by decide)

/-- Half a second later the verifier calls it stale, and the check at dispatch does not. -/
theorem checkSignedAt_disagrees_half_second :
    checkSignedAt 0 3600 3660500000000 = .fresh ∧
      finishSidecarVerificationStd (α := RolloutManifest) bareHooks [1] 3660500000000
          (windowOfSecs 3600) none =
        some (.error (.stale 0 3660500000000 (windowOfSecs 3600))) := by
  have hparse : SignedSidecar.parse bareHooks [1] = some bareManifest := rfl
  refine ⟨by decide, ?_⟩
  exact (finishSidecarVerificationStd_stale_iff 3600 hparse rfl rfl (by simp)).mpr (by decide)

end Nixfleet
