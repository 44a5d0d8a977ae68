import Nixfleet.Rollout.Machine

set_option autoImplicit false

/-!
# What one rollout transition does

`rolloutStep_spec`: an accepted event returns at most one transition, out of the state the
record is in, and at most one new wave, in this order. The `rollouts` row changes through these
effects alone.
-/

namespace Nixfleet

/-- The moves of the rollout machine. -/
inductive RolloutMove : RolloutState → RolloutState → Prop
  | joined : RolloutMove .opening .active
  | waveDone : RolloutMove .active .converging
  | nextWave : RolloutMove .converging .active
  | activeTerminal : RolloutMove .active .terminal
  | convergingTerminal : RolloutMove .converging .terminal
  | activeFailed : RolloutMove .active .failed
  | convergingFailed : RolloutMove .converging .failed
  | activeReverted : RolloutMove .active .reverted
  | convergingReverted : RolloutMove .converging .reverted
  | superseded (src : RolloutState) (h : src ≠ .superseded ∧ src ≠ .pruned) :
      RolloutMove src .superseded
  | pruned (src : RolloutState)
      (h : src = .failed ∨ src = .reverted ∨ src = .superseded ∨ src = .terminal) :
      RolloutMove src .pruned

/-- The effects of an accepted event: a move and a wave, each optional. -/
def moveEffects (r : RolloutRecord) (move : Option (RolloutState × Time)) (wave : Option Nat) :
    List RolloutEffect :=
  (move.map fun x => .recordRolloutTransition r.rolloutId r.state x.1 x.2).toList ++
    (wave.map fun w => .updateCurrentWave r.rolloutId w).toList

/-- The effects have the shape of `moveEffects`, and the move is one of the machine's. -/
def MoveSpec (r : RolloutRecord) (effects : List RolloutEffect) : Prop :=
  ∃ move wave, effects = moveEffects r move wave ∧
    ∀ x, move = some x → RolloutMove r.state x.1

theorem mem_moveEffects {r : RolloutRecord} {move : Option (RolloutState × Time)}
    {wave : Option Nat} {rid : RolloutId} {src dst : RolloutState} {t : Time} :
    .recordRolloutTransition rid src dst t ∈ moveEffects r move wave ↔
      rid = r.rolloutId ∧ src = r.state ∧ move = some (dst, t) := by
  cases move <;> cases wave <;> simp [moveEffects, Prod.ext_iff] <;> tauto

theorem moveSpec_of_observe {r r' : RolloutRecord} {effects : List RolloutEffect}
    (h : r.observe = .ok (r', effects)) : MoveSpec r effects := by
  cases h
  exact ⟨none, none, rfl, nofun⟩

theorem moveSpec_of_moveTo {r r' : RolloutRecord} {effects : List RolloutEffect}
    {dst : RolloutState} {t : Time} (hm : RolloutMove r.state dst)
    (h : r.moveTo dst t = .ok (r', effects)) : MoveSpec r effects := by
  cases h
  refine ⟨some (dst, t), none, rfl, ?_⟩
  rintro x ⟨⟩
  exact hm

theorem moveSpec_of_finish {r r' : RolloutRecord} {effects : List RolloutEffect} {t : Time}
    (hm : RolloutMove r.state .terminal) (h : r.finish t = .ok (r', effects)) :
    MoveSpec r effects := by
  cases h
  refine ⟨some (.terminal, t), none, rfl, ?_⟩
  rintro x ⟨⟩
  exact hm

theorem moveSpec_of_supersede {r r' : RolloutRecord} {effects : List RolloutEffect} {t : Time}
    (hm : r.state ≠ .superseded ∧ r.state ≠ .pruned) (h : r.supersede t = .ok (r', effects)) :
    MoveSpec r effects := by
  cases h
  refine ⟨some (.superseded, t), none, rfl, ?_⟩
  rintro x ⟨⟩
  exact .superseded _ hm

theorem moveSpec_of_hostMoved {r r' : RolloutRecord} {effects : List RolloutEffect}
    {dst : HostState} {t : Time} (hf : RolloutMove r.state .failed)
    (hr : RolloutMove r.state .reverted) (h : r.hostMoved dst t = .ok (r', effects)) :
    MoveSpec r effects := by
  cases dst with
  | reverted => exact moveSpec_of_moveTo hr h
  | failed => exact moveSpec_of_moveTo hf h
  | _ => exact moveSpec_of_observe h

theorem openingStep_spec {r r' : RolloutRecord} {e : RolloutEvent}
    {effects : List RolloutEffect} (hs : r.state = .opening)
    (h : openingStep r e = .ok (r', effects)) : MoveSpec r effects := by
  cases e with
  | hostJoined => exact moveSpec_of_moveTo (hs ▸ .joined) h
  | successorOpened => exact moveSpec_of_supersede (by simp [hs]) h
  | _ => cases h

theorem activeStep_spec {r r' : RolloutRecord} {e : RolloutEvent}
    {effects : List RolloutEffect} (hs : r.state = .active)
    (h : activeStep r e = .ok (r', effects)) : MoveSpec r effects := by
  cases e with
  | hostJoined => exact moveSpec_of_observe h
  | hostStateChanged =>
      exact moveSpec_of_hostMoved (hs ▸ .activeFailed) (hs ▸ .activeReverted) h
  | waveAdvanced _ fromWave toWave t =>
      simp only [activeStep] at h
      split at h
      · split at h
        · cases h
          exact ⟨none, some toWave, rfl, nofun⟩
        · exact moveSpec_of_observe h
      · exact moveSpec_of_moveTo (hs ▸ .waveDone) h
  | rolloutTerminal => exact moveSpec_of_finish (hs ▸ .activeTerminal) h
  | successorOpened => exact moveSpec_of_supersede (by simp [hs]) h
  | _ => cases h

theorem convergingStep_spec {r r' : RolloutRecord} {e : RolloutEvent}
    {effects : List RolloutEffect} (hs : r.state = .converging)
    (h : convergingStep r e = .ok (r', effects)) : MoveSpec r effects := by
  cases e with
  | hostJoined => exact moveSpec_of_observe h
  | hostStateChanged =>
      exact moveSpec_of_hostMoved (hs ▸ .convergingFailed) (hs ▸ .convergingReverted) h
  | waveAdvanced _ fromWave toWave t =>
      have hmove : ∀ x : RolloutState × Time, some (RolloutState.active, t) = some x →
          RolloutMove r.state x.1 := by
        rintro x ⟨⟩
        rw [hs]
        exact .nextWave
      simp only [convergingStep] at h
      split at h
      · split at h
        · cases h
          exact ⟨some (.active, t), some toWave, rfl, hmove⟩
        · cases h
          exact ⟨some (.active, t), none, rfl, hmove⟩
      · exact moveSpec_of_observe h
  | rolloutTerminal => exact moveSpec_of_finish (hs ▸ .convergingTerminal) h
  | successorOpened => exact moveSpec_of_supersede (by simp [hs]) h
  | _ => cases h

theorem haltedStep_spec {r r' : RolloutRecord} {e : RolloutEvent}
    {effects : List RolloutEffect} (hs : r.state = .failed ∨ r.state = .reverted)
    (h : haltedStep r e = .ok (r', effects)) : MoveSpec r effects := by
  cases e with
  | successorOpened =>
      exact moveSpec_of_supersede (by rcases hs with hs | hs <;> simp [hs]) h
  | retentionExpired =>
      exact moveSpec_of_moveTo (.pruned _ (by rcases hs with hs | hs <;> simp [hs])) h
  | hostStateChanged | hostJoined | waveAdvanced | rolloutTerminal =>
      exact moveSpec_of_observe h
  | _ => cases h

theorem supersededStep_spec {r r' : RolloutRecord} {e : RolloutEvent}
    {effects : List RolloutEffect} (hs : r.state = .superseded)
    (h : supersededStep r e = .ok (r', effects)) : MoveSpec r effects := by
  cases e with
  | retentionExpired => exact moveSpec_of_moveTo (.pruned _ (by simp [hs])) h
  | hostStateChanged | hostJoined | waveAdvanced | rolloutTerminal | successorOpened =>
      exact moveSpec_of_observe h
  | _ => cases h

theorem terminalStep_spec {r r' : RolloutRecord} {e : RolloutEvent}
    {effects : List RolloutEffect} (hs : r.state = .terminal)
    (h : terminalStep r e = .ok (r', effects)) : MoveSpec r effects := by
  cases e with
  | successorOpened => exact moveSpec_of_supersede (by simp [hs]) h
  | retentionExpired => exact moveSpec_of_moveTo (.pruned _ (by simp [hs])) h
  | rolloutTerminal | hostStateChanged | hostJoined => exact moveSpec_of_observe h
  | _ => cases h

/-- **What an accepted rollout event does.** -/
theorem rolloutStep_spec {r r' : RolloutRecord} {e : RolloutEvent}
    {effects : List RolloutEffect} (h : rolloutStep r e = .ok (r', effects)) :
    MoveSpec r effects := by
  unfold rolloutStep at h
  cases hs : r.state with
  | opening => exact openingStep_spec hs (by simpa only [hs] using h)
  | active => exact activeStep_spec hs (by simpa only [hs] using h)
  | converging => exact convergingStep_spec hs (by simpa only [hs] using h)
  | terminal => exact terminalStep_spec hs (by simpa only [hs] using h)
  | reverted => exact haltedStep_spec (.inr hs) (by simpa only [hs, revertedStep] using h)
  | failed => exact haltedStep_spec (.inl hs) (by simpa only [hs, failedStep] using h)
  | superseded => exact supersededStep_spec hs (by simpa only [hs] using h)
  | pruned => simp [hs, RolloutRecord.illegal] at h

/-! ## The wave cursor -/

/-- The event that moves a wave cursor. -/
def RolloutEvent.isWaveAdvanced : RolloutEvent → Bool
  | .waveAdvanced .. => true
  | _ => false

/-- No other event returns a wave effect. -/
theorem updateCurrentWave_not_mem {r r' : RolloutRecord} {e : RolloutEvent}
    {effects : List RolloutEffect} (h : rolloutStep r e = .ok (r', effects))
    (he : e.isWaveAdvanced = false) (rid : RolloutId) (wave : Nat) :
    .updateCurrentWave rid wave ∉ effects := by
  have hostMoved : ∀ {r₀ : RolloutRecord} {dst : HostState} {t : Time},
      r₀.hostMoved dst t = .ok (r', effects) → .updateCurrentWave rid wave ∉ effects := by
    intro r₀ dst t hdst
    cases dst <;> cases hdst <;> simp
  unfold rolloutStep at h
  cases e with
  | waveAdvanced => cases he
  | hostStateChanged =>
      -- only an active or converging rollout follows its hosts
      cases hs : r.state <;> simp only [hs] at h
      case active | converging => exact hostMoved h
      all_goals cases h <;> simp
  | _ => cases hs : r.state <;> simp only [hs] at h <;> cases h <;> simp

/-! ## Live rollouts -/

/-- Neither superseded nor pruned: the rows that `list_active` returns. -/
def RolloutState.isLive (s : RolloutState) : Bool := s ≠ .superseded && s ≠ .pruned

/-- The machine leads from live states only to a live state. -/
theorem RolloutMove.isLive {src dst : RolloutState} (h : RolloutMove src dst)
    (hlive : dst.isLive = true) : src.isLive = true := by
  cases h with
  | superseded | pruned => cases hlive
  | _ => rfl

/-- The events that end a rollout. -/
def RolloutEvent.ends : RolloutEvent → Bool
  | .successorOpened .. => true
  | .retentionExpired .. => true
  | _ => false

/-- Every other event moves a rollout to live states only. -/
theorem isLive_of_mem_effects {r r' : RolloutRecord} {e : RolloutEvent}
    {effects : List RolloutEffect} (h : rolloutStep r e = .ok (r', effects))
    (he : e.ends = false) {rid : RolloutId} {src dst : RolloutState} {t : Time}
    (hmem : .recordRolloutTransition rid src dst t ∈ effects) : dst.isLive = true := by
  unfold rolloutStep at h
  cases e with
  | successorOpened | retentionExpired => cases he
  | hostStateChanged _ _ _ dst' =>
      cases hs : r.state <;> simp only [hs] at h <;> cases dst' <;> cases h <;>
        simp_all [RolloutState.isLive]
  | waveAdvanced =>
      cases hs : r.state <;> simp only [hs, activeStep, convergingStep] at h
      case active | converging =>
        split at h
        · split at h <;> cases h <;> simp_all [RolloutState.isLive]
        · cases h
          simp_all [RolloutState.isLive]
      all_goals cases h <;> simp_all
  | _ =>
      cases hs : r.state <;> simp only [hs] at h <;> cases h <;> simp_all [RolloutState.isLive]

/-! ## Running rollouts -/

/-- `Opening`, `Active` or `Converging`: the hosts of the rollout still move it. -/
def RolloutState.isRunning (s : RolloutState) : Bool :=
  s = .opening || s = .active || s = .converging

/-- The machine leads to a running state only from one. -/
theorem RolloutMove.isRunning {src dst : RolloutState} (h : RolloutMove src dst)
    (hrun : dst.isRunning = true) : src.isRunning = true := by
  cases h with
  | joined | waveDone | nextWave => rfl
  | _ => cases hrun

theorem RolloutMove.ne_opening {src dst : RolloutState} (h : RolloutMove src dst) :
    dst ≠ .opening := by
  cases h <;> decide

/-- Only running rollouts are reverted. -/
theorem RolloutMove.running_of_reverted {src : RolloutState} (h : RolloutMove src .reverted) :
    src.isRunning = true := by
  cases h <;> rfl

/-- The report that a host of the rollout was rolled back. -/
def RolloutEvent.reverts : RolloutEvent → Bool
  | .hostStateChanged _ _ _ dst _ => dst = .reverted
  | _ => false

/-- No other event reverts a rollout. -/
theorem reverts_of_mem_effects {r r' : RolloutRecord} {e : RolloutEvent}
    {effects : List RolloutEffect} (h : rolloutStep r e = .ok (r', effects)) {rid : RolloutId}
    {src : RolloutState} {t : Time}
    (hmem : .recordRolloutTransition rid src .reverted t ∈ effects) : e.reverts = true := by
  unfold rolloutStep at h
  cases e with
  | hostStateChanged _ _ _ dst _ =>
      cases dst with
      | reverted => rfl
      | _ => cases hs : r.state <;> simp only [hs] at h <;> cases h <;> simp_all
  | waveAdvanced =>
      cases hs : r.state <;> simp only [hs, activeStep, convergingStep] at h
      case active | converging =>
        split at h
        · split at h <;> cases h <;> simp_all
        · cases h
          simp_all
      all_goals cases h <;> simp_all
  | _ => cases hs : r.state <;> simp only [hs] at h <;> cases h <;> simp_all

/-- The end of the rollout's retention. -/
def RolloutEvent.expires : RolloutEvent → Bool
  | .retentionExpired .. => true
  | _ => false

/-- No other event prunes a rollout. -/
theorem ne_pruned_of_mem_effects {r r' : RolloutRecord} {e : RolloutEvent}
    {effects : List RolloutEffect} (h : rolloutStep r e = .ok (r', effects))
    (he : e.expires = false) {rid : RolloutId} {src dst : RolloutState} {t : Time}
    (hmem : .recordRolloutTransition rid src dst t ∈ effects) : dst ≠ .pruned := by
  by_cases hends : e.ends = false
  · rintro rfl
    have hlive := isLive_of_mem_effects h hends hmem
    cases hlive
  · -- a successor supersedes
    cases e with
    | successorOpened =>
        unfold rolloutStep at h
        cases hs : r.state <;> simp only [hs] at h <;> cases h <;> simp_all
    | retentionExpired => cases he
    | _ => exact absurd rfl hends

end Nixfleet
