import Nixfleet.Host.State

set_option autoImplicit false

/-!
# The activation pipelines

What the agent does to its system: `activate_with` realises the target closure, points the
system profile at it, fires the switch and polls the running system; `rollback_with` moves the
profile back by one generation and fires the switch to what it finds there. Both run commands
whose outcomes are given. The backend is the Linux one.
-/

namespace Nixfleet

/-! ## The system -/

/-- The system profile: its generations below the current one, nearest first, the current one
and those above, nearest first. Each generation is the closure it points at. -/
structure SystemProfile where
  older : List ClosureHash
  current : ClosureHash
  newer : List ClosureHash
deriving DecidableEq, Repr

/-- The generations of a profile, oldest first. -/
def SystemProfile.generations (p : SystemProfile) : List ClosureHash :=
  p.older.reverse ++ p.current :: p.newer

/-- A new last generation, which becomes the current one. -/
def SystemProfile.append (p : SystemProfile) (closure : ClosureHash) : SystemProfile where
  older := p.newer.reverse ++ p.current :: p.older
  current := closure
  newer := []

/-- `nix-env --rollback`: the generation before the current one, if there is one. -/
def SystemProfile.rollback (p : SystemProfile) : Option SystemProfile :=
  match p.older with
  | [] => none
  | closure :: rest => some ⟨rest, closure, p.current :: p.newer⟩

@[simp] theorem SystemProfile.generations_append (p : SystemProfile) (closure : ClosureHash) :
    (p.append closure).generations = p.generations ++ [closure] := by
  simp [generations, append]

/-- `nix-env --set`, which is not part of the agent. Of a closure that the current generation
already points at nothing is assumed. -/
structure NixEnv where
  set : SystemProfile → ClosureHash → SystemProfile
  set_of_ne : ∀ p closure, closure ≠ p.current → set p closure = p.append closure

/-- The profile, and the closure `/run/current-system` points at, if it can be read. -/
structure System where
  profile : SystemProfile
  running : Option ClosureHash
deriving DecidableEq, Repr

/-- How a command ended: it could not be started, or it exited with a code or a signal. -/
inductive CommandStatus where
  | spawnFailed
  | exited (code : Option Int)
deriving DecidableEq, Repr

def CommandStatus.success (s : CommandStatus) : Bool := s == .exited (some 0)

@[simp] theorem CommandStatus.success_spawnFailed : spawnFailed.success = false := rfl

def CommandStatus.code : CommandStatus → Option Int
  | .spawnFailed => none
  | .exited code => code

/-! ## Outcomes -/

inductive ActivationOutcome where
  | firedAndPolled
  | realiseFailed (reason : String)
  | signatureMismatch (closureHash : ClosureHash) (stderrTail : String)
  | switchFailed (phase : String) (exitCode : Option Int)
  | verifyMismatch (expected actual : ClosureHash)
  | deferredPendingReboot (component : String)
deriving DecidableEq, Repr

inductive RollbackOutcome where
  | firedAndPolled (revertedToClosure : ClosureHash)
  | failed (phase : String) (exitCode : Option Int)
deriving DecidableEq, Repr

inductive RealiseError where
  | signatureMismatch (stderrTail : String)
  | other (err : String)
deriving DecidableEq, Repr

inductive PollOutcome where
  | settled
  | timeout
  | flippedToUnexpected (observed : ClosureHash)
deriving DecidableEq, Repr

/-! ## Polling -/

/-- `VerifyPoll::until_settled` on the reads of `/run/current-system` within the budget. -/
def untilSettled (expected : ClosureHash) (previous : Option ClosureHash) :
    List (Option ClosureHash) → PollOutcome
  | [] => .timeout
  | none :: reads => untilSettled expected previous reads
  | some basename :: reads =>
      if basename = expected then .settled
      else if previous.any (· ≠ basename) then .flippedToUnexpected basename
      else untilSettled expected previous reads

/-- The running system after a poll. -/
def System.polled (sys : System) (expected : ClosureHash) (reads : List (Option ClosureHash)) :
    PollOutcome → System
  | .settled => { sys with running := some expected }
  | .flippedToUnexpected observed => { sys with running := some observed }
  | .timeout =>
      { sys with running := reads.foldl (fun running read => read.or running) sys.running }

/-- Without a previous closure a poll settles iff it reads the expected one. -/
theorem untilSettled_none (expected : ClosureHash) (reads : List (Option ClosureHash)) :
    untilSettled expected none reads = if some expected ∈ reads then .settled else .timeout := by
  induction reads with
  | nil => rfl
  | cons read reads ih =>
      cases read with
      | none => simpa [untilSettled] using ih
      | some basename =>
          by_cases hb : basename = expected
          · simp [untilSettled, hb]
          · have hne : expected ≠ basename := fun h => hb h.symm
            simpa [untilSettled, hb, hne] using ih

/-! ## Activation -/

/-- The outcomes of the commands of one activation, and of the reads of its poll. -/
structure ActivationRun where
  switchInProgress : Bool
  realise : Except RealiseError String
  set : CommandStatus
  inhibitor : Option String
  boot : CommandStatus
  fire : CommandStatus
  /-- The profile as the activation script of the closure leaves it. -/
  scriptProfile : Option SystemProfile
  reads : List (Option ClosureHash)
  correct : CommandStatus
  unitExitCode : Option Int

def storePath (closure : ClosureHash) : String := "/nix/store/" ++ closure

/-- `fire_switch` of the Linux backend. -/
def fireSwitch (run : ActivationRun) : Except String (Option ActivationOutcome) :=
  match run.inhibitor with
  | some component =>
      if run.boot = .spawnFailed then .error "spawn switch-to-configuration boot"
      else if !run.boot.success then
        .ok (some (.switchFailed "defer-bootloader-update" run.boot.code))
      else .ok (some (.deferredPendingReboot component))
  | none =>
      if run.fire = .spawnFailed then .error "spawn systemd-run --unit=nixfleet-switch"
      else if !run.fire.success then .ok (some (.switchFailed "systemd-run-fire" run.fire.code))
      else .ok none

/-- `self_correct_profile`: the profile afterwards. That it may fail is ignored. -/
def selfCorrectProfile (nix : NixEnv) (p : SystemProfile) (closure : ClosureHash)
    (run : ActivationRun) : SystemProfile :=
  if p.current = closure then p
  else if run.correct.success then nix.set p closure
  else p

/-- The part of `activate_with` after `--set`. -/
def switchAndPoll (nix : NixEnv) (sys : System) (target : ClosureHash) (run : ActivationRun) :
    Except String ActivationOutcome × System :=
  match sys.running with
  | none =>
      (.ok (.realiseFailed "pre-switch /run/current-system read failed: readlink"), sys)
  | some previous =>
      match fireSwitch run with
      | .error e => (.error e, sys)
      | .ok (some outcome) => (.ok outcome, sys)
      | .ok none =>
          let sys := { sys with profile := run.scriptProfile.getD sys.profile }
          let poll := untilSettled target (some previous) run.reads
          let sys := sys.polled target run.reads poll
          match poll with
          | .settled =>
              (.ok .firedAndPolled,
                { sys with profile := selfCorrectProfile nix sys.profile target run })
          | .timeout => (.ok (.switchFailed "switch-poll-timeout" run.unitExitCode), sys)
          | .flippedToUnexpected observed => (.ok (.verifyMismatch target observed), sys)

/-- `activate_with`. -/
def activateWith (nix : NixEnv) (sys : System) (target : ClosureHash) (run : ActivationRun) :
    Except String ActivationOutcome × System :=
  if run.switchInProgress then
    (.ok (.realiseFailed
      "switch-to-configuration lock held by another process; will retry on next tick"), sys)
  else
    match run.realise with
    | .error (.signatureMismatch stderrTail) => (.ok (.signatureMismatch target stderrTail), sys)
    | .error (.other err) => (.ok (.realiseFailed err), sys)
    | .ok realised =>
        if realised ≠ storePath target then
          (.ok (.realiseFailed
            ("realised path " ++ realised ++ " does not match requested " ++ storePath target)),
            sys)
        else if run.set = .spawnFailed then (.error "spawn nix-env --set", sys)
        else if !run.set.success then (.ok (.switchFailed "nix-env-set" run.set.code), sys)
        else switchAndPoll nix { sys with profile := nix.set sys.profile target } target run

/-! ## Rollback -/

/-- The outcomes of the commands of one rollback, and of the reads of its poll. -/
structure RollbackRun where
  rollback : CommandStatus
  resolves : Bool
  fire : CommandStatus
  reads : List (Option ClosureHash)
  unitExitCode : Option Int

/-- `rollback_with`: the target is what the profile points at after `--rollback`. -/
def rollbackWith (sys : System) (run : RollbackRun) : Except String RollbackOutcome × System :=
  if run.rollback = .spawnFailed then (.error "spawn nix-env --rollback", sys)
  else if !run.rollback.success then (.ok (.failed "nix-env-rollback" run.rollback.code), sys)
  else
    match sys.profile.rollback with
    | none => (.ok (.failed "nix-env-rollback" (some 1)), sys)
    | some profile =>
        let sys := { sys with profile := profile }
        let target := profile.current
        if !run.resolves then (.ok (.failed "discover-target" none), sys)
        else if run.fire = .spawnFailed then
          (.error "spawn systemd-run --unit=nixfleet-rollback", sys)
        else if !run.fire.success then (.ok (.failed "systemd-run-fire" run.fire.code), sys)
        else
          let poll := untilSettled target none run.reads
          let sys := sys.polled target run.reads poll
          match poll with
          | .settled => (.ok (.firedAndPolled target), sys)
          | .timeout => (.ok (.failed "rollback-poll-timeout" run.unitExitCode), sys)
          -- not reached: the poll has no previous closure
          | .flippedToUnexpected _ => (.error "unreachable", sys)

/-- Every command of a rollback does its work, and the poll reads a closure. -/
def RollbackRun.Completes (run : RollbackRun) (closure : ClosureHash) : Prop :=
  run.rollback.success = true ∧ run.resolves = true ∧ run.fire.success = true ∧
    some closure ∈ run.reads

instance (run : RollbackRun) (closure : ClosureHash) : Decidable (run.Completes closure) :=
  inferInstanceAs (Decidable (_ ∧ _ ∧ _ ∧ _))

/-- **What a rollback reports.** The closure is the one of the generation below the current
one. -/
theorem rollbackWith_eq_firedAndPolled (sys : System) (run : RollbackRun) (closure : ClosureHash) :
    (rollbackWith sys run).1 = .ok (.firedAndPolled closure) ↔
      sys.profile.older.head? = some closure ∧ run.Completes closure := by
  unfold rollbackWith RollbackRun.Completes
  by_cases hspawn : run.rollback = .spawnFailed
  · simp [hspawn]
  by_cases hrollback : run.rollback.success = true
  swap
  · simp [hspawn, hrollback]
  cases holder : sys.profile.older with
  | nil => simp [hspawn, hrollback, SystemProfile.rollback, holder]
  | cons below rest =>
      have hprofile : sys.profile.rollback =
          some ⟨rest, below, sys.profile.current :: sys.profile.newer⟩ := by
        simp [SystemProfile.rollback, holder]
      by_cases hresolves : run.resolves = true
      swap
      · simp [hspawn, hrollback, hprofile, hresolves]
      by_cases hfire : run.fire = .spawnFailed
      · simp [hspawn, hrollback, hprofile, hresolves, hfire]
      by_cases hfired : run.fire.success = true
      swap
      · simp [hspawn, hrollback, hprofile, hresolves, hfire, hfired]
      by_cases hread : some below ∈ run.reads
      · have hpoll : untilSettled below none run.reads = .settled := by
          rw [untilSettled_none, if_pos hread]
        simp only [hspawn, hrollback, hprofile, hresolves, hfire, hfired, hpoll]
        constructor
        · intro h
          simp at h
          subst h
          simp [hread]
        · rintro ⟨h, -⟩
          simp at h
          subst h
          simp
      · have hpoll : untilSettled below none run.reads = .timeout := by
          rw [untilSettled_none, if_neg hread]
        simp only [hspawn, hrollback, hprofile, hresolves, hfire, hfired, hpoll]
        constructor
        · intro h
          simp at h
        · rintro ⟨h, -, -, -, hmem⟩
          simp at h
          subst h
          exact absurd hmem hread

end Nixfleet
