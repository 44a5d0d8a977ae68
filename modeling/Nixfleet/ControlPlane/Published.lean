import Nixfleet.ControlPlane.Daemon

set_option autoImplicit false

/-!
# The published fleet

The fleet is in two places, the snapshot that the routes serve and the set that the reducer plans
with, and the poll worker writes both, the snapshot first. So the newest set, wherever it is on its
way, is always one of the served fleet, and an agent that fetches the fleet verifies the very fleet
that is planned with.
-/

namespace Nixfleet

/-- The set that an input carries. -/
def CpReducerInput.set? : CpReducerInput → Option SignedManifestSet
  | .manifestSetUpdated set => some set
  | .hostEvent .. | .heartbeatReceived _ | .planTick => none

/-- The newest set after some inputs have been handled. -/
def newestOf (cached : Option SignedManifestSet) (inputs : List CpReducerInput) :
    Option SignedManifestSet :=
  inputs.foldl (fun newest input => input.set?.or newest) cached

/-- The last set in the channel, or else the one in memory. -/
def Server.newestSet (sv : Server) : Option SignedManifestSet :=
  newestOf sv.cp.rs.manifests sv.channel

/-- The set that the worker has to send, or else the newest one that it has sent. -/
def Daemon.newestSet (d : Daemon) : Option SignedManifestSet :=
  d.sending.or d.server.newestSet

/-- The bytes of the fleet that the routes serve. -/
def Daemon.servedFleet (d : Daemon) : Option (Bytes × Bytes) :=
  d.verifiedFleet.map fun snapshot => (snapshot.artifactBytes, snapshot.signatureBytes)

/-! ## Verified bytes -/

section Bytes

variable {hooks : VerifyHooks} {bytes : Bytes}

/-- What the bytes verify as depends on nothing else. -/
theorem verifyArtifact_inner {sig sig' : Bytes} {keys keys' : List TrustedPubkey}
    {now now' : Time} {window window' : Int} {rejectBefore rejectBefore' : Option Time}
    {verified verified' : Verified FleetResolved}
    (h : verifyArtifact hooks bytes sig keys now window rejectBefore = .ok verified)
    (h' : verifyArtifact hooks bytes sig' keys' now' window' rejectBefore' = .ok verified') :
    verified.inner = verified'.inner := by
  obtain ⟨v, hv, rfl⟩ := Except.map_eq_ok.mp h
  obtain ⟨v', hv', rfl⟩ := Except.map_eq_ok.mp h'
  obtain ⟨canonical, hcanonical, -, hparse⟩ := (verifySignedSidecar_eq_ok.mp hv).signed
  obtain ⟨canonical', hcanonical', -, hparse'⟩ := (verifySignedSidecar_eq_ok.mp hv').signed
  have hbytes : canonical = canonical' := by
    rw [hcanonical] at hcanonical'
    exact Option.some.inj hcanonical'
  have hinner : v.inner = v'.inner := by
    rw [hbytes, hparse'] at hparse
    exact (Option.some.inj hparse).symm
  show normalizeRolloutPolicies v.inner = normalizeRolloutPolicies v'.inner
  rw [hinner]

/-- What an agent has fetched are the served bytes, the fleet that they verify as, and their
hash. -/
theorem fetchFleet_eq_ok {cache : ManifestCache} {env : LoadEnv} {pair : Bytes × Bytes}
    {verified : Verified FleetResolved} {hash : String}
    (h : cache.fetchFleet env = .ok (pair, verified, hash)) :
    env.store.verifiedFleet = some pair ∧
      cache.verifyFleetBytes env pair.1 pair.2 = .ok verified ∧
        cache.hashFleet "fetched" pair.1 = .ok hash := by
  simp only [ManifestCache.fetchFleet, Except.bind_eq_ok, fetch_eq_ok, Except.map_eq_ok,
    Except.ok.injEq, Prod.mk.injEq] at h
  obtain ⟨_, ⟨pair', hpair, rfl⟩, _, ⟨pair'', hpair', rfl⟩, v, hverify, hash', hhash, rfl, rfl,
    rfl⟩ := h
  cases hpair.symm.trans hpair'
  refine ⟨?_, hverify, hhash⟩
  unfold loadFleet at hpair
  split at hpair
  · cases hpair
  · rename_i served hserved
    cases hpair
    exact hserved

end Bytes

/-! ## The newest set -/

section Server

variable {sv : Server} {i : ServerInput}

@[simp] theorem newestOf_append (cached : Option SignedManifestSet)
    (inputs : List CpReducerInput) (input : CpReducerInput) :
    newestOf cached (inputs ++ [input]) = input.set?.or (newestOf cached inputs) := by
  simp [newestOf, List.foldl_append]

/-- The reducer keeps the set of the input that it handles, or else the one that it has. -/
theorem cpStep_input_manifests (cp : Cp) (i : ServerInput) (input : CpReducerInput) :
    (cpStep cp (i.cpInput input.event)).1.rs.manifests = input.set?.or cp.rs.manifests := by
  cases input <;> rfl

/-- **The newest set of a server.** Nothing but a poll or a restart changes it. -/
theorem serverStep_newestSet (hpoll : ∀ set, i.event ≠ .manifestPoll set)
    (hrestart : i.event ≠ .restart) : (serverStep sv i).1.newestSet = sv.newestSet := by
  have hkept : i.event ≠ .recv → (serverStep sv i).1.cp.rs.manifests = sv.cp.rs.manifests := by
    intro hrecv
    rw [serverStep_cp]
    cases hevent : i.event with
    | recv => exact absurd hevent hrecv
    | restart => exact absurd hevent hrestart
    | serve | events | heartbeat | manifestPoll => simp [Server.handled, hevent]
    | planTicker | pruneSweep | takeDispatch =>
        simp only [Server.handled, hevent]
        rfl
  unfold Server.newestSet
  rcases serverStep_channel sv i with hsame | ⟨input, hposts, hput⟩ |
    ⟨-, input, htaken, hhandled⟩ | ⟨hlost, -⟩
  · by_cases hrecv : i.event = .recv
    · -- nothing was in the channel
      have hcp : (serverStep sv i).1.cp.rs.manifests = sv.cp.rs.manifests := by
        rw [serverStep_cp]
        cases hinputs : sv.inputs with
        | none => simp [Server.handled, hrecv, hinputs]
        | some inputs =>
            cases inputs with
            | nil => simp [Server.handled, hrecv, hinputs]
            | cons input rest =>
                simp [serverStep, hrecv, hinputs, Server.step, Server.channel] at hsame
      rw [hsame, hcp]
    · rw [hsame, hkept hrecv]
  · have hnone : input.set? = none := by
      cases hevent : i.event with
      | manifestPoll set => exact absurd hevent (hpoll set)
      | events | heartbeat =>
          rw [hevent] at hposts
          cases hposts
          rfl
      | serve | recv | planTicker | restart | pruneSweep | takeDispatch =>
          rw [hevent] at hposts
          cases hposts
    have hrecv : i.event ≠ .recv := by
      intro hevent
      rw [hevent] at hposts
      cases hposts
    rw [hput, newestOf_append, hnone, hkept hrecv]
    rfl
  · have hcp : (serverStep sv i).1.cp.rs.manifests = input.set?.or sv.cp.rs.manifests := by
      rw [serverStep_cp, hhandled]
      exact cpStep_input_manifests sv.cp i input
    rw [htaken, hcp]
    rfl
  · exact absurd hlost hrestart

/-- A set that is sent becomes the newest one. -/
theorem trySend_newestSet {sv' : Server} {set : SignedManifestSet}
    (h : sv.trySend (.manifestSetUpdated set) = some sv') : sv'.newestSet = some set := by
  unfold Server.newestSet
  rw [trySend_channel h, newestOf_append]
  rfl

/-- A restart forgets the sets. -/
theorem serverStep_restart_newestSet (h : i.event = .restart) :
    (serverStep sv i).1.newestSet = none := by
  simp only [serverStep, h]
  rfl

end Server

/-! ## The process -/

section Daemon

variable {cfg : DaemonConfig} {d : Daemon} {i : DaemonInput}

/-- **What a step does with the fleet in its two places.** It keeps both, a poll writes both, the
start publishes before there is a reducer, and a restart forgets both. -/
theorem daemonStep_published (cfg : DaemonConfig) (d : Daemon) (i : DaemonInput) :
    ((daemonStep cfg d i).1.newestSet = d.newestSet ∧
        (daemonStep cfg d i).1.verifiedFleet = d.verifiedFleet) ∨
      (d.server.inputs.isSome = true ∧ ∃ env set snapshot,
        pollOnce cfg.toPollConfig env = .ok (some (set, snapshot)) ∧
          (daemonStep cfg d i).1.newestSet = some set ∧
            (daemonStep cfg d i).1.verifiedFleet = some snapshot) ∨
      (d.server.inputs = none ∧ ∃ boot snapshot, cfg.prime boot = some snapshot ∧
        (daemonStep cfg d i).1.newestSet = d.newestSet ∧
          (daemonStep cfg d i).1.verifiedFleet = some snapshot) ∨
      ((daemonStep cfg d i).1.newestSet = none ∧ (daemonStep cfg d i).1.verifiedFleet = none) := by
  have hserver : ∀ (d' : Daemon) (event : ServerEvent), (∀ set, event ≠ .manifestPoll set) →
      event ≠ .restart → (d'.serverStep (i.toServer event)).1.newestSet = d'.newestSet := by
    intro d' event hpoll hrestart
    have hnewest : (serverStep d'.server (i.toServer event)).1.newestSet = d'.server.newestSet :=
      serverStep_newestSet hpoll hrestart
    show d'.sending.or (serverStep d'.server (i.toServer event)).1.newestSet = _
    rw [hnewest]
    rfl
  cases hevent : i.event with
  | serve boot =>
      by_cases hruns : d.server.inputs.isSome
      · left
        simp [daemonStep, hevent, hruns]
      · have hidle : d.server.inputs = none := by simpa using hruns
        have hnewest : ∀ d' : Daemon, (d'.serverStep (i.toServer .serve)).1.newestSet =
            d'.newestSet := fun d' => hserver d' .serve (by simp) (by simp)
        cases hprime : cfg.prime boot with
        | none =>
            left
            simp only [daemonStep, hevent, hruns, hprime, Bool.false_eq_true, if_false,
              Option.map_none, Option.getD_none]
            exact ⟨hnewest d, rfl⟩
        | some snapshot =>
            refine .inr (.inr (.inl ⟨hidle, boot, snapshot, hprime, ?_⟩))
            simp only [daemonStep, hevent, hruns, hprime, Bool.false_eq_true, if_false,
              Option.map_some, Option.getD_some]
            exact ⟨hnewest _, rfl⟩
  | poll env =>
      rcases daemonStep_poll cfg d hevent with heq |
        ⟨set, snapshot, hruns, hpoll, heq⟩
      · rw [heq]
        exact .inl ⟨rfl, rfl⟩
      · rw [heq]
        exact .inr (.inl ⟨hruns, env, set, snapshot, hpoll, rfl, rfl⟩)
  | send =>
      left
      cases hsending : d.sending with
      | none => simp [daemonStep, hevent, hsending]
      | some set =>
          cases hsend : d.server.trySend (.manifestSetUpdated set) with
          | none => simp [daemonStep, hevent, hsending, hsend]
          | some server =>
              have hsent := trySend_newestSet hsend
              simp [daemonStep, hevent, hsending, hsend, Daemon.newestSet, hsent]
  | revocationsApplied => exact .inl (by simp [daemonStep, hevent, Daemon.newestSet])
  | bootstrapNoncesApplied => exact .inl (by simp [daemonStep, hevent, Daemon.newestSet])
  | request request =>
      left
      by_cases hready : cfg.isReady d
      · simp only [daemonStep, hevent, hready, if_true]
        refine ⟨hserver d _ (fun set h => ?_) fun h => ?_, rfl⟩
        · cases request <;> cases h
        · cases request <;> cases h
      · simp [daemonStep, hevent, hready]
  | task task =>
      left
      simp only [daemonStep, hevent]
      refine ⟨hserver d _ (fun set h => ?_) fun h => ?_, rfl⟩
      · cases task <;> cases h
      · cases task <;> cases h
  | restart =>
      refine .inr (.inr (.inr ?_))
      simp only [daemonStep, hevent]
      refine ⟨?_, rfl⟩
      show Option.or none (serverStep d.server (i.toServer .restart)).1.newestSet = none
      rw [serverStep_restart_newestSet (i := i.toServer .restart) rfl]
      rfl

/-- A primed fleet verifies, whichever way it was primed. -/
theorem prime_verifies {boot : Boot} {snapshot : VerifiedFleetSnapshot}
    (h : cfg.prime boot = some snapshot) :
    ∃ slot now window, snapshot.Verifies cfg.hooks slot now window := by
  rcases Option.or_eq_some_iff.mp h with hpoll | ⟨-, hfiles⟩
  · obtain ⟨env, -, hprime⟩ := Option.bind_eq_some_iff.mp hpoll
    obtain ⟨⟨set, snapshot'⟩, hjoin, rfl⟩ := Option.map_eq_some_iff.mp hprime
    have hpolled : pollOnce cfg.toPollConfig env = .ok (some (set, snapshot')) :=
      Except.toOption_eq_some.mp (Option.join_eq_some_iff.mp hjoin)
    obtain ⟨-, ⟨window, slot, -, -, hverifies⟩, -⟩ := pollOnce_eq_ok hpolled
    exact ⟨slot, env.now, window, hverifies⟩
  · simp only [primeFromArtifactFiles, Option.bind_eq_bind, Option.bind_eq_some_iff] at hfiles
    obtain ⟨artifact, -, signature, -, slot, -, verified, hverify, hash, hhash, heq⟩ := hfiles
    cases heq
    exact ⟨slot, boot.files.now, cfg.freshnessWindow,
      ⟨verified, Except.toOption_eq_some.mp hverify, rfl⟩, Except.toOption_eq_some.mp hhash⟩

/-- The server's channel closes in a restart only. -/
theorem serverStep_idle {sv : Server} {i : ServerInput} (h : (serverStep sv i).1.inputs = none) :
    sv.inputs = none ∨ i.event = .restart := by
  by_contra hnot
  obtain ⟨hopen, hrestart⟩ := not_or.mp hnot
  obtain ⟨inputs, hinputs⟩ := Option.ne_none_iff_exists'.mp hopen
  have hsend : ∀ input sv', sv.trySend input = some sv' → sv'.inputs ≠ none := by
    intro input sv' hsend
    obtain ⟨_, -, hroom⟩ := Option.bind_eq_some_iff.mp hsend
    split at hroom
    · cases hroom
      simp
    · cases hroom
  cases hevent : i.event with
  | serve => simp [serverStep, hevent, hinputs] at h
  | events machineId envelope =>
      simp only [serverStep, hevent, Server.events] at h
      split at h
      · exact hopen h
      · split at h
        · exact hopen h
        · split at h
          · rename_i hsent
            exact hsend _ _ hsent h
          · exact hopen h
  | heartbeat machineId hb =>
      simp only [serverStep, hevent, Server.heartbeat] at h
      split at h
      · exact hopen h
      · split at h
        · rename_i hsent
          exact hsend _ _ hsent h
        · exact hopen h
  | manifestPoll set =>
      simp only [serverStep, hevent] at h
      cases hsent : sv.trySend (.manifestSetUpdated set) with
      | none =>
          rw [hsent] at h
          exact hopen h
      | some sv' =>
          rw [hsent] at h
          exact hsend _ _ hsent h
  | recv => cases inputs <;> simp [serverStep, hevent, hinputs, Server.step] at h
  | restart => exact hrestart hevent
  | planTicker | pruneSweep | takeDispatch =>
      simp only [serverStep, hevent] at h
      exact hopen h

/-- Once the process runs, only a restart stops it, and then nothing is cached. -/
theorem daemonStep_idle (h : (daemonStep cfg d i).1.server.inputs = none) :
    d.server.inputs = none ∨ (daemonStep cfg d i).1.newestSet = none := by
  by_cases hrestart : i.event = .restart
  · right
    simp only [daemonStep, hrestart]
    show Option.or none (serverStep d.server (i.toServer .restart)).1.newestSet = none
    rw [serverStep_restart_newestSet (i := i.toServer .restart) rfl]
    rfl
  · left
    rcases daemonStep_server cfg d i with ⟨hsame, -⟩ | ⟨event, hstep, -, -, honly⟩
    · rw [← hsame]
      exact h
    · rw [hstep] at h
      rcases serverStep_idle h with hidle | hevent
      · exact hidle
      · exact absurd (honly hevent) hrestart

/-- The served snapshot verifies, and the newest set, wherever it is, is of its fleet. -/
structure Daemon.InStep (cfg : DaemonConfig) (d : Daemon) : Prop where
  idle : d.server.inputs = none → d.newestSet = none
  verified : ∀ snapshot, d.verifiedFleet = some snapshot →
    ∃ slot now window, snapshot.Verifies cfg.hooks slot now window
  newest : ∀ set, d.newestSet = some set →
    ∃ snapshot, d.verifiedFleet = some snapshot ∧ snapshot.fleet = set.fleet

/-- **Every step keeps the two places in step.** -/
theorem daemonStep_inStep (h : d.InStep cfg) (i : DaemonInput) :
    (daemonStep cfg d i).1.InStep cfg := by
  have hidle : (daemonStep cfg d i).1.newestSet = d.newestSet →
      (daemonStep cfg d i).1.server.inputs = none → (daemonStep cfg d i).1.newestSet = none := by
    intro hsame hclosed
    rcases daemonStep_idle hclosed with hbefore | hnone
    · rw [hsame]
      exact h.idle hbefore
    · exact hnone
  rcases daemonStep_published cfg d i with ⟨hnewest, hfleet⟩ |
    ⟨hruns, env, set, snapshot, hpoll, hnewest, hfleet⟩ |
    ⟨hclosed, boot, snapshot, hprime, hnewest, hfleet⟩ | ⟨hnewest, hfleet⟩
  · refine ⟨hidle hnewest, ?_, ?_⟩
    · rw [hfleet]
      exact h.verified
    · rw [hfleet, hnewest]
      exact h.newest
  · obtain ⟨hsame, ⟨window, slot, -, -, hverifies⟩, -⟩ := pollOnce_eq_ok hpoll
    refine ⟨fun hnone => ?_, ?_, ?_⟩
    · -- the worker only polls while the process runs
      rcases daemonStep_idle hnone with hbefore | hempty
      · rw [hbefore] at hruns
        cases hruns
      · exact hempty
    · rw [hfleet]
      rintro _ ⟨⟩
      exact ⟨slot, env.now, window, hverifies⟩
    · rw [hfleet, hnewest]
      rintro _ ⟨⟩
      exact ⟨snapshot, rfl, hsame.symm⟩
  · have hnone : d.newestSet = none := h.idle hclosed
    refine ⟨hidle hnewest, ?_, ?_⟩
    · rw [hfleet]
      rintro _ ⟨⟩
      exact prime_verifies hprime
    · rw [hnewest, hnone]
      rintro _ ⟨⟩
  · refine ⟨fun _ => hnewest, ?_, ?_⟩
    · rw [hfleet]
      rintro _ ⟨⟩
    · rw [hnewest]
      rintro _ ⟨⟩

theorem run_inStep (cfg : DaemonConfig) (is : List DaemonInput) :
    ((daemonMachine cfg).run .initial is).InStep cfg := by
  have hstart : Daemon.initial.InStep cfg := by
    refine ⟨fun _ => rfl, ?_, ?_⟩
    · intro snapshot h
      cases h
    · intro set h
      cases h
  exact (daemonMachine cfg).run_invariant_of_step (P := Daemon.InStep cfg)
    (fun d i h => daemonStep_inStep h i) hstart is

end Daemon

/-- **The fetched fleet is the planned one.** In every state of a run, an agent that fetches the
fleet and verifies it under its own trust file, clock and window holds the fleet and the hash of the
snapshot, and the newest set on its way to the reducer is of that fleet. -/
theorem fetchedFleet_planned (cfg : DaemonConfig) (is : List DaemonInput) {window : Int}
    {env : LoadEnv} {pair : Bytes × Bytes} {verified : Verified FleetResolved} {hash : String}
    (hserved : env.store.verifiedFleet = ((daemonMachine cfg).run .initial is).servedFleet)
    (hfetch : (ManifestCache.mk cfg.hooks window).fetchFleet env = .ok (pair, verified, hash)) :
    ∃ snapshot, ((daemonMachine cfg).run .initial is).verifiedFleet = some snapshot ∧
      snapshot.fleet = verified.inner ∧ snapshot.fleetResolvedHash = hash ∧
        ∀ set, ((daemonMachine cfg).run .initial is).newestSet = some set →
          set.fleet = verified.inner := by
  have hstep := run_inStep cfg is
  obtain ⟨hstore, hverify, hhash⟩ := fetchFleet_eq_ok hfetch
  rw [hserved] at hstore
  obtain ⟨snapshot, hsnapshot, rfl⟩ := Option.map_eq_some_iff.mp hstore
  obtain ⟨slot, now, window', hverifies⟩ := hstep.verified snapshot hsnapshot
  have hfleet : snapshot.fleet = verified.inner := by
    obtain ⟨served, hok, hinner⟩ := hverifies.fleet
    unfold ManifestCache.verifyFleetBytes at hverify
    split at hverify
    · cases hverify
    · rw [← hinner]
      exact verifyArtifact_inner hok (Except.mapError_eq_ok.mp hverify)
  have hsame : snapshot.fleetResolvedHash = hash := by
    have hfetched := Except.mapError_eq_ok.mp hhash
    exact Except.ok.inj (hverifies.hash.symm.trans hfetched)
  refine ⟨snapshot, hsnapshot, hfleet, hsame, fun set hset => ?_⟩
  obtain ⟨snapshot', hsnapshot', hplanned⟩ := hstep.newest set hset
  rw [hsnapshot] at hsnapshot'
  cases hsnapshot'
  rw [← hplanned]
  exact hfleet

/-- The host fetches the fleet while the set still waits in the channel. -/
theorem polledRun_fetched :
    ∃ snapshot,
      ((daemonMachine resignedDaemon).run .initial (polledRun.take 3)).verifiedFleet =
        some snapshot ∧
      snapshot.fleet = normalizeRolloutPolicies (commitFleet "new") ∧
      snapshot.fleetResolvedHash = "h2" ∧
      ∀ set, ((daemonMachine resignedDaemon).run .initial (polledRun.take 3)).newestSet = some set →
        set.fleet = normalizeRolloutPolicies (commitFleet "new") := by
  have hfetch : (ManifestCache.mk resignedDaemon.hooks (seconds 3600)).fetchFleet resignedPoll.env =
      .ok (([2], [2]), ⟨normalizeRolloutPolicies (commitFleet "new"), 0⟩, "h2") := rfl
  exact fetchedFleet_planned resignedDaemon (polledRun.take 3) rfl hfetch

end Nixfleet
