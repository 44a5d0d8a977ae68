import Nixfleet.ControlPlane.ManifestPoll
import Nixfleet.ControlPlane.Server
import Nixfleet.ControlPlane.SignedClosures
import Nixfleet.ControlPlane.StaleDispatch

set_option autoImplicit false

/-!
# The control plane's process

The process starts with a fleet that it has polled, or read from the files it was given, and serves
its bytes. From then on a worker polls: it publishes the fleet that it has verified and sends the
set on to the reducer, waiting for room in the channel. No request gets through before a fleet is
verified and, where they are required, the revocations and the bootstrap nonces have been applied.
-/

namespace Nixfleet

/-! ## The process -/

/-- What the process is configured with. -/
structure DaemonConfig extends PollConfig where
  freshnessWindow : Int
  revocationsRequired : Bool
  bootstrapNoncesRequired : Bool

/-- The artifact files, at the clock at which they are read (`none` where one cannot be read or
parsed). -/
structure ArtifactFiles where
  now : Time
  artifact : Option Bytes
  signature : Option Bytes
  trust : Option KeySlot

/-- What the start meets: the poll that primes, unless it times out, and the artifact files. -/
structure Boot where
  poll : Option PollEnv
  files : ArtifactFiles

/-- The process: the server, the verified fleet that the routes read, the set that the poll worker
has to send, and the flags of what has been primed. -/
structure Daemon where
  server : Server
  verifiedFleet : Option VerifiedFleetSnapshot
  sending : Option SignedManifestSet
  artifactPrimed : Bool
  revocationsPrimed : Bool
  bootstrapNoncesPrimed : Bool

/-- The process before it starts, on a fresh database. -/
def Daemon.initial : Daemon := ⟨.initial, none, none, false, false, false⟩

/-- The requests of an agent whose certificate names the machine. -/
inductive AgentRequest where
  | events (machineId : HostId) (envelope : AgentEventEnvelope)
  | heartbeat (machineId : HostId) (heartbeat : Heartbeat)
  | dispatch (machineId : HostId)

def AgentRequest.toServer : AgentRequest → ServerEvent
  | .events machineId envelope => .events machineId envelope
  | .heartbeat machineId hb => .heartbeat machineId hb
  | .dispatch machineId => .takeDispatch machineId

/-- The tasks that run beside the routes and the poll worker. -/
inductive DaemonTask where
  | recv
  | planTicker
  | pruneSweep

def DaemonTask.toServer : DaemonTask → ServerEvent
  | .recv => .recv
  | .planTicker => .planTicker
  | .pruneSweep => .pruneSweep

inductive DaemonEvent where
  | serve (boot : Boot)
  | poll (env : PollEnv)
  | send
  | revocationsApplied
  | bootstrapNoncesApplied
  | request (request : AgentRequest)
  | task (task : DaemonTask)
  | restart

/-- An event, with what its step reads from the outside. -/
structure DaemonInput where
  event : DaemonEvent
  now : Time
  order : MapOrders
  rank : RolloutId → Nat
  faults : Faults

/-- The server's step under the input's surroundings. -/
def DaemonInput.toServer (i : DaemonInput) (event : ServerEvent) : ServerInput :=
  ⟨event, i.now, i.order, i.rank, i.faults⟩

inductive DaemonOutput where
  | notReady
  | server (output : ServerOutput)

/-- `prime_from_artifact_files`. -/
def primeFromArtifactFiles (hooks : VerifyHooks) (freshnessWindow : Int) (files : ArtifactFiles) :
    Option VerifiedFleetSnapshot := do
  let artifact ← files.artifact
  let signature ← files.signature
  let slot ← files.trust
  let verified ← (verifyArtifact hooks artifact signature (slot.activeKeysAt files.now) files.now
    freshnessWindow slot.rejectBefore).toOption
  let fleetHash ← (canonicalHashFromBytes hooks artifact).toOption
  some ⟨verified.inner, fleetHash, artifact, signature⟩

namespace DaemonConfig

variable (cfg : DaemonConfig)

/-- `prime_blocking`: the set of the poll is dropped. -/
def primeBlocking (env : PollEnv) : Option VerifiedFleetSnapshot :=
  (pollOnce cfg.toPollConfig env).toOption.join.map (·.2)

/-- The fleet that the start comes up with: the polled one, or else that of the files. -/
def prime (boot : Boot) : Option VerifiedFleetSnapshot :=
  (boot.poll.bind cfg.primeBlocking).or
    (primeFromArtifactFiles cfg.hooks cfg.freshnessWindow boot.files)

/-- `is_ready`. -/
def isReady (d : Daemon) : Bool :=
  if !d.artifactPrimed then false
  else if cfg.revocationsRequired && !d.revocationsPrimed then false
  else if cfg.bootstrapNoncesRequired && !d.bootstrapNoncesPrimed then false
  else true

end DaemonConfig

namespace Daemon

/-- `publish_verified_fleet`. -/
def publish (d : Daemon) (snapshot : VerifiedFleetSnapshot) : Daemon :=
  { d with verifiedFleet := some snapshot, artifactPrimed := true }

/-- A step of the server. -/
def serverStep (d : Daemon) (i : ServerInput) : Daemon × List DaemonOutput :=
  let r := Nixfleet.serverStep d.server i
  ({ d with server := r.1 }, r.2.map .server)

end Daemon

def daemonStep (cfg : DaemonConfig) (d : Daemon) (i : DaemonInput) : Daemon × List DaemonOutput :=
  match i.event with
  | .serve boot =>
      if d.server.inputs.isSome then (d, [])
      else
        let d := ((cfg.prime boot).map d.publish).getD d
        d.serverStep (i.toServer .serve)
  | .poll env =>
      -- the worker is there once the process has started, and polls again once it has sent
      if d.server.inputs.isNone || d.sending.isSome then (d, [])
      else
        match pollOnce cfg.toPollConfig env with
        | .ok (some (set, snapshot)) => ({ d.publish snapshot with sending := some set }, [])
        | .ok none | .error _ => (d, [])
  | .send =>
      match d.sending with
      | none => (d, [])
      | some set =>
          match d.server.trySend (.manifestSetUpdated set) with
          | none => (d, [])
          | some server => ({ d with server := server, sending := none }, [])
  | .revocationsApplied => ({ d with revocationsPrimed := d.server.inputs.isSome }, [])
  | .bootstrapNoncesApplied => ({ d with bootstrapNoncesPrimed := d.server.inputs.isSome }, [])
  | .request request =>
      if cfg.isReady d then d.serverStep (i.toServer request.toServer) else (d, [.notReady])
  | .task task => d.serverStep (i.toServer task.toServer)
  | .restart => Daemon.serverStep { Daemon.initial with server := d.server } (i.toServer .restart)

/-- The process as a machine. -/
def daemonMachine (cfg : DaemonConfig) : Machine Daemon DaemonInput DaemonOutput :=
  ⟨daemonStep cfg⟩

/-! ## Where the dispatches come from -/

/-- The sets of the polls among the inputs. -/
def polledSets (cfg : DaemonConfig) (is : List DaemonInput) : List SignedManifestSet :=
  is.filterMap fun i =>
    match i.event with
    | .poll env => (pollOnce cfg.toPollConfig env).toOption.join.map (·.1)
    | _ => none

/-- A poll among the inputs has verified a manifest that names the closure for the host, under the
rollout's id. -/
def VouchedByPoll (cfg : DaemonConfig) (is : List DaemonInput) (rid : RolloutId) (host : HostId)
    (closure : ClosureHash) : Prop :=
  ∃ i ∈ is, ∃ env, i.event = .poll env ∧ ∃ channel manifest,
    env.Vouches cfg.toPollConfig channel manifest ∧ rid = .new channel manifest.channelRef ∧
      ∃ hw ∈ manifest.hostSet, hw.hostname = host ∧ hw.targetClosure = closure

theorem vouched_of_declaredIn {cfg : DaemonConfig} {is : List DaemonInput} {rid : RolloutId}
    {host : HostId} {closure : ClosureHash}
    (h : DeclaredIn (polledSets cfg is) rid host closure) :
    VouchedByPoll cfg is rid host closure := by
  obtain ⟨set, hset, ⟨channel, manifest⟩, hmem, hrid, hhost⟩ := h
  obtain ⟨i, hi, hpolled⟩ := List.mem_filterMap.mp hset
  cases hevent : i.event with
  | poll env =>
      simp only [hevent] at hpolled
      obtain ⟨⟨set', snapshot⟩, hjoin, rfl⟩ := Option.map_eq_some_iff.mp hpolled
      have hpoll : pollOnce cfg.toPollConfig env = .ok (some (set', snapshot)) :=
        Except.toOption_eq_some.mp (Option.join_eq_some_iff.mp hjoin)
      obtain ⟨-, -, hvouches⟩ := pollOnce_eq_ok hpoll
      exact ⟨i, hi, env, hevent, channel, manifest,
        hvouches channel manifest (Table.mem_rows.mp hmem), hrid, hhost⟩
  | serve | send | revocationsApplied | bootstrapNoncesApplied | request | task | restart =>
      simp only [hevent] at hpolled
      cases hpolled

section Queue

variable {sets : List SignedManifestSet}

/-- What the queue holds was declared. -/
def Db.QueueDeclared (sets : List SignedManifestSet) (db : Db) : Prop :=
  ∀ host rid q, db.dispatchQueue.lookup (host, rid) = some q →
    (q.hostname = host ∧ q.rolloutId = rid) ∧ DeclaredIn sets rid host q.targetClosure

/-- A plan tick queues the targets of records. -/
theorem runPlan_queueDeclared {rs : ReducerState} {order : MapOrders} {now : Time}
    {faults : Faults} {db : Db} (hk : db.RecordsKeyed)
    (ht : ∀ rid host r, db.loadRecord rid host = some r → DeclaredIn sets rid host r.targetClosure)
    (h : db.QueueDeclared sets) : (runPlan rs order now faults db).QueueDeclared sets := by
  intro host rid q hq
  rcases runPlan_queued hq with hold | ⟨hkey, plan, due, hplan, ha⟩
  · exact h host rid q hold
  · obtain ⟨m, fs, -, -, -, -, hact⟩ := planOf_eq_some hplan
    rw [hact] at ha
    obtain ⟨c, hc, rfl, rfl, hclosure, -, -⟩ := exists_candidate_of_queueDispatch ha
    have hload := loadRecord_of_candidate hplan hk hc
    rw [hclosure]
    exact ⟨hkey, ht _ _ _ hload⟩

/-- **Every queued dispatch was declared.** -/
theorem cpStep_queueDeclared {cp : Cp} (h : cp.DeclaredBy sets) (hq : cp.db.QueueDeclared sets)
    (i : CpInput) : (cpStep cp i).1.db.QueueDeclared sets := by
  refine cpStep_rule (P := Db.QueueDeclared sets) hq ?_ ?_ ?_ ?_
  · intro rs db host rid event _ hdb host' rid' q hlook
    rw [handleHostEvent_dispatchQueue] at hlook
    exact hdb host' rid' q hlook
  · exact fun rs m _ _ => runPlan_queueDeclared h.keyed h.targets hq
  · exact fun _ => hq
  · intro host host' rid q hlook
    unfold Db.takeForHost at hlook
    split at hlook
    · exact hq host' rid q hlook
    · rename_i taken _
      by_cases hkey : (host', rid) = (taken.hostname, taken.rolloutId)
      · rw [hkey] at hlook
        simp at hlook
      · rw [AList.lookup_erase_ne hkey] at hlook
        exact hq host' rid q hlook

/-- The dispatch of an output, planned or delivered. -/
def CpOutput.dispatch? : CpOutput → Option (RolloutId × HostId × ClosureHash)
  | .planned _ (.queueDispatch host rid closure _) => some (rid, host, closure)
  | .delivered d => some (d.rolloutId, d.hostname, d.targetClosure)
  | .planned _ _ | .replied .. => none

/-- What is planned or delivered was declared. -/
theorem dispatch_declared {cp : Cp} (h : cp.DeclaredBy sets) (hq : cp.db.QueueDeclared sets)
    {i : CpInput} {o : CpOutput} {rid : RolloutId} {host : HostId} {closure : ClosureHash}
    (ho : o ∈ (cpStep cp i).2) (hd : o.dispatch? = some (rid, host, closure)) :
    DeclaredIn sets rid host closure := by
  unfold CpOutput.dispatch? at hd
  split at hd
  · cases hd
    obtain ⟨plan, m, hplan, rfl, -, c, hc, rfl, rfl, rfl, -, -⟩ := exists_candidate_of_planned ho
    obtain ⟨rs, -, -, hpl⟩ := Cp.plan_eq_some hplan
    exact h.targets _ _ _ (loadRecord_of_candidate hpl h.keyed hc)
  · cases hd
    obtain ⟨host', hnext⟩ := nextDispatch_of_delivered ho
    obtain ⟨rid', hlook⟩ := lookup_of_nextDispatch hnext
    obtain ⟨⟨rfl, rfl⟩, hdeclared⟩ := hq _ _ _ hlook
    exact hdeclared
  · cases hd
  · cases hd

end Queue

/-! ## The server's part -/

/-- The sets that wait in the channel are of the sets, and so are the closures of the records and
of the queue. -/
structure Server.FromSets (sets : List SignedManifestSet) (sv : Server) : Prop where
  channel : ∀ set, .manifestSetUpdated set ∈ sv.channel → set ∈ sets
  declared : sv.cp.DeclaredBy sets
  queue : sv.cp.db.QueueDeclared sets

section Server

variable {sets : List SignedManifestSet} {sv : Server} {i : ServerInput}

/-- The set that a step hands to the reducer is the first in the channel. -/
theorem mem_channel_of_handled {c : CpInput} (hc : c ∈ sv.handled i) {set : SignedManifestSet}
    (hevent : c.event = .manifestSetUpdated set) : .manifestSetUpdated set ∈ sv.channel := by
  unfold Server.handled at hc
  split at hc
  · split at hc
    · rename_i input rest hinputs
      cases List.mem_singleton.mp hc
      cases input with
      | manifestSetUpdated set' =>
          cases hevent
          simp [Server.channel, hinputs]
      | hostEvent | heartbeatReceived | planTick => cases hevent
    · cases hc
  · cases List.mem_singleton.mp hc
    cases hevent
  · cases List.mem_singleton.mp hc
    cases hevent
  · cases List.mem_singleton.mp hc
    cases hevent
  · cases List.mem_singleton.mp hc
    cases hevent
  all_goals cases hc

theorem serverStep_fromSets (h : sv.FromSets sets)
    (hi : ∀ set, i.event = .manifestPoll set → set ∈ sets) :
    (serverStep sv i).1.FromSets sets := by
  have hchannel : ∀ set, .manifestSetUpdated set ∈ (serverStep sv i).1.channel → set ∈ sets := by
    intro set hmem
    rcases serverStep_channel sv i with hsame | ⟨input, hposts, hput⟩ | ⟨-, input, htaken, -⟩ |
      ⟨-, hlost⟩
    · rw [hsame] at hmem
      exact h.channel set hmem
    · rw [hput, List.mem_append, List.mem_singleton] at hmem
      rcases hmem with hold | rfl
      · exact h.channel set hold
      · refine hi set ?_
        cases hevent : i.event <;> rw [hevent] at hposts <;> cases hposts
        rfl
    · refine h.channel set ?_
      rw [htaken]
      exact List.mem_cons_of_mem _ hmem
    · rw [hlost] at hmem
      cases hmem
  rcases handled_cases sv i with hnone | ⟨c, hone⟩
  · have hcp : (serverStep sv i).1.cp = sv.cp := by rw [serverStep_cp, hnone]; rfl
    exact ⟨hchannel, hcp ▸ h.declared, hcp ▸ h.queue⟩
  · have hcp : (serverStep sv i).1.cp = (cpStep sv.cp c).1 := by rw [serverStep_cp, hone]; rfl
    have hmem : c ∈ sv.handled i := by
      rw [hone]
      exact List.mem_singleton_self c
    refine ⟨hchannel, ?_, ?_⟩
    · rw [hcp]
      exact cpStep_declaredBy h.declared fun set hevent =>
        h.channel set (mem_channel_of_handled hmem hevent)
    · rw [hcp]
      exact cpStep_queueDeclared h.declared h.queue c

theorem Server.FromSets.mono {sets' : List SignedManifestSet} (h : sv.FromSets sets)
    (hsub : sets ⊆ sets') : sv.FromSets sets' := by
  have hdeclared : ∀ {rid host closure}, DeclaredIn sets rid host closure →
      DeclaredIn sets' rid host closure := by
    rintro rid host closure ⟨set, hset, hrest⟩
    exact ⟨set, hsub hset, hrest⟩
  exact ⟨fun set hmem => hsub (h.channel set hmem),
    ⟨h.declared.keyed, fun m hm => hsub (h.declared.cached m hm),
      fun rid host r hr => hdeclared (h.declared.targets rid host r hr)⟩,
    fun host rid q hq => ⟨(h.queue host rid q hq).1, hdeclared (h.queue host rid q hq).2⟩⟩

end Server

/-! ## The process's part -/

section Daemon

variable {cfg : DaemonConfig} {d : Daemon} {i : DaemonInput}

/-- A poll changes nothing, or publishes its fleet and has its set to send. -/
theorem daemonStep_poll (cfg : DaemonConfig) (d : Daemon) {env : PollEnv}
    (hevent : i.event = .poll env) :
    daemonStep cfg d i = (d, []) ∨ ∃ set snapshot, d.server.inputs.isSome = true ∧
      pollOnce cfg.toPollConfig env = .ok (some (set, snapshot)) ∧
        daemonStep cfg d i = ({ d.publish snapshot with sending := some set }, []) := by
  by_cases hbusy : d.server.inputs.isNone || d.sending.isSome
  · left
    simp only [daemonStep, hevent, hbusy, if_true]
  · cases hpoll : pollOnce cfg.toPollConfig env with
    | error err => exact .inl (by simp [daemonStep, hevent, hbusy, hpoll])
    | ok polled =>
        cases polled with
        | none => exact .inl (by simp [daemonStep, hevent, hbusy, hpoll])
        | some pair =>
            refine .inr ⟨pair.1, pair.2, ?_, rfl, by simp [daemonStep, hevent, hbusy, hpoll]⟩
            simp only [Bool.or_eq_true, not_or, Option.isNone_iff_eq_none] at hbusy
            exact Option.isSome_iff_ne_none.mpr hbusy.1

/-- **What a step does with the server.** It leaves it alone, or lets it take a step; a set that
the server is handed is the one that the poll worker had to send, and only a restart restarts
it. -/
theorem daemonStep_server (cfg : DaemonConfig) (d : Daemon) (i : DaemonInput) :
    ((daemonStep cfg d i).1.server = d.server ∧ ∀ o, .server o ∉ (daemonStep cfg d i).2) ∨
      ∃ event, (daemonStep cfg d i).1.server = (serverStep d.server (i.toServer event)).1 ∧
        (∀ o, .server o ∈ (daemonStep cfg d i).2 →
          o ∈ (serverStep d.server (i.toServer event)).2) ∧
        (∀ set, event = .manifestPoll set → d.sending = some set) ∧
          (event = .restart → i.event = .restart) := by
  have hstep : ∀ (d' : Daemon) (event : ServerEvent), d'.server = d.server →
      (∀ set, event ≠ .manifestPoll set) → (event = .restart → i.event = .restart) → ∃ event',
        (d'.serverStep (i.toServer event)).1.server =
          (serverStep d.server (i.toServer event')).1 ∧
        (∀ o, .server o ∈ (d'.serverStep (i.toServer event)).2 →
          o ∈ (serverStep d.server (i.toServer event')).2) ∧
        (∀ set, event' = .manifestPoll set → d.sending = some set) ∧
          (event' = .restart → i.event = .restart) := by
    intro d' event hserver hnot hrestart
    refine ⟨event, ?_, ?_, fun set heq => absurd heq (hnot set), hrestart⟩
    · rw [← hserver]
      rfl
    · intro o ho
      obtain ⟨o', ho', heq⟩ := List.mem_map.mp ho
      cases heq
      rw [← hserver]
      exact ho'
  cases hevent : i.event with
  | serve boot =>
      simp only [daemonStep, hevent]
      split
      · exact .inl ⟨rfl, fun _ h => by cases h⟩
      · refine .inr ?_
        rw [← hevent]
        refine hstep _ _ ?_ (fun set h => by cases h) fun h => by cases h
        cases cfg.prime boot <;> rfl
  | poll env =>
      left
      rcases daemonStep_poll cfg d hevent with heq | ⟨set, snapshot, -, -, heq⟩
      · rw [heq]
        exact ⟨rfl, fun _ h => by cases h⟩
      · rw [heq]
        exact ⟨rfl, fun _ h => by cases h⟩
  | send =>
      simp only [daemonStep, hevent]
      split
      · exact .inl ⟨rfl, fun _ h => by cases h⟩
      · rename_i set hsending
        split
        · exact .inl ⟨rfl, fun _ h => by cases h⟩
        · rename_i server hsend
          refine .inr ⟨.manifestPoll set, ?_, ?_, ?_, fun h => by cases h⟩
          · simp [serverStep, DaemonInput.toServer, hsend]
          · intro o ho
            cases ho
          · rintro _ ⟨⟩
            exact hsending
  | revocationsApplied => exact .inl (by simp [daemonStep, hevent])
  | bootstrapNoncesApplied => exact .inl (by simp [daemonStep, hevent])
  | request request =>
      simp only [daemonStep, hevent]
      split
      · refine .inr ?_
        rw [← hevent]
        refine hstep d _ rfl (fun set h => ?_) fun h => ?_
        · cases request <;> cases h
        · cases request <;> cases h
      · exact .inl ⟨rfl, fun o ho => by cases List.mem_singleton.mp ho⟩
  | task task =>
      simp only [daemonStep, hevent]
      refine .inr ?_
      rw [← hevent]
      refine hstep d _ rfl (fun set h => ?_) fun h => ?_
      · cases task <;> cases h
      · cases task <;> cases h
  | restart =>
      simp only [daemonStep, hevent]
      obtain ⟨event, hserver, houtputs, hpoll, -⟩ :=
        hstep { Daemon.initial with server := d.server } .restart rfl (fun set h => by cases h)
          fun _ => hevent
      exact .inr ⟨event, hserver, houtputs, hpoll, fun _ => trivial⟩

/-- The set that the worker has to send after a step was there before, or the step has polled
it. -/
theorem daemonStep_sending {set : SignedManifestSet}
    (h : (daemonStep cfg d i).1.sending = some set) :
    d.sending = some set ∨ ∃ env snapshot, i.event = .poll env ∧
      pollOnce cfg.toPollConfig env = .ok (some (set, snapshot)) ∧
        (daemonStep cfg d i).1.verifiedFleet = some snapshot := by
  cases hevent : i.event with
  | serve boot =>
      simp only [daemonStep, hevent] at h
      split at h
      · exact .inl h
      · left
        cases hprime : cfg.prime boot <;> rw [hprime] at h <;> exact h
  | poll env =>
      rcases daemonStep_poll cfg d hevent with heq |
        ⟨set', snapshot, -, hpoll, heq⟩
      · rw [heq] at h
        exact .inl h
      · rw [heq] at h ⊢
        cases h
        exact .inr ⟨env, snapshot, rfl, hpoll, rfl⟩
  | send =>
      simp only [daemonStep, hevent] at h
      split at h
      · exact .inl h
      · split at h
        · exact .inl h
        · cases h
  | revocationsApplied =>
      simp only [daemonStep, hevent] at h
      exact .inl h
  | bootstrapNoncesApplied =>
      simp only [daemonStep, hevent] at h
      exact .inl h
  | request request =>
      simp only [daemonStep, hevent] at h
      split at h <;> exact .inl h
  | task task =>
      simp only [daemonStep, hevent] at h
      exact .inl h
  | restart =>
      simp only [daemonStep, hevent] at h
      cases h

/-- The set to send, those in the channel and in memory, and the closures in the database are of the
polls. -/
structure Daemon.FromPolls (cfg : DaemonConfig) (d : Daemon) (past : List DaemonInput) : Prop where
  sending : ∀ set, d.sending = some set → set ∈ polledSets cfg past
  server : d.server.FromSets (polledSets cfg past)

theorem daemonStep_fromPolls {past : List DaemonInput} (h : d.FromPolls cfg past)
    (i : DaemonInput) : (daemonStep cfg d i).1.FromPolls cfg (past ++ [i]) := by
  have hsets : polledSets cfg past ⊆ polledSets cfg (past ++ [i]) := by
    unfold polledSets
    rw [List.filterMap_append]
    exact List.subset_append_left _ _
  refine ⟨?_, ?_⟩
  · intro set hsending
    rcases daemonStep_sending hsending with hold | ⟨env, snapshot, hevent, hpoll, -⟩
    · exact hsets (h.sending set hold)
    · -- the step has polled it
      refine List.mem_filterMap.mpr ⟨i, by simp, ?_⟩
      rw [hevent]
      simp [hpoll, Except.toOption]
  · rcases daemonStep_server cfg d i with ⟨hsame, -⟩ | ⟨event, hstep, -, hsends, -⟩
    · rw [hsame]
      exact h.server.mono hsets
    · rw [hstep]
      refine (serverStep_fromSets h.server ?_).mono hsets
      exact fun set hevent => h.sending set (hsends set hevent)

theorem run_fromPolls (cfg : DaemonConfig) (is : List DaemonInput) :
    ((daemonMachine cfg).run .initial is).FromPolls cfg is := by
  have hstart : Daemon.initial.FromPolls cfg [] := by
    refine ⟨?_, ?_, ?_, ?_⟩
    · intro set h
      cases h
    · intro set h
      cases h
    · exact initial_declaredBy _
    · intro host rid q h
      cases h
  exact (daemonMachine cfg).run_journal (R := fun d past => d.FromPolls cfg past)
    (fun d past i h => daemonStep_fromPolls h i) hstart is

/-- **Every dispatch is vouched for by a poll.** Whatever the process plans or delivers in a run
names a closure that a manifest declares for the host, under the rollout's id, and a poll of the run
has verified the manifest under the keys that were active then, as that of a channel of a fleet that
it had verified. -/
theorem dispatches_vouched (cfg : DaemonConfig) (is : List DaemonInput) {o : CpOutput}
    {rid : RolloutId} {host : HostId} {closure : ClosureHash}
    (ho : .server (.cp o) ∈ (daemonMachine cfg).trace .initial is)
    (hd : o.dispatch? = some (rid, host, closure)) : VouchedByPoll cfg is rid host closure := by
  obtain ⟨past, i, rest, rfl, hstep⟩ := (daemonMachine cfg).exists_step_of_mem_trace ho
  have hfrom := run_fromPolls cfg past
  rcases daemonStep_server cfg ((daemonMachine cfg).run .initial past) i with
    ⟨-, hnone⟩ | ⟨event, -, houtputs, -, -⟩
  · exact absurd hstep (hnone _)
  · obtain ⟨c, -, hc⟩ := mem_serverStep_cp (houtputs _ hstep)
    have hdeclared := dispatch_declared hfrom.server.declared hfrom.server.queue hc hd
    obtain ⟨j, hj, hrest⟩ := vouched_of_declaredIn hdeclared
    exact ⟨j, List.mem_append_left _ hj, hrest⟩

end Daemon

/-- The control plane polls the second fleet and its manifest. -/
def resignedDaemon : DaemonConfig where
  hooks := resignedCache.hooks
  channelRefsSource := some (seconds 3600)
  rolloutsSource := true
  freshnessWindow := seconds 3600
  revocationsRequired := true
  bootstrapNoncesRequired := false

/-- An input with stored orders and no failing statement. -/
def DaemonInput.plain (event : DaemonEvent) : DaemonInput :=
  ⟨event, 0, .stored, fun _ => 0, noFaults⟩

/-- What a poll meets half a minute after the signing. -/
def resignedPollEnv : PollEnv where
  now := seconds 30
  trust := resignedPoll.env.trust
  tokenReads := true
  fleet := some ([2], [2])
  rollouts := fun _ => some ([4], [4])

/-- The process starts, polls, and the host asks for its dispatch. -/
def polledRun : List DaemonInput :=
  [.plain (.serve ⟨some resignedPollEnv, ⟨0, none, none, none⟩⟩),
   .plain (.poll resignedPollEnv), .plain .send, .plain .revocationsApplied,
   .plain (.task .recv), .plain (.task .planTicker), .plain (.request (.dispatch "a"))]

/-- What a step puts out of a dispatch. -/
def DaemonOutput.dispatch? : DaemonOutput → Option (RolloutId × HostId × ClosureHash)
  | .server (.cp o) => o.dispatch?
  | .server (.answered _) | .notReady => none

theorem exists_dispatch_of_check {os : List DaemonOutput} {x : RolloutId × HostId × ClosureHash}
    (h : x ∈ os.filterMap DaemonOutput.dispatch?) :
    ∃ o, .server (.cp o) ∈ os ∧ o.dispatch? = some x := by
  obtain ⟨o, ho, hx⟩ := List.mem_filterMap.mp h
  cases o with
  | notReady => cases hx
  | server o =>
      cases o with
      | answered status => cases hx
      | cp o => exact ⟨o, ho, hx⟩

set_option maxRecDepth 4000 in
theorem polledRun_vouched :
    VouchedByPoll resignedDaemon polledRun (.new "stable" "c1") "a" "new" := by
  have hcheck : (.new "stable" "c1", "a", "new") ∈
      ((daemonMachine resignedDaemon).trace .initial polledRun).filterMap
        DaemonOutput.dispatch? := by decide
  obtain ⟨o, ho, hd⟩ := exists_dispatch_of_check hcheck
  exact dispatches_vouched resignedDaemon polledRun ho hd

end Nixfleet
