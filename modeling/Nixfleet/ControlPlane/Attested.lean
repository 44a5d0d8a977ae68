import Nixfleet.Lib.Feed
import Nixfleet.ControlPlane.HostReplay
import Nixfleet.ControlPlane.Synthesis

set_option autoImplicit false

/-!
# Where applied events come from

The control plane makes up no event of a host. An applied event was posted under the certificate
of its host, or it belongs to a recovery: a heartbeat under that certificate reports the closure
that the event names. The routes put both into one channel, which loses what does not fit and what
waits in it at a restart, and the reducer drops events as well. What it applies is granted by the
requests in the order in which they came (`records_accounted`).
-/

namespace Nixfleet

/-- The events that the reducer may make of a heartbeat for one record: a completed activation, a
completed rollback, or some of the chain of a `Pending` record. The convergence may be stamped
later than the heartbeat, at the end of the soak. -/
def Heartbeat.Recovers (hb : Heartbeat) (block : List OutboundAgentEvent) : Prop :=
  ∃ closure seq reached, hb.currentClosure = some closure ∧ hb.sentAt ≤ reached ∧
    (block = [.activationCompleted closure 0 hb.sentAt (seq + 1)] ∨
      block = [.rollbackComplete closure 0 hb.sentAt (seq + 1)] ∨
      block.Sublist [.dispatchAck "" hb.sentAt (seq + 1),
        .activationCompleted closure 0 hb.sentAt (seq + 2), .converged reached closure (seq + 3)])

/-- The events of a host in a rollout that an input of the reducer accounts for: the event itself,
or a recovery. -/
def CpReducerInput.Grants (host : HostId) (rid : RolloutId) :
    CpReducerInput → List OutboundAgentEvent → Prop
  | .hostEvent host' rid' event, block =>
      host' = host ∧ rid' = rid ∧ ∃ payload, event.logged? = some payload ∧ block = [payload]
  | .heartbeatReceived hb, block => hb.host = host ∧ hb.Recovers block
  | _, _ => False

/-- What a request may put into the reducer's channel: it is of the machine that the caller's
certificate names. -/
def ServerEvent.authorised : ServerEvent → Option CpReducerInput
  | .events machineId envelope =>
      if machineId = envelope.hostname then
        some (.hostEvent envelope.hostname envelope.rolloutId envelope.event.toEvent)
      else none
  | .heartbeat machineId hb => if machineId = hb.host then some (.heartbeatReceived hb) else none
  | .manifestPoll set => some (.manifestSetUpdated set)
  | _ => none

/-! ## One event -/

/-- Between the databases, some of the events offered were applied, in their order. -/
def Db.Gains (db db' : Db) (host : HostId) (rid : RolloutId) (offered : List OutboundAgentEvent) :
    Prop :=
  ∃ block : List OutboundAgentEvent, block.Sublist offered ∧
    db'.appliedEvents host rid = db.appliedEvents host rid ++ block

theorem Db.Gains.refl (db : Db) (host : HostId) (rid : RolloutId)
    (offered : List OutboundAgentEvent) : db.Gains db host rid offered :=
  ⟨[], List.nil_sublist _, (List.append_nil _).symm⟩

theorem Db.Gains.trans {db₁ db₂ db₃ : Db} {host : HostId} {rid : RolloutId}
    {offered₁ offered₂ : List OutboundAgentEvent} (h₁ : db₁.Gains db₂ host rid offered₁)
    (h₂ : db₂.Gains db₃ host rid offered₂) : db₁.Gains db₃ host rid (offered₁ ++ offered₂) := by
  obtain ⟨block₁, hsub₁, heq₁⟩ := h₁
  obtain ⟨block₂, hsub₂, heq₂⟩ := h₂
  exact ⟨block₁ ++ block₂, hsub₁.append hsub₂, by rw [heq₂, heq₁, List.append_assoc]⟩

section Event

variable {rs : ReducerState} {order : MapOrders} {now : Time} {faults : Faults} {db : Db}
  {host host' : HostId} {rid rid' : RolloutId} {event : Event}

/-- A host event is applied, or nothing is. -/
theorem handleHostEvent_gains (hremote : event.isLocal = false) :
    db.Gains (handleHostEvent rs now faults db host rid event) host' rid' event.logged?.toList := by
  rcases handleHostEvent_cases rs now faults db host rid event with
    heq | ⟨m, prior, next, effects, hacc, heq⟩
  · rw [heq]
    exact .refl ..
  · obtain ⟨policy, -, hstep⟩ := hacc.step
    have hlogged : (acceptHostEvent ⟨m, now, faults⟩ db host rid prior.state next
        effects).appliedEvents host' rid' = db.appliedEvents host' rid' ++
          if host' = prior.hostname ∧ rid' = prior.rolloutId then event.logged?.toList else [] := by
      rw [appliedEvents_eq, acceptHostEvent_logged agentEvent?_of_not_isOfRecord,
        hostStep_readAs hstep, hostStep_loggedEvents hstep hremote, ← appliedEvents_eq]
    rw [heq]
    refine ⟨_, ?_, hlogged⟩
    split
    · exact List.Sublist.refl _
    · exact List.nil_sublist _

/-- It is applied to its own record. -/
theorem handleHostEvent_gains_own (hk : db.RecordsKeyed) (hne : ¬ (host' = host ∧ rid' = rid)) :
    (handleHostEvent rs now faults db host rid event).appliedEvents host' rid' =
      db.appliedEvents host' rid' := by
  rcases handleHostEvent_cases rs now faults db host rid event with
    heq | ⟨m, prior, next, effects, hacc, heq⟩
  · rw [heq]
  · obtain ⟨policy, -, hstep⟩ := hacc.step
    obtain ⟨hrid, hhost⟩ := hk _ _ _ hacc.loaded
    rw [heq, appliedEvents_eq, acceptHostEvent_logged agentEvent?_of_not_isOfRecord,
      hostStep_readAs hstep, hrid, hhost, if_neg hne, List.append_nil, ← appliedEvents_eq]

end Event

/-! ## Recoveries -/

section Recovery

variable {rs : ReducerState} {order : MapOrders} {now : Time} {faults : Faults} {db : Db}
  {host host' : HostId} {rid rid' : RolloutId} {agentCurrent : ClosureHash} {at' : Time}
  {record : HostRolloutState}

/-- A turn of a record says nothing of other records. -/
theorem synthesizeFor_gains_own (hk : db.RecordsKeyed) (hhost : record.hostname = host)
    (hne : ¬ (host' = host ∧ rid' = record.rolloutId)) :
    (synthesizeFor rs order now faults host agentCurrent at' db record).appliedEvents host' rid' =
      db.appliedEvents host' rid' := by
  have hdb : db.RecordsKeyed ∧ db.appliedEvents host' rid' = db.appliedEvents host' rid' :=
    ⟨hk, rfl⟩
  have hevent : ∀ db' event,
      db'.RecordsKeyed ∧ db'.appliedEvents host' rid' = db.appliedEvents host' rid' →
      (handleHostEvent rs now faults db' host record.rolloutId event).RecordsKeyed ∧
        (handleHostEvent rs now faults db' host record.rolloutId event).appliedEvents host' rid' =
          db.appliedEvents host' rid' := by
    rintro db' event ⟨hk', hsame⟩
    exact ⟨handleHostEvent_recordsKeyed hk' _ _ _, (handleHostEvent_gains_own hk' hne).trans hsame⟩
  refine (synthesizeFor_rule (P := fun db' : Db => db'.RecordsKeyed ∧
    db'.appliedEvents host' rid' = db.appliedEvents host' rid') hdb
    (fun _ => hevent _ _ hdb) (hevent _ _ hdb) fun _ => ?_).2
  refine synthesizePendingToConverged_rule (P := fun db' : Db => db'.RecordsKeyed ∧
    db'.appliedEvents host' rid' = db.appliedEvents host' rid') ?_ ?_
  · rw [hhost]
    exact hevent _ _ (hevent _ _ hdb)
  · intro db' convergedAt hdb'
    rw [hhost]
    exact hevent _ _ hdb'

/-- What is applied of a chain is applied in the chain's order. -/
theorem synthesizePendingToConverged_gains :
    ∃ reached, at' ≤ reached ∧
      db.Gains (synthesizePendingToConverged rs now faults db record agentCurrent at') host' rid'
        [.dispatchAck "" at' (record.lastEventSeq + 1),
          .activationCompleted agentCurrent 0 at' (record.lastEventSeq + 2),
          .converged reached agentCurrent (record.lastEventSeq + 3)] := by
  unfold synthesizePendingToConverged
  dsimp only
  set acked := handleHostEvent rs now faults db record.hostname record.rolloutId
    (.remoteDispatchAck "" at' (record.lastEventSeq + 1)) with hacked
  set completed := handleHostEvent rs now faults acked record.hostname record.rolloutId
    (.remoteActivationCompleted agentCurrent 0 at' (record.lastEventSeq + 2)) with hcompleted
  have hfirst : db.Gains completed host' rid'
      ([.dispatchAck "" at' (record.lastEventSeq + 1)] ++
        [.activationCompleted agentCurrent 0 at' (record.lastEventSeq + 2)]) :=
    Db.Gains.trans (handleHostEvent_gains rfl) (handleHostEvent_gains rfl)
  split
  · exact ⟨at', le_refl _, hfirst.trans (.refl ..)⟩
  · split
    · exact ⟨at', le_refl _, hfirst.trans (.refl ..)⟩
    · refine ⟨_, ?_, hfirst.trans (handleHostEvent_gains rfl)⟩
      -- the stamp is the end of the soak, if that is still to come
      split
      · split
        · rename_i hlater
          exact le_of_lt hlater
        · exact le_refl _
      · exact le_refl _

/-- **One turn.** What a turn applies to its record is a recovery. -/
theorem synthesizeFor_gains {hb : Heartbeat} (hc : hb.currentClosure = some agentCurrent)
    (host' : HostId) (rid' : RolloutId) :
    ∃ block, hb.Recovers block ∧
      (synthesizeFor rs order now faults host agentCurrent hb.sentAt db record).appliedEvents host'
        rid' = db.appliedEvents host' rid' ++ block := by
  have hnone : ∃ block, hb.Recovers block ∧
      db.appliedEvents host' rid' = db.appliedEvents host' rid' ++ block :=
    ⟨[], ⟨agentCurrent, 0, hb.sentAt, hc, le_refl _, .inr (.inr (List.nil_sublist _))⟩,
      (List.append_nil _).symm⟩
  have hone : ∀ event payload, event.isLocal = false → event.logged? = some payload →
      hb.Recovers [payload] → ∃ block, hb.Recovers block ∧
        (handleHostEvent rs now faults db host record.rolloutId event).appliedEvents host' rid' =
          db.appliedEvents host' rid' ++ block := by
    intro event payload hremote hpayload hrecovers
    have hgains : db.Gains (handleHostEvent rs now faults db host record.rolloutId event) host' rid'
        event.logged?.toList := handleHostEvent_gains hremote
    obtain ⟨block, hsub, heq⟩ := hgains
    rw [hpayload, Option.toList_some] at hsub
    rcases List.sublist_singleton.mp hsub with rfl | rfl
    · rw [heq, List.append_nil]
      exact hnone
    · exact ⟨_, hrecovers, heq⟩
  refine synthesizeFor_rule (P := fun db' : Db => ∃ block, hb.Recovers block ∧
    db'.appliedEvents host' rid' = db.appliedEvents host' rid' ++ block) hnone ?_ ?_ ?_
  · intro _
    exact hone _ _ rfl rfl ⟨agentCurrent, _, hb.sentAt, hc, le_refl _, .inl rfl⟩
  · exact hone _ _ rfl rfl ⟨agentCurrent, _, hb.sentAt, hc, le_refl _, .inr (.inl rfl)⟩
  · intro _
    have hchain : ∃ reached, hb.sentAt ≤ reached ∧
        db.Gains (synthesizePendingToConverged rs now faults db record agentCurrent hb.sentAt)
          host' rid' _ := synthesizePendingToConverged_gains
    obtain ⟨reached, hlater, block, hsub, heq⟩ := hchain
    exact ⟨block, ⟨agentCurrent, _, reached, hc, hlater, .inr (.inr hsub)⟩, heq⟩

/-- All turns of a heartbeat make one recovery of each record of its host, and no others. -/
theorem turns_gains {records : List HostRolloutState} {hb : Heartbeat}
    (hc : hb.currentClosure = some agentCurrent) (h : Agenda host db records) (host' : HostId)
    (rid' : RolloutId) :
    ∃ block, (block = [] ∨ host = host' ∧ hb.Recovers block) ∧
      (records.foldl (synthesizeFor rs order now faults host agentCurrent hb.sentAt)
        db).appliedEvents host' rid' = db.appliedEvents host' rid' ++ block := by
  induction records generalizing db with
  | nil => exact ⟨[], .inl rfl, (List.append_nil _).symm⟩
  | cons record records ih =>
      have hhost := (h.stored record List.mem_cons_self).1
      rw [List.foldl_cons]
      by_cases hown : host' = host ∧ rid' = record.rolloutId
      · obtain ⟨rfl, rfl⟩ := hown
        have hturn : ∃ block, hb.Recovers block ∧
            (synthesizeFor rs order now faults host' agentCurrent hb.sentAt db record).appliedEvents
              host' record.rolloutId = db.appliedEvents host' record.rolloutId ++ block :=
          synthesizeFor_gains hc host' record.rolloutId
        obtain ⟨block, hblock, heq⟩ := hturn
        refine ⟨block, .inr ⟨rfl, hblock⟩, ?_⟩
        -- the later turns are about other rollouts
        refine turns_invariant (P := fun db' => db'.appliedEvents host' record.rolloutId =
          db.appliedEvents host' record.rolloutId ++ block) ?_ h.next heq
        intro db' later hlater hk' hload' hsame
        have hne := h.ne hlater
        rw [synthesizeFor_gains_own hk' (hk' _ _ _ hload').2 fun hsame' => hne hsame'.2.symm]
        exact hsame
      · obtain ⟨block, hblock, heq⟩ := ih h.next
        rw [synthesizeFor_gains_own h.keyed hhost hown] at heq
        exact ⟨block, hblock, heq⟩

end Recovery

/-! ## One input -/

section Input

variable {cp : Cp} {i : CpInput} {host : HostId} {rid : RolloutId}

/-- The other events of the control plane apply nothing. -/
theorem cpStep_gains_none
    (hevent : ∀ host rid event, i.event ≠ .hostEvent host rid event)
    (hheartbeat : ∀ hb, i.event ≠ .heartbeatReceived hb) :
    (cpStep cp i).1.db.appliedEvents host rid = cp.db.appliedEvents host rid := by
  unfold cpStep
  split
  · rename_i heq
    exact absurd heq (hevent _ _ _)
  · exact runPlan_appliedEvents ..
  · rename_i heq
    exact absurd heq (hheartbeat _)
  · exact runPlan_appliedEvents ..
  · rfl
  · rfl
  · exact takeForHost_proj cp.db (f := fun db => db.appliedEvents host rid) (fun _ _ => rfl) _ _

/-- **One input.** What the reducer applies when it handles an input, the input grants. -/
theorem cpStep_gains (hk : cp.db.RecordsKeyed) {input : CpReducerInput}
    (hremote : ∀ host rid event, input = .hostEvent host rid event → event.isLocal = false)
    (hi : i.event = input.event) (host : HostId) (rid : RolloutId) :
    ∃ block, (block = [] ∨ input.Grants host rid block) ∧
      (cpStep cp i).1.db.appliedEvents host rid = cp.db.appliedEvents host rid ++ block := by
  cases input with
  | hostEvent host' rid' event =>
      have hrun : (cpStep cp i).1.db =
          handleHostEvent cp.rs i.now i.faults cp.db host' rid' event := by
        unfold cpStep
        simp only [hi, CpReducerInput.event]
      rw [hrun]
      by_cases hown : host = host' ∧ rid = rid'
      · obtain ⟨rfl, rfl⟩ := hown
        have hgains : cp.db.Gains (handleHostEvent cp.rs i.now i.faults cp.db host rid event) host
            rid event.logged?.toList := handleHostEvent_gains (hremote host rid event rfl)
        obtain ⟨block, hsub, heq⟩ := hgains
        obtain ⟨payload, hpayload⟩ := exists_logged (hremote host rid event rfl)
        rw [hpayload, Option.toList_some] at hsub
        refine ⟨block, ?_, heq⟩
        rcases List.sublist_singleton.mp hsub with hnil | hone
        · exact .inl hnil
        · exact .inr ⟨rfl, rfl, payload, hpayload, hone⟩
      · exact ⟨[], .inl rfl, by rw [handleHostEvent_gains_own hk hown, List.append_nil]⟩
  | heartbeatReceived hb =>
      rcases cpStep_turns_cases cp hi with heq | ⟨agentCurrent, hc, -, heq⟩
      · exact ⟨[], .inl rfl, by rw [heq, List.append_nil]⟩
      · rw [heq]
        exact turns_gains hc (agenda_activeForHost hk hb.host) host rid
  | manifestSetUpdated set =>
      refine ⟨[], .inl rfl, ?_⟩
      rw [List.append_nil]
      exact cpStep_gains_none (by simp [hi, CpReducerInput.event])
        (by simp [hi, CpReducerInput.event])
  | planTick =>
      refine ⟨[], .inl rfl, ?_⟩
      rw [List.append_nil]
      exact cpStep_gains_none (by simp [hi, CpReducerInput.event])
        (by simp [hi, CpReducerInput.event])

end Input

/-! ## The server -/

section Server

variable {sv : Server} {i : ServerInput}

/-- What a step puts into the channel is authorised. -/
theorem serverStep_authorised {input : CpReducerInput} (hposts : i.event.posts = some input)
    (h : (serverStep sv i).1.channel = sv.channel ++ [input]) :
    i.event.authorised = some input := by
  have hfull : sv.channel ≠ sv.channel ++ [input] := by
    intro heq
    have hlength := congrArg List.length heq
    rw [List.length_append, List.length_singleton] at hlength
    omega
  cases hevent : i.event with
  | events machineId envelope =>
      rw [hevent] at hposts
      by_cases hname : machineId = envelope.hostname
      · simp only [ServerEvent.authorised, if_pos hname]
        exact hposts
      · -- the request is forbidden
        simp only [serverStep, hevent, Server.events, if_pos hname] at h
        exact absurd h hfull
  | heartbeat machineId hb =>
      rw [hevent] at hposts
      by_cases hname : machineId = hb.host
      · simp only [ServerEvent.authorised, if_pos hname]
        exact hposts
      · simp only [serverStep, hevent, Server.heartbeat, if_pos hname] at h
        exact absurd h hfull
  | manifestPoll set =>
      rw [hevent] at hposts
      exact hposts
  | serve | recv | planTicker | restart | pruneSweep | takeDispatch =>
      rw [hevent] at hposts
      cases hposts

/-- Only what the reducer takes from its channel is applied. -/
theorem serverStep_gains_none (hrecv : i.event ≠ .recv) (host : HostId) (rid : RolloutId) :
    (serverStep sv i).1.cp.db.appliedEvents host rid = sv.cp.db.appliedEvents host rid := by
  rw [serverStep_cp]
  unfold Server.handled
  cases hevent : i.event with
  | recv => exact absurd hevent hrecv
  | planTicker | restart | pruneSweep | takeDispatch host =>
      exact cpStep_gains_none (by simp [ServerInput.cpInput]) (by simp [ServerInput.cpInput])
  | serve | events | heartbeat | manifestPoll => rfl

/-- The channel is fed by the authorised requests, and the applied events are granted by it. -/
def Server.FedBy (sv : Server) (past : List ServerInput) : Prop :=
  ∀ host rid, Fed (CpReducerInput.Grants host rid) (past.filterMap (·.event.authorised))
    sv.channel (sv.cp.db.appliedEvents host rid)

theorem serverStep_fedBy {past : List ServerInput} (hsound : sv.Sound) (h : sv.FedBy past) :
    (serverStep sv i).1.FedBy (past ++ [i]) := by
  intro host rid
  have hfed := h host rid
  by_cases hrecv : i.event = .recv
  · have hnone : (past ++ [i]).filterMap (·.event.authorised) =
        past.filterMap (·.event.authorised) := by
      simp [hrecv, ServerEvent.authorised]
    rw [hnone]
    cases hinputs : sv.inputs with
    | none =>
        have hstep : (serverStep sv i).1 = sv := by simp only [serverStep, hrecv, hinputs]
        rw [hstep]
        exact hfed
    | some inputs =>
        cases inputs with
        | nil =>
            have hstep : (serverStep sv i).1 = sv := by simp only [serverStep, hrecv, hinputs]
            rw [hstep]
            exact hfed
        | cons input rest =>
            have hchannel : sv.channel = input :: rest := by simp [Server.channel, hinputs]
            have hleft : (serverStep sv i).1.channel = rest := by
              simp only [serverStep, hrecv, hinputs]
              rfl
            have hcp : (serverStep sv i).1.cp = (cpStep sv.cp (i.cpInput input.event)).1 := by
              simp only [serverStep, hrecv, hinputs]
              rfl
            rw [hchannel] at hfed
            have hremote : ∀ host rid event, input = .hostEvent host rid event →
                event.isLocal = false := by
              rintro host' rid' event rfl
              exact hsound.remote _ hinputs host' rid' event List.mem_cons_self
            have hgains : ∃ block, (block = [] ∨ input.Grants host rid block) ∧
                (cpStep sv.cp (i.cpInput input.event)).1.db.appliedEvents host rid =
                  sv.cp.db.appliedEvents host rid ++ block :=
              cpStep_gains hsound.numbers.keyed hremote rfl host rid
            obtain ⟨block, hblock, heq⟩ := hgains
            rw [hleft, hcp, heq]
            rcases hblock with rfl | hgrants
            · rw [List.append_nil]
              exact hfed.lose (List.sublist_cons_self input rest)
            · exact hfed.take hgrants
  · rw [List.filterMap_append, serverStep_gains_none hrecv]
    rcases serverStep_channel sv i with hsame | ⟨input, hposts, hput⟩ | ⟨heq, -⟩ | ⟨-, hempty⟩
    · rw [hsame]
      exact hfed.miss _
    · have hauthorised := serverStep_authorised hposts hput
      rw [hput]
      simp only [List.filterMap_cons, hauthorised, List.filterMap_nil]
      exact hfed.post input
    · exact absurd heq hrecv
    · rw [hempty]
      exact (hfed.miss _).lose (List.nil_sublist _)

end Server

/-- A record that has not moved is pending. -/
theorem run_untouched_pending (is : List CpInput) :
    (cpMachine.run .initial is).db.RecordsAll fun r => r.lastEventSeq = 0 → r.state = .pending := by
  refine cpMachine.run_invariant_of_step (P := fun cp => cp.db.RecordsAll fun r =>
    r.lastEventSeq = 0 → r.state = .pending) (fun cp i h => cpStep_records ?_ ?_ h i) ?_ is
  · exact fun _ _ _ _ _ => rfl
  · intro s e p s' effects _ hstep hzero
    have hlt := hostStep_seq_lt hstep
    have hseq := (hostStep_spec hstep).seq
    omega
  · intro rid host r hr
    cases hr

/-- The requests account for what the server knows of the hosts: the applied events are granted by
them, and a record that has moved was last moved by an event that one of them grants. -/
def Server.AccountedBy (sv : Server) (requests : List ServerEvent) : Prop :=
  ∀ host rid,
    Granted (CpReducerInput.Grants host rid) (requests.filterMap ServerEvent.authorised)
      (sv.cp.db.appliedEvents host rid) ∧
    ∀ r, sv.cp.db.loadRecord rid host = some r → r.state ≠ .pending →
      ∃ request ∈ requests, ∃ input block, request.authorised = some input ∧
        input.Grants host rid block ∧ ∃ payload ∈ block, payload.seq = r.lastEventSeq

/-- **The control plane makes up no event.** -/
theorem records_accounted (is : List ServerInput) :
    (serverMachine.run .initial is).AccountedBy (is.map (·.event)) := by
  have hsim : ∀ sv i, Server.cp (serverMachine.step sv i).1 =
      cpMachine.run (Server.cp sv) (Server.handled sv i) := serverStep_cp
  have hinv : (serverMachine.run .initial is).Sound ∧
      (serverMachine.run .initial is).FedBy ([] ++ is) := by
    refine serverMachine.run_journal (R := fun sv past => sv.Sound ∧ sv.FedBy past) ?_
      ⟨Server.initial_sound, fun _ _ => Fed.nil⟩ is
    rintro sv past i ⟨hsound, hfed⟩
    exact ⟨serverStep_sound hsound i, serverStep_fedBy hsound hfed⟩
  obtain ⟨hsound, hfed⟩ := hinv
  intro host rid
  have hgranted : Granted (CpReducerInput.Grants host rid)
      ((is.map (·.event)).filterMap ServerEvent.authorised)
      ((serverMachine.run .initial is).cp.db.appliedEvents host rid) := by
    have hfed' := (hfed host rid).granted
    rw [List.nil_append] at hfed'
    rw [List.filterMap_map]
    exact hfed'
  refine ⟨hgranted, fun r hr hmoved => ?_⟩
  rcases hsound.numbers.last rid host r hr with hzero | ⟨payload, hmem, hseq⟩
  · have hpending := serverMachine.run_of_simulation hsim .initial is
    rw [hpending] at hr
    exact absurd ((run_untouched_pending _ rid host r hr).2 hzero) hmoved
  · obtain ⟨input, hinput, block, hgrants, hin⟩ := hgranted.exists_of_mem hmem
    obtain ⟨request, hrequest, hauthorised⟩ := List.mem_filterMap.mp hinput
    exact ⟨request, hrequest, input, block, hauthorised, hgrants, payload, hin, hseq⟩

end Nixfleet
