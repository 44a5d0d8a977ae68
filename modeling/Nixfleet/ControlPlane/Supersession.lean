import Nixfleet.ControlPlane.Projection
import Nixfleet.Reconciler.Manifest

set_option autoImplicit false

/-!
# One live rollout per channel

A rollout is live until its row is `Superseded` or `Pruned`, and no rollout comes back from there
(`LiveWithin`). Opening a rollout supersedes every other live one of its channel
(`openRollout_live`), so a channel has at most one. A tick opens what has no row, and only then:
the rollout of the current manifest is the live one after every tick as long as no manifest names
a rollout again that was superseded before (`current_rollout_live`).
-/

namespace Nixfleet

/-- The rollout has a live row of the channel. -/
def Db.Live (db : Db) (rid : RolloutId) (channel : ChannelId) : Prop :=
  ∃ row ∈ db.rollouts.lookup rid, row.channel = channel ∧ row.state.isLive = true

instance (db : Db) (rid : RolloutId) (channel : ChannelId) : Decidable (db.Live rid channel) :=
  inferInstanceAs (Decidable (∃ row ∈ db.rollouts.lookup rid, _))

/-- A rollout is live in one channel. -/
theorem Db.Live.channel_eq {db : Db} {rid : RolloutId} {channel channel' : ChannelId}
    (h : db.Live rid channel) (h' : db.Live rid channel') : channel = channel' := by
  obtain ⟨row, hrow, rfl, -⟩ := h
  obtain ⟨row', hrow', rfl, -⟩ := h'
  rw [Option.mem_def.mp hrow] at hrow'
  cases hrow'
  rfl

theorem live_congr {db db' : Db} (h : db'.rollouts = db.rollouts) {rid : RolloutId}
    {channel : ChannelId} : db'.Live rid channel ↔ db.Live rid channel := by
  unfold Db.Live
  rw [h]

theorem mem_listActive {db : Db} {rid : RolloutId} {row : RolloutRow} :
    (rid, row) ∈ db.listActive ↔
      db.rollouts.lookup rid = some row ∧ row.state.isLive = true := by
  simp [Db.listActive, RolloutState.isLive, Table.mem_rows]

/-! ## One event -/

/-- What one event can do to a row: its state stays, or is one that the machine returned for the
event of this rollout. -/
def RowMoved (e : RolloutEvent) (rid : RolloutId) (row row' : RolloutRow) : Prop :=
  row'.channel = row.channel ∧ (row'.state = row.state ∨ rid = e.rolloutId ∧
    ∃ next effects, rolloutStep row e = .ok (next, effects) ∧
      ∃ rid' src t, .recordRolloutTransition rid' src row'.state t ∈ effects)

theorem RowMoved.isLive {e : RolloutEvent} {rid : RolloutId} {row row' : RolloutRow}
    (h : RowMoved e rid row row') (hlive : row'.state.isLive = true) : row.state.isLive = true := by
  rcases h.2 with heq | ⟨-, next, effects, hstep, rid', src, t, hmem⟩
  · rw [← heq]
    exact hlive
  · -- a transition out of the row's own state
    obtain ⟨move, wave, rfl, hmove⟩ := rolloutStep_spec hstep
    exact (hmove _ (mem_moveEffects.mp hmem).2.2).isLive hlive

/-- An event that ends no rollout leaves the state, or moves to a live one. -/
theorem RowMoved.same_or_isLive {e : RolloutEvent} {rid : RolloutId} {row row' : RolloutRow}
    (h : RowMoved e rid row row') (he : e.ends = false) :
    row'.state = row.state ∨ row'.state.isLive = true := by
  rcases h.2 with heq | ⟨-, next, effects, hstep, rid', src, t, hmem⟩
  · exact .inl heq
  · exact .inr (isLive_of_mem_effects hstep he hmem)

section Event

variable {ctx : ApplierCtx} {db : Db} {e : RolloutEvent}

@[simp] theorem setState_channel (row : RolloutRow) (dst : RolloutState) (t : Time) :
    (row.setState dst t).channel = row.channel := by
  unfold RolloutRecord.setState
  split
  · rfl
  · split <;> rfl

theorem processRolloutEvent_isSome (rid : RolloutId) :
    ((processRolloutEvent ctx db e).rollouts.lookup rid).isSome =
      (db.rollouts.lookup rid).isSome := by
  refine processRolloutEvent_proj ctx db (f := fun db : Db => (db.rollouts.lookup rid).isSome)
    (fun _ _ _ _ _ _ _ => rfl) ?_ e
  intro db effect
  cases effect with
  | recordRolloutTransition rid' src dst t =>
      simp only [applyRolloutEffect, appendEventLog_rollouts]
      split
      · rfl
      · simp only [Db.recordRolloutTransition, Table.lookup_modify]
        split
        · rename_i h
          rw [Option.isSome_map, h]
        · rfl
  | updateCurrentWave rid' wave =>
      simp only [applyRolloutEffect]
      split
      · rfl
      · rw [setCurrentWave_lookup, Option.isSome_map]

/-- **What one event does to the rows.** -/
theorem processRolloutEvent_moved (h : db.RowsOk) {rid : RolloutId} {row' : RolloutRow}
    (hrow' : (processRolloutEvent ctx db e).rollouts.lookup rid = some row') :
    ∃ row, db.rollouts.lookup rid = some row ∧ RowMoved e rid row row' := by
  suffices hall : ∀ row', (processRolloutEvent ctx db e).rollouts.lookup rid = some row' →
      ∃ row, db.rollouts.lookup rid = some row ∧ RowMoved e rid row row' from hall row' hrow'
  unfold processRolloutEvent
  have same : ∀ row', db.rollouts.lookup rid = some row' →
      ∃ row, db.rollouts.lookup rid = some row ∧ RowMoved e rid row row' :=
    fun row' hrow' => ⟨row', hrow', rfl, .inl rfl⟩
  split
  · exact same
  · split
    · exact same
    · rename_i row₀ hrow₀
      dsimp only
      split
      · rename_i next effects hstep
        have hown : ∀ effect ∈ effects, ∀ rid' src dst t,
            effect = .recordRolloutTransition rid' src dst t → rid' = e.rolloutId := by
          rintro effect hmem rid' src dst t rfl
          obtain ⟨move, wave, rfl, -⟩ := rolloutStep_spec hstep
          rw [(mem_moveEffects.mp hmem).1, (h _ _ hrow₀).keyed]
        refine List.foldlRecOn (motive := fun db' : Db => ∀ row', db'.rollouts.lookup rid =
          some row' → ∃ row, db.rollouts.lookup rid = some row ∧ RowMoved e rid row row') _ _
          same ?_
        intro db' ih effect hmem row' hrow'
        cases effect with
        | updateCurrentWave rid' wave =>
            simp only [applyRolloutEffect] at hrow'
            split at hrow'
            · exact ih row' hrow'
            · rw [setCurrentWave_lookup] at hrow'
              obtain ⟨row₁, hrow₁, rfl⟩ := Option.map_eq_some_iff.mp hrow'
              have hmoved := ih row₁ hrow₁
              split
              · exact hmoved
              · exact hmoved
        | recordRolloutTransition rid' src dst t =>
            simp only [applyRolloutEffect, appendEventLog_rollouts] at hrow'
            split at hrow'
            · exact ih row' hrow'
            · simp only [Db.recordRolloutTransition, Table.lookup_modify] at hrow'
              split at hrow'
              · -- the row of the event, in the state that the machine returned
                rename_i heq
                have hrid := hown _ hmem _ _ _ _ rfl
                subst heq hrid
                obtain ⟨row₁, hrow₁, rfl⟩ := Option.map_eq_some_iff.mp hrow'
                obtain ⟨row, hrow, hchannel, -⟩ := ih row₁ hrow₁
                rw [hrow₀] at hrow
                cases hrow
                refine ⟨row₀, hrow₀, by rw [setState_channel, hchannel], .inr ⟨rfl, next,
                  effects, hstep, ?_⟩⟩
                exact ⟨_, src, t, by rw [setState_state]; exact hmem⟩
              · exact ih row' hrow'
      · exact same

/-- An event leaves every row there. -/
theorem exists_rowMoved (h : db.RowsOk) {rid : RolloutId} {row : RolloutRow}
    (hrow : db.rollouts.lookup rid = some row) :
    ∃ row', (processRolloutEvent ctx db e).rollouts.lookup rid = some row' ∧
      RowMoved e rid row row' := by
  have hsome : ((processRolloutEvent ctx db e).rollouts.lookup rid).isSome = true := by
    rw [processRolloutEvent_isSome, hrow]
    rfl
  obtain ⟨row', hrow'⟩ := Option.isSome_iff_exists.mp hsome
  obtain ⟨row₁, hrow₁, hmoved⟩ := processRolloutEvent_moved h hrow'
  have hsame : row₁ = row := Option.some.inj (hrow₁.symm.trans hrow)
  exact ⟨row', hrow', hsame ▸ hmoved⟩

/-- No event brings a rollout back. -/
theorem processRolloutEvent_liveWithin (h : db.RowsOk) {rid : RolloutId} {channel : ChannelId}
    (hlive : (processRolloutEvent ctx db e).Live rid channel) : db.Live rid channel := by
  obtain ⟨row', hrow', rfl, hlive⟩ := hlive
  obtain ⟨row, hrow, hmoved⟩ := processRolloutEvent_moved h hrow'
  exact ⟨row, hrow, hmoved.1.symm, hmoved.isLive hlive⟩

/-- Only the events that end a rollout take a live one away. -/
theorem processRolloutEvent_live (h : db.RowsOk) (he : e.ends = false) {rid : RolloutId}
    {channel : ChannelId} :
    (processRolloutEvent ctx db e).Live rid channel ↔ db.Live rid channel := by
  refine ⟨processRolloutEvent_liveWithin h, ?_⟩
  rintro ⟨row, hrow, rfl, hlive⟩
  obtain ⟨row', hrow', hmoved⟩ := exists_rowMoved h hrow
  refine ⟨row', hrow', hmoved.1, ?_⟩
  rcases hmoved.same_or_isLive he with heq | hlive'
  · rw [heq]
    exact hlive
  · exact hlive'

theorem rolloutStep_successorOpened {r : RolloutRecord} (hlive : r.state.isLive = true)
    (rid successor : RolloutId) (t : Time) :
    rolloutStep r (.successorOpened rid successor t) = r.supersede t := by
  unfold rolloutStep
  cases hs : r.state with
  | superseded | pruned =>
      rw [hs] at hlive
      cases hlive
  | _ => rfl

/-- Without failing statements a transition that the machine returns alone is written. -/
theorem processRolloutEvent_of_moveTo (h : db.RowsOk) (hfaults : ctx.faults = noFaults)
    {rid : RolloutId} {row next : RolloutRow} (hrow : db.rollouts.lookup rid = some row)
    {dst : RolloutState} {t : Time} (hstep : rolloutStep row e =
      .ok (next, [.recordRolloutTransition row.rolloutId row.state dst t]))
    (hrid : e.rolloutId = rid) :
    (processRolloutEvent ctx db e).rollouts.lookup rid = some (row.setState dst t) := by
  have hkey : row.rolloutId = e.rolloutId := (h rid row hrow).keyed.trans hrid.symm
  rw [← hrid] at hrow ⊢
  simp only [processRolloutEvent, hfaults, noFaults, Bool.false_eq_true, if_false, hrow, hstep,
    List.foldl_cons, List.foldl_nil, applyRolloutEffect, appendEventLog_rollouts, hkey,
    Db.recordRolloutTransition, Table.lookup_modify, if_true, Option.map_some]

/-- Without failing statements a successor ends the rollout it names, and no other. -/
theorem successorOpened_live (h : db.RowsOk) (hfaults : ctx.faults = noFaults)
    (predecessor successor : RolloutId) (t : Time) {rid : RolloutId} {channel : ChannelId} :
    (processRolloutEvent ctx db (.successorOpened predecessor successor t)).Live rid channel ↔
      db.Live rid channel ∧ rid ≠ predecessor := by
  constructor
  · intro hlive
    have hbefore := processRolloutEvent_liveWithin h hlive
    refine ⟨hbefore, ?_⟩
    rintro rfl
    obtain ⟨row, hrow, rfl, hstate⟩ := hbefore
    obtain ⟨row', hrow', -, hstate'⟩ := hlive
    -- the row is written as superseded
    have hwritten : (processRolloutEvent ctx db (.successorOpened rid successor t)).rollouts.lookup
        rid = some (row.setState .superseded t) :=
      processRolloutEvent_of_moveTo h hfaults hrow
        (rolloutStep_successorOpened hstate rid successor t) rfl
    rw [hwritten, Option.mem_some_iff] at hrow'
    rw [← hrow', setState_state] at hstate'
    cases hstate'
  · rintro ⟨⟨row, hrow, rfl, hlive⟩, hne⟩
    obtain ⟨row', hrow', hchannel, hstate⟩ := exists_rowMoved h hrow
    refine ⟨row', hrow', hchannel, ?_⟩
    rcases hstate with heq | ⟨hrid, -⟩
    · rw [heq]
      exact hlive
    · exact absurd hrid hne

end Event

/-! ## Opening a rollout -/

section Open

variable {ctx : ApplierCtx} {db : Db} {rid : RolloutId} {channel : ChannelId}

/-- The row of the rollout, if there is one, is a live one of the channel. -/
def Db.Fits (db : Db) (rid : RolloutId) (channel : ChannelId) : Prop :=
  (db.rollouts.lookup rid).isSome = true → db.Live rid channel

/-- After the insert the rollout is live in its channel, and all others are as before. -/
theorem recordRolloutOpened_live (hfits : db.Fits rid channel) (targetRef : ChannelRef) (t : Time)
    {rid' : RolloutId} {channel' : ChannelId} :
    (db.recordRolloutOpened rid channel targetRef t).Live rid' channel' ↔
      (rid' = rid ∧ channel' = channel) ∨ db.Live rid' channel' := by
  unfold Db.recordRolloutOpened
  split
  · -- the row stays
    rename_i hsome
    refine ⟨.inr, ?_⟩
    rintro (⟨rfl, rfl⟩ | hlive)
    · exact hfits hsome
    · exact hlive
  · rename_i hnone
    simp only [Bool.not_eq_true, Option.isSome_eq_false_iff, Option.isNone_iff_eq_none] at hnone
    by_cases hrid : rid' = rid
    · subst hrid
      have hnot : ¬ db.Live rid' channel' := by
        rintro ⟨row, hrow, -⟩
        rw [hnone] at hrow
        cases hrow
      simp only [Db.Live, Table.lookup_insert_eq, if_true, Option.mem_some_iff, exists_eq_left',
        true_and]
      constructor
      · rintro ⟨rfl, -⟩
        exact .inl rfl
      · rintro (rfl | hlive)
        · exact ⟨rfl, rfl⟩
        · exact absurd hlive hnot
    · simp only [Db.Live, Table.lookup_insert_eq, hrid, if_false, false_and, false_or]

/-- The predecessors' turn. -/
theorem foldl_successorOpened_live (hfaults : ctx.faults = noFaults) (successor : RolloutId)
    (t : Time) (predecessors : List RolloutId) {db : Db} (h : db.RowsOk) :
    (predecessors.foldl (fun db predecessor =>
      processRolloutEvent ctx db (.successorOpened predecessor successor t)) db).RowsOk ∧
    ∀ rid channel, (predecessors.foldl (fun db predecessor =>
      processRolloutEvent ctx db (.successorOpened predecessor successor t)) db).Live rid channel ↔
        db.Live rid channel ∧ rid ∉ predecessors := by
  induction predecessors generalizing db with
  | nil => exact ⟨h, by simp⟩
  | cons predecessor rest ih =>
      obtain ⟨hok, hlive⟩ := ih (processRolloutEvent_rows h
        (.successorOpened predecessor successor t)).1
      refine ⟨hok, fun rid channel => ?_⟩
      rw [List.foldl_cons, hlive, successorOpened_live h hfaults]
      simp only [List.mem_cons, not_or, and_assoc]

/-- **Opening a rollout** makes it the one live rollout of its channel, and leaves the other
channels alone. -/
theorem openRollout_live (hfaults : ctx.faults = noFaults) (h : db.RowsOk)
    (hfits : db.Fits rid channel) (targetRef : ChannelRef) {rid' : RolloutId}
    {channel' : ChannelId} :
    (openRollout ctx db rid channel targetRef).Live rid' channel' ↔
      (rid' = rid ∧ channel' = channel) ∨ (channel' ≠ channel ∧ db.Live rid' channel') := by
  obtain ⟨predecessors, hpredecessors⟩ : ∃ predecessors : List RolloutId, predecessors =
      (db.listActive.filter fun r => r.2.channel = channel ∧ r.1 ≠ rid).map Prod.fst := ⟨_, rfl⟩
  have hmem : ∀ p, p ∈ predecessors ↔ db.Live p channel ∧ p ≠ rid := by
    intro p
    simp only [hpredecessors, List.mem_map, List.mem_filter, decide_eq_true_eq, Prod.exists,
      exists_and_right, exists_eq_right, mem_listActive, Db.Live, Option.mem_def]
    constructor
    · rintro ⟨row, ⟨hrow, hlive⟩, hchannel, hne⟩
      exact ⟨⟨row, hrow, hchannel, hlive⟩, hne⟩
    · rintro ⟨⟨row, hrow, hchannel, hlive⟩, hne⟩
      exact ⟨row, ⟨hrow, hlive⟩, hchannel, hne⟩
  -- the insert, then the predecessors
  have hopened : ((db.recordRolloutOpened rid channel targetRef ctx.now).appendEventLog ctx.now
      none (some rid) (.rolloutEvent (.rolloutOpened rid channel targetRef ctx.now))).RowsOk :=
    (recordRolloutOpened_rows ⟨h, .refl db⟩ rid channel targetRef ctx.now).1
  obtain ⟨hok, hlive⟩ := foldl_successorOpened_live hfaults rid ctx.now predecessors hopened
  have hsuperseded : ∀ rid' channel', (predecessors.foldl (fun db predecessor =>
      processRolloutEvent ctx db (.successorOpened predecessor rid ctx.now))
      ((db.recordRolloutOpened rid channel targetRef ctx.now).appendEventLog ctx.now
        none (some rid) (.rolloutEvent (.rolloutOpened rid channel targetRef ctx.now)))).Live rid'
          channel' ↔ (rid' = rid ∧ channel' = channel) ∨
            (channel' ≠ channel ∧ db.Live rid' channel') := by
    intro rid' channel'
    rw [hlive, live_congr (appendEventLog_rollouts ..), recordRolloutOpened_live hfits, hmem]
    constructor
    · rintro ⟨hwhich | hold, hnot⟩
      · exact .inl hwhich
      · by_cases hch : channel' = channel
        · subst hch
          left
          by_contra hne
          exact hnot ⟨hold, fun hrid => hne ⟨hrid, rfl⟩⟩
        · exact .inr ⟨hch, hold⟩
    · rintro (⟨rfl, rfl⟩ | ⟨hch, hold⟩)
      · exact ⟨.inl ⟨rfl, rfl⟩, fun hboth => hboth.2 rfl⟩
      · exact ⟨.inr hold, fun hboth => hch (hold.channel_eq hboth.1)⟩
  -- the hosts that join end nothing
  rw [← hsuperseded rid' channel']
  unfold openRollout
  simp only [hfaults, noFaults, Bool.false_eq_true, if_false, ← hpredecessors]
  split
  · rfl
  · rename_i manifest _
    rw [live_congr (appendEventLog_rollouts ..)]
    refine (List.foldlRecOn (motive := fun db' : Db => db'.RowsOk ∧ (db'.Live rid' channel' ↔ _))
      manifest.hostSet (openHost ctx rid channel) ⟨hok, Iff.rfl⟩ ?_).2
    rintro db' ⟨hok', hiff⟩ hw _
    unfold openHost
    simp only [hfaults, noFaults, Bool.false_eq_true, if_false]
    have hup : (db'.upsertRecord (pendingRecord ctx rid channel hw)).RowsOk := hok'
    refine ⟨(processRolloutEvent_rows hup _).1, ?_⟩
    rw [processRolloutEvent_live hup rfl]
    exact hiff

end Open

/-! ## A plan tick -/

/-- The manifests name one channel with each rollout id. -/
def SignedManifestSet.DistinctIds (m : SignedManifestSet) : Prop :=
  ∀ e ∈ m.rollouts.rows, ∀ e' ∈ m.rollouts.rows,
    RolloutId.new e.1 e.2.channelRef = RolloutId.new e'.1 e'.2.channelRef → e.1 = e'.1

instance (m : SignedManifestSet) : Decidable m.DistinctIds :=
  inferInstanceAs (Decidable (∀ e ∈ m.rollouts.rows, ∀ e' ∈ m.rollouts.rows, _))

/-- A channel has at most one live rollout. -/
def Db.LiveUnique (db : Db) : Prop :=
  ∀ rid rid' channel, db.Live rid channel → db.Live rid' channel → rid = rid'

/-- What holds before every action of a tick. -/
structure TickInv (m : SignedManifestSet) (db : Db) : Prop where
  rows : db.RowsOk
  unique : db.LiveUnique
  fits : ∀ channel manifest, m.rollouts.lookup channel = some manifest →
    db.Fits (.new channel manifest.channelRef) channel

section Tick

variable {m : SignedManifestSet} {ctx : ApplierCtx} {db : Db}

theorem setCurrentWave_live (rid : RolloutId) (wave : Nat) {rid' : RolloutId}
    {channel : ChannelId} : (db.setCurrentWave rid wave).Live rid' channel ↔
      db.Live rid' channel := by
  have keep : ∀ row : RolloutRow, ∀ p : Prop, [Decidable p] →
      (if p then { row with currentWave := wave } else row).channel = row.channel ∧
        (if p then { row with currentWave := wave } else row).state = row.state := by
    intro row p _
    split <;> exact ⟨rfl, rfl⟩
  simp only [Db.Live, setCurrentWave_lookup, Option.mem_def, Option.map_eq_some_iff]
  constructor
  · rintro ⟨_, ⟨row, hrow, rfl⟩, hchannel, hlive⟩
    rw [(keep row _).1] at hchannel
    rw [(keep row _).2] at hlive
    exact ⟨row, hrow, hchannel, hlive⟩
  · rintro ⟨row, hrow, hchannel, hlive⟩
    refine ⟨_, ⟨row, hrow, rfl⟩, (keep row _).1.trans hchannel, ?_⟩
    rw [(keep row _).2]
    exact hlive

theorem advanceCurrentWaves_live {order : MapOrders} {faults : Faults} {fleet : FleetResolved}
    {fs : FleetState} {rid : RolloutId} {channel : ChannelId} :
    (advanceCurrentWaves order faults fleet db fs).1.Live rid channel ↔ db.Live rid channel := by
  unfold advanceCurrentWaves
  refine List.foldlRecOn (motive := fun acc : Db × FleetState =>
    acc.1.Live rid channel ↔ db.Live rid channel) _ _ Iff.rfl ?_
  intro acc hacc bump _
  dsimp only
  split
  · exact hacc
  · rw [setCurrentWave_live]
    exact hacc

theorem advanceCurrentWaves_isSome {order : MapOrders} {faults : Faults} {fleet : FleetResolved}
    {fs : FleetState} (rid : RolloutId) :
    ((advanceCurrentWaves order faults fleet db fs).1.rollouts.lookup rid).isSome =
      (db.rollouts.lookup rid).isSome := by
  unfold advanceCurrentWaves
  refine foldl_proj_eq (f := fun acc : Db × FleetState => (acc.1.rollouts.lookup rid).isSome)
    (fun acc bump => ?_) _ _
  dsimp only
  split
  · rfl
  · rw [setCurrentWave_lookup, Option.isSome_map]

theorem openRollout_isSome {rid : RolloutId} {channel : ChannelId} {targetRef : ChannelRef}
    {rid' : RolloutId}
    (h : ((openRollout ctx db rid channel targetRef).rollouts.lookup rid').isSome = true) :
    rid' = rid ∨ (db.rollouts.lookup rid').isSome = true := by
  revert h
  refine openRollout_rule (P := fun db' : Db => (db'.rollouts.lookup rid').isSome = true → _)
    (fun _ => .inr) (fun _ h => ?_) (fun db' e _ ih h => ?_) (fun _ _ _ _ _ ih => ih)
    fun _ _ ih => ih
  · simp only [appendEventLog_rollouts, Db.recordRolloutOpened] at h
    split at h
    · exact .inr h
    · rw [Table.lookup_insert_eq] at h
      split at h
      · rename_i heq
        exact .inl heq
      · exact .inr h
  · rw [processRolloutEvent_isSome] at h
    exact ih h

/-- One action. A named rollout that is live stays live, and one that is opened becomes so. -/
theorem applyPlanAction_tickInv (hdistinct : m.DistinctIds) (hfaults : ctx.faults = noFaults)
    {a : PlanAction} (hnamed : ∀ rid channel targetRef, a = .openRollout rid channel targetRef →
      ∃ manifest, m.rollouts.lookup channel = some manifest ∧
        rid = .new channel manifest.channelRef) (h : TickInv m db) :
    TickInv m (applyPlanAction ctx db a) ∧
    ∀ channel manifest, m.rollouts.lookup channel = some manifest →
      (db.Live (.new channel manifest.channelRef) channel ∨
        ∃ targetRef, a = .openRollout (.new channel manifest.channelRef) channel targetRef) →
      (applyPlanAction ctx db a).Live (.new channel manifest.channelRef) channel := by
  have unchanged : ∀ {db' : Db}, db'.rollouts = db.rollouts →
      TickInv m db' ∧ ∀ rid channel, db.Live rid channel → db'.Live rid channel := by
    intro db' hsame
    refine ⟨⟨?_, ?_, ?_⟩, fun rid channel => (live_congr hsame).mpr⟩
    · exact fun rid row hrow => h.rows rid row (hsame ▸ hrow)
    · intro rid rid' channel hlive hlive'
      exact h.unique rid rid' channel ((live_congr hsame).mp hlive) ((live_congr hsame).mp hlive')
    · intro channel manifest hm hsome
      exact (live_congr hsame).mpr (h.fits channel manifest hm (hsame ▸ hsome))
  cases a with
  | queueDispatch host rid closure due =>
      obtain ⟨hinv, hlive⟩ := unchanged (queueDispatch_rollouts ctx db host rid closure due)
      refine ⟨hinv, fun channel manifest _ => ?_⟩
      rintro (hold | ⟨_, hopen⟩)
      · exact hlive _ _ hold
      · cases hopen
  | deferDispatch host rid gate reason =>
      obtain ⟨hinv, hlive⟩ := unchanged (appendEventLog_rollouts db ctx.now (some host) (some rid)
        (.gateDecision gate reason host rid))
      refine ⟨hinv, fun channel manifest _ => ?_⟩
      rintro (hold | ⟨_, hopen⟩)
      · exact hlive _ _ hold
      · cases hopen
  | openRollout rid channel targetRef =>
      obtain ⟨manifest, hm, rfl⟩ := hnamed _ _ _ rfl
      have hspec : ∀ rid' channel', (openRollout ctx db (.new channel manifest.channelRef) channel
          targetRef).Live rid' channel' ↔ (rid' = .new channel manifest.channelRef ∧
            channel' = channel) ∨ (channel' ≠ channel ∧ db.Live rid' channel') := fun _ _ =>
        openRollout_live hfaults h.rows (h.fits channel manifest hm) targetRef
      -- another named rollout is one of another channel
      have hother : ∀ channel' manifest', m.rollouts.lookup channel' = some manifest' →
          (channel' = channel → manifest' = manifest) ∧ (channel' ≠ channel →
            RolloutId.new channel' manifest'.channelRef ≠ .new channel manifest.channelRef) := by
        intro channel' manifest' hm'
        refine ⟨?_, fun hne hid => hne ?_⟩
        · rintro rfl
          exact Option.some.inj (hm'.symm.trans hm)
        · exact hdistinct _ (Table.mem_rows.mpr hm') _ (Table.mem_rows.mpr hm) hid
      refine ⟨⟨?_, ?_, ?_⟩, ?_⟩
      · exact (openRollout_rows ⟨h.rows, .refl db⟩ _ channel targetRef).1
      · intro rid₁ rid₂ channel' hlive₁ hlive₂
        rcases (hspec _ _).mp hlive₁ with ⟨rfl, rfl⟩ | ⟨hne, hold₁⟩
        · rcases (hspec _ _).mp hlive₂ with ⟨rfl, -⟩ | ⟨hne, -⟩
          · rfl
          · exact absurd rfl hne
        · rcases (hspec _ _).mp hlive₂ with ⟨-, rfl⟩ | ⟨-, hold₂⟩
          · exact absurd rfl hne
          · exact h.unique _ _ _ hold₁ hold₂
      · intro channel' manifest' hm' hsome
        by_cases hch : channel' = channel
        · subst hch
          rw [(hother _ _ hm').1 rfl]
          exact (hspec _ _).mpr (.inl ⟨rfl, rfl⟩)
        · rcases openRollout_isSome hsome with hid | hold
          · exact absurd hid ((hother _ _ hm').2 hch)
          · exact (hspec _ _).mpr (.inr ⟨hch, h.fits _ _ hm' hold⟩)
      · intro channel' manifest' hm' hwhich
        by_cases hch : channel' = channel
        · subst hch
          rw [(hother _ _ hm').1 rfl]
          exact (hspec _ _).mpr (.inl ⟨rfl, rfl⟩)
        · rcases hwhich with hold | ⟨_, hopen⟩
          · exact (hspec _ _).mpr (.inr ⟨hch, hold⟩)
          · simp only [PlanAction.openRollout.injEq] at hopen
            exact absurd hopen.2.1.symm hch

/-- All actions of a tick. -/
theorem foldl_applyPlanAction_tickInv (ctx : ApplierCtx) (hdistinct : m.DistinctIds)
    (hfaults : ctx.faults = noFaults) {actions : List PlanAction}
    (hnamed : ∀ rid channel targetRef, .openRollout rid channel targetRef ∈ actions →
      ∃ manifest, m.rollouts.lookup channel = some manifest ∧
        rid = .new channel manifest.channelRef) {db : Db} (h : TickInv m db) :
    TickInv m (actions.foldl (applyPlanAction ctx) db) ∧
    ∀ channel manifest, m.rollouts.lookup channel = some manifest →
      (db.Live (.new channel manifest.channelRef) channel ∨
        ∃ targetRef, .openRollout (.new channel manifest.channelRef) channel targetRef ∈ actions) →
      (actions.foldl (applyPlanAction ctx) db).Live (.new channel manifest.channelRef) channel := by
  induction actions generalizing db with
  | nil =>
      refine ⟨h, fun channel manifest _ => ?_⟩
      rintro (hold | ⟨_, hopen⟩)
      · exact hold
      · cases hopen
  | cons a rest ih =>
      obtain ⟨hinv, hlive⟩ := applyPlanAction_tickInv hdistinct hfaults
        (fun rid channel targetRef ha => hnamed rid channel targetRef (ha ▸ List.mem_cons_self)) h
      obtain ⟨hinv', hlive'⟩ := ih (fun rid channel targetRef hmem =>
        hnamed rid channel targetRef (List.mem_cons_of_mem _ hmem)) hinv
      refine ⟨hinv', fun channel manifest hm hwhich => hlive' channel manifest hm ?_⟩
      rcases hwhich with hold | ⟨targetRef, hopen⟩
      · exact .inl (hlive channel manifest hm (.inl hold))
      · rcases List.mem_cons.mp hopen with heq | hrest
        · exact .inl (hlive channel manifest hm (.inr ⟨targetRef, heq.symm⟩))
        · exact .inr ⟨targetRef, hrest⟩

/-- A plan tick without failing statements, on manifests whose rollouts have no row or a live one
of their channel. -/
theorem runPlan_current {rs : ReducerState} (order : MapOrders) (now : Time)
    (hrs : rs.manifests = some m) (hdistinct : m.DistinctIds) (h : TickInv m db) :
    TickInv m (runPlan rs order now noFaults db) ∧
    ∀ channel manifest, m.rollouts.lookup channel = some manifest →
      (runPlan rs order now noFaults db).Live (.new channel manifest.channelRef) channel := by
  obtain ⟨fs, hfs⟩ := Option.isSome_iff_exists.mp (buildFleetState_isSome order db m)
  obtain ⟨plan, hplan⟩ : ∃ plan, planOf rs order now noFaults db = some plan := by
    simp only [planOf, hrs, hfs]
    exact ⟨_, rfl⟩
  obtain ⟨m', fs', hm', hfs', hdb, hseen, hact⟩ := planOf_eq_some hplan
  have hsame : m' = m := Option.some.inj (hm'.symm.trans hrs)
  subst hsame
  have hfinal : runPlan rs order now noFaults db =
      plan.actions.foldl (applyPlanAction ⟨m', now, noFaults⟩) plan.db := by
    simp only [runPlan, hrs, hplan]
  -- the bumps of the tick leave the states alone
  have hbumped : TickInv m' plan.db := by
    have hlive : ∀ rid channel, plan.db.Live rid channel ↔ db.Live rid channel := by
      rw [hdb]
      exact fun rid channel => advanceCurrentWaves_live
    have hsome : ∀ rid, (plan.db.rollouts.lookup rid).isSome =
        (db.rollouts.lookup rid).isSome := by
      rw [hdb]
      exact fun rid => advanceCurrentWaves_isSome rid
    refine ⟨?_, ?_, ?_⟩
    · rw [hdb]
      exact (advanceCurrentWaves_rows ⟨h.rows, .refl db⟩).1
    · intro rid rid' channel hl hl'
      exact h.unique rid rid' channel ((hlive _ _).mp hl) ((hlive _ _).mp hl')
    · intro channel manifest hm hrow
      rw [hsome] at hrow
      exact (hlive _ _).mpr (h.fits channel manifest hm hrow)
  have hnamed : ∀ rid channel targetRef, .openRollout rid channel targetRef ∈ plan.actions →
      ∃ manifest, m'.rollouts.lookup channel = some manifest ∧
        rid = .new channel manifest.channelRef := by
    intro rid channel targetRef hmem
    rw [hact, openRollout_mem_planNext] at hmem
    obtain ⟨manifest, hm, hid, -, -⟩ := hmem
    exact ⟨manifest, hm, hid⟩
  rw [hfinal]
  obtain ⟨hinv, hcurrent⟩ := foldl_applyPlanAction_tickInv ⟨m', now, noFaults⟩ hdistinct rfl
    hnamed hbumped
  refine ⟨hinv, fun channel manifest hm => hcurrent channel manifest hm ?_⟩
  -- a named rollout has a live row, or is opened
  cases hrow : db.rollouts.lookup (.new channel manifest.channelRef) with
  | some row =>
      left
      rw [hdb]
      exact advanceCurrentWaves_live.mpr (h.fits channel manifest hm (by rw [hrow]; rfl))
  | none =>
      right
      refine ⟨manifest.channelRef, ?_⟩
      rw [hact, openRollout_mem_planNext]
      refine ⟨manifest, hm, rfl, rfl, ?_⟩
      by_contra hsummary
      obtain ⟨summary, hs⟩ := Option.ne_none_iff_exists'.mp hsummary
      rw [hseen] at hs
      obtain ⟨summary₀, hs₀, -⟩ := advanceCurrentWaves_summary hs
      obtain ⟨_, _, row, -, -, hrow', -⟩ := buildFleetState_summary hfs' hs₀
      rw [hrow] at hrow'
      cases hrow'

end Tick

/-! ## Runs -/

/-- After the step's plan tick the live rollout of every channel is that of its manifest. -/
def CurrentLive (cp : Cp) (i : CpInput) : Prop :=
  ∀ m ∈ cp.planSet i, ∀ channel manifest, m.rollouts.lookup channel = some manifest →
    ∀ rid, (cpStep cp i).1.db.Live rid channel ↔ rid = .new channel manifest.channelRef

/-- A plan tick without failing statements, whose manifests name each channel's rollout apart and
name only rollouts without a row, or with a live row of their channel. -/
structure NamesFit (cp : Cp) (i : CpInput) : Prop where
  stored : (cp.planSet i).isSome = true → i.faults = noFaults
  distinct : ∀ m ∈ cp.planSet i, m.DistinctIds
  fits : ∀ m ∈ cp.planSet i, ∀ e ∈ m.rollouts.rows, ∀ row ∈
    cp.db.rollouts.lookup (.new e.1 e.2.channelRef), row.channel = e.1 ∧ row.state.isLive = true

/-- The rows are in order, and no rollout is live that was not so at the start. -/
def LiveWithin (db₀ db : Db) : Prop :=
  db.RowsOk ∧ ∀ rid channel, db.Live rid channel → db₀.Live rid channel

theorem LiveWithin.of_rollouts {db₀ db db' : Db} (h : LiveWithin db₀ db)
    (hsame : db'.rollouts = db.rollouts) : LiveWithin db₀ db' :=
  ⟨fun rid row hrow => h.1 rid row (hsame ▸ hrow),
    fun rid channel hlive => h.2 rid channel ((live_congr hsame).mp hlive)⟩

theorem handleHostEvent_liveWithin {rs : ReducerState} {now : Time} {faults : Faults}
    {db₀ db : Db} (h : LiveWithin db₀ db) (host : HostId) (rid : RolloutId) (event : Event) :
    LiveWithin db₀ (handleHostEvent rs now faults db host rid event) := by
  refine handleHostEvent_rule h fun manifests prior next effects _ => ?_
  refine hostStateChanged_rule (fun db e _ _ hdb => ?_) (h.of_rollouts ?_)
  · exact ⟨(processRolloutEvent_rows hdb.1 e).1,
      fun rid channel hlive => hdb.2 rid channel (processRolloutEvent_liveWithin hdb.1 hlive)⟩
  · exact foldl_applyEffect_rollouts ..

/-- What the tick needs of the state before it. -/
theorem NamesFit.tickInv {cp : Cp} {i : CpInput} (hi : NamesFit cp i) {m : SignedManifestSet}
    (hm : cp.planSet i = some m) (hrows : cp.db.RowsOk) (hunique : cp.db.LiveUnique) :
    TickInv m cp.db := by
  refine ⟨hrows, hunique, fun channel manifest hlook hsome => ?_⟩
  obtain ⟨row, hrow⟩ := Option.isSome_iff_exists.mp hsome
  exact ⟨row, hrow, hi.fits m hm (channel, manifest) (Table.mem_rows.mpr hlook) row hrow⟩

theorem cpStep_liveUnique {cp : Cp} {i : CpInput} (hrows : cp.db.RowsOk)
    (hunique : cp.db.LiveUnique) (hi : NamesFit cp i) :
    (cpStep cp i).1.db.RowsOk ∧ (cpStep cp i).1.db.LiveUnique := by
  have within : ∀ {db : Db}, LiveWithin cp.db db → db.RowsOk ∧ db.LiveUnique := fun hdb =>
    ⟨hdb.1, fun rid rid' channel hlive hlive' =>
      hunique rid rid' channel (hdb.2 _ _ hlive) (hdb.2 _ _ hlive')⟩
  have hself : LiveWithin cp.db cp.db := ⟨hrows, fun _ _ h => h⟩
  cases hset : cp.planSet i with
  | some m =>
      obtain ⟨rs, hrs, hdb⟩ := cpStep_of_planSet hset
      rw [hdb, hi.stored (by rw [hset]; rfl)]
      have hinv := (runPlan_current i.order i.now hrs (hi.distinct m hset)
        (hi.tickInv hset hrows hunique)).1
      exact ⟨hinv.rows, hinv.unique⟩
  | none =>
      refine within (cpStep_rule (P := LiveWithin cp.db) hself ?_ ?_ ?_ ?_)
      · exact fun _ _ host rid event _ hdb => handleHostEvent_liveWithin hdb host rid event
      · intro rs m hm _
        rw [hset] at hm
        cases hm
      · -- the sweep takes rows away
        intro _
        refine ⟨prune_rowsOk hrows _, ?_⟩
        rintro rid channel ⟨row, hrow, hrest⟩
        exact ⟨row, lookup_of_prune hrow, hrest⟩
      · exact fun host => hself.of_rollouts (takeForHost_rollouts _ _ _)

/-- **One live rollout per channel, the current one.** In every run whose plan ticks name no
rollout that has ended, the rollout of each channel's manifest is the live one after every tick. -/
theorem current_rollout_live {is : List CpInput} (his : cpMachine.Meets NamesFit .initial is) :
    cpMachine.Meets CurrentLive .initial is := by
  refine cpMachine.meets_of_invariant (P := fun cp => cp.db.RowsOk ∧ cp.db.LiveUnique)
    (fun cp i h hi => cpStep_liveUnique h.1 h.2 hi) ?_ ?_ his
  · intro cp i h hi m hm channel manifest hlook rid
    obtain ⟨rs, hrs, hdb⟩ := cpStep_of_planSet hm
    rw [hdb, hi.stored (by rw [Option.mem_def.mp hm]; rfl)]
    obtain ⟨hinv, hcurrent⟩ := runPlan_current i.order i.now hrs
      (hi.distinct m hm) (hi.tickInv hm h.1 h.2)
    constructor
    · exact fun hlive => hinv.unique _ _ _ hlive (hcurrent channel manifest hlook)
    · rintro rfl
      exact hcurrent channel manifest hlook
  · refine ⟨fun rid row hrow => (by cases hrow), ?_⟩
    rintro rid rid' channel ⟨row, hrow, -⟩
    cases hrow

/-! ## Two histories of refs -/

/-- The release of a commit to a channel with one host. -/
def oneHostSet (commit : String) : SignedManifestSet :=
  stableManifests (stableFleet commit [("a", "closure-" ++ commit)] ⟨"all-at-once", [], .halt⟩
    [] [] [])

/-- The channel's manifest moves through the commits, one at each tick. -/
def refHistory (commits : List String) : List CpInput :=
  commits.map fun commit => .plain (.manifestSetUpdated (oneHostSet commit)) 0

/-- A history that goes forward. -/
theorem forwardHistory_current :
    cpMachine.Meets CurrentLive .initial (refHistory ["r1", "r2", "r3"]) := by
  refine current_rollout_live ⟨⟨fun _ => rfl, ?_, ?_⟩, ⟨fun _ => rfl, ?_, ?_⟩,
    ⟨fun _ => rfl, ?_, ?_⟩, trivial⟩ <;>
    decide

/-- A history that goes back: the rollout of the first commit stays superseded, and the one of the
second commit stays live. -/
theorem revertedRef_not_current :
    ¬ cpMachine.Meets CurrentLive .initial (refHistory ["r1", "r2", "r1"]) := by
  intro h
  have hback := h.2.2.1 (oneHostSet "r1") rfl "stable" _ rfl (.new "stable" "r2")
  exact absurd (hback.mp (by decide)) (by decide)

end Nixfleet
