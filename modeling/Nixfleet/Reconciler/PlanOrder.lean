import Mathlib.Data.List.Induction
import Nixfleet.Lib.Split
import Nixfleet.Reconciler.TickBudget

set_option autoImplicit false

/-!
# Plans and the order of the hash maps

The planner loops over hash maps, and the budget counter of the call depends on which hosts the
loop has met already. `orderIndependent_iff` says for which inputs the actions are the same in
every order: those where no host gets another answer after the dispatches of hosts that the loop
may meet before it. The loop takes one rollout after the other, so these are all hosts of some
other rollouts and any hosts of the rollout itself (`Candidate.mayFollow`).
-/

namespace Nixfleet

/-- What a plan reports for a candidate: it passes, or the gate that blocks and the reason. -/
def Candidate.report (c : Candidate) (m : SignedManifestSet) (fs : FleetState)
    (q : QuarantineSet) (tick : TickDispatched) : Option (String × String) :=
  (c.evaluate m fs q tick).map fun block => (block.discriminator, block.reason)

/-- The candidate belongs to one of some other rollouts, or to this one and is one of some
other hosts. -/
def Candidate.mayFollow (c : Candidate) (rollouts : RolloutId → Bool) (hosts : HostId → Bool)
    (d : Candidate) : Bool :=
  if d.rolloutId = c.rolloutId then d.host ≠ c.host && hosts d.host else rollouts d.rolloutId

/-- The counter after the dispatches of the candidates that the gates let pass on their own. -/
def tickAfter (m : SignedManifestSet) (fs : FleetState) (q : QuarantineSet)
    (cs : List Candidate) : TickDispatched :=
  (cs.filter fun d => (d.evaluate m fs q fun _ => 0).isNone).foldl
    (fun tick d => countDispatch d.summary.budgets d.host tick) fun _ => 0

/-- No candidate gets another answer after dispatches that the loop may make before it. -/
def AnswersSettled (m : SignedManifestSet) (fs : FleetState) (q : QuarantineSet) : Prop :=
  ∀ c ∈ candidates .stored fs, ∀ rollouts hosts,
    c.report m fs q (tickAfter m fs q
      ((candidates .stored fs).filter (c.mayFollow rollouts hosts))) =
    c.report m fs q fun _ => 0

/-- Every order of the hash maps gives the same set of actions. -/
def OrderIndependent (m : SignedManifestSet) (fs : FleetState) (q : QuarantineSet)
    (now : Time) : Prop :=
  ∀ order order' a, a ∈ planNext order m fs q now ↔ a ∈ planNext order' m fs q now

/-! ## The order of the candidates -/

section Order

variable {order : MapOrders} {fs : FleetState}

/-- The candidates stand in the order of the rollouts, those of one rollout in the order of the
host records. -/
theorem pairwise_candidates {rank : RolloutId → Nat}
    (hrank : (iterBy order.rollouts fs.rollouts.rows).Pairwise fun a b => rank a.1 ≤ rank b.1) :
    (candidates order fs).Pairwise fun c d => rank c.rolloutId ≤ rank d.rolloutId ∧
      (c.rolloutId = d.rolloutId → c.host ≠ d.host ∧
        order.hostStates (c.rolloutId, c.host) ≤ order.hostStates (d.rolloutId, d.host)) := by
  unfold candidates
  rw [List.pairwise_flatMap]
  constructor
  · intro r _
    rw [List.pairwise_map]
    have hkeys : (iterBy order.hostStates fs.hostStates.rows).Pairwise fun a b => a.1 ≠ b.1 :=
      List.pairwise_map.mp (nodup_iterBy fs.hostStates.rows_keys_nodup)
    have hboth := ((pairwise_iterBy order.hostStates fs.hostStates.rows).and hkeys).filter
      fun h => h.1.1 = r.1 && h.2.awaitsDispatch
    refine hboth.imp_of_mem fun {a b} ha hb hab => ⟨le_rfl, fun _ => ?_⟩
    have ha1 : a.1.1 = r.1 := by
      have h := (List.mem_filter.mp ha).2
      simp only [Bool.and_eq_true, decide_eq_true_eq] at h
      exact h.1
    have hb1 : b.1.1 = r.1 := by
      have h := (List.mem_filter.mp hb).2
      simp only [Bool.and_eq_true, decide_eq_true_eq] at h
      exact h.1
    have ha2 : (r.1, a.1.2) = a.1 := by rw [← ha1]
    have hb2 : (r.1, b.1.2) = b.1 := by rw [← hb1]
    dsimp only
    rw [ha2, hb2]
    refine ⟨fun heq => hab.2 ?_, hab.1⟩
    rw [← ha2, ← hb2, heq]
  · have hkeys : (iterBy order.rollouts fs.rollouts.rows).Pairwise fun a b => a.1 ≠ b.1 :=
      List.pairwise_map.mp (nodup_iterBy fs.rollouts.rows_keys_nodup)
    refine ((hrank.and hkeys).filter _).imp fun {a b} hab c hc d hd => ?_
    obtain ⟨_, -, rfl⟩ := List.mem_map.mp hc
    obtain ⟨_, -, rfl⟩ := List.mem_map.mp hd
    exact ⟨hab.1, fun heq => absurd heq hab.2⟩

/-- One candidate for each rollout and host. -/
theorem candidate_ext {order' : MapOrders} {c d : Candidate} (hc : c ∈ candidates order fs)
    (hd : d ∈ candidates order' fs) (hrid : c.rolloutId = d.rolloutId) (hhost : c.host = d.host) :
    c = d := by
  obtain ⟨hc1, -, hc2, -⟩ := mem_candidates.mp hc
  obtain ⟨hd1, -, hd2, -⟩ := mem_candidates.mp hd
  obtain ⟨rid, summary, host, record⟩ := c
  obtain ⟨rid', summary', host', record'⟩ := d
  dsimp only at hrid hhost hc1 hc2 hd1 hd2
  subst hrid hhost
  rw [hc1] at hd1
  rw [hc2] at hd2
  cases hd1
  cases hd2
  rfl

theorem mem_candidates_order (order order' : MapOrders) {c : Candidate} :
    c ∈ candidates order fs ↔ c ∈ candidates order' fs :=
  mem_candidates.trans mem_candidates.symm

theorem candidates_nodup : (candidates order fs).Nodup := by
  refine (pairwise_candidates (pairwise_iterBy _ _)).imp fun {c d} h heq => ?_
  subst heq
  exact (h.2 rfl).1 rfl

section Split

variable {before after : List Candidate} {c : Candidate}

theorem ne_of_split (h : candidates order fs = before ++ c :: after) {d : Candidate}
    (hd : d ∈ before) : ¬ (d.rolloutId = c.rolloutId ∧ d.host = c.host) := by
  rintro ⟨hrid, hhost⟩
  have hpair := pairwise_candidates (pairwise_iterBy order.rollouts fs.rollouts.rows)
  rw [h] at hpair
  exact ((List.pairwise_append.mp hpair).2.2 d hd c List.mem_cons_self).2 hrid |>.1 hhost

/-- **What comes before a candidate.** All candidates of some other rollouts, and some of its
own rollout. -/
theorem exists_mayFollow_of_split (h : candidates order fs = before ++ c :: after) :
    ∃ rollouts hosts, ∀ d ∈ candidates order fs,
      (d ∈ before ↔ c.mayFollow rollouts hosts d = true) := by
  classical
  refine ⟨fun r => decide (∃ d ∈ before, d.rolloutId = r),
    fun n => decide (∃ d ∈ before, d.rolloutId = c.rolloutId ∧ d.host = n), fun d hd => ?_⟩
  have hmem : ∀ e ∈ before, e ∈ candidates order fs := by
    intro e he
    rw [h]
    exact List.mem_append_left _ he
  unfold Candidate.mayFollow
  by_cases hrid : d.rolloutId = c.rolloutId
  · simp only [hrid, if_true, Bool.and_eq_true, decide_eq_true_eq]
    constructor
    · intro hb
      exact ⟨fun hhost => ne_of_split h hb ⟨hrid, hhost⟩, d, hb, hrid, rfl⟩
    · rintro ⟨-, e, he, herid, hehost⟩
      have hde : e = d := candidate_ext (hmem e he) hd (herid.trans hrid.symm) hehost
      exact hde ▸ he
  · simp only [hrid, if_false, decide_eq_true_eq]
    refine ⟨fun hb => ⟨d, hb, rfl⟩, ?_⟩
    rintro ⟨e, he, herid⟩
    by_contra hb
    -- `e`, `c` and `d` stand in this order, and `e` and `d` are of one rollout
    let keys := (iterBy order.rollouts fs.rollouts.rows).map Prod.fst
    have hkeys : keys.Nodup := nodup_iterBy fs.rollouts.rows_keys_nodup
    let place : RolloutId → Nat := fun r => keys.idxOf r
    have hsorted : (iterBy order.rollouts fs.rollouts.rows).Pairwise fun a b =>
        place a.1 ≤ place b.1 := pairwise_idxOf_le hkeys
    have hpair := pairwise_candidates hsorted
    rw [h] at hpair
    obtain ⟨-, hcons, hacross⟩ := List.pairwise_append.mp hpair
    have hafter : d ∈ after := by
      rw [h, List.mem_append, List.mem_cons] at hd
      rcases hd with hd | rfl | hd
      · exact absurd hd hb
      · exact absurd rfl hrid
      · exact hd
    have hec := (hacross e he c List.mem_cons_self).1
    have hcd := (List.rel_of_pairwise_cons hcons hafter).1
    rw [herid] at hec
    have hdkey : d.rolloutId ∈ keys := by
      have hrow := Table.mem_rows.mpr (mem_candidates.mp hd).1
      exact List.mem_map.mpr ⟨_, mem_iterBy.mpr hrow, rfl⟩
    exact hrid ((List.idxOf_inj hdkey).mp (Nat.le_antisymm hec hcd))

end Split

/-- The order that takes the given rollouts first, then the rollout of the candidate, and in
that one the given hosts first, then the candidate. -/
def Candidate.orderAfter (c : Candidate) (rollouts : RolloutId → Bool) (hosts : HostId → Bool) :
    MapOrders where
  channels := fun _ => 0
  rollouts := fun r => if r = c.rolloutId then 1 else if rollouts r then 0 else 2
  hostStates := fun k => if k.2 = c.host then 1 else if hosts k.2 then 0 else 2

/-- Whatever may come before a candidate does so in some order. -/
theorem mem_before_orderAfter {before after : List Candidate} {c : Candidate}
    {rollouts : RolloutId → Bool} {hosts : HostId → Bool}
    (h : candidates (c.orderAfter rollouts hosts) fs = before ++ c :: after) {d : Candidate}
    (hd : d ∈ candidates (c.orderAfter rollouts hosts) fs) :
    d ∈ before ↔ c.mayFollow rollouts hosts d = true := by
  have hpair := pairwise_candidates
    (pairwise_iterBy (c.orderAfter rollouts hosts).rollouts fs.rollouts.rows)
  rw [h] at hpair
  obtain ⟨-, hcons, hacross⟩ := List.pairwise_append.mp hpair
  constructor
  · intro hb
    have hne := ne_of_split h hb
    have hle := hacross d hb c List.mem_cons_self
    unfold Candidate.mayFollow
    by_cases hrid : d.rolloutId = c.rolloutId
    · have hhost : d.host ≠ c.host := fun heq => hne ⟨hrid, heq⟩
      have hrank := (hle.2 hrid).2
      by_cases hin : hosts d.host = true
      · simp [hrid, hhost, hin]
      · simp [Candidate.orderAfter, hhost, hin] at hrank
    · have hrank := hle.1
      by_cases hin : rollouts d.rolloutId = true
      · simp [hrid, hin]
      · simp [Candidate.orderAfter, hrid, hin] at hrank
  · intro hfollow
    unfold Candidate.mayFollow at hfollow
    rw [h, List.mem_append, List.mem_cons] at hd
    rcases hd with hb | rfl | hafter
    · exact hb
    · simp at hfollow
    · exfalso
      have hle := List.rel_of_pairwise_cons hcons hafter
      by_cases hrid : d.rolloutId = c.rolloutId
      · simp only [hrid, if_true, Bool.and_eq_true, decide_eq_true_eq] at hfollow
        have hrank := (hle.2 hrid.symm).2
        simp [Candidate.orderAfter, hfollow.1, hfollow.2] at hrank
      · simp only [hrid, if_false] at hfollow
        have hrank := hle.1
        simp [Candidate.orderAfter, hrid, hfollow] at hrank

end Order

/-! ## The loop -/

/-- The action for a candidate at a counter. -/
def Candidate.action (c : Candidate) (m : SignedManifestSet) (fs : FleetState)
    (q : QuarantineSet) (now : Time) (tick : TickDispatched) : PlanAction :=
  match c.evaluate m fs q tick with
  | some block => .deferDispatch c.host c.rolloutId block.discriminator block.reason
  | none =>
      .queueDispatch c.host c.rolloutId c.record.targetClosure (c.record.soakDueAt.getD now)

/-- The counter after the turn of a candidate. -/
def Candidate.count (c : Candidate) (m : SignedManifestSet) (fs : FleetState)
    (q : QuarantineSet) (tick : TickDispatched) : TickDispatched :=
  if (c.evaluate m fs q tick).isNone then countDispatch c.summary.budgets c.host tick else tick

/-- At its turn every candidate gets the answer that it gets on its own. -/
def TurnsSettled (m : SignedManifestSet) (fs : FleetState) (q : QuarantineSet) : Prop :=
  ∀ order before c after, candidates order fs = before ++ c :: after →
    c.report m fs q (before.foldl (fun t d => d.count m fs q t) fun _ => 0) =
      c.report m fs q fun _ => 0

section Loop

variable {m : SignedManifestSet} {fs : FleetState} {q : QuarantineSet} {now : Time}

theorem action_eq_iff {c : Candidate} {tick tick' : TickDispatched} :
    c.action m fs q now tick = c.action m fs q now tick' ↔
      c.report m fs q tick = c.report m fs q tick' := by
  unfold Candidate.action Candidate.report
  cases c.evaluate m fs q tick <;> cases c.evaluate m fs q tick' <;> simp

theorem action_key {c d : Candidate} {tick tick' : TickDispatched}
    (h : c.action m fs q now tick = d.action m fs q now tick') :
    c.rolloutId = d.rolloutId ∧ c.host = d.host := by
  unfold Candidate.action at h
  cases hc : c.evaluate m fs q tick <;> cases hd : d.evaluate m fs q tick' <;>
    simp_all

theorem action_ne_openRollout {c : Candidate} {tick : TickDispatched} {order : MapOrders} :
    c.action m fs q now tick ∉ openActions order m fs := by
  simp only [openActions, List.mem_filterMap, not_exists, not_and]
  intro e _
  unfold Candidate.action
  cases c.evaluate m fs q tick <;> split <;> simp

/-- Every action of the loop is that of a candidate at its turn. -/
theorem mem_dispatchActions {tick : TickDispatched} {cs : List Candidate} {a : PlanAction} :
    a ∈ dispatchActions m fs q now tick cs ↔ ∃ before c after, cs = before ++ c :: after ∧
      a = c.action m fs q now (before.foldl (fun t d => d.count m fs q t) tick) := by
  induction cs generalizing tick with
  | nil => simp [dispatchActions]
  | cons c rest ih =>
      have hcons : dispatchActions m fs q now tick (c :: rest) =
          c.action m fs q now tick :: dispatchActions m fs q now (c.count m fs q tick) rest := by
        unfold Candidate.action Candidate.count
        cases h : c.evaluate m fs q tick <;> simp [dispatchActions, h]
      rw [hcons, List.mem_cons, ih]
      constructor
      · rintro (rfl | ⟨before, d, after, rfl, rfl⟩)
        · exact ⟨[], c, rest, rfl, rfl⟩
        · exact ⟨c :: before, d, after, rfl, rfl⟩
      · rintro ⟨before, d, after, heq, rfl⟩
        cases before with
        | nil =>
            cases heq
            exact .inl rfl
        | cons e before =>
            cases heq
            exact .inr ⟨before, d, after, rfl, rfl⟩

theorem tickAfter_perm {cs cs' : List Candidate} (h : cs.Perm cs') :
    tickAfter m fs q cs = tickAfter m fs q cs' := by
  refine (h.filter _).foldl_eq' (fun c _ d _ tick => ?_) _
  funext selector
  simp only [countDispatch_apply]
  omega

/-- Where every turn is settled, the counter is that of the candidates that pass on their
own. -/
theorem foldl_count_eq_tickAfter {cs : List Candidate}
    (h : ∀ before c after, cs = before ++ c :: after →
      c.report m fs q (before.foldl (fun t d => d.count m fs q t) fun _ => 0) =
        c.report m fs q fun _ => 0) :
    cs.foldl (fun t d => d.count m fs q t) (fun _ => 0) = tickAfter m fs q cs := by
  induction cs using List.reverseRecOn with
  | nil => rfl
  | append_singleton cs c ih =>
      have hcs := ih fun before d after heq => h before d (after ++ [c]) (by simp [heq])
      have hturn := congrArg Option.isNone (h cs c [] rfl)
      rw [hcs] at hturn
      simp only [Candidate.report, Option.isNone_map] at hturn
      rw [List.foldl_append, hcs]
      simp only [List.foldl_cons, List.foldl_nil, Candidate.count, hturn]
      unfold tickAfter
      rw [List.filter_append, List.foldl_append]
      cases hadm : (c.evaluate m fs q fun _ => 0).isNone with
      | true => simp [hadm]
      | false => simp [hadm]

theorem tickAfter_of_split {order : MapOrders} {before after : List Candidate} {c : Candidate}
    {rollouts : RolloutId → Bool} {hosts : HostId → Bool}
    (h : candidates order fs = before ++ c :: after)
    (hmem : ∀ d ∈ candidates order fs, (d ∈ before ↔ c.mayFollow rollouts hosts d = true)) :
    tickAfter m fs q before =
      tickAfter m fs q ((candidates .stored fs).filter (c.mayFollow rollouts hosts)) := by
  have hnodup : before.Nodup := by
    have hall : (candidates order fs).Nodup := candidates_nodup
    rw [h] at hall
    exact (List.nodup_append.mp hall).1
  refine tickAfter_perm ((List.perm_ext_iff_of_nodup hnodup (candidates_nodup.filter _)).mpr ?_)
  intro d
  rw [List.mem_filter, ← mem_candidates_order order]
  constructor
  · intro hd
    have hall : d ∈ candidates order fs := by
      rw [h]
      exact List.mem_append_left _ hd
    exact ⟨hall, (hmem d hall).mp hd⟩
  · rintro ⟨hall, hd⟩
    exact (hmem d hall).mpr hd

/-- The turns are settled in every order iff the answers are. -/
theorem turnsSettled_iff : TurnsSettled m fs q ↔ AnswersSettled m fs q := by
  constructor
  · intro hturns c hc rollouts hosts
    have hc' : c ∈ candidates (c.orderAfter rollouts hosts) fs := (mem_candidates_order _ _).mp hc
    obtain ⟨before, after, hsplit⟩ := List.append_of_mem hc'
    have hcount := foldl_count_eq_tickAfter fun b d a (heq : before = b ++ d :: a) =>
      hturns (c.orderAfter rollouts hosts) b d (a ++ c :: after) (by simp [hsplit, heq])
    have hturn := hturns _ before c after hsplit
    rwa [hcount, tickAfter_of_split hsplit fun d hd => mem_before_orderAfter hsplit hd] at hturn
  · intro hanswers order before c after hsplit
    -- the earlier turns first
    induction hn : before.length using Nat.strong_induction_on generalizing before c after with
    | h n ih =>
        have hcount := foldl_count_eq_tickAfter fun b d a (heq : before = b ++ d :: a) =>
          ih b.length (by simp [← hn, heq]) b d (a ++ c :: after) (by simp [hsplit, heq]) rfl
        obtain ⟨rollouts, hosts, hmem⟩ := exists_mayFollow_of_split hsplit
        have hc : c ∈ candidates .stored fs := by
          rw [mem_candidates_order _ order, hsplit]
          simp
        rw [hcount, tickAfter_of_split hsplit hmem]
        exact hanswers c hc rollouts hosts

/-- A candidate comes first in some order, so its answer on its own is an action of some plan. -/
theorem exists_order_action_mem (m : SignedManifestSet) (q : QuarantineSet) (now : Time)
    {c : Candidate} (hc : c ∈ candidates .stored fs) :
    ∃ order, c.action m fs q now (fun _ => 0) ∈ planNext order m fs q now := by
  let order := c.orderAfter (fun _ => false) fun _ => false
  have hc' : c ∈ candidates order fs := (mem_candidates_order _ _).mp hc
  obtain ⟨before, after, hsplit⟩ := List.append_of_mem hc'
  have hnil : before = [] := by
    refine List.eq_nil_iff_forall_not_mem.mpr fun d hd => ?_
    have hall : d ∈ candidates order fs := by
      rw [hsplit]
      exact List.mem_append_left _ hd
    have hfollow := (mem_before_orderAfter hsplit hall).mp hd
    simp [Candidate.mayFollow] at hfollow
  subst hnil
  refine ⟨order, List.mem_append_right _ (mem_dispatchActions.mpr ⟨[], c, after, hsplit, rfl⟩)⟩

/-- The plan has one action for each candidate, so the actions agree iff the answers do. -/
theorem orderIndependent_iff_turns : OrderIndependent m fs q now ↔ TurnsSettled m fs q := by
  classical
  constructor
  · intro hind order before c after hsplit
    have hc : c ∈ candidates .stored fs := by
      rw [mem_candidates_order _ order, hsplit]
      simp
    obtain ⟨order', hmem⟩ := exists_order_action_mem m q now hc
    have hplan := (List.mem_append.mp ((hind order' order _).mp hmem)).resolve_left
      action_ne_openRollout
    obtain ⟨before', c', after', hsplit', heq⟩ := mem_dispatchActions.mp hplan
    obtain ⟨hrid, hhost⟩ := action_key heq
    have hc' : c' ∈ candidates order fs := by
      rw [hsplit']
      simp
    have hcc : c = c' := candidate_ext hc hc' hrid hhost
    subst hcc
    -- the candidate stands at one place only
    have hbefore : before = before' := (append_sep_inj
      (fun h => ne_of_split hsplit h ⟨rfl, rfl⟩) (fun h => ne_of_split hsplit' h ⟨rfl, rfl⟩)
      (hsplit.symm.trans hsplit')).1
    subst hbefore
    exact (action_eq_iff.mp heq).symm
  · intro hturns
    have hmem : ∀ order a, a ∈ planNext order m fs q now ↔
        a ∈ openActions .stored m fs ∨
          ∃ c ∈ candidates .stored fs, a = c.action m fs q now fun _ => 0 := by
      intro order a
      rw [planNext, List.mem_append, mem_dispatchActions]
      refine or_congr ?_ ⟨?_, ?_⟩
      · simp only [openActions, List.mem_filterMap, mem_iterBy]
      · rintro ⟨before, c, after, hsplit, rfl⟩
        refine ⟨c, ?_, action_eq_iff.mpr (hturns order before c after hsplit)⟩
        rw [mem_candidates_order _ order, hsplit]
        simp
      · rintro ⟨c, hc, rfl⟩
        have hc' : c ∈ candidates order fs := (mem_candidates_order _ _).mp hc
        obtain ⟨before, after, hsplit⟩ := List.append_of_mem hc'
        exact ⟨before, c, after, hsplit,
          action_eq_iff.mpr (hturns order before c after hsplit).symm⟩
    intro order order' a
    rw [hmem order, hmem order']

end Loop

/-- **When the order of the hash maps does not matter.** The actions are the same in every order
iff no candidate gets another answer, or another reason, after the dispatches of candidates that
the loop may meet before it. -/
theorem orderIndependent_iff (m : SignedManifestSet) (fs : FleetState) (q : QuarantineSet)
    (now : Time) : OrderIndependent m fs q now ↔ AnswersSettled m fs q :=
  orderIndependent_iff_turns.trans turnsSettled_iff

/-- The host records with those of one host first. -/
def MapOrders.hostFirst (host : HostId) : MapOrders :=
  ⟨fun _ => 0, fun _ => 0, fun k => if k.2 = host then 0 else 1⟩

/-- A budget of one holds back whichever of the two hosts comes second. -/
theorem oneOfTwo_not_orderIndependent :
    ¬ OrderIndependent oneOfTwoManifests (stableOpened oneOfTwoManifests) .new 0 := by
  intro h
  have hiff := h (.hostFirst "a") (.hostFirst "b") (.queueDispatch "a" (.new "stable" "r1") "new" 0)
  exact absurd hiff (by decide)

end Nixfleet
