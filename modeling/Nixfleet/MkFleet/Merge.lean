import Mathlib.Data.Finmap
import Mathlib.Data.Finset.Sort
import Mathlib.Data.String.Basic
import Nixfleet.Lib.Except

set_option autoImplicit false

/-!
# Merging fleets

`mergeFleets` folds fleet inputs into one, option by option, and hands the result to `mkFleet`. It
lists the options by hand, and names seven of the eleven that `mkFleet` declares: what an input says
under another one reaches no fleet. `mergesFaithfully_iff` says that this is all that is lost.

The values of the options are never looked into, so they are of any type; an attribute set is a
`Finmap`, which has no order. `lib.evalModules` is any function of the options it is given.
-/

namespace Nixfleet

/-- An attribute set. -/
abbrev Attrs (V : Type) := Finmap fun _ : String => V

/-- `lib.attrNames`. -/
def Attrs.names {V : Type} (a : Attrs V) : List String := a.keys.sort (· ≤ ·)

/-! ## Inputs and options -/

/-- What is passed to `mkFleet`; `none` is an attribute that is not there. -/
structure FleetInput (V : Type) where
  hosts : Option (Attrs V)
  tags : Option (Attrs V)
  channels : Option (Attrs V)
  rolloutPolicies : Option (Attrs V)
  edges : Option (List V)
  channelEdges : Option (List V)
  disruptionBudgets : Option (List V)
  compliance : Option (Attrs V)
  healthChecks : Option (Attrs V)
  revocations : Option (List V)
  bootstrapNonces : Option (List V)

/-- The options of `mkFleet`, each with a definition. -/
structure FleetOptions (V : Type) where
  hosts : Attrs V
  tags : Attrs V
  channels : Attrs V
  rolloutPolicies : Attrs V
  edges : List V
  channelEdges : List V
  disruptionBudgets : List V
  compliance : Attrs V
  healthChecks : Attrs V
  revocations : List V
  bootstrapNonces : List V

section Merge

variable {V C R : Type}

/-- The definitions of an input, with the defaults of the options it does not define. -/
def FleetInput.options (input : FleetInput V) : FleetOptions V where
  hosts := input.hosts.getD ∅
  tags := input.tags.getD ∅
  channels := input.channels.getD ∅
  rolloutPolicies := input.rolloutPolicies.getD ∅
  edges := input.edges.getD []
  channelEdges := input.channelEdges.getD []
  disruptionBudgets := input.disruptionBudgets.getD []
  compliance := input.compliance.getD ∅
  healthChecks := input.healthChecks.getD ∅
  revocations := input.revocations.getD []
  bootstrapNonces := input.bootstrapNonces.getD []

/-- `mkFleet`: the evaluated configuration, which has its revocations and nonces, and the resolved
fleet. -/
def mkFleet (evalModules : FleetOptions V → C) (resolveFleet : C → R) (input : FleetInput V) :
    C × R :=
  let config := evalModules input.options
  (config, resolveFleet config)

/-! ## The merge -/

/-- `mergeStrict`. -/
def mergeStrict (kind : String) (a b : Attrs V) : Except String (Attrs V) :=
  b.names.foldlM (fun acc name =>
    match b.lookup name with
    | none => .ok acc
    | some value =>
        if name ∈ acc then
          .error ("mergeFleets: " ++ kind ++ " '" ++ name ++ "' is defined in multiple inputs")
        else .ok (acc.insert name value)) a

/-- The accumulator of `mergeFleets`. -/
structure MergedInput (V : Type) where
  hosts : Attrs V
  tags : Attrs V
  channels : Attrs V
  rolloutPolicies : Attrs V
  edges : List V
  channelEdges : List V
  disruptionBudgets : List V

/-- The `step` of `mergeFleets`. An error is one of those that Nix may report. -/
def mergeStep (acc : MergedInput V) (input : FleetInput V) : Except String (MergedInput V) := do
  let hosts ← mergeStrict "host" acc.hosts (input.hosts.getD ∅)
  let tags ← mergeStrict "tag" acc.tags (input.tags.getD ∅)
  let channels ← mergeStrict "channel" acc.channels (input.channels.getD ∅)
  .ok {
    hosts := hosts
    tags := tags
    channels := channels
    rolloutPolicies := input.rolloutPolicies.getD ∅ ∪ acc.rolloutPolicies
    edges := acc.edges ++ input.edges.getD []
    channelEdges := acc.channelEdges ++ input.channelEdges.getD []
    disruptionBudgets := acc.disruptionBudgets ++ input.disruptionBudgets.getD [] }

/-- The `empty` of `mergeFleets`. -/
def MergedInput.empty : MergedInput V := ⟨∅, ∅, ∅, ∅, [], [], []⟩

/-- The `merged` of `mergeFleets`. -/
def mergeInputs (fleetInputs : List (FleetInput V)) : Except String (MergedInput V) :=
  fleetInputs.foldlM mergeStep .empty

/-- The attribute set that `merged` is. -/
def MergedInput.toInput (merged : MergedInput V) : FleetInput V where
  hosts := some merged.hosts
  tags := some merged.tags
  channels := some merged.channels
  rolloutPolicies := some merged.rolloutPolicies
  edges := some merged.edges
  channelEdges := some merged.channelEdges
  disruptionBudgets := some merged.disruptionBudgets
  compliance := none
  healthChecks := none
  revocations := none
  bootstrapNonces := none

/-- `mergeFleets`. -/
def mergeFleets (evalModules : FleetOptions V → C) (resolveFleet : C → R)
    (fleetInputs : List (FleetInput V)) : Except String (C × R) :=
  (mergeInputs fleetInputs).map fun merged => mkFleet evalModules resolveFleet merged.toInput

/-! ## What a merge is to be -/

/-- Both inputs' definitions; of a policy that both define, the second one's. -/
def FleetOptions.union (a b : FleetOptions V) : FleetOptions V where
  hosts := a.hosts ∪ b.hosts
  tags := a.tags ∪ b.tags
  channels := a.channels ∪ b.channels
  rolloutPolicies := b.rolloutPolicies ∪ a.rolloutPolicies
  edges := a.edges ++ b.edges
  channelEdges := a.channelEdges ++ b.channelEdges
  disruptionBudgets := a.disruptionBudgets ++ b.disruptionBudgets
  compliance := a.compliance ∪ b.compliance
  healthChecks := a.healthChecks ∪ b.healthChecks
  revocations := a.revocations ++ b.revocations
  bootstrapNonces := a.bootstrapNonces ++ b.bootstrapNonces

/-- The options of no input at all. -/
def FleetOptions.empty : FleetOptions V := ⟨∅, ∅, ∅, ∅, [], [], [], ∅, ∅, [], []⟩

/-- The definitions of all inputs. -/
def unionOf (inputs : List (FleetInput V)) : FleetOptions V :=
  inputs.foldl (fun acc input => acc.union input.options) .empty

/-- An input with these definitions. -/
def FleetOptions.toInput (o : FleetOptions V) : FleetInput V where
  hosts := some o.hosts
  tags := some o.tags
  channels := some o.channels
  rolloutPolicies := some o.rolloutPolicies
  edges := some o.edges
  channelEdges := some o.channelEdges
  disruptionBudgets := some o.disruptionBudgets
  compliance := some o.compliance
  healthChecks := some o.healthChecks
  revocations := some o.revocations
  bootstrapNonces := some o.bootstrapNonces

/-- The two define no host, tag or channel in common. -/
def FleetOptions.Disjoint (a b : FleetOptions V) : Prop :=
  a.hosts.Disjoint b.hosts ∧ a.tags.Disjoint b.tags ∧ a.channels.Disjoint b.channels

/-- No two inputs define a host, tag or channel in common. -/
def NoCollisions (inputs : List (FleetInput V)) : Prop :=
  inputs.Pairwise fun a b => a.options.Disjoint b.options

/-- The merge evaluates like `mkFleet` on all definitions, of one input like `mkFleet` on it, and a
prefix may be merged first. -/
structure MergesFaithfully (inputs : List (FleetInput V)) : Prop where
  union : ∀ (C R : Type) (evalModules : FleetOptions V → C) (resolveFleet : C → R),
    mergeFleets evalModules resolveFleet inputs =
      .ok (mkFleet evalModules resolveFleet (unionOf inputs).toInput)
  single : ∀ input, inputs = [input] →
    ∀ (C R : Type) (evalModules : FleetOptions V → C) (resolveFleet : C → R),
      mergeFleets evalModules resolveFleet inputs = .ok (mkFleet evalModules resolveFleet input)
  regroup : ∀ before after, inputs = before ++ after → ∃ merged, mergeInputs before = .ok merged ∧
    ∀ (C R : Type) (evalModules : FleetOptions V → C) (resolveFleet : C → R),
      mergeFleets evalModules resolveFleet (merged.toInput :: after) =
        mergeFleets evalModules resolveFleet inputs

/-- Nothing is defined under the options that the merge does not list. -/
structure FleetOptions.OnlyListed (o : FleetOptions V) : Prop where
  compliance : o.compliance = ∅
  healthChecks : o.healthChecks = ∅
  revocations : o.revocations = []
  bootstrapNonces : o.bootstrapNonces = []

/-- No input defines anything under these options. -/
def NothingDropped (inputs : List (FleetInput V)) : Prop :=
  ∀ input ∈ inputs, input.options.OnlyListed

/-! ## One input -/

/-- Inserting some names of `b` into `a`. -/
theorem mergeStrict_names (kind : String) {b : Attrs V} (names : List String)
    (hnodup : names.Nodup) (hb : ∀ name ∈ names, name ∈ b) (a : Attrs V)
    (ha : ∀ name ∈ names, name ∉ a) :
    ∃ merged, names.foldlM (fun acc name =>
        match b.lookup name with
        | none => (.ok acc : Except String (Attrs V))
        | some value =>
            if name ∈ acc then
              .error ("mergeFleets: " ++ kind ++ " '" ++ name ++ "' is defined in multiple inputs")
            else .ok (acc.insert name value)) a = .ok merged ∧
      ∀ name, merged.lookup name = if name ∈ names then b.lookup name else a.lookup name := by
  induction names generalizing a with
  | nil => exact ⟨a, rfl, fun name => by simp⟩
  | cons first rest ih =>
      obtain ⟨hfirst, hrest⟩ := List.nodup_cons.mp hnodup
      obtain ⟨value, hvalue⟩ := Finmap.mem_iff.mp (hb first List.mem_cons_self)
      obtain ⟨merged, hmerged, hlookup⟩ := ih hrest
        (fun name hname => hb name (List.mem_cons_of_mem _ hname)) (a.insert first value)
        (fun name hname => by
          rw [Finmap.mem_insert, not_or]
          exact ⟨fun heq => hfirst (heq ▸ hname), ha name (List.mem_cons_of_mem _ hname)⟩)
      refine ⟨merged, ?_, fun name => ?_⟩
      · rw [List.foldlM_cons, hvalue]
        simp only [ha first List.mem_cons_self, if_false]
        exact hmerged
      · rw [hlookup]
        by_cases hname : name = first
        · subst hname
          rw [if_neg hfirst, if_pos List.mem_cons_self, Finmap.lookup_insert, hvalue]
        · rw [Finmap.lookup_insert_of_ne _ hname]
          simp only [List.mem_cons, hname, false_or]

/-- Attribute sets without a common name are united. -/
theorem mergeStrict_eq {kind : String} {a b : Attrs V} (h : a.Disjoint b) :
    mergeStrict kind a b = .ok (a ∪ b) := by
  have hmem : ∀ name, name ∈ b.names ↔ name ∈ b := by
    intro name
    rw [Attrs.names, Finset.mem_sort, Finmap.mem_keys]
  obtain ⟨merged, hmerged, hlookup⟩ := mergeStrict_names kind b.names
    (Finset.sort_nodup _ _) (fun name => (hmem name).mp) a
    (fun name hname ha => h name ha ((hmem name).mp hname))
  have heq : merged = a ∪ b := by
    refine Finmap.ext_lookup fun name => ?_
    rw [hlookup]
    by_cases hname : name ∈ a
    · rw [if_neg fun hb => h name hname ((hmem name).mp hb), Finmap.lookup_union_left hname]
    · rw [Finmap.lookup_union_right hname]
      split
      · rfl
      · rename_i hb
        have hnot : name ∉ b := fun h => hb ((hmem name).mpr h)
        rw [Finmap.lookup_eq_none.mpr hname, Finmap.lookup_eq_none.mpr hnot]
  rw [mergeStrict, hmerged, heq]

/-- The options that the merge lists. -/
def FleetOptions.listed (o : FleetOptions V) : MergedInput V where
  hosts := o.hosts
  tags := o.tags
  channels := o.channels
  rolloutPolicies := o.rolloutPolicies
  edges := o.edges
  channelEdges := o.channelEdges
  disruptionBudgets := o.disruptionBudgets

/-- **One step.** Of the listed options nothing is lost. -/
theorem mergeStep_listed {o : FleetOptions V} {input : FleetInput V}
    (h : o.Disjoint input.options) :
    mergeStep o.listed input = .ok (o.union input.options).listed := by
  obtain ⟨hhosts, htags, hchannels⟩ := h
  unfold mergeStep
  rw [show mergeStrict "host" o.listed.hosts (input.hosts.getD ∅) = _ from mergeStrict_eq hhosts,
    show mergeStrict "tag" o.listed.tags (input.tags.getD ∅) = _ from mergeStrict_eq htags,
    show mergeStrict "channel" o.listed.channels (input.channels.getD ∅) = _ from
      mergeStrict_eq hchannels]
  rfl

/-! ## All inputs -/

theorem FleetOptions.Disjoint.union {a b c : FleetOptions V} (ha : a.Disjoint c)
    (hb : b.Disjoint c) : (a.union b).Disjoint c :=
  ⟨(Finmap.disjoint_union_left _ _ _).mpr ⟨ha.1, hb.1⟩,
    (Finmap.disjoint_union_left _ _ _).mpr ⟨ha.2.1, hb.2.1⟩,
    (Finmap.disjoint_union_left _ _ _).mpr ⟨ha.2.2, hb.2.2⟩⟩

theorem FleetOptions.empty_disjoint (o : FleetOptions V) : FleetOptions.empty.Disjoint o :=
  ⟨Finmap.disjoint_empty _, Finmap.disjoint_empty _, Finmap.disjoint_empty _⟩

/-- **The fold.** -/
theorem foldlM_mergeStep {inputs : List (FleetInput V)} (hinputs : NoCollisions inputs)
    {o : FleetOptions V} (ho : ∀ input ∈ inputs, o.Disjoint input.options) :
    inputs.foldlM mergeStep o.listed =
      .ok (inputs.foldl (fun acc input => acc.union input.options) o).listed := by
  induction inputs generalizing o with
  | nil => rfl
  | cons input rest ih =>
      obtain ⟨hinput, hrest⟩ := List.pairwise_cons.mp hinputs
      rw [List.foldlM_cons, mergeStep_listed (ho input List.mem_cons_self)]
      exact ih hrest fun other hother =>
        (ho other (List.mem_cons_of_mem _ hother)).union (hinput other hother)

/-- The merge has all definitions of the listed options. -/
theorem mergeInputs_eq {inputs : List (FleetInput V)} (hinputs : NoCollisions inputs) :
    mergeInputs inputs = .ok (unionOf inputs).listed :=
  foldlM_mergeStep hinputs fun _ _ => FleetOptions.empty_disjoint _

theorem mergeFleets_eq {evalModules : FleetOptions V → C} {resolveFleet : C → R}
    {inputs : List (FleetInput V)} (hinputs : NoCollisions inputs) :
    mergeFleets evalModules resolveFleet inputs =
      .ok (mkFleet evalModules resolveFleet (unionOf inputs).listed.toInput) := by
  rw [mergeFleets, mergeInputs_eq hinputs]
  rfl

/-- Merging what was merged gives it back. -/
theorem mergeStep_toInput (merged : MergedInput V) :
    mergeStep .empty merged.toInput = .ok merged := by
  have hstep : mergeStep FleetOptions.empty.listed merged.toInput = _ :=
    mergeStep_listed (FleetOptions.empty_disjoint _)
  refine hstep.trans ?_
  cases merged
  simp [FleetOptions.union, FleetOptions.listed, FleetOptions.empty, FleetInput.options,
    MergedInput.toInput]

/-- A prefix may be merged first. -/
theorem mergeInputs_regroup {before after : List (FleetInput V)} {merged : MergedInput V}
    (h : mergeInputs before = .ok merged) :
    mergeInputs (merged.toInput :: after) = mergeInputs (before ++ after) := by
  unfold mergeInputs at h ⊢
  rw [List.foldlM_append, h, List.foldlM_cons, mergeStep_toInput]

/-! ## What is lost -/

theorem union_eq_empty {a b : Attrs V} : a ∪ b = ∅ ↔ a = ∅ ∧ b = ∅ := by
  constructor
  · intro h
    have hnot : ∀ name, name ∉ a ∧ name ∉ b := by
      intro name
      rw [← not_or, ← Finmap.mem_union, h]
      exact Finmap.notMem_empty
    constructor
    · refine Finmap.ext_lookup fun name => ?_
      rw [Finmap.lookup_eq_none.mpr (hnot name).1, Finmap.lookup_empty]
    · refine Finmap.ext_lookup fun name => ?_
      rw [Finmap.lookup_eq_none.mpr (hnot name).2, Finmap.lookup_empty]
  · rintro ⟨rfl, rfl⟩
    exact Finmap.empty_union

theorem FleetOptions.onlyListed_union {a b : FleetOptions V} :
    (a.union b).OnlyListed ↔ a.OnlyListed ∧ b.OnlyListed := by
  constructor
  · rintro ⟨hcompliance, hhealth, hrevocations, hnonces⟩
    obtain ⟨hc, hc'⟩ := union_eq_empty.mp hcompliance
    obtain ⟨hh, hh'⟩ := union_eq_empty.mp hhealth
    obtain ⟨hr, hr'⟩ := List.append_eq_nil_iff.mp hrevocations
    obtain ⟨hn, hn'⟩ := List.append_eq_nil_iff.mp hnonces
    exact ⟨⟨hc, hh, hr, hn⟩, hc', hh', hr', hn'⟩
  · rintro ⟨ha, hb⟩
    exact ⟨union_eq_empty.mpr ⟨ha.compliance, hb.compliance⟩,
      union_eq_empty.mpr ⟨ha.healthChecks, hb.healthChecks⟩,
      List.append_eq_nil_iff.mpr ⟨ha.revocations, hb.revocations⟩,
      List.append_eq_nil_iff.mpr ⟨ha.bootstrapNonces, hb.bootstrapNonces⟩⟩

/-- All definitions are under the listed options iff those of each input are. -/
theorem onlyListed_foldl {inputs : List (FleetInput V)} {o : FleetOptions V} :
    (inputs.foldl (fun acc input => acc.union input.options) o).OnlyListed ↔
      o.OnlyListed ∧ NothingDropped inputs := by
  induction inputs generalizing o with
  | nil => simp [NothingDropped]
  | cons input rest ih =>
      rw [List.foldl_cons, ih, FleetOptions.onlyListed_union, and_assoc]
      simp [NothingDropped]

theorem onlyListed_unionOf {inputs : List (FleetInput V)} :
    (unionOf inputs).OnlyListed ↔ NothingDropped inputs :=
  onlyListed_foldl.trans (and_iff_right ⟨rfl, rfl, rfl, rfl⟩)

/-- The listed options are all iff the others have no definitions. -/
theorem options_listed_toInput {o : FleetOptions V} :
    o.listed.toInput.options = o.toInput.options ↔ o.OnlyListed := by
  cases o
  constructor
  · intro h
    cases h
    exact ⟨rfl, rfl, rfl, rfl⟩
  · rintro ⟨hcompliance, hhealth, hrevocations, hnonces⟩
    cases hcompliance
    cases hhealth
    cases hrevocations
    cases hnonces
    rfl

theorem unionOf_singleton (input : FleetInput V) : unionOf [input] = input.options := by
  simp only [unionOf, List.foldl_cons, List.foldl_nil, FleetOptions.union, FleetOptions.empty,
    Finmap.empty_union, Finmap.union_empty, List.nil_append]

/-- **When a merge loses nothing.** It does what it is to do iff no input defines fleet-wide
compliance or health checks, revocations or bootstrap nonces. -/
theorem mergesFaithfully_iff (inputs : List (FleetInput V)) (hinputs : NoCollisions inputs) :
    MergesFaithfully inputs ↔ NothingDropped inputs := by
  constructor
  · intro h
    have hunion := h.union (FleetOptions V) Unit id fun _ => ()
    rw [mergeFleets_eq hinputs, Except.ok.injEq] at hunion
    have hoptions : (unionOf inputs).listed.toInput.options = (unionOf inputs).toInput.options :=
      congrArg Prod.fst hunion
    exact onlyListed_unionOf.mp (options_listed_toInput.mp hoptions)
  · intro h
    have hoptions := options_listed_toInput.mpr (onlyListed_unionOf.mpr h)
    have hunion : ∀ (C R : Type) (evalModules : FleetOptions V → C) (resolveFleet : C → R),
        mergeFleets evalModules resolveFleet inputs =
          .ok (mkFleet evalModules resolveFleet (unionOf inputs).toInput) := by
      intro C R evalModules resolveFleet
      rw [mergeFleets_eq hinputs]
      unfold mkFleet
      rw [hoptions]
    refine ⟨hunion, ?_, ?_⟩
    · rintro input rfl C R evalModules resolveFleet
      rw [hunion]
      unfold mkFleet
      rw [unionOf_singleton]
      rfl
    · rintro before after rfl
      have hbefore := mergeInputs_eq (List.pairwise_append.mp hinputs).1
      refine ⟨_, hbefore, fun C R evalModules resolveFleet => ?_⟩
      rw [mergeFleets, mergeFleets, mergeInputs_regroup hbefore]

end Merge

/-! ## Two fleets -/

/-- A fleet of one host on its own channel. -/
def cityFleet (host channel : String) (revocations : Option (List String)) :
    FleetInput String where
  hosts := some (Finmap.singleton host channel)
  tags := none
  channels := some (Finmap.singleton channel "rolling")
  rolloutPolicies := some (Finmap.singleton "rolling" "all-at-once")
  edges := none
  channelEdges := none
  disruptionBudgets := none
  compliance := none
  healthChecks := none
  revocations := revocations
  bootstrapNonces := none

/-- Without revocations two fleets merge into all of both. -/
theorem twoCities_mergesFaithfully :
    MergesFaithfully [cityFleet "louvre" "paris" none, cityFleet "perrache" "lyon" none] := by
  refine (mergesFaithfully_iff _ ?_).mpr ?_
  · unfold NoCollisions FleetOptions.Disjoint
    decide
  · intro input hinput
    rcases List.mem_pair.mp hinput with rfl | rfl
    · exact ⟨rfl, rfl, rfl, rfl⟩
    · exact ⟨rfl, rfl, rfl, rfl⟩

/-- The revocation of a host is lost, even when there is nothing to merge with. -/
theorem revoked_not_mergesFaithfully :
    ¬ MergesFaithfully [cityFleet "louvre" "paris" (some ["louvre"])] := by
  intro h
  have hsingle := h.single _ rfl (List String) Unit (·.revocations) fun _ => ()
  have hmerged : mergeFleets (·.revocations) (fun _ => ())
      [cityFleet "louvre" "paris" (some ["louvre"])] = .ok ([], ()) :=
    mergeFleets_eq (List.pairwise_singleton _ _)
  rw [hmerged] at hsingle
  cases hsingle

end Nixfleet
