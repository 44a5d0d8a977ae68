import Nixfleet.Lib.Json
import Nixfleet.MkFleet.Resolve
import Nixfleet.Reconciler.Manifest

set_option autoImplicit false

/-!
# Selectors on the wire

A selector is evaluated twice: by `resolveSelector` in Nix, for the waves, and by
`Selector::matches` in Rust, for the budgets, after `builtins.toJSON` and serde. The decoder
passes over `and` and `not`, so the two agree exactly on the selectors whose other fields
already say the same (`selectors_agree_iff`).
-/

namespace Nixfleet

/-! ## Encoding and decoding -/

/-- A list of strings. -/
def jsonStrings (l : List String) : Json := .arr (l.map .str)

mutual

/-- `builtins.toJSON` of a selector: its options by name. -/
def NixSelector.toJson : NixSelector → Json
  | .mk tags tagsAny hosts channel all and not => .obj [
      ("all", .bool all),
      ("and", .arr (toJsons and)),
      ("channel", .ofOption .str channel),
      ("hosts", jsonStrings hosts),
      ("not", toJson? not),
      ("tags", jsonStrings tags),
      ("tagsAny", jsonStrings tagsAny)]

def NixSelector.toJsons : List NixSelector → List Json
  | [] => []
  | s :: ss => s.toJson :: toJsons ss

def NixSelector.toJson? : Option NixSelector → Json
  | none => .null
  | some s => s.toJson

end

/-- `Selector::deserialize`: every field has a default, and other fields are ignored. -/
def Selector.ofJson : Json → Option Selector
  | .obj fields => do
      let tags ← Json.fieldOr [] (Json.asList Json.asStr) fields "tags"
      let tagsAny ← Json.fieldOr [] (Json.asList Json.asStr) fields "tagsAny"
      let hosts ← Json.fieldOr [] (Json.asList Json.asStr) fields "hosts"
      let channel ← Json.fieldOr none (Json.asOption Json.asStr) fields "channel"
      let all ← Json.fieldOr false Json.asBool fields "all"
      some ⟨tags, tagsAny, hosts, channel, all⟩
  | _ => none

/-- **What Rust decodes.** The selector without its `and` and `not`. -/
theorem ofJson_toJson (sel : NixSelector) : Selector.ofJson sel.toJson = some sel.wire := by
  cases sel with
  | mk tags tagsAny hosts channel all and not =>
      have hstrings : ∀ l, Json.asList Json.asStr (jsonStrings l) = some l :=
        Json.inverts_str.list
      have hchannel : Json.asOption Json.asStr (.ofOption .str channel) = some channel :=
        Json.inverts_str.option (fun _ => nofun) channel
      have hall : Json.asBool (.bool all) = some all := Json.inverts_bool all
      simp [NixSelector.toJson, Selector.ofJson, NixSelector.wire, Json.fieldOr_cons_of_ne,
        Json.fieldOr_cons_self, hstrings, hchannel, hall]

/-! ## Matching -/

/-- What the fields that Rust reads say of a host. -/
def NixSelector.flat : NixSelector → HostId → HostConfig → Bool
  | .mk tags tagsAny hosts channel all _ _, n, h => matchBase tags tagsAny hosts channel all n h

/-- What `not` or `and` says of a host, when one of them is set. -/
def NixSelector.nested? : NixSelector → Option (HostId → HostConfig → Bool)
  | .mk _ _ _ _ _ _ (some s) => some fun n h => !matchHost s n h
  | .mk _ _ _ _ _ (s :: ss) none => some fun n h => matchAll (s :: ss) n h
  | .mk _ _ _ _ _ [] none => none

/-- Nix reads `not` and `and` where they are set, and the other fields elsewhere. -/
theorem matchHost_eq (sel : NixSelector) (n : HostId) (h : HostConfig) :
    matchHost sel n h = (sel.nested?.getD sel.flat) n h := by
  rcases sel with ⟨tags, tagsAny, hosts, channel, all, _ | ⟨s, ss⟩, _ | s'⟩
  all_goals simp only [matchHost, NixSelector.nested?, NixSelector.flat, Option.getD]

/-- Rust reads the other fields. -/
theorem wire_matches (sel : NixSelector) (n : HostId) (h : HostConfig) :
    sel.wire.matches n h.resolved = sel.flat n h := by
  cases sel with
  | mk tags tagsAny hosts channel all and not =>
      have hhosts : hosts.any (· == n) = hosts.contains n := by
        rw [List.contains_eq_any_beq]
        exact congrArg hosts.any (funext fun x => Bool.beq_comm)
      unfold NixSelector.wire NixSelector.flat Selector.matches matchBase HostConfig.resolved
      dsimp only
      rw [hhosts]
      cases channel <;> rfl

/-- Where Rust reads what Nix reads: for every host of the fleet, `not` or `and`, if it is set,
says what the other fields say. -/
def NixSelector.LosesNothing (sel : NixSelector) (hosts : Table HostId HostConfig) : Prop :=
  ∀ nested ∈ sel.nested?, ∀ n h, hosts.lookup n = some h → sel.flat n h = nested n h

theorem losesNothing_iff {sel : NixSelector} {hosts : Table HostId HostConfig} :
    sel.LosesNothing hosts ↔
      ∀ n h, hosts.lookup n = some h → sel.flat n h = matchHost sel n h := by
  unfold NixSelector.LosesNothing
  simp only [matchHost_eq]
  cases sel.nested? with
  | none => simp
  | some nested => simp

/-- A selector without `and` and `not` loses nothing. -/
theorem losesNothing_of_flat {sel : NixSelector} (h : sel.nested? = none)
    (hosts : Table HostId HostConfig) : sel.LosesNothing hosts := by
  unfold NixSelector.LosesNothing
  rw [h]
  nofun

/-- A selector that is nothing but an `and` or a `not` is decoded to one that picks no host, so
it loses whatever it picks. -/
theorem losesNothing_of_bare {sel : NixSelector} (h : sel.wire = Selector.empty)
    {hosts : Table HostId HostConfig} :
    sel.LosesNothing hosts ↔
      ∀ nested ∈ sel.nested?, ∀ n host, hosts.lookup n = some host → nested n host = false := by
  have hflat : ∀ n host, sel.flat n host = false := by
    intro n host
    rw [← wire_matches, h]
    rfl
  unfold NixSelector.LosesNothing
  simp only [hflat, eq_comm]

/-! ## Resolving -/

/-- In name order, Rust resolves a selector to the names whose hosts match, in whatever order
its hash map lists the hosts. -/
theorem resolve_sorted (s : Selector) {hosts : Table HostId Host} {entries : List (HostId × Host)}
    (hentries : entries.Perm hosts.rows) :
    (s.resolve entries).insertionSort (· ≤ ·) =
      (attrNames hosts).filter fun n => (hosts.lookup n).any (s.matches n) := by
  have hnodup : (s.resolve entries).Nodup := by
    have hkeys : (entries.map Prod.fst).Nodup :=
      (hentries.map Prod.fst).nodup_iff.mpr hosts.rows_keys_nodup
    exact hkeys.sublist (List.filter_sublist.map Prod.fst)
  have hnodup' : (attrNames hosts).Nodup :=
    (List.perm_insertionSort _ _).nodup_iff.mpr hosts.rows_keys_nodup
  have hmem : ∀ n, n ∈ s.resolve entries ↔
      n ∈ (attrNames hosts).filter fun n => (hosts.lookup n).any (s.matches n) := by
    intro n
    simp only [Selector.resolve, List.mem_map, List.mem_filter, hentries.mem_iff, Prod.exists,
      Table.mem_rows, mem_attrNames, Option.any_eq_true]
    constructor
    · rintro ⟨n', h, ⟨hh, hm⟩, rfl⟩
      exact ⟨by rw [hh]; rfl, h, hh, hm⟩
    · rintro ⟨-, h, hh, hm⟩
      exact ⟨n, h, ⟨hh, hm⟩, rfl⟩
  -- two sorted lists without duplicates and with the same members are equal
  refine List.Perm.eq_of_pairwise' (r := (· ≤ ·)) (List.pairwise_insertionSort _ _)
    ((List.pairwise_insertionSort _ _).filter _) ?_
  exact (List.perm_insertionSort _ _).trans
    ((List.perm_ext_iff_of_nodup hnodup (hnodup'.filter _)).mpr hmem)

/-- The hosts that Rust reads, under their names. -/
def resolvedHosts (hosts : Table HostId HostConfig) : Table HostId Host :=
  hosts.mapRows fun _ h => h.resolved

theorem attrNames_resolvedHosts (hosts : Table HostId HostConfig) :
    attrNames (resolvedHosts hosts) = attrNames hosts := by
  simp [attrNames, resolvedHosts, Table.rows_mapRows, Function.comp_def]

theorem any_resolvedHosts (hosts : Table HostId HostConfig) (sel : NixSelector) (n : HostId) :
    ((resolvedHosts hosts).lookup n).any (sel.wire.matches n) =
      (hosts.lookup n).any (sel.flat n) := by
  rw [Bool.eq_iff_iff, Option.any_eq_true, Option.any_eq_true]
  simp only [resolvedHosts, Table.lookup_mapRows]
  constructor
  · rintro ⟨-, ⟨h, hh, rfl⟩, hm⟩
    exact ⟨h, hh, by rwa [wire_matches] at hm⟩
  · rintro ⟨h, hh, hm⟩
    exact ⟨h.resolved, ⟨h, hh, rfl⟩, by rwa [wire_matches]⟩

/-- Rust picks the hosts that the other fields pick. -/
theorem wire_resolve (sel : NixSelector) {hosts : Table HostId HostConfig}
    {entries : List (HostId × Host)} (hentries : entries.Perm (resolvedHosts hosts).rows) :
    (sel.wire.resolve entries).insertionSort (· ≤ ·) =
      (attrNames hosts).filter fun n => (hosts.lookup n).any (sel.flat n) := by
  rw [resolve_sorted sel.wire hentries, attrNames_resolvedHosts]
  exact List.filter_congr fun n _ => any_resolvedHosts hosts sel n

/-- The picks are the same exactly where nothing is lost. -/
theorem filter_flat_eq_iff (sel : NixSelector) (hosts : Table HostId HostConfig) :
    (attrNames hosts).filter (fun n => (hosts.lookup n).any (sel.flat n)) =
      resolveSelector sel hosts ↔ sel.LosesNothing hosts := by
  rw [losesNothing_iff]
  unfold resolveSelector
  constructor
  · intro heq n h hh
    have hn : n ∈ attrNames hosts := mem_attrNames.mpr (by rw [hh]; rfl)
    have hiff : n ∈ (attrNames hosts).filter (fun n => (hosts.lookup n).any (sel.flat n)) ↔
        n ∈ (attrNames hosts).filter (fun n => (hosts.lookup n).any (matchHost sel n)) := by
      rw [heq]
    simpa only [List.mem_filter, hn, hh, Option.any_some, true_and, ← Bool.eq_iff_iff] using hiff
  · intro hsame
    refine List.filter_congr fun n _ => ?_
    cases hh : hosts.lookup n with
    | none => rfl
    | some h => exact hsame n h hh

/-! ## The two evaluations -/

/-- The selector that Rust decodes from the emitted one resolves to the hosts that Nix picks, in
whatever order the hosts are listed. -/
def SelectorAgrees (sel : NixSelector) (hosts : Table HostId HostConfig) : Prop :=
  ∃ s, Selector.ofJson sel.toJson = some s ∧ ∀ entries, entries.Perm (resolvedHosts hosts).rows →
    (s.resolve entries).insertionSort (· ≤ ·) = resolveSelector sel hosts

/-- The budgets that a rollout manifest records cover the hosts that the declared ones select. -/
def BudgetsCover (cfg : FleetConfig) (resolved : FleetResolved) : Prop :=
  List.Forall₂ (fun declared recorded =>
    recorded.hosts = resolveSelector declared.selector cfg.hosts)
    cfg.disruptionBudgets (budgetSnapshots resolved)

theorem selectorAgrees_iff (sel : NixSelector) (hosts : Table HostId HostConfig) :
    SelectorAgrees sel hosts ↔ sel.LosesNothing hosts := by
  rw [← filter_flat_eq_iff]
  constructor
  -- any order will do, the table's own for one
  · rintro ⟨s, hs, hsame⟩
    rw [ofJson_toJson, Option.some.injEq] at hs
    subst hs
    rw [← hsame _ (.refl _), wire_resolve sel (.refl _)]
  · intro heq
    exact ⟨sel.wire, ofJson_toJson sel, fun entries h => (wire_resolve sel h).trans heq⟩

theorem budgetsCover_iff {cfg : FleetConfig} {resolved : FleetResolved}
    (h : resolveFleet cfg = .ok resolved) :
    BudgetsCover cfg resolved ↔
      ∀ b ∈ cfg.disruptionBudgets, b.selector.LosesNothing cfg.hosts := by
  obtain ⟨-, -, hhosts, hbudgets⟩ := resolveFleet_eq_ok h
  have hone : ∀ b : BudgetConfig,
      (b.selector.wire.resolve resolved.hosts.rows).insertionSort (· ≤ ·) =
        resolveSelector b.selector cfg.hosts ↔ b.selector.LosesNothing cfg.hosts := by
    intro b
    rw [hhosts, ← filter_flat_eq_iff]
    exact Eq.congr_left (wire_resolve b.selector (.refl _))
  unfold BudgetsCover budgetSnapshots
  rw [hbudgets, List.map_map, List.forall₂_map_right_iff, List.forall₂_same]
  exact forall₂_congr fun b _ => hone b

/-- **Where a selector means the same** in Nix and in Rust, and where the budgets of an accepted
fleet cover what they select. -/
theorem selectors_agree_iff (sel : NixSelector) (hosts : Table HostId HostConfig) :
    (SelectorAgrees sel hosts ↔ sel.LosesNothing hosts) ∧
      ∀ cfg resolved, resolveFleet cfg = .ok resolved →
        (BudgetsCover cfg resolved ↔
          ∀ b ∈ cfg.disruptionBudgets, b.selector.LosesNothing cfg.hosts) := by
  constructor
  · exact selectorAgrees_iff sel hosts
  · intro cfg resolved h
    exact budgetsCover_iff h

/-- A fleet of two hosts, `b` deprecated, with a budget for the selected ones. -/
def budgetConfig (selector : NixSelector) : FleetConfig :=
  let host (tags : List String) : HostConfig :=
    ⟨"x86_64-linux", none, tags, "stable", none, none, ∅⟩
  { hosts := ((∅ : Table HostId HostConfig).insert "a" (host ["web"])).insert "b"
      (host ["web", "deprecated"])
    tags := ∅
    channels := (∅ : Table ChannelId ChannelConfig).insert "stable"
      ⟨"all", 5, 30, 60, ∅, ⟨[], .enforce⟩⟩
    rolloutPolicies := (∅ : Table String PolicyConfig).insert "all" ⟨"all-at-once", [], .halt⟩
    edges := []
    channelEdges := []
    disruptionBudgets := [⟨selector, some 1, none⟩]
    healthChecks := ∅ }

/-- `{ tags = [ "deprecated" ]; }`. -/
def deprecatedSelector : NixSelector := .mk ["deprecated"] [] [] none false [] none

/-- `{ not = { tags = [ "deprecated" ]; }; }`. -/
def notDeprecatedSelector : NixSelector := .mk [] [] [] none false [] (some deprecatedSelector)

set_option maxRecDepth 4000 in
/-- A budget for the deprecated hosts covers them. -/
theorem deprecatedBudget_covers :
    SelectorAgrees deprecatedSelector (budgetConfig deprecatedSelector).hosts ∧
      ∃ resolved, resolveFleet (budgetConfig deprecatedSelector) = .ok resolved ∧
        BudgetsCover (budgetConfig deprecatedSelector) resolved := by
  obtain ⟨hagrees, hcover⟩ :=
    selectors_agree_iff deprecatedSelector (budgetConfig deprecatedSelector).hosts
  refine ⟨hagrees.mpr (losesNothing_of_flat rfl _), ?_⟩
  have hok : (resolveFleet (budgetConfig deprecatedSelector)).isOk = true := by decide
  obtain ⟨resolved, hr⟩ := exists_resolved hok
  refine ⟨resolved, hr, (hcover _ resolved hr).mpr ?_⟩
  intro b hb
  rw [List.mem_singleton.mp hb]
  exact losesNothing_of_flat rfl _

set_option maxRecDepth 4000 in
/-- A budget for the other hosts covers none of them. -/
theorem notDeprecatedBudget_covers_none :
    ¬ SelectorAgrees notDeprecatedSelector (budgetConfig notDeprecatedSelector).hosts ∧
      ∃ resolved, resolveFleet (budgetConfig notDeprecatedSelector) = .ok resolved ∧
        ¬ BudgetsCover (budgetConfig notDeprecatedSelector) resolved := by
  constructor
  · rintro ⟨s, hs, hsame⟩
    rw [ofJson_toJson, Option.some.injEq] at hs
    subst hs
    exact absurd (hsame _ (.refl _)) (by decide)
  · have hok : (resolveFleet (budgetConfig notDeprecatedSelector)).isOk = true := by decide
    obtain ⟨resolved, hr⟩ := exists_resolved hok
    refine ⟨resolved, hr, fun hcover => ?_⟩
    -- Nix picks `a`, while the decoded selector picks nothing
    have hlost := (budgetsCover_iff hr).mp hcover _ List.mem_cons_self
    exact absurd (hlost _ rfl "a" _ rfl) (by decide)

end Nixfleet
