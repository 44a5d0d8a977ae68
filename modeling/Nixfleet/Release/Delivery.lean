import Nixfleet.Lib.Except
import Nixfleet.MkFleet.Resolve
import Nixfleet.Reconciler.Manifest
import Nixfleet.Release.Run

set_option autoImplicit false

/-!
# From the declared fleet to the control plane

A release resolves the declared fleet, injects the closures, stamps the metadata and projects
a manifest per channel, all with one commit; the control plane normalizes the fleet once it is
verified. `ReleasedFrom` says that a manifest set came about this way. Its host edges are the
declared ones, so they end (`ReleasedFrom.grounded`), and a rollout id names one channel
(`ReleasedFrom.channel_eq`).
-/

namespace Nixfleet

/-- The fleet as it is signed. -/
def signedFleet (resolved : FleetResolved) (hashes : List (HostId × ClosureHash))
    (signedAt : Time) (commit : Option String) (algorithm : String) : FleetResolved :=
  stampMeta (injectClosureHashes resolved hashes) signedAt commit algorithm

/-- The manifest set is one of a release of the declared fleet. A channel whose manifest the
control plane could not fetch has none. -/
def ReleasedFrom (cfg : FleetConfig) (m : SignedManifestSet) : Prop :=
  ∃ resolved hashes signedAt commit algorithm, resolveFleet cfg = .ok resolved ∧
    m.fleet = normalizeRolloutPolicies (signedFleet resolved hashes signedAt commit algorithm) ∧
    ∀ channel manifest, m.rollouts.lookup channel = some manifest →
      ∃ hash, projectManifest (signedFleet resolved hashes signedAt commit algorithm) channel hash
        signedAt commit algorithm = .ok (some manifest)

@[simp] theorem injectClosureHashes_edges (resolved : FleetResolved)
    (hashes : List (HostId × ClosureHash)) :
    (injectClosureHashes resolved hashes).edges = resolved.edges := by
  unfold injectClosureHashes
  exact List.foldlRecOn (motive := fun r : FleetResolved => r.edges = resolved.edges) _ _ rfl
    fun _ hr _ _ => hr

@[simp] theorem injectClosureHashes_channelEdges (resolved : FleetResolved)
    (hashes : List (HostId × ClosureHash)) :
    (injectClosureHashes resolved hashes).channelEdges = resolved.channelEdges := by
  unfold injectClosureHashes
  exact List.foldlRecOn (motive := fun r : FleetResolved => r.channelEdges =
    resolved.channelEdges) _ _ rfl fun _ hr _ _ => hr

section Released

variable {cfg : FleetConfig} {m : SignedManifestSet}

/-- Every chain of gating hosts of a released fleet ends. -/
theorem ReleasedFrom.grounded (h : ReleasedFrom cfg m) (host : HostId) :
    Grounded (m.fleet.edges.map fun e => (e.gated, e.gates)) host := by
  obtain ⟨resolved, hashes, signedAt, commit, algorithm, hresolve, hfleet, -⟩ := h
  obtain ⟨hcheck, hedges, -, -⟩ := resolveFleet_eq_ok hresolve
  have hsame : m.fleet.edges.map (fun e => (e.gated, e.gates)) = cfg.edgePairs := by
    rw [hfleet, ← hedges]
    simp [normalizeRolloutPolicies, signedFleet, stampMeta]
  rw [hsame]
  exact (wellFormed_of_checkInvariants hcheck).grounded host

/-- Every chain of gating channels of a released fleet ends. -/
theorem ReleasedFrom.channelGrounded (h : ReleasedFrom cfg m) (channel : ChannelId) :
    Grounded (m.fleet.channelEdges.map fun e => (e.gated, e.gates)) channel := by
  obtain ⟨resolved, hashes, signedAt, commit, algorithm, hresolve, hfleet, -⟩ := h
  simp only [resolveFleet, Except.bind_eq_ok, Except.ok.injEq] at hresolve
  obtain ⟨_, hcheck, channelEdges, hnormal, rfl⟩ := hresolve
  obtain ⟨sites, channelEdges', -, hnormal', hnone⟩ := checkInvariants_eq_ok hcheck
  -- the edges that are resolved are those that were checked
  have hsame : channelEdges' = channelEdges := Except.ok.inj (hnormal'.symm.trans hnormal)
  have hedges : m.fleet.channelEdges = channelEdges := by
    rw [hfleet]
    simp [normalizeRolloutPolicies, signedFleet, stampMeta]
  simp only [violations, List.append_eq_nil_iff] at hnone
  obtain ⟨⟨⟨-, hcycle⟩, -⟩, -⟩ := hnone
  rw [hedges, ← hsame]
  exact grounded_of_hasCycle (by simpa [channelCycleErrors] using hcycle) channel

/-- The hosts of a manifest are those of its channel in the fleet. -/
theorem ReleasedFrom.hostSet (h : ReleasedFrom cfg m) {channel : ChannelId}
    {manifest : RolloutManifest} (hm : m.rollouts.lookup channel = some manifest) :
    manifest.hostSet = hostSetOf m.fleet channel := by
  obtain ⟨resolved, hashes, signedAt, commit, algorithm, -, hfleet, hproject⟩ := h
  obtain ⟨hash, hp⟩ := hproject channel manifest hm
  -- the normalization touches neither hosts nor waves
  rw [(projectManifest_spec hp).1, hfleet]
  rfl

/-- Two manifests of one rollout id are of one channel. -/
theorem ReleasedFrom.channel_eq (h : ReleasedFrom cfg m) {channel channel' : ChannelId}
    {manifest manifest' : RolloutManifest} (hm : m.rollouts.lookup channel = some manifest)
    (hm' : m.rollouts.lookup channel' = some manifest')
    (hid : RolloutId.new channel manifest.channelRef =
      RolloutId.new channel' manifest'.channelRef) : channel = channel' := by
  obtain ⟨resolved, hashes, signedAt, commit, algorithm, -, -, hproject⟩ := h
  obtain ⟨hash, hp⟩ := hproject channel manifest hm
  obtain ⟨hash', hp'⟩ := hproject channel' manifest' hm'
  have href := (projectManifest_spec hp).2.1.trans (projectManifest_spec hp').2.1.symm
  have hstr : channel ++ "@" ++ manifest.channelRef = channel' ++ "@" ++ manifest'.channelRef :=
    congrArg RolloutId.asStr hid
  rw [href, String.append_left_inj, String.append_left_inj] at hstr
  exact hstr

end Released

/-! ## A release without failures -/

/-- The manifests of a release of the declared fleet, all of them fetched. -/
def deliver (cfg : FleetConfig) (hashes : List (HostId × ClosureHash)) (signedAt : Time)
    (commit : String) : Except NixError SignedManifestSet := do
  let resolved ← resolveFleet cfg
  let fleet := signedFleet resolved hashes signedAt (some commit) "ed25519"
  .ok {
    fleet := normalizeRolloutPolicies fleet
    rollouts := fleet.channels.rows.foldl (fun rollouts c =>
      match projectManifest fleet c.1 "" signedAt (some commit) "ed25519" with
      | .ok (some manifest) => rollouts.insert c.1 manifest
      | _ => rollouts) ∅ }

theorem releasedFrom_of_deliver {cfg : FleetConfig} {hashes : List (HostId × ClosureHash)}
    {signedAt : Time} {commit : String} {m : SignedManifestSet}
    (h : deliver cfg hashes signedAt commit = .ok m) : ReleasedFrom cfg m := by
  simp only [deliver, Except.bind_eq_ok, Except.ok.injEq] at h
  obtain ⟨resolved, hr, rfl⟩ := h
  refine ⟨resolved, hashes, signedAt, some commit, "ed25519", hr, rfl, ?_⟩
  refine List.foldlRecOn (motive := fun rollouts : Table ChannelId RolloutManifest =>
    ∀ channel manifest, rollouts.lookup channel = some manifest → ∃ hash,
      projectManifest (signedFleet resolved hashes signedAt (some commit) "ed25519") channel
        hash signedAt (some commit) "ed25519" = .ok (some manifest)) _ _ ?_ ?_
  · intro channel manifest hlook
    cases hlook
  · intro rollouts ih c _ channel manifest hlook
    split at hlook
    · rename_i manifest' hp
      rw [Table.lookup_insert_eq] at hlook
      split at hlook
      · rename_i hch
        cases hlook
        exact ⟨"", hch ▸ hp⟩
      · exact ih channel manifest hlook
    · exact ih channel manifest hlook

end Nixfleet
