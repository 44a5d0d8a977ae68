import Nixfleet.Agent.ManifestCache
import Nixfleet.Lib.Except
import Nixfleet.Lib.Machine

set_option autoImplicit false

/-!
# What a poll emits

A poll is to follow the control plane: to emit the fleet it serves and the manifests it serves for
the fleet's channels. It asks the control plane only where the cache has nothing that verifies, and
what was signed within the freshness window verifies, also after something else has been signed. So
a poll emits what is served exactly where the cache is current (`emitsServed_iff`).
-/

namespace Nixfleet

/-- Who loads: the poll, with the order in which it walks the channels, or the worker that has
been handed a dispatch of a rollout. -/
inductive Load where
  | poll (order : ChannelId → Nat)
  | dispatch (rolloutId : RolloutId)

structure LoadInput where
  load : Load
  env : LoadEnv

/-- One load: the cache after it, and the set that a successful poll emits. -/
def loadStep (cache : ManifestCache) (disk : CacheDisk) (i : LoadInput) :
    CacheDisk × List SignedManifestSet :=
  match i.load with
  | .poll order =>
      let r := cache.tickOnce i.env order disk
      (r.2, r.1.toOption.toList)
  | .dispatch rolloutId => ((cache.fetchOrLoad i.env disk rolloutId).2, [])

/-- The agent's loads as a machine over its cache. -/
def loadMachine (cache : ManifestCache) : Machine CacheDisk LoadInput SignedManifestSet :=
  ⟨loadStep cache⟩

section Served

variable (cache : ManifestCache) (env : LoadEnv) (fleet : FleetResolved) (hash : String)

/-- The manifest that the control plane serves for a channel of the fleet, if it serves one. -/
def servedManifest (channel : ChannelId) : Option RolloutManifest :=
  match computeRolloutIdForChannel fleet hash channel with
  | .ok (some rolloutId) => (cache.fetchManifest env rolloutId).toOption.map (·.2.inner)
  | _ => none

/-- The control plane serves the fleet with the hash, and whatever it serves verifies and each
manifest names the hash. -/
structure ServesVerified : Prop where
  serves : ∃ pair verified, cache.fetchFleet env = .ok (pair, verified, hash) ∧
    verified.inner = fleet
  manifests : ∀ channel rolloutId,
    computeRolloutIdForChannel fleet hash channel = .ok (some rolloutId) →
      ∀ pair, loadPair env.store rolloutId.asStr = .ok pair →
        ∃ verified, cache.verifyBytes env pair.1 pair.2 rolloutId = .ok verified ∧
          verified.inner.fleetResolvedHash = hash

end Served

/-- A poll that meets verified artifacts emits the served fleet and the served manifests. -/
def EmitsServed (cache : ManifestCache) (disk : CacheDisk) (i : LoadInput) : Prop :=
  ∀ order, i.load = .poll order → ∀ fleet hash, ServesVerified cache i.env fleet hash →
    ∃ set, (loadStep cache disk i).2 = [set] ∧ set.fleet = fleet ∧
      ∀ channel, set.rollouts.lookup channel = servedManifest cache i.env fleet hash channel

/-- The hash that the poll compares with: that of the cached fleet, if it verifies. -/
def loadedHash (cache : ManifestCache) (env : LoadEnv) (disk : CacheDisk) (hash : String) :
    String :=
  match cache.cachedFleet env disk with
  | none => hash
  | some (bytes, _) => (cache.hashFleet "cached" bytes).toOption.getD hash

/-- What the cache holds and verifies is what is served. A fleet has the served hash unless no
manifest is served for it, and a manifest for which none is served names another hash. -/
structure CacheCurrent (cache : ManifestCache) (env : LoadEnv) (disk : CacheDisk)
    (fleet : FleetResolved) (hash : String) : Prop where
  sameFleet : ∀ bytes cached, cache.cachedFleet env disk = some (bytes, cached) →
    cached.inner = fleet
  sameHash : loadedHash cache env disk hash = hash ∨
    ∀ channel, servedManifest cache env fleet hash channel = none
  served : ∀ channel rolloutId,
    computeRolloutIdForChannel fleet hash channel = .ok (some rolloutId) →
      ∀ cached, cache.cachedManifest env disk rolloutId = some cached →
        ∀ manifest, servedManifest cache env fleet hash channel = some manifest →
          cached.inner = manifest
  unserved : ∀ channel rolloutId,
    computeRolloutIdForChannel fleet hash channel = .ok (some rolloutId) →
      validateRolloutIdForPath rolloutId = .ok () →
        ∀ cached, cache.cachedManifest env disk rolloutId = some cached →
          servedManifest cache env fleet hash channel = none →
            cached.inner.fleetResolvedHash ≠ loadedHash cache env disk hash

/-- Every poll that meets verified artifacts finds its cache current. -/
def PollsCurrent (cache : ManifestCache) (disk : CacheDisk) (i : LoadInput) : Prop :=
  ∀ order, i.load = .poll order → ∀ fleet hash, ServesVerified cache i.env fleet hash →
    CacheCurrent cache i.env disk fleet hash

/-! ## Rollout ids of a fleet -/

section Ids

variable {fleet : FleetResolved} {hash : String} {channel channel' : ChannelId}
  {rolloutId rolloutId' : RolloutId}

theorem computeRolloutIdForChannel_eq_some
    (h : computeRolloutIdForChannel fleet hash channel = .ok (some rolloutId)) :
    rolloutId = .new channel (fleet.fleetMeta.ciCommit.getD "") ∧
      (fleet.channels.lookup channel).isSome = true := by
  unfold computeRolloutIdForChannel at h
  split at h
  · cases h
  · rename_i signedAt _
    obtain ⟨manifest?, hp, hid⟩ := Except.map_eq_ok.mp h
    obtain ⟨manifest, rfl, rfl⟩ := Option.map_eq_some_iff.mp hid
    obtain ⟨hchannel, hsome⟩ := projectManifest_channel hp
    rw [hchannel, (projectManifest_spec hp).2.1]
    exact ⟨rfl, hsome⟩

/-- The hash is written into the manifest, not into the id. -/
theorem computeRolloutIdForChannel_hash (hash hash' : String) :
    computeRolloutIdForChannel fleet hash channel =
      computeRolloutIdForChannel fleet hash' channel := by
  unfold computeRolloutIdForChannel projectManifest
  split
  · rfl
  · split
    · rfl
    · split
      · rfl
      · split <;> rfl

/-- Two channels of a fleet have different ids. -/
theorem rolloutId_ne_of_channel_ne (hne : channel' ≠ channel)
    (h : computeRolloutIdForChannel fleet hash channel = .ok (some rolloutId))
    (h' : computeRolloutIdForChannel fleet hash channel' = .ok (some rolloutId')) :
    rolloutId' ≠ rolloutId := by
  rw [(computeRolloutIdForChannel_eq_some h).1, (computeRolloutIdForChannel_eq_some h').1]
  intro heq
  have hstr := congrArg RolloutId.asStr heq
  simp only [RolloutId.new, String.append_left_inj] at hstr
  exact hne hstr

end Ids

/-! ## Loads -/

section Loads

variable {cache : ManifestCache} {env : LoadEnv} {disk disk' : CacheDisk}
  {rolloutId rolloutId' : RolloutId}

/-- Two disks agree on the files of a rollout. -/
def SameFiles (rolloutId : RolloutId) (disk disk' : CacheDisk) : Prop :=
  disk'.manifests.lookup rolloutId = disk.manifests.lookup rolloutId ∧
    disk'.sigs.lookup rolloutId = disk.sigs.lookup rolloutId

theorem cachedManifest_congr (h : SameFiles rolloutId disk disk') :
    cache.cachedManifest env disk' rolloutId = cache.cachedManifest env disk rolloutId := by
  unfold ManifestCache.cachedManifest ManifestCache.readCachedBytes
  rw [h.1, h.2]

/-- A load writes the files of its own rollout only. -/
theorem fetchOrLoad_sameFiles (hne : rolloutId' ≠ rolloutId) :
    SameFiles rolloutId' disk (cache.fetchOrLoad env disk rolloutId).2 := by
  have hwrite : ∀ manifest sig, SameFiles rolloutId' disk
      (ManifestCache.writeCache env disk rolloutId manifest sig) := by
    intro manifest sig
    unfold ManifestCache.writeCache
    split
    · exact ⟨rfl, rfl⟩
    · split
      · exact ⟨by simp [hne], rfl⟩
      · exact ⟨by simp [hne], by simp [hne]⟩
  unfold ManifestCache.fetchOrLoad
  split
  · exact ⟨rfl, rfl⟩
  · split
    · exact ⟨rfl, rfl⟩
    · split
      · exact ⟨rfl, rfl⟩
      · exact hwrite _ _

/-- What a poll adds for a channel. -/
def polledManifest (cache : ManifestCache) (env : LoadEnv) (fleet : FleetResolved) (hash : String)
    (disk : CacheDisk) (channel : ChannelId) : Option RolloutManifest :=
  match computeRolloutIdForChannel fleet hash channel with
  | .ok (some rolloutId) =>
      ((cache.fetchOrLoad env disk rolloutId).1.toOption.map (·.inner)).filter
        (·.fleetResolvedHash = hash)
  | _ => none

theorem fetchOrLoad_congr (h : SameFiles rolloutId disk disk') :
    (cache.fetchOrLoad env disk' rolloutId).1 = (cache.fetchOrLoad env disk rolloutId).1 := by
  unfold ManifestCache.fetchOrLoad
  rw [cachedManifest_congr h]
  split
  · rfl
  · split
    · rfl
    · split <;> rfl

/-- A poll's turn for one channel adds its manifest, if it has one. -/
theorem pollChannel_fst (fleet : FleetResolved) (hash : String)
    (rollouts : Table ChannelId RolloutManifest) (channel : ChannelId) :
    (cache.pollChannel env fleet hash (rollouts, disk) channel).1 =
      match polledManifest cache env fleet hash disk channel with
      | none => rollouts
      | some manifest => rollouts.insert channel manifest := by
  unfold ManifestCache.pollChannel polledManifest
  split
  · rename_i hid
    rw [hid]
  · rename_i hid
    rw [hid]
  · rename_i rid hid
    rw [hid]
    cases hload : cache.fetchOrLoad env disk rid with
    | mk result disk' =>
        cases result with
        | error err => simp [hload, Except.toOption]
        | ok verified =>
            by_cases hhash : verified.inner.fleetResolvedHash = hash
            · simp [hload, hhash, Except.toOption, Option.filter]
            · simp [hload, hhash, Except.toOption, Option.filter]

theorem pollChannel_lookup (fleet : FleetResolved) (hash : String)
    (rollouts : Table ChannelId RolloutManifest) (channel channel' : ChannelId) :
    (cache.pollChannel env fleet hash (rollouts, disk) channel).1.lookup channel' =
      if channel' = channel then
        (polledManifest cache env fleet hash disk channel).or (rollouts.lookup channel)
      else rollouts.lookup channel' := by
  rw [pollChannel_fst]
  cases polledManifest cache env fleet hash disk channel with
  | none =>
      by_cases heq : channel' = channel
      · subst heq
        simp
      · simp [heq]
  | some manifest => simp [Table.lookup_insert_eq]

/-- It leaves the other channels' files as they are. -/
theorem polledManifest_pollChannel {fleet : FleetResolved} {hash : String}
    {rollouts : Table ChannelId RolloutManifest} {channel channel' : ChannelId}
    (hne : channel' ≠ channel) :
    polledManifest cache env fleet hash
        (cache.pollChannel env fleet hash (rollouts, disk) channel).2 channel' =
      polledManifest cache env fleet hash disk channel' := by
  cases hid' : computeRolloutIdForChannel fleet hash channel' with
  | error err => simp [polledManifest, hid']
  | ok rid'? =>
      cases rid'? with
      | none => simp [polledManifest, hid']
      | some rid' =>
          have hfiles : SameFiles rid' disk
              (cache.pollChannel env fleet hash (rollouts, disk) channel).2 := by
            unfold ManifestCache.pollChannel
            split
            · exact ⟨rfl, rfl⟩
            · exact ⟨rfl, rfl⟩
            · rename_i rid hid
              have hload : SameFiles rid' disk (cache.fetchOrLoad env disk rid).2 :=
                fetchOrLoad_sameFiles (rolloutId_ne_of_channel_ne hne hid hid')
              split
              · rename_i hres
                rw [hres] at hload
                exact hload
              · rename_i hres
                rw [hres] at hload
                split
                · exact hload
                · exact hload
          simp only [polledManifest, hid', fetchOrLoad_congr hfiles]

/-- **The manifests of a poll.** -/
theorem pollChannels_lookup {fleet : FleetResolved} {hash : String} {channels : List ChannelId}
    (hnodup : channels.Nodup) (acc : Table ChannelId RolloutManifest × CacheDisk)
    (channel : ChannelId) :
    (channels.foldl (cache.pollChannel env fleet hash) acc).1.lookup channel =
      if channel ∈ channels then
        (polledManifest cache env fleet hash acc.2 channel).or (acc.1.lookup channel)
      else acc.1.lookup channel := by
  induction channels generalizing acc with
  | nil => simp
  | cons c cs ih =>
      obtain ⟨rollouts, disk⟩ := acc
      obtain ⟨hc, hcs⟩ := List.nodup_cons.mp hnodup
      rw [List.foldl_cons, ih hcs, pollChannel_lookup]
      by_cases heq : channel = c
      · subst heq
        simp [hc]
      · rw [polledManifest_pollChannel heq]
        simp [heq]

end Loads

/-! ## Polls -/

section Polls

variable {cache : ManifestCache} {env : LoadEnv} {disk : CacheDisk} {fleet : FleetResolved}
  {hash : String}

/-- What verifies has canonical bytes, so it has a hash. -/
theorem exists_hashFleet {bytes sig : Bytes} {verified : Verified FleetResolved}
    (h : cache.verifyFleetBytes env bytes sig = .ok verified) :
    ∃ hash, ∀ which, cache.hashFleet which bytes = .ok hash := by
  have hcanonical : ∃ canonical, cache.hooks.canonicalize bytes = some canonical := by
    unfold ManifestCache.verifyFleetBytes at h
    split at h
    · cases h
    · unfold verifyArtifact verifySignedSidecar verifySignatureAgainstTrustRoots at h
      split at h
      · cases h
      · split at h
        · cases h
        · split at h
          · cases h
          · rename_i canonical hcanonical
            exact ⟨canonical, hcanonical⟩
  obtain ⟨canonical, hcanonical⟩ := hcanonical
  refine ⟨cache.hooks.sha256Hex canonical, fun which => ?_⟩
  simp [ManifestCache.hashFleet, canonicalHashFromBytes, hcanonical, Except.mapError]

/-- The fleet that a poll goes on with: the cached one if it verifies, else the served one. -/
def loadedFleet (cache : ManifestCache) (env : LoadEnv) (disk : CacheDisk) (fleet : FleetResolved) :
    FleetResolved :=
  match cache.cachedFleet env disk with
  | none => fleet
  | some (_, cached) => cached.inner

theorem fetchOrLoadFleet_spec (h : ServesVerified cache env fleet hash) (disk : CacheDisk) :
    ∃ verified disk', cache.fetchOrLoadFleet env disk =
        (.ok (verified, loadedHash cache env disk hash), disk') ∧
      verified.inner = loadedFleet cache env disk fleet ∧
        ∀ rolloutId, SameFiles rolloutId disk disk' := by
  unfold ManifestCache.fetchOrLoadFleet loadedFleet loadedHash
  cases hcached : cache.cachedFleet env disk with
  | none =>
      obtain ⟨pair, verified, hfetch, hinner⟩ := h.serves
      refine ⟨verified, _, by rw [hfetch], hinner, fun rid => ?_⟩
      unfold ManifestCache.writeFleetCache
      split
      · exact ⟨rfl, rfl⟩
      · split <;> exact ⟨rfl, rfl⟩
  | some found =>
      obtain ⟨bytes, cached⟩ := found
      obtain ⟨pair, -, hmap⟩ := Option.bind_eq_some_iff.mp hcached
      obtain ⟨v, hv, heq⟩ := Option.map_eq_some_iff.mp hmap
      cases heq
      obtain ⟨hash', hhash'⟩ := exists_hashFleet (Except.toOption_eq_some.mp hv)
      refine ⟨cached, disk, ?_, rfl, fun rid => ⟨rfl, rfl⟩⟩
      simp [hhash', Except.map, Except.toOption]

/-- **What a poll emits.** -/
theorem tickOnce_spec (h : ServesVerified cache env fleet hash) (disk : CacheDisk)
    (order : ChannelId → Nat) :
    ∃ set disk', cache.tickOnce env order disk = (.ok set, disk') ∧
      set.fleet = loadedFleet cache env disk fleet ∧
        ∀ channel, set.rollouts.lookup channel =
          polledManifest cache env (loadedFleet cache env disk fleet)
            (loadedHash cache env disk hash) disk channel := by
  obtain ⟨verified, disk', hload, hinner, hfiles⟩ := fetchOrLoadFleet_spec h disk
  unfold ManifestCache.tickOnce
  rw [hload]
  refine ⟨_, _, rfl, hinner, fun channel => ?_⟩
  have hnodup : ((iterBy order verified.inner.channels.rows).map (·.1)).Nodup :=
    ((iterBy_perm order _).map _).nodup_iff.mpr verified.inner.channels.rows_keys_nodup
  have hdisk : polledManifest cache env verified.inner (loadedHash cache env disk hash) disk'
      channel = polledManifest cache env verified.inner (loadedHash cache env disk hash) disk
        channel := by
    unfold polledManifest
    split
    · rename_i rid _
      rw [fetchOrLoad_congr (hfiles rid)]
    · rfl
  dsimp only
  rw [pollChannels_lookup hnodup, hdisk, ← hinner]
  by_cases hmem : channel ∈ (iterBy order verified.inner.channels.rows).map (·.1)
  · rw [if_pos hmem]
    simp
  · -- no manifest is added for a channel that the fleet does not have
    rw [if_neg hmem]
    unfold polledManifest
    split
    · rename_i rid hid
      obtain ⟨-, hsome⟩ := computeRolloutIdForChannel_eq_some hid
      obtain ⟨c, hc⟩ := Option.isSome_iff_exists.mp hsome
      refine absurd (List.mem_map.mpr ⟨(channel, c), ?_, rfl⟩) hmem
      exact mem_iterBy.mpr (Table.mem_rows.mpr hc)
    · simp

theorem fetch_eq_ok {url : String} {answer : Except RouteStatus Bytes} {bytes : Bytes} :
    fetch url answer = .ok bytes ↔ answer = .ok bytes := by
  rcases answer with status | bytes'
  · cases status <;> simp [fetch]
  · simp [fetch]

/-- A manifest that is served is the one of the pair that the control plane has. -/
theorem fetchManifest_eq_ok {rolloutId : RolloutId} {pair : Bytes × Bytes}
    {verified : Verified RolloutManifest}
    (h : cache.fetchManifest env rolloutId = .ok (pair, verified)) :
    loadPair env.store rolloutId.asStr = .ok pair ∧
      cache.verifyBytes env pair.1 pair.2 rolloutId = .ok verified := by
  simp only [ManifestCache.fetchManifest, Except.bind_eq_ok, fetch_eq_ok, Except.map_eq_ok,
    Except.ok.injEq, Prod.mk.injEq] at h
  obtain ⟨_, ⟨pair', hpair, rfl⟩, _, ⟨pair'', hpair', rfl⟩, v, hverify, rfl, rfl⟩ := h
  -- both requests are answered from one pair
  cases hpair.symm.trans hpair'
  exact ⟨hpair, hverify⟩

/-- A served manifest pins the served hash, and its id is one that the agent's path check takes. -/
theorem servedManifest_spec (h : ServesVerified cache env fleet hash) {channel : ChannelId}
    {rolloutId : RolloutId} {manifest : RolloutManifest}
    (hid : computeRolloutIdForChannel fleet hash channel = .ok (some rolloutId))
    (hm : servedManifest cache env fleet hash channel = some manifest) :
    manifest.fleetResolvedHash = hash ∧ validateRolloutIdForPath rolloutId = .ok () := by
  simp only [servedManifest, hid] at hm
  obtain ⟨⟨pair, verified⟩, hfetch, rfl⟩ := Option.map_eq_some_iff.mp hm
  obtain ⟨hpair, hverify⟩ := fetchManifest_eq_ok (Except.toOption_eq_some.mp hfetch)
  obtain ⟨v, hv, hhash⟩ := h.manifests channel rolloutId hid pair hpair
  rw [hverify] at hv
  cases hv
  exact ⟨hhash, validateRolloutIdForPath_of_looksLike (looksLikeRolloutId_of_loadPair hpair)⟩

/-- The manifest that is loaded under an id is the cached one, or else the fetched one. -/
theorem fetchOrLoad_inner {rolloutId : RolloutId}
    (hvalid : validateRolloutIdForPath rolloutId = .ok ()) :
    (cache.fetchOrLoad env disk rolloutId).1.toOption.map (·.inner) =
      ((cache.cachedManifest env disk rolloutId).map (·.inner)).or
        ((cache.fetchManifest env rolloutId).toOption.map (·.2.inner)) := by
  cases hcached : cache.cachedManifest env disk rolloutId with
  | some cached => simp [ManifestCache.fetchOrLoad, hvalid, hcached]
  | none =>
      cases hfetch : cache.fetchManifest env rolloutId with
      | error err => simp [ManifestCache.fetchOrLoad, hvalid, hcached, hfetch]
      | ok found => simp [ManifestCache.fetchOrLoad, hvalid, hcached, hfetch]

/-- **A channel of a poll.** With the served fleet, a channel's manifest is the served one iff the
poll compares with the served hash, where one is served, and what is cached is that one, and does
not name the hash of the poll where none is served. -/
theorem polledManifest_iff (h : ServesVerified cache env fleet hash) (hash' : String)
    (channel : ChannelId) :
    polledManifest cache env fleet hash' disk channel =
        servedManifest cache env fleet hash channel ↔
      (∀ manifest, servedManifest cache env fleet hash channel = some manifest → hash' = hash) ∧
      ∀ rolloutId, computeRolloutIdForChannel fleet hash channel = .ok (some rolloutId) →
        ∀ cached, cache.cachedManifest env disk rolloutId = some cached →
          (∀ manifest, servedManifest cache env fleet hash channel = some manifest →
            cached.inner = manifest) ∧
          (validateRolloutIdForPath rolloutId = .ok () →
            servedManifest cache env fleet hash channel = none →
              cached.inner.fleetResolvedHash ≠ hash') := by
  unfold polledManifest
  rw [computeRolloutIdForChannel_hash hash' hash]
  cases hid : computeRolloutIdForChannel fleet hash channel with
  | error err => simp [servedManifest, hid]
  | ok rid? =>
      cases rid? with
      | none => simp [servedManifest, hid]
      | some rid =>
          have hserved : servedManifest cache env fleet hash channel =
              (cache.fetchManifest env rid).toOption.map (·.2.inner) := by
            simp [servedManifest, hid]
          simp only [Except.ok.injEq, Option.some.injEq, forall_eq']
          cases hvalid : validateRolloutIdForPath rid with
          | error err =>
              -- nothing is served under the id, nor loaded
              have hnone : servedManifest cache env fleet hash channel = none := by
                rw [Option.eq_none_iff_forall_ne_some]
                intro manifest hm
                have hok := (servedManifest_spec h hid hm).2
                rw [hvalid] at hok
                cases hok
              simp [ManifestCache.fetchOrLoad, hvalid, hnone]
          | ok _ =>
              rw [fetchOrLoad_inner hvalid, ← hserved]
              cases hcached : cache.cachedManifest env disk rid with
              | none =>
                  cases hs : servedManifest cache env fleet hash channel with
                  | none => simp
                  | some manifest =>
                      simp [Option.filter, (servedManifest_spec h hid hs).1, eq_comm]
              | some cached =>
                  cases hs : servedManifest cache env fleet hash channel with
                  | none => simp [Option.filter]
                  | some manifest =>
                      have hhash := (servedManifest_spec h hid hs).1
                      rw [Option.map_some, Option.some_or, Option.filter_eq_some_iff]
                      constructor
                      · rintro ⟨hsome, hmatch⟩
                        cases hsome
                        have hsame : cached.inner.fleetResolvedHash = hash' := by simpa using hmatch
                        refine ⟨fun _ _ => hsame.symm.trans hhash, ?_⟩
                        intro c hc
                        cases hc
                        exact ⟨fun m hm => Option.some.inj hm, fun _ hn => by cases hn⟩
                      · rintro ⟨hsame, hrest⟩
                        rw [(hrest cached rfl).1 manifest rfl]
                        simp [hhash, hsame manifest rfl]

/-- **A poll emits what is served iff its cache is current.** -/
theorem emitsServed_iff (cache : ManifestCache) (disk : CacheDisk) (i : LoadInput) :
    EmitsServed cache disk i ↔ PollsCurrent cache disk i := by
  refine forall_congr' fun order => imp_congr_right fun hpoll => ?_
  refine forall_congr' fun fleet => forall_congr' fun hash => imp_congr_right fun hserves => ?_
  obtain ⟨set, disk', htick, hfleet, hlookup⟩ := tickOnce_spec hserves disk order
  have hemitted : (loadStep cache disk i).2 = [set] := by
    simp [loadStep, hpoll, htick]
  constructor
  · rintro ⟨set', hset', hsame, hserved⟩
    have heq : set = set' := by
      rw [hemitted, List.cons.injEq] at hset'
      exact hset'.1
    subst heq
    have hown : loadedFleet cache i.env disk fleet = fleet := hfleet.symm.trans hsame
    have hchannels := fun channel =>
      (polledManifest_iff hserves (loadedHash cache i.env disk hash) channel).mp
        (by rw [← hserved channel, hlookup channel, hown])
    refine ⟨?_, ?_, ?_, ?_⟩
    · intro bytes cached hcached
      rw [← hown, loadedFleet, hcached]
    · by_cases hnone : ∀ channel, servedManifest cache i.env fleet hash channel = none
      · exact .inr hnone
      · left
        simp only [not_forall, ← ne_eq, Option.ne_none_iff_exists'] at hnone
        obtain ⟨channel, manifest, hm⟩ := hnone
        exact (hchannels channel).1 manifest hm
    · intro channel rid hid cached hcached
      exact ((hchannels channel).2 rid hid cached hcached).1
    · intro channel rid hid hvalid cached hcached
      exact ((hchannels channel).2 rid hid cached hcached).2 hvalid
  · intro hcurrent
    have hown : loadedFleet cache i.env disk fleet = fleet := by
      unfold loadedFleet
      split
      · rfl
      · rename_i bytes cached hcached
        exact hcurrent.sameFleet bytes cached hcached
    refine ⟨set, hemitted, hfleet.trans hown, fun channel => ?_⟩
    rw [hlookup channel, hown, polledManifest_iff hserves]
    refine ⟨fun manifest hm => ?_, fun rid hid cached hcached => ⟨?_, ?_⟩⟩
    · rcases hcurrent.sameHash with hsame | hnone
      · exact hsame
      · rw [hnone channel] at hm
        cases hm
    · exact hcurrent.served channel rid hid cached hcached
    · exact fun hvalid => hcurrent.unserved channel rid hid hvalid cached hcached

end Polls

/-- **The polls of a run emit what is served iff they find their caches current**, whatever is
served meanwhile and whatever the cache held before. -/
theorem polls_emitServed_iff (cache : ManifestCache) (disk : CacheDisk) (is : List LoadInput) :
    (loadMachine cache).Meets (EmitsServed cache) disk is ↔
      (loadMachine cache).Meets (PollsCurrent cache) disk is :=
  (loadMachine cache).meets_congr (emitsServed_iff cache) disk is

/-! ## A fleet that is signed again -/

/-- The fleet of one host at one commit, as it is signed with one closure or the other. -/
def commitFleet (closure : ClosureHash) : FleetResolved :=
  stableFleet "c1" [("a", closure)] ⟨"all-at-once", [], .halt⟩ [] [] []

/-- Its manifest. -/
def commitManifest (closure : ClosureHash) (hash : String) : RolloutManifest where
  schemaVersion := 1
  displayName := "stable@c1"
  channel := "stable"
  channelRef := "c1"
  fleetResolvedHash := hash
  hostSet := [⟨"a", 0, closure⟩]
  disruptionBudgets := []
  manifestMeta := ⟨1, some 0, some "c1", some "ed25519"⟩

/-- Two fleets and their manifests, each signed with its own bytes. -/
def resignedCache : ManifestCache where
  hooks := {
    isJson := fun _ => true
    canonicalize := some
    verifyEd25519 := fun canonical sig _ => sig = canonical
    verifyEcdsaP256 := fun _ _ _ => false
    parseResolved := fun bytes => [([1], commitFleet "old"), ([2], commitFleet "new")].lookup bytes
    parseManifest := fun bytes =>
      [([3], commitManifest "old" "h1"), ([4], commitManifest "new" "h2")].lookup bytes
    sha256Hex := fun bytes => if bytes = [1] then "h1" else "h2" }
  freshnessWindow := seconds 3600

/-- A poll, half a minute after the first signing, at which the control plane serves the second
fleet and its manifest. -/
def resignedPoll : LoadInput where
  load := .poll fun _ => 0
  env := {
    now := seconds 30
    trust := some ⟨some ⟨"ed25519", "key"⟩, none, none, none, none⟩
    store := {
      rolloutsDir := some fun name =>
        if name = "stable@c1.json" ∨ name = "stable@c1.json.sig" then .bytes [4] else .notFound
      rolloutsSource := none
      verifiedFleet := some ([2], [2]) }
    writeFails := fun _ => false }

/-- The cache as a poll before the second signing has left it. -/
def resignedDisk : CacheDisk where
  fleet := some [1]
  fleetSig := some [1]
  manifests := (∅ : Table RolloutId Bytes).insert (.new "stable" "c1") [3]
  sigs := (∅ : Table RolloutId Bytes).insert (.new "stable" "c1") [3]

theorem resigned_loadPair {rolloutId : String} {pair : Bytes × Bytes}
    (h : loadPair resignedPoll.env.store rolloutId = .ok pair) : pair = ([4], [4]) := by
  have hdir : ∀ name bytes, (if name = "stable@c1.json" ∨ name = "stable@c1.json.sig" then
      FileRead.bytes [4] else .notFound) = .bytes bytes → bytes = [4] := by
    intro name bytes hread
    split at hread
    · exact (FileRead.bytes.inj hread).symm
    · cases hread
  unfold loadPair at h
  split at h
  · cases h
  · split at h
    · cases h
    · simp only [resignedPoll, Option.map_some, Option.getD_some, tryLoadFromDir] at h
      split at h
      · cases h
      · rename_i found hfound
        cases h
        split at hfound
        · cases hfound
        · cases hfound
        · rename_i manifest hmanifest
          split at hfound
          · rename_i sig hsig
            cases hfound
            rw [hdir _ _ hmanifest, hdir _ _ hsig]
          · cases hfound
          · cases hfound
      · cases h

theorem resigned_servesVerified :
    ServesVerified resignedCache resignedPoll.env (normalizeRolloutPolicies (commitFleet "new"))
      "h2" where
  serves := ⟨([2], [2]), ⟨normalizeRolloutPolicies (commitFleet "new"), 0⟩, rfl, rfl⟩
  manifests := by
    intro channel rid hid pair hpair
    obtain ⟨rfl, hsome⟩ := computeRolloutIdForChannel_eq_some hid
    have hchannel : channel = "stable" := by
      by_contra hne
      have hnone : ((∅ : Table ChannelId Channel).insert "stable" ⟨"policy", 5, 60, 60⟩).lookup
          channel = none := by rw [Table.lookup_insert_eq, if_neg hne]; rfl
      have hlook : (normalizeRolloutPolicies (commitFleet "new")).channels.lookup channel = none :=
        hnone
      rw [hlook] at hsome
      cases hsome
    subst hchannel
    obtain rfl := resigned_loadPair hpair
    exact ⟨⟨commitManifest "new" "h2", 0⟩, rfl, rfl⟩

/-- The poll still emits the first fleet. -/
theorem resignedPoll_not_served :
    ¬ (loadMachine resignedCache).Meets (EmitsServed resignedCache) resignedDisk
      [resignedPoll] := by
  rintro ⟨h, -⟩
  have hcurrent := (emitsServed_iff _ _ _).mp h _ rfl _ _ resigned_servesVerified
  have hcached : resignedCache.cachedFleet resignedPoll.env resignedDisk =
      some ([1], ⟨normalizeRolloutPolicies (commitFleet "old"), 0⟩) := rfl
  have hsame := congrArg (fun fleet : FleetResolved => (fleet.hosts.lookup "a").map (·.closureHash))
    (hcurrent.sameFleet _ _ hcached)
  exact absurd hsame (by decide)

end Nixfleet
