import Nixfleet.Proto.RolloutId

set_option autoImplicit false

/-!
# The artifacts that the control plane serves

The control plane hands out what CI has signed: the fleet that it holds itself, and the manifest of
a rollout from a directory or from an upstream source. An id is looked up only if it looks like one,
and then it is safe in a path (`mem_of_looksLikeRolloutId`).
-/

namespace Nixfleet

/-- `is_ascii_lowercase`, `is_ascii_digit`, `_` or `-`. -/
def isChannelChar (c : Char) : Bool :=
  c.isLower || c.isDigit || c = '_' || c = '-'

/-- `is_ascii_hexdigit` and not `is_ascii_uppercase`. -/
def isRefChar (c : Char) : Bool :=
  c.isDigit || ('a' ≤ c && c ≤ 'f')

/-- `looks_like_rollout_id`. -/
def looksLikeRolloutId (s : String) : Bool :=
  match splitOnceAt s with
  | none => false
  | some (channel, channelRef) =>
      if channel.isEmpty || channelRef.isEmpty then false
      else if channelRef.toList.contains '@' then false
      else if !channel.toList.all isChannelChar then false
      else channelRef.toList.all isRefChar

/-- The `StatusCode`s that the artifact handlers answer with in place of a body. -/
inductive RouteStatus where
  | notFound
  | internalServerError
  | badGateway
  | serviceUnavailable
deriving DecidableEq, Repr

/-- What `fs::read` comes back with. -/
inductive FileRead where
  | bytes (content : Bytes)
  | notFound
  | failed
deriving DecidableEq, Repr

/-- What the handlers read: the rollouts directory by file name, the upstream source by rollout id
(`none` where the fetch fails), and the verified fleet with its signature. -/
structure ArtifactStore where
  rolloutsDir : Option (String → FileRead)
  rolloutsSource : Option (String → Option (Bytes × Bytes))
  verifiedFleet : Option (Bytes × Bytes)

/-- `try_load_from_dir`. -/
def tryLoadFromDir (dir : String → FileRead) (rolloutId : String) :
    Except RouteStatus (Option (Bytes × Bytes)) :=
  match dir (rolloutId ++ ".json") with
  | .notFound => .ok none
  | .failed => .error .internalServerError
  | .bytes manifest =>
      match dir (rolloutId ++ ".json.sig") with
      | .bytes sig => .ok (some (manifest, sig))
      | .notFound | .failed => .error .internalServerError

/-- `load_pair`. -/
def loadPair (store : ArtifactStore) (rolloutId : String) : Except RouteStatus (Bytes × Bytes) :=
  if store.rolloutsDir.isNone && store.rolloutsSource.isNone then .error .serviceUnavailable
  else if !looksLikeRolloutId rolloutId then .error .notFound
  else
    match (store.rolloutsDir.map (tryLoadFromDir · rolloutId)).getD (.ok none) with
    | .error status => .error status
    | .ok (some pair) => .ok pair
    | .ok none =>
        match store.rolloutsSource with
        | none => .error .notFound
        | some source =>
            match source rolloutId with
            | some pair => .ok pair
            | none => .error .badGateway

/-- `GET /v1/fleet.resolved` and `/sig`. -/
def loadFleet (store : ArtifactStore) : Except RouteStatus (Bytes × Bytes) :=
  match store.verifiedFleet with
  | none => .error .serviceUnavailable
  | some pair => .ok pair

theorem looksLikeRolloutId_of_loadPair {store : ArtifactStore} {rolloutId : String}
    {pair : Bytes × Bytes} (h : loadPair store rolloutId = .ok pair) :
    looksLikeRolloutId rolloutId = true := by
  unfold loadPair at h
  split at h
  · cases h
  · split at h
    · cases h
    · rename_i hlooks
      simpa using hlooks

/-! ## Ids that look like one -/

/-- **What looks like a rollout id.** -/
theorem looksLikeRolloutId_iff {s : String} :
    looksLikeRolloutId s = true ↔
      ∃ channel ref, s = (RolloutId.new channel ref).asStr ∧
        (channel ≠ "" ∧ ∀ c ∈ channel.toList, isChannelChar c = true) ∧
        ref ≠ "" ∧ ∀ c ∈ ref.toList, isRefChar c = true := by
  constructor
  · intro h
    unfold looksLikeRolloutId at h
    split at h
    · cases h
    · rename_i channel ref hsplit
      have hid : s = (RolloutId.new channel ref).asStr := by
        apply String.toList_injective
        rw [toList_rolloutId_new]
        exact (splitOnceAt_eq_some.mp hsplit).2
      have hparts : channel ≠ "" ∧ ref ≠ "" ∧ '@' ∉ ref.toList ∧
          (∀ c ∈ channel.toList, isChannelChar c = true) ∧
            ∀ c ∈ ref.toList, isRefChar c = true := by simpa [and_assoc] using h
      obtain ⟨hchannel, href, -, hchars, hrefs⟩ := hparts
      exact ⟨channel, ref, hid, ⟨hchannel, hchars⟩, href, hrefs⟩
  · rintro ⟨channel, ref, rfl, ⟨hchannel, hchars⟩, href, hrefs⟩
    have hat : '@' ∉ channel.toList := fun hmem => absurd (hchars _ hmem) (by decide)
    have hatRef : '@' ∉ ref.toList := fun hmem => absurd (hrefs _ hmem) (by decide)
    unfold looksLikeRolloutId
    rw [splitOnceAt_eq_some.mpr ⟨hat, toList_rolloutId_new channel ref⟩]
    simpa [hchannel, href, hatRef] using ⟨hchars, hrefs⟩

/-- Every character of an id that looks like one may stand in a path. -/
theorem mem_of_looksLikeRolloutId {s : String} (h : looksLikeRolloutId s = true) {c : Char}
    (hc : c ∈ s.toList) : c ≠ '/' ∧ c ≠ '.' := by
  obtain ⟨channel, ref, rfl, ⟨-, hchars⟩, -, hrefs⟩ := looksLikeRolloutId_iff.mp h
  rw [toList_rolloutId_new, List.mem_append, List.mem_cons] at hc
  have hne : ∀ d, isChannelChar d = false → isRefChar d = false → d ≠ '@' → c ≠ d := by
    rintro d h1 h2 h3 rfl
    rcases hc with hc | rfl | hc
    · rw [hchars c hc] at h1
      cases h1
    · exact h3 rfl
    · rw [hrefs c hc] at h2
      cases h2
  exact ⟨hne '/' (by decide) (by decide) (by decide), hne '.' (by decide) (by decide) (by decide)⟩

end Nixfleet
