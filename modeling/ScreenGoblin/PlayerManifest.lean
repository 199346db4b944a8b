-- The manifest checks of the player (apps/player/src/core/manifest.ts): what the
-- player accepts, when a manifest has ended, and what a verified envelope is.
-- The player reads untyped JSON, so a manifest is a JSON value here too.
import ScreenGoblin.Json
import Mathlib.Data.List.Basic

open js

namespace screengoblin.player

/-! ## The platform under the player -/

/-- What the browser gives the player. `none` is a call that throws, and for `dateParse`
the result `NaN`. -/
structure Platform where
  /-- `JSON.parse`, with the fields in the order in which JavaScript lists them. -/
  parseJson : String → Option Json
  /-- `Date.parse`, in milliseconds. -/
  dateParse : String → Option Int
  /-- `String(value)` for a value that is not a string. -/
  coerceText : Json → Option String
  /-- `new URL(text)`. -/
  parseUrl : String → Option Url
  /-- `verifyManifestPayloadSignature(payloadJson, signature, publicKey)`. -/
  verifySignature : String → String → String → Bool
  /-- `cacheKey(asset).url`. -/
  cacheKey : Json → Option String

namespace Platform

variable (P : Platform)

def text : Value → Option String
  | some (.str s) => some s
  | some j => P.coerceText j
  | none => some "undefined"

/-- `Date.parse(value)`. -/
def date (v : Value) : Option Int := (P.text v).bind P.dateParse

end Platform

/-! ## The checks of one manifest -/

def MAX_ITEMS : Nat := 500
def MAX_CONCURRENT_PREFETCHES : Nat := 2
def MAX_ASSET_BYTES : Rat := 128 * 1024 * 1024
def MAX_RELEASE_BYTES : Rat := 512 * 1024 * 1024

def emergencyTemplateMime : String := "application/vnd.screengoblin.emergency+json"

/-- `MEDIA_CAPABILITY`: 1 to 4052 base64url characters, a dot and 43 more of them. -/
def isMediaCapability (text : String) : Bool :=
  let payload := text.toList.takeWhile isBase64Url
  match text.toList.dropWhile isBase64Url with
  | '.' :: signature =>
    decide (1 ≤ payload.length) && decide (payload.length ≤ 4052) &&
      signature.all isBase64Url && signature.length == 43
  | _ => false

def isEmergencyTemplate (item priority : Value) : Bool :=
  priority == some (.str "emergency") && item.get "kind" == some (.str "template") &&
    item.get "mimeType" == some (.str emergencyTemplateMime)

def isAllowedKindAndMime (item priority : Value) : Bool :=
  let kind := item.get "kind"
  let mimeType := item.get "mimeType"
  isEmergencyTemplate item priority ||
    (kind == some (.str "image") &&
      (mimeType == some (.str "image/jpeg") || mimeType == some (.str "image/png"))) ||
    (kind == some (.str "video") && mimeType == some (.str "video/mp4")) ||
    (kind == some (.str "template") && mimeType == some (.str "application/json"))

def isAllowedAssetUrl (P : Platform) (url : String)
    (emergencyTemplate allowLegacyQuery : Bool) : Bool :=
  match P.parseUrl url with
  | none => false
  | some parsed =>
    if parsed.username != "" || parsed.password != "" ||
        (!allowLegacyQuery && parsed.search != "") || parsed.hash != "" then false
    else if parsed.protocol == "https:" then true
    else if parsed.protocol == "http:" &&
        ["localhost", "127.0.0.1", "::1"].contains parsed.hostname then true
    else emergencyTemplate && parsed.protocol == "data:"

/-- `throw new ManifestError(message)` when the test fails. -/
def require (test : Bool) (message : String) : Except String Unit :=
  if test then .ok () else .error message

/-- `Date.parse(a) <= Date.parse(b)`, which is false as soon as one of them is `NaN`. -/
def dateLe : Option Int → Option Int → Bool
  | some a, some b => decide (a ≤ b)
  | _, _ => false

def messageText (P : Platform) (v : Value) : String := (P.text v).getD ""

/-- The delivery fields of an item: a capability for each media item, and none for the inline
template of an emergency. An envelope from before the cutover has neither. -/
def isAllowedDelivery (item : Value) (currentProtocol emergencyTemplate : Bool) : Bool :=
  let mediaDelivery := item.get "mediaDelivery"
  let mediaCapability := item.get "mediaCapability"
  !currentProtocol ||
    if emergencyTemplate then mediaDelivery == none && mediaCapability == none
    else mediaDelivery == some (.str "authorization-v1") &&
      match mediaCapability with
      | some (.str s) => isMediaCapability s
      | _ => false

/-- One turn of the item loop of `assertManifest`, after the check of the identifier. -/
def isAllowedItem (P : Platform) (item priority : Value)
    (currentProtocol legacyStoredProtocol : Bool) : Bool :=
  let emergencyTemplate := isEmergencyTemplate item priority
  let durationSeconds := item.get "durationSeconds"
  let sizeBytes := item.get "sizeBytes"
  (match item.get "url" with
    | some (.str url) => isAllowedAssetUrl P url emergencyTemplate legacyStoredProtocol
    | _ => false) &&
  isAllowedDelivery item currentProtocol emergencyTemplate &&
  isAllowedKindAndMime item priority &&
  durationSeconds.isInteger && decide (1 ≤ durationSeconds.number) &&
  decide (durationSeconds.number ≤ 86400) &&
  sizeBytes.isSafeInteger && decide (1 ≤ sizeBytes.number) &&
  decide (sizeBytes.number ≤ MAX_ASSET_BYTES)

/-- `expiresAt` is left out, or it is a date after the manifest was generated. -/
def isAllowedExpiry (P : Platform) (item generatedAt : Value) : Bool :=
  match item.get "expiresAt" with
  | none => true
  | some (.str s) => (P.dateParse s).isSome && !dateLe (P.dateParse s) (P.date generatedAt)
  | _ => false

/-- The item loop. `ids` are the identifiers so far and `releaseBytes` their sizes. -/
def assertItems (P : Platform) (manifest : Value) (currentProtocol legacyStoredProtocol : Bool) :
    List Json → List Value → Rat → Except String Unit
  | [], _, _ => .ok ()
  | item :: rest, ids, releaseBytes => do
    let it : Value := some item
    let id := it.get "id"
    let bytes := releaseBytes + (it.get "sizeBytes").number
    let name := messageText P id
    let nameOrUnknown := if id.truthy then name else "unknown"
    require it.isObject "Manifest item is invalid"
    require (id.truthy && !ids.any (Value.strictEq id)) "Asset identifiers must be unique"
    require (isAllowedItem P it (manifest.get "priority") currentProtocol legacyStoredProtocol)
      s!"Asset {nameOrUnknown} is invalid"
    require (decide (bytes ≤ MAX_RELEASE_BYTES)) "Manifest release exceeds the size limit"
    require (((P.text (it.get "checksumSha256")).map isSha256Hex).getD false)
      s!"Asset {name} has no valid SHA-256 checksum"
    require (isAllowedExpiry P it (manifest.get "generatedAt"))
      s!"Asset {name} expiry is invalid"
    assertItems P manifest currentProtocol legacyStoredProtocol rest (id :: ids) bytes

def isCurrentProtocol (manifest : Value) : Bool :=
  manifest.get "protocolVersion" == some (.num 2) &&
    manifest.get "mediaDelivery" == some (.str "authorization-v1")

def isLegacyStoredProtocol (manifest : Value) : Bool :=
  manifest.get "protocolVersion" == none && manifest.get "mediaDelivery" == none

def isPriority (priority : Value) : Bool :=
  [some (.str "normal"), some (.str "campaign"), some (.str "priority"),
    some (.str "emergency")].contains priority

def assertManifest (P : Platform) (now : Int) (manifest : Value)
    (requireCurrentProtocol : Bool) : Except String Unit := do
  let currentProtocol := isCurrentProtocol manifest
  let legacyStoredProtocol := isLegacyStoredProtocol manifest
  let items := manifest.get "items"
  let generatedAt := P.date (manifest.get "generatedAt")
  let validUntil := P.date (manifest.get "validUntil")
  let withdrawn := manifest.get "withdrawn"
  require manifest.isObject "Manifest is not an object"
  require (currentProtocol || (!requireCurrentProtocol && legacyStoredProtocol))
    "Manifest media protocol is unsupported"
  require ((manifest.get "version").truthy && (manifest.get "screenId").truthy && items.isArray)
    "Manifest metadata is incomplete"
  require ((manifest.get "generatedAt").truthy && (manifest.get "validUntil").truthy &&
    generatedAt.isSome && validUntil.isSome) "Manifest validity window is invalid"
  require (!dateLe validUntil generatedAt) "Manifest validity window is empty"
  require (dateLe generatedAt (some (now + 5 * 60000)))
    "Manifest generation time is too far in the future"
  require (manifest.get "playbackEndsAt" == none || ((manifest.get "playbackEndsAt").isString &&
    (P.date (manifest.get "playbackEndsAt")).isSome)) "Manifest playback boundary is invalid"
  require (isPriority (manifest.get "priority")) "Manifest priority is invalid"
  require (withdrawn == some (.bool true) || withdrawn == some (.bool false))
    "Manifest withdrawal state is missing"
  require (!withdrawn.truthy ||
    (manifest.get "priority" == some (.str "normal") && items.elements.isEmpty))
    "Withdrawn manifests must be empty normal releases"
  require (withdrawn.truthy || !items.elements.isEmpty) "Manifest contains no playable items"
  require (decide (items.elements.length ≤ MAX_ITEMS)) "Manifest contains too many items"
  assertItems P manifest currentProtocol legacyStoredProtocol items.elements [] 0

/-! ## From the signed payload to the manifest -/

/-- `{ ...playlistItem.asset, durationSeconds: playlistItem.durationSeconds }` -/
def normalizeItem (item : Json) : Except String Json := do
  let asset := Value.get (some item) "asset"
  require (Value.isObject (some item)) "Signed manifest item is invalid"
  require asset.isObject "Signed manifest asset is invalid"
  .ok (.obj (setField "durationSeconds" (Value.get (some item) "durationSeconds") asset.fields))

/-- The manifest that `normalizeSignedPayload` copies out of the payload. -/
def copiedManifest (wire : Value) (items : List Json) : Json := object [
  ("protocolVersion", wire.get "protocolVersion"),
  ("mediaDelivery", wire.get "mediaDelivery"),
  ("version", wire.get "version"),
  ("generatedAt", wire.get "generatedAt"),
  ("validUntil", wire.get "validUntil"),
  ("playbackEndsAt", wire.get "playbackEndsAt"),
  ("screenId", wire.get "screenId"),
  ("requestChallengeId", wire.get "requestChallengeId"),
  ("priority", wire.get "priority"),
  -- `wire.withdrawn ?? false`
  ("withdrawn", if wire.get "withdrawn" == some .null then some (.bool false)
    else (wire.get "withdrawn").or (some (.bool false))),
  ("items", some (.arr items))]

def normalizeSignedPayload (P : Platform) (now : Int) (wire : Value)
    (requireCurrentProtocol : Bool) : Except String Json := do
  require wire.isObject "Signed manifest payload is invalid"
  require (wire.get "items").isArray "Signed manifest items are invalid"
  let items ← (wire.get "items").elements.mapM normalizeItem
  assertManifest P now (some (copiedManifest wire items)) requireCurrentProtocol
  .ok (copiedManifest wire items)

structure ManifestTrust where
  screenId : String
  manifestVerificationKey : String
  deriving DecidableEq

/-- The playback view that an envelope stores next to its payload. -/
def view (envelope : Value) : Value := envelope.get "manifest"

/-- `verifySignedPlayerManifest`, with the clock at `now` when it reads the payload. The two
JSON texts that the source compares are equal just when the two values are, with their
fields in the same order. -/
def verifySignedPlayerManifest (P : Platform) (now : Int) (stored : Value)
    (trust : ManifestTrust) : Option Json :=
  if !stored.isObject then none
  else match stored.get "payloadJson", stored.get "signature" with
  | some (.str payloadJson), some (.str signature) =>
    if stored.get "formatVersion" != some (.num 1) ||
        stored.get "signatureAlgorithm" != some (.str "Ed25519") ||
        !(view stored).truthy then none
    else if !P.verifySignature payloadJson signature trust.manifestVerificationKey then none
    else match P.parseJson payloadJson with
    | none => none
    | some payload =>
      match normalizeSignedPayload P now (some payload) false with
      | .error _ => none
      | .ok manifest =>
        if Value.get (some manifest) "screenId" != some (.str trust.screenId) ||
            some manifest != view stored then none
        else some manifest
  | _, _ => none

/-! ## The time limits of a manifest -/

/-- The smallest boundary of a list, and none of the empty list. -/
def minimum : List Int → Option Int
  | [] => none
  | x :: xs => some (xs.foldl min x)

def manifestItems (manifest : Value) : List Json := (manifest.get "items").elements

/-- The earliest of `playbackEndsAt` and the expiries of the items. -/
def manifestPlaybackEndsAt (P : Platform) (manifest : Value) : Option Int :=
  let expiries := (manifestItems manifest).map fun item => Value.get (some item) "expiresAt"
  let boundaries := (manifest.get "playbackEndsAt" :: expiries).filter (· != none)
  minimum (boundaries.filterMap P.date)

def isWithdrawn (manifest : Value) : Bool := (manifest.get "withdrawn").truthy

def isEmergency (manifest : Value) : Bool := manifest.get "priority" == some (.str "emergency")

/-- The playback boundary is not in the future. -/
def playbackEnded (P : Platform) (now : Int) (manifest : Value) : Bool :=
  dateLe (manifestPlaybackEndsAt P manifest) (some now)

/-- `Date.parse(manifest.validUntil) <= Date.now()` -/
def leaseEnded (P : Platform) (now : Int) (manifest : Value) : Bool :=
  dateLe (P.date (manifest.get "validUntil")) (some now)

def isStoredManifestPlayable (P : Platform) (now : Int) (manifest : Value) : Bool :=
  manifest.truthy && !isWithdrawn manifest &&
    (assertManifest P now manifest false).toBool &&
    !(isEmergency manifest && leaseEnded P now manifest) && !playbackEnded P now manifest

def rollbackDeadline (P : Platform) (active previous : Value) : Option Int :=
  minimum ((manifestPlaybackEndsAt P active).toList ++ (manifestPlaybackEndsAt P previous).toList
    ++ if isEmergency previous then (P.date (previous.get "validUntil")).toList else [])

/-- A manifest that must not play any more: its playback boundary has passed, or it is an
emergency whose lease has. -/
def hasEnded (P : Platform) (now : Int) (manifest : Value) : Bool :=
  playbackEnded P now manifest || (isEmergency manifest && leaseEnded P now manifest)

/-! ## What the checks give -/

/-- A chain of checks passes when each check does. -/
theorem require_bind {β : Type} {test : Bool} {message : String} {f : Unit → Except String β}
    {b : β} : require test message >>= f = .ok b ↔ test = true ∧ f () = .ok b := by
  cases test <;> simp [require, bind, Except.bind]

theorem bind_ok {α β : Type} {x : Except String α} {f : α → Except String β} {b : β} :
    x >>= f = .ok b ↔ ∃ a, x = .ok a ∧ f a = .ok b := by
  cases x <;> simp [bind, Except.bind]

/-- The parts of a manifest that the laws of the player read. -/
structure Sane (P : Platform) (manifest : Value) : Prop where
  isObject : manifest.isObject = true
  generatedAt : ∃ t, P.date (manifest.get "generatedAt") = some t
  validUntil : ∃ t, P.date (manifest.get "validUntil") = some t
  kinds : ∀ item ∈ manifestItems manifest, Value.get (some item) "kind" ≠ some (.str "web")

theorem kind_allowed {item priority : Value} (h : isAllowedKindAndMime item priority = true) :
    item.get "kind" ≠ some (.str "web") := by
  intro hk
  simp [isAllowedKindAndMime, isEmergencyTemplate, hk] at h

theorem items_allowed {P : Platform} {manifest : Value} {current legacy : Bool}
    {items : List Json} {ids : List Value} {bytes : Rat}
    (h : assertItems P manifest current legacy items ids bytes = .ok ()) :
    ∀ item ∈ items, isAllowedItem P (some item) (manifest.get "priority") current legacy := by
  induction items generalizing ids bytes with
  | nil => simp
  | cons item rest ih =>
    simp only [assertItems, require_bind] at h
    obtain ⟨_, _, hitem, _, _, _, hrest⟩ := h
    intro x hx
    rcases List.mem_cons.mp hx with rfl | hx
    · exact hitem
    · exact ih hrest x hx

theorem manifest_sane {P : Platform} {now : Int} {manifest : Value} {current : Bool}
    (h : assertManifest P now manifest current = .ok ()) : Sane P manifest := by
  simp only [assertManifest, require_bind, Bool.and_eq_true, Option.isSome_iff_exists] at h
  obtain ⟨hobj, _, _, hdates, _, _, _, _, _, _, _, _, hitems⟩ := h
  refine ⟨hobj, hdates.1.2, hdates.2, fun item hi => ?_⟩
  have hallowed := items_allowed hitems item hi
  simp only [isAllowedItem, Bool.and_eq_true] at hallowed
  exact kind_allowed (by tauto)

/-- What a verified envelope is: the signature holds over exactly the stored payload text,
and the stored view is what the payload reads as. -/
structure Verified (P : Platform) (now : Int) (stored : Value) (trust : ManifestTrust)
    (manifest : Json) : Prop where
  view : view stored = some manifest
  signed : ∃ payloadJson signature payload,
    stored.get "payloadJson" = some (.str payloadJson) ∧
    stored.get "signature" = some (.str signature) ∧
    P.verifySignature payloadJson signature trust.manifestVerificationKey = true ∧
    P.parseJson payloadJson = some payload ∧
    normalizeSignedPayload P now (some payload) false = .ok manifest
  screen : Value.get (some manifest) "screenId" = some (.str trust.screenId)

section verified

variable {P : Platform} {now : Int} {stored : Value} {trust : ManifestTrust} {manifest : Json}

theorem verify_sound (h : verifySignedPlayerManifest P now stored trust = some manifest) :
    Verified P now stored trust manifest := by
  unfold verifySignedPlayerManifest at h
  split at h
  · cases h
  split at h
  · rename_i payloadJson signature hp hs
    split at h
    · cases h
    split at h
    · cases h
    rename_i hsig
    split at h
    · cases h
    rename_i payload hj
    split at h
    · cases h
    rename_i m hn
    split at h
    · cases h
    rename_i hv
    obtain rfl : m = manifest := by simpa using h
    simp only [Bool.not_eq_true', Bool.not_eq_false] at hsig
    simp only [Bool.or_eq_true, bne_iff_ne, ne_eq, not_or, not_not] at hv
    exact ⟨hv.2.symm, ⟨_, _, _, hp, hs, hsig, hj, hn⟩, hv.1⟩
  · cases h

theorem normalized_sane {wire : Value} {current : Bool}
    (h : normalizeSignedPayload P now wire current = .ok manifest) : Sane P (some manifest) := by
  simp only [normalizeSignedPayload, require_bind] at h
  obtain ⟨items, _, h⟩ := bind_ok.mp h.2.2
  obtain ⟨_, hm, heq⟩ := bind_ok.mp h
  rw [← Except.ok.inj heq]
  exact manifest_sane hm

theorem Verified.sane (h : Verified P now stored trust manifest) : Sane P (some manifest) := by
  obtain ⟨_, _, _, _, _, _, _, hn⟩ := h.signed
  exact normalized_sane hn

theorem verify_truthy (h : verifySignedPlayerManifest P now stored trust = some manifest) :
    stored.truthy = true := by
  obtain ⟨_, _, _, hp, _⟩ := (verify_sound h).signed
  match stored, hp with
  | some (.obj fields), _ => rfl

end verified

/-! ## The time limits -/

theorem foldl_min_le (xs : List Int) (b : Int) :
    xs.foldl min b ≤ b ∧ ∀ x ∈ xs, xs.foldl min b ≤ x := by
  induction xs generalizing b with
  | nil => simp
  | cons y ys ih =>
    obtain ⟨h1, h2⟩ := ih (min b y)
    refine ⟨by simp only [List.foldl_cons]; omega, fun x hx => ?_⟩
    rcases List.mem_cons.mp hx with rfl | hx
    · simp only [List.foldl_cons]; omega
    · exact h2 x hx

theorem foldl_min_mem (xs : List Int) (b : Int) : xs.foldl min b = b ∨ xs.foldl min b ∈ xs := by
  induction xs generalizing b with
  | nil => simp
  | cons y ys ih =>
    rcases ih (min b y) with h | h
    · rcases Int.le_total b y with hb | hb
      · exact Or.inl (by rw [List.foldl_cons, h, Int.min_eq_left hb])
      · exact Or.inr (by rw [List.foldl_cons, h, Int.min_eq_right hb]; exact List.mem_cons_self)
    · exact Or.inr (List.mem_cons_of_mem _ h)

theorem minimum_mem {l : List Int} {b : Int} (h : minimum l = some b) : b ∈ l := by
  cases l with
  | nil => cases h
  | cons x xs =>
    obtain rfl : xs.foldl min x = b := by simpa [minimum] using h
    rcases foldl_min_mem xs x with h1 | h1
    · rw [h1]; exact List.mem_cons_self
    · exact List.mem_cons_of_mem _ h1

theorem minimum_le {l : List Int} {b x : Int} (h : minimum l = some b) (hx : x ∈ l) : b ≤ x := by
  cases l with
  | nil => cases h
  | cons y ys =>
    obtain rfl : ys.foldl min y = b := by simpa [minimum] using h
    rcases List.mem_cons.mp hx with rfl | hx
    · exact (foldl_min_le ys x).1
    · exact (foldl_min_le ys y).2 x hx

theorem dateLe_mono {d : Option Int} {now later : Int} (hle : now ≤ later)
    (h : dateLe d (some now) = true) : dateLe d (some later) = true := by
  cases d with
  | none => exact h
  | some t =>
    simp only [dateLe, decide_eq_true_eq] at h ⊢
    omega

variable {P : Platform} {now later : Int} {manifest : Value}

/-- A manifest that has ended does not come back. -/
theorem hasEnded_mono (hle : now ≤ later) (h : hasEnded P now manifest = true) :
    hasEnded P later manifest = true := by
  simp only [hasEnded, playbackEnded, leaseEnded, Bool.or_eq_true, Bool.and_eq_true] at h ⊢
  rcases h with h | ⟨he, h⟩
  · exact Or.inl (dateLe_mono hle h)
  · exact Or.inr ⟨he, dateLe_mono hle h⟩

/-- The deadline of a rollback is the end of the active or of the previous manifest. -/
theorem rollbackDeadline_ended {active previous : Value} {d : Int}
    (h : rollbackDeadline P active previous = some d) (hd : d ≤ now) :
    hasEnded P now active = true ∨ hasEnded P now previous = true := by
  have hmem := minimum_mem h
  simp only [List.mem_append, Option.mem_toList] at hmem
  rcases hmem with (hmem | hmem) | hmem
  · exact Or.inl (by simp [hasEnded, playbackEnded, hmem, dateLe, hd])
  · exact Or.inr (by simp [hasEnded, playbackEnded, hmem, dateLe, hd])
  · split at hmem
    · rename_i he
      rw [Option.mem_toList] at hmem
      exact Or.inr (by simp [hasEnded, leaseEnded, he, hmem, dateLe, hd])
    · simp at hmem

theorem playable_not_ended (h : isStoredManifestPlayable P now manifest = true) :
    isWithdrawn manifest = false ∧ hasEnded P now manifest = false := by
  simp only [isStoredManifestPlayable, Bool.and_eq_true, Bool.not_eq_true',
    Bool.and_eq_false_iff] at h
  refine ⟨h.1.1.1.2, ?_⟩
  simp only [hasEnded, h.2, Bool.false_or, Bool.and_eq_false_iff]
  exact h.1.2

end screengoblin.player
