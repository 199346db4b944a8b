-- What the server asks of media before it publishes them (apps/api/src/utils/media-policy.ts,
-- utils/media-url.ts and media/delivery.ts).
import ScreenGoblin.ServerRecords

open js screengoblin.schedule

namespace screengoblin.server

/-! ## The platform under the server -/

/-- What the server takes from its runtime. -/
structure Platform where
  /-- `crypto.randomUUID()` and `randomToken()`: the identifier of each draw. -/
  freshId : Nat → String
  freshId_injective : Function.Injective freshId
  /-- The SHA-256 of `JSON.stringify(value)`, in hex. -/
  sha256 : Json → String
  /-- `new Date(t).toISOString()`. -/
  toISOString : Int → String
  /-- `Date.parse`. `none` is `NaN`. -/
  dateParse : String → Option Int
  dateParse_toISOString : ∀ t, dateParse (toISOString t) = some t
  /-- `left.localeCompare(right)`. -/
  localeCompare : String → String → Ordering
  /-- `new URL(text)`. `none` is a call that throws. -/
  parseUrl : String → Option Url
  /-- The time zones of `Intl.DateTimeFormat`. -/
  zones : ZoneDatabase

/-! ## Identifiers -/

/-- The store has drawn this identifier. -/
def Drawn (P : Platform) (s : MemoryStore) (identifier : String) : Prop :=
  ∃ k, k < s.idsDrawn ∧ P.freshId k = identifier

theorem Drawn.mono {P : Platform} {s s' : MemoryStore} {identifier : String}
    (drawn : Drawn P s identifier) (more : s.idsDrawn ≤ s'.idsDrawn) : Drawn P s' identifier := by
  obtain ⟨k, before, same⟩ := drawn
  exact ⟨k, by omega, same⟩

theorem not_drawn (P : Platform) (s : MemoryStore) (k : Nat) :
    ¬ Drawn P s (P.freshId (s.idsDrawn + k)) := by
  intro drawn
  obtain ⟨j, before, same⟩ := drawn
  have := P.freshId_injective same
  omega

theorem Drawn.ne {P : Platform} {s : MemoryStore} {identifier : String}
    (drawn : Drawn P s identifier) (k : Nat) : identifier ≠ P.freshId (s.idsDrawn + k) := by
  intro same
  rw [same] at drawn
  exact not_drawn P s k drawn

/-! ## Media -/

inductive ReleaseCandidateFailureReason where
  | notFound
  | forbidden
  | invalidState
  | staleDigest
  | authorCannotApprove
  | approvalStale
  | expired
  | idempotencyKeyReused
  | idempotencyKeyExpired
  | playlistNotFound
  | screenNotFound
  | assetNotFound
  | assetNotAllowed
  | assetUnsupported
  | assetExpired
  | releaseTooLarge
  | noPlayableItems
  deriving DecidableEq

def MEDIA_MAX_ASSET_BYTES : Rat := 128 * 1024 * 1024
def MEDIA_MAX_RELEASE_BYTES : Rat := 512 * 1024 * 1024

def isSupportedMedia (kind : MediaKind) (mimeType : String) : Bool :=
  match kind with
  | .image => mimeType == "image/jpeg" || mimeType == "image/png"
  | .video => mimeType == "video/mp4"
  | .template => mimeType == "application/json"
  | .web => false

/-- The fields of an asset that the policy reads. -/
structure PolicyMediaAsset where
  kind : MediaKind
  mimeType : String
  checksumSha256 : String
  sizeBytes : Rat
  expiresAt : Option String

def MediaRecord.policy (asset : MediaRecord) : PolicyMediaAsset :=
  { kind := asset.kind, mimeType := asset.mimeType, checksumSha256 := asset.checksumSha256,
    sizeBytes := asset.sizeBytes, expiresAt := asset.expiresAt }

def FrozenReleaseAsset.policy (asset : FrozenReleaseAsset) : PolicyMediaAsset :=
  { kind := asset.kind, mimeType := asset.mimeType, checksumSha256 := asset.checksumSha256,
    sizeBytes := asset.sizeBytes, expiresAt := asset.expiresAt }

/-- `value ? ... : ...` on an optional text: an empty text counts as none. -/
def truthyText (value : Option String) : Option String := value.filter fun text => text != ""

@[simp]
theorem truthyText_idem (value : Option String) :
    truthyText (truthyText value) = truthyText value := by
  unfold truthyText
  rw [Option.filter_filter]
  simp

def PolicyMediaAsset.supported (asset : PolicyMediaAsset) : Bool :=
  isSupportedMedia asset.kind asset.mimeType &&
    Value.isSafeInteger (some (.num asset.sizeBytes)) && decide (1 ≤ asset.sizeBytes) &&
    decide (asset.sizeBytes ≤ MEDIA_MAX_ASSET_BYTES) && isSha256Hex asset.checksumSha256

def PolicyMediaAsset.expired (P : Platform) (asset : PolicyMediaAsset) (instant : Int) : Bool :=
  match truthyText asset.expiresAt with
  | none => false
  | some text => match P.dateParse text with
    | some expiresAt => decide (expiresAt ≤ instant)
    | none => true

/-- The loop of `mediaPublicationFailure`, with the bytes of the assets before. -/
def mediaFailureFrom (P : Platform) (instant : Int) (aggregateBytes : Rat) :
    List PolicyMediaAsset → Option ReleaseCandidateFailureReason
  | [] => none
  | asset :: rest =>
    if !asset.supported then some .assetUnsupported
    else if asset.expired P instant then some .assetExpired
    else if aggregateBytes + asset.sizeBytes > MEDIA_MAX_RELEASE_BYTES then some .releaseTooLarge
    else mediaFailureFrom P instant (aggregateBytes + asset.sizeBytes) rest

def mediaPublicationFailure (P : Platform) (assets : List PolicyMediaAsset) (instant : Int) :
    Option ReleaseCandidateFailureReason :=
  mediaFailureFrom P instant 0 assets

/-! ## URLs and storage keys -/

def hasMediaUrlCredentials (url : Url) : Bool := url.username != "" || url.password != ""

def usesAllowedMediaScheme (url : Url) : Bool :=
  url.protocol == "https:" ||
    (url.protocol == "http:" && ["localhost", "127.0.0.1", "[::1]"].contains url.hostname)

def mediaUrlMatchesAllowedOrigin (P : Platform) (value : String)
    (allowedOrigins : List String) : Bool :=
  match P.parseUrl value with
  | some url =>
    !hasMediaUrlCredentials url && usesAllowedMediaScheme url && allowedOrigins.contains url.origin
  | none => false

/-- `/^[A-Za-z0-9._-]{1,256}$/` -/
def isSafeSegment (text : String) : Bool :=
  decide (1 ≤ text.toList.length) && decide (text.toList.length ≤ 256) &&
    text.toList.all fun c => isBase64Url c || c == '.'

def mediaStorageKey (organizationId assetId checksumSha256 : String) : Except String String :=
  if !isSafeSegment organizationId || !isSafeSegment assetId || !isLowerHex64 checksumSha256 then
    .error "Invalid media storage identity"
  else
    .ok ("organizations/" ++ organizationId ++ "/assets/" ++ assetId ++ "/" ++ checksumSha256)

end screengoblin.server
