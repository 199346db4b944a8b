-- The manifest of a screen (POST /manifest in apps/api/src/routes/devices.ts), after the device
-- has been authenticated. The manifest holds the one release that comes first, or nothing to
-- play. An emergency takes the place of every release.
import ScreenGoblin.MediaDelivery

open js collections screengoblin.schedule

namespace screengoblin.server

def MANIFEST_LEASE_MS : Int := 5 * 60000

/-- What the route takes from its runtime beside the tokens. -/
structure ManifestRuntime extends TokenRuntime where
  /-- `Buffer.from(JSON.stringify(value)).toString("base64")`. -/
  base64 : Json → String
  /-- `Buffer.byteLength(JSON.stringify(value))`. -/
  byteLength : Json → Nat
  /-- `signManifest(payload, encodedSeed)`. -/
  sign : Json → String → String

structure AppConfig where
  emergencyPublishingEnabled : Bool
  mediaAllowedOrigins : List String
  mediaDeliverySecret : String
  manifestSigningPrivateKey : String
  /-- The public URL of the API, or the origin of the request where none is set. -/
  publicApiUrl : String

/-- `url.replace(/\/+$/, "") + "/api/v1/device"`. -/
def apiBaseUrl (config : AppConfig) : String :=
  String.ofList (config.publicApiUrl.toList.reverse.dropWhile (· == '/')).reverse ++
    "/api/v1/device"

/-! ## `encodeURIComponent` -/

def isUnreserved (c : Char) : Bool :=
  isBase64Url c || ['.', '!', '~', '*', '(', ')'].contains c || c.toNat == 0x27

def hexDigitUpper (n : Nat) : Char := if n < 10 then Char.ofNat (48 + n) else Char.ofNat (55 + n)

def percentEncoded (byte : UInt8) : List Char :=
  ['%', hexDigitUpper (byte.toNat / 16), hexDigitUpper (byte.toNat % 16)]

def encodeURIComponent (text : String) : String :=
  String.ofList (text.toList.flatMap fun c =>
    if isUnreserved c then [c] else (String.utf8EncodeChar c).flatMap percentEncoded)

/-! ## The items -/

/-- An asset of a manifest. With a capability it is delivered to its holder only. -/
structure ManifestAsset where
  id : String
  name : String
  kind : MediaKind
  mimeType : String
  url : String
  mediaCapability : Option String
  checksumSha256 : String
  sizeBytes : Rat
  createdAt : Int
  expiresAt : Option String
  deriving DecidableEq

/-- An item of a manifest. No number of seconds is `NaN`, which JSON writes as `null`. -/
structure ManifestItem where
  id : String
  asset : ManifestAsset
  position : Int
  durationSeconds : Option Int
  deriving DecidableEq

def ManifestAsset.json (P : Platform) (asset : ManifestAsset) : Json :=
  object [("id", textJson asset.id), ("name", textJson asset.name), ("kind", kindJson asset.kind),
    ("mimeType", textJson asset.mimeType), ("url", textJson asset.url),
    ("mediaDelivery", asset.mediaCapability.bind fun _ => textJson "authorization-v1"),
    ("mediaCapability", asset.mediaCapability.bind textJson),
    ("checksumSha256", textJson asset.checksumSha256),
    ("sizeBytes", numberJson asset.sizeBytes), ("createdAt", instantJson P asset.createdAt),
    ("expiresAt", asset.expiresAt.bind textJson)]

/-- The fields of an asset that its version covers. -/
def ManifestAsset.versionJson (P : Platform) (asset : ManifestAsset) : Json :=
  object [("id", textJson asset.id), ("name", textJson asset.name), ("kind", kindJson asset.kind),
    ("mimeType", textJson asset.mimeType), ("checksumSha256", textJson asset.checksumSha256),
    ("sizeBytes", numberJson asset.sizeBytes), ("createdAt", instantJson P asset.createdAt),
    ("expiresAt", asset.expiresAt.bind textJson)]

def ManifestItem.json (assetJson : ManifestAsset → Json) (item : ManifestItem) : Json :=
  object [("id", textJson item.id), ("asset", some (assetJson item.asset)),
    ("position", numberJson item.position),
    ("durationSeconds", some (match item.durationSeconds with
      | some seconds => .num seconds
      | none => .null))]

/-- What a manifest shows, and until when. -/
structure ManifestContent where
  priority : Priority
  releaseIdentity : String
  withdrawn : Bool
  playbackEndsAt : Option Int
  validUntil : String
  items : List ManifestItem
  deriving DecidableEq

/-- The content where no release can be played. -/
def nothingToPlay (P : Platform) (generatedAt : Int) : ManifestContent :=
  { priority := .normal, releaseIdentity := "no-schedule", withdrawn := true,
    playbackEndsAt := none, validUntil := P.toISOString (generatedAt + MANIFEST_LEASE_MS),
    items := [] }

/-! ## An emergency -/

def emergencyJson (emergency : EmergencyRecord) : Json :=
  object [("title", textJson emergency.title), ("message", textJson emergency.message),
    ("backgroundColor", textJson emergency.backgroundColor)]

def emergencyContent (P : Platform) (R : ManifestRuntime) (emergency : EmergencyRecord) :
    ManifestContent :=
  let raw := emergencyJson emergency
  { priority := .emergency
    releaseIdentity := "emergency:" ++ emergency.id ++ ":" ++ emergency.expiresAt
    withdrawn := false
    playbackEndsAt := none
    validUntil := emergency.expiresAt
    items := [
      { id := "emergency-" ++ emergency.id
        asset :=
          { id := emergency.id, name := emergency.title, kind := .template
            mimeType := "application/vnd.screengoblin.emergency+json"
            url := "data:application/json;base64," ++ R.base64 raw
            mediaCapability := none, checksumSha256 := P.sha256 raw
            sizeBytes := R.byteLength raw, createdAt := emergency.createdAt, expiresAt := none }
        position := 0
        -- `Math.ceil` of the seconds between the two instants
        durationSeconds := (P.dateParse emergency.expiresAt).map fun expiresAt =>
          max 1 (-(-(expiresAt - emergency.startsAt) / 1000)) }] }

/-! ## A release -/

def priorityWeight : Priority → Nat
  | .normal => 0
  | .campaign => 1
  | .priority => 2
  | .emergency => 3

/-- `compareSchedulePrecedence(left, right)`, as an order. -/
def precedes (P : Platform) (left right : ActiveOrdinaryRelease) : Bool :=
  ((compare (priorityWeight right.assignment.schedule.priority)
      (priorityWeight left.assignment.schedule.priority)).then
    ((P.localeCompare (P.toISOString right.assignment.schedule.startsAt)
        (P.toISOString left.assignment.schedule.startsAt)).then
      (P.localeCompare left.assignment.id right.assignment.id))).isLE

def urlAllowed (P : Platform) (config : AppConfig) (url : String) : Bool :=
  match P.parseUrl url with
  | some parsed =>
    !hasMediaUrlCredentials parsed && usesAllowedMediaScheme parsed &&
      mediaUrlMatchesAllowedOrigin P url config.mediaAllowedOrigins
  | none => false

def entireReleasePlayable (P : Platform) (config : AppConfig) (generatedAt : Int)
    (playbackEndsAt : Option Int) (release : PublishedReleaseRecord) : Bool :=
  !release.items.isEmpty && release.items.all (fun item => urlAllowed P config item.asset.url) &&
    (mediaPublicationFailure P (release.items.map (·.asset.policy)) generatedAt).isNone &&
    playbackEndsAt.all fun boundary => decide (generatedAt < boundary)

/-- The end of the lease of a manifest, or of its playback where that comes first. -/
def leaseEnd (generatedAt : Int) : Option Int → Int
  | some boundary => min (generatedAt + MANIFEST_LEASE_MS) boundary
  | none => generatedAt + MANIFEST_LEASE_MS

/-- The instant at which a capability ends: the first of the ends there are. -/
def capabilityEnd (P : Platform) (generatedAt : Int) (playbackEndsAt : Option Int)
    (expiresAt : Option String) : Except String Int :=
  match truthyText expiresAt with
  | none => .ok (leaseEnd generatedAt playbackEndsAt)
  | some text => match P.dateParse text with
    | some expiry => .ok (min (leaseEnd generatedAt playbackEndsAt) expiry)
    | none => .error "Invalid time value"

def capabilityClaims (P : Platform) (screen : ScreenRecord) (credentialKeyId : Option String)
    (generatedAt : Int) (playbackEndsAt : Option Int) (selected : ActiveOrdinaryRelease)
    (asset : FrozenReleaseAsset) : Except String MediaDeliveryClaims := do
  let storageKey ← match asset.storageKey with
    | some storageKey => .ok storageKey
    | none => mediaStorageKey screen.organizationId asset.id asset.checksumSha256
  let expiresAt ← capabilityEnd P generatedAt playbackEndsAt asset.expiresAt
  .ok { screenId := screen.id, organizationId := screen.organizationId,
        credentialKeyId := truthyText credentialKeyId, assignmentId := selected.assignment.id,
        assignmentDigestSha256 := selected.assignment.digestSha256, assetId := asset.id,
        storageKey, mimeType := asset.mimeType, checksumSha256 := asset.checksumSha256,
        sizeBytes := asset.sizeBytes, expiresAt := P.toISOString expiresAt }

def manifestItem (P : Platform) (R : ManifestRuntime) (config : AppConfig) (screen : ScreenRecord)
    (credentialKeyId : Option String) (generatedAt : Int) (playbackEndsAt : Option Int)
    (selected : ActiveOrdinaryRelease) (item : FrozenReleaseItem) :
    Except String ManifestItem := do
  let claims ← capabilityClaims P screen credentialKeyId generatedAt playbackEndsAt selected
    item.asset
  .ok { id := item.id
        asset :=
          { id := item.asset.id, name := item.asset.name, kind := item.asset.kind
            mimeType := item.asset.mimeType
            url := apiBaseUrl config ++ "/media/" ++ encodeURIComponent item.asset.id
            mediaCapability := some
              (issueMediaCapability R.toTokenRuntime claims config.mediaDeliverySecret)
            checksumSha256 := item.asset.checksumSha256, sizeBytes := item.asset.sizeBytes
            createdAt := item.asset.createdAt, expiresAt := truthyText item.asset.expiresAt }
        position := item.position
        durationSeconds := some item.durationSeconds }

/-- The content of the selected release. A release that cannot be played clears the screen. -/
def releaseContent (P : Platform) (R : ManifestRuntime) (config : AppConfig)
    (screen : ScreenRecord) (credentialKeyId : Option String) (generatedAt : Int)
    (selected : ActiveOrdinaryRelease) : Except String ManifestContent := do
  let playbackEndsAt ← schedulePlaybackEndsAt P.zones selected.assignment.schedule generatedAt
  if entireReleasePlayable P config generatedAt playbackEndsAt selected.release then do
    let items ← selected.release.items.mapM
      (manifestItem P R config screen credentialKeyId generatedAt playbackEndsAt selected)
    .ok { priority := selected.assignment.schedule.priority
          releaseIdentity := "assignment:" ++ selected.assignment.digestSha256
          withdrawn := false
          playbackEndsAt
          validUntil := P.toISOString (generatedAt + MANIFEST_LEASE_MS)
          items }
  else .ok (nothingToPlay P generatedAt)

/-! ## The manifest -/

def manifestContent (P : Platform) (R : ManifestRuntime) (config : AppConfig)
    (emergencies : List EmergencyRecord) (s : MemoryStore) (screen : ScreenRecord)
    (credentialKeyId : Option String) (generatedAt : Int) : Except String ManifestContent :=
  let emergency := if config.emergencyPublishingEnabled then
      memoryActiveEmergency P emergencies screen.organizationId screen.id generatedAt
    else none
  match emergency with
  | some emergency => .ok (emergencyContent P R emergency)
  | none => do
    let releases ← selectReleases P s screen.organizationId screen.id generatedAt
    match (releases.insertionSort (precedes P · ·)).head? with
    | some selected => releaseContent P R config screen credentialKeyId generatedAt selected
    | none => .ok (nothingToPlay P generatedAt)

/-- The unsigned payload. -/
structure Manifest extends ManifestContent where
  version : String
  generatedAt : Int
  screenId : String
  requestChallengeId : Option String
  deriving DecidableEq

def manifestVersion (P : Platform) (screenId : String) (content : ManifestContent) : String :=
  let assetJson := if content.priority = .emergency then ManifestAsset.json P
    else ManifestAsset.versionJson P
  P.sha256 (object [("protocolVersion", numberJson 2),
    ("mediaDelivery", textJson "authorization-v1"), ("screenId", textJson screenId),
    ("releaseIdentity", textJson content.releaseIdentity),
    ("priority", priorityJson content.priority), ("withdrawn", some (.bool content.withdrawn)),
    ("playbackEndsAt", content.playbackEndsAt.bind (instantJson P)),
    ("items", some (.arr (content.items.map (ManifestItem.json assetJson))))])

def unsignedManifest (P : Platform) (R : ManifestRuntime) (config : AppConfig)
    (emergencies : List EmergencyRecord) (s : MemoryStore) (screen : ScreenRecord)
    (credentialKeyId requestChallengeId : Option String) (generatedAt : Int) :
    Except String Manifest := do
  let content ← manifestContent P R config emergencies s screen credentialKeyId generatedAt
  .ok { content with
        version := manifestVersion P screen.id content
        generatedAt
        screenId := screen.id
        requestChallengeId := truthyText requestChallengeId }

def Manifest.fields (P : Platform) (manifest : Manifest) : List (String × Value) :=
  [("protocolVersion", numberJson 2), ("mediaDelivery", textJson "authorization-v1"),
    ("version", textJson manifest.version), ("generatedAt", instantJson P manifest.generatedAt),
    ("validUntil", textJson manifest.validUntil), ("screenId", textJson manifest.screenId),
    ("requestChallengeId", manifest.requestChallengeId.bind textJson),
    ("priority", priorityJson manifest.priority), ("withdrawn", some (.bool manifest.withdrawn)),
    ("playbackEndsAt", manifest.playbackEndsAt.bind (instantJson P)),
    ("items", some (.arr (manifest.items.map (ManifestItem.json (ManifestAsset.json P)))))]

/-- The reply of the route: the payload and its signature. -/
def signedManifest (P : Platform) (R : ManifestRuntime) (config : AppConfig)
    (manifest : Manifest) : Json :=
  object (manifest.fields P ++ [("signatureAlgorithm", textJson "Ed25519"),
    ("signature",
      textJson (R.sign (object (manifest.fields P)) config.manifestSigningPrivateKey))])

end screengoblin.server
