-- The capabilities of the media delivery (apps/api/src/media/delivery.ts), and what the store
-- authorizes (`authorizeMediaDelivery` in apps/api/src/store/memory.ts). A capability is the text
-- of its claims and a signature of this text, with a dot between them.
import ScreenGoblin.Emergencies

open js collections screengoblin.schedule

namespace screengoblin.server

/-! ## Claims -/

structure MediaDeliveryClaims where
  screenId : String
  organizationId : String
  credentialKeyId : Option String
  assignmentId : String
  assignmentDigestSha256 : String
  assetId : String
  storageKey : String
  mimeType : String
  checksumSha256 : String
  sizeBytes : Rat
  expiresAt : String
  deriving DecidableEq

/-- The JSON of the claims, with the constants that every capability carries. -/
def MediaDeliveryClaims.json (claims : MediaDeliveryClaims) : Json :=
  object [("screenId", textJson claims.screenId),
    ("organizationId", textJson claims.organizationId),
    ("credentialKeyId", claims.credentialKeyId.bind textJson),
    ("assignmentId", textJson claims.assignmentId),
    ("assignmentDigestSha256", textJson claims.assignmentDigestSha256),
    ("assetId", textJson claims.assetId), ("storageKey", textJson claims.storageKey),
    ("mimeType", textJson claims.mimeType), ("checksumSha256", textJson claims.checksumSha256),
    ("sizeBytes", numberJson claims.sizeBytes), ("expiresAt", textJson claims.expiresAt),
    ("version", numberJson 2), ("method", textJson "GET"),
    ("transport", textJson "authorization-v1")]

/-- The parts of a text between its dots: `text.split(".")`. -/
def segmentsOf : List Char → List (List Char)
  | [] => [[]]
  | c :: rest =>
    if c = '.' then [] :: segmentsOf rest
    else match segmentsOf rest with
      | [] => [[c]]
      | first :: others => (c :: first) :: others

/-- A part of a token: a text without a dot, and not empty. -/
def IsSegment (text : String) : Prop := text ≠ "" ∧ '.' ∉ text.toList

/-- What the delivery takes from its runtime. -/
structure TokenRuntime where
  /-- `Buffer.from(JSON.stringify(value)).toString("base64url")`. -/
  encode : Json → String
  /-- `JSON.parse(Buffer.from(text, "base64url").toString("utf8"))`. `none` is a throw. -/
  decode : String → Option Json
  decode_encode : ∀ claims : MediaDeliveryClaims,
    Value.isSafeInteger (numberJson claims.sizeBytes) = true →
    decode (encode claims.json) = some claims.json
  /-- The HMAC of a payload under a secret, in base64url. -/
  signature : String → String → String
  encode_segment : ∀ value, IsSegment (encode value)
  signature_segment : ∀ payload secret, IsSegment (signature payload secret)

def issueMediaCapability (T : TokenRuntime) (claims : MediaDeliveryClaims) (secret : String) :
    String :=
  T.encode claims.json ++ "." ++ T.signature (T.encode claims.json) secret

def textOf : Value → Option String
  | some (.str text) => some text
  | _ => none

/-- The claims of a parsed payload, if each has its type. -/
def claimsOf (value : Value) : Option MediaDeliveryClaims := do
  let screenId ← textOf (value.get "screenId")
  let organizationId ← textOf (value.get "organizationId")
  let credentialKeyId ← match value.get "credentialKeyId" with
    | none => some none
    | some key => (textOf (some key)).map some
  let assignmentId ← textOf (value.get "assignmentId")
  let assignmentDigestSha256 ← textOf (value.get "assignmentDigestSha256")
  let assetId ← textOf (value.get "assetId")
  let storageKey ← textOf (value.get "storageKey")
  let mimeType ← textOf (value.get "mimeType")
  let checksumSha256 ← textOf (value.get "checksumSha256")
  let sizeBytes ← match value.get "sizeBytes" with
    | some (.num size) => some size
    | _ => none
  let expiresAt ← textOf (value.get "expiresAt")
  some { screenId, organizationId, credentialKeyId, assignmentId, assignmentDigestSha256, assetId,
         storageKey, mimeType, checksumSha256, sizeBytes, expiresAt }

/-- The other checks of `verifyMediaCapability` on the claims. -/
def acceptedClaims (P : Platform) (claims : MediaDeliveryClaims) (now : Int) : Bool :=
  isLowerHex64 claims.assignmentDigestSha256 && isLowerHex64 claims.checksumSha256 &&
    Value.isSafeInteger (numberJson claims.sizeBytes) && decide (1 ≤ claims.sizeBytes) &&
    (match P.dateParse claims.expiresAt with
      | some expiresAt => decide (now < expiresAt)
      | none => false) &&
    (match mediaStorageKey claims.organizationId claims.assetId claims.checksumSha256 with
      | .ok storageKey => claims.storageKey == storageKey
      | .error _ => false)

def verifyMediaCapability (P : Platform) (T : TokenRuntime) (value secret : String) (now : Int) :
    Option MediaDeliveryClaims :=
  match (segmentsOf value.toList).map String.ofList with
  | payload :: supplied :: extra =>
    -- an empty third part counts as none
    if payload == "" || supplied == "" || extra.head?.any (· != "") then none
    else if supplied != T.signature payload secret then none
    else (T.decode payload).bind fun parsed =>
      if Value.get (some parsed) "version" == numberJson 2 &&
          Value.get (some parsed) "method" == textJson "GET" &&
          Value.get (some parsed) "transport" == textJson "authorization-v1" then
        (claimsOf (some parsed)).filter fun claims => acceptedClaims P claims now
      else none
  | _ => none

/-! ## Authorization -/

structure MediaDeliveryAuthorizationInput where
  organizationId : String
  screenId : String
  assignmentId : String
  assignmentDigestSha256 : String
  assetId : String
  storageKey : String
  checksumSha256 : String
  sizeBytes : Rat
  instant : Int
  deriving DecidableEq

/-- The input that the delivery route makes from verified claims. -/
def MediaDeliveryClaims.input (claims : MediaDeliveryClaims) (instant : Int) :
    MediaDeliveryAuthorizationInput :=
  { organizationId := claims.organizationId, screenId := claims.screenId,
    assignmentId := claims.assignmentId,
    assignmentDigestSha256 := claims.assignmentDigestSha256, assetId := claims.assetId,
    storageKey := claims.storageKey, checksumSha256 := claims.checksumSha256,
    sizeBytes := claims.sizeBytes, instant }

/-- The asset of the input, by its identifier, key, checksum and size. -/
def isAsset (input : MediaDeliveryAuthorizationInput) (asset : FrozenReleaseAsset) : Bool :=
  asset.id == input.assetId && asset.storageKey == some input.storageKey &&
    asset.checksumSha256 == input.checksumSha256 && asset.sizeBytes == input.sizeBytes

/-- `!asset.expiresAt || asset.expiresAt > at`, which compares two texts. -/
def expiresLater (P : Platform) (expiresAt : Option String) (instant : Int) : Bool :=
  (truthyText expiresAt).all fun text => textIsLater text (P.toISOString instant)

/-- The tests on the assignment before the window test. -/
def mayDeliver (s : MemoryStore) (input : MediaDeliveryAuthorizationInput)
    (assignment : ReleaseAssignmentRecord) : Bool :=
  assignment.digestSha256 == input.assignmentDigestSha256 && assignment.state == .assigned &&
    (latestAssignment s assignment.scheduleId).any (fun latest => latest.id == assignment.id) &&
    assignment.screenIds.contains input.screenId && assignment.schedule.enabled &&
    decide (assignment.schedule.startsAt ≤ input.instant) &&
    beforeEnd assignment.schedule input.instant

def authorizeMediaDelivery (P : Platform) (s : MemoryStore)
    (input : MediaDeliveryAuthorizationInput) : Except String Bool :=
  if !Value.isSafeInteger (numberJson input.sizeBytes) || decide (input.sizeBytes < 1) then
    .ok false
  else match s.releaseAssignments.find? fun candidate =>
      candidate.id == input.assignmentId && candidate.organizationId == input.organizationId with
    | none => .ok false
    | some assignment =>
      if !mayDeliver s input assignment then .ok false
      else do
        let inside ← matchesScheduleWindow P.zones assignment.schedule input.instant
        if !inside then .ok false
        else match s.releases.find? fun candidate =>
            candidate.id == assignment.releaseId &&
              candidate.organizationId == input.organizationId with
          | none => .ok false
          | some release =>
            .ok (hasValidStoredAssignmentDigest P assignment release &&
              release.items.any fun item =>
                isAsset input item.asset && expiresLater P item.asset.expiresAt input.instant)

/-! ## Selection -/

/-- The release of one schedule in `activeOrdinaryReleases`, where the window test may throw. -/
def selectRelease (P : Platform) (s : MemoryStore) (org screenId : String) (instant : Int)
    (schedule : ScheduleRecord) : Except String (Option ActiveOrdinaryRelease) :=
  if schedule.organizationId != org || schedule.releaseId.isNone then .ok none
  else match latestAssignment s schedule.id with
    | none => .ok none
    | some assignment =>
      if assignment.organizationId == org && assignment.state == .assigned &&
          assignment.screenIds.contains screenId && assignment.schedule.enabled &&
          decide (assignment.schedule.startsAt ≤ instant) &&
          beforeEnd assignment.schedule instant then do
        let inside ← matchesScheduleWindow P.zones assignment.schedule instant
        if !inside then .ok none
        else match s.releases.find? fun candidate =>
            candidate.organizationId == org && candidate.id == assignment.releaseId with
          | none => .ok none
          | some release =>
            .ok (if hasValidStoredAssignmentDigest P assignment release then
              some { release, assignment } else none)
      else .ok none

/-- `activeOrdinaryReleases`, which throws where a window test does. -/
def selectReleases (P : Platform) (s : MemoryStore) (org screenId : String) (instant : Int) :
    Except String (List ActiveOrdinaryRelease) := do
  let found ← s.schedules.mapM (selectRelease P s org screenId instant)
  .ok (found.filterMap id)

/-! ## An issued capability verifies -/

theorem segmentsOf_noDot {cs : List Char} (noDot : '.' ∉ cs) : segmentsOf cs = [cs] := by
  induction cs with
  | nil => rfl
  | cons c rest ih =>
    simp only [List.mem_cons, not_or] at noDot
    unfold segmentsOf
    rw [if_neg (Ne.symm noDot.1), ih noDot.2]

theorem segmentsOf_append {cs : List Char} (noDot : '.' ∉ cs) (ds : List Char) :
    segmentsOf (cs ++ '.' :: ds) = cs :: segmentsOf ds := by
  induction cs with
  | nil => simp [segmentsOf]
  | cons c rest ih =>
    simp only [List.mem_cons, not_or] at noDot
    rw [List.cons_append, segmentsOf, if_neg (Ne.symm noDot.1), ih noDot.2]

theorem claimsOf_json (claims : MediaDeliveryClaims) :
    claimsOf (some claims.json) = some claims := by
  cases claims with
  | mk screenId organizationId credentialKeyId assignmentId assignmentDigestSha256 assetId
      storageKey mimeType checksumSha256 sizeBytes expiresAt =>
    cases credentialKeyId <;>
      simp [claimsOf, MediaDeliveryClaims.json, textJson, numberJson, textOf]

theorem verify_issue (P : Platform) (T : TokenRuntime) (claims : MediaDeliveryClaims)
    (secret : String) (now : Int) (accepted : acceptedClaims P claims now = true) :
    verifyMediaCapability P T (issueMediaCapability T claims secret) secret now = some claims := by
  obtain ⟨payloadSome, payloadNoDot⟩ := T.encode_segment claims.json
  obtain ⟨signatureSome, signatureNoDot⟩ := T.signature_segment (T.encode claims.json) secret
  have split : segmentsOf (issueMediaCapability T claims secret).toList =
      [(T.encode claims.json).toList, (T.signature (T.encode claims.json) secret).toList] := by
    unfold issueMediaCapability
    rw [String.toList_append, String.toList_append, List.append_assoc]
    show segmentsOf (_ ++ '.' :: (T.signature (T.encode claims.json) secret).toList) = _
    rw [segmentsOf_append payloadNoDot, segmentsOf_noDot signatureNoDot]
  have safe : Value.isSafeInteger (numberJson claims.sizeBytes) = true := by
    unfold acceptedClaims at accepted
    simp only [Bool.and_eq_true] at accepted
    exact accepted.1.1.1.2
  unfold verifyMediaCapability
  rw [split]
  simp only [List.map_cons, List.map_nil, String.ofList_toList, beq_eq_false_iff_ne.mpr payloadSome,
    beq_eq_false_iff_ne.mpr signatureSome, List.head?_nil, Option.any_none, Bool.or_false,
    Bool.false_eq_true, if_false, bne_self_eq_false, T.decode_encode claims safe, Option.bind_some,
    claimsOf_json, Option.filter_some, accepted, if_true]
  have constants : Value.get (some claims.json) "version" = numberJson 2 ∧
      Value.get (some claims.json) "method" = textJson "GET" ∧
      Value.get (some claims.json) "transport" = textJson "authorization-v1" := by
    unfold MediaDeliveryClaims.json
    simp
  simp only [constants, beq_self_eq_true, Bool.and_self, if_true]

end screengoblin.server
