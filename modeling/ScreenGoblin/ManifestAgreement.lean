-- The server and the player agree on a manifest (`normalizeSignedPayload` and `assertManifest` in
-- apps/player/src/core/manifest.ts). While no emergency is active, the player takes what the
-- server signs unless two items show one asset, a capability is too long for it, or its clock is
-- more than five minutes behind. What it takes plays until the server says that it ends.
import ScreenGoblin.ManifestContents
import ScreenGoblin.MediaTokens
import ScreenGoblin.PlayerManifest

open js collections screengoblin.schedule

namespace screengoblin.server

/-! ## Base64 -/

theorem isBase64Url_letter {n : Nat} (small : n < 64) :
    isBase64Url (base64url.letter n) = true := by
  have all : ∀ n : Fin 64, isBase64Url (base64url.letter n) = true := by decide
  exact all ⟨n, small⟩

theorem isBase64Url_encode (bytes : List UInt8) :
    ∀ c ∈ base64url.encode bytes, isBase64Url c = true := by
  intro c member
  obtain ⟨n, isSextet, rfl⟩ := List.mem_map.mp member
  exact isBase64Url_letter (base64url.sextets_small bytes n isSextet)

/-- A token is letters, a dot, and the 43 letters of its signature. -/
theorem toList_issue (N : NodeRuntime) (claims : MediaDeliveryClaims) (secret : String) :
    ∃ signature : List Char, signature.length = 43 ∧ signature.all isBase64Url = true ∧
      (issueMediaCapability N.tokens claims secret).toList =
        base64url.encode (utf8 (jsontext.stringify N.numerals claims.json)) ++ '.' :: signature :=
    by
  refine ⟨base64url.encode (N.hmac secret (NodeRuntime.CAPABILITY_PREFIX ++ N.encode claims.json)),
    ?_, ?_, ?_⟩
  · rw [base64url.length_encode, N.hmac_length]
  · rw [List.all_eq_true]
    exact isBase64Url_encode _
  · show (N.encode claims.json ++ "." ++ N.signature (N.encode claims.json) secret).toList = _
    rw [String.toList_append, String.toList_append, List.append_assoc]
    simp only [NodeRuntime.signature, NodeRuntime.encode, String.toList_ofList]
    rfl

/-- A token has the shape that the player asks for, as long as it is not too long. -/
theorem isMediaCapability_issue (N : NodeRuntime) (claims : MediaDeliveryClaims)
    (secret : String) :
    player.isMediaCapability (issueMediaCapability N.tokens claims secret) = true ↔
      (issueMediaCapability N.tokens claims secret).toList.length ≤ 4096 := by
  obtain ⟨signature, length, signed, token⟩ := toList_issue N claims secret
  have letters := isBase64Url_encode (utf8 (jsontext.stringify N.numerals claims.json))
  have some : 1 ≤ (base64url.encode (utf8 (jsontext.stringify N.numerals claims.json))).length := by
    have segment := (N.isSegment_payload claims.json).1
    rw [Nat.one_le_iff_ne_zero, Ne, List.length_eq_zero_iff]
    intro none
    apply segment
    unfold NodeRuntime.encode
    rw [none]
  have dot : isBase64Url '.' = false := by decide
  unfold player.isMediaCapability
  dsimp only
  rw [token, List.takeWhile_append_of_pos letters, List.dropWhile_append_of_pos letters,
    List.takeWhile_cons_of_neg (by simp [dot]), List.dropWhile_cons_of_neg (by simp [dot]),
    List.append_nil]
  simp only [some, signed, length, decide_true, Bool.true_and, Bool.and_true, beq_self_eq_true,
    decide_eq_true_eq, List.length_append, List.length_cons]
  omega

/-- A character is at most four bytes. -/
theorem length_utf8_le (cs : List Char) : (utf8 (String.ofList cs)).length ≤ 4 * cs.length := by
  have size : ∀ cs : List Char, cs.utf8Encode.size ≤ 4 * cs.length := by
    intro cs
    induction cs with
    | nil => simp
    | cons c rest ih =>
      have first := c.utf8Size_le_four
      rw [List.utf8Encode_cons, List.utf8Encode_singleton, ByteArray.size_append, List.length_cons]
      simp only [List.size_toByteArray, String.length_utf8EncodeChar]
      omega
  unfold utf8
  rw [String.toByteArray_ofList, Array.length_toList]
  exact size cs

/-- The token of a short JSON text is short. -/
theorem short_issue (N : NodeRuntime) {claims : MediaDeliveryClaims} (secret : String)
    (short : (jsontext.write N.numerals claims.json).length ≤ 759) :
    (issueMediaCapability N.tokens claims secret).toList.length ≤ 4096 := by
  obtain ⟨signature, length, -, token⟩ := toList_issue N claims secret
  have bytes := length_utf8_le (jsontext.write N.numerals claims.json)
  rw [token, List.length_append, List.length_cons, base64url.length_encode, length]
  unfold jsontext.stringify
  omega

/-! ## The items that the player reads -/

theorem field_setField (key other : String) (x : Json) (fields : List (String × Json)) :
    field other (setField key (some x) fields) =
      if key = other then some x else field other fields := by
  induction fields with
  | nil => rfl
  | cons f rest ih =>
    obtain ⟨k, y⟩ := f
    unfold setField
    by_cases own : k = key
    · rw [if_pos own, field, own]
      by_cases same : key = other
      · rw [if_pos same, if_pos same]
      · rw [if_neg same, if_neg same, field, if_neg same]
    · rw [if_neg own, field, ih, field]
      by_cases same : key = other
      · rw [if_pos same, if_pos same, if_neg (by rw [← same]; exact own)]
      · rw [if_neg same, if_neg same]

/-- `playlistItem.durationSeconds` -/
def secondsJson (item : ManifestItem) : Json :=
  match item.durationSeconds with
  | some seconds => .num seconds
  | none => .null

/-- The item of the player: the asset, with the seconds of the item. -/
def flatItem (P : Platform) (item : ManifestItem) : Json :=
  .obj (setField "durationSeconds" (some (secondsJson item))
    (Value.fields (some (item.asset.json P))))

theorem normalizeItem_json (P : Platform) (item : ManifestItem) :
    player.normalizeItem (ManifestItem.json (ManifestAsset.json P) item) =
      .ok (flatItem P item) := by
  unfold player.normalizeItem ManifestItem.json
  simp only [get_object_cons, String.reduceEq, if_true, if_false, Option.some_or]
  rfl

@[simp]
theorem get_flatItem (P : Platform) (item : ManifestItem) (key : String) :
    Value.get (some (flatItem P item)) key =
      if "durationSeconds" = key then some (secondsJson item)
      else Value.get (some (item.asset.json P)) key := by
  show field key (setField _ _ _) = _
  rw [field_setField]
  rfl

/-! ## Between the two sides -/

/-- The public URL of the API is an HTTPS one, so that the player may take each medium from it. -/
def ServesOverHttps (Pp : player.Platform) (config : AppConfig) : Prop :=
  ∀ id, ∃ parsed, Pp.parseUrl (apiBaseUrl config ++ "/media/" ++ encodeURIComponent id) =
    some parsed ∧ parsed.protocol = "https:" ∧ parsed.username = "" ∧ parsed.password = "" ∧
    parsed.search = "" ∧ parsed.hash = ""

/-- A player and a server that works for it: they parse dates alike, and the capabilities are
Node's. -/
structure Joined (P : Platform) (Pp : player.Platform) (N : NodeRuntime) (R : ManifestRuntime)
    (config : AppConfig) : Prop where
  dates : Pp.dateParse = P.dateParse
  undated : P.dateParse "" = none
  hashes : ∀ value, P.sha256 value ≠ ""
  tokens : R.toTokenRuntime = N.tokens
  https : ServesOverHttps Pp config

/-- The capability of the item, if it has one, is not too long for the player. -/
def CapabilityFits (item : ManifestItem) : Prop :=
  ∀ token, item.asset.mediaCapability = some token → token.toList.length ≤ 4096

section
variable {P : Platform} {Pp : player.Platform} {N : NodeRuntime} {R : ManifestRuntime}
  {config : AppConfig} {t : Int}

theorem Joined.isoText_ne (joined : Joined P Pp N R config) (instant : Int) :
    P.toISOString instant ≠ "" := by
  intro empty
  have parsed := P.dateParse_toISOString instant
  rw [empty, joined.undated] at parsed
  cases parsed

/-- The player reads the date of an instant of the server. -/
theorem Joined.date (joined : Joined P Pp N R config) (instant : Int) :
    Pp.date (instantJson P instant) = some instant := by
  show Pp.dateParse (P.toISOString instant) = some instant
  rw [joined.dates, P.dateParse_toISOString]

/-! ## One item -/

/-- The kinds that the policy supports are those that the player takes. -/
theorem allowed_of_supported {kind : MediaKind} {mimeType : String}
    (supported : isSupportedMedia kind mimeType = true) {item : Json}
    (isKind : Value.get (some item) "kind" = kindJson kind)
    (isType : Value.get (some item) "mimeType" = textJson mimeType) (priority : Value) :
    player.isEmergencyTemplate (some item) priority = false ∧
      player.isAllowedKindAndMime (some item) priority = true := by
  unfold player.isAllowedKindAndMime player.isEmergencyTemplate
  rw [isKind, isType]
  unfold isSupportedMedia at supported
  cases kind with
  | image =>
    simp only [Bool.or_eq_true, beq_iff_eq] at supported
    rcases supported with rfl | rfl <;> simp [kindJson, textJson]
  | video =>
    obtain rfl := beq_iff_eq.mp supported
    simp [kindJson, textJson]
  | template =>
    obtain rfl := beq_iff_eq.mp supported
    simp [kindJson, textJson, player.emergencyTemplateMime]
  | web => cases supported

theorem allowedUrl (joined : Joined P Pp N R config) (id : String) :
    player.isAllowedAssetUrl Pp (apiBaseUrl config ++ "/media/" ++ encodeURIComponent id) false
      false = true := by
  obtain ⟨parsed, parses, https, username, password, search, hash⟩ := joined.https id
  unfold player.isAllowedAssetUrl
  rw [parses]
  simp [https, username, password, search, hash]

/-- An item of a manifest passes the checks of the player just when its capability fits. -/
theorem isAllowedItem_iff (joined : Joined P Pp N R config) {item : ManifestItem}
    (presents : Presents R config item) (supported : item.asset.policy.supported = true)
    (priority : Value) :
    player.isAllowedItem Pp (some (flatItem P item)) priority true false = true ↔
      CapabilityFits item := by
  obtain ⟨claims, capability⟩ := presents.capability
  obtain ⟨seconds, length, low, high⟩ := presents.timed
  have fits : CapabilityFits item ↔ player.isMediaCapability
      (issueMediaCapability R.toTokenRuntime claims config.mediaDeliverySecret) = true := by
    rw [joined.tokens, isMediaCapability_issue, ← joined.tokens]
    unfold CapabilityFits
    rw [capability]
    constructor
    · intro all
      exact all _ rfl
    · intro short token is
      cases is
      exact short
  unfold PolicyMediaAsset.supported ManifestAsset.policy at supported
  simp only [Bool.and_eq_true, decide_eq_true_eq] at supported
  obtain ⟨⟨⟨⟨kind, safe⟩, positive⟩, small⟩, -⟩ := supported
  have isKind : Value.get (some (flatItem P item)) "kind" = kindJson item.asset.kind := by
    simp [ManifestAsset.json]
  have isType : Value.get (some (flatItem P item)) "mimeType" = textJson item.asset.mimeType := by
    simp [ManifestAsset.json]
  obtain ⟨noTemplate, allowed⟩ := allowed_of_supported kind isKind isType priority
  have url : Value.get (some (flatItem P item)) "url" = some (.str item.asset.url) := by
    simp [ManifestAsset.json, textJson]
  have delivery : Value.get (some (flatItem P item)) "mediaDelivery" =
      some (.str "authorization-v1") := by
    simp [ManifestAsset.json, textJson, capability]
  have token : Value.get (some (flatItem P item)) "mediaCapability" = some (.str
      (issueMediaCapability R.toTokenRuntime claims config.mediaDeliverySecret)) := by
    simp [ManifestAsset.json, textJson, capability]
  have lasts : Value.get (some (flatItem P item)) "durationSeconds" = some (.num seconds) := by
    simp [secondsJson, length]
  have size : Value.get (some (flatItem P item)) "sizeBytes" = some (.num item.asset.sizeBytes) :=
    by simp [ManifestAsset.json, numberJson]
  unfold player.isAllowedItem player.isAllowedDelivery
  dsimp only
  rw [noTemplate, allowed, url, delivery, token, lasts, size, safe, presents.url]
  dsimp only
  rw [allowedUrl joined, fits]
  have least : (1 : Rat) ≤ (seconds : Rat) := by
    exact Rat.intCast_le_intCast.mpr low
  have most : (seconds : Rat) ≤ 86400 := by
    exact Rat.intCast_le_intCast.mpr high
  simp only [Value.isInteger, Value.number, Rat.den_intCast, beq_self_eq_true, Bool.not_true,
    Bool.false_eq_true, if_false, Bool.false_or, Bool.true_and, Bool.and_true, Bool.and_eq_true]
  constructor
  · intro passed
    exact passed.1.1.1.1
  · intro isToken
    exact ⟨⟨⟨⟨isToken, decide_eq_true least⟩, decide_eq_true most⟩, decide_eq_true positive⟩,
      decide_eq_true small⟩

/-! ## The loop over the items -/

theorem expiry_json (item : ManifestItem) :
    Value.get (some (flatItem P item)) "expiresAt" = item.asset.expiresAt.bind textJson := by
  simp [ManifestAsset.json]

theorem expiry_allowed (joined : Joined P Pp N R config) {item : ManifestItem}
    (presents : Presents R config item) (unexpired : item.asset.policy.expired P t = false)
    {generatedAt : Value} (generated : Pp.date generatedAt = some t) :
    player.isAllowedExpiry Pp (some (flatItem P item)) generatedAt = true := by
  unfold player.isAllowedExpiry
  rw [expiry_json, generated]
  cases named : item.asset.expiresAt with
  | none => rfl
  | some text =>
    obtain ⟨expiresAt, parsed, later⟩ := parsed_of_unexpired unexpired (presents.dated.trans named)
    show ((Pp.dateParse text).isSome && !player.dateLe (Pp.dateParse text) (Option.some t)) = true
    rw [joined.dates, parsed]
    simpa [player.dateLe] using later

/-- The identifiers of the player's loop are texts, and compared as such. -/
theorem isNew_iff {id : String} (named : id ≠ "") {ids : List String} :
    (Value.truthy (textJson id) && !(ids.map textJson).any (Value.strictEq (textJson id))) = true ↔
      id ∉ ids := by
  have same (other : String) : Value.strictEq (textJson id) (textJson other) = true ↔
      id = other := by
    show (textJson id == textJson other) = true ↔ id = other
    rw [beq_iff_eq]
    exact textJson_injective.eq_iff
  have truthy : Value.truthy (textJson id) = true := by
    show (id != "") = true
    simpa using named
  rw [truthy, Bool.true_and, Bool.not_eq_true', Bool.eq_false_iff, Ne, List.any_eq_true]
  simp [same]

theorem mediaFailureFrom_cons {instant : Int} {bytes : Rat} {asset : PolicyMediaAsset}
    {rest : List PolicyMediaAsset}
    (none : mediaFailureFrom P instant bytes (asset :: rest) = none) :
    asset.supported = true ∧ asset.expired P instant = false ∧
      bytes + asset.sizeBytes ≤ MEDIA_MAX_RELEASE_BYTES ∧
      mediaFailureFrom P instant (bytes + asset.sizeBytes) rest = Option.none := by
  unfold mediaFailureFrom at none
  split at none
  · cases none
  · next supported =>
    split at none
    · cases none
    · next unexpired =>
      split at none
      · cases none
      · next small =>
        exact ⟨by simpa using supported, by simpa using unexpired, Rat.not_lt.mp small, none⟩

/-- The loop of the player over the items of a manifest: no asset comes twice, and each capability
fits. The policy of the server has counted the bytes in the same way. -/
theorem assertItems_iff (joined : Joined P Pp N R config) {wire : Value}
    (generated : Pp.date (wire.get "generatedAt") = some t) {items : List ManifestItem}
    (presents : ∀ item ∈ items, Presents R config item) {bytes : Rat}
    (accepted : mediaFailureFrom P t bytes (items.map (·.asset.policy)) = none)
    (ids : List String) :
    player.assertItems Pp wire true false (items.map (flatItem P)) (ids.map textJson) bytes =
        .ok () ↔
      (items.map (·.asset.id)).Nodup ∧ (∀ item ∈ items, item.asset.id ∉ ids) ∧
        ∀ item ∈ items, CapabilityFits item := by
  induction items generalizing bytes ids with
  | nil => simp [player.assertItems]
  | cons item rest ih =>
    rw [List.map_cons] at accepted ⊢
    obtain ⟨supported, unexpired, small, others⟩ := mediaFailureFrom_cons accepted
    have own := presents item List.mem_cons_self
    have again := ih (fun other member => presents other (List.mem_cons_of_mem _ member)) others
      (item.asset.id :: ids)
    have id : Value.get (some (flatItem P item)) "id" = textJson item.asset.id := by
      simp [ManifestAsset.json, textJson]
    have size : (Value.get (some (flatItem P item)) "sizeBytes").number =
        item.asset.policy.sizeBytes := by
      simp [ManifestAsset.json, numberJson, Value.number, ManifestAsset.policy]
    have checksum : Value.get (some (flatItem P item)) "checksumSha256" =
        textJson item.asset.checksumSha256 := by
      simp [ManifestAsset.json, textJson]
    have hex : isSha256Hex item.asset.checksumSha256 = true := by
      unfold PolicyMediaAsset.supported at supported
      exact (Bool.and_eq_true_iff.mp supported).2
    unfold player.assertItems
    dsimp only
    rw [player.require_bind, player.require_bind, player.require_bind, player.require_bind,
      player.require_bind, player.require_bind, id, size, checksum,
      isAllowedItem_iff joined own supported, expiry_allowed joined own unexpired generated,
      isNew_iff own.named]
    have sum : decide (bytes + item.asset.policy.sizeBytes ≤ player.MAX_RELEASE_BYTES) = true :=
      decide_eq_true small
    have sha : ((Pp.text (textJson item.asset.checksumSha256)).map isSha256Hex).getD false =
        true := hex
    have object : Value.isObject (some (flatItem P item)) = true := rfl
    simp only [sum, sha, object, true_and, List.map_cons, List.nodup_cons, List.forall_mem_cons]
    rw [show textJson item.asset.id :: ids.map textJson = (item.asset.id :: ids).map textJson from
      rfl, again]
    constructor
    · rintro ⟨isNew, fits, apart, fresh, others⟩
      refine ⟨⟨?_, apart⟩, ⟨isNew, ?_⟩, fits, others⟩
      · intro twice
        obtain ⟨other, member, same⟩ := List.mem_map.mp twice
        exact fresh other member (by rw [same]; exact List.mem_cons_self)
      · intro other member old
        exact fresh other member (List.mem_cons_of_mem _ old)
    · rintro ⟨⟨once, apart⟩, ⟨isNew, fresh⟩, fits, others⟩
      refine ⟨isNew, fits, apart, ?_, others⟩
      intro other member old
      rcases List.mem_cons.mp old with same | old
      · exact once (by rw [← same]; exact List.mem_map_of_mem member)
      · exact fresh other member old

/-! ## The whole manifest -/

/-- The view of a manifest that the player stores and plays. -/
def playerView (P : Platform) (manifest : Manifest) : Json :=
  player.copiedManifest (some (object (manifest.fields P))) (manifest.items.map (flatItem P))

/-- The view has the fields of the manifest, and its items in the form of the player. -/
structure ViewOf (P : Platform) (manifest : Manifest) (view : Value) : Prop where
  object : view.isObject = true
  protocolVersion : view.get "protocolVersion" = some (.num 2)
  mediaDelivery : view.get "mediaDelivery" = textJson "authorization-v1"
  version : view.get "version" = textJson manifest.version
  generatedAt : view.get "generatedAt" = instantJson P manifest.generatedAt
  validUntil : view.get "validUntil" = textJson manifest.validUntil
  playbackEndsAt : view.get "playbackEndsAt" = manifest.playbackEndsAt.bind (instantJson P)
  screenId : view.get "screenId" = textJson manifest.screenId
  requestChallengeId : view.get "requestChallengeId" = manifest.requestChallengeId.bind textJson
  priority : view.get "priority" = priorityJson manifest.priority
  withdrawn : view.get "withdrawn" = some (.bool manifest.withdrawn)
  items : view.get "items" = some (.arr (manifest.items.map (flatItem P)))

theorem viewOf_playerView (P : Platform) (manifest : Manifest) :
    ViewOf P manifest (some (playerView P manifest)) := by
  unfold playerView player.copiedManifest
  constructor
  case object => rfl
  all_goals simp [Manifest.fields, numberJson]

/-- The player copies the view out of the payload, if it passes the checks. -/
theorem normalizeSignedPayload_iff {manifest : Manifest} {now : Int}
    {requireCurrentProtocol : Bool} {view : Json} :
    player.normalizeSignedPayload Pp now (some (object (manifest.fields P)))
        requireCurrentProtocol = .ok view ↔
      player.assertManifest Pp now (some (playerView P manifest)) requireCurrentProtocol = .ok () ∧
        playerView P manifest = view := by
  have items : Value.get (some (object (manifest.fields P))) "items" =
      some (.arr (manifest.items.map (ManifestItem.json (ManifestAsset.json P)))) := by
    simp [Manifest.fields]
  have flat : (manifest.items.map (ManifestItem.json (ManifestAsset.json P))).mapM
      player.normalizeItem = .ok (manifest.items.map (flatItem P)) := by
    rw [mapM_ok_iff, List.forall₂_map_left_iff, List.forall₂_map_right_iff, List.forall₂_same]
    intro item _
    exact normalizeItem_json P item
  unfold player.normalizeSignedPayload
  rw [player.require_bind, player.require_bind, items]
  dsimp only [Value.elements]
  rw [flat]
  constructor
  · rintro ⟨-, -, copied⟩
    obtain ⟨_, same, copied⟩ := player.bind_ok.mp copied
    cases same
    obtain ⟨_, passed, same⟩ := player.bind_ok.mp copied
    exact ⟨passed, Except.ok.inj same⟩
  · rintro ⟨passed, rfl⟩
    exact ⟨rfl, rfl, player.bind_ok.mpr ⟨_, rfl, player.bind_ok.mpr ⟨(), passed, rfl⟩⟩⟩

/-! ## The checks of the player -/

theorem isPriority_priorityJson (p : Priority) : player.isPriority (priorityJson p) = true := by
  cases p <;> rfl

theorem unexpired_iff {asset : PolicyMediaAsset} {instant : Int} :
    asset.expired P instant = false ↔ ∀ text, truthyText asset.expiresAt = some text →
      ∃ expiresAt, P.dateParse text = some expiresAt ∧ instant < expiresAt := by
  constructor
  · intro unexpired text named
    exact parsed_of_unexpired unexpired named
  · intro all
    unfold PolicyMediaAsset.expired
    cases named : truthyText asset.expiresAt with
    | none => rfl
    | some text =>
      obtain ⟨expiresAt, parsed, later⟩ := all text named
      dsimp only
      rw [parsed]
      exact decide_eq_false (not_le.mpr later)

theorem dateLe_minimum {boundaries : List Int} {instant : Int} :
    player.dateLe (player.minimum boundaries) (some instant) = false ↔
      ∀ boundary ∈ boundaries, instant < boundary := by
  cases least : player.minimum boundaries with
  | none =>
    cases boundaries with
    | nil => simp [player.dateLe]
    | cons b rest => cases least
  | some b =>
    show decide (b ≤ instant) = false ↔ _
    rw [decide_eq_false_iff_not, not_le]
    constructor
    · intro before boundary member
      exact before.trans_le (player.minimum_le least member)
    · intro all
      exact all b (player.minimum_mem least)

/-- What the player takes of the server: its clock is not far behind the manifest, no asset is
shown twice, and each capability fits. -/
structure Takes (manifest : Manifest) (now : Int) : Prop where
  clock : manifest.generatedAt ≤ now + 5 * 60000
  apart : (manifest.items.map (·.asset.id)).Nodup
  fits : ∀ item ∈ manifest.items, CapabilityFits item

section
variable {manifest : Manifest} (joined : Joined P Pp N R config)
  (ordinary : Ordinary P R config manifest.toManifestContent manifest.generatedAt)
  {view : Value} (is : ViewOf P manifest view)
include joined ordinary is

theorem assertManifest_iff (screen : manifest.screenId ≠ "") (version : manifest.version ≠ "")
    (now : Int) (requireCurrentProtocol : Bool) :
    player.assertManifest Pp now view requireCurrentProtocol = .ok () ↔ Takes manifest now := by
  have current : player.isCurrentProtocol view = true := by
    unfold player.isCurrentProtocol
    rw [is.protocolVersion, is.mediaDelivery]
    rfl
  have legacy : player.isLegacyStoredProtocol view = false := by
    unfold player.isLegacyStoredProtocol
    rw [is.protocolVersion]
    rfl
  have generated : Pp.date (view.get "generatedAt") = some manifest.generatedAt := by
    rw [is.generatedAt, joined.date]
  have until' : Pp.date (view.get "validUntil") =
      some (manifest.generatedAt + MANIFEST_LEASE_MS) := by
    rw [is.validUntil, ordinary.validUntil]
    exact joined.date _
  have loop := assertItems_iff joined generated ordinary.items ordinary.accepted []
  unfold player.assertManifest
  dsimp only
  rw [current, legacy, generated, until', is.items]
  simp only [player.require_bind]
  dsimp only [Value.elements]
  constructor
  · rintro ⟨-, -, -, -, -, clock, -, -, -, -, -, -, passed⟩
    obtain ⟨apart, -, fits⟩ := loop.mp passed
    exact ⟨of_decide_eq_true clock, apart, fits⟩
  · intro takes
    refine ⟨is.object, rfl, ?_, ?_, ?_, decide_eq_true takes.clock, ?_, ?_, ?_, ?_, ?_, ?_,
      loop.mpr ⟨takes.apart, by simp, takes.fits⟩⟩
    · rw [is.version, is.screenId]
      show (manifest.version != "" && manifest.screenId != "" && true) = true
      simp [screen, version]
    · rw [is.generatedAt, is.validUntil, ordinary.validUntil]
      show (P.toISOString manifest.generatedAt != "" && P.toISOString _ != "" && true && true) =
        true
      simp [joined.isoText_ne]
    · have later : ¬ manifest.generatedAt + MANIFEST_LEASE_MS ≤ manifest.generatedAt := by
        unfold MANIFEST_LEASE_MS
        omega
      show (!decide _) = true
      rw [decide_eq_false later]
      rfl
    · rw [is.playbackEndsAt]
      cases manifest.playbackEndsAt with
      | none => rfl
      | some boundary =>
        show (_ || true && (Pp.date (instantJson P boundary)).isSome) = true
        rw [joined.date]
        simp
    · rw [is.priority]
      exact isPriority_priorityJson _
    · rw [is.withdrawn]
      cases manifest.withdrawn <;> rfl
    · rw [is.withdrawn, is.priority]
      cases withdrawn : manifest.withdrawn with
      | false => rfl
      | true =>
        have empty := ordinary.withdrawn.symm.trans withdrawn
        rw [List.isEmpty_iff] at empty
        rw [ordinary.normal withdrawn, empty]
        rfl
    · rw [is.withdrawn]
      cases withdrawn : manifest.withdrawn with
      | true => rfl
      | false =>
        have some := ordinary.withdrawn.symm.trans withdrawn
        show (!(manifest.items.map (flatItem P)).isEmpty) = true
        rw [List.isEmpty_map, some]
        rfl
    · have few : (manifest.items.map (flatItem P)).length ≤ player.MAX_ITEMS := by
        rw [List.length_map]
        exact ordinary.few
      exact decide_eq_true few

/-! ## How long it plays -/

/-- The manifest shows something, and neither its playback nor one of its assets has ended. An
ordinary release of the highest priority ends with its lease. -/
structure StillOn (P : Platform) (manifest : Manifest) (instant : Int) : Prop where
  shown : manifest.withdrawn = false
  playback : ∀ boundary, manifest.playbackEndsAt = some boundary → instant < boundary
  unexpired : ∀ item ∈ manifest.items, item.asset.policy.expired P instant = false
  lease : manifest.priority = .emergency → instant < manifest.generatedAt + MANIFEST_LEASE_MS

theorem playbackEnded_iff (instant : Int) :
    player.playbackEnded Pp instant view = false ↔
      (∀ boundary, manifest.playbackEndsAt = some boundary → instant < boundary) ∧
        ∀ item ∈ manifest.items, item.asset.policy.expired P instant = false := by
  have unexpired : ∀ item ∈ manifest.items,
      item.asset.policy.expired P manifest.generatedAt = false := fun item member =>
    (mediaFailureFrom_none ordinary.accepted _ (List.mem_map_of_mem member)).2
  unfold player.playbackEnded player.manifestPlaybackEndsAt player.manifestItems
  rw [dateLe_minimum, is.items, is.playbackEndsAt]
  dsimp only [Value.elements]
  constructor
  · intro all
    constructor
    · intro boundary ends
      apply all
      rw [List.mem_filterMap, ends]
      exact ⟨instantJson P boundary, List.mem_filter.mpr ⟨List.mem_cons_self, rfl⟩,
        joined.date boundary⟩
    · intro item member
      rw [unexpired_iff]
      intro text named
      obtain ⟨expiresAt, parsed, -⟩ := parsed_of_unexpired (unexpired item member) named
      refine ⟨expiresAt, parsed, all expiresAt ?_⟩
      rw [List.mem_filterMap]
      refine ⟨textJson text, List.mem_filter.mpr ⟨List.mem_cons_of_mem _ ?_, rfl⟩, ?_⟩
      · rw [List.map_map]
        refine List.mem_map.mpr ⟨item, member, ?_⟩
        have expiry : item.asset.expiresAt = some text :=
          (ordinary.items item member).dated.symm.trans named
        rw [Function.comp_apply, expiry_json, expiry]
        rfl
      · show Pp.dateParse text = some expiresAt
        rw [joined.dates, parsed]
  · rintro ⟨playback, unended⟩ b member
    obtain ⟨value, inside, date⟩ := List.mem_filterMap.mp member
    obtain ⟨inside, given⟩ := List.mem_filter.mp inside
    rcases List.mem_cons.mp inside with rfl | inside
    · cases ends : manifest.playbackEndsAt with
      | none =>
        rw [ends] at given
        cases given
      | some boundary =>
        rw [ends] at date
        obtain rfl := Option.some.inj ((joined.date boundary).symm.trans date)
        exact playback boundary ends
    · rw [List.map_map] at inside
      obtain ⟨item, listed, rfl⟩ := List.mem_map.mp inside
      rw [Function.comp_apply, expiry_json] at date given
      cases expiry : item.asset.expiresAt with
      | none =>
        rw [expiry] at given
        cases given
      | some text =>
        rw [expiry] at date
        have parsed : P.dateParse text = some b := by
          rw [← joined.dates]
          exact date
        obtain ⟨expiresAt, parsed', later⟩ := unexpired_iff.mp (unended item listed) text
          ((ordinary.items item listed).dated.trans expiry)
        obtain rfl := Option.some.inj (parsed.symm.trans parsed')
        exact later

theorem playable_iff (screen : manifest.screenId ≠ "") (version : manifest.version ≠ "")
    {now : Int} (takes : Takes manifest now) {later : Int} (after : now ≤ later) :
    player.isStoredManifestPlayable Pp later view = true ↔ StillOn P manifest later := by
  have passed := (assertManifest_iff joined ordinary is screen version later false).mpr
    ⟨by have := takes.clock; omega, takes.apart, takes.fits⟩
  have truthy : view.truthy = true := by
    have object := is.object
    unfold Value.isObject at object
    split at object
    · rfl
    · rfl
    · cases object
  have withdrawn : player.isWithdrawn view = manifest.withdrawn := by
    unfold player.isWithdrawn
    rw [is.withdrawn]
    rfl
  unfold player.isStoredManifestPlayable
  rw [truthy, withdrawn, passed]
  simp only [Bool.and_eq_true, Bool.not_eq_true', playbackEnded_iff joined ordinary is]
  have lease : player.leaseEnded Pp later view = decide
      (manifest.generatedAt + MANIFEST_LEASE_MS ≤ later) := by
    unfold player.leaseEnded
    rw [is.validUntil, ordinary.validUntil]
    show player.dateLe (Pp.date (instantJson P _)) _ = _
    rw [joined.date]
    rfl
  have urgent : player.isEmergency view = true ↔ manifest.priority = .emergency := by
    unfold player.isEmergency
    rw [is.priority, beq_iff_eq]
    cases manifest.priority <;> simp [priorityJson, textJson]
  rw [lease]
  constructor
  · rintro ⟨⟨⟨⟨-, shown⟩, -⟩, onLease⟩, playback, unexpired⟩
    refine ⟨shown, playback, unexpired, ?_⟩
    intro emergency
    rw [urgent.mpr emergency, Bool.true_and, decide_eq_false_iff_not, not_le] at onLease
    exact onLease
  · intro on
    refine ⟨⟨⟨⟨trivial, on.shown⟩, rfl⟩, ?_⟩, on.playback, on.unexpired⟩
    by_cases emergency : manifest.priority = .emergency
    · rw [urgent.mpr emergency, Bool.true_and, decide_eq_false_iff_not, not_le]
      exact on.lease emergency
    · rw [Bool.eq_false_iff.mpr (fun isIt => emergency (urgent.mp isIt)), Bool.false_and]

end

/-! ## The agreement -/

/-- The player accepts what it takes, as a view of the manifest that is on for as long as the
server means it to be. -/
structure Agrees (P : Platform) (Pp : player.Platform) (manifest : Manifest) (now : Int) :
    Prop where
  accepts : (∃ view, player.normalizeSignedPayload Pp now (some (object (manifest.fields P))) true =
    .ok view) ↔ Takes manifest now
  shows : ∀ view, player.normalizeSignedPayload Pp now (some (object (manifest.fields P))) true =
    .ok view → ViewOf P manifest (some view) ∧ ∀ later, now ≤ later →
      (player.isStoredManifestPlayable Pp later (some view) = true ↔ StillOn P manifest later)

theorem Joined.agrees (joined : Joined P Pp N R config) {manifest : Manifest}
    (ordinary : Ordinary P R config manifest.toManifestContent manifest.generatedAt)
    (screen : manifest.screenId ≠ "") (version : manifest.version ≠ "") (now : Int) :
    Agrees P Pp manifest now := by
  have is := viewOf_playerView P manifest
  have passes := assertManifest_iff joined ordinary is screen version now true
  refine ⟨⟨?_, ?_⟩, ?_⟩
  · rintro ⟨view, accepted⟩
    exact passes.mp (normalizeSignedPayload_iff.mp accepted).1
  · intro takes
    exact ⟨_, normalizeSignedPayload_iff.mpr ⟨passes.mpr takes, rfl⟩⟩
  · intro view accepted
    obtain ⟨passed, rfl⟩ := normalizeSignedPayload_iff.mp accepted
    refine ⟨is, ?_⟩
    intro later after
    exact playable_iff joined ordinary is screen version (passes.mp passed) after

/-- The law of the two sides: after any run of the store whose playlists came in through their
route, the player takes the manifest of any screen and instant unless an asset is on it twice, a
capability is too long, or its own clock is too far behind. -/
theorem the_player_takes_a_manifest_whose_assets_are_apart {past : ContentPast} {s : MemoryStore}
    (run : ContentRun P past s) (accepted : ∀ entry ∈ past, entry.2.Accepted)
    (joined : Joined P Pp N R config) {emergencies : List EmergencyRecord} {screen : ScreenRecord}
    (named : screen.id ≠ "") (quiet : config.emergencyPublishingEnabled = true →
      memoryActiveEmergency P emergencies screen.organizationId screen.id t = none)
    {credentialKeyId requestChallengeId : Option String} {manifest : Manifest}
    (made : unsignedManifest P R config emergencies s screen credentialKeyId requestChallengeId t =
      .ok manifest) (now : Int) : Agrees P Pp manifest now := by
  obtain ⟨content, shown, made⟩ := bind_ok.mp made
  cases made
  exact joined.agrees ((run.bounded accepted).ordinary quiet shown) named (joined.hashes _) now

end

/-! ## A poster that is shown twice -/

/-- The texts of the poster, with the end of the lease of a manifest of 09:02. -/
def leaseText (t : Int) : String :=
  if t = mondayAt 9 + 420000 then "2026-01-05T09:07:00.000Z" else isoText t

def leaseInstant (text : String) : Option Int :=
  if text = "2026-01-05T09:07:00.000Z" then some (mondayAt 9 + 420000) else isoInstant text

theorem leaseInstant_leaseText (t : Int) : leaseInstant (leaseText t) = some t := by
  unfold leaseText
  by_cases ends : t = mondayAt 9 + 420000
  · rw [if_pos ends, leaseInstant, if_pos rfl, ends]
  · have other : isoText t ≠ "2026-01-05T09:07:00.000Z" := by
      intro same
      have parsed := isoInstant_isoText t
      rw [same, show isoInstant "2026-01-05T09:07:00.000Z" = none by decide +kernel] at parsed
      cases parsed
    rw [if_neg ends, leaseInstant, if_neg other]
    exact isoInstant_isoText t

def lobbyCms : Platform :=
  { hexCms with
    toISOString := leaseText
    dateParse := leaseInstant
    dateParse_toISOString := leaseInstant_leaseText }

def lobbyConfig : AppConfig :=
  { emergencyPublishingEnabled := false, mediaAllowedOrigins := ["https://media.example"],
    mediaDeliverySecret := posterSecret, manifestSigningPrivateKey := "",
    publicApiUrl := "https://cms.example/" }

/-- Node, on a deployment that never has an emergency. -/
def manifestRuntime : ManifestRuntime :=
  { node.tokens with base64 := fun _ => "", byteLength := fun _ => 0, sign := fun _ _ => "" }

/-- A player that parses the URLs of that deployment. -/
def wallPlayer : player.Platform where
  parseJson _ := none
  dateParse := leaseInstant
  coerceText _ := none
  parseUrl text :=
    if text.toList.take 20 = "https://cms.example/".toList then
      some { protocol := "https:", username := "", password := "", hostname := "cms.example",
             origin := "https://cms.example", search := "", hash := "" }
    else none
  verifySignature _ _ _ := true
  cacheKey _ := none

theorem lobby_joined : Joined lobbyCms wallPlayer node manifestRuntime lobbyConfig where
  dates := rfl
  undated := by decide +kernel
  hashes value empty := by
    have hex := hexCms_hex value
    rw [show hexCms.sha256 value = "" from empty] at hex
    cases hex
  tokens := rfl
  https id := by
    refine ⟨_, if_pos ?_, rfl, rfl, rfl, rfl, rfl⟩
    rw [String.toList_append, String.toList_append, List.append_assoc,
      List.take_append_of_le_length (by decide +kernel)]
    decide +kernel

/-- The poster is published for the screen, in a playlist of these items. -/
def publishing (items : List PlaylistItemInput) (screenId candidateId digest : String) :
    List ContentEvent :=
  [.call (mondayAt 9) (.createMedia "acme"
     { name := "Poster", kind := .image, mimeType := "image/png",
       url := "https://media.example/poster.png", checksumSha256 := posterChecksum,
       sizeBytes := 2048, expiresAt := none } "ann"),
   .call (mondayAt 9) (.createPlaylist "acme"
     { name := "Lobby", description := "", items } "ann"),
   .call (mondayAt 9) (.createScreen "acme"
     { name := "Lobby", location := "Door", locationId := none, orientation := .landscape,
       resolution := "1920x1080", tags := [] } "ben"),
   .command (mondayAt 9) (.create "acme" { workingHours with
     playlistId := uuid 1, screenIds := [screenId], expiresAt := mondayAt 24 } "ann"
     ["https://media.example"] (keyOf .create)),
   .command (mondayAt 9 + 60000) (.submit "acme" candidateId digest "ann" (keyOf .submit)),
   .command (mondayAt 9 + 60000) (.approve "acme" candidateId digest "ben" (keyOf .approve)),
   .command (mondayAt 9 + 120000) (.publish "acme" candidateId digest "ann"
     ["https://media.example"] (keyOf .publish))]

/-- The claims of the capabilities of a manifest. -/
def manifestClaims (P : Platform) (s : MemoryStore) (screen : ScreenRecord)
    (credentialKeyId : Option String) (t : Int) : Except String (List MediaDeliveryClaims) := do
  let releases ← selectReleases P s screen.organizationId screen.id t
  match (releases.insertionSort (precedes P · ·)).head? with
  | some selected => do
    let playbackEndsAt ← schedulePlaybackEndsAt P.zones selected.assignment.schedule t
    selected.release.items.mapM fun item =>
      capabilityClaims P screen credentialKeyId t playbackEndsAt selected item.asset
  | none => .ok []

theorem token_of_claims {P : Platform} {R : ManifestRuntime} {config : AppConfig}
    {emergencies : List EmergencyRecord} {s : MemoryStore} {screen : ScreenRecord}
    {credentialKeyId requestChallengeId : Option String} {t : Int} {manifest : Manifest}
    (made : unsignedManifest P R config emergencies s screen credentialKeyId requestChallengeId t =
      .ok manifest) (off : config.emergencyPublishingEnabled = false)
    {all : List MediaDeliveryClaims}
    (claimed : manifestClaims P s screen credentialKeyId t = .ok all) :
    ∀ item ∈ manifest.items, ∃ claims ∈ all, item.asset.mediaCapability =
      some (issueMediaCapability R.toTokenRuntime claims config.mediaDeliverySecret) := by
  obtain ⟨content, shown, made⟩ := bind_ok.mp made
  cases made
  unfold manifestContent at shown
  rw [off] at shown
  obtain ⟨releases, selection, shown⟩ := bind_ok.mp shown
  unfold manifestClaims at claimed
  rw [selection] at claimed
  obtain ⟨_, same, claimed⟩ := bind_ok.mp claimed
  cases same
  split at shown
  · next selected first =>
    rw [first] at claimed
    obtain ⟨playbackEndsAt, ends, claimed⟩ := bind_ok.mp claimed
    obtain ⟨_, same, shown⟩ := bind_ok.mp shown
    cases ends.symm.trans same
    split at shown
    · obtain ⟨items, itemsMade, shown⟩ := bind_ok.mp shown
      cases shown
      intro item member
      obtain ⟨source, listed, itemMade⟩ := mapM_ok_mem itemsMade member
      obtain ⟨claims, own, itemMade⟩ := bind_ok.mp itemMade
      cases itemMade
      obtain ⟨other, isClaimed, same⟩ := mapM_ok_result claimed listed
      cases own.symm.trans same
      exact ⟨claims, isClaimed, rfl⟩
    · cases shown
      intro item member
      cases member
  · cases shown
    intro item member
    cases member

def onePoster : List ContentEvent :=
  publishing [{ assetId := uuid 0, position := 0, durationSeconds := 15 }] (uuid 3) (uuid 5)
    candidateDigest

def twoPosters : List ContentEvent :=
  publishing [{ assetId := uuid 0, position := 0, durationSeconds := 15 },
    { assetId := uuid 0, position := 1, durationSeconds := 15 }] (uuid 4) (uuid 6) posterChecksum

def manifestRun (events : List ContentEvent) : ContentPast × MemoryStore :=
  contentPast lobbyCms [] (.seeded team) events

/-- The screen and its manifest of 09:02. -/
def shownAt (events : List ContentEvent) (screenId : String) :
    Option (ScreenRecord × Manifest) := do
  let screen ← (manifestRun events).2.screens.find? (·.id == screenId)
  match unsignedManifest lobbyCms manifestRuntime lobbyConfig [] (manifestRun events).2 screen none
      none (mondayAt 9 + 120000) with
  | .ok manifest => some (screen, manifest)
  | .error _ => none

/-- The claims of a screen, when their texts are short. -/
def claimsAreShort (s : MemoryStore) (screen : ScreenRecord) : Bool :=
  match manifestClaims lobbyCms s screen none (mondayAt 9 + 120000) with
  | .ok all => all.all fun claims =>
      decide ((jsontext.write node.numerals claims.json).length ≤ 759)
  | .error _ => false

set_option maxRecDepth 10000 in
theorem the_posters_are_shown :
    ((shownAt onePoster (uuid 3)).any fun (screen, manifest) =>
      decide (manifest.items.map (·.asset.id)).Nodup && !manifest.withdrawn &&
        claimsAreShort (manifestRun onePoster).2 screen && screen.id != "") = true ∧
    ((shownAt twoPosters (uuid 4)).any fun (screen, manifest) =>
      !decide (manifest.items.map (·.asset.id)).Nodup && screen.id != "") = true := by
  decide +kernel

theorem mem_contentPast {P : Platform} {events : List ContentEvent} {past : ContentPast}
    {s : MemoryStore} {entry : MemoryStore × ContentEvent}
    (member : entry ∈ (contentPast P past s events).1) : entry ∈ past ∨ entry.2 ∈ events := by
  induction events generalizing past s with
  | nil => exact .inl member
  | cons event rest ih =>
    rcases ih member with old | later
    · rcases List.mem_append.mp old with old | new
      · exact .inl old
      · rw [List.mem_singleton.mp new]
        exact .inr List.mem_cons_self
    · exact .inr (List.mem_cons_of_mem _ later)

theorem publishing_accepted {items : List PlaylistItemInput} {screenId candidateId digest : String}
    (body : acceptedPlaylist { name := "Lobby", description := "", items } = true) :
    ∀ entry ∈ (manifestRun (publishing items screenId candidateId digest)).1,
      entry.2.Accepted := by
  intro entry member
  rcases mem_contentPast member with old | listed
  · cases old
  · simp only [publishing, List.mem_cons, List.not_mem_nil, or_false] at listed
    rcases listed with is | is | is | is | is | is | is
    case inr.inr.inl =>
      rw [is]
      exact body
    all_goals
      rw [is]
      trivial

theorem shownAt_spec {events : List ContentEvent} {screenId : String}
    {test : ScreenRecord × Manifest → Bool} (passes : (shownAt events screenId).any test = true) :
    ∃ screen manifest, unsignedManifest lobbyCms manifestRuntime lobbyConfig []
        (manifestRun events).2 screen none none (mondayAt 9 + 120000) = .ok manifest ∧
      test (screen, manifest) = true := by
  obtain ⟨⟨screen, manifest⟩, found, passes⟩ := (Option.any_eq_true _ _).mp passes
  refine ⟨screen, manifest, ?_, passes⟩
  obtain ⟨_, _, found⟩ := Option.bind_eq_some_iff.mp found
  split at found
  · next made =>
    cases found
    exact made
  · cases found

theorem claimsAreShort_spec {s : MemoryStore} {screen : ScreenRecord} {manifest : Manifest}
    (short : claimsAreShort s screen = true)
    (made : unsignedManifest lobbyCms manifestRuntime lobbyConfig [] s screen none none
      (mondayAt 9 + 120000) = .ok manifest) : ∀ item ∈ manifest.items, CapabilityFits item := by
  unfold claimsAreShort at short
  split at short
  · next all claimed =>
    intro item member token carries
    obtain ⟨claims, isClaimed, same⟩ := token_of_claims made rfl claimed item member
    rw [Option.some.inj (carries.symm.trans same)]
    exact short_issue node _ (of_decide_eq_true (List.all_eq_true.mp short claims isClaimed))
  · cases short

/-- The player takes the poster that is shown once, at any time from two minutes past nine on, and
never takes the one that is shown twice. -/
theorem the_player_takes_a_poster_that_is_shown_once :
    (∃ screen manifest, unsignedManifest lobbyCms manifestRuntime lobbyConfig []
        (manifestRun onePoster).2 screen none none (mondayAt 9 + 120000) = .ok manifest ∧
      manifest.withdrawn = false ∧ ∃ view, player.normalizeSignedPayload wallPlayer
        (mondayAt 9 + 120000) (some (object (manifest.fields lobbyCms))) true = .ok view) ∧
    ∃ screen manifest, unsignedManifest lobbyCms manifestRuntime lobbyConfig []
        (manifestRun twoPosters).2 screen none none (mondayAt 9 + 120000) = .ok manifest ∧
      ∀ now view, player.normalizeSignedPayload wallPlayer now
        (some (object (manifest.fields lobbyCms))) true ≠ .ok view := by
  obtain ⟨once, twice⟩ := the_posters_are_shown
  constructor
  · obtain ⟨screen, manifest, made, shown⟩ := shownAt_spec once
    simp only [Bool.and_eq_true, decide_eq_true_eq, Bool.not_eq_true', bne_iff_ne] at shown
    obtain ⟨⟨⟨apart, stays⟩, short⟩, named⟩ := shown
    have agrees := the_player_takes_a_manifest_whose_assets_are_apart
      (contentRun_of_events lobbyCms onePoster rfl (.seeded team))
      (publishing_accepted (by decide +kernel)) lobby_joined named (by simp [lobbyConfig]) made
      (mondayAt 9 + 120000)
    have now : manifest.generatedAt = mondayAt 9 + 120000 := by
      obtain ⟨_, _, same⟩ := bind_ok.mp made
      cases same
      rfl
    refine ⟨screen, manifest, made, stays, agrees.accepts.mpr
      ⟨?_, apart, claimsAreShort_spec short made⟩⟩
    rw [now]
    omega
  · obtain ⟨screen, manifest, made, shown⟩ := shownAt_spec twice
    simp only [Bool.and_eq_true, Bool.not_eq_true', decide_eq_false_iff_not, bne_iff_ne] at shown
    refine ⟨screen, manifest, made, ?_⟩
    intro now view accepted
    have agrees := the_player_takes_a_manifest_whose_assets_are_apart
      (contentRun_of_events lobbyCms twoPosters rfl (.seeded team))
      (publishing_accepted (by decide +kernel)) lobby_joined shown.2 (by simp [lobbyConfig]) made
      now
    exact shown.1 (agrees.accepts.mp ⟨view, accepted⟩).apart

end screengoblin.server
