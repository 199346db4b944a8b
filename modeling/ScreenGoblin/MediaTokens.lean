-- The exactness of the capabilities of the media delivery (apps/api/src/media/delivery.ts). The
-- runtime is Node's: the payload is the base64url of the UTF-8 of the JSON, the signature the
-- base64url of an HMAC. `verifyMediaCapability` means to refuse a third part, but takes an empty
-- one, so a token is also accepted with a dot after it. The route reads the capability of a request
-- (apps/api/src/routes/media-delivery.ts) by an expression with one dot, so it never passes such a
-- text on, and what it admits are the tokens.
import ScreenGoblin.Base64Url
import ScreenGoblin.JsonText
import ScreenGoblin.MediaDelivery

open js jsontext screengoblin.schedule

namespace screengoblin.server

/-! ## The runtime -/

/-- What the tokens take from Node: the texts of numbers, the HMAC-SHA-256, and the text that
`toString("utf8")` makes of bytes that are not UTF-8. -/
structure NodeRuntime where
  numerals : Numerals
  text_some : ∀ q, numerals.text q ≠ []
  exact : ∀ n : Int, -9007199254740991 ≤ n → n ≤ 9007199254740991 → numerals.Exact n
  hmac : String → String → List UInt8
  hmac_length : ∀ secret text, (hmac secret text).length = 32
  replaced : List UInt8 → String

/-- `Buffer.from(text)` -/
def utf8 (text : String) : List UInt8 := text.toByteArray.data.toList

namespace NodeRuntime

variable (R : NodeRuntime)

/-- `Buffer.from(bytes).toString("utf8")` -/
def utf8Text (bytes : List UInt8) : String :=
  match String.fromUTF8? ⟨bytes.toArray⟩ with
  | some text => text
  | none => R.replaced bytes

def encode (value : Json) : String :=
  String.ofList (base64url.encode (utf8 (stringify R.numerals value)))

/-- `JSON.parse(Buffer.from(payload, "base64url").toString("utf8"))` -/
def decode (payload : String) : Option Json :=
  parse R.numerals (R.utf8Text (base64url.decode payload.toList))

def CAPABILITY_PREFIX : String := "ScreenGoblin media delivery capability v2\n"

def signature (payload secret : String) : String :=
  String.ofList (base64url.encode (R.hmac secret (CAPABILITY_PREFIX ++ payload)))

theorem utf8Text_utf8 (text : String) : R.utf8Text (utf8 text) = text := by
  have valid : text.toByteArray.IsValidUTF8 := text.isValidUTF8
  have read : String.fromUTF8? text.toByteArray = some text := by
    unfold String.fromUTF8?
    rw [dif_pos valid]
    rfl
  unfold utf8Text utf8
  rw [Array.toArray_toList, read]

theorem decode_encode {value : Json} (proper : Proper R.numerals value) :
    R.decode (R.encode value) = some value := by
  unfold decode encode
  rw [String.toList_ofList, base64url.decode_encode, utf8Text_utf8, parse_stringify proper]

theorem isSegment_encode {bytes : List UInt8} (some : bytes ≠ []) :
    IsSegment (String.ofList (base64url.encode bytes)) := by
  constructor
  · intro none
    apply base64url.encode_ne_nil some
    rw [← String.toList_ofList (l := base64url.encode bytes), none]
    rfl
  · rw [String.toList_ofList]
    exact base64url.dot_notMem_encode bytes

theorem utf8_ne_nil {text : String} (some : text ≠ "") : utf8 text ≠ [] := by
  intro none
  apply some
  apply String.toByteArray_inj.mp
  apply ByteArray.ext
  exact Array.toList_inj.mp none

theorem write_ne_nil (value : Json) : write R.numerals value ≠ [] := by
  cases value with
  | null => exact List.cons_ne_nil _ _
  | bool b => cases b <;> exact List.cons_ne_nil _ _
  | num q => exact R.text_some q
  | str s => exact List.cons_ne_nil _ _
  | arr xs => exact List.cons_ne_nil _ _
  | obj fields => exact List.cons_ne_nil _ _

theorem isSegment_payload (value : Json) : IsSegment (R.encode value) := by
  apply isSegment_encode
  apply utf8_ne_nil
  intro none
  apply R.write_ne_nil value
  rw [← String.toList_ofList (l := write R.numerals value)]
  show (stringify R.numerals value).toList = []
  rw [none]
  rfl

theorem isSegment_signature (payload secret : String) : IsSegment (R.signature payload secret) := by
  apply isSegment_encode
  apply List.ne_nil_of_length_pos
  rw [R.hmac_length]
  omega

theorem exact_safeInteger {q : Rat} (safe : Value.isSafeInteger (numberJson q) = true) :
    R.numerals.Exact q := by
  obtain ⟨k, low, high, rfl⟩ := isSafeInteger_iff.mp safe
  exact R.exact k low high

/-- The claims are an object that JavaScript lists as it was written. -/
theorem proper_claims (claims : MediaDeliveryClaims)
    (safe : Value.isSafeInteger (numberJson claims.sizeBytes) = true) :
    Proper R.numerals claims.json := by
  have size : R.numerals.Exact claims.sizeBytes := R.exact_safeInteger safe
  have version : R.numerals.Exact 2 := R.exact 2 (by omega) (by omega)
  apply proper_object
  · show ["screenId", "organizationId", "credentialKeyId", "assignmentId",
      "assignmentDigestSha256", "assetId", "storageKey", "mimeType", "checksumSha256", "sizeBytes",
      "expiresAt", "version", "method", "transport"].Nodup
    decide
  · show ∀ key ∈ ["screenId", "organizationId", "credentialKeyId", "assignmentId",
      "assignmentDigestSha256", "assetId", "storageKey", "mimeType", "checksumSha256", "sizeBytes",
      "expiresAt", "version", "method", "transport"], arrayIndex key = none
    decide +kernel
  · intro f member v value
    simp only [List.mem_cons, List.not_mem_nil, or_false] at member
    rcases member with rfl | rfl | rfl | rfl | rfl | rfl | rfl | rfl | rfl | rfl | rfl | rfl |
      rfl | rfl
    case inr.inr.inl =>
      obtain ⟨key, _, made⟩ := Option.bind_eq_some_iff.mp value
      cases made
      trivial
    all_goals
      cases value
      first
      | exact trivial
      | assumption

/-- The runtime of the tokens. -/
def tokens : TokenRuntime where
  encode := R.encode
  decode := R.decode
  decode_encode claims safe := R.decode_encode (R.proper_claims claims safe)
  signature := R.signature
  encode_segment := R.isSegment_payload
  signature_segment := R.isSegment_signature

@[simp]
theorem tokens_decode (payload : String) : R.tokens.decode payload = R.decode payload := rfl

end NodeRuntime

/-! ## The parts of a text -/

theorem segmentsOf_ne_nil (cs : List Char) : segmentsOf cs ≠ [] := by
  cases cs with
  | nil => exact List.cons_ne_nil _ _
  | cons c rest =>
    unfold segmentsOf
    split
    · exact List.cons_ne_nil _ _
    · split <;> exact List.cons_ne_nil _ _

/-- The first part has no dot. It is the whole text, or a dot and the other parts follow. -/
theorem segmentsOf_cons {cs first : List Char} {others : List (List Char)}
    (parts : segmentsOf cs = first :: others) :
    '.' ∉ first ∧ (others = [] ∧ cs = first ∨
      ∃ rest, cs = first ++ '.' :: rest ∧ segmentsOf rest = others) := by
  induction cs generalizing first others with
  | nil =>
    cases parts
    exact ⟨List.not_mem_nil, Or.inl ⟨rfl, rfl⟩⟩
  | cons c rest ih =>
    unfold segmentsOf at parts
    by_cases dot : c = '.'
    · rw [if_pos dot] at parts
      cases parts
      exact ⟨List.not_mem_nil, Or.inr ⟨rest, by rw [dot]; rfl, rfl⟩⟩
    · rw [if_neg dot] at parts
      cases shape : segmentsOf rest with
      | nil => exact absurd shape (segmentsOf_ne_nil rest)
      | cons found others' =>
        rw [shape] at parts
        cases parts
        obtain ⟨noDot, split⟩ := ih shape
        constructor
        · rw [List.mem_cons, not_or]
          exact ⟨Ne.symm dot, noDot⟩
        · rcases split with ⟨none, whole⟩ | ⟨more, whole, later⟩
          · exact Or.inl ⟨none, by rw [whole]⟩
          · exact Or.inr ⟨more, by rw [whole]; rfl, later⟩

/-- The first two parts, and what follows them. -/
theorem segmentsOf_cons_cons {cs payload supplied : List Char} {extra : List (List Char)}
    (parts : segmentsOf cs = payload :: supplied :: extra) :
    '.' ∉ payload ∧ '.' ∉ supplied ∧ (extra = [] ∧ cs = payload ++ '.' :: supplied ∨
      ∃ rest, cs = payload ++ '.' :: (supplied ++ '.' :: rest) ∧ segmentsOf rest = extra) := by
  obtain ⟨noDot, split⟩ := segmentsOf_cons parts
  rcases split with ⟨none, _⟩ | ⟨afterPayload, whole, later⟩
  · cases none
  · obtain ⟨noDot', split⟩ := segmentsOf_cons later
    refine ⟨noDot, noDot', ?_⟩
    rcases split with ⟨none, same⟩ | ⟨rest, same, more⟩
    · exact Or.inl ⟨none, by rw [whole, same]⟩
    · exact Or.inr ⟨rest, by rw [whole, same], more⟩

/-! ## Tokens -/

section tokens

variable {P : Platform} {R : NodeRuntime} {secret : String} {now : Int}

/-- The claims are well formed and have not expired. -/
structure ValidClaims (P : Platform) (claims : MediaDeliveryClaims) (now : Int) : Prop where
  assignmentDigest : isLowerHex64 claims.assignmentDigestSha256 = true
  checksum : isLowerHex64 claims.checksumSha256 = true
  safe : Value.isSafeInteger (numberJson claims.sizeBytes) = true
  positive : 1 ≤ claims.sizeBytes
  unexpired : ∃ expiresAt, P.dateParse claims.expiresAt = some expiresAt ∧ now < expiresAt
  storageKey : mediaStorageKey claims.organizationId claims.assetId claims.checksumSha256 =
    .ok claims.storageKey

theorem acceptedClaims_iff {claims : MediaDeliveryClaims} :
    acceptedClaims P claims now = true ↔ ValidClaims P claims now := by
  unfold acceptedClaims
  simp only [Bool.and_eq_true, decide_eq_true_eq]
  constructor
  · rintro ⟨⟨⟨⟨⟨digest, checksum⟩, safe⟩, positive⟩, unexpired⟩, storageKey⟩
    refine ⟨digest, checksum, safe, positive, ?_, ?_⟩
    · split at unexpired
      · rename_i expiresAt date
        exact ⟨expiresAt, date, decide_eq_true_eq.mp unexpired⟩
      · cases unexpired
    · split at storageKey
      · rename_i key derived
        rw [derived, beq_iff_eq.mp storageKey]
      · cases storageKey
  · rintro ⟨digest, checksum, safe, positive, ⟨expiresAt, date, later⟩, storageKey⟩
    refine ⟨⟨⟨⟨⟨digest, checksum⟩, safe⟩, positive⟩, ?_⟩, ?_⟩
    · rw [date]
      exact decide_eq_true later
    · rw [storageKey]
      exact beq_self_eq_true _

/-- The payload is the JSON of the claims and of the fixed fields. -/
structure IsPayload (R : NodeRuntime) (payload : String) (claims : MediaDeliveryClaims) : Prop where
  segment : IsSegment payload
  parsed : ∃ parsed, R.decode payload = some parsed ∧
    Value.get (some parsed) "version" = numberJson 2 ∧
    Value.get (some parsed) "method" = textJson "GET" ∧
    Value.get (some parsed) "transport" = textJson "authorization-v1" ∧
    claimsOf (some parsed) = some claims

/-- The canonical form of a token: a payload, a dot, and the signature of this payload. -/
def IsToken (P : Platform) (R : NodeRuntime) (secret : String) (now : Int) (value : String)
    (claims : MediaDeliveryClaims) : Prop :=
  ∃ payload, value = payload ++ "." ++ R.signature payload secret ∧ IsPayload R payload claims ∧
    ValidClaims P claims now

/-- What may follow the first two parts of a text so that the third is empty. -/
def EmptyThird (rest : String) : Prop :=
  rest.toList = ['.'] ∨ ∃ more, rest.toList = '.' :: '.' :: more

theorem toList_token (payload supplied rest : String) :
    (payload ++ "." ++ supplied ++ rest).toList =
      payload.toList ++ '.' :: (supplied.toList ++ rest.toList) := by
  rw [String.toList_append, String.toList_append, String.toList_append, List.append_assoc,
    List.append_assoc]
  rfl

theorem claims_verified {parsed : Json} {claims : MediaDeliveryClaims} :
    (if Value.get (some parsed) "version" == numberJson 2 &&
        Value.get (some parsed) "method" == textJson "GET" &&
        Value.get (some parsed) "transport" == textJson "authorization-v1" then
      (claimsOf (some parsed)).filter fun claims => acceptedClaims P claims now
    else none) = some claims ↔
      Value.get (some parsed) "version" = numberJson 2 ∧
      Value.get (some parsed) "method" = textJson "GET" ∧
      Value.get (some parsed) "transport" = textJson "authorization-v1" ∧
      claimsOf (some parsed) = some claims ∧ ValidClaims P claims now := by
  rw [Option.ite_none_right_eq_some, Option.filter_eq_some_iff, acceptedClaims_iff]
  simp only [Bool.and_eq_true, beq_iff_eq, and_assoc]

/-- What is verified, by the parts of the text. -/
theorem verify_parts {value payload supplied : String} {extra : List String}
    {claims : MediaDeliveryClaims}
    (parts : (segmentsOf value.toList).map String.ofList = payload :: supplied :: extra) :
    verifyMediaCapability P R.tokens value secret now = some claims ↔
      payload ≠ "" ∧ supplied ≠ "" ∧ extra.head?.any (· != "") = false ∧
      supplied = R.signature payload secret ∧
      ∃ parsed, R.decode payload = some parsed ∧
        Value.get (some parsed) "version" = numberJson 2 ∧
        Value.get (some parsed) "method" = textJson "GET" ∧
        Value.get (some parsed) "transport" = textJson "authorization-v1" ∧
        claimsOf (some parsed) = some claims ∧ ValidClaims P claims now := by
  unfold verifyMediaCapability
  rw [parts]
  dsimp only
  by_cases refused : (payload == "" || supplied == "" || extra.head?.any (· != "")) = true
  · rw [if_pos refused]
    simp only [Bool.or_eq_true, beq_iff_eq] at refused
    constructor
    · intro none
      cases none
    · rintro ⟨payloadSome, suppliedSome, third, _⟩
      rcases refused with (none | none) | extra
      · exact absurd none payloadSome
      · exact absurd none suppliedSome
      · rw [extra] at third
        cases third
  · rw [if_neg refused]
    simp only [Bool.or_eq_true, beq_iff_eq, not_or, Bool.not_eq_true] at refused
    obtain ⟨⟨payloadSome, suppliedSome⟩, third⟩ := refused
    by_cases signed : supplied = R.signature payload secret
    · have same : (supplied != R.tokens.signature payload secret) = false := by
        rw [signed]
        exact bne_self_eq_false _
      rw [same, if_neg Bool.false_ne_true]
      simp only [Option.bind_eq_some_iff, claims_verified, NodeRuntime.tokens_decode]
      constructor
      · rintro ⟨parsed, isParsed, fields⟩
        exact ⟨payloadSome, suppliedSome, third, signed, parsed, isParsed, fields⟩
      · rintro ⟨_, _, _, _, parsed, isParsed, fields⟩
        exact ⟨parsed, isParsed, fields⟩
    · have other : (supplied != R.tokens.signature payload secret) = true := bne_iff_ne.mpr signed
      rw [if_pos other]
      constructor
      · intro none
        cases none
      · rintro ⟨_, _, _, same, _⟩
        exact absurd same signed

/-- A token is accepted, and it stays so when an empty third part follows. -/
theorem verify_token {token rest : String} {claims : MediaDeliveryClaims}
    (isToken : IsToken P R secret now token claims) (third : rest = "" ∨ EmptyThird rest) :
    verifyMediaCapability P R.tokens (token ++ rest) secret now = some claims := by
  obtain ⟨payload, rfl, ⟨⟨payloadSome, noDot⟩, parsed, isParsed, version, method, transport,
    isClaims⟩, valid⟩ := isToken
  obtain ⟨signatureSome, noDot'⟩ := R.isSegment_signature payload secret
  have verified (extra : List (List Char))
      (empty : (extra.map String.ofList).head?.any (· != "") = false)
      (parts : segmentsOf ((R.signature payload secret).toList ++ rest.toList) =
        (R.signature payload secret).toList :: extra) :
      verifyMediaCapability P R.tokens (payload ++ "." ++ R.signature payload secret ++ rest) secret
        now = some claims := by
    have texts : (segmentsOf (payload ++ "." ++ R.signature payload secret ++ rest).toList).map
        String.ofList = payload :: R.signature payload secret :: extra.map String.ofList := by
      rw [toList_token, segmentsOf_append noDot, parts]
      simp
    exact (verify_parts texts).mpr ⟨payloadSome, signatureSome, empty, rfl, parsed, isParsed,
      version, method, transport, isClaims, valid⟩
  rcases third with rfl | single | ⟨more, several⟩
  · apply verified [] rfl
    rw [String.toList_empty, List.append_nil, segmentsOf_noDot noDot']
  · apply verified [[]] rfl
    rw [single, segmentsOf_append noDot']
    rfl
  · apply verified ([] :: segmentsOf more) rfl
    rw [several, segmentsOf_append noDot']
    rfl

/-- A text is accepted if it is a token, alone or with an empty third part. -/
theorem verify_eq_some {value : String} {claims : MediaDeliveryClaims} :
    verifyMediaCapability P R.tokens value secret now = some claims ↔
      ∃ token rest, IsToken P R secret now token claims ∧ (rest = "" ∨ EmptyThird rest) ∧
        value = token ++ rest := by
  constructor
  · intro accepted
    match shape : segmentsOf value.toList with
    | [] | [_] =>
      unfold verifyMediaCapability at accepted
      rw [shape] at accepted
      cases accepted
    | payload :: supplied :: extra =>
      obtain ⟨_, _, split⟩ := segmentsOf_cons_cons shape
      have texts : (segmentsOf value.toList).map String.ofList =
          String.ofList payload :: String.ofList supplied :: extra.map String.ofList := by
        rw [shape]
        rfl
      obtain ⟨payloadSome, _, third, signed, parsed, isParsed, version, method, transport,
        isClaims, valid⟩ := (verify_parts texts).mp accepted
      have noDot : '.' ∉ (String.ofList payload).toList := by
        rw [String.toList_ofList]
        exact (segmentsOf_cons_cons shape).1
      have isPayload : IsPayload R (String.ofList payload) claims :=
        ⟨⟨payloadSome, noDot⟩, parsed, isParsed, version, method, transport, isClaims⟩
      have token : IsToken P R secret now
          (String.ofList payload ++ "." ++ String.ofList supplied) claims :=
        ⟨String.ofList payload, by rw [signed], isPayload, valid⟩
      refine ⟨String.ofList payload ++ "." ++ String.ofList supplied, ?_⟩
      rcases split with ⟨none, whole⟩ | ⟨rest, whole, more⟩
      · refine ⟨"", token, Or.inl rfl, ?_⟩
        apply String.toList_injective
        rw [whole, toList_token, String.toList_ofList, String.toList_ofList, String.toList_empty,
          List.append_nil]
      · refine ⟨String.ofList ('.' :: rest), token, Or.inr ?_, ?_⟩
        · unfold EmptyThird
          rw [String.toList_ofList]
          cases extra with
          | nil => exact absurd more (segmentsOf_ne_nil _)
          | cons empty later =>
            have isEmpty : empty = [] := by
              simpa [← String.toList_eq_nil_iff] using third
            obtain ⟨_, split⟩ := segmentsOf_cons more
            rw [isEmpty] at split
            rcases split with ⟨_, none⟩ | ⟨tail, some, _⟩
            · exact Or.inl (by rw [none])
            · exact Or.inr ⟨tail, by rw [some]; rfl⟩
        · apply String.toList_injective
          rw [whole, toList_token, String.toList_ofList, String.toList_ofList, String.toList_ofList]
  · rintro ⟨token, rest, isToken, third, rfl⟩
    exact verify_token isToken third

/-- The token at the start of a text is unique. -/
theorem token_unique {token token' rest rest' : String} {claims claims' : MediaDeliveryClaims}
    (isToken : IsToken P R secret now token claims)
    (isToken' : IsToken P R secret now token' claims')
    (same : token ++ rest = token' ++ rest') : token = token' ∧ rest = rest' := by
  obtain ⟨payload, rfl, ⟨⟨_, noDot⟩, _⟩, _⟩ := isToken
  obtain ⟨payload', rfl, ⟨⟨_, noDot'⟩, _⟩, _⟩ := isToken'
  have chars := congrArg String.toList same
  rw [toList_token, toList_token] at chars
  have parts := congrArg segmentsOf chars
  rw [segmentsOf_append noDot, segmentsOf_append noDot', List.cons.injEq] at parts
  have payloads : payload = payload' := String.toList_injective parts.1
  subst payloads
  refine ⟨rfl, ?_⟩
  apply String.toList_injective
  have tails := List.append_cancel_left chars
  rw [List.cons.injEq] at tails
  exact List.append_cancel_left tails.2

/-- An issued token is the token of its claims. -/
theorem isToken_issue {claims : MediaDeliveryClaims} (valid : ValidClaims P claims now) :
    IsToken P R secret now (issueMediaCapability R.tokens claims secret) claims := by
  refine ⟨R.encode claims.json, rfl, ⟨R.isSegment_payload _, claims.json, ?_, ?_⟩, valid⟩
  · exact R.decode_encode (R.proper_claims claims valid.safe)
  · refine ⟨?_, ?_, ?_, claimsOf_json claims⟩ <;>
    · unfold MediaDeliveryClaims.json
      simp

/-- Tokens are exact but for an empty third part: claims that are valid come back, and a text is
accepted only if it is a token, unless it is a token that an empty third part follows. -/
theorem tokens_are_exact_without_an_empty_third_part (P : Platform) (R : NodeRuntime)
    (secret : String) (now : Int) :
    (∀ claims, ValidClaims P claims now →
      verifyMediaCapability P R.tokens (issueMediaCapability R.tokens claims secret) secret now =
        some claims ∧
      R.decode (R.encode claims.json) = some claims.json) ∧
    (∀ value, (∀ claims, verifyMediaCapability P R.tokens value secret now = some claims →
        IsToken P R secret now value claims) ↔
      ¬∃ token rest claims, IsToken P R secret now token claims ∧ EmptyThird rest ∧
        value = token ++ rest) ∧
    ∀ claims appended, ValidClaims P claims now →
      (verifyMediaCapability P R.tokens (issueMediaCapability R.tokens claims secret ++ appended)
        secret now = none ↔ ¬(appended = "" ∨ EmptyThird appended)) := by
  refine ⟨?_, ?_, ?_⟩
  · intro claims valid
    constructor
    · exact verify_issue P R.tokens claims secret now (acceptedClaims_iff.mpr valid)
    · exact R.decode_encode (R.proper_claims claims valid.safe)
  · intro value
    constructor
    · rintro exact ⟨token, rest, claims, isToken, third, rfl⟩
      have whole := exact claims (verify_token isToken (Or.inr third))
      have none : "" = rest := (token_unique whole isToken String.append_empty).2
      rw [← none] at third
      rcases third with single | ⟨more, several⟩
      · cases single
      · cases several
    · intro clean claims accepted
      obtain ⟨token, rest, isToken, third, rfl⟩ := verify_eq_some.mp accepted
      rcases third with rfl | third
      · rwa [String.append_empty]
      · exact absurd ⟨token, rest, claims, isToken, third, rfl⟩ clean
  · intro claims appended valid
    have isToken : IsToken P R secret now (issueMediaCapability R.tokens claims secret) claims :=
      isToken_issue valid
    constructor
    · intro refused third
      rw [verify_token isToken third] at refused
      cases refused
    · intro third
      cases result : verifyMediaCapability P R.tokens
          (issueMediaCapability R.tokens claims secret ++ appended) secret now with
      | none => rfl
      | some other =>
        obtain ⟨token, rest, isToken', third', same⟩ := verify_eq_some.mp result
        rw [(token_unique isToken isToken' same).2] at third
        exact absurd third' third

end tokens

/-! ## A token with a dot after it -/

def posterClaims : MediaDeliveryClaims :=
  { screenId := uuid 3, organizationId := "acme", credentialKeyId := none, assignmentId := uuid 4,
    assignmentDigestSha256 := assignmentDigest, assetId := uuid 0,
    storageKey := "organizations/acme/assets/" ++ uuid 0 ++ "/" ++ posterChecksum,
    mimeType := "image/png", checksumSha256 := posterChecksum, sizeBytes := 2048,
    expiresAt := "2026-01-06T00:00:00.000Z" }

def posterSecret : String := "capability-secret-for-demonstration"

def posterPayload : String :=
  String.ofList (base64url.encode (utf8 (stringify integerNumerals posterClaims.json)))

/-- Node with the HMAC-SHA-256 of the payload of the example. -/
def node : NodeRuntime where
  numerals := integerNumerals
  text_some q := by
    exact (integerNumerals_exact q.num).2.1
  exact n _ _ := integerNumerals_exact n
  hmac secret text :=
    if secret = posterSecret ∧ text = NodeRuntime.CAPABILITY_PREFIX ++ posterPayload then
      [208, 53, 204, 96, 214, 174, 35, 52, 138, 146, 98, 101, 75, 158, 56, 78, 241, 28, 44, 79,
        254, 201, 123, 206, 220, 165, 74, 40, 180, 53, 131, 232]
    else List.replicate 32 0
  hmac_length secret text := by
    split <;> rfl
  replaced _ := "\uFFFD"

theorem posterClaims_valid : ValidClaims cms posterClaims (mondayAt 9) := by
  apply acceptedClaims_iff.mp
  decide +kernel

theorem the_token_of_the_poster_verifies :
    verifyMediaCapability cms node.tokens
      (issueMediaCapability node.tokens posterClaims posterSecret) posterSecret (mondayAt 9) =
        some posterClaims :=
  ((tokens_are_exact_without_an_empty_third_part cms node posterSecret (mondayAt 9)).1 posterClaims
    posterClaims_valid).1

/-- A dot after a token does not change what the token verifies as. -/
theorem a_dot_after_a_token_is_accepted :
    verifyMediaCapability cms node.tokens
        (issueMediaCapability node.tokens posterClaims posterSecret ++ ".") posterSecret
        (mondayAt 9) = some posterClaims ∧
      ∀ claims, ¬IsToken cms node posterSecret (mondayAt 9)
        (issueMediaCapability node.tokens posterClaims posterSecret ++ ".") claims := by
  have isToken : IsToken cms node posterSecret (mondayAt 9)
      (issueMediaCapability node.tokens posterClaims posterSecret) posterClaims :=
    isToken_issue posterClaims_valid
  constructor
  · exact verify_token isToken (Or.inr (Or.inl rfl))
  · intro claims whole
    have none : "" = "." := (token_unique whole isToken String.append_empty).2
    exact absurd none (by decide)

/-! ## The capability of a request -/

/-- `[A-Za-z0-9_-]{least,most}` -/
def isBase64UrlText (least most : Nat) (text : List Char) : Bool :=
  decide (least ≤ text.length) && decide (text.length ≤ most) && text.all isBase64Url

/-- `/^MediaCapability ([A-Za-z0-9_-]{1,4052}\.[A-Za-z0-9_-]{43})$/.exec(value)?.[1]` -/
def capabilityAuthorization (value : String) : Option String :=
  (value.toList.dropPrefix? "MediaCapability ".toList).bind fun token =>
    -- the expression has a dot and no other character takes one, so there are two parts
    match segmentsOf token with
    | [payload, supplied] =>
      if isBase64UrlText 1 4052 payload && isBase64UrlText 43 43 supplied then
        some (String.ofList token)
      else none
    | _ => none

/-- The values of the headers that are named `authorization`, in capital letters or not. The names
and the values of the headers stand in turns. -/
def authorizationValues : List String → List String
  | [] => []
  | [name] => if name.toLower == "authorization" then [""] else []
  | name :: value :: rawHeaders =>
    if name.toLower == "authorization" then value :: authorizationValues rawHeaders
    else authorizationValues rawHeaders

def readCapability (rawHeaders : List String) (url : String) : Option String :=
  if '?' ∈ url.toList then none
  else match authorizationValues rawHeaders with
    | [value] => capabilityAuthorization value
    | _ => none

/-- What the route takes the claims of a request for an asset to be, before it asks the store. -/
def claimsOfRequest (P : Platform) (T : TokenRuntime) (rawHeaders : List String)
    (url assetId secret : String) (now : Int) : Option MediaDeliveryClaims :=
  (readCapability rawHeaders url).bind fun capability =>
    if isSafeSegment assetId then
      (verifyMediaCapability P T capability secret now).filter (·.assetId == assetId)
    else none

/-- The texts that the expression captures. -/
def IsCapability (token : String) : Prop :=
  ∃ payload supplied, token.toList = payload ++ '.' :: supplied ∧
    isBase64UrlText 1 4052 payload = true ∧ isBase64UrlText 43 43 supplied = true

theorem isBase64UrlText_noDot {least most : Nat} {text : List Char}
    (isText : isBase64UrlText least most text = true) : '.' ∉ text := by
  intro dot
  unfold isBase64UrlText at isText
  rw [Bool.and_eq_true, List.all_eq_true] at isText
  exact absurd (isText.2 '.' dot) (by decide)

/-- A captured text has two parts. -/
theorem IsCapability.parts {token : String} (captured : IsCapability token) :
    ∃ payload supplied, segmentsOf token.toList = [payload, supplied] ∧
      isBase64UrlText 1 4052 payload = true ∧ isBase64UrlText 43 43 supplied = true := by
  obtain ⟨payload, supplied, whole, isPayload, isSupplied⟩ := captured
  refine ⟨payload, supplied, ?_, isPayload, isSupplied⟩
  rw [whole, segmentsOf_append (isBase64UrlText_noDot isPayload),
    segmentsOf_noDot (isBase64UrlText_noDot isSupplied)]

theorem capabilityAuthorization_eq_some {value token : String} :
    capabilityAuthorization value = some token ↔
      value = "MediaCapability " ++ token ∧ IsCapability token := by
  unfold capabilityAuthorization
  rw [Option.bind_eq_some_iff]
  constructor
  · rintro ⟨chars, dropped, captured⟩
    obtain ⟨scheme, whole, same⟩ := List.dropPrefix?_eq_some_iff.mp dropped
    rw [beq_iff_eq.mp same] at whole
    split at captured
    · rename_i payload supplied parts
      rw [Option.ite_none_right_eq_some, Bool.and_eq_true] at captured
      obtain ⟨⟨isPayload, isSupplied⟩, captured⟩ := captured
      cases captured
      constructor
      · apply String.toList_injective
        rw [whole, String.toList_append, String.toList_ofList (l := chars)]
      · obtain ⟨_, _, split⟩ := segmentsOf_cons_cons parts
        rcases split with ⟨_, joined⟩ | ⟨rest, _, none⟩
        · exact ⟨payload, supplied, by rw [String.toList_ofList, joined], isPayload, isSupplied⟩
        · exact absurd none (segmentsOf_ne_nil rest)
    · cases captured
  · rintro ⟨rfl, captured⟩
    refine ⟨token.toList, ?_, ?_⟩
    · apply List.dropPrefix?_eq_some_iff.mpr
      exact ⟨_, String.toList_append, beq_self_eq_true _⟩
    · obtain ⟨payload, supplied, parts, isPayload, isSupplied⟩ := captured.parts
      rw [parts]
      simp [isPayload, isSupplied]

theorem readCapability_eq_some {rawHeaders : List String} {url token : String} :
    readCapability rawHeaders url = some token ↔
      '?' ∉ url.toList ∧ authorizationValues rawHeaders = ["MediaCapability " ++ token] ∧
        IsCapability token := by
  unfold readCapability
  rw [Option.ite_none_left_eq_some]
  apply and_congr_right
  intro _
  split
  · rename_i value only
    rw [capabilityAuthorization_eq_some, only]
    simp
  · rename_i several
    constructor
    · intro none
      cases none
    · rintro ⟨only, _⟩
      exact absurd only (several _)

/-- What follows the token in a captured text is not an empty third part. -/
theorem IsCapability.noThird {P : Platform} {R : NodeRuntime} {secret token rest : String}
    {now : Int} {claims : MediaDeliveryClaims} (captured : IsCapability (token ++ rest))
    (isToken : IsToken P R secret now token claims) : ¬EmptyThird rest := by
  intro third
  obtain ⟨_, _, parts, _⟩ := captured.parts
  obtain ⟨payload, rfl, ⟨⟨_, noDot⟩, _⟩, _⟩ := isToken
  obtain ⟨_, noDot'⟩ := R.isSegment_signature payload secret
  have dotted : ∃ more, rest.toList = '.' :: more := by
    rcases third with single | ⟨more, several⟩
    · exact ⟨[], single⟩
    · exact ⟨'.' :: more, several⟩
  obtain ⟨more, dotted⟩ := dotted
  rw [toList_token, dotted, segmentsOf_append noDot, segmentsOf_append noDot'] at parts
  simp only [List.cons.injEq] at parts
  exact segmentsOf_ne_nil more parts.2.2

/-- A captured text verifies if it is a token. -/
theorem verify_capability {P : Platform} {R : NodeRuntime} {secret token : String} {now : Int}
    {claims : MediaDeliveryClaims} (captured : IsCapability token) :
    verifyMediaCapability P R.tokens token secret now = some claims ↔
      IsToken P R secret now token claims := by
  rw [verify_eq_some]
  constructor
  · rintro ⟨token, rest, isToken, none | third, rfl⟩
    · rwa [none, String.append_empty]
    · exact absurd third (captured.noThird isToken)
  · intro isToken
    exact ⟨token, "", isToken, Or.inl rfl, String.append_empty.symm⟩

/-- The route admits the claims of a token that is the only authorization of the request, and of no
other text. -/
theorem the_route_admits_tokens (P : Platform) (R : NodeRuntime) (rawHeaders : List String)
    (url assetId secret : String) (now : Int) (claims : MediaDeliveryClaims) :
    claimsOfRequest P R.tokens rawHeaders url assetId secret now = some claims ↔
      '?' ∉ url.toList ∧ isSafeSegment assetId = true ∧ claims.assetId = assetId ∧
      ∃ token, authorizationValues rawHeaders = ["MediaCapability " ++ token] ∧
        IsCapability token ∧ IsToken P R secret now token claims := by
  unfold claimsOfRequest
  simp only [Option.bind_eq_some_iff, readCapability_eq_some, Option.ite_none_right_eq_some,
    Option.filter_eq_some_iff, beq_iff_eq]
  constructor
  · rintro ⟨token, ⟨noQuery, only, captured⟩, safe, verified, asset⟩
    exact ⟨noQuery, safe, asset, token, only, captured, (verify_capability captured).mp verified⟩
  · rintro ⟨noQuery, safe, asset, token, only, captured, isToken⟩
    exact ⟨token, ⟨noQuery, only, captured⟩, safe, (verify_capability captured).mpr isToken, asset⟩

end screengoblin.server
