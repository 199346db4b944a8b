-- The laws of the recovery record. What `pair` and `resumePairing` store is accepted again until
-- it expires, as long as the code, the address, the length and the wait are within the bounds of
-- the check.
import ScreenGoblin.PairingSession

open jsvalues

namespace screengoblin.pairing

open bodies (property property_eq_some)

variable {platform : Platform} {config : Config}

/-! ## Records -/

/-- What the check asks of a record apart from its stage, its approval and the time. -/
structure Sealed (platform : Platform) (base : JsString) (r : Recovery) : Prop where
  version : r.version = 1
  secure : secureApiBaseUrl platform r.apiBaseUrl = true
  sameBase : trim r.apiBaseUrl = trim base
  length : 1 ≤ textLength r.finalBody ∧ textLength r.finalBody ≤ 16384
  installation : r.installationId = r.expectedKeyId
  noOthers : r.otherKeys = false
  key : ∃ bytes, decodeCanonicalBase64Url (some r.expectedKeyId) "Pending pairing key ID" 32 32 =
    .ok bytes
  body : ∃ body, checkBody platform r = .ok body

theorem checkFields_iff {r : Recovery} {base : JsString} {now : Int} :
    checkFields platform r base now = true ↔
      r.version = 1 ∧ r.stage ≠ .other ∧ secureApiBaseUrl platform r.apiBaseUrl = true ∧
        trim r.apiBaseUrl = trim base ∧
        (1 ≤ textLength r.finalBody ∧ textLength r.finalBody ≤ 16384) ∧
        r.installationId = r.expectedKeyId ∧
        (∃ e, r.expiresAt = some e ∧ now < e ∧ e ≤ now + DEFAULT_APPROVAL_MAX_WAIT_MS) ∧
        r.otherKeys = false := by
  unfold checkFields
  cases r.expiresAt <;> simp [and_assoc, and_left_comm]

/-- What an accepted record is. -/
theorem sealed_of_validate {r : Recovery} {base : JsString} {now : Int} {body : JsValue}
    (ok : validatePendingProofPairing platform r base now = .ok body) :
    Sealed platform base r ∧ r.stage ≠ .other ∧ checkBody platform r = .ok body ∧
      ∃ e, r.expiresAt = some e ∧ now < e ∧ e ≤ now + DEFAULT_APPROVAL_MAX_WAIT_MS := by
  unfold validatePendingProofPairing at ok
  split at ok
  · cases ok
  rename_i fields
  rw [Bool.not_eq_false, checkFields_iff] at fields
  obtain ⟨version, stage, secure, same, length, installation, timely, others⟩ := fields
  split at ok
  · cases ok
  rename_i bytes key
  split at ok
  · cases ok
  exact ⟨⟨version, secure, same, length, installation, others, ⟨bytes, key⟩, body, ok⟩, stage, ok,
    timely⟩

/-- A record that is sealed is accepted while it is timely and its approval is. -/
theorem Sealed.validate {r : Recovery} {base : JsString} {now e : Int}
    (isSealed : Sealed platform base r) (stage : r.stage ≠ .other) (expiry : r.expiresAt = some e)
    (early : now < e) (bounded : e ≤ now + DEFAULT_APPROVAL_MAX_WAIT_MS)
    (approval : checkApproval platform r now = .ok ()) :
    ∃ body, validatePendingProofPairing platform r base now = .ok body := by
  obtain ⟨bytes, key⟩ := isSealed.key
  obtain ⟨body, isBody⟩ := isSealed.body
  have fields : checkFields platform r base now = true := checkFields_iff.mpr
    ⟨isSealed.version, stage, isSealed.secure, isSealed.sameBase, isSealed.length,
      isSealed.installation, ⟨e, expiry, early, bounded⟩, isSealed.noOthers⟩
  refine ⟨body, ?_⟩
  unfold validatePendingProofPairing
  rw [fields, key, approval, isBody]
  rfl

/-- The seal does not depend on the stage, the approval and the expiry. -/
theorem Sealed.bounded {base : JsString} {session : Session}
    (isSealed : Sealed platform base session.recovery) (pending : JsValue) (expiresAt : Int) :
    Sealed platform base (boundedRecovery session pending expiresAt) :=
  ⟨isSealed.version, isSealed.secure, isSealed.sameBase, isSealed.length, isSealed.installation,
    isSealed.noOthers, isSealed.key, isSealed.body⟩

/-! ## Approvals -/

theorem truthy_of_getString {value : JsValue} {key : String} {s : JsString}
    (found : getString value key = some s) : truthy value = true := by
  unfold getString get at found
  cases value with
  | object plain fields unlisted => rfl
  | _ => cases found

theorem getString_status_of_pending {response : JsValue} {key : JsString} {now e : Int}
    (ok : validatePendingPairingResponse platform response key now = .ok e) :
    getString response "status" = some (jsString "pending-approval") ∧
      timeOf platform response "expiresAt" = some e ∧ now < e := by
  unfold validatePendingPairingResponse at ok
  dsimp only at ok
  split at ok
  · cases ok
  rename_i expiresAt time
  split at ok
  · cases ok
  rename_i fits
  split at ok
  · cases ok
  cases ok
  simp only [not_or, not_not, Int.not_le] at fits
  exact ⟨fits.1, time, fits.2.2.2.2.2.1⟩

theorem validatePairingResponse_key {response same : JsValue} {key : JsString}
    (ok : validatePairingResponse platform response key = .ok same) :
    same = response ∧ getString response "keyId" = some key := by
  unfold validatePairingResponse at ok
  dsimp only at ok
  split at ok
  · cases ok
  rename_i fits
  split at ok
  · cases ok
  cases ok
  simp only [not_or, not_not] at fits
  exact ⟨rfl, fits.2.1⟩

/-- A pending response is accepted until it expires. -/
theorem pending_later {response : JsValue} {key : JsString} {now later e : Int}
    (ok : validatePendingPairingResponse platform response key now = .ok e) (early : later < e) :
    validatePendingPairingResponse platform response key later = .ok e := by
  have before := (getString_status_of_pending ok).2.2
  unfold validatePendingPairingResponse at ok ⊢
  dsimp only at ok ⊢
  split at ok
  · cases ok
  rename_i expiresAt time
  split at ok
  · cases ok
  rename_i fits
  have same : expiresAt = e := by
    split at ok
    · cases ok
    · exact Except.ok.inj ok
  subst same
  rw [if_neg]
  · exact ok
  · simp only [not_or, not_not, Int.not_le] at fits ⊢
    exact ⟨fits.1, fits.2.1, fits.2.2.1, fits.2.2.2.1, fits.2.2.2.2.1, early, fits.2.2.2.2.2.2⟩

theorem checkApproval_prepared {r : Recovery} (prepared : r.stage = .prepared)
    (none : r.approval = none) (now : Int) : checkApproval platform r now = .ok () := by
  unfold checkApproval
  rw [prepared, none]
  rfl

theorem checkApproval_pending {r : Recovery} {response : JsValue} {now e : Int}
    (pending : r.stage = .pending) (approval : r.approval = some response)
    (ok : validatePendingPairingResponse platform response r.expectedKeyId now = .ok e) :
    checkApproval platform r now = .ok () := by
  have isTruthy := truthy_of_getString (getString_status_of_pending ok).1
  unfold checkApproval
  rw [pending, approval]
  simp [isTruthy, ok]

/-- The record is accepted at each time from `since` on until it expires. -/
def Durable (config : Config) (since : Int) (r : Recovery) : Prop :=
  ∀ now, since ≤ now → ∀ e, r.expiresAt = some e → now < e →
    ∃ body, validatePendingProofPairing config.platform r config.apiBaseUrl now = .ok body

theorem Durable.later {since later : Int} {r : Recovery} (durable : Durable config since r)
    (after : since ≤ later) : Durable config later r := by
  intro now from_ e expiry early
  exact durable now (by omega) e expiry early

/-- The record of a pending claim is durable. -/
theorem durable_bounded {session : Session} {response : JsValue} {clock e : Int}
    (isSealed : Sealed config.platform config.apiBaseUrl session.recovery)
    (deadline : session.pollingDeadline ≤ clock + DEFAULT_APPROVAL_MAX_WAIT_MS)
    (ok : validatePendingPairingResponse config.platform response session.recovery.expectedKeyId
      clock = .ok e) : Durable config clock (boundedRecovery session response e) := by
  intro now from_ bound expiry early
  have isBound : bound = min e session.pollingDeadline := (Option.some.inj expiry).symm
  have again := pending_later ok (by omega : now < e)
  exact (isSealed.bounded response e).validate (fun other => by cases other) expiry early (by omega)
    (checkApproval_pending rfl rfl again)

/-! ## The body of a prepared record -/

theorem get_sortKeys {fields : List (JsString × JsValue)} (unique : (fields.map (·.1)).Nodup)
    {key : String} {x : JsValue} {unlisted : Bool} (member : (jsString key, x) ∈ fields) :
    get (sortKeys (.object true fields unlisted)) key = some (sortKeys x) := by
  show property (jsString key) ((sortProperties fields).insertionSort keyLe) = _
  rw [property_eq_some (unique_sortKeys_properties unique), mem_sortKeys_properties]
  exact ⟨_, member, rfl⟩

theorem getString_sortKeys {rows : List (String × JsString)}
    (unique : (rows.map fun row => jsString row.1).Nodup) {key : String} {s : JsString}
    (member : (key, s) ∈ rows) :
    getString (sortKeys (stringObject rows)) key = some s := by
  unfold getString stringObject
  rw [get_sortKeys (x := .string s)]
  · rfl
  · rw [List.map_map]
    exact unique
  · exact List.mem_map.mpr ⟨(key, s), member, rfl⟩

theorem json_stringObject (rows : List (String × JsString)) : IsJson (stringObject rows) := by
  refine .node ⟨rfl, rfl⟩ ?_
  intro x member
  simp only [stringObject, children, List.map_map, List.mem_map, Function.comp] at member
  obtain ⟨row, _, rfl⟩ := member
  exact .leaf trivial rfl

theorem proper_stringObject {N : NumberTexts} {rows : List (String × JsString)}
    (unique : (rows.map fun row => jsString row.1).Nodup) : Proper N (stringObject rows) := by
  refine .node ?_ ?_
  · show ((rows.map fun row => (jsString row.1, JsValue.string row.2)).map (·.1)).Nodup
    rw [List.map_map]
    exact unique
  · intro x member
    simp only [stringObject, children, List.map_map, List.mem_map, Function.comp] at member
    obtain ⟨row, _, rfl⟩ := member
    exact .leaf trivial rfl

/-- The keys of each object of a final body are different. -/
theorem body_keys_different :
    ([jsString "installationId", jsString "model", jsString "osVersion",
      jsString "playerVersion"].Nodup ∧
    [jsString "algorithm", jsString "keyId", jsString "publicKeySpki",
      jsString "securityLevel"].Nodup ∧
    [jsString "challengeId", jsString "challenge", jsString "signature",
      jsString "signatureFormat", jsString "keyId"].Nodup ∧
    [jsString "code", jsString "device", jsString "identity", jsString "pairingProof"].Nodup) := by
  decide +kernel

section

variable {pairing : Pairing} {challenge : Challenge} {signature : Signature}

theorem json_finalValue (config : Config) (pairing : Pairing) (challenge : Challenge)
    (signature : Signature) : IsJson (finalValue config pairing challenge signature) := by
  refine .node ⟨rfl, rfl⟩ ?_
  intro x member
  simp only [finalValue, children, List.map_cons, List.map_nil, List.mem_cons, List.not_mem_nil,
    or_false] at member
  rcases member with rfl | rfl | rfl | rfl
  · exact .leaf trivial rfl
  · exact json_stringObject _
  · exact json_stringObject _
  · exact json_stringObject _

theorem proper_finalValue (config : Config) (pairing : Pairing) (challenge : Challenge)
    (signature : Signature) :
    Proper config.platform.numbers (finalValue config pairing challenge signature) := by
  obtain ⟨device, identity, proof, whole⟩ := body_keys_different
  refine .node whole ?_
  intro x member
  simp only [finalValue, children, List.map_cons, List.map_nil, List.mem_cons, List.not_mem_nil,
    or_false] at member
  rcases member with rfl | rfl | rfl | rfl
  · exact .leaf trivial rfl
  · exact proper_stringObject device
  · exact proper_stringObject identity
  · exact proper_stringObject proof

/-- The body is read as the value that it was made of, with its keys in order. -/
theorem read_finalBody {body : List Char}
    (made : finalBody config pairing challenge signature = .ok body) :
    parse config.platform.numbers body =
        some (sortKeys (finalValue config pairing challenge signature)) ∧
      canonicalJson config.platform.numbers
        (sortKeys (finalValue config pairing challenge signature)) = .ok body := by
  have json := json_finalValue config pairing challenge signature
  have proper := proper_finalValue config pairing challenge signature
  obtain ⟨text, read⟩ := canonicalJson_json json proper
  have made' : canonicalJson config.platform.numbers
      (finalValue config pairing challenge signature) = .ok body := made
  rw [text] at made'
  cases made'
  exact ⟨read, (canonicalJson_sortKeys json proper).trans text⟩


/-! ## The parts of a prepared record -/

theorem decode_of_isSome {s : JsString} {name : String} {a b : Nat}
    (isSome : (canonicalBase64UrlBytes s a b).isSome = true) :
    ∃ bytes, decodeCanonicalBase64Url (some s) name a b = .ok bytes := by
  obtain ⟨bytes, found⟩ := Option.isSome_iff_exists.mp isSome
  refine ⟨bytes, ?_⟩
  unfold decodeCanonicalBase64Url
  rw [Option.bind_some, found]

theorem isSome_of_decode {value : Option JsString} {s : JsString} {name : String} {a b : Nat}
    {bytes : List UInt8} (isValue : value = some s)
    (ok : decodeCanonicalBase64Url value name a b = .ok bytes) :
    (canonicalBase64UrlBytes s a b).isSome = true := by
  subst isValue
  unfold decodeCanonicalBase64Url at ok
  rw [Option.bind_some] at ok
  split at ok
  · rename_i found
    rw [found]
    rfl
  · cases ok

/-- What `pair` knows of its parts when it asks for the challenge. -/
structure PairingValid (pairing : Pairing) : Prop where
  code : isSixDigits pairing.code = true
  installation : pairing.installationId = pairing.identity.keyId
  key : (canonicalBase64UrlBytes pairing.identity.keyId 32 32).isSome = true
  publicKey : (canonicalBase64UrlBytes pairing.identity.publicKeySpki 80 128).isSome = true

structure ChallengeValid (challenge : Challenge) : Prop where
  id : (canonicalBase64UrlBytes challenge.id 32 32).isSome = true
  challenge : (canonicalBase64UrlBytes challenge.challenge 16 512).isSome = true

structure SignatureValid (keyId : JsString) (signature : Signature) : Prop where
  format : signature.signatureFormat = jsString "ES256-DER"
  key : signature.keyId = keyId
  bytes : (canonicalBase64UrlBytes signature.signature 64 80).isSome = true

theorem validateIdentity_valid {identity same : DeviceIdentity}
    (ok : validateIdentity platform identity = .ok same) :
    same = identity ∧ (canonicalBase64UrlBytes identity.keyId 32 32).isSome = true ∧
      (canonicalBase64UrlBytes identity.publicKeySpki 80 128).isSome = true := by
  unfold validateIdentity at ok
  split at ok
  · cases ok
  rename_i publicKey found
  split at ok
  · cases ok
  rename_i fits
  split at ok
  · cases ok
  cases ok
  simp only [not_or, Bool.not_eq_true, Option.isNone_eq_false_iff] at fits
  rw [found]
  exact ⟨rfl, fits.2.1, rfl⟩

theorem getDeviceIdentity_valid {answer : Except Thrown (Option DeviceIdentity)}
    {identity : DeviceIdentity} (ok : getDeviceIdentity platform answer = .ok (some identity)) :
    (canonicalBase64UrlBytes identity.keyId 32 32).isSome = true ∧
      (canonicalBase64UrlBytes identity.publicKeySpki 80 128).isSome = true := by
  unfold getDeviceIdentity at ok
  rcases answer with thrown | _ | given
  · cases ok
  · cases ok
  · dsimp only at ok
    cases valid : validateIdentity platform given with
    | error thrown =>
      rw [valid] at ok
      cases ok
    | ok same =>
      rw [valid] at ok
      cases ok
      obtain ⟨rfl, key, publicKey⟩ := validateIdentity_valid valid
      exact ⟨key, publicKey⟩

theorem validateChallenge_valid {value : JsValue} {now : Int} {challenge : Challenge}
    (ok : validateChallenge platform value now = .ok challenge) : ChallengeValid challenge := by
  unfold validateChallenge at ok
  dsimp only at ok
  split at ok
  · cases ok
  split at ok
  · cases ok
  split at ok
  · cases ok
  rename_i idBytes idOk
  split at ok
  · cases ok
  rename_i challengeBytes challengeOk
  split at ok
  · rename_i id text isId isText
    cases ok
    exact ⟨isSome_of_decode isId idOk, isSome_of_decode isText challengeOk⟩
  · cases ok

theorem signDeviceChallenge_valid {keyId : JsString} {answer : Except Thrown Signature}
    {signature : Signature} (ok : signDeviceChallenge keyId answer = .ok signature) :
    SignatureValid keyId signature := by
  unfold signDeviceChallenge at ok
  split at ok
  · cases ok
  split at ok
  · cases ok
  rename_i fits
  cases ok
  simp only [not_or, not_not, Bool.not_eq_true, Option.isNone_eq_false_iff] at fits
  exact ⟨fits.1, fits.2.2.2, fits.2.1⟩

theorem get_finalValue {key : String} {x : JsValue}
    (member : (key, x) ∈ [("code", JsValue.string pairing.code),
      ("device", deviceValue config pairing), ("identity", identityValue pairing.identity),
      ("pairingProof", proofValue challenge signature)]) :
    get (sortKeys (finalValue config pairing challenge signature)) key = some (sortKeys x) := by
  refine get_sortKeys (by exact body_keys_different.2.2.2) ?_
  have mapped := List.mem_map_of_mem (f := fun row : String × JsValue => (jsString row.1, row.2))
    member
  exact mapped

theorem signDeviceChallenge_answer {keyId : JsString} {answer : Except Thrown Signature}
    {signature : Signature} (ok : signDeviceChallenge keyId answer = .ok signature) :
    answer = .ok signature := by
  unfold signDeviceChallenge at ok
  split at ok
  · cases ok
  split at ok
  · cases ok
  · cases ok
    rfl

/-- The body of a prepared record is bound to it. -/
theorem checkBody_prepared {body : List Char} {now : Int} (pairs : PairingValid pairing)
    (challenges : ChallengeValid challenge)
    (signs : SignatureValid pairing.identity.keyId signature)
    (made : finalBody config pairing challenge signature = .ok body) :
    checkBody config.platform (preparedRecovery config pairing body now) =
      .ok (sortKeys (finalValue config pairing challenge signature)) := by
  obtain ⟨read, text⟩ := read_finalBody made
  obtain ⟨deviceKeys, identityKeys, proofKeys, -⟩ := body_keys_different
  have code : getString (sortKeys (finalValue config pairing challenge signature)) "code" =
      some pairing.code := by
    unfold getString
    rw [@get_finalValue config pairing challenge signature "code" (.string pairing.code) (by simp)]
    rfl
  have device := @get_finalValue config pairing challenge signature "device" _ (by simp; rfl)
  have identity := @get_finalValue config pairing challenge signature "identity" _ (by simp; rfl)
  have proof := @get_finalValue config pairing challenge signature "pairingProof" _ (by simp; rfl)
  have installed : getString (sortKeys (deviceValue config pairing)) "installationId" =
      some pairing.installationId := getString_sortKeys (by exact deviceKeys) (by simp)
  have keyed : getString (sortKeys (identityValue pairing.identity)) "keyId" =
      some pairing.identity.keyId := getString_sortKeys (by exact identityKeys) (by simp)
  have publicKey : getString (sortKeys (identityValue pairing.identity)) "publicKeySpki" =
      some pairing.identity.publicKeySpki := getString_sortKeys (by exact identityKeys) (by simp)
  have proofKey : getString (sortKeys (proofValue challenge signature)) "keyId" =
      some pairing.identity.keyId := by
    rw [← signs.key]
    exact getString_sortKeys (by exact proofKeys) (by simp)
  have proofFormat : getString (sortKeys (proofValue challenge signature)) "signatureFormat" =
      some (jsString "ES256-DER") := by
    rw [← signs.format]
    exact getString_sortKeys (by exact proofKeys) (by simp)
  have proofId : getString (sortKeys (proofValue challenge signature)) "challengeId" =
      some challenge.id := getString_sortKeys (by exact proofKeys) (by simp)
  have proofChallenge : getString (sortKeys (proofValue challenge signature)) "challenge" =
      some challenge.challenge := getString_sortKeys (by exact proofKeys) (by simp)
  have proofSignature : getString (sortKeys (proofValue challenge signature)) "signature" =
      some signature.signature := getString_sortKeys (by exact proofKeys) (by simp)
  obtain ⟨_, publicKeyOk⟩ := @decode_of_isSome _ "Pairing public key" _ _ pairs.publicKey
  obtain ⟨_, idOk⟩ := @decode_of_isSome _ "Pairing challenge ID" _ _ challenges.id
  obtain ⟨_, challengeOk⟩ := @decode_of_isSome _ "Pairing challenge" _ _ challenges.challenge
  obtain ⟨_, signatureOk⟩ := @decode_of_isSome _ "Pairing signature" _ _ signs.bytes
  unfold checkBody
  simp only [preparedRecovery, read, text, ne_eq, not_true_eq_false, if_false, device, identity,
    proof]
  unfold checkBinding
  simp only [truthy_of_getString installed, truthy_of_getString keyed, truthy_of_getString proofKey,
    code, installed, keyed, proofKey, proofFormat, publicKey, proofId, proofChallenge,
    proofSignature, publicKeyOk, idOk, challengeOk, signatureOk, Option.any_some, pairs.code,
    Bool.not_true, bne_self_eq_false, Bool.or_false, Bool.false_eq_true, if_false]
  rfl


theorem trim_trim (url : JsString) : trim (trim url) = trim url := by
  unfold trim
  rw [List.reverse_reverse, List.dropWhile_idempotent]

/-- A final body is not empty. -/
theorem textLength_finalBody {body : List Char}
    (made : finalBody config pairing challenge signature = .ok body) : 1 ≤ textLength body := by
  cases body with
  | nil =>
    have read : parse config.platform.numbers [] = some (.object true _ false) :=
      (read_finalBody made).1
    simp only [parse, readValue, jsontext.skipSpace, List.dropWhile_nil, readNumeral,
      List.takeWhile_nil] at read
    cases number : config.platform.numbers.value [] with
    | none => rw [number] at read; cases read
    | some n => rw [number] at read; cases read
  | cons c rest =>
    unfold textLength units charUnits
    rw [List.flatMap_cons, List.length_append]
    split <;> simp only [List.length_cons, List.length_nil] <;> omega

theorem sealed_prepared {body : List Char} {now : Int} (pairs : PairingValid pairing)
    (challenges : ChallengeValid challenge)
    (signs : SignatureValid pairing.identity.keyId signature)
    (made : finalBody config pairing challenge signature = .ok body)
    (secure : secureApiBaseUrl config.platform (trim config.apiBaseUrl) = true)
    (short : textLength body ≤ 16384) :
    Sealed config.platform config.apiBaseUrl (preparedRecovery config pairing body now) :=
  ⟨rfl, secure, trim_trim _, ⟨textLength_finalBody made, short⟩, pairs.installation, rfl,
    decode_of_isSome pairs.key, _, checkBody_prepared pairs challenges signs made⟩

/-- The record of a prepared proof is durable. -/
theorem durable_prepared {body : List Char} {clock : Int} (pairs : PairingValid pairing)
    (challenges : ChallengeValid challenge)
    (signs : SignatureValid pairing.identity.keyId signature)
    (made : finalBody config pairing challenge signature = .ok body)
    (secure : secureApiBaseUrl config.platform (trim config.apiBaseUrl) = true)
    (short : textLength body ≤ 16384)
    (wait : config.pairingApprovalMaxWaitMs ≤ DEFAULT_APPROVAL_MAX_WAIT_MS) :
    Durable config clock (preparedRecovery config pairing body clock) := by
  intro now from_ e expiry early
  have isExpiry : e = clock + config.pairingApprovalMaxWaitMs := (Option.some.inj expiry).symm
  exact (sealed_prepared pairs challenges signs made secure short).validate
    (fun other => by cases other) expiry early (by omega) (checkApproval_prepared rfl rfl now)

end

end screengoblin.pairing
