-- The proof pairing of the player and its recovery record (`pair`, `resumePairing` and
-- `validatePendingProofPairing` in core/api.ts, the identity checks of core/device.ts). A step
-- goes from one wait to the next, and reads the clock once. A process can stop at each wait. What
-- was written stays, and the next process resumes from it.
import ScreenGoblin.BodyDigests
import ScreenGoblin.Base64Url

open jsvalues

namespace screengoblin.pairing

open bodies (property)

/-! ## Failures -/

inductive Kind where
  | aborted
  | timeout
  | network
  | http
  | protocol
  deriving DecidableEq

/-- A `PlayerApiFailure`. -/
structure Failure where
  message : String
  kind : Kind
  retryable : Bool
  status : Option Nat := none
  retryAfterMs : Option Int := none
  deriving DecidableEq

inductive Thrown where
  | failure (failure : Failure)
  | error (message : String)
  deriving DecidableEq

def protocolFailure (message : String) : Failure :=
  { message, kind := .protocol, retryable := false }

def cancelled : Failure :=
  { message := "Player API request was cancelled", kind := .aborted, retryable := false }

def expired : Failure :=
  { message := "Enrollment approval expired before activation", kind := .timeout,
    retryable := false }

/-! ## Values -/

/-- `value[key]` of a JSON value, where `undefined` is `none`. -/
def get (value : JsValue) (key : String) : Option JsValue :=
  match value with
  | .object _ fields _ => property (jsString key) fields
  | _ => none

/-- `value[key]`, if it is a string. -/
def getString (value : JsValue) (key : String) : Option JsString :=
  match get value key with
  | some (.string s) => some s
  | _ => none

def isObject : JsValue → Bool
  | .object _ _ _ | .array _ _ => true
  | _ => false

/-- Is each key of an object one of these? -/
def hasOnly (value : JsValue) (keys : List String) : Bool :=
  match value with
  | .object _ fields _ => fields.all fun field => (keys.map jsString).contains field.1
  | _ => true

/-- `[A-Za-z0-9_-]` -/
def isBase64UrlUnit (u : UInt16) : Bool :=
  (65 ≤ u && u ≤ 90) || (97 ≤ u && u ≤ 122) || (48 ≤ u && u ≤ 57) || u == 95 || u == 45

/-- `BASE64URL.test(value)` -/
def isBase64Url (value : JsString) : Bool := !value.isEmpty && value.all isBase64UrlUnit

def characters (value : JsString) : List Char := value.map fun u => Char.ofNat u.toNat

def units (text : List Char) : JsString := text.flatMap charUnits

/-- The bytes of a canonical base64url text, if there are so many. -/
def canonicalBase64UrlBytes (value : JsString) (minimumBytes maximumBytes : Nat) :
    Option (List UInt8) :=
  if !isBase64Url value || value.length % 4 == 1 then none
  else
    let binary := base64url.decode (characters value)
    if units (base64url.encode binary) = value ∧ minimumBytes ≤ binary.length ∧
        binary.length ≤ maximumBytes then some binary
    else none

def decodeCanonicalBase64Url (value : Option JsString) (name : String)
    (minimumBytes maximumBytes : Nat) : Except Failure (List UInt8) :=
  match value.bind fun s => canonicalBase64UrlBytes s minimumBytes maximumBytes with
  | some bytes => .ok bytes
  | none => .error (protocolFailure s!"{name} is not canonical base64url")

def validOpaqueId (value : Option JsString) : Bool :=
  match value with
  | some s => 1 ≤ s.length && s.length ≤ 64 && isBase64Url s
  | none => false

/-- `url.replace(/\/+$/, "")` -/
def trim (url : JsString) : JsString := (url.reverse.dropWhile (· == 47)).reverse

structure Url where
  protocol : String
  hostname : String
  username : String
  password : String
  search : String
  hash : String

/-- What the platform does: `new URL(value)`, the instant of a text that `toISOString` writes, the
digest of the Web Cryptography API, and the texts of numbers. -/
structure Platform where
  parseUrl : JsString → Option Url
  instantOf : JsString → Option Int
  sha256 : List UInt8 → List UInt8
  numbers : NumberTexts

variable (platform : Platform)

def secureApiBaseUrl (value : JsString) : Bool :=
  match platform.parseUrl value with
  | none => false
  | some url =>
    let isLocal := ["localhost", "127.0.0.1", "::1"].contains url.hostname
    (url.protocol == "https:" || (url.protocol == "http:" && isLocal)) && url.username == "" &&
      url.password == "" && url.search == "" && url.hash == ""

/-- `Number.isSafeInteger(value)` between two bounds -/
def isIntegerBetween (least most : Int) : Option JsValue → Bool
  | some (.number (.finite q)) => q.den == 1 && least ≤ q.num && q.num ≤ most
  | _ => false

/-- The time of a field, if it is written as `toISOString` writes it. -/
def timeOf (value : JsValue) (key : String) : Option Int :=
  (getString value key).bind platform.instantOf

/-! ## The identity of the device -/

structure DeviceIdentity where
  algorithm : JsString
  keyId : JsString
  publicKeySpki : JsString
  securityLevel : JsString
  deriving DecidableEq

def SECURITY_LEVELS : List String :=
  ["strongbox", "trusted-environment", "software", "unknown-secure", "unknown"]

def validateIdentity (identity : DeviceIdentity) : Except Thrown DeviceIdentity :=
  match canonicalBase64UrlBytes identity.publicKeySpki 80 128 with
  | none => .error (.error "Android returned an invalid device identity")
  | some publicKey =>
    if identity.algorithm ≠ jsString "ES256" ∨
        (canonicalBase64UrlBytes identity.keyId 32 32).isNone = true ∨
        identity.securityLevel ∉ SECURITY_LEVELS.map jsString then
      .error (.error "Android returned an invalid device identity")
    else if units (base64url.encode (platform.sha256 publicKey)) ≠ identity.keyId then
      .error (.error "Android device identity fingerprint does not match its public key")
    else .ok identity

/-- `getDeviceIdentity`, which gives nothing outside of Android. -/
def getDeviceIdentity (answer : Except Thrown (Option DeviceIdentity)) :
    Except Thrown (Option DeviceIdentity) :=
  match answer with
  | .error thrown => .error thrown
  | .ok none => .ok none
  | .ok (some identity) => (validateIdentity platform identity).map some

structure Signature where
  signature : JsString
  signatureFormat : JsString
  keyId : JsString

/-- `signDeviceChallenge` -/
def signDeviceChallenge (expectedKeyId : JsString) (answer : Except Thrown Signature) :
    Except Thrown Signature :=
  match answer with
  | .error thrown => .error thrown
  | .ok proof =>
    if proof.signatureFormat ≠ jsString "ES256-DER" ∨
        (canonicalBase64UrlBytes proof.signature 64 80).isNone = true ∨
        (canonicalBase64UrlBytes proof.keyId 32 32).isNone = true ∨
        proof.keyId ≠ expectedKeyId then
      .error (.error "Android device identity key changed while signing")
    else .ok proof

/-! ## Responses of the server -/

structure Challenge where
  id : JsString
  challenge : JsString

def validateChallenge (value : JsValue) (now : Int) : Except Failure Challenge :=
  let invalid := protocolFailure "Invalid device challenge response"
  match timeOf platform value "expiresAt" with
  | none => .error invalid
  | some expiresAt =>
    if expiresAt ≤ now then .error invalid
    else
      match decodeCanonicalBase64Url (getString value "id") "Device challenge ID" 32 32 with
      | .error failure => .error failure
      | .ok _ =>
        match decodeCanonicalBase64Url (getString value "challenge") "Device challenge" 16 512 with
        | .error failure => .error failure
        | .ok _ =>
          match getString value "id", getString value "challenge" with
          | some id, some challenge => .ok { id, challenge }
          | _, _ => .error invalid

def validatePairingResponse (response : JsValue) (expectedKeyId : JsString) :
    Except Failure JsValue :=
  let invalid := protocolFailure "Invalid proof pairing response"
  if getString response "authMode" ≠ some (jsString "proof-v1") ∨
      getString response "keyId" ≠ some expectedKeyId ∨
      validOpaqueId (getString response "screenId") = false ∨
      validOpaqueId (getString response "credentialId") = false ∨
      (getString response "apiBaseUrl").any (secureApiBaseUrl platform) = false ∨
      isIntegerBetween 5 86400 (get response "heartbeatIntervalSeconds") = false ∨
      (get response "deviceToken").isSome = true ∨
      hasOnly response ["authMode", "screenId", "credentialId", "keyId", "apiBaseUrl",
        "heartbeatIntervalSeconds", "manifestVerificationKey"] = false then .error invalid
  else
    match decodeCanonicalBase64Url (getString response "manifestVerificationKey")
      "Manifest verification key" 32 32 with
    | .error _ => .error invalid
    | .ok _ => .ok response

/-- A pending response, and its expiry. -/
def validatePendingPairingResponse (response : JsValue) (expectedKeyId : JsString) (now : Int) :
    Except Failure Int :=
  let invalid := protocolFailure "Invalid pending pairing response"
  match timeOf platform response "expiresAt" with
  | none => .error invalid
  | some expiresAt =>
    if getString response "status" ≠ some (jsString "pending-approval") ∨
        validOpaqueId (getString response "grantId") = false ∨
        validOpaqueId (getString response "candidateId") = false ∨
        getString response "keyId" ≠ some expectedKeyId ∨
        getString response "fingerprint" ≠ some expectedKeyId ∨ expiresAt ≤ now ∨
        hasOnly response ["status", "grantId", "candidateId", "keyId", "fingerprint", "expiresAt",
          "approval"] = false then .error invalid
    else
      match decodeCanonicalBase64Url (getString response "keyId") "Pending pairing key ID" 32 32
      with
      | .error failure => .error failure
      | .ok _ => .ok expiresAt

/-! ## The recovery record -/

inductive Stage where
  | prepared
  | pending
  | other
  deriving DecidableEq

/-- A `PendingProofPairing`. The expiry is the instant of a text that `toISOString` writes.
`otherKeys` says that the record has a property that is none of these. -/
structure Recovery where
  version : Int := 1
  stage : Stage
  apiBaseUrl : JsString
  finalBody : List Char
  expectedKeyId : JsString
  installationId : JsString
  expiresAt : Option Int
  approval : Option JsValue := none
  otherKeys : Bool := false

/-- `defaults.pairingApprovalMaxWaitMs` -/
def DEFAULT_APPROVAL_MAX_WAIT_MS : Int := 10 * 60000

def truthy : JsValue → Bool
  | .undefined | .null | .hole | .boolean false | .number .negativeZero | .number .nan => false
  | .number (.finite q) => q != 0
  | .string s => !s.isEmpty
  | _ => true

/-- `text.length` -/
def textLength (text : List Char) : Nat := (units text).length

def invalidRecord : Failure := protocolFailure "Invalid pending pairing recovery record"

/-- The checks of the record that do not look into its body or its approval. -/
def checkFields (record : Recovery) (expectedApiBaseUrl : JsString) (now : Int) : Bool :=
  record.version == 1 && record.stage != .other && secureApiBaseUrl platform record.apiBaseUrl &&
    trim record.apiBaseUrl == trim expectedApiBaseUrl && 1 ≤ textLength record.finalBody &&
    textLength record.finalBody ≤ 16384 && record.installationId == record.expectedKeyId &&
    (match record.expiresAt with
      | none => false
      | some expiresAt => now < expiresAt && expiresAt ≤ now + DEFAULT_APPROVAL_MAX_WAIT_MS) &&
    !record.otherKeys

def checkApproval (record : Recovery) (now : Int) : Except Failure Unit :=
  if record.stage = .pending ∧ record.approval.any truthy = false ∨
      record.stage = .prepared ∧ record.approval.isSome = true then .error invalidRecord
  else
    match record.approval with
    | none => .ok ()
    | some approval =>
      if truthy approval then
        match validatePendingPairingResponse platform approval record.expectedKeyId now with
        | .error failure => .error failure
        | .ok _ => .ok ()
      else .ok ()

/-- `/^\d{6}$/` -/
def isSixDigits (code : JsString) : Bool := code.length == 6 && code.all fun u => 48 ≤ u && u ≤ 57

/-- The binding of the body to the record. -/
def checkBinding (record : Recovery) (body device identity proof : JsValue) :
    Except Failure JsValue :=
  if !truthy device || !truthy identity || !truthy proof ||
      !(getString body "code").any isSixDigits ||
      getString device "installationId" != some record.installationId ||
      getString identity "keyId" != some record.expectedKeyId ||
      getString proof "keyId" != some record.expectedKeyId ||
      getString proof "signatureFormat" != some (jsString "ES256-DER") then .error invalidRecord
  else do
    let _ ← decodeCanonicalBase64Url (getString identity "publicKeySpki") "Pairing public key" 80
      128
    let _ ← decodeCanonicalBase64Url (getString proof "challengeId") "Pairing challenge ID" 32 32
    let _ ← decodeCanonicalBase64Url (getString proof "challenge") "Pairing challenge" 16 512
    let _ ← decodeCanonicalBase64Url (getString proof "signature") "Pairing signature" 64 80
    return body

def checkBody (record : Recovery) : Except Failure JsValue :=
  match parse platform.numbers record.finalBody with
  | none => .error invalidRecord
  | some body =>
    match canonicalJson platform.numbers body with
    | .error _ => .error invalidRecord
    | .ok text =>
      if text ≠ record.finalBody then .error invalidRecord
      else
        match get body "device", get body "identity", get body "pairingProof" with
        | some device, some identity, some proof => checkBinding record body device identity proof
        | _, _, _ => .error invalidRecord

def validatePendingProofPairing (record : Recovery) (expectedApiBaseUrl : JsString) (now : Int) :
    Except Failure JsValue :=
  if checkFields platform record expectedApiBaseUrl now = false then .error invalidRecord
  else
    match decodeCanonicalBase64Url (some record.expectedKeyId) "Pending pairing key ID" 32 32 with
    | .error failure => .error failure
    | .ok _ =>
      match checkApproval platform record now with
      | .error failure => .error failure
      | .ok () => checkBody platform record

/-! ## The bodies -/

structure Pairing where
  code : JsString
  installationId : JsString
  identity : DeviceIdentity

/-- An object of strings. -/
def stringObject (rows : List (String × JsString)) : JsValue :=
  .object true (rows.map fun row => (jsString row.1, .string row.2)) false

/-- A `PlayerApi` with its options. The constructor refuses waits below one millisecond. -/
structure Config where
  platform : Platform
  apiBaseUrl : JsString
  userAgent : JsString
  playerVersion : JsString
  pairingApprovalPollIntervalMs : Int := 15000
  pairingApprovalMaxWaitMs : Int := DEFAULT_APPROVAL_MAX_WAIT_MS
  poll_positive : 1 ≤ pairingApprovalPollIntervalMs
  wait_positive : 1 ≤ pairingApprovalMaxWaitMs

variable (config : Config)

def deviceValue (pairing : Pairing) : JsValue :=
  stringObject [("installationId", pairing.installationId), ("model", jsString "Android TV"),
    ("osVersion", config.userAgent), ("playerVersion", config.playerVersion)]

def identityValue (identity : DeviceIdentity) : JsValue :=
  stringObject [("algorithm", identity.algorithm), ("keyId", identity.keyId),
    ("publicKeySpki", identity.publicKeySpki), ("securityLevel", identity.securityLevel)]

def proofValue (challenge : Challenge) (signature : Signature) : JsValue :=
  stringObject [("challengeId", challenge.id), ("challenge", challenge.challenge),
    ("signature", signature.signature), ("signatureFormat", signature.signatureFormat),
    ("keyId", signature.keyId)]

def finalValue (pairing : Pairing) (challenge : Challenge) (signature : Signature) : JsValue :=
  .object true [(jsString "code", .string pairing.code),
    (jsString "device", deviceValue config pairing),
    (jsString "identity", identityValue pairing.identity),
    (jsString "pairingProof", proofValue challenge signature)] false

/-- `canonicalJson` of the final request -/
def finalBody (pairing : Pairing) (challenge : Challenge) (signature : Signature) :
    Except String (List Char) :=
  canonicalJson config.platform.numbers (finalValue config pairing challenge signature)

end screengoblin.pairing
