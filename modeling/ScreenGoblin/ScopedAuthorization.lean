-- Scoped authorization (apps/api/src/authorization/scoped.ts and policy.ts): grants are
-- evaluated for target screens, on values of any shape. The law at the end says which
-- evaluations are allowed, in terms of the grants and the targets alone.
import ScreenGoblin.ReleaseCanonical

open js collections screengoblin.server

namespace screengoblin.authorization

/-! ## Capabilities and roles -/

inductive Capability where
  | authorizationManage
  | screenRead
  | locationRead
  | mediaRead
  | playlistRead
  | scheduleRead
  | releaseCandidateRead
  | releaseCandidateCreate
  | releaseCandidateSubmit
  | releaseApprove
  | releasePublish
  | releaseWithdraw
  | screenCredentialRevoke
  | screenCredentialReenroll
  | emergencyActivate
  | emergencyClear
  deriving DecidableEq

def Capability.text : Capability → String
  | .authorizationManage => "authorization.manage"
  | .screenRead => "screen.read"
  | .locationRead => "location.read"
  | .mediaRead => "media.read"
  | .playlistRead => "playlist.read"
  | .scheduleRead => "schedule.read"
  | .releaseCandidateRead => "release.candidate.read"
  | .releaseCandidateCreate => "release.candidate.create"
  | .releaseCandidateSubmit => "release.candidate.submit"
  | .releaseApprove => "release.approve"
  | .releasePublish => "release.publish"
  | .releaseWithdraw => "release.withdraw"
  | .screenCredentialRevoke => "screen.credential.revoke"
  | .screenCredentialReenroll => "screen.credential.reenroll"
  | .emergencyActivate => "emergency.activate"
  | .emergencyClear => "emergency.clear"

def CAPABILITIES : List Capability :=
  [.authorizationManage, .screenRead, .locationRead, .mediaRead, .playlistRead, .scheduleRead,
   .releaseCandidateRead, .releaseCandidateCreate, .releaseCandidateSubmit, .releaseApprove,
   .releasePublish, .releaseWithdraw, .screenCredentialRevoke, .screenCredentialReenroll,
   .emergencyActivate, .emergencyClear]

/-- The capability that a value names. -/
def knownCapability (v : Value) : Option Capability :=
  CAPABILITIES.find? fun capability => v == some (.str capability.text)

def roleText : Role → String
  | .owner => "OWNER"
  | .admin => "ADMIN"
  | .publisher => "PUBLISHER"
  | .viewer => "VIEWER"

/-- The role that a value names. -/
def knownRole (v : Value) : Option Role :=
  [Role.owner, .admin, .publisher, .viewer].find? fun role => v == some (.str (roleText role))

def COMPATIBILITY_GRANT_CAPABILITIES : Role → List Capability
  | .owner | .admin =>
    [.screenRead, .locationRead, .mediaRead, .playlistRead, .scheduleRead, .releaseCandidateRead,
     .releaseCandidateCreate, .releaseCandidateSubmit, .releaseApprove, .releasePublish,
     .releaseWithdraw, .screenCredentialRevoke, .screenCredentialReenroll]
  | .publisher =>
    [.screenRead, .locationRead, .mediaRead, .playlistRead, .scheduleRead, .releaseCandidateRead,
     .releaseCandidateCreate, .releaseCandidateSubmit, .releasePublish, .releaseWithdraw]
  | .viewer =>
    [.screenRead, .locationRead, .mediaRead, .playlistRead, .scheduleRead, .releaseCandidateRead]

def ROLE_CAPABILITIES : Role → List Capability
  | .owner => .authorizationManage :: COMPATIBILITY_GRANT_CAPABILITIES .owner
  | role => COMPATIBILITY_GRANT_CAPABILITIES role

def hasCapability (role capability : Value) : Bool :=
  match knownRole role, knownCapability capability with
  | some role, some capability => (ROLE_CAPABILITIES role).contains capability
  | _, _ => false

def TARGET_SCOPED_CAPABILITIES : List Capability :=
  [.screenRead, .scheduleRead, .releaseCandidateRead, .releaseCandidateCreate,
   .releaseCandidateSubmit, .releaseApprove, .releasePublish, .releaseWithdraw,
   .screenCredentialRevoke, .screenCredentialReenroll]

def ORGANIZATION_SCOPED_CAPABILITIES : List Capability := [.locationRead, .mediaRead, .playlistRead]

inductive AuthorizationScopeType where
  | organization
  | location
  | screenGroup
  | screen
  deriving DecidableEq

def AuthorizationScopeType.text : AuthorizationScopeType → String
  | .organization => "ORGANIZATION"
  | .location => "LOCATION"
  | .screenGroup => "SCREEN_GROUP"
  | .screen => "SCREEN"

def knownScopeType (v : Value) : Option AuthorizationScopeType :=
  [AuthorizationScopeType.organization, .location, .screenGroup, .screen].find? fun scopeType =>
    v == some (.str scopeType.text)

/-! ## Inputs and decisions -/

inductive ScopedAuthorizationReason where
  | allowed
  | invalidContext
  | unknownCapability
  | roleCeilingDenied
  | targetsRequired
  | organizationScopeRequired
  | scopeDenied
  deriving DecidableEq

def ScopedAuthorizationReason.text : ScopedAuthorizationReason → String
  | .allowed => "ALLOWED"
  | .invalidContext => "INVALID_CONTEXT"
  | .unknownCapability => "UNKNOWN_CAPABILITY"
  | .roleCeilingDenied => "ROLE_CEILING_DENIED"
  | .targetsRequired => "TARGETS_REQUIRED"
  | .organizationScopeRequired => "ORGANIZATION_SCOPE_REQUIRED"
  | .scopeDenied => "SCOPE_DENIED"

/-- The fields of an evaluation. Any of them may hold any value. -/
structure ScopedAuthorizationEvaluationInput where
  organizationId : Value
  actorUserId : Value
  membershipId : Value
  role : Value
  authorizationEpoch : Value
  capability : Value
  evaluatedAt : Value
  grants : Value
  targets : Value
  deriving DecidableEq

structure ScopedAuthorizationDecision where
  allowed : Bool
  reason : ScopedAuthorizationReason
  matchingGrantIds : List String
  evidenceDigestSha256 : String
  deriving DecidableEq

structure NormalizedGrant where
  id : String
  subjectMembershipId : String
  scopeType : AuthorizationScopeType
  scopeId : Option String
  startsAt : String
  expiresAt : Option String
  deriving DecidableEq

structure NormalizedTarget where
  screenId : String
  locationId : Option String
  screenGroupIds : List String
  deriving DecidableEq

/-- The platform of the server, with the hash of the evidence. -/
structure EvidencePlatform extends Platform where
  /-- The SHA-256 of a text followed by `JSON.stringify(value)`, in hex. -/
  sha256After : String → Json → String

/-! ## Evidence -/

def EVIDENCE_DOMAIN : String := "ScreenGoblin scoped authorization evidence v1\n"

/-- A text, or `null`. -/
def textOrNull (text : Option String) : Json := text.elim .null .str

/-- `typeof value === "string" ? value : null`. -/
def stringOrNull (v : Value) : Json :=
  match v with
  | some (.str text) => .str text
  | _ => .null

def NormalizedTarget.json (target : NormalizedTarget) : Json :=
  object [("screenId", some (.str target.screenId)),
    ("locationId", some (textOrNull target.locationId)),
    ("screenGroupIds", some (.arr (target.screenGroupIds.map .str)))]

def NormalizedGrant.json (grant : NormalizedGrant) : Json :=
  object [("id", some (.str grant.id)),
    ("subjectMembershipId", some (.str grant.subjectMembershipId)),
    ("scopeType", some (.str grant.scopeType.text)),
    ("scopeId", some (textOrNull grant.scopeId)),
    ("startsAt", some (.str grant.startsAt)),
    ("expiresAt", some (textOrNull grant.expiresAt))]

/-- The order of `(a, b) => key(a).localeCompare(key(b))`. -/
def localeLe {α : Type} (P : Platform) (key : α → String) (a b : α) : Prop :=
  (P.localeCompare (key a) (key b)).isLE = true

instance {α : Type} (P : Platform) (key : α → String) : DecidableRel (localeLe P key) :=
  fun a b => inferInstanceAs (Decidable ((P.localeCompare (key a) (key b)).isLE = true))

/-- The instant of the evaluation is not part of the evidence. -/
def evidence (P : Platform) (input : ScopedAuthorizationEvaluationInput)
    (targets : List NormalizedTarget) (reason : ScopedAuthorizationReason)
    (grants : List NormalizedGrant) : Json :=
  object [("policyVersion", some (.num 1)),
    ("organizationId", input.organizationId),
    ("actorUserId", input.actorUserId),
    ("membershipId", input.membershipId),
    ("role", some (stringOrNull input.role)),
    ("authorizationEpoch", input.authorizationEpoch),
    ("capability", some (stringOrNull input.capability)),
    ("targets", some (.arr (targets.map NormalizedTarget.json))),
    ("grants", some (.arr
      ((grants.insertionSort (localeLe P NormalizedGrant.id)).map NormalizedGrant.json))),
    ("result", some (.str reason.text))]

def decision (P : EvidencePlatform) (input : ScopedAuthorizationEvaluationInput)
    (targets : List NormalizedTarget) (reason : ScopedAuthorizationReason)
    (grants : List NormalizedGrant) : ScopedAuthorizationDecision :=
  { allowed := reason == .allowed
    reason := reason
    matchingGrantIds := sortedSet TextLe (grants.map NormalizedGrant.id)
    evidenceDigestSha256 :=
      P.sha256After EVIDENCE_DOMAIN (evidence P.toPlatform input targets reason grants) }

/-! ## Targets and grants -/

/-- A string that is not empty. -/
def nonEmptyText : Value → Option String
  | some (.str text) => if text = "" then none else some text
  | _ => none

/-- `value == null`. -/
def isNullish : Value → Bool
  | none | some .null => true
  | _ => false

/-- `/^\d{4}-\d{2}-\d{2}T\d{2}:\d{2}:\d{2}\.\d{3}Z$/` -/
def canonicalUtcInstant (text : String) : Bool :=
  let pattern := "0000-00-00T00:00:00.000Z".toList
  text.toList.length == pattern.length &&
    (text.toList.zip pattern).all fun pair =>
      if pair.2 == '0' then pair.1.isDigit else pair.1 == pair.2

/-- An instant in its canonical spelling, with its milliseconds. -/
def normalizedInstant (P : Platform) : Value → Option (Int × String)
  | some (.str text) =>
    if canonicalUtcInstant text then
      match P.dateParse text with
      | some milliseconds =>
        if P.toISOString milliseconds = text then some (milliseconds, text) else none
      | none => none
    else none
  | _ => none

/-- A field that may be `undefined` or `null`, and else must be readable. -/
def optionalBy {α : Type} (read : Value → Option α) (v : Value) : Option (Option α) :=
  if isNullish v then some none else (read v).map some

def normalizeTarget (organizationId : Value) (target : Json) : Option NormalizedTarget := do
  guard ((Value.get (some target) "organizationId").strictEq organizationId)
  let screenId ← nonEmptyText (Value.get (some target) "screenId")
  let locationId ← optionalBy nonEmptyText (Value.get (some target) "locationId")
  guard (Value.get (some target) "screenGroupIds").isArray
  let groups ← (Value.get (some target) "screenGroupIds").elements.mapM fun id =>
    nonEmptyText (some id)
  some { screenId, locationId, screenGroupIds := sortedSet TextLe groups }

/-- The loop over the targets, with the screens seen before. -/
def normalizeTargetsFrom (organizationId : Value) :
    List String → List Json → Option (List NormalizedTarget)
  | _, [] => some []
  | seen, target :: rest => do
    let normalized ← normalizeTarget organizationId target
    guard (!seen.contains normalized.screenId)
    let others ← normalizeTargetsFrom organizationId (normalized.screenId :: seen) rest
    some (normalized :: others)

def normalizeTargets (P : Platform) (organizationId : Value) (targets : List Json) :
    Option (List NormalizedTarget) :=
  (normalizeTargetsFrom organizationId [] targets).map fun normalized =>
    normalized.insertionSort (localeLe P NormalizedTarget.screenId)

/-- A grant for the organization has no scope id, and any other grant has one. -/
def readScopeId (scopeType : AuthorizationScopeType) (v : Value) : Option (Option String) :=
  if scopeType = .organization then if isNullish v then some none else none
  else (nonEmptyText v).map some

def activeGrant (P : Platform) (input : ScopedAuthorizationEvaluationInput) (now : Int)
    (grant : Json) : Option NormalizedGrant := do
  let id ← nonEmptyText (Value.get (some grant) "id")
  let subjectMembershipId ← nonEmptyText (Value.get (some grant) "subjectMembershipId")
  guard ((Value.get (some grant) "organizationId").strictEq input.organizationId)
  guard ((Value.get (some grant) "subjectUserId").strictEq input.actorUserId)
  guard ((Value.get (some grant) "subjectMembershipId").strictEq input.membershipId)
  guard ((Value.get (some grant) "capability").strictEq input.capability)
  let scopeType ← knownScopeType (Value.get (some grant) "scopeType")
  guard (isNullish (Value.get (some grant) "revokedAt"))
  let startsAt ← normalizedInstant P (Value.get (some grant) "startsAt")
  let expiresAt ← optionalBy (normalizedInstant P) (Value.get (some grant) "expiresAt")
  guard (decide (startsAt.1 ≤ now) && expiresAt.all fun expiry => decide (now < expiry.1))
  let scopeId ← readScopeId scopeType (Value.get (some grant) "scopeId")
  some
    { id, subjectMembershipId, scopeType, scopeId, startsAt := startsAt.2,
      expiresAt := expiresAt.map fun expiry => expiry.2 }

def coversTarget (grant : NormalizedGrant) (target : NormalizedTarget) : Bool :=
  match grant.scopeType with
  | .organization => true
  | .location => target.locationId.isSome && target.locationId == grant.scopeId
  | .screenGroup => target.screenGroupIds.contains (grant.scopeId.getD "")
  | .screen => some target.screenId == grant.scopeId

/-! ## The evaluation -/

def isSafeEpoch (v : Value) : Bool := v.isSafeInteger && decide (0 ≤ v.number)

/-- The fields of the input that need no reading. -/
def hasValidFields (input : ScopedAuthorizationEvaluationInput) : Bool :=
  (nonEmptyText input.organizationId).isSome && (nonEmptyText input.actorUserId).isSome &&
    (nonEmptyText input.membershipId).isSome && isSafeEpoch input.authorizationEpoch &&
    input.grants.isArray

def activeGrants (P : Platform) (input : ScopedAuthorizationEvaluationInput) (now : Int) :
    List NormalizedGrant :=
  (input.grants.elements.filterMap (activeGrant P input now)).insertionSort
    (localeLe P NormalizedGrant.id)

/-- The first active grant that covers each target. -/
def selectGrants (active : List NormalizedGrant) (targets : List NormalizedTarget) :
    Option (List NormalizedGrant) :=
  targets.mapM fun target => active.find? fun grant => coversTarget grant target

/-- The evaluation of a known capability within the ceiling of the role. -/
def evaluateGrants (P : EvidencePlatform) (input : ScopedAuthorizationEvaluationInput)
    (targets : List NormalizedTarget) (active : List NormalizedGrant) (capability : Capability) :
    ScopedAuthorizationDecision :=
  if ¬(active.map NormalizedGrant.id).Nodup then decision P input targets .invalidContext []
  else if capability = .authorizationManage then decision P input targets .scopeDenied []
  else if ORGANIZATION_SCOPED_CAPABILITIES.contains capability then
    if targets ≠ [] then decision P input targets .organizationScopeRequired []
    else match active.find? fun grant => grant.scopeType == .organization with
      | some grant => decision P input targets .allowed [grant]
      | none => decision P input targets .scopeDenied []
  else if !TARGET_SCOPED_CAPABILITIES.contains capability then
    decision P input targets .roleCeilingDenied []
  else if targets = [] then decision P input targets .targetsRequired []
  else match selectGrants active targets with
    | some selected => decision P input targets .allowed selected
    | none => decision P input targets .scopeDenied []

def evaluateScopedAuthorization (P : EvidencePlatform)
    (input : ScopedAuthorizationEvaluationInput) : ScopedAuthorizationDecision :=
  let targets :=
    if input.targets.isArray then
      normalizeTargets P.toPlatform input.organizationId input.targets.elements
    else none
  match normalizedInstant P.toPlatform input.evaluatedAt, targets with
  | some evaluated, some targets =>
    if !hasValidFields input then decision P input targets .invalidContext []
    else match knownCapability input.capability with
      | none => decision P input targets .unknownCapability []
      | some capability =>
        if !hasCapability input.role input.capability then
          decision P input targets .roleCeilingDenied []
        else
          evaluateGrants P input targets (activeGrants P.toPlatform input evaluated.1) capability
  | _, targets => decision P input (targets.getD []) .invalidContext []


/-! ## What is allowed -/

def HasText (v : Value) (text : String) : Prop := v = some (.str text) ∧ text ≠ ""

def Absent (v : Value) : Prop := v = none ∨ v = some .null

/-- The value is the one canonical spelling of an instant. -/
def HasInstant (P : Platform) (v : Value) (t : Int) : Prop :=
  canonicalUtcInstant (P.toISOString t) = true ∧ v = some (.str (P.toISOString t))

/-- What a grant is for: an organization, or the screens of one place. -/
inductive Scope where
  | organization
  | location (id : String)
  | screenGroup (id : String)
  | screen (id : String)

/-- A screen, with its location and its groups. -/
structure ScreenTarget where
  screenId : String
  locationId : Option String
  groups : List String

def Scope.Covers (target : ScreenTarget) : Scope → Prop
  | .organization => True
  | .location id => target.locationId = some id
  | .screenGroup id => id ∈ target.groups
  | .screen id => target.screenId = id

/-- The value describes the screen, in the organization. -/
structure Describes (org : String) (v : Json) (target : ScreenTarget) : Prop where
  organization : Value.get (some v) "organizationId" = some (.str org)
  screen : HasText (Value.get (some v) "screenId") target.screenId
  location : (Absent (Value.get (some v) "locationId") ∧ target.locationId = none) ∨
    ∃ id, HasText (Value.get (some v) "locationId") id ∧ target.locationId = some id
  groups : Value.get (some v) "screenGroupIds" = some (.arr (target.groups.map .str))
  named : "" ∉ target.groups

inductive HasScope (v : Json) : Scope → Prop where
  | organization (type : Value.get (some v) "scopeType" = some (.str "ORGANIZATION"))
    (id : Absent (Value.get (some v) "scopeId")) : HasScope v .organization
  | location (scope : String) (type : Value.get (some v) "scopeType" = some (.str "LOCATION"))
    (id : HasText (Value.get (some v) "scopeId") scope) : HasScope v (.location scope)
  | screenGroup (scope : String)
    (type : Value.get (some v) "scopeType" = some (.str "SCREEN_GROUP"))
    (id : HasText (Value.get (some v) "scopeId") scope) : HasScope v (.screenGroup scope)
  | screen (scope : String) (type : Value.get (some v) "scopeType" = some (.str "SCREEN"))
    (id : HasText (Value.get (some v) "scopeId") scope) : HasScope v (.screen scope)

/-- Who asks for what, and when. -/
structure Request where
  organizationId : String
  actorUserId : String
  membershipId : String
  capability : Capability
  instant : Int

/-- The value is a grant of the request that is active at its instant. -/
structure ActiveGrant (P : Platform) (request : Request) (v : Json) (id : String)
    (scope : Scope) : Prop where
  identifier : HasText (Value.get (some v) "id") id
  organization : Value.get (some v) "organizationId" = some (.str request.organizationId)
  user : Value.get (some v) "subjectUserId" = some (.str request.actorUserId)
  membership : Value.get (some v) "subjectMembershipId" = some (.str request.membershipId)
  capability : Value.get (some v) "capability" = some (.str request.capability.text)
  unrevoked : Absent (Value.get (some v) "revokedAt")
  scope : HasScope v scope
  starts : ∃ t, t ≤ request.instant ∧ HasInstant P (Value.get (some v) "startsAt") t
  unexpired : Absent (Value.get (some v) "expiresAt") ∨
    ∃ t, request.instant < t ∧ HasInstant P (Value.get (some v) "expiresAt") t

/-- The input reads as the request, with these targets and these grants. -/
structure ValidContext (P : Platform) (input : ScopedAuthorizationEvaluationInput)
    (request : Request) (targets : List ScreenTarget) (grants : List Json) : Prop where
  organization : HasText input.organizationId request.organizationId
  actor : HasText input.actorUserId request.actorUserId
  membership : HasText input.membershipId request.membershipId
  epoch : ∃ n : Nat, (n : Rat) ≤ maxSafeInteger ∧ input.authorizationEpoch = some (.num n)
  instant : HasInstant P input.evaluatedAt request.instant
  described : ∃ values, input.targets = some (.arr values) ∧
    List.Forall₂ (Describes request.organizationId) values targets
  distinctScreens : (targets.map ScreenTarget.screenId).Nodup
  listed : input.grants = some (.arr grants)
  capability : input.capability = some (.str request.capability.text)
  distinctGrants : grants.Pairwise fun v v' => ∀ id scope scope',
    ActiveGrant P request v id scope → ¬ ActiveGrant P request v' id scope'

/-- The role of the input names a role that has the capability. -/
def WithinCeiling (input : ScopedAuthorizationEvaluationInput) (capability : Capability) : Prop :=
  ∃ role, input.role = some (.str (roleText role)) ∧ capability ∈ ROLE_CAPABILITIES role

/-- The specification of an allowed evaluation. -/
def Permitted (P : Platform) (input : ScopedAuthorizationEvaluationInput) : Prop :=
  ∃ request targets grants, ValidContext P input request targets grants ∧
    WithinCeiling input request.capability ∧ request.capability ≠ .authorizationManage ∧
    ((request.capability ∈ ORGANIZATION_SCOPED_CAPABILITIES ∧ targets = [] ∧
        ∃ v ∈ grants, ∃ id, ActiveGrant P request v id .organization) ∨
      (request.capability ∈ TARGET_SCOPED_CAPABILITIES ∧ targets ≠ [] ∧
        ∀ target ∈ targets, ∃ v ∈ grants, ∃ id scope,
          ActiveGrant P request v id scope ∧ scope.Covers target))

/-! ## Readings -/

theorem nonEmptyText_iff {v : Value} {text : String} :
    nonEmptyText v = some text ↔ HasText v text := by
  unfold HasText nonEmptyText
  constructor
  · intro h
    split at h
    · split at h
      · cases h
      · next nonEmpty =>
        cases h
        exact ⟨rfl, nonEmpty⟩
    · cases h
  · rintro ⟨rfl, nonEmpty⟩
    simp [nonEmpty]

theorem isNullish_iff {v : Value} : isNullish v = true ↔ Absent v := by
  unfold Absent isNullish
  constructor
  · intro h
    split at h
    · exact .inl rfl
    · exact .inr rfl
    · cases h
  · rintro (rfl | rfl) <;> rfl

theorem hasText_not_nullish {v : Value} {text : String} (h : HasText v text) :
    isNullish v = false := by
  obtain ⟨rfl, _⟩ := h
  rfl

theorem normalizedInstant_iff {P : Platform} {v : Value} {t : Int} {text : String} :
    normalizedInstant P v = some (t, text) ↔ HasInstant P v t ∧ text = P.toISOString t := by
  unfold HasInstant normalizedInstant
  constructor
  · intro h
    split at h
    · split at h
      · next text' shape =>
        split at h
        · next ms parsed =>
          split at h
          · next canonical =>
            cases h
            rw [canonical]
            exact ⟨⟨shape, rfl⟩, rfl⟩
          · cases h
        · cases h
      · cases h
    · cases h
  · rintro ⟨⟨shape, rfl⟩, rfl⟩
    simp [shape, P.dateParse_toISOString]

theorem strictEq_text {v : Value} {text : String} :
    v.strictEq (some (.str text)) = true ↔ v = some (.str text) := by
  cases v with
  | none => simp [Value.strictEq]
  | some j => cases j <;> simp [Value.strictEq]

theorem capabilityText_injective : Function.Injective Capability.text := by
  intro a b same
  cases a <;> cases b <;> first | rfl | exact absurd same (by decide)

theorem knownCapability_iff {v : Value} {capability : Capability} :
    knownCapability v = some capability ↔ v = some (.str capability.text) := by
  constructor
  · intro found
    simpa using List.find?_some found
  · rintro rfl
    cases capability <;> rfl

theorem knownRole_iff {v : Value} {role : Role} :
    knownRole v = some role ↔ v = some (.str (roleText role)) := by
  constructor
  · intro found
    simpa using List.find?_some found
  · rintro rfl
    cases role <;> rfl

theorem knownScopeType_iff {v : Value} {scopeType : AuthorizationScopeType} :
    knownScopeType v = some scopeType ↔ v = some (.str scopeType.text) := by
  constructor
  · intro found
    simpa using List.find?_some found
  · rintro rfl
    cases scopeType <;> rfl

/-! ## Targets -/

theorem texts_iff {values : List Json} {texts : List String} :
    (values.mapM fun v => nonEmptyText (some v)) = some texts ↔
      values = texts.map .str ∧ "" ∉ texts := by
  rw [mapM_eq_some_iff]
  constructor
  · intro h
    induction h with
    | nil => simp
    | cons found _ ih =>
      obtain ⟨same, nonEmpty⟩ := nonEmptyText_iff.mp found
      cases same
      simp [ih.1, ih.2, Ne.symm nonEmpty]
  · rintro ⟨rfl, nonEmpty⟩
    induction texts with
    | nil => exact .nil
    | cons text rest ih =>
      simp only [List.mem_cons, not_or] at nonEmpty
      exact .cons (nonEmptyText_iff.mpr ⟨rfl, Ne.symm nonEmpty.1⟩) (ih nonEmpty.2)

def ScreenTarget.normalized (target : ScreenTarget) : NormalizedTarget :=
  { screenId := target.screenId, locationId := target.locationId,
    screenGroupIds := sortedSet TextLe target.groups }

/-- An optional field is not there, or it is readable. -/
theorem optionalBy_iff {α : Type} {read : Value → Option α} (readable : ∀ v a, read v = some a →
    isNullish v = false) {v : Value} {value : Option α} :
    optionalBy read v = some value ↔
      (Absent v ∧ value = none) ∨ ∃ a, read v = some a ∧ value = some a := by
  unfold optionalBy
  by_cases nullish : isNullish v = true
  · have unread : ∀ a, read v ≠ some a := by
      intro a h
      rw [readable v a h] at nullish
      cases nullish
    simp only [nullish, if_true, Option.some.injEq, isNullish_iff.mp nullish, true_and, unread,
      false_and, exists_false, or_false]
    exact eq_comm
  · have notAbsent : ¬ Absent v := fun absent => nullish (isNullish_iff.mpr absent)
    simp only [nullish, Bool.false_eq_true, if_false, notAbsent, false_and, false_or,
      Option.map_eq_some_iff]
    constructor
    · rintro ⟨a, h, rfl⟩
      exact ⟨a, h, rfl⟩
    · rintro ⟨a, h, rfl⟩
      exact ⟨a, h, rfl⟩

theorem nonEmptyText_readable (v : Value) (text : String) (h : nonEmptyText v = some text) :
    isNullish v = false := hasText_not_nullish (nonEmptyText_iff.mp h)

theorem optionalText_iff {v : Value} {text : Option String} :
    optionalBy nonEmptyText v = some text ↔
      (Absent v ∧ text = none) ∨ ∃ t, HasText v t ∧ text = some t := by
  rw [optionalBy_iff nonEmptyText_readable]
  simp only [nonEmptyText_iff]

theorem isArray_iff {v : Value} : v.isArray = true ↔ ∃ values, v = some (.arr values) := by
  cases v with
  | none => simp [Value.isArray]
  | some j => cases j <;> simp [Value.isArray]

theorem normalizeTarget_iff {org : String} {v : Json} {normalized : NormalizedTarget} :
    normalizeTarget (some (.str org)) v = some normalized ↔
      ∃ target, Describes org v target ∧ normalized = target.normalized := by
  unfold normalizeTarget
  simp only [Option.bind_eq_bind, Option.bind_eq_some_iff, Option.guard_eq_some', exists_const,
    strictEq_text, nonEmptyText_iff, optionalText_iff, Option.some.injEq]
  constructor
  · rintro ⟨organization, screenId, screen, locationId, location, array, groups, read, rfl⟩
    obtain ⟨values, hvalues⟩ := isArray_iff.mp array
    rw [hvalues] at read
    obtain ⟨same, named⟩ := texts_iff.mp read
    change values = groups.map .str at same
    rw [same] at hvalues
    exact ⟨⟨screenId, locationId, groups⟩, ⟨organization, screen, location, hvalues, named⟩, rfl⟩
  · rintro ⟨target, described, rfl⟩
    refine ⟨described.organization, _, described.screen, _, described.location, ?_, target.groups,
      ?_, rfl⟩
    · exact isArray_iff.mpr ⟨_, described.groups⟩
    · rw [described.groups]
      exact texts_iff.mpr ⟨rfl, described.named⟩

/-- The loop reads each target, and asks for distinct screens. -/
theorem normalizeTargetsFrom_iff {organizationId : Value} {seen : List String}
    {values : List Json} {normalized : List NormalizedTarget} :
    normalizeTargetsFrom organizationId seen values = some normalized ↔
      List.Forall₂ (fun v target => normalizeTarget organizationId v = some target) values
          normalized ∧
        (normalized.map NormalizedTarget.screenId).Nodup ∧
        ∀ target ∈ normalized, target.screenId ∉ seen := by
  induction values generalizing seen normalized with
  | nil =>
    unfold normalizeTargetsFrom
    constructor
    · intro h
      cases h
      exact ⟨.nil, List.nodup_nil, by simp⟩
    · rintro ⟨read, _, _⟩
      cases read
      rfl
  | cons v rest ih =>
    unfold normalizeTargetsFrom
    simp only [Option.bind_eq_bind, Option.bind_eq_some_iff, Option.guard_eq_some', exists_const,
      ih, Option.some.injEq, Bool.not_eq_true', List.contains_eq_mem, decide_eq_false_iff_not]
    constructor
    · rintro ⟨target, first, unseen, others, ⟨read, distinct, new⟩, rfl⟩
      refine ⟨.cons first read, ?_, ?_⟩
      · rw [List.map_cons, List.nodup_cons]
        refine ⟨?_, distinct⟩
        intro again
        obtain ⟨other, hother, same⟩ := List.mem_map.mp again
        exact new other hother (by rw [same]; exact List.mem_cons_self)
      · intro other hother
        rcases List.mem_cons.mp hother with rfl | hother
        · exact unseen
        · exact fun old => new other hother (List.mem_cons_of_mem _ old)
    · rintro ⟨read, distinct, new⟩
      cases read with
      | cons first read =>
        rename_i target others
        rw [List.map_cons, List.nodup_cons] at distinct
        refine ⟨target, first, new target List.mem_cons_self, others, ⟨read, distinct.2, ?_⟩, rfl⟩
        intro other hother old
        rcases List.mem_cons.mp old with same | old
        · exact distinct.1 (List.mem_map.mpr ⟨other, hother, same⟩)
        · exact new other (List.mem_cons_of_mem _ hother) old

theorem described_iff {org : String} {values : List Json} {normalized : List NormalizedTarget} :
    List.Forall₂ (fun v target => normalizeTarget (some (.str org)) v = some target) values
        normalized ↔
      ∃ targets, List.Forall₂ (Describes org) values targets ∧
        normalized = targets.map ScreenTarget.normalized := by
  constructor
  · intro read
    induction read with
    | nil => exact ⟨[], .nil, rfl⟩
    | cons first _ ih =>
      obtain ⟨target, describes, rfl⟩ := normalizeTarget_iff.mp first
      obtain ⟨targets, described, rfl⟩ := ih
      exact ⟨target :: targets, .cons describes described, rfl⟩
  · rintro ⟨targets, described, rfl⟩
    induction described with
    | nil => exact .nil
    | cons describes _ ih => exact .cons (normalizeTarget_iff.mpr ⟨_, describes, rfl⟩) ih

/-- The targets are read in any order, and put in the order of their screens. -/
theorem normalizeTargets_iff {P : Platform} {org : String} {values : List Json}
    {normalized : List NormalizedTarget} :
    normalizeTargets P (some (.str org)) values = some normalized ↔
      ∃ targets, List.Forall₂ (Describes org) values targets ∧
        (targets.map ScreenTarget.screenId).Nodup ∧
        normalized = (targets.map ScreenTarget.normalized).insertionSort
          (localeLe P NormalizedTarget.screenId) := by
  have ids : ∀ targets : List ScreenTarget,
      (targets.map ScreenTarget.normalized).map NormalizedTarget.screenId =
        targets.map ScreenTarget.screenId := by
    intro targets
    rw [List.map_map]
    rfl
  unfold normalizeTargets
  simp only [Option.map_eq_some_iff, normalizeTargetsFrom_iff, described_iff, List.not_mem_nil,
    not_false_eq_true, implies_true, and_true]
  constructor
  · rintro ⟨_, ⟨⟨targets, described, rfl⟩, distinct⟩, rfl⟩
    rw [ids] at distinct
    exact ⟨targets, described, distinct, rfl⟩
  · rintro ⟨targets, described, distinct, rfl⟩
    rw [← ids] at distinct
    exact ⟨_, ⟨⟨targets, described, rfl⟩, distinct⟩, rfl⟩

/-! ## Grants -/

def Scope.type : Scope → AuthorizationScopeType
  | .organization => .organization
  | .location _ => .location
  | .screenGroup _ => .screenGroup
  | .screen _ => .screen

def Scope.id : Scope → Option String
  | .organization => none
  | .location id | .screenGroup id | .screen id => some id

/-- The normalized grant has the scope. -/
def ForScope (grant : NormalizedGrant) (scope : Scope) : Prop :=
  grant.scopeType = scope.type ∧ grant.scopeId = scope.id

theorem forScope_covers {grant : NormalizedGrant} {scope : Scope} (h : ForScope grant scope)
    (target : ScreenTarget) :
    coversTarget grant target.normalized = true ↔ scope.Covers target := by
  obtain ⟨type, id⟩ := h
  unfold coversTarget Scope.Covers ScreenTarget.normalized
  rw [type, id]
  cases scope with
  | organization => simp [Scope.type]
  | location id => cases target.locationId <;> simp [Scope.type, Scope.id]
  | screenGroup id => simp [Scope.type, Scope.id]
  | screen id => simp [Scope.type, Scope.id]

theorem scope_iff {v : Json} {scopeType : AuthorizationScopeType} {scopeId : Option String} :
    (Value.get (some v) "scopeType" = some (.str scopeType.text) ∧
        readScopeId scopeType (Value.get (some v) "scopeId") = some scopeId) ↔
      ∃ scope, HasScope v scope ∧ scopeType = scope.type ∧ scopeId = scope.id := by
  constructor
  · rintro ⟨type, read⟩
    unfold readScopeId at read
    cases scopeType with
    | organization =>
      simp only [if_true] at read
      split at read
      · next nullish =>
        cases read
        exact ⟨.organization, .organization type (isNullish_iff.mp nullish), rfl, rfl⟩
      · cases read
    | location =>
      obtain ⟨id, found, rfl⟩ := Option.map_eq_some_iff.mp read
      exact ⟨.location id, .location id type (nonEmptyText_iff.mp found), rfl, rfl⟩
    | screenGroup =>
      obtain ⟨id, found, rfl⟩ := Option.map_eq_some_iff.mp read
      exact ⟨.screenGroup id, .screenGroup id type (nonEmptyText_iff.mp found), rfl, rfl⟩
    | screen =>
      obtain ⟨id, found, rfl⟩ := Option.map_eq_some_iff.mp read
      exact ⟨.screen id, .screen id type (nonEmptyText_iff.mp found), rfl, rfl⟩
  · rintro ⟨scope, has, rfl, rfl⟩
    cases has with
    | organization type id =>
      refine ⟨type, ?_⟩
      simp [readScopeId, Scope.type, Scope.id, isNullish_iff.mpr id]
    | location scope type id =>
      refine ⟨type, ?_⟩
      simp [readScopeId, Scope.type, Scope.id, nonEmptyText_iff.mpr id]
    | screenGroup scope type id =>
      refine ⟨type, ?_⟩
      simp [readScopeId, Scope.type, Scope.id, nonEmptyText_iff.mpr id]
    | screen scope type id =>
      refine ⟨type, ?_⟩
      simp [readScopeId, Scope.type, Scope.id, nonEmptyText_iff.mpr id]

theorem normalizedInstant_readable (P : Platform) (v : Value) (instant : Int × String)
    (h : normalizedInstant P v = some instant) : isNullish v = false := by
  obtain ⟨⟨_, same⟩, _⟩ := normalizedInstant_iff.mp h
  rw [same]
  rfl

/-- An optional instant that is not over at `now`. -/
theorem unexpired_iff {P : Platform} {v : Value} {now : Int} :
    (∃ expiresAt, optionalBy (normalizedInstant P) v = some expiresAt ∧
        (expiresAt.all fun expiry => decide (now < expiry.1)) = true) ↔
      Absent v ∨ ∃ t, now < t ∧ HasInstant P v t := by
  simp only [optionalBy_iff (normalizedInstant_readable P)]
  constructor
  · rintro ⟨_, ⟨absent, rfl⟩ | ⟨⟨t, text⟩, read, rfl⟩, later⟩
    · exact .inl absent
    · exact .inr ⟨t, of_decide_eq_true later, (normalizedInstant_iff.mp read).1⟩
  · rintro (absent | ⟨t, later, has⟩)
    · exact ⟨none, .inl ⟨absent, rfl⟩, rfl⟩
    · exact ⟨_, .inr ⟨(t, P.toISOString t), normalizedInstant_iff.mpr ⟨has, rfl⟩, rfl⟩,
        decide_eq_true later⟩

/-- The fields of the input are those of the request. -/
structure Asks (input : ScopedAuthorizationEvaluationInput) (request : Request) : Prop where
  organization : input.organizationId = some (.str request.organizationId)
  actor : input.actorUserId = some (.str request.actorUserId)
  membership : HasText input.membershipId request.membershipId
  capability : input.capability = some (.str request.capability.text)

section
variable {P : Platform} {input : ScopedAuthorizationEvaluationInput} {request : Request}

theorem activeGrant_sound (asks : Asks input request) {v : Json} {grant : NormalizedGrant}
    (h : activeGrant P input request.instant v = some grant) :
    ∃ scope, ActiveGrant P request v grant.id scope ∧ ForScope grant scope := by
  unfold activeGrant at h
  simp only [Option.bind_eq_bind, Option.bind_eq_some_iff, Option.guard_eq_some', exists_const,
    asks.organization, asks.actor, asks.membership.1, asks.capability, strictEq_text,
    nonEmptyText_iff, knownScopeType_iff, isNullish_iff, Bool.and_eq_true, decide_eq_true_eq,
    Option.some.injEq] at h
  obtain ⟨id, identifier, _, _, organization, user, membership, capability, scopeType, type,
    unrevoked, starts, started, expiresAt, expiry, ⟨begun, later⟩, scopeId, read, rfl⟩ := h
  obtain ⟨scope, has, rfl, rfl⟩ := scope_iff.mp ⟨type, read⟩
  exact ⟨scope, ⟨identifier, organization, user, membership, capability, unrevoked, has,
    ⟨starts.1, begun, (normalizedInstant_iff.mp started).1⟩,
    unexpired_iff.mp ⟨expiresAt, expiry, later⟩⟩, rfl, rfl⟩

theorem activeGrant_complete (asks : Asks input request) {v : Json} {id : String} {scope : Scope}
    (active : ActiveGrant P request v id scope) :
    ∃ grant, activeGrant P input request.instant v = some grant ∧ grant.id = id ∧
      ForScope grant scope := by
  obtain ⟨type, read⟩ := scope_iff.mpr ⟨scope, active.scope, rfl, rfl⟩
  obtain ⟨starts, begun, started⟩ := active.starts
  obtain ⟨expiresAt, expiry, later⟩ := unexpired_iff.mpr active.unexpired
  refine ⟨⟨id, request.membershipId, scope.type, scope.id, P.toISOString starts,
    expiresAt.map fun expiry => expiry.2⟩, ?_, rfl, rfl, rfl⟩
  unfold activeGrant
  simp only [Option.bind_eq_bind, Option.bind_eq_some_iff, Option.guard_eq_some', exists_const,
    asks.organization, asks.actor, asks.membership.1, asks.capability, strictEq_text,
    nonEmptyText_iff, knownScopeType_iff, isNullish_iff, Bool.and_eq_true, decide_eq_true_eq]
  exact ⟨id, active.identifier, request.membershipId, ⟨active.membership, asks.membership.2⟩,
    active.organization, active.user, active.membership, active.capability, scope.type, type,
    active.unrevoked, _, normalizedInstant_iff.mpr ⟨started, rfl⟩, expiresAt, expiry,
    ⟨begun, later⟩, scope.id, read, rfl⟩

theorem mem_activeGrants {grant : NormalizedGrant} {now : Int} :
    grant ∈ activeGrants P input now ↔
      ∃ v ∈ input.grants.elements, activeGrant P input now v = some grant := by
  unfold activeGrants
  rw [List.mem_insertionSort, List.mem_filterMap]

/-- The identifiers of the active grants differ when no two grants are active under one. -/
theorem activeGrants_nodup (asks : Asks input request) :
    ((activeGrants P input request.instant).map NormalizedGrant.id).Nodup ↔
      input.grants.elements.Pairwise fun v v' => ∀ id scope scope',
        ActiveGrant P request v id scope → ¬ ActiveGrant P request v' id scope' := by
  unfold activeGrants
  rw [((List.perm_insertionSort _ _).map _).nodup_iff, List.Nodup, List.pairwise_map,
    List.pairwise_filterMap]
  constructor
  · intro h
    refine h.imp ?_
    intro v v' differ id scope scope' active active'
    obtain ⟨grant, read, same, _⟩ := activeGrant_complete asks active
    obtain ⟨grant', read', same', _⟩ := activeGrant_complete asks active'
    exact differ grant read grant' read' (by rw [same, same'])
  · intro h
    refine h.imp ?_
    intro v v' differ grant read grant' read' same
    obtain ⟨scope, active, _⟩ := activeGrant_sound asks read
    obtain ⟨scope', active', _⟩ := activeGrant_sound asks read'
    rw [same] at active
    exact differ _ scope scope' active active'

end

/-! ## The law of the evaluation -/

@[simp]
theorem decision_allowed (P : EvidencePlatform) (input : ScopedAuthorizationEvaluationInput)
    (targets : List NormalizedTarget) (reason : ScopedAuthorizationReason)
    (grants : List NormalizedGrant) :
    (decision P input targets reason grants).allowed = true ↔ reason = .allowed := by
  simp [decision]

theorem selectGrants_isSome {active : List NormalizedGrant} {targets : List NormalizedTarget} :
    (∃ selected, selectGrants active targets = some selected) ↔
      ∀ target ∈ targets, ∃ grant ∈ active, coversTarget grant target = true := by
  unfold selectGrants
  constructor
  · rintro ⟨selected, h⟩ target member
    obtain ⟨grant, _, found⟩ := mapM_mem h member
    exact ⟨grant, List.mem_of_find?_eq_some found, by simpa using List.find?_some found⟩
  · intro covered
    simp only [mapM_eq_some_iff]
    induction targets with
    | nil => exact ⟨[], .nil⟩
    | cons target rest ih =>
      obtain ⟨selected, others⟩ := ih fun other member =>
        covered other (List.mem_cons_of_mem _ member)
      have first : (active.find? fun grant => coversTarget grant target).isSome = true :=
        List.find?_isSome.mpr (covered target List.mem_cons_self)
      obtain ⟨grant, found⟩ := Option.isSome_iff_exists.mp first
      exact ⟨grant :: selected, .cons found others⟩

/-- No capability has both kinds of scope. -/
theorem scoped_once {capability : Capability} (target : capability ∈ TARGET_SCOPED_CAPABILITIES) :
    capability ∉ ORGANIZATION_SCOPED_CAPABILITIES := by
  cases capability <;> revert target <;> decide

theorem evaluateGrants_allowed {P : EvidencePlatform}
    {input : ScopedAuthorizationEvaluationInput} {targets : List NormalizedTarget}
    {active : List NormalizedGrant} {capability : Capability} :
    (evaluateGrants P input targets active capability).allowed = true ↔
      (active.map NormalizedGrant.id).Nodup ∧ capability ≠ .authorizationManage ∧
      ((capability ∈ ORGANIZATION_SCOPED_CAPABILITIES ∧ targets = [] ∧
          ∃ grant ∈ active, grant.scopeType = .organization) ∨
        (capability ∈ TARGET_SCOPED_CAPABILITIES ∧ targets ≠ [] ∧
          ∀ target ∈ targets, ∃ grant ∈ active, coversTarget grant target = true)) := by
  unfold evaluateGrants
  by_cases distinct : (active.map NormalizedGrant.id).Nodup
  case neg => simp [distinct]
  by_cases manage : capability = .authorizationManage
  case pos => simp [distinct, manage]
  by_cases org : capability ∈ ORGANIZATION_SCOPED_CAPABILITIES
  · have notTarget : capability ∉ TARGET_SCOPED_CAPABILITIES := fun target =>
      scoped_once target org
    by_cases none : targets = []
    · cases found : active.find? fun grant => grant.scopeType == .organization with
      | some grant =>
        have member := List.mem_of_find?_eq_some found
        have type := List.find?_some found
        simp only [beq_iff_eq] at type
        simp only [distinct, manage, org, none, notTarget, List.contains_eq_mem, decide_true,
          not_true_eq_false, if_false, if_true, ne_eq, decision_allowed, true_and, false_and,
          or_false, true_iff, not_false_eq_true]
        exact ⟨grant, member, type⟩
      | none =>
        have absent : ¬ ∃ grant ∈ active, grant.scopeType = .organization := by
          rintro ⟨grant, member, type⟩
          exact List.find?_eq_none.mp found grant member (by simp [type])
        simp [distinct, manage, org, none, notTarget, absent]
    · simp [distinct, manage, org, none, notTarget]
  · by_cases target : capability ∈ TARGET_SCOPED_CAPABILITIES
    · by_cases none : targets = []
      · simp [distinct, manage, org, target, none]
      · cases selection : selectGrants active targets with
        | some selected =>
          have covered := selectGrants_isSome.mp ⟨selected, selection⟩
          simp only [distinct, manage, org, target, none, List.contains_eq_mem, decide_true,
            decide_false, Bool.false_eq_true, Bool.not_true, not_true_eq_false, if_false, ne_eq,
            decision_allowed, not_false_eq_true, true_and, false_and, false_or, true_iff]
          exact covered
        | none =>
          have uncovered : ¬ ∀ target ∈ targets, ∃ grant ∈ active,
              coversTarget grant target = true := by
            intro covered
            obtain ⟨selected, h⟩ := selectGrants_isSome.mpr covered
            rw [selection] at h
            cases h
          simp only [distinct, manage, org, target, none, List.contains_eq_mem, decide_true,
            decide_false, Bool.false_eq_true, Bool.not_true, not_true_eq_false, if_false, ne_eq,
            decision_allowed, not_false_eq_true, true_and, false_and, false_or, uncovered,
            reduceCtorEq]
    · simp [distinct, manage, org, target]

/-- The context of an evaluation that gets as far as the ceiling of the role. -/
theorem evaluate_allowed {P : EvidencePlatform} {input : ScopedAuthorizationEvaluationInput} :
    (evaluateScopedAuthorization P input).allowed = true ↔
      ∃ t text targets capability,
        normalizedInstant P.toPlatform input.evaluatedAt = some (t, text) ∧
        input.targets.isArray = true ∧
        normalizeTargets P.toPlatform input.organizationId input.targets.elements =
          some targets ∧
        hasValidFields input = true ∧ knownCapability input.capability = some capability ∧
        hasCapability input.role input.capability = true ∧
        (evaluateGrants P input targets (activeGrants P.toPlatform input t)
          capability).allowed = true := by
  unfold evaluateScopedAuthorization
  constructor
  · intro h
    dsimp only at h
    split at h
    · next evaluated targets instant read =>
      by_cases array : input.targets.isArray = true
      case neg => simp [array] at read
      simp only [array, if_true] at read
      by_cases valid : hasValidFields input = true
      case neg => simp [valid] at h
      cases known : knownCapability input.capability with
      | none => simp [valid, known] at h
      | some capability =>
        by_cases capable : hasCapability input.role input.capability = true
        case neg => simp [valid, known, capable] at h
        simp only [valid, known, capable, Bool.not_true, Bool.false_eq_true, if_false] at h
        exact ⟨evaluated.1, evaluated.2, targets, capability, instant, array, read, valid, rfl,
          capable, h⟩
    · simp at h
  · rintro ⟨t, text, targets, capability, instant, array, read, valid, known, capable, allowed⟩
    simp only [instant, array, read, valid, known, capable, if_true, Bool.not_true,
      Bool.false_eq_true, if_false]
    exact allowed

theorem isSafeEpoch_iff {v : Value} :
    isSafeEpoch v = true ↔ ∃ n : Nat, (n : Rat) ≤ maxSafeInteger ∧ v = some (.num n) := by
  unfold isSafeEpoch
  constructor
  · intro h
    rw [Bool.and_eq_true, decide_eq_true_eq] at h
    obtain ⟨safe, nonNegative⟩ := h
    match v, safe, nonNegative with
    | some (.num q), safe, nonNegative =>
      simp only [Value.isSafeInteger, Bool.and_eq_true, beq_iff_eq, decide_eq_true_eq] at safe
      simp only [Value.number] at nonNegative
      have whole : (q.num : Rat) = q := Rat.coe_int_num_of_den_eq_one safe.1.1
      have positive : 0 ≤ q.num := Rat.num_nonneg.mpr nonNegative
      have natural : ((q.num.toNat : Nat) : Rat) = q := by
        have back : ((q.num.toNat : Nat) : Int) = q.num := Int.toNat_of_nonneg positive
        calc ((q.num.toNat : Nat) : Rat) = (((q.num.toNat : Nat) : Int) : Rat) := by push_cast; rfl
          _ = (q.num : Rat) := by rw [back]
          _ = q := whole
      exact ⟨q.num.toNat, by rw [natural]; exact safe.2, by rw [natural]⟩
  · rintro ⟨n, bound, rfl⟩
    have nonNegative : (0 : Rat) ≤ n := Rat.natCast_nonneg
    have lower : -maxSafeInteger ≤ (n : Rat) := Rat.le_trans (by decide) nonNegative
    simp [Value.isSafeInteger, Value.number, bound, lower, nonNegative]

theorem hasValidFields_iff {input : ScopedAuthorizationEvaluationInput} :
    hasValidFields input = true ↔
      (∃ org, HasText input.organizationId org) ∧ (∃ actor, HasText input.actorUserId actor) ∧
      (∃ membership, HasText input.membershipId membership) ∧
      (∃ n : Nat, (n : Rat) ≤ maxSafeInteger ∧ input.authorizationEpoch = some (.num n)) ∧
      ∃ grants, input.grants = some (.arr grants) := by
  unfold hasValidFields
  simp only [Bool.and_eq_true, Option.isSome_iff_exists, nonEmptyText_iff, isSafeEpoch_iff,
    isArray_iff, and_assoc]

theorem hasCapability_iff {role capability : Value} :
    hasCapability role capability = true ↔
      ∃ r c, role = some (.str (roleText r)) ∧ capability = some (.str c.text) ∧
        c ∈ ROLE_CAPABILITIES r := by
  unfold hasCapability
  constructor
  · intro h
    split at h
    · next r c foundRole foundCapability =>
      exact ⟨r, c, knownRole_iff.mp foundRole, knownCapability_iff.mp foundCapability,
        by simpa using h⟩
    · cases h
  · rintro ⟨r, c, role, capability, member⟩
    rw [knownRole_iff.mpr role, knownCapability_iff.mpr capability]
    simpa using member

/-- The covering of the normalized targets by the normalized grants is the covering of the
targets by the grants. -/
theorem covered_iff {P : Platform} {input : ScopedAuthorizationEvaluationInput}
    {request : Request} (asks : Asks input request) (target : ScreenTarget) :
    (∃ grant ∈ activeGrants P input request.instant,
        coversTarget grant target.normalized = true) ↔
      ∃ v ∈ input.grants.elements, ∃ id scope,
        ActiveGrant P request v id scope ∧ scope.Covers target := by
  constructor
  · rintro ⟨grant, member, covers⟩
    obtain ⟨v, hv, read⟩ := mem_activeGrants.mp member
    obtain ⟨scope, active, forScope⟩ := activeGrant_sound asks read
    exact ⟨v, hv, _, scope, active, (forScope_covers forScope target).mp covers⟩
  · rintro ⟨v, hv, id, scope, active, covers⟩
    obtain ⟨grant, read, _, forScope⟩ := activeGrant_complete asks active
    exact ⟨grant, mem_activeGrants.mpr ⟨v, hv, read⟩,
      (forScope_covers forScope target).mpr covers⟩

theorem organizationGrant_iff {P : Platform} {input : ScopedAuthorizationEvaluationInput}
    {request : Request} (asks : Asks input request) :
    (∃ grant ∈ activeGrants P input request.instant, grant.scopeType = .organization) ↔
      ∃ v ∈ input.grants.elements, ∃ id, ActiveGrant P request v id .organization := by
  constructor
  · rintro ⟨grant, member, type⟩
    obtain ⟨v, hv, read⟩ := mem_activeGrants.mp member
    obtain ⟨scope, active, forScope⟩ := activeGrant_sound asks read
    have same : scope = .organization := by
      rw [forScope.1] at type
      cases scope with
      | organization => rfl
      | location id => cases type
      | screenGroup id => cases type
      | screen id => cases type
    rw [same] at active
    exact ⟨v, hv, _, active⟩
  · rintro ⟨v, hv, id, active⟩
    obtain ⟨grant, read, _, forScope⟩ := activeGrant_complete asks active
    exact ⟨grant, mem_activeGrants.mpr ⟨v, hv, read⟩, forScope.1⟩

/-- The sound half: what the evaluator allows is permitted. -/
theorem permitted_of_allowed {P : EvidencePlatform} {input : ScopedAuthorizationEvaluationInput}
    (h : (evaluateScopedAuthorization P input).allowed = true) :
    Permitted P.toPlatform input := by
  rw [evaluate_allowed] at h
  obtain ⟨t, text, normalized, capability, instant, array, read, valid, known, capable, allowed⟩ := h
  obtain ⟨⟨org, organization⟩, ⟨actor, user⟩, ⟨member, membership⟩, epoch, grants, listed⟩ :=
    hasValidFields_iff.mp valid
  obtain ⟨values, hvalues⟩ := isArray_iff.mp array
  rw [organization.1, hvalues] at read
  obtain ⟨targets, described, distinct, rfl⟩ := normalizeTargets_iff.mp read
  have asked := knownCapability_iff.mp known
  let request : Request := ⟨org, actor, member, capability, t⟩
  have asks : Asks input request := ⟨organization.1, user.1, membership, asked⟩
  obtain ⟨distinctGrants, notManage, cases⟩ := evaluateGrants_allowed.mp allowed
  have elements : input.grants.elements = grants := by rw [listed]; rfl
  obtain ⟨role, c, hrole, hcapability, within⟩ := hasCapability_iff.mp capable
  have same : c = capability := by
    rw [asked] at hcapability
    simp only [Option.some.injEq, Json.str.injEq] at hcapability
    exact capabilityText_injective hcapability.symm
  refine ⟨request, targets, grants, ⟨organization, user, membership, epoch,
    (normalizedInstant_iff.mp instant).1, ⟨values, hvalues, described⟩, distinct, listed, asked,
    ?_⟩, ⟨role, hrole, by rw [same] at within; exact within⟩, notManage, ?_⟩
  · rw [← elements]
    exact (activeGrants_nodup asks).mp distinctGrants
  · rcases cases with ⟨kind, empty, grant⟩ | ⟨kind, nonEmpty, covered⟩
    · refine .inl ⟨kind, ?_, ?_⟩
      · have zero := congrArg List.length empty
        simpa using zero
      · rw [← elements]
        exact (organizationGrant_iff asks).mp grant
    · refine .inr ⟨kind, ?_, ?_⟩
      · rintro rfl
        exact nonEmpty rfl
      · intro target hmem
        rw [← elements]
        exact (covered_iff asks target).mp (covered _ ((List.mem_insertionSort _).mpr
          (List.mem_map_of_mem hmem)))

/-- The complete half: what is permitted is allowed. -/
theorem allowed_of_permitted {P : EvidencePlatform} {input : ScopedAuthorizationEvaluationInput}
    (h : Permitted P.toPlatform input) :
    (evaluateScopedAuthorization P input).allowed = true := by
  rw [evaluate_allowed]
  obtain ⟨request, targets, grants, valid, ⟨role, hrole, within⟩, notManage, cases⟩ := h
  obtain ⟨values, hvalues, described⟩ := valid.described
  have asks : Asks input request :=
    ⟨valid.organization.1, valid.actor.1, valid.membership, valid.capability⟩
  have elements : input.grants.elements = grants := by rw [valid.listed]; rfl
  refine ⟨request.instant, _, (targets.map ScreenTarget.normalized).insertionSort
    (localeLe P.toPlatform NormalizedTarget.screenId), request.capability,
    normalizedInstant_iff.mpr ⟨valid.instant, rfl⟩, isArray_iff.mpr ⟨values, hvalues⟩, ?_, ?_,
    knownCapability_iff.mpr valid.capability,
    hasCapability_iff.mpr ⟨role, _, hrole, valid.capability, within⟩, ?_⟩
  · rw [valid.organization.1, hvalues]
    exact normalizeTargets_iff.mpr ⟨targets, described, valid.distinctScreens, rfl⟩
  · exact hasValidFields_iff.mpr ⟨⟨_, valid.organization⟩, ⟨_, valid.actor⟩,
      ⟨_, valid.membership⟩, valid.epoch, _, valid.listed⟩
  · refine evaluateGrants_allowed.mpr ⟨?_, notManage, ?_⟩
    · rw [activeGrants_nodup asks, elements]
      exact valid.distinctGrants
    · rcases cases with ⟨kind, rfl, grant⟩ | ⟨kind, nonEmpty, covered⟩
      · refine .inl ⟨kind, rfl, ?_⟩
        rw [organizationGrant_iff asks, elements]
        exact grant
      · refine .inr ⟨kind, ?_, ?_⟩
        · intro empty
          have zero := congrArg List.length empty
          exact nonEmpty (by simpa using zero)
        · intro normalized hmem
          obtain ⟨target, htarget, rfl⟩ := List.mem_map.mp ((List.mem_insertionSort _).mp hmem)
          rw [covered_iff asks, elements]
          exact covered target htarget

/-- The evaluator allows exactly what the specification permits. -/
theorem an_evaluation_allows_what_is_permitted (P : EvidencePlatform)
    (input : ScopedAuthorizationEvaluationInput) :
    (evaluateScopedAuthorization P input).allowed = true ↔ Permitted P.toPlatform input := by
  constructor
  · intro allowed
    exact permitted_of_allowed allowed
  · intro permitted
    exact allowed_of_permitted permitted

end screengoblin.authorization
