-- The records of the server (apps/api/src/domain/types.ts). The server writes its own
-- instants as canonical UTC texts, which order as the milliseconds they stand for, so
-- they are numbers of milliseconds here. A text from outside stays a text.
import ScreenGoblin.Json
import ScreenGoblin.Schedule

open js screengoblin.schedule

namespace screengoblin.server

/-! ## Users -/

inductive Role where
  | owner
  | admin
  | publisher
  | viewer
  deriving DecidableEq

/-- The capabilities that the store asks for. -/
inductive Capability where
  | releaseCandidateCreate
  | releaseCandidateSubmit
  | releaseApprove
  | releasePublish
  | releaseWithdraw
  deriving DecidableEq

/-- `ROLE_CAPABILITIES`, for these capabilities. A missing user has no role and may do nothing. -/
def hasCapability (role : Option Role) (capability : Capability) : Bool :=
  match role with
  | some .owner | some .admin => true
  | some .publisher => capability != .releaseApprove
  | some .viewer | none => false

/-- A membership of a user in an organization. A user has one record for each. -/
structure SessionUser where
  id : String
  passwordHash : String
  organizationId : String
  role : Role
  authenticationEpoch : Nat
  authorizationEpoch : Nat
  membershipId : Option String
  bootstrapPasswordExpiresAt : Option Int
  disabledAt : Option Int
  deriving DecidableEq

/-! ## Media, playlists and releases -/

inductive MediaKind where
  | image
  | video
  | web
  | template
  deriving DecidableEq

structure MediaRecord where
  id : String
  organizationId : String
  name : String
  kind : MediaKind
  mimeType : String
  url : String
  storageKey : Option String
  checksumSha256 : String
  sizeBytes : Rat
  expiresAt : Option String
  createdAt : Int
  updatedAt : Int
  deriving DecidableEq

structure PlaylistItem where
  id : String
  assetId : String
  position : Int
  durationSeconds : Int
  deriving DecidableEq

structure PlaylistRecord where
  id : String
  organizationId : String
  name : String
  description : String
  items : List PlaylistItem
  createdAt : Int
  updatedAt : Int
  deriving DecidableEq

structure ScheduleRecord extends FrozenScheduleSnapshot where
  id : String
  organizationId : String
  playlistId : String
  screenIds : List String
  releaseId : Option String
  assignmentId : Option String
  createdAt : Int
  updatedAt : Int
  deriving DecidableEq

structure FrozenReleaseAsset where
  id : String
  name : String
  kind : MediaKind
  mimeType : String
  url : String
  storageKey : Option String
  checksumSha256 : String
  sizeBytes : Rat
  createdAt : Int
  expiresAt : Option String
  deriving DecidableEq

structure FrozenReleaseItem where
  id : String
  asset : FrozenReleaseAsset
  position : Int
  durationSeconds : Int
  deriving DecidableEq

structure PublishedReleaseRecord where
  id : String
  organizationId : String
  sourcePlaylistId : String
  sourcePlaylistUpdatedAt : Int
  playlistName : String
  playlistDescription : String
  digestSha256 : String
  items : List FrozenReleaseItem
  createdById : String
  createdAt : Int
  deriving DecidableEq

inductive AssignmentState where
  | assigned
  | withdrawn
  deriving DecidableEq

structure ReleaseAssignmentRecord where
  id : String
  organizationId : String
  releaseId : String
  scheduleId : String
  screenIds : List String
  state : AssignmentState
  schedule : FrozenScheduleSnapshot
  digestSha256 : String
  previousAssignmentId : Option String
  createdById : String
  createdAt : Int
  deriving DecidableEq

/-! ## Release candidates -/

inductive ReleaseCandidateState where
  | draft
  | inReview
  | approved
  | published
  deriving DecidableEq

structure ReleaseApprovalRecord where
  id : String
  organizationId : String
  candidateId : String
  candidateDigestSha256 : String
  approverUserId : String
  authenticationEpoch : Nat
  authorizationEpoch : Nat
  approvedAt : Int
  deriving DecidableEq

structure ReleaseCandidateRecord where
  id : String
  organizationId : String
  releaseId : String
  releaseDigestSha256 : String
  sourcePlaylistId : String
  state : ReleaseCandidateState
  digestSha256 : String
  authorUserId : String
  items : List FrozenReleaseItem
  schedule : FrozenScheduleSnapshot
  screenIds : List String
  policyVersion : Nat
  expiresAt : Int
  submittedAt : Option Int
  approvedAt : Option Int
  publishedAt : Option Int
  scheduleId : Option String
  assignmentId : Option String
  approval : Option ReleaseApprovalRecord
  createdAt : Int
  deriving DecidableEq

inductive ReleaseOperation where
  | create
  | submit
  | approve
  | publish
  deriving DecidableEq

/-- The record of a completed command, under its idempotency key. -/
structure ReleaseIdempotencyRecord where
  organizationId : String
  operation : ReleaseOperation
  keyHash : String
  actorUserId : String
  requestDigestSha256 : String
  expiresAt : Int
  response : Option ReleaseCandidateRecord
  deriving DecidableEq

/-! ## Screens and device credentials -/

inductive ScreenStatus where
  | online
  | warning
  | offline
  | fallback
  deriving DecidableEq

inductive Orientation where
  | landscape
  | portrait
  deriving DecidableEq

structure ScreenRecord where
  id : String
  organizationId : String
  name : String
  location : String
  locationId : Option String
  locationName : Option String
  status : ScreenStatus
  orientation : Orientation
  resolution : String
  tags : List String
  installationId : Option String
  deviceTokenHash : Option String
  model : Option String
  osVersion : Option String
  playerVersion : Option String
  manifestVersion : Option String
  nowPlayingAssetId : Option String
  uptimeSeconds : Option Rat
  freeStorageBytes : Option Rat
  networkType : Option String
  lastSeenAt : Option Int
  credentialRevokedAt : Option Int
  credentialGeneration : Option Nat
  createdAt : Int
  updatedAt : Int
  deriving DecidableEq

structure LocationRecord where
  id : String
  organizationId : String
  name : String
  createdAt : Int
  updatedAt : Int
  deriving DecidableEq

inductive PairingStatus where
  | pending
  | claimed
  | expired
  | revoked
  deriving DecidableEq

inductive PairingPurpose where
  | newScreen
  | reenroll
  deriving DecidableEq

/-- A pairing code. With a target screen it is the grant of an enrollment. -/
structure PairingRecord where
  id : String
  organizationId : String
  codeHash : String
  expiresAt : Int
  claimedAt : Option Int
  status : PairingStatus
  screenId : Option String
  purpose : Option PairingPurpose
  targetScreenId : Option String
  expectedGeneration : Option Nat
  authorizedByUserId : Option String
  authorizedByMembershipId : Option String
  authorizedByAuthenticationEpoch : Option Nat
  authorizedByAuthorizationEpoch : Option Nat
  priorCredentialId : Option String
  requestReason : Option String
  createdAt : Option Int
  deriving DecidableEq

inductive DeviceSecurityLevel where
  | strongbox
  | trustedEnvironment
  | software
  | unknownSecure
  | unknown
  deriving DecidableEq

structure DeviceCredentialEnrollment where
  keyId : String
  publicKeySpki : String
  securityLevel : DeviceSecurityLevel
  expiresAt : Option Int
  deriving DecidableEq

structure DeviceCredentialRecord extends DeviceCredentialEnrollment where
  id : String
  organizationId : String
  screenId : String
  detached : Bool
  revokedAt : Option Int
  createdAt : Int
  deriving DecidableEq

structure PairingAttemptRecord where
  id : String
  organizationId : String
  pairingCodeId : String
  keyId : String
  publicKeySpki : String
  securityLevel : DeviceSecurityLevel
  credentialExpiresAt : Option Int
  challengeHashSha256 : String
  transcriptDigestSha256 : String
  expiresAt : Int
  consumedAt : Option Int
  provedAt : Option Int
  activatedAt : Option Int
  cancelledAt : Option Int
  installationId : Option String
  model : Option String
  osVersion : Option String
  playerVersion : Option String
  boundCredentialId : Option String
  createdAt : Int
  deriving DecidableEq

inductive EnrollmentOperation where
  | create
  | activate
  deriving DecidableEq

inductive EnrollmentResponse where
  | granted (grantId : String) (codeCounter : Nat)
  | bound (credentialId : String)
  deriving DecidableEq

structure EnrollmentIdempotencyRecord where
  operation : EnrollmentOperation
  organizationId : String
  keyHash : String
  actorUserId : String
  requestDigestSha256 : String
  expiresAt : Int
  response : Option EnrollmentResponse
  deriving DecidableEq

inductive DeviceAuthOperation where
  | heartbeat
  | manifest
  deriving DecidableEq

structure DeviceAuthChallengeRecord where
  id : String
  organizationId : String
  credentialId : String
  challengeHashSha256 : String
  operation : DeviceAuthOperation
  requestDigestSha256 : String
  expiresAt : Int
  consumedAt : Option Int
  createdAt : Int
  deriving DecidableEq

/-! ## The store -/

/-- The collections of `MemoryStore`, and how many identifiers it has drawn so far. -/
structure MemoryStore where
  users : List SessionUser
  locations : List LocationRecord
  screens : List ScreenRecord
  media : List MediaRecord
  playlists : List PlaylistRecord
  schedules : List ScheduleRecord
  releases : List PublishedReleaseRecord
  releaseAssignments : List ReleaseAssignmentRecord
  releaseCandidates : List ReleaseCandidateRecord
  releaseCandidateIdempotencyRecords : List ReleaseIdempotencyRecord
  pairings : List PairingRecord
  pairingAttempts : List PairingAttemptRecord
  deviceCredentials : List DeviceCredentialRecord
  usedDeviceKeyIds : List String
  deviceAuthChallenges : List DeviceAuthChallengeRecord
  screenEnrollmentIdempotencyRecords : List EnrollmentIdempotencyRecord
  idsDrawn : Nat
  deriving DecidableEq

/-- A store with its users, as the seed leaves it. -/
def MemoryStore.seeded (users : List SessionUser) : MemoryStore :=
  { users, locations := [], screens := [], media := [], playlists := [], schedules := [],
    releases := [], releaseAssignments := [], releaseCandidates := [],
    releaseCandidateIdempotencyRecords := [], pairings := [], pairingAttempts := [],
    deviceCredentials := [], usedDeviceKeyIds := [], deviceAuthChallenges := [],
    screenEnrollmentIdempotencyRecords := [], idsDrawn := 0 }

end screengoblin.server
