-- The other operations of the store on users, media, playlists, schedules, locations and
-- screens (apps/api/src/store/memory.ts). An operation ends with its value, or with the reason of
-- its refusal or its error.
import ScreenGoblin.ReleaseCommands

open js collections screengoblin.schedule

namespace screengoblin.server

/-- `activeActor`: a user of the organization with one of these roles. -/
def activeActor (s : MemoryStore) (org actorUserId : String) (roles : List Role) :
    Option SessionUser :=
  s.users.find? fun user =>
    user.id == actorUserId && user.organizationId == org && user.disabledAt.isNone &&
      roles.contains user.role

/-- The audited form of an operation asks for an actor first. -/
def audited {α : Type} (org actorUserId : String) (roles : List Role)
    (operation : MemoryStore → MemoryStore × Except String α) (s : MemoryStore) :
    MemoryStore × Except String α :=
  match activeActor s org actorUserId roles with
  | some _ => operation s
  | none => (s, .error "FORBIDDEN")

/-! ## Users -/

/-- The pending grants of an issuer end, and the attempts on them that no credential used. -/
def revokePendingIssuerGrants (userId : String) (organizationIds : List String)
    (timestamp : Int) (s : MemoryStore) : MemoryStore :=
  let revoked (grant : PairingRecord) : Bool :=
    organizationIds.contains grant.organizationId && grant.authorizedByUserId == some userId &&
      grant.status == .pending
  { s with
    pairings := s.pairings.map (fun grant =>
      if revoked grant then { grant with status := .revoked } else grant)
    pairingAttempts := s.pairingAttempts.map (fun attempt =>
      if s.pairings.any (fun grant => revoked grant && attempt.pairingCodeId == grant.id) &&
          attempt.boundCredentialId.isNone then
        { attempt with cancelledAt := some (attempt.cancelledAt.getD timestamp) }
      else attempt) }

def memberships (s : MemoryStore) (userId : String) : List SessionUser :=
  s.users.filter fun user => user.id == userId

def hasOtherActiveOwner (s : MemoryStore) (organizationId userId : String) : Bool :=
  s.users.any fun candidate =>
    candidate.organizationId == organizationId && candidate.id != userId &&
      candidate.role == .owner && candidate.disabledAt.isNone

/-- The changes of a user reach every membership of the user. -/
def changeUser (userId : String) (change : SessionUser → SessionUser) (s : MemoryStore) :
    MemoryStore :=
  { s with users := s.users.map fun user => if user.id == userId then change user else user }

def organizationsOf (s : MemoryStore) (userId : String) : List String :=
  ((memberships s userId).map (·.organizationId)).dedup

/-- The one authentication epoch of all the memberships of a user. -/
def commonEpoch (s : MemoryStore) (userId : String) : Option Nat :=
  match (memberships s userId).map (·.authenticationEpoch) with
  | [] => none
  | epoch :: rest => if rest.all (· == epoch) then some epoch else none

/-- The hash and the reason have passed their checks, which throw before anything changes. -/
def rotateUserPassword (timestamp : Int) (userId passwordHash : String) (s : MemoryStore) :
    MemoryStore × Except String Unit :=
  match commonEpoch s userId with
  | none => (s, .error "NOT_FOUND")
  | some epoch =>
    (changeUser userId (fun user =>
        { user with passwordHash := passwordHash, authenticationEpoch := epoch + 1 })
      (revokePendingIssuerGrants userId (organizationsOf s userId) timestamp s), .ok ())

/-- What the caller of a bootstrap rotation expects of the user. `sessionIsCurrent` is the test
of the session, which the sessions outside this model decide. -/
structure BootstrapRotation where
  actorUserId : String
  sessionIsCurrent : Bool
  expectedPasswordHash : String
  expectedBootstrapPasswordExpiresAt : Int
  expectedAuthenticationEpoch : Nat
  expectedAuthorizationEpoch : Nat
  passwordHash : String

def rotateBootstrapPassword (timestamp : Int) (userId organizationId : String)
    (input : BootstrapRotation) (s : MemoryStore) : MemoryStore × Except String Unit :=
  match (memberships s userId).find? fun user => user.organizationId == organizationId with
  | none => (s, .error "FORBIDDEN")
  | some current =>
    if input.actorUserId == userId && input.sessionIsCurrent &&
        (memberships s userId).all (fun user => user.disabledAt.isNone &&
          user.passwordHash == input.expectedPasswordHash &&
          user.bootstrapPasswordExpiresAt == some input.expectedBootstrapPasswordExpiresAt &&
          user.authenticationEpoch == input.expectedAuthenticationEpoch) &&
        decide (timestamp < input.expectedBootstrapPasswordExpiresAt) &&
        current.authorizationEpoch == input.expectedAuthorizationEpoch then
      (changeUser userId (fun user =>
          { user with
            bootstrapPasswordExpiresAt := none
            passwordHash := input.passwordHash
            authenticationEpoch := current.authenticationEpoch + 1 })
        (revokePendingIssuerGrants userId (organizationsOf s userId) timestamp s), .ok ())
    else (s, .error "FORBIDDEN")

def disableUser (timestamp : Int) (userId : String) (s : MemoryStore) :
    MemoryStore × Except String Unit :=
  match commonEpoch s userId with
  | none => (s, .error "NOT_FOUND")
  | some epoch =>
    if (memberships s userId).any fun membership =>
        membership.disabledAt.isNone && membership.role == .owner &&
          !hasOtherActiveOwner s membership.organizationId userId then
      (s, .error "OWNER_CONTINUITY_REQUIRED")
    else
      (changeUser userId (fun user =>
          { user with authenticationEpoch := epoch + 1, disabledAt := some timestamp })
        (revokePendingIssuerGrants userId (organizationsOf s userId) timestamp s), .ok ())

def isMembership (organizationId userId : String) (user : SessionUser) : Bool :=
  user.id == userId && user.organizationId == organizationId

def changeMembershipRole (timestamp : Int) (organizationId userId : String) (role : Role)
    (s : MemoryStore) : MemoryStore × Except String Unit :=
  match s.users.find? (isMembership organizationId userId) with
  | none => (s, .error "NOT_FOUND")
  | some membership =>
    if membership.role == .owner && role != .owner && membership.disabledAt.isNone &&
        !hasOtherActiveOwner s organizationId userId then
      (s, .error "OWNER_CONTINUITY_REQUIRED")
    else
      let granted := revokePendingIssuerGrants userId [organizationId] timestamp s
      ({ granted with
        users := granted.users.map (fun user =>
          if isMembership organizationId userId user then
            { user with role := role, authorizationEpoch := user.authorizationEpoch + 1 }
          else user) }, .ok ())

def removeMembership (timestamp : Int) (organizationId userId : String) (s : MemoryStore) :
    MemoryStore × Except String Unit :=
  match s.users.find? (isMembership organizationId userId) with
  | none => (s, .error "NOT_FOUND")
  | some membership =>
    if membership.role == .owner && membership.disabledAt.isNone &&
        !hasOtherActiveOwner s organizationId userId then
      (s, .error "OWNER_CONTINUITY_REQUIRED")
    else
      let granted := revokePendingIssuerGrants userId [organizationId] timestamp s
      ({ granted with
        users := granted.users.filter (fun user => !isMembership organizationId userId user) },
       .ok ())

/-! ## Media and playlists -/

def contentRoles : List Role := [.owner, .admin, .publisher]

structure MediaInput where
  name : String
  kind : MediaKind
  mimeType : String
  url : String
  checksumSha256 : String
  sizeBytes : Rat
  expiresAt : Option String

def createMedia (P : Platform) (timestamp : Int) (org : String) (data : MediaInput)
    (s : MemoryStore) : MemoryStore × Except String MediaRecord :=
  let assetId := P.freshId s.idsDrawn
  let s := { s with idsDrawn := s.idsDrawn + 1 }
  match mediaStorageKey org assetId data.checksumSha256 with
  | .error message => (s, .error message)
  | .ok storageKey =>
    let media : MediaRecord :=
      { id := assetId, organizationId := org, name := data.name, kind := data.kind,
        mimeType := data.mimeType, url := data.url, storageKey := some storageKey,
        checksumSha256 := data.checksumSha256, sizeBytes := data.sizeBytes,
        expiresAt := data.expiresAt, createdAt := timestamp, updatedAt := timestamp }
    ({ s with media := s.media ++ [media] }, .ok media)

def createMediaAndAudit (P : Platform) (timestamp : Int) (org : String) (data : MediaInput)
    (actorUserId : String) : MemoryStore → MemoryStore × Except String MediaRecord :=
  audited org actorUserId contentRoles (createMedia P timestamp org data)

def isMedia (org assetId : String) (asset : MediaRecord) : Bool :=
  asset.organizationId == org && asset.id == assetId

/-- A playlist or a release still names the asset. -/
def mediaInUse (s : MemoryStore) (org assetId : String) : Bool :=
  s.playlists.any (fun playlist =>
    playlist.organizationId == org && playlist.items.any fun item => item.assetId == assetId) ||
  s.releases.any fun release =>
    release.organizationId == org && release.items.any fun item => item.asset.id == assetId

def deleteMedia (org assetId : String) (s : MemoryStore) : MemoryStore × Except String Unit :=
  if !s.media.any (isMedia org assetId) then (s, .error "NOT_FOUND")
  else if mediaInUse s org assetId then (s, .error "IN_USE")
  else ({ s with media := s.media.filter fun asset => !isMedia org assetId asset }, .ok ())

def deleteMediaAndAudit (org assetId actorUserId : String) :
    MemoryStore → MemoryStore × Except String Unit :=
  audited org actorUserId contentRoles (deleteMedia org assetId)

structure PlaylistItemInput where
  assetId : String
  position : Int
  durationSeconds : Int
  deriving DecidableEq

structure PlaylistInput where
  name : String
  description : String
  items : List PlaylistItemInput
  deriving DecidableEq

/-- The body of a new playlist. The name is trimmed before. -/
def acceptedPlaylist (data : PlaylistInput) : Bool :=
  decide (1 ≤ utf16Length data.name) && decide (utf16Length data.name ≤ 140) &&
    decide (utf16Length data.description ≤ 1000) && decide (data.items.length ≤ 500) &&
    data.items.all (fun item =>
      decide (1 ≤ item.assetId.toList.length) && decide (item.assetId.toList.length ≤ 64) &&
        item.assetId.toList.all isBase64Url && decide (0 ≤ item.position) &&
        decide (1 ≤ item.durationSeconds) && decide (item.durationSeconds ≤ 86400)) &&
    decide (data.items.map (·.position)).Nodup

/-- The items draw their identifiers in order, after the playlist. -/
def playlistItems (P : Platform) : Nat → List PlaylistItemInput → List PlaylistItem
  | _, [] => []
  | drawn, item :: rest =>
    { id := P.freshId drawn, assetId := item.assetId, position := item.position,
      durationSeconds := item.durationSeconds } :: playlistItems P (drawn + 1) rest

def createPlaylist (P : Platform) (timestamp : Int) (org : String) (data : PlaylistInput)
    (s : MemoryStore) : MemoryStore × Except String PlaylistRecord :=
  let playlist : PlaylistRecord :=
    { id := P.freshId s.idsDrawn, organizationId := org, name := data.name,
      description := data.description, items := playlistItems P (s.idsDrawn + 1) data.items,
      createdAt := timestamp, updatedAt := timestamp }
  ({ s with
      playlists := s.playlists ++ [playlist]
      idsDrawn := s.idsDrawn + 1 + data.items.length }, .ok playlist)

def createPlaylistAndAudit (P : Platform) (timestamp : Int) (org : String) (data : PlaylistInput)
    (actorUserId : String) : MemoryStore → MemoryStore × Except String PlaylistRecord :=
  audited org actorUserId contentRoles fun s =>
    if data.items.all fun item => s.media.any (isMedia org item.assetId) then
      createPlaylist P timestamp org data s
    else (s, .error "INVALID_ASSET")

def isPlaylist (org playlistId : String) (playlist : PlaylistRecord) : Bool :=
  playlist.organizationId == org && playlist.id == playlistId

def deletePlaylist (org playlistId : String) (s : MemoryStore) :
    MemoryStore × Except String Unit :=
  if !s.playlists.any (isPlaylist org playlistId) then (s, .error "NOT_FOUND")
  else if s.schedules.any (fun schedule =>
        schedule.organizationId == org && schedule.playlistId == playlistId) ||
      s.releases.any (fun release =>
        release.organizationId == org && release.sourcePlaylistId == playlistId) then
    (s, .error "IN_USE")
  else
    ({ s with playlists := s.playlists.filter fun playlist => !isPlaylist org playlistId playlist },
     .ok ())

def deletePlaylistAndAudit (org playlistId actorUserId : String) :
    MemoryStore → MemoryStore × Except String Unit :=
  audited org actorUserId contentRoles (deletePlaylist org playlistId)

/-! ## Schedules -/

/-- A schedule without a release, as its caller gives it. -/
structure ScheduleInput extends FrozenScheduleSnapshot where
  playlistId : String
  screenIds : List String
  releaseId : Option String
  assignmentId : Option String

def createSchedule (P : Platform) (timestamp : Int) (org : String) (data : ScheduleInput)
    (s : MemoryStore) : MemoryStore × Except String ScheduleRecord :=
  let schedule : ScheduleRecord :=
    { data.toFrozenScheduleSnapshot with
      id := P.freshId s.idsDrawn, organizationId := org, playlistId := data.playlistId,
      screenIds := data.screenIds, releaseId := data.releaseId,
      assignmentId := data.assignmentId, createdAt := timestamp, updatedAt := timestamp }
  ({ s with schedules := s.schedules ++ [schedule], idsDrawn := s.idsDrawn + 1 }, .ok schedule)

def deleteSchedule (org scheduleId : String) (s : MemoryStore) :
    MemoryStore × Except String Bool :=
  let kept := s.schedules.filter fun schedule =>
    !(schedule.organizationId == org && schedule.id == scheduleId)
  ({ s with schedules := kept }, .ok (s.schedules.length != kept.length))

/-! ## Locations -/

def isLocation (org locationId : String) (location : LocationRecord) : Bool :=
  location.organizationId == org && location.id == locationId

def createLocationAndAudit (P : Platform) (timestamp : Int) (org name actorUserId : String) :
    MemoryStore → MemoryStore × Except String LocationRecord :=
  audited org actorUserId [.owner, .admin] fun s =>
    if s.locations.any fun location => location.organizationId == org && location.name == name then
      (s, .error "DUPLICATE")
    else
      let location : LocationRecord :=
        { id := P.freshId s.idsDrawn, organizationId := org, name, createdAt := timestamp,
          updatedAt := timestamp }
      ({ s with locations := s.locations ++ [location], idsDrawn := s.idsDrawn + 1 }, .ok location)

def updateLocationAndAudit (timestamp : Int) (org locationId name actorUserId : String) :
    MemoryStore → MemoryStore × Except String LocationRecord :=
  audited org actorUserId [.owner, .admin] fun s =>
    match s.locations.find? (isLocation org locationId) with
    | none => (s, .error "NOT_FOUND")
    | some location =>
      if s.locations.any fun candidate =>
          candidate.organizationId == org && candidate.id != locationId &&
            candidate.name == name then
        (s, .error "DUPLICATE")
      else
        let change (location : LocationRecord) : LocationRecord :=
          { location with name, updatedAt := timestamp }
        ({ s with locations := updateFirst (isLocation org locationId) change s.locations },
         .ok (change location))

/-- A location stays as long as a screen of the organization is at it. -/
def deleteLocationAndAudit (org locationId actorUserId : String) :
    MemoryStore → MemoryStore × Except String Unit :=
  audited org actorUserId [.owner, .admin] fun s =>
    if !s.locations.any (isLocation org locationId) then (s, .error "NOT_FOUND")
    else if s.screens.any fun screen =>
        screen.organizationId == org && screen.locationId == some locationId then
      (s, .error "IN_USE")
    else ({ s with locations := s.locations.eraseP (isLocation org locationId) }, .ok ())

/-! ## Screens -/

structure ScreenInput where
  name : String
  location : String
  locationId : Option String
  orientation : Orientation
  resolution : String
  tags : List String

def createScreen (P : Platform) (timestamp : Int) (org : String) (data : ScreenInput)
    (s : MemoryStore) : MemoryStore × Except String ScreenRecord :=
  let screen : ScreenRecord :=
    { id := P.freshId s.idsDrawn, organizationId := org, name := data.name,
      location := data.location, locationId := truthyText data.locationId, locationName := none,
      status := .offline, orientation := data.orientation, resolution := data.resolution,
      tags := data.tags, installationId := none, deviceTokenHash := none, model := none,
      osVersion := none, playerVersion := none, manifestVersion := none,
      nowPlayingAssetId := none, uptimeSeconds := none, freeStorageBytes := none,
      networkType := none, lastSeenAt := none, credentialRevokedAt := none,
      credentialGeneration := none, createdAt := timestamp, updatedAt := timestamp }
  ({ s with screens := s.screens ++ [screen], idsDrawn := s.idsDrawn + 1 }, .ok screen)

def createScreenAndAudit (P : Platform) (timestamp : Int) (org : String) (data : ScreenInput)
    (actorUserId : String) : MemoryStore → MemoryStore × Except String ScreenRecord :=
  audited org actorUserId [.owner, .admin] fun s =>
    match truthyText data.locationId with
    | some locationId =>
      if s.locations.any fun location =>
          location.organizationId == org && location.id == locationId then
        createScreen P timestamp org { data with tags := data.tags.eraseDups } s
      else (s, .error "INVALID_LOCATION")
    | none => createScreen P timestamp org { data with tags := data.tags.eraseDups } s

def isScreen (org screenId : String) (screen : ScreenRecord) : Bool :=
  screen.organizationId == org && screen.id == screenId

/-- The changes of a screen. A field that is absent stays. For the location, `some none` is
`null`, which takes the screen away from its location. -/
structure ScreenPatch where
  name : Option String
  location : Option String
  locationId : Option (Option String)
  orientation : Option Orientation
  resolution : Option String
  tags : Option (List String)

def ScreenPatch.apply (patch : ScreenPatch) (timestamp : Int) (screen : ScreenRecord) :
    ScreenRecord :=
  { screen with
    name := patch.name.getD screen.name
    location := patch.location.getD screen.location
    locationId := patch.locationId.getD screen.locationId
    orientation := patch.orientation.getD screen.orientation
    resolution := patch.resolution.getD screen.resolution
    tags := (patch.tags.map List.eraseDups).getD screen.tags
    updatedAt := timestamp }

/-- A location that is named is one of the organization. -/
def knownLocation (s : MemoryStore) (org : String) (locationId : Option String) : Bool :=
  (truthyText locationId).all fun locationId => s.locations.any (isLocation org locationId)

def updateScreenAndAudit (timestamp : Int) (org screenId : String) (patch : ScreenPatch)
    (actorUserId : String) : MemoryStore → MemoryStore × Except String ScreenRecord :=
  audited org actorUserId [.owner, .admin] fun s =>
    match s.screens.find? (isScreen org screenId) with
    | none => (s, .error "NOT_FOUND")
    | some screen =>
      if knownLocation s org patch.locationId.join then
        ({ s with
            screens := updateFirst (isScreen org screenId) (patch.apply timestamp) s.screens },
         .ok (patch.apply timestamp screen))
      else (s, .error "INVALID_LOCATION")

def deleteScreen (org screenId : String) (s : MemoryStore) : MemoryStore × Except String Bool :=
  let kept := s.screens.filter fun screen => !isScreen org screenId screen
  ({ s with
    screens := kept
    deviceCredentials := s.deviceCredentials.map (fun credential =>
      if credential.organizationId == org && credential.screenId == screenId then
        { credential with detached := true }
      else credential) }, .ok (s.screens.length != kept.length))

/-- The challenges of a credential that are still open are used up. -/
def consumeOpenChallenges (credentialIds : List String) (timestamp : Int)
    (challenges : List DeviceAuthChallengeRecord) : List DeviceAuthChallengeRecord :=
  challenges.map fun challenge =>
    if credentialIds.contains challenge.credentialId && challenge.consumedAt.isNone &&
        decide (timestamp < challenge.expiresAt) then
      { challenge with consumedAt := some timestamp }
    else challenge

/-- The actor that a change of devices asks for. -/
def adminActor (s : MemoryStore) (org actorUserId : String) : Option SessionUser :=
  (candidateActor s org actorUserId).filter fun actor =>
    actor.role == .owner || actor.role == .admin

def deleteScreenAndAudit (timestamp : Int) (org screenId actorUserId : String)
    (s : MemoryStore) : MemoryStore × Except String Unit :=
  match adminActor s org actorUserId with
  | none => (s, .error "FORBIDDEN")
  | some _ =>
    match s.screens.find? (isScreen org screenId) with
    | none => (s, .error "NOT_FOUND")
    | some _ =>
      let own := s.deviceCredentials.filter fun credential =>
        credential.organizationId == org && credential.screenId == screenId
      ({ s with
        deviceCredentials := s.deviceCredentials.map (fun credential =>
          if credential.organizationId == org && credential.screenId == screenId then
            { credential with
              detached := true, revokedAt := some (credential.revokedAt.getD timestamp) }
          else credential)
        deviceAuthChallenges :=
          consumeOpenChallenges (own.map (·.id)) timestamp s.deviceAuthChallenges
        pairings := s.pairings.map (fun grant =>
          if grant.targetScreenId == some screenId && grant.status == .pending then
            { grant with status := .revoked }
          else grant)
        screens := s.screens.eraseP (isScreen org screenId) }, .ok ())

end screengoblin.server
