-- The native media cache of the Android player (MediaCacheStore.java). Calls run in threads of
-- their own. A step takes one call from one point to the next: to the next lock, or past one
-- thing that the system does for it. The two synchronized blocks on the reservations are one
-- step each.
import ScreenGoblin.MediaCacheFiles

namespace screengoblin.mediacache

/-! ## What the locks protect -/

abbrev Files := AList fun _ : Name => Bytes

structure Cache where
  files : Files
  reservedBytes : Int := 0

/-- A failure that is not the class's own: an `IOException` or the like, or another exception. -/
inductive Failure where
  | io
  | unchecked

/-- The exception that leaves, when a failure of the first kind is wrapped in `message`. -/
def wrap (message : String) : Failure → Thrown
  | .io => .cache "CACHE_IO" message
  | .unchecked => .unchecked

/-- What the system does for a call. -/
inductive Event where
  -- a lock is taken or given back, or nothing outside is needed
  | proceed
  -- `child`: is the canonical parent the directory?
  | child (canonical : Except Failure Bool)
  -- the same, for a temporary file with a random identifier
  | temporary (uuid : List Char) (canonical : Except Failure Bool)
  | read (count : Nat)
  | stats (availableBytes totalBytes : Int)
  | response (response : Response)
  | receive (chunk : Bytes) (elapsedMs : Int)
  | endOfStream
  -- an exception, after some bytes of a chunk were written
  | fails (failure : Failure) (written : Bytes)
  | delete (deleted : Bool)
  | listed (names : List Name)

/-- The end of a call: a file, nothing, or an exception. -/
abbrev Outcome := Except Thrown (Option Name)

inductive Purpose where
  | prefetch
  | resolve

/-- The points of a call that holds the lock of its file. -/
inductive Body where
  | locating
  | checking (purpose : Purpose)
  | verifying (purpose : Purpose) (read : Bytes)
  | reserving
  | reserved
  | connecting (uuid : List Char)
  | opening (uuid : List Char)
  | receiving (uuid : List Char) (received : Bytes)
  | activating (uuid : List Char)
  | finishing (uuid : List Char) (outcome : Outcome)
  | releasing (outcome : Outcome)
  | returning (outcome : Outcome)

def child : Except Failure Bool → Except Thrown Unit
  | .ok true => .ok ()
  | .ok false => .error (invalid "unsafe cache filename")
  | .error failure => .error (wrap "Unable to resolve the media cache path" failure)

def safetyReserve (totalBytes : Int) : Int := max MIN_SAFETY_RESERVE_BYTES (totalBytes / 20)

/-- `Math.max(0L, available - safetyReserve(total) - reservedBytes)` -/
def Cache.availableBytes (cache : Cache) (availableBytes totalBytes : Int) : Int :=
  max 0 (availableBytes - safetyReserve totalBytes - cache.reservedBytes)

def Cache.reserve (cache : Cache) (bytes availableBytes totalBytes : Int) : Except Thrown Cache :=
  if bytes > cache.availableBytes availableBytes totalBytes then
    .error (.cache "INSUFFICIENT_STORAGE" "Insufficient safe storage for media")
  else .ok { cache with reservedBytes := cache.reservedBytes + bytes }

def Cache.release (cache : Cache) (bytes : Int) : Cache :=
  { cache with reservedBytes := max 0 (cache.reservedBytes - bytes) }

def Cache.write (cache : Cache) (name : Name) (bytes : Bytes) : Cache :=
  { cache with files := cache.files.insert name bytes }

def Cache.remove (cache : Cache) (name : Name) : Cache :=
  { cache with files := cache.files.erase name }

/-! ## Under the lock of a file -/

section

-- `hex(digest.digest())` of the bytes that the digest was given
variable (sha256 : Bytes → List Char)

variable (asset : Asset)

/-- Where a call goes on when its file is not verified. -/
def Purpose.unverified : Purpose → Body
  | .prefetch => .reserving
  | .resolve => .returning (.error (rejected "Cached media failed integrity verification"))

/-- The end of `isVerified`. -/
def Purpose.verified (purpose : Purpose) (read : Bytes) : Body :=
  if sha256 read = asset.sha256 then .returning (.ok (some asset.fileName))
  else purpose.unverified

/-- The chunks of a response, one by one. -/
def receive (uuid : List Char) (received chunk : Bytes) (elapsedMs : Int) (cache : Cache) :
    Cache × Body :=
  if elapsedMs > MAX_DOWNLOAD_DURATION_MS then
    (cache, .finishing uuid
      (.error (.cache "DOWNLOAD_REJECTED" "Media download exceeded its total deadline")))
  else
    let total : Int := (received ++ chunk).length
    if total > asset.sizeBytes || total > MAX_ASSET_BYTES then
      (cache, .finishing uuid (.error (rejected "Media response exceeds its declared size")))
    else
      (cache.write (partialName asset.fileName uuid) (received ++ chunk),
        .receiving uuid (received ++ chunk))

/-- The end of `download`. -/
def received (uuid : List Char) (received : Bytes) : Body :=
  if (received.length : Int) ≠ asset.sizeBytes || sha256 received != asset.sha256 then
    .finishing uuid (.error (rejected "Media response failed integrity verification"))
  else .activating uuid

/-- One step of a call that holds the lock of its file. -/
def Body.step (cache : Cache) : Body → Event → Option (Cache × Body)
  | .locating, .child canonical =>
    match child canonical with
    | .error thrown => some (cache, .returning (.error thrown))
    | .ok () => some (cache, .checking .prefetch)
  | .checking purpose, .proceed =>
    match cache.files.lookup asset.fileName with
    | none =>
      match purpose with
      | .prefetch => some (cache, .reserving)
      | .resolve => some (cache, .returning
          (.error (.cache "CACHE_MISS" "Media is not available in the native cache")))
    | some content =>
      if (content.length : Int) ≠ asset.sizeBytes then some (cache, purpose.unverified)
      else some (cache, .verifying purpose [])
  | .verifying purpose read, .read count =>
    match cache.files.lookup asset.fileName with
    | none => none
    | some content =>
      match (content.drop read.length).take (count + 1) with
      | [] => some (cache, purpose.verified sha256 asset read)
      | chunk => some (cache, .verifying purpose (read ++ chunk))
  | .verifying _ _, .fails failure _ =>
    some (cache, .returning (.error (wrap "Unable to verify cached media" failure)))
  | .reserving, .stats availableBytes totalBytes =>
    match cache.reserve asset.sizeBytes availableBytes totalBytes with
    | .error thrown => some (cache, .returning (.error thrown))
    | .ok cache => some (cache, .reserved)
  | .reserving, .fails _ _ => some (cache, .returning (.error .unchecked))
  -- this call of `child` stands before the `try` that releases the reservation
  | .reserved, .temporary uuid canonical =>
    match child canonical with
    | .error thrown => some (cache, .returning (.error thrown))
    | .ok () => some (cache, .connecting uuid)
  | .connecting uuid, .response response =>
    match asset.accepts response with
    | .error thrown => some (cache, .finishing uuid (.error thrown))
    | .ok () => some (cache, .opening uuid)
  | .opening uuid, .proceed =>
    some (cache.write (partialName asset.fileName uuid) [], .receiving uuid [])
  | .connecting uuid, .fails failure _ | .opening uuid, .fails failure _ =>
    some (cache, .finishing uuid (.error (wrap "Unable to download media" failure)))
  | .receiving uuid received, .receive chunk elapsedMs =>
    some (receive asset uuid received chunk elapsedMs cache)
  | .receiving uuid bytes, .endOfStream => some (cache, received sha256 asset uuid bytes)
  | .receiving uuid received, .fails failure written =>
    some (cache.write (partialName asset.fileName uuid) (received ++ written),
      .finishing uuid (.error (wrap "Unable to download media" failure)))
  | .activating uuid, .proceed =>
    match cache.files.lookup (partialName asset.fileName uuid) with
    | none => none
    | some content =>
      some ((cache.remove (partialName asset.fileName uuid)).write asset.fileName content,
        .finishing uuid (.ok (some asset.fileName)))
  | .activating uuid, .fails failure _ =>
    some (cache, .finishing uuid (.error (wrap "Unable to activate downloaded media" failure)))
  -- a file that cannot be deleted now is deleted on exit
  | .finishing uuid outcome, .delete deleted =>
    some (if deleted then cache.remove (partialName asset.fileName uuid) else cache,
      .releasing outcome)
  | .releasing outcome, .proceed => some (cache.release asset.sizeBytes, .returning outcome)
  | _, _ => none

end

/-! ## The calls -/

/-- The methods that take the write lock. -/
inductive Sweep where
  | prune (retainedFileNames : List Name)
  | removeAll

def Sweep.doomed : Sweep → Name → Bool
  | .prune retainedFileNames, name => isFinalName name && !retainedFileNames.contains name
  | .removeAll, name => isFinalName name || isPartial name

def Sweep.message : Sweep → String
  | .prune _ => "Unable to prune cached media"
  | .removeAll => "Unable to remove cached media"

inductive Request where
  | prefetch (asset : Asset)
  | resolve (assetId mimeType sha256 : List Char) (sizeBytes : Int)
  | sweep (sweep : Sweep)

/-- The points of a call. -/
inductive Call where
  -- waits for the lifecycle lock
  | called (request : Request)
  -- holds the read lock
  | resolving (asset : Asset)
  | waiting (purpose : Purpose) (asset : Asset)
  | leaving (outcome : Outcome)
  -- holds the read lock and the lock of the file
  | inside (asset : Asset) (body : Body)
  -- holds the write lock
  | listing (sweep : Sweep)
  | deleting (sweep : Sweep) (left : List Name)
  | swept (outcome : Outcome)
  | done (outcome : Outcome)

/-- The owners of the locks: `lifecycleLock`, and `assetLocks` by their index. -/
structure Locks where
  readers : List Nat := []
  writer : Option Nat := none
  assetLocks : Nat → Option Nat := fun _ => none

namespace Locks

def readLock (caller : Nat) (locks : Locks) : Option Locks :=
  if locks.writer = none then some { locks with readers := caller :: locks.readers } else none

def readUnlock (caller : Nat) (locks : Locks) : Locks :=
  { locks with readers := locks.readers.erase caller }

def writeLock (caller : Nat) (locks : Locks) : Option Locks :=
  if locks.writer = none ∧ locks.readers = [] then some { locks with writer := some caller }
  else none

def writeUnlock (locks : Locks) : Locks := { locks with writer := none }

def enter (caller index : Nat) (locks : Locks) : Option Locks :=
  if locks.assetLocks index = none then
    some { locks with
      assetLocks := fun other => if other = index then some caller else locks.assetLocks other }
  else none

def leave (index : Nat) (locks : Locks) : Locks :=
  { locks with assetLocks := fun other => if other = index then none else locks.assetLocks other }

end Locks

structure Store where
  cache : Cache
  locks : Locks := {}
  calls : List Call := []

/-- Deletes the files of a listing one by one. -/
def Sweep.step (sweep : Sweep) (cache : Cache) : List Name → Event → Option (Cache × Call)
  | [], .proceed => some (cache, .swept (.ok none))
  | name :: left, .delete deleted =>
    if sweep.doomed name then
      if deleted then some (cache.remove name, .deleting sweep left)
      else some (cache, .swept (.error (.cache "CACHE_IO" sweep.message)))
    else some (cache, .deleting sweep left)
  | _, _ => none

section

variable (sha256 : Bytes → List Char)

/-- One step of the call `caller`. -/
def Call.step (caller : Nat) (cache : Cache) (locks : Locks) :
    Call → Event → Option (Cache × Locks × Call)
  | .called (.prefetch asset), .proceed =>
    (locks.readLock caller).map fun locks => (cache, locks, .waiting .prefetch asset)
  | .called (.resolve assetId mimeType digest sizeBytes), .proceed =>
    (locks.readLock caller).map fun locks =>
      match validate assetId mimeType digest sizeBytes with
      | .error thrown => (cache, locks, .leaving (.error thrown))
      | .ok asset => (cache, locks, .resolving asset)
  | .called (.sweep sweep), .proceed =>
    (locks.writeLock caller).map fun locks => (cache, locks, .listing sweep)
  | .resolving asset, .child canonical =>
    match child canonical with
    | .error thrown => some (cache, locks, .leaving (.error thrown))
    | .ok () => some (cache, locks, .waiting .resolve asset)
  | .waiting purpose asset, .proceed =>
    (locks.enter caller (stripe asset.fileName)).map fun locks =>
      (cache, locks, .inside asset (match purpose with
        | .prefetch => .locating
        | .resolve => .checking .resolve))
  | .inside asset (.returning outcome), .proceed =>
    some (cache, locks.leave (stripe asset.fileName), .leaving outcome)
  | .inside asset body, event =>
    (body.step sha256 asset cache event).map fun (cache, body) =>
      (cache, locks, .inside asset body)
  | .leaving outcome, .proceed => some (cache, locks.readUnlock caller, .done outcome)
  | .listing sweep, .listed names =>
    if names.isPerm cache.files.keys then some (cache, locks, .deleting sweep names) else none
  | .listing _, .fails failure _ =>
    some (cache, locks, .swept (.error (wrap "Unable to inspect the media cache" failure)))
  | .deleting sweep left, event =>
    (sweep.step cache left event).map fun (cache, call) => (cache, locks, call)
  | .swept outcome, .proceed => some (cache, locks.writeUnlock, .done outcome)
  | _, _ => none

/-- A call arrives, or one goes on. -/
inductive Action where
  | call (request : Request)
  | go (caller : Nat) (event : Event)

def step (store : Store) : Action → Option Store
  | .call request => some { store with calls := store.calls ++ [.called request] }
  | .go caller event =>
    match store.calls[caller]? with
    | none => none
    | some call =>
      (call.step sha256 caller store.cache store.locks event).map fun (cache, locks, call) =>
        { cache, locks, calls := store.calls.set caller call }

def run (store : Store) : List Action → Option Store
  | [] => some store
  | action :: rest => (step sha256 store action).bind fun store => run store rest

end

/-- `cleanupTemporaryFiles`, when it succeeds -/
def cleanupTemporaryFiles (files : Files) : Files :=
  (files.keys.filter isPartial).foldl (fun files name => files.erase name) files

/-- A new store on a directory. -/
def opened (files : Files) : Store := { cache := { files := cleanupTemporaryFiles files } }

end screengoblin.mediacache
