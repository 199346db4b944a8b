-- The asset cache of the browser player (`CacheAssetRepository` in core/assets.ts). A call runs
-- until it waits for the browser, and an operation goes on when the browser has answered. Between
-- two such turns any other call can run.
import Mathlib
import ScreenGoblin.PlayerManifest

namespace screengoblin.assets

open player (isMediaCapability emergencyTemplateMime)

abbrev Bytes := List UInt8

/-! ## Assets and responses -/

inductive Kind where
  | image
  | video
  | web
  | template
  deriving DecidableEq

structure PlayerAsset where
  id : String
  kind : Kind
  url : String
  mimeType : String
  checksumSha256 : String
  sizeBytes : Int
  mediaDelivery : Option String := none
  mediaCapability : Option String := none
  deriving DecidableEq

/-- The parts of the URL that `cacheKey` makes. -/
structure Key where
  id : String
  checksumSha256 : String
  deriving DecidableEq

def cacheKey (asset : PlayerAsset) : Key := ⟨asset.id, asset.checksumSha256⟩

/-- What one `reader.read()` gives before the end of a body. -/
inductive Read where
  | value (bytes : Bytes)
  | nothing
  | fails (message : String)

/-- The headers and the body of a response. `contentLength` is the text of the header, and a body
without a reader is `none`. -/
structure Response where
  ok : Bool := true
  status : Nat := 200
  contentLength : Option String := none
  body : Option (List Read)

/-- A response in the cache. -/
structure Entry where
  contentLength : Option String
  body : Option Bytes
  deriving DecidableEq

def MAX_SAFE_INTEGER : Int := 9007199254740991

def decimalValue (digits : List Char) : Int :=
  digits.foldl (fun value digit => value * 10 + (digit.toNat - 48)) 0

def declaredContentLength (contentLength : Option String) (asset : PlayerAsset) :
    Except String Unit :=
  match contentLength with
  | none => .ok ()
  | some value =>
    if value.toList.isEmpty || !value.toList.all Char.isDigit then
      .error s!"Invalid Content-Length for {asset.id}"
    else
      let length := decimalValue value.toList
      if length > MAX_SAFE_INTEGER || length > asset.sizeBytes then
        .error s!"Download exceeds size limit for {asset.id}"
      else .ok ()

/-- The loop of `boundedBody`. -/
def readBody (asset : PlayerAsset) : Bytes → List Read → Except String Bytes
  | received, [] =>
    if (received.length : Int) ≠ asset.sizeBytes then .error s!"Size mismatch for {asset.id}"
    else .ok received
  | received, .nothing :: rest => readBody asset received rest
  | _, .fails message :: _ => .error message
  | received, .value bytes :: rest =>
    if (bytes.length : Int) > asset.sizeBytes - received.length then
      .error s!"Download exceeds size limit for {asset.id}"
    else readBody asset (received ++ bytes) rest

def boundedBody (contentLength : Option String) (body : Option (List Read)) (asset : PlayerAsset) :
    Except String Bytes :=
  match declaredContentLength contentLength asset with
  | .error message => .error message
  | .ok () =>
    match body with
    | none => .error s!"Download body is unavailable for {asset.id}"
    | some reads => readBody asset [] reads

/-- The bytes of the reads, if none fails. -/
def delivered : List Read → Option Bytes
  | [] => some []
  | .value bytes :: rest => (delivered rest).map (bytes ++ ·)
  | .nothing :: rest => delivered rest
  | .fails _ :: _ => none

/-- Can the body of an entry be read so? The browser can also fail. -/
def Entry.reads (entry : Entry) (reads : List Read) : Bool :=
  entry.body.all fun body => (delivered reads).all (· == body)

def lower (text : String) : List Char := text.toList.map Char.toLower

def isHexDigest (text : String) : Bool :=
  text.toList.length == 64 &&
    (lower text).all fun c => c.isDigit || ('a' ≤ c && c ≤ 'f')

section

-- `sha256Hex` of the bytes
variable (sha256Hex : Bytes → String)

def verifySha256 (data : Bytes) (expected : String) : Bool :=
  isHexDigest expected && lower (sha256Hex data) == lower expected

end

def isInlineEmergencyTemplate (asset : PlayerAsset) : Bool :=
  asset.kind == .template && asset.mimeType == emergencyTemplateMime &&
    "data:application/json;base64,".toList.isPrefixOf asset.url.toList

def authorized (asset : PlayerAsset) : Bool :=
  isInlineEmergencyTemplate asset ||
    (asset.mediaDelivery == some "authorization-v1" &&
      asset.mediaCapability.any isMediaCapability)

/-! ## Operations -/

/-- What an operation waits for, or how it has ended. `cache` is the cache that it has opened, and
`aborted` says that its time is over. -/
inductive Phase where
  | waiting
  | opening
  | matching (cache : Nat)
  | checking (cache : Nat) (cached : Entry)
  | clearing (cache : Nat)
  | fetching (cache : Nat) (aborted : Bool)
  | putting (cache : Nat) (aborted : Bool) (buffer : Bytes)
  | resolved (cache : Nat)
  | rejected (message : String)
  -- there was no room for its bytes
  | refused
  deriving DecidableEq

/-- A run of `prefetchOnce`. `removed` says that the `finally` of `prefetch` has run. -/
structure Operation where
  asset : PlayerAsset
  phase : Phase
  removed : Bool := false
  deriving DecidableEq

structure Config where
  sha256Hex : Bytes → String
  maxConcurrentDownloads : Int := 2
  maxAggregateBytes : Int := 512 * 1024 * 1024
  maxBufferedAssetBytes : Int := 128 * 1024 * 1024
  concurrent : 1 ≤ maxConcurrentDownloads
  aggregate : 1 ≤ maxAggregateBytes

/-- The repository and the caches of the browser. `current` is the cache that `caches.open` gives,
and a cache that was deleted can still be written by an operation that has opened it. `calls` has
the asset of each call and the operation that it waits for. -/
structure State where
  activeDownloads : Int := 0
  reservedBytes : Int := 0
  downloadWaiters : List Nat := []
  inFlight : Key → Option Nat := fun _ => none
  operations : List Operation := []
  calls : List (PlayerAsset × Nat) := []
  current : Nat := 0
  entries : Nat → Key → Option Entry

/-- The caches of the browser at the start. -/
def start (persisted : Key → Option Entry) : State where
  entries := fun cache key => if cache = 0 then persisted key else none

def State.setEntry (cache : Nat) (key : Key) (entry : Option Entry) (s : State) : State :=
  { s with
    entries := fun cache' key' =>
      if cache' = cache ∧ key' = key then entry else s.entries cache' key' }

def State.setPhase (i : Nat) (phase : Phase) (s : State) : State :=
  { s with operations := s.operations.modify i fun operation => { operation with phase := phase } }

/-- The function that `acquireDownloadSlot` returns. -/
def State.releaseSlot (s : State) : State :=
  match s.downloadWaiters with
  | next :: rest => { s with downloadWaiters := rest }.setPhase next .opening
  | [] => { s with activeDownloads := s.activeDownloads - 1 }

/-- The function that `reserve` returns. -/
def State.releaseReservation (asset : PlayerAsset) (s : State) : State :=
  { s with reservedBytes := s.reservedBytes - asset.sizeBytes }

/-- The end of `prefetchOnce`. -/
def State.settle (i : Nat) (asset : PlayerAsset) (phase : Phase) (s : State) : State :=
  ((s.setPhase i phase).releaseSlot).releaseReservation asset

variable (config : Config)

/-! ## Calls -/

/-- `reserve`, with its guard. -/
def fits (asset : PlayerAsset) (s : State) : Bool :=
  0 ≤ asset.sizeBytes && asset.sizeBytes ≤ MAX_SAFE_INTEGER &&
    asset.sizeBytes ≤ config.maxAggregateBytes - s.reservedBytes

/-- `acquireDownloadSlot` has to wait. -/
def full (s : State) : Bool :=
  config.maxConcurrentDownloads ≤ s.activeDownloads || !s.downloadWaiters.isEmpty

/-- `prefetchOnce` up to its first wait. -/
def prefetchOnce (asset : PlayerAsset) (s : State) : State :=
  if fits config asset s = false then
    { s with operations := s.operations ++ [{ asset, phase := .refused }] }
  else
    let s := { s with reservedBytes := s.reservedBytes + asset.sizeBytes }
    if full config s then
      { s with
        downloadWaiters := s.downloadWaiters ++ [s.operations.length],
        operations := s.operations ++ [{ asset, phase := .waiting }] }
    else
      { s with
        activeDownloads := s.activeDownloads + 1,
        operations := s.operations ++ [{ asset, phase := .opening }] }

/-- `prefetch`, up to its first wait. -/
def prefetch (asset : PlayerAsset) (s : State) : State :=
  if asset.kind = .web then s
  else
    let key := cacheKey asset
    match s.inFlight key with
    | some existing => { s with calls := s.calls ++ [(asset, existing)] }
    | none =>
      let operation := s.operations.length
      let s := prefetchOnce config asset s
      { s with
        inFlight := fun key' => if key' = key then some operation else s.inFlight key',
        calls := s.calls ++ [(asset, operation)] }

/-! ## The turns of an operation -/

/-- What the browser answers, or the end of the time of a download. -/
inductive Answer where
  | opened (answer : Except String Unit)
  | matched (answer : Except String Unit)
  -- the body of the entry and the digest of it, which can fail
  | checked (reads : List Read) (digest : Except String Unit)
  | deleted (answer : Except String Unit)
  | timeout
  | fetched (answer : Except String Response) (digest : Except String Unit)
  | put (answer : Except String Unit)

/-- The error of a download that has failed. -/
def failed (asset : PlayerAsset) (aborted : Bool) (message : String) : Phase :=
  .rejected (if aborted then s!"Download timed out for {asset.id}" else message)

/-- The part that follows a miss. -/
def download (i : Nat) (asset : PlayerAsset) (cache : Nat) (s : State) : State :=
  if authorized asset then s.setPhase i (.fetching cache false)
  else s.settle i asset (.rejected s!"Asset authorization is invalid for {asset.id}")

/-- The verified bytes of a response. -/
def verified (asset : PlayerAsset) (response : Response) (digest : Except String Unit) :
    Except String Bytes :=
  if response.ok = false then
    .error s!"Download failed for {asset.id}: HTTP {response.status}"
  else
    match boundedBody response.contentLength response.body asset with
    | .error message => .error message
    | .ok buffer =>
      if (buffer.length : Int) ≠ asset.sizeBytes then .error s!"Size mismatch for {asset.id}"
      else
        match digest with
        | .error message => .error message
        | .ok () =>
          if verifySha256 config.sha256Hex buffer asset.checksumSha256 then .ok buffer
          else .error s!"Checksum mismatch for {asset.id}"

/-- Does an entry of the cache have the bytes of the asset? -/
def intact (asset : PlayerAsset) (cached : Entry) (reads : List Read)
    (digest : Except String Unit) : Bool :=
  match boundedBody cached.contentLength (cached.body.map fun _ => reads) asset, digest with
  | .ok buffer, .ok () => verifySha256 config.sha256Hex buffer asset.checksumSha256
  | _, _ => false

/-- One turn of an operation. -/
def turn (i : Nat) (asset : PlayerAsset) (s : State) : Phase → Answer → Option State
  | .opening, .opened (.error message) => some (s.settle i asset (.rejected message))
  | .opening, .opened (.ok ()) =>
    if asset.sizeBytes > config.maxBufferedAssetBytes then
      some (s.settle i asset (.rejected s!"Asset {asset.id} exceeds in-memory staging limit"))
    else some (s.setPhase i (.matching s.current))
  | .matching _, .matched (.error message) => some (s.settle i asset (.rejected message))
  | .matching cache, .matched (.ok ()) =>
    match s.entries cache (cacheKey asset) with
    | some cached => some (s.setPhase i (.checking cache cached))
    | none => some (download i asset cache s)
  | .checking cache cached, .checked reads digest =>
    if cached.reads reads = false then none
    else if intact config asset cached reads digest then
      some (s.settle i asset (.resolved cache))
    else some (s.setPhase i (.clearing cache))
  | .clearing _, .deleted (.error message) => some (s.settle i asset (.rejected message))
  | .clearing cache, .deleted (.ok ()) =>
    some (download i asset cache (s.setEntry cache (cacheKey asset) none))
  | .fetching cache _, .timeout => some (s.setPhase i (.fetching cache true))
  | .putting cache _ buffer, .timeout => some (s.setPhase i (.putting cache true buffer))
  | .fetching _ aborted, .fetched (.error message) _ =>
    some (s.settle i asset (failed asset aborted message))
  | .fetching cache aborted, .fetched (.ok response) digest =>
    match verified config asset response digest with
    | .error message => some (s.settle i asset (failed asset aborted message))
    | .ok buffer => some (s.setPhase i (.putting cache aborted buffer))
  | .putting _ aborted _, .put (.error message) =>
    some (s.settle i asset (failed asset aborted message))
  | .putting cache _ buffer, .put (.ok ()) =>
    some ((s.setEntry cache (cacheKey asset)
      (some ⟨some (toString buffer.length), some buffer⟩)).settle i asset (.resolved cache))
  | _, _ => none

def Phase.settled : Phase → Bool
  | .resolved _ | .rejected _ | .refused => true
  | _ => false

/-- The `finally` of `prefetch`, after the operation has settled. -/
def finallyRemove (i : Nat) (operation : Operation) (s : State) : Option State :=
  if operation.phase.settled && !operation.removed then
    let key := cacheKey operation.asset
    some { s with
      operations := s.operations.modify i fun operation => { operation with removed := true },
      inFlight := if s.inFlight key = some i then
        fun key' => if key' = key then none else s.inFlight key' else s.inFlight }
  else none

/-- `delete` is what `resolve` and `prune` do to the entries of a cache. -/
inductive Event where
  | prefetch (asset : PlayerAsset)
  | turn (i : Nat) (answer : Answer)
  | remove (i : Nat)
  | delete (cache : Nat) (key : Key)
  | removeAll

def step (s : State) : Event → Option State
  | .prefetch asset => some (prefetch config asset s)
  | .turn i answer => s.operations[i]?.bind fun operation =>
    turn config i operation.asset s operation.phase answer
  | .remove i => s.operations[i]?.bind fun operation => finallyRemove i operation s
  | .delete cache key => some (s.setEntry cache key none)
  | .removeAll => some { s with current := s.current + 1 }

def run (s : State) : List Event → Option State
  | [] => some s
  | event :: rest => (step config s event).bind fun s => run s rest

end screengoblin.assets
