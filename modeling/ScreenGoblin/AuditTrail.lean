-- The audit trail of the store (apps/api/src/audit/integrity.ts, and `buildAuditRecord` in
-- store/memory.ts). An audited operation is a script over the store: what it changed before
-- it stopped stays changed, so the order of its steps matters.
import ScreenGoblin.Emergencies
import ScreenGoblin.Scripts

open js collections scripts scripts.Script screengoblin.schedule

namespace screengoblin.server

/-! ## Audit records -/

/-- An event before it is recorded. A field of the metadata can be `undefined`. -/
structure AuditEvent where
  organizationId : String
  actorUserId : Option String
  actorType : String
  action : String
  entityType : String
  entityId : Option String
  ipAddress : Option String
  requestId : Option String
  metadata : List (String × Value)
  deriving DecidableEq

structure AuditRecord extends AuditEvent where
  id : String
  createdAt : Int
  deriving DecidableEq

def AUDIT_ACTOR_TYPE_MAX_LENGTH : Nat := 32
def AUDIT_ACTION_MAX_LENGTH : Nat := 96
def AUDIT_ENTITY_TYPE_MAX_LENGTH : Nat := 64
def AUDIT_ENTITY_ID_MAX_LENGTH : Nat := 256
def AUDIT_IP_ADDRESS_MAX_LENGTH : Nat := 64
def AUDIT_REQUEST_ID_MAX_LENGTH : Nat := 128
def AUDIT_METADATA_MAX_BYTES : Nat := 16 * 1024
def AUDIT_METADATA_MAX_DEPTH : Nat := 8
def AUDIT_METADATA_MAX_OBJECT_KEYS : Nat := 64
def AUDIT_METADATA_MAX_ARRAY_ITEMS : Nat := 256
def AUDIT_METADATA_MAX_STRING_BYTES : Nat := 2 * 1024

/-- A text here has no unpaired surrogates, so one test is left. -/
def assertPostgresTextCompatible (value name : String) : Except String Unit :=
  if value.toList.any (· == Char.ofNat 0) then
    .error s!"{name} cannot contain the U+0000 character"
  else .ok ()

def assertBoundedString (value name : String) (maximum : Nat) : Except String Unit :=
  if utf16Length value == 0 || decide (maximum < utf16Length value) then
    .error s!"{name} must contain 1 to {maximum} characters"
  else assertPostgresTextCompatible value name

/-- `assertBoundedString` with `optional`. -/
def assertOptionalString (value : Option String) (name : String) (maximum : Nat) :
    Except String Unit :=
  match value with
  | some text => assertBoundedString text name maximum
  | none => .ok ()

/-- `Buffer.byteLength(text, "utf8")`. -/
def utf8Bytes (text : String) : Nat := text.toList.foldl (fun bytes c => bytes + c.utf8Size) 0

/-- The bytes that `JSON.stringify` writes for a character. -/
def escapedBytes (c : Char) : Nat :=
  if c == '"' || c == '\\' then 2
  else if c.toNat < 32 then
    if [8, 9, 10, 12, 13].contains c.toNat then 2 else 6
  else c.utf8Size

/-- `Buffer.byteLength(JSON.stringify(text), "utf8")`. -/
def quotedBytes (text : String) : Nat :=
  text.toList.foldl (fun bytes c => bytes + escapedBytes c) 2

def tooManyBytes : String :=
  s!"Audit metadata cannot exceed {AUDIT_METADATA_MAX_BYTES} PostgreSQL-text-estimate bytes"

def withinBytes (bytes : Nat) : Except String Nat :=
  if AUDIT_METADATA_MAX_BYTES < bytes then .error tooManyBytes else .ok bytes

mutual

/-- The bytes of a value in the text that PostgreSQL makes of it, at most. -/
def validateJsonValue (depth : Nat) (value : Json) : Except String Nat :=
  if AUDIT_METADATA_MAX_DEPTH < depth then
    .error s!"Audit metadata cannot exceed {AUDIT_METADATA_MAX_DEPTH} nested levels"
  else match value with
    | .null => .ok 4
    | .bool b => .ok (if b then 4 else 5)
    | .str text => do
      assertPostgresTextCompatible text "Audit metadata strings"
      if AUDIT_METADATA_MAX_STRING_BYTES < utf8Bytes text then
        .error s!"Audit metadata strings cannot exceed {AUDIT_METADATA_MAX_STRING_BYTES} UTF-8 bytes"
      else .ok (quotedBytes text)
    | .num _ => .ok 330
    | .arr items =>
      if AUDIT_METADATA_MAX_ARRAY_ITEMS < items.length then
        .error s!"Audit metadata arrays cannot exceed {AUDIT_METADATA_MAX_ARRAY_ITEMS} items"
      else validateItems depth 0 2 items
    | .obj fields =>
      if AUDIT_METADATA_MAX_OBJECT_KEYS < fields.length then
        .error s!"Audit metadata objects cannot exceed {AUDIT_METADATA_MAX_OBJECT_KEYS} keys"
      else validateFields depth 0 2 fields

def validateItems (depth index bytes : Nat) : List Json → Except String Nat
  | [] => .ok bytes
  | item :: rest => do
    let size ← validateJsonValue (depth + 1) item
    let bytes ← withinBytes (bytes + (if 0 < index then 2 else 0) + size)
    validateItems depth (index + 1) bytes rest

def validateFields (depth index bytes : Nat) : List (String × Json) → Except String Nat
  | [] => .ok bytes
  | (key, value) :: rest => do
    assertPostgresTextCompatible key "Audit metadata keys"
    let size ← validateJsonValue (depth + 1) value
    let bytes ← withinBytes (bytes + (if 0 < index then 2 else 0) + quotedBytes key + 2 + size)
    validateFields depth (index + 1) bytes rest

end

/-- The fields of the metadata, where one that is `undefined` is no JSON value. -/
def validateEntries (index bytes : Nat) : List (String × Value) → Except String Nat
  | [] => .ok bytes
  | (key, value) :: rest => do
    assertPostgresTextCompatible key "Audit metadata keys"
    let size ← match value with
      | some v => validateJsonValue 1 v
      | none => .error "Audit metadata must contain only JSON values"
    let bytes ← withinBytes (bytes + (if 0 < index then 2 else 0) + quotedBytes key + 2 + size)
    validateEntries (index + 1) bytes rest

def validateMetadata (metadata : List (String × Value)) : Except String Nat :=
  if AUDIT_METADATA_MAX_OBJECT_KEYS < metadata.length then
    .error s!"Audit metadata objects cannot exceed {AUDIT_METADATA_MAX_OBJECT_KEYS} keys"
  else validateEntries 0 2 metadata

def assertAuditEventIntegrity (event : AuditEvent) : Except String Unit := do
  assertBoundedString event.actorType "Audit actorType" AUDIT_ACTOR_TYPE_MAX_LENGTH
  assertBoundedString event.action "Audit action" AUDIT_ACTION_MAX_LENGTH
  assertBoundedString event.entityType "Audit entityType" AUDIT_ENTITY_TYPE_MAX_LENGTH
  assertOptionalString event.entityId "Audit entityId" AUDIT_ENTITY_ID_MAX_LENGTH
  assertOptionalString event.ipAddress "Audit ipAddress" AUDIT_IP_ADDRESS_MAX_LENGTH
  assertOptionalString event.requestId "Audit requestId" AUDIT_REQUEST_ID_MAX_LENGTH
  let estimatedBytes ← validateMetadata event.metadata
  if AUDIT_METADATA_MAX_BYTES < estimatedBytes then .error tooManyBytes else .ok ()

/-! ## The store with its trail -/

inductive UserSessionPurpose where
  | full
  | bootstrapPasswordRotation
  deriving DecidableEq

/-- A session. Its expiry is a text from outside. -/
structure UserSessionRecord where
  id : String
  organizationId : String
  userId : String
  tokenHash : String
  authenticationEpoch : Nat
  authorizationEpoch : Nat
  purpose : UserSessionPurpose
  expiresAt : String
  revokedAt : Option Int
  createdAt : Int
  deriving DecidableEq

/-- The store with the collections that only its audited operations touch, and how many times
the clock was read. -/
structure AuditedStore extends MemoryStore where
  userSessions : List UserSessionRecord
  emergencies : List EmergencyRecord
  auditRecords : List AuditRecord
  clockReads : Nat
  deriving DecidableEq

/-- A platform with its clock: `clock n` is the reading number `n`. -/
structure Runtime extends Platform where
  clock : Nat → Int

/-- An operation returns a reason for a refusal, or throws an error. -/
inductive Halt where
  | refused (reason : String)
  | threw (message : String)
  deriving DecidableEq

abbrev Operation (α : Type) : Type := Script AuditedStore Halt α

/-- The collections alone, without the counts of identifiers and of readings. -/
def AuditedStore.collections (s : AuditedStore) : AuditedStore :=
  { s with idsDrawn := 0, clockReads := 0 }

/-- `now()`. -/
def now (R : Runtime) : Operation Int :=
  draw (fun s => R.clock s.clockReads) fun s => { s with clockReads := s.clockReads + 1 }

/-- `id()`. -/
def drawId (R : Runtime) : Operation String :=
  draw (fun s => R.freshId s.idsDrawn) fun s => { s with idsDrawn := s.idsDrawn + 1 }

def refuse {α : Type} (reason : String) : Operation α := stop (.refused reason)

def refuseIf (test : Bool) (reason : String) : Operation Unit := ensure (!test) (.refused reason)

/-- A check that throws. -/
def check {α : Type} (r : Except String α) : Operation α := lift (r.mapError .threw)

/-- A value that must be there. -/
def found {α : Type} (value : AuditedStore → Option α) (reason : String) : Operation α := do
  match ← look value with
  | some a => pure a
  | none => refuse reason

/-- A change of the collections that the audit trail is not about. -/
def changeStore (f : MemoryStore → MemoryStore) : Operation Unit :=
  change fun s => { s with toMemoryStore := f s.toMemoryStore }

/-- `this.buildAuditRecord(event)`. -/
def buildAuditRecord (R : Runtime) (event : AuditEvent) : Operation AuditRecord := do
  let recordId ← drawId R
  let createdAt ← now R
  check (assertAuditEventIntegrity event)
  return { event with id := recordId, createdAt := createdAt }

/-- `this.auditRecords.push(...records)`. -/
def pushAudits (records : List AuditRecord) : Operation Unit :=
  change fun s => { s with auditRecords := s.auditRecords ++ records }

/-- What an operation of a user says of its caller. -/
structure UserMutationAuditContext where
  actorUserId : String
  ipAddress : Option String
  requestId : Option String
  deriving DecidableEq

/-- The event of an operation of a user. -/
def userEvent (organizationId : String) (audit : UserMutationAuditContext)
    (action entityType entityId : String) (metadata : List (String × Value)) : AuditEvent :=
  { organizationId := organizationId, actorUserId := some audit.actorUserId, actorType := "user",
    action := action, entityType := entityType, entityId := some entityId,
    ipAddress := truthyText audit.ipAddress, requestId := truthyText audit.requestId,
    metadata := metadata }

/-! ## What leaves the collections alone -/

/-- No collection has changed, and identifiers were at most drawn. -/
structure Untouched (s s' : AuditedStore) : Prop where
  collections : s'.collections = s.collections
  drawn : s.idsDrawn ≤ s'.idsDrawn

instance : Std.Refl Untouched := ⟨fun _ => ⟨rfl, le_refl _⟩⟩

instance : IsTrans AuditedStore Untouched :=
  ⟨fun _ _ _ h h' => ⟨h'.collections.trans h.collections, h.drawn.trans h'.drawn⟩⟩

theorem stays_now (R : Runtime) : Stays Untouched (now R) := fun _ => ⟨rfl, le_refl _⟩

theorem stays_drawId (R : Runtime) : Stays Untouched (drawId R) := fun _ => ⟨rfl, Nat.le_succ _⟩

theorem stays_check {α : Type} (r : Except String α) : Stays Untouched (check r) := stays_lift _

theorem stays_refuseIf (test : Bool) (reason : String) : Stays Untouched (refuseIf test reason) :=
  stays_ensure _ _

theorem stays_buildAuditRecord (R : Runtime) (event : AuditEvent) :
    Stays Untouched (buildAuditRecord R event) :=
  stays_bind (stays_drawId R) fun _ => stays_bind (stays_now R) fun _ =>
    stays_bind (stays_check _) fun _ => stays_pure _

@[simp]
theorem gives_refuseIf {Q : Unit → AuditedStore → Prop} {E : Halt → AuditedStore → Prop}
    {test : Bool} {reason : String} {s : AuditedStore} :
    Gives Q E (refuseIf test reason) s ↔
      (test = false → Q () s) ∧ (test = true → E (.refused reason) s) := by
  cases test <;> simp [refuseIf]

@[simp]
theorem gives_changeStore {Q : Unit → AuditedStore → Prop} {E : Halt → AuditedStore → Prop}
    {f : MemoryStore → MemoryStore} {s : AuditedStore} :
    Gives Q E (changeStore f) s ↔ Q () { s with toMemoryStore := f s.toMemoryStore } := gives_change

@[simp]
theorem gives_pushAudits {Q : Unit → AuditedStore → Prop} {E : Halt → AuditedStore → Prop}
    {records : List AuditRecord} {s : AuditedStore} :
    Gives Q E (pushAudits records) s ↔
      Q () { s with auditRecords := s.auditRecords ++ records } := gives_change

@[simp]
theorem gives_found {α : Type} {Q : α → AuditedStore → Prop} {E : Halt → AuditedStore → Prop}
    {value : AuditedStore → Option α} {reason : String} {s : AuditedStore} :
    Gives Q E (found value reason) s ↔
      (∀ a, value s = some a → Q a s) ∧ (value s = none → E (.refused reason) s) := by
  unfold found
  rw [gives_bind, gives_look]
  cases h : value s with
  | none => simp [refuse]
  | some a => simp

end screengoblin.server
