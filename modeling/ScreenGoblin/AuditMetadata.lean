-- The metadata of an audit event on its way into the database: what the API accepts
-- (apps/api/src/audit/integrity.ts) over objects that may share or contain each other, what
-- PostgreSQL stores and how it writes that as text, and the check on its shape
-- (20260912160000_audit_event_local_integrity).
import ScreenGoblin.AuditTrail
import ScreenGoblin.JsValues

open jsontext jsvalues

namespace screengoblin.metadata

open server (AUDIT_METADATA_MAX_BYTES AUDIT_METADATA_MAX_DEPTH AUDIT_METADATA_MAX_OBJECT_KEYS
  AUDIT_METADATA_MAX_ARRAY_ITEMS AUDIT_METADATA_MAX_STRING_BYTES)

/-! ## Values -/

-- the numbers of JavaScript
variable {N : Type}

/-- An array or an object is told by its address. `other` is a function, a symbol or a bigint. -/
inductive Value (N : Type) where
  | undefined
  | null
  | boolean (b : Bool)
  | number (n : N)
  | string (s : JsString)
  | other
  | reference (address : Nat)

inductive Prototype where
  | objectPrototype
  | null
  | other
  deriving DecidableEq

/-- A descriptor of an own property. The value of an accessor is `undefined`. -/
structure Descriptor (N : Type) where
  enumerable : Bool := true
  get : Bool := false
  set : Bool := false
  value : Value N

/-- The descriptors under string keys are in the order of `Object.entries`. -/
structure PlainObject (N : Type) where
  prototype : Prototype := .objectPrototype
  symbols : Nat := 0
  descriptors : List (JsString × Descriptor N)

inductive Object (N : Type) where
  -- a position without an element reads as `undefined`
  | array (items : List (Value N))
  | object (object : PlainObject N)

abbrev Heap (N : Type) := Nat → Object N

inductive Thrown where
  | typeError (message : String)
  | rangeError (message : String)
  deriving DecidableEq

/-! ## Strings -/

/-- `Buffer.byteLength(value, "utf8")`. A surrogate on its own counts as the replacement
character. -/
def byteLength : JsString → Nat
  | [] => 0
  | [u] => if u.toNat < 0x80 then 1 else if u.toNat < 0x800 then 2 else 3
  | high :: low :: rest =>
    match pairScalar high.toNat low.toNat with
    | some _ => 4 + byteLength rest
    | none => (if high.toNat < 0x80 then 1 else if high.toNat < 0x800 then 2 else 3) +
        byteLength (low :: rest)

/-- The bytes of a text in UTF-8. -/
def octetLength (text : List Char) : Nat := (text.map Char.utf8Size).sum

def isLeading (codeUnit : UInt16) : Bool := 0xd800 ≤ codeUnit && codeUnit ≤ 0xdbff

def isTrailing (codeUnit : UInt16) : Bool := 0xdc00 ≤ codeUnit && codeUnit ≤ 0xdfff

def assertPostgresTextCompatible (field : String) : JsString → Except Thrown Unit
  | [] => .ok ()
  | codeUnit :: rest =>
    if codeUnit = 0 then .error (.typeError s!"{field} cannot contain the U+0000 character")
    else if isLeading codeUnit then
      match rest with
      | trailing :: rest =>
        if isTrailing trailing then assertPostgresTextCompatible field rest
        else .error (.typeError s!"{field} cannot contain unpaired UTF-16 surrogates")
      | [] => .error (.typeError s!"{field} cannot contain unpaired UTF-16 surrogates")
    else if isTrailing codeUnit then
      .error (.typeError s!"{field} cannot contain unpaired UTF-16 surrogates")
    else assertPostgresTextCompatible field rest

/-! ## The validation -/

/-- A limit is exceeded. -/
def exceeds (what : String) (limit : Nat) (unit : String) : Thrown :=
  .rangeError s!"Audit metadata{what} cannot exceed {limit} {unit}"

def tooManyBytes : Thrown :=
  exceeds "" AUDIT_METADATA_MAX_BYTES "PostgreSQL-text-estimate bytes"

/-- The objects that were visited. -/
abbrev Seen := List Nat

abbrev Estimate := Except Thrown (Nat × Seen)

section

-- a nested call
variable (validate : Value N → Seen → Estimate)

/-- The loop over the items of an array. -/
def validateItems (index bytes : Nat) (seen : Seen) : List (Value N) → Estimate
  | [] => .ok (bytes, seen)
  | item :: rest =>
    let bytes := if index > 0 then bytes + 2 else bytes
    match validate item seen with
    | .error thrown => .error thrown
    | .ok (estimate, seen) =>
      let bytes := bytes + estimate
      if bytes > AUDIT_METADATA_MAX_BYTES then .error tooManyBytes
      else validateItems (index + 1) bytes seen rest

/-- The loop over the properties of an object. -/
def validateEntries (index bytes : Nat) (seen : Seen) : List (JsString × Descriptor N) → Estimate
  | [] => .ok (bytes, seen)
  | (key, descriptor) :: rest =>
    if !descriptor.enumerable || descriptor.get || descriptor.set then
      .error (.typeError "Audit metadata must contain only enumerable data properties")
    else
      let bytes := if index > 0 then bytes + 2 else bytes
      match assertPostgresTextCompatible "Audit metadata keys" key with
      | .error thrown => .error thrown
      | .ok () =>
        let bytes := bytes + (octetLength (quote key) + 2)
        match validate descriptor.value seen with
        | .error thrown => .error thrown
        | .ok (estimate, seen) =>
          let bytes := bytes + estimate
          if bytes > AUDIT_METADATA_MAX_BYTES then .error tooManyBytes
          else validateEntries (index + 1) bytes seen rest

end

section

-- `Number.isFinite`
variable (isFinite : N → Bool)

variable (heap : Heap N)

/-- The bytes of a value in the text that PostgreSQL makes of it, at most. It ends for every value,
also for one that contains itself, because each nested call is one level deeper. -/
def validateJsonValue (value : Value N) (depth : Nat) (seen : Seen) : Estimate :=
  if _ : depth > AUDIT_METADATA_MAX_DEPTH then
    .error (exceeds "" AUDIT_METADATA_MAX_DEPTH "nested levels")
  else
    match value with
    | .null => .ok (4, seen)
    | .boolean b => .ok (if b then 4 else 5, seen)
    | .string s =>
      match assertPostgresTextCompatible "Audit metadata strings" s with
      | .error thrown => .error thrown
      | .ok () =>
        if byteLength s > AUDIT_METADATA_MAX_STRING_BYTES then
          .error (exceeds " strings" AUDIT_METADATA_MAX_STRING_BYTES "UTF-8 bytes")
        else .ok (octetLength (quote s), seen)
    | .number n =>
      if !isFinite n then .error (.typeError "Audit metadata numbers must be finite")
      else .ok (330, seen)
    | .undefined | .other => .error (.typeError "Audit metadata must contain only JSON values")
    | .reference address =>
      if seen.contains address then
        .error (.typeError "Audit metadata cannot contain cycles or repeated object references")
      else
        let seen := address :: seen
        match heap address with
        | .array items =>
          if items.length > AUDIT_METADATA_MAX_ARRAY_ITEMS then
            .error (exceeds " arrays" AUDIT_METADATA_MAX_ARRAY_ITEMS "items")
          else
            validateItems (fun item seen => validateJsonValue item (depth + 1) seen) 0 2 seen items
        | .object object =>
          if object.prototype ≠ .objectPrototype ∧ object.prototype ≠ .null then
            .error (.typeError "Audit metadata objects must be plain JSON objects")
          else if object.symbols > 0 then
            .error (.typeError "Audit metadata cannot contain symbol keys")
          else if object.descriptors.length > AUDIT_METADATA_MAX_OBJECT_KEYS then
            .error (exceeds " objects" AUDIT_METADATA_MAX_OBJECT_KEYS "keys")
          else
            validateEntries (fun value seen => validateJsonValue value (depth + 1) seen) 0 2 seen
              object.descriptors
termination_by AUDIT_METADATA_MAX_DEPTH + 1 - depth
decreasing_by all_goals omega

/-- The part of `assertAuditEventIntegrity` that is about the metadata. -/
def assertMetadataIntegrity (metadata : Value N) : Except Thrown Unit :=
  match metadata with
  | .reference address =>
    match heap address with
    | .array _ => .error (.typeError "Audit metadata must be a JSON object")
    | .object _ =>
      match validateJsonValue isFinite heap metadata 0 [] with
      | .error thrown => .error thrown
      | .ok (estimatedBytes, _) =>
        if estimatedBytes > AUDIT_METADATA_MAX_BYTES then .error tooManyBytes else .ok ()
  | _ => .error (.typeError "Audit metadata must be a JSON object")

end

/-! ## What PostgreSQL stores -/

/-- A `jsonb` value. A number is its text. -/
inductive Jsonb where
  | null
  | boolean (b : Bool)
  | number (text : List Char)
  | string (s : List Char)
  | array (items : List Jsonb)
  | object (members : List (List Char × Jsonb))

/-- The text of a string without unpaired surrogates. -/
def decode : JsString → Option (List Char)
  | [] => some []
  | [u] => (scalar u.toNat).map fun c => [c]
  | high :: low :: rest =>
    match pairScalar high.toNat low.toNat with
    | some c => (decode rest).map fun text => c :: text
    | none =>
      match scalar high.toNat with
      | some c => (decode (low :: rest)).map fun text => c :: text
      | none => none

/-- A text is stored unless it has the character U+0000. -/
def StoresText (s : JsString) (text : List Char) : Prop :=
  decode s = some text ∧ Char.ofNat 0 ∉ text

section

-- the text of a finite number that PostgreSQL made a `numeric` of
variable (isFinite : N → Bool) (numericText : N → List Char) (heap : Heap N)

/-- The `jsonb` value that a value is stored as. The members of an object are in an order of
PostgreSQL's own. -/
inductive Stores : Value N → Jsonb → Prop
  | null : Stores .null .null
  | boolean (b : Bool) : Stores (.boolean b) (.boolean b)
  | number (n : N) (finite : isFinite n = true) : Stores (.number n) (.number (numericText n))
  | string (s : JsString) (text : List Char) (stored : StoresText s text) :
      Stores (.string s) (.string text)
  | array (address : Nat) (items : List (Value N)) (stored : List Jsonb)
      (here : heap address = .array items) (each : List.Forall₂ Stores items stored) :
      Stores (.reference address) (.array stored)
  | object (address : Nat) (object : PlainObject N) (values : List Jsonb)
      (texts : List (List Char)) (members : List (List Char × Jsonb))
      (here : heap address = .object object)
      (keys : List.Forall₂ StoresText (object.descriptors.map Prod.fst) texts)
      (each : List.Forall₂ Stores (object.descriptors.map fun entry => entry.2.value) values)
      (same : members.Perm (texts.zip values)) : Stores (.reference address) (.object members)

end

/-! ## The text of a `jsonb` value -/

/-- One character of `escape_json`. -/
def escapeJsonChar (c : Char) : List Char :=
  if c.toNat = 8 then ['\\', 'b']
  else if c.toNat = 12 then ['\\', 'f']
  else if c.toNat = 10 then ['\\', 'n']
  else if c.toNat = 13 then ['\\', 'r']
  else if c.toNat = 9 then ['\\', 't']
  else if c = '"' then ['\\', '"']
  else if c = '\\' then ['\\', '\\']
  else if c.toNat < 32 then '\\' :: 'u' :: hex4 c.toNat
  else [c]

def escapeJson (text : List Char) : List Char := '"' :: (text.flatMap escapeJsonChar ++ ['"'])

/-- Texts with `, ` between them. -/
def commaSeparated : List (List Char) → List Char
  | [] => []
  | text :: rest => text ++ rest.flatMap fun next => ',' :: ' ' :: next

mutual

/-- `value::TEXT` -/
def Jsonb.text : Jsonb → List Char
  | .null => "null".toList
  | .boolean true => "true".toList
  | .boolean false => "false".toList
  | .number text => text
  | .string s => escapeJson s
  | .array items => '[' :: (commaSeparated (itemTexts items) ++ [']'])
  | .object members => '\x7b' :: (commaSeparated (memberTexts members) ++ ['\x7d'])

def itemTexts : List Jsonb → List (List Char)
  | [] => []
  | item :: rest => item.text :: itemTexts rest

def memberTexts : List (List Char × Jsonb) → List (List Char)
  | [] => []
  | (key, value) :: rest => (escapeJson key ++ ':' :: ' ' :: value.text) :: memberTexts rest

end

/-! ## The check of the database -/

def auditEventMetadataShapeValid (value : Jsonb) (depth : Nat) : Bool :=
  if _ : depth > 8 then false
  else
    match value with
    | .object members =>
      if members.length > 64 then false
      else members.all fun (_, child) => auditEventMetadataShapeValid child (depth + 1)
    | .array items =>
      if items.length > 256 then false
      else items.all fun child => auditEventMetadataShapeValid child (depth + 1)
    | .string text => !(octetLength text > 2048)
    | .number _ | .boolean _ | .null => true
termination_by 9 - depth
decreasing_by all_goals omega

/-- The checks on `metadata` that do not depend on how it is compressed:
`AuditEvent_metadata_object`, `AuditEvent_metadata_logical_size` and `AuditEvent_metadata_shape`. -/
def metadataChecks (metadata : Jsonb) : Bool :=
  (match metadata with
    | .object _ => true
    | _ => false) &&
  octetLength metadata.text ≤ 16384 && auditEventMetadataShapeValid metadata 0

end screengoblin.metadata
