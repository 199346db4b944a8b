-- The digest of a request body. The player signs the digest of the canonical JSON that it
-- sends (apps/player/src/core/api.ts), and the server takes the digest of the canonical JSON
-- of what its schema makes of the parsed body (apps/api/src/routes/devices.ts,
-- device-proof/canonical.ts). Both are the same wherever the schema accepts the body.
import ScreenGoblin.CanonicalJson

open jsvalues

namespace screengoblin.bodies

/-! ## Objects -/

/-- An object literal, with a conditional spread for each property that may be missing. -/
def objectLiteral (rows : List (JsString × Option JsValue)) : JsValue :=
  .object true (rows.filterMap fun row => row.2.map fun x => (row.1, x)) false

/-- `fields[key]`, where `undefined` is `none`. -/
def property (key : JsString) (fields : List (JsString × JsValue)) : Option JsValue :=
  (fields.find? fun f => f.1 = key).map (·.2)

theorem property_eq_some {fields : List (JsString × JsValue)} (unique : (fields.map (·.1)).Nodup)
    {key : JsString} {x : JsValue} : property key fields = some x ↔ (key, x) ∈ fields := by
  unfold property
  rw [Option.map_eq_some_iff]
  constructor
  · rintro ⟨f, found, rfl⟩
    have same : f.1 = key := by simpa using List.find?_some found
    rw [← same]
    exact List.mem_of_find?_eq_some found
  · intro member
    cases found : fields.find? fun f => f.1 = key with
    | none =>
      have other := List.find?_eq_none.mp found (key, x) member
      simp at other
    | some f =>
      have same : f.1 = key := by simpa using List.find?_some found
      have field := List.inj_on_of_nodup_map unique (List.mem_of_find?_eq_some found) member same
      exact ⟨f, rfl, by rw [field]⟩

/-! ## The bodies of the player -/

/-- What the player reports. -/
structure Heartbeat where
  installationId : JsString
  playerVersion : JsString
  manifestVersion : Option JsString
  nowPlayingAssetId : Option JsString
  uptimeSeconds : JsNumber
  freeStorageBytes : JsNumber
  networkType : JsString
  occurredAt : JsString

/-- `value ? { key: value } : {}` -/
def ifTruthy (text : Option JsString) : Option JsValue :=
  match text with
  | some s => if s = [] then none else some (.string s)
  | none => none

def wireValue (value : Heartbeat) : JsValue := objectLiteral
  [(jsString "installationId", some (.string value.installationId)),
    (jsString "playerVersion", some (.string value.playerVersion)),
    (jsString "uptimeSeconds", some (.number value.uptimeSeconds)),
    (jsString "freeStorageBytes", some (.number value.freeStorageBytes)),
    (jsString "networkType", some (.string value.networkType)),
    (jsString "occurredAt", some (.string value.occurredAt)),
    (jsString "manifestVersion", ifTruthy value.manifestVersion),
    (jsString "nowPlayingAssetId", ifTruthy value.nowPlayingAssetId)]

/-- The body of `heartbeat`. -/
def heartbeatBody (N : NumberTexts) (value : Heartbeat) : Except String (List Char) :=
  canonicalJson N (wireValue value)

/-- The body of `manifest`. -/
def manifestBody (N : NumberTexts) : Except String (List Char) :=
  canonicalJson N (objectLiteral
    [(jsString "mediaDelivery", some (.string (jsString "authorization-v1"))),
      (jsString "protocolVersion", some (.number (.finite 2)))])

/-- The digest of a text: the hash of its UTF-8 bytes. -/
def textDigest (sha256Hex : ByteArray → String) (text : List Char) : String :=
  sha256Hex (String.ofList text).toUTF8

/-! ## The schemas of the server -/

/-- `z.string().min(least).max(most)` -/
def stringBetween (least most : Nat) : JsValue → Option JsString
  | .string s => if least ≤ s.length ∧ s.length ≤ most then some s else none
  | _ => none

/-- `/^[A-Za-z0-9_-]+$/` -/
def isIdentifier (s : JsString) : Bool :=
  !s.isEmpty && s.all fun u => (65 ≤ u && u ≤ 90) || (97 ≤ u && u ≤ 122) || (48 ≤ u && u ≤ 57) ||
    u == 95 || u == 45

def opaqueId (v : JsValue) : Option JsString :=
  (stringBetween 1 64 v).bind fun s => if isIdentifier s then some s else none

/-- `z.number().int().nonnegative().max(Number.MAX_SAFE_INTEGER)` -/
def safeCount : JsValue → Option JsNumber
  | .number (.finite q) =>
    if q.den = 1 ∧ 0 ≤ q ∧ q ≤ 9007199254740991 then some (.finite q) else none
  | .number .negativeZero => some .negativeZero
  | _ => none

/-- `z.iso.datetime()`, where a parameter tells the texts of the format. -/
def datetime (isoDatetime : JsString → Bool) : JsValue → Option JsString
  | .string s => if isoDatetime s then some s else none
  | _ => none

/-- `schema.optional()` -/
def optional {α : Type} (schema : JsValue → Option α) : Option JsValue → Option (Option α)
  | none => some none
  | some v => (schema v).map some

structure HeartbeatRequest where
  installationId : JsString
  playerVersion : JsString
  manifestVersion : Option JsString
  nowPlayingAssetId : Option JsString
  uptimeSeconds : JsNumber
  freeStorageBytes : JsNumber
  networkType : JsString
  occurredAt : JsString

def heartbeatKeys : List JsString :=
  [jsString "installationId", jsString "playerVersion", jsString "manifestVersion",
    jsString "nowPlayingAssetId", jsString "uptimeSeconds", jsString "freeStorageBytes",
    jsString "networkType", jsString "occurredAt"]

/-- The properties of a strict object: an object with no other key. -/
def strictObject (keys : List JsString) : JsValue → Option (List (JsString × JsValue))
  | .object _ fields _ => if fields.all fun f => keys.contains f.1 then some fields else none
  | _ => none

/-- `heartbeat.parse(request.body)` -/
def heartbeatSchema (isoDatetime : JsString → Bool) (body : JsValue) :
    Option HeartbeatRequest := do
  let fields ← strictObject heartbeatKeys body
  let installationId ← (property (jsString "installationId") fields).bind (stringBetween 8 200)
  let playerVersion ← (property (jsString "playerVersion") fields).bind (stringBetween 1 80)
  let manifestVersion ←
    optional (stringBetween 0 128) (property (jsString "manifestVersion") fields)
  let nowPlayingAssetId ← optional opaqueId (property (jsString "nowPlayingAssetId") fields)
  let uptimeSeconds ← (property (jsString "uptimeSeconds") fields).bind safeCount
  let freeStorageBytes ← (property (jsString "freeStorageBytes") fields).bind safeCount
  let networkType ← (property (jsString "networkType") fields).bind (stringBetween 1 40)
  let occurredAt ← (property (jsString "occurredAt") fields).bind (datetime isoDatetime)
  some { installationId, playerVersion, manifestVersion, nowPlayingAssetId, uptimeSeconds,
         freeStorageBytes, networkType, occurredAt }

/-- The properties that the server takes the digest of. -/
def heartbeatRows (input : HeartbeatRequest) : List (JsString × Option JsValue) :=
  [(jsString "installationId", some (.string input.installationId)),
    (jsString "playerVersion", some (.string input.playerVersion)),
    (jsString "manifestVersion", input.manifestVersion.map .string),
    (jsString "nowPlayingAssetId", input.nowPlayingAssetId.map .string),
    (jsString "uptimeSeconds", some (.number input.uptimeSeconds)),
    (jsString "freeStorageBytes", some (.number input.freeStorageBytes)),
    (jsString "networkType", some (.string input.networkType)),
    (jsString "occurredAt", some (.string input.occurredAt))]

def canonicalHeartbeatDigest (N : NumberTexts) (sha256Hex : ByteArray → String)
    (input : HeartbeatRequest) : Except String String :=
  (canonicalJson N (objectLiteral (heartbeatRows input))).map (textDigest sha256Hex)

/-- What is left of a request for a manifest: both properties are literals. -/
structure DeviceManifestRequest where
  protocolVersion : JsNumber
  mediaDelivery : JsString

def manifestKeys : List JsString := [jsString "protocolVersion", jsString "mediaDelivery"]

/-- `z.literal(2)` -/
def literalTwo : JsValue → Option JsNumber
  | .number n => if n = .finite 2 then some n else none
  | _ => none

/-- `z.literal(text)` -/
def literalText (text : JsString) : JsValue → Option JsString
  | .string s => if s = text then some s else none
  | _ => none

/-- `manifestRequest.parse(request.body)` -/
def manifestSchema (body : JsValue) : Option DeviceManifestRequest := do
  let fields ← strictObject manifestKeys body
  let protocolVersion ← (property (jsString "protocolVersion") fields).bind literalTwo
  let mediaDelivery ←
    (property (jsString "mediaDelivery") fields).bind (literalText (jsString "authorization-v1"))
  some { protocolVersion, mediaDelivery }

def manifestRows (input : DeviceManifestRequest) : List (JsString × Option JsValue) :=
  [(jsString "protocolVersion", some (.number input.protocolVersion)),
    (jsString "mediaDelivery", some (.string input.mediaDelivery))]

def canonicalManifestDigest (N : NumberTexts) (sha256Hex : ByteArray → String)
    (input : DeviceManifestRequest) : Except String String :=
  (canonicalJson N (objectLiteral (manifestRows input))).map (textDigest sha256Hex)

/-! ## What a schema accepts is what was sent -/

theorem unique_rows {rows : List (JsString × Option JsValue)}
    (different : (rows.map (·.1)).Nodup) :
    ((rows.filterMap fun row => row.2.map fun x => (row.1, x)).map (·.1)).Nodup := by
  refine List.Nodup.sublist ?_ different
  clear different
  induction rows with
  | nil => exact List.Sublist.slnil
  | cons row rest ih =>
    obtain ⟨key, value⟩ := row
    cases value with
    | none => exact ih.cons key
    | some x => exact ih.cons_cons key

theorem proper_objectLiteral {N : NumberTexts} {rows : List (JsString × Option JsValue)}
    (different : (rows.map (·.1)).Nodup)
    (values : ∀ row ∈ rows, ∀ x, row.2 = some x → Proper N x) :
    Proper N (objectLiteral rows) := by
  refine .node (unique_rows different) ?_
  intro x member
  obtain ⟨f, isField, rfl⟩ := List.mem_map.mp member
  obtain ⟨row, isRow, made⟩ := List.mem_filterMap.mp isField
  obtain ⟨y, value, rfl⟩ := Option.map_eq_some_iff.mp made
  exact values row isRow y value

/-- The rows that say each property of an object make the object again, in their order. -/
theorem rows_perm {rows : List (JsString × Option JsValue)} {fields : List (JsString × JsValue)}
    (unique : (fields.map (·.1)).Nodup) (different : (rows.map (·.1)).Nodup)
    (known : ∀ f ∈ fields, f.1 ∈ rows.map (·.1))
    (read : ∀ row ∈ rows, property row.1 fields = row.2) :
    (rows.filterMap fun row => row.2.map fun x => (row.1, x)).Perm fields := by
  have members : ∀ f, f ∈ rows.filterMap (fun row => row.2.map fun x => (row.1, x)) ↔
      f ∈ fields := by
    rintro ⟨key, x⟩
    rw [List.mem_filterMap]
    constructor
    · rintro ⟨row, isRow, made⟩
      obtain ⟨y, value, same⟩ := Option.map_eq_some_iff.mp made
      cases same
      rw [← property_eq_some unique, read row isRow, value]
    · intro member
      obtain ⟨row, isRow, same⟩ := List.mem_map.mp (known _ member)
      have value := read row isRow
      rw [same, (property_eq_some unique).mpr member] at value
      exact ⟨row, isRow, by rw [← value, same]; rfl⟩
  rw [List.perm_ext_iff_of_nodup (List.Nodup.of_map _ (unique_rows different)) (List.Nodup.of_map _ unique)]
  exact members

/-- Rearranged properties have the same text. -/
theorem canonicalJson_perm (N : NumberTexts) (plain u u' : Bool)
    {fields fields' : List (JsString × JsValue)} (unique : (fields.map (·.1)).Nodup) (perm : fields.Perm fields') :
    canonicalJson N (.object plain fields u) = canonicalJson N (.object plain fields' u') := by
  have keys : ((canonicalProperties N fields).map (·.1)).Nodup := by
    rw [canonicalProperties_eq, List.map_map]
    exact unique
  have texts : (canonicalProperties N fields).Perm (canonicalProperties N fields') := by
    rw [canonicalProperties_eq, canonicalProperties_eq]
    exact perm.map _
  rw [canonicalJson, canonicalJson, insertionSort_keyLe_perm keys texts]

theorem stringBetween_same {least most : Nat} {v : JsValue} {s : JsString}
    (accepted : stringBetween least most v = some s) : v = .string s := by
  cases v with
  | string t =>
    rw [stringBetween] at accepted
    split at accepted
    · cases accepted
      rfl
    · cases accepted
  | _ => cases accepted

theorem opaqueId_same {v : JsValue} {s : JsString} (accepted : opaqueId v = some s) :
    v = .string s := by
  obtain ⟨t, between, identifier⟩ := Option.bind_eq_some_iff.mp accepted
  split at identifier
  · cases identifier
    exact stringBetween_same between
  · cases identifier

theorem safeCount_same {v : JsValue} {n : JsNumber} (accepted : safeCount v = some n) :
    v = .number n := by
  cases v with
  | number m =>
    cases m with
    | finite q =>
      rw [safeCount] at accepted
      split at accepted
      · cases accepted
        rfl
      · cases accepted
    | negativeZero =>
      cases accepted
      rfl
    | infinite negative => cases accepted
    | nan => cases accepted
  | _ => cases accepted

theorem datetime_same {isoDatetime : JsString → Bool} {v : JsValue} {s : JsString}
    (accepted : datetime isoDatetime v = some s) : v = .string s := by
  cases v with
  | string t =>
    rw [datetime] at accepted
    split at accepted
    · cases accepted
      rfl
    · cases accepted
  | _ => cases accepted

theorem literalTwo_same {v : JsValue} {n : JsNumber} (accepted : literalTwo v = some n) :
    v = .number n := by
  cases v with
  | number m =>
    rw [literalTwo] at accepted
    split at accepted
    · cases accepted
      rfl
    · cases accepted
  | _ => cases accepted

theorem literalText_same {text : JsString} {v : JsValue} {s : JsString}
    (accepted : literalText text v = some s) : v = .string s := by
  cases v with
  | string t =>
    rw [literalText] at accepted
    split at accepted
    · cases accepted
      rfl
    · cases accepted
  | _ => cases accepted

/-- A required property that a schema leaves as it is. -/
theorem required_same {α : Type} {schema : JsValue → Option α} {wrap : α → JsValue}
    (same : ∀ v a, schema v = some a → v = wrap a) {value : Option JsValue} {a : α}
    (accepted : value.bind schema = some a) : value = some (wrap a) := by
  obtain ⟨v, found, passes⟩ := Option.bind_eq_some_iff.mp accepted
  rw [found, same v a passes]

theorem optional_same {α : Type} {schema : JsValue → Option α} {wrap : α → JsValue}
    (same : ∀ v a, schema v = some a → v = wrap a) {value : Option JsValue} {a : Option α}
    (accepted : optional schema value = some a) : value = a.map wrap := by
  cases value with
  | none =>
    cases accepted
    rfl
  | some v =>
    obtain ⟨b, passes, rfl⟩ := Option.map_eq_some_iff.mp accepted
    rw [same v b passes]
    rfl

theorem strictObject_some {keys : List JsString} {v : JsValue} {fields : List (JsString × JsValue)}
    (accepted : strictObject keys v = some fields) :
    (∃ plain u, v = .object plain fields u) ∧ ∀ f ∈ fields, f.1 ∈ keys := by
  cases v with
  | object plain fields' u =>
    rw [strictObject] at accepted
    split at accepted
    · rename_i known
      cases accepted
      refine ⟨⟨plain, u, rfl⟩, ?_⟩
      intro f member
      have isKey := List.all_eq_true.mp known f member
      exact List.contains_iff_mem.mp isKey
    · cases accepted
  | _ => cases accepted

/-- The schema accepts an object whose properties are those of the rows. -/
theorem heartbeatSchema_some {isoDatetime : JsString → Bool} {v : JsValue}
    {input : HeartbeatRequest} (accepted : heartbeatSchema isoDatetime v = some input) :
    ∃ plain fields u, v = .object plain fields u ∧ (∀ f ∈ fields, f.1 ∈ heartbeatKeys) ∧
      ∀ row ∈ heartbeatRows input, property row.1 fields = row.2 := by
  unfold heartbeatSchema at accepted
  obtain ⟨fields, strict, accepted⟩ := Option.bind_eq_some_iff.mp accepted
  obtain ⟨installationId, h1, accepted⟩ := Option.bind_eq_some_iff.mp accepted
  obtain ⟨playerVersion, h2, accepted⟩ := Option.bind_eq_some_iff.mp accepted
  obtain ⟨manifestVersion, h3, accepted⟩ := Option.bind_eq_some_iff.mp accepted
  obtain ⟨nowPlayingAssetId, h4, accepted⟩ := Option.bind_eq_some_iff.mp accepted
  obtain ⟨uptimeSeconds, h5, accepted⟩ := Option.bind_eq_some_iff.mp accepted
  obtain ⟨freeStorageBytes, h6, accepted⟩ := Option.bind_eq_some_iff.mp accepted
  obtain ⟨networkType, h7, accepted⟩ := Option.bind_eq_some_iff.mp accepted
  obtain ⟨occurredAt, h8, accepted⟩ := Option.bind_eq_some_iff.mp accepted
  cases accepted
  obtain ⟨⟨plain, u, rfl⟩, known⟩ := strictObject_some strict
  refine ⟨plain, fields, u, rfl, known, ?_⟩
  simp only [heartbeatRows, List.forall_mem_cons, List.not_mem_nil, false_implies, implies_true,
    and_true]
  exact ⟨required_same (fun _ _ => stringBetween_same) h1,
    required_same (fun _ _ => stringBetween_same) h2,
    optional_same (fun _ _ => stringBetween_same) h3, optional_same (fun _ _ => opaqueId_same) h4,
    required_same (fun _ _ => safeCount_same) h5, required_same (fun _ _ => safeCount_same) h6,
    required_same (fun _ _ => stringBetween_same) h7,
    required_same (fun _ _ => datetime_same) h8⟩

theorem manifestSchema_some {v : JsValue} {input : DeviceManifestRequest}
    (accepted : manifestSchema v = some input) :
    ∃ plain fields u, v = .object plain fields u ∧ (∀ f ∈ fields, f.1 ∈ manifestKeys) ∧
      ∀ row ∈ manifestRows input, property row.1 fields = row.2 := by
  unfold manifestSchema at accepted
  obtain ⟨fields, strict, accepted⟩ := Option.bind_eq_some_iff.mp accepted
  obtain ⟨protocolVersion, h1, accepted⟩ := Option.bind_eq_some_iff.mp accepted
  obtain ⟨mediaDelivery, h2, accepted⟩ := Option.bind_eq_some_iff.mp accepted
  cases accepted
  obtain ⟨⟨plain, u, rfl⟩, known⟩ := strictObject_some strict
  refine ⟨plain, fields, u, rfl, known, ?_⟩
  simp only [manifestRows, List.forall_mem_cons, List.not_mem_nil, false_implies, implies_true,
    and_true]
  exact ⟨required_same (fun _ _ => literalTwo_same) h1,
    required_same (fun _ _ => literalText_same) h2⟩

/-- What a row gives is JSON wherever its value is a string, or a number that is written. -/
theorem json_objectLiteral {N : NumberTexts} {rows : List (JsString × Option JsValue)}
    {text : List Char} (given : canonicalJson N (objectLiteral rows) = .ok text)
    (plain : ∀ row ∈ rows, ∀ x, row.2 = some x → (∃ s, x = .string s) ∨ ∃ n, x = .number n) :
    IsJson (objectLiteral rows) := by
  rw [isJson_iff]
  refine ⟨supported_of_canonicalJson N given, .node rfl ?_⟩
  intro x member
  obtain ⟨f, isField, rfl⟩ := List.mem_map.mp member
  obtain ⟨row, isRow, made⟩ := List.mem_filterMap.mp isField
  obtain ⟨y, value, rfl⟩ := Option.map_eq_some_iff.mp made
  rcases plain row isRow y value with ⟨s, rfl⟩ | ⟨n, rfl⟩
  · exact .leaf trivial rfl
  · exact .leaf trivial rfl

/-- Where the rows of an accepted request say each property of the parsed body, the text of the
rows is the body. -/
theorem text_of_rows {N : NumberTexts} {wire v : JsValue} {body : List Char}
    (rows : List (JsString × Option JsValue)) {keys : List JsString} (json : IsJson wire)
    (proper : Proper N wire) (sent : canonicalJson N wire = .ok body)
    (parsed : parse N body = some v) (different : (rows.map (·.1)).Nodup)
    (named : keys = rows.map (·.1))
    (accepted : ∃ plain fields u, v = .object plain fields u ∧ (∀ f ∈ fields, f.1 ∈ keys) ∧
      ∀ row ∈ rows, property row.1 fields = row.2) :
    canonicalJson N (objectLiteral rows) = .ok body := by
  obtain ⟨text, read⟩ := canonicalJson_json json proper
  rw [sent] at text
  obtain rfl := Except.ok.inj text
  rw [parsed] at read
  obtain rfl := Option.some.inj read
  have again : canonicalJson N (sortKeys wire) = .ok (write N (sortKeys wire)) := by
    rw [canonicalJson_sortKeys json proper, sent]
  have legible := legible_sortKeys json proper
  obtain ⟨plain, fields, u, same, known, values⟩ := accepted
  rw [same] at legible again
  obtain ⟨⟨rfl, _⟩, unique, _⟩ := legible
  subst named
  have perm := rows_perm unique different known values
  have texts := canonicalJson_perm N true u false unique perm.symm
  unfold objectLiteral
  rw [← texts, again, same]

theorem keys_different : heartbeatKeys.Nodup ∧ manifestKeys.Nodup := by
  decide +kernel

/-- The digest that the server takes of an accepted heartbeat is the digest of the body. -/
theorem heartbeat_digest {N : NumberTexts} {sha256Hex : ByteArray → String}
    {isoDatetime : JsString → Bool} {value : Heartbeat} {body : List Char} {v : JsValue}
    {input : HeartbeatRequest} (proper : Proper N (wireValue value))
    (sent : heartbeatBody N value = .ok body) (parsed : parse N body = some v)
    (accepted : heartbeatSchema isoDatetime v = some input) :
    canonicalHeartbeatDigest N sha256Hex input = .ok (textDigest sha256Hex body) := by
  have json : IsJson (wireValue value) := by
    apply json_objectLiteral sent
    have truthy : ∀ text x, ifTruthy text = some x → ∃ s, x = .string s := by
      intro text x made
      cases text with
      | none => cases made
      | some s =>
        rw [ifTruthy] at made
        split at made
        · cases made
        · cases made
          exact ⟨s, rfl⟩
    simp only [List.forall_mem_cons, List.not_mem_nil, false_implies, implies_true, and_true,
      Option.some.injEq, forall_eq']
    exact ⟨Or.inl ⟨_, rfl⟩, Or.inl ⟨_, rfl⟩, Or.inr ⟨_, rfl⟩, Or.inr ⟨_, rfl⟩, Or.inl ⟨_, rfl⟩,
      Or.inl ⟨_, rfl⟩, fun x made => Or.inl (truthy _ x made),
      fun x made => Or.inl (truthy _ x made)⟩
  have text := text_of_rows (heartbeatRows input) json proper sent parsed
    keys_different.1 rfl (heartbeatSchema_some accepted)
  unfold canonicalHeartbeatDigest
  rw [text]
  rfl

/-- The digest that the server takes of an accepted request for a manifest is the digest of the
body. -/
theorem manifest_digest {N : NumberTexts} {sha256Hex : ByteArray → String} {body : List Char}
    {v : JsValue} {input : DeviceManifestRequest} (two : N.Exact 2)
    (sent : manifestBody N = .ok body) (parsed : parse N body = some v)
    (accepted : manifestSchema v = some input) :
    canonicalManifestDigest N sha256Hex input = .ok (textDigest sha256Hex body) := by
  have json := json_objectLiteral sent (by
    simp only [List.forall_mem_cons, List.not_mem_nil, false_implies, implies_true, and_true,
      Option.some.injEq, forall_eq']
    exact ⟨Or.inl ⟨_, rfl⟩, Or.inr ⟨_, rfl⟩⟩)
  have proper : Proper N (objectLiteral
      [(jsString "mediaDelivery", some (.string (jsString "authorization-v1"))),
        (jsString "protocolVersion", some (.number (.finite 2)))]) := by
    have different : [jsString "mediaDelivery", jsString "protocolVersion"].Nodup :=
      List.nodup_reverse.mpr keys_different.2
    apply proper_objectLiteral
    · exact different
    · simp only [List.forall_mem_cons, List.not_mem_nil, false_implies, implies_true, and_true,
        Option.some.injEq, forall_eq']
      exact ⟨.leaf trivial rfl, .leaf two rfl⟩
  have text := text_of_rows (manifestRows input) json proper sent parsed
    keys_different.2 rfl (manifestSchema_some accepted)
  unfold canonicalManifestDigest
  rw [text]
  rfl

/-! ## Where the function is canonical -/

/-- The text of a JSON value is read as the value, and has no other text; what is no JSON value
has no text. -/
def Canonical (N : NumberTexts) (v : JsValue) : Prop :=
  (IsJson v → ∃ text w, canonicalJson N v = .ok text ∧ parse N text = some w ∧ SameJson v w ∧
    canonicalJson N w = .ok text) ∧
  (¬ IsJson v → ∃ e, canonicalJson N v = .error e)

theorem canonical_iff {N : NumberTexts} {v : JsValue} (proper : Proper N v) :
    Canonical N v ↔ (Supported v → Whole v) := by
  constructor
  · rintro ⟨_, rejects⟩ supported
    by_cases json : IsJson v
    · exact (isJson_iff.mp json).2
    · obtain ⟨e, error⟩ := rejects json
      rw [canonicalJson_supported N supported] at error
      cases error
  · intro whole
    constructor
    · intro json
      obtain ⟨text, read⟩ := canonicalJson_json json proper
      refine ⟨_, _, text, read, sameJson_sortKeys json proper, ?_⟩
      rw [canonicalJson_sortKeys json proper, text]
    · intro other
      cases given : canonicalJson N v with
      | error e => exact ⟨e, rfl⟩
      | ok text =>
        have supported := supported_of_canonicalJson N given
        exact absurd (isJson_iff.mpr ⟨supported, whole supported⟩) other

/-- The function is canonical just on the values of which nothing is passed over. Two JSON values
have one text just when they are equal up to the order of their keys, and the server takes the
digest that the player signs of each body its schema accepts. -/
theorem canonical_json_is_canonical_iff_nothing_is_passed_over (N : NumberTexts)
    (sha256Hex : ByteArray → String) (isoDatetime : JsString → Bool) :
    (∀ v, Proper N v → (Canonical N v ↔ (Supported v → Whole v))) ∧
    (∀ v w, Proper N v → Proper N w → IsJson v → IsJson w →
      (canonicalJson N v = canonicalJson N w ↔ SameJson v w)) ∧
    (∀ value body v input, Proper N (wireValue value) → heartbeatBody N value = .ok body →
      parse N body = some v → heartbeatSchema isoDatetime v = some input →
      canonicalHeartbeatDigest N sha256Hex input = .ok (textDigest sha256Hex body)) ∧
    (∀ body v input, N.Exact 2 → manifestBody N = .ok body → parse N body = some v →
      manifestSchema v = some input →
      canonicalManifestDigest N sha256Hex input = .ok (textDigest sha256Hex body)) :=
  ⟨fun _ proper => canonical_iff proper,
    fun _ _ proper proper' json json' => canonicalJson_eq_iff json json' proper proper',
    fun _ _ _ _ proper sent parsed accepted => heartbeat_digest proper sent parsed accepted,
    fun _ _ _ two sent parsed accepted => manifest_digest two sent parsed accepted⟩

/-- The texts of integers. -/
def integerTexts : NumberTexts where
  text := jsontext.integerNumerals.text
  value token := (jsontext.integerNumerals.value token).map .finite

theorem integerTexts_exact (n : Int) : integerTexts.Exact n := by
  obtain ⟨value, some_text, chars⟩ := jsontext.integerNumerals_exact n
  exact ⟨congrArg (Option.map JsNumber.finite) value, some_text, chars⟩

/-- `[, 1]` -/
def sparse : JsValue := .array [.hole, .number (.finite 1)] false

theorem proper_sparse : Proper integerTexts sparse := by
  refine .node trivial ?_
  intro x member
  rcases List.mem_cons.mp member with rfl | member
  · exact .leaf trivial rfl
  · obtain rfl := List.mem_singleton.mp member
    exact .leaf (integerTexts_exact 1) rfl

/-- An array with a hole is no JSON value. Its text is given all the same, and is no JSON. -/
theorem a_hole_is_passed_over : Proper integerTexts sparse ∧ ¬ IsJson sparse ∧
    canonicalJson integerTexts sparse = .ok ['[', ',', '1', ']'] ∧
    (parse integerTexts ['[', ',', '1', ']']).isNone = true := by
  refine ⟨proper_sparse, ?_, by decide +kernel, by decide +kernel⟩
  intro json
  exact (json.element (x := .hole) List.mem_cons_self).here

def goblin : Heartbeat where
  installationId := jsString "install-1"
  playerVersion := jsString "1.0.0"
  manifestVersion := some (jsString "m1")
  nowPlayingAssetId := none
  uptimeSeconds := .finite 60
  freeStorageBytes := .finite 1000
  networkType := jsString "wifi"
  occurredAt := jsString "2026-01-01T00:00:00.000Z"

def goblinTime (text : JsString) : Bool := text == jsString "2026-01-01T00:00:00.000Z"

/-- The hash of the body of `goblin`. -/
def goblinHash (_ : ByteArray) : String :=
  "d449f8219ff5b28cbfe23f59faf3987211c3f71db70fc3c3ef35a7ae0255f043"

theorem proper_goblin : Proper integerTexts (wireValue goblin) := by
  have different : [jsString "installationId", jsString "playerVersion", jsString "uptimeSeconds",
      jsString "freeStorageBytes", jsString "networkType", jsString "occurredAt",
      jsString "manifestVersion", jsString "nowPlayingAssetId"].Nodup := by
    have moved := (@List.perm_append_comm _
      [jsString "manifestVersion", jsString "nowPlayingAssetId"]
      [jsString "uptimeSeconds", jsString "freeStorageBytes", jsString "networkType",
        jsString "occurredAt"]).append_left [jsString "installationId", jsString "playerVersion"]
    exact moved.nodup_iff.mp keys_different.1
  have version : ifTruthy goblin.manifestVersion = some (.string (jsString "m1")) := by
    rfl
  unfold wireValue
  rw [version]
  apply proper_objectLiteral
  · exact different
  · simp only [List.forall_mem_cons, List.not_mem_nil, false_implies, implies_true, and_true,
      Option.some.injEq, forall_eq']
    refine ⟨.leaf trivial rfl, .leaf trivial rfl, .leaf (integerTexts_exact 60) rfl,
      .leaf (integerTexts_exact 1000) rfl, .leaf trivial rfl, .leaf trivial rfl,
      .leaf trivial rfl, ?_⟩
    intro x none
    cases none

/-- What the server makes of the body of `goblin`. -/
def goblinRequest : Option HeartbeatRequest :=
  match heartbeatBody integerTexts goblin with
  | .ok body => (parse integerTexts body).bind (heartbeatSchema goblinTime)
  | .error _ => none

/-- The array with a hole is one of the values of which something is passed over, and the body of
a heartbeat has the digest that the player signs. -/
theorem canonical_json_passes_over_a_hole :
    (Canonical integerTexts sparse ↔ (Supported sparse → Whole sparse)) ∧
    ∃ body input, heartbeatBody integerTexts goblin = .ok body ∧
      canonicalHeartbeatDigest integerTexts goblinHash input =
        .ok (textDigest goblinHash body) := by
  have law := canonical_json_is_canonical_iff_nothing_is_passed_over integerTexts goblinHash
    goblinTime
  refine ⟨law.1 sparse proper_sparse, ?_⟩
  have accepted : goblinRequest.isSome = true := by
    decide +kernel
  obtain ⟨input, made⟩ := Option.isSome_iff_exists.mp accepted
  unfold goblinRequest at made
  cases sent : heartbeatBody integerTexts goblin with
  | error e => rw [sent] at made; cases made
  | ok body =>
    rw [sent] at made
    obtain ⟨v, parsed, passes⟩ := Option.bind_eq_some_iff.mp made
    exact ⟨body, input, rfl, law.2.2.1 goblin body v input proper_goblin sent parsed passes⟩

end screengoblin.bodies
