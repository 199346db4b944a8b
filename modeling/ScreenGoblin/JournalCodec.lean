-- The stored form of the device command journal. Encoding and parsing are inverse to each other
-- between the commands that operations store and the maps that are accepted. Any other map is
-- reported as corrupt and never overwritten.
import ScreenGoblin.JournalLaws

open scripts Script histories

namespace screengoblin.journal

/-! ## Accepted maps -/

/-- Two lists of values that are the same map. -/
def SameMap (values values' : Values) : Prop :=
  ∀ name, values.lookup name = values'.lookup name

theorem parseStoredNumber_text {value : Option String} {n : Int}
    (ok : parseStoredNumber value = .ok n) : value = some (toString n) := by
  unfold parseStoredNumber at ok
  split at ok
  · cases ok
  · split at ok
    · cases ok
    · split at ok
      · cases ok
      · split at ok
        · rename_i canonical
          cases ok
          rw [canonical]
        · cases ok

theorem valueOf_text {value : Option String} {state : CommandState}
    (ok : CommandState.valueOf value = .ok state) : value = some state.name := by
  unfold CommandState.valueOf at ok
  split at ok
  · cases ok
    assumption
  split at ok
  · cases ok
    assumption
  split at ok
  · cases ok
    assumption
  split at ok
  · cases ok
    assumption
  · cases ok

theorem parseBoolean_text {value : Option String} {b : Bool} (ok : parseBoolean value = .ok b) :
    value = some (toString b) := by
  unfold parseBoolean at ok
  split at ok
  · cases ok
    assumption
  split at ok
  · cases ok
    assumption
  · cases ok

theorem lookup_other {values : Values} (keys : hasStateKeys values = true) {name : String}
    (other : name ∉ STATE_KEYS) : values.lookup name = none := by
  unfold hasStateKeys at keys
  rw [Bool.and_eq_true] at keys
  rw [List.lookup_eq_none_iff]
  intro entry member
  have known := List.all_eq_true.mp keys.1 entry member
  rw [List.contains_iff_mem] at known
  rw [bne_iff_ne]
  rintro rfl
  exact other known

/-- A map that is accepted is the encoding of what it is parsed as. -/
theorem encode_parse {values : Values} {s : Snapshot}
    (parsed : Snapshot.parse values = .ok (some s)) : SameMap s.encode values := by
  unfold Snapshot.parse at parsed
  split at parsed
  · cases parsed
  split at parsed
  · cases parsed
  rename_i keys
  rw [Bool.not_eq_true, Bool.not_eq_false'] at keys
  split at parsed
  · cases parsed
  rename_i version
  rw [Decidable.not_not] at version
  obtain ⟨generation, hgeneration, parsed⟩ := bind_ok parsed
  obtain ⟨sequence, hsequence, parsed⟩ := bind_ok parsed
  obtain ⟨commandId, hcommandId, parsed⟩ := bind_ok parsed
  obtain ⟨action, haction, parsed⟩ := bind_ok parsed
  obtain ⟨lifecycle, hlifecycle, parsed⟩ := bind_ok parsed
  obtain ⟨state, hstate, parsed⟩ := bind_ok parsed
  obtain ⟨ack, hack, parsed⟩ := bind_ok parsed
  obtain ⟨restart, hrestart, parsed⟩ := bind_ok parsed
  simp only at parsed
  split at parsed
  · cases parsed
  cases parsed
  intro name
  by_cases known : name ∈ STATE_KEYS
  · simp only [STATE_KEYS, List.mem_cons, List.not_mem_nil, or_false] at known
    rcases known with rfl | rfl | rfl | rfl | rfl | rfl | rfl | rfl | rfl
    · exact version.symm
    · exact (parseStoredNumber_text hgeneration).symm
    · exact (parseStoredNumber_text hsequence).symm
    · exact (parseStoredUuid_ok.mp hcommandId).1.symm
    · exact (parseStoredAction_ok.mp haction).1.symm
    · exact (parseStoredUuid_ok.mp hlifecycle).1.symm
    · exact (valueOf_text hstate).symm
    · exact (parseBoolean_text hack).symm
    · exact (parseBoolean_text hrestart).symm
  · rw [lookup_other keys known]
    exact lookup_other rfl known

theorem SameMap.hasKey {values values' : Values} (same : SameMap values values') {name : String} :
    (∃ entry ∈ values, entry.1 = name) ↔ ∃ entry ∈ values', entry.1 = name := by
  have key (values : Values) :
      (∃ entry ∈ values, entry.1 = name) ↔ (values.lookup name).isSome = true := by
    rw [← not_iff_not, Bool.not_eq_true, Option.isSome_eq_false_iff, Option.isNone_iff_eq_none,
      List.lookup_eq_none_iff, not_exists]
    constructor
    · intro absent entry member
      rw [bne_iff_ne]
      exact fun key => absent entry ⟨member, key.symm⟩
    · rintro absent entry ⟨member, key⟩
      exact bne_iff_ne.mp (absent entry member) key.symm
  rw [key, key, same name]

theorem SameMap.hasStateKeys {values values' : Values} (same : SameMap values values') :
    hasStateKeys values = hasStateKeys values' := by
  have all (values values' : Values) (same : SameMap values values')
      (known : (values.all fun p => STATE_KEYS.contains p.1) = true) :
      (values'.all fun p => STATE_KEYS.contains p.1) = true := by
    rw [List.all_eq_true] at known ⊢
    intro entry member
    obtain ⟨other, member', key⟩ := same.hasKey.mpr ⟨entry, member, rfl⟩
    rw [← key]
    exact known other member'
  unfold journal.hasStateKeys
  have keys : (values.all fun p => STATE_KEYS.contains p.1) =
      (values'.all fun p => STATE_KEYS.contains p.1) := by
    rw [Bool.eq_iff_iff]
    exact ⟨all values values' same, all values' values fun name => (same name).symm⟩
  have present : (STATE_KEYS.all fun key => (values.lookup key).isSome) =
      STATE_KEYS.all fun key => (values'.lookup key).isSome := by
    congr 1
    funext key
    rw [same key]
  rw [keys, present]

/-- Parsing depends on the map alone. -/
theorem SameMap.parse {values values' : Values} (same : SameMap values values') :
    Snapshot.parse values = Snapshot.parse values' := by
  have empty : values.isEmpty = values'.isEmpty := by
    rw [Bool.eq_iff_iff, List.isEmpty_iff, List.isEmpty_iff]
    constructor
    · rintro rfl
      by_contra some
      obtain ⟨entry, rest, rfl⟩ := List.exists_cons_of_ne_nil some
      obtain ⟨_, none, _⟩ := same.hasKey.mpr ⟨entry, List.mem_cons_self, rfl⟩
      cases none
    · rintro rfl
      by_contra some
      obtain ⟨entry, rest, rfl⟩ := List.exists_cons_of_ne_nil some
      obtain ⟨_, none, _⟩ := same.hasKey.mp ⟨entry, List.mem_cons_self, rfl⟩
      cases none
  unfold Snapshot.parse
  rw [empty, same.hasStateKeys, same "schemaVersion", same "credentialGeneration",
    same "highestSequence", same "commandId", same "action", same "acceptedRendererLifecycleId",
    same "state", same "pendingTerminalAck", same "restartRequired"]

/-! ## Corrupt maps -/

/-- A check that fails only with `STATE_CORRUPT`. -/
def OnlyCorrupt {α : Type} (x : Except Failure α) : Prop := ∀ failure, x = .error failure →
  failure = corrupt

theorem onlyCorrupt_ok {α : Type} (a : α) : OnlyCorrupt (.ok a) := by
  intro failure failed
  cases failed

theorem onlyCorrupt_corrupt {α : Type} : OnlyCorrupt (.error corrupt : Except Failure α) := by
  rintro failure ⟨⟩
  rfl

theorem onlyCorrupt_bind {α β : Type} {x : Except Failure α} {f : α → Except Failure β}
    (first : OnlyCorrupt x) (rest : ∀ a, OnlyCorrupt (f a)) : OnlyCorrupt (x >>= f) := by
  cases x with
  | error failure =>
    rintro _ ⟨⟩
    exact first failure rfl
  | ok a => exact rest a

theorem onlyCorrupt_number (value : Option String) : OnlyCorrupt (parseStoredNumber value) := by
  unfold parseStoredNumber
  split
  · exact onlyCorrupt_corrupt
  split
  · exact onlyCorrupt_corrupt
  split
  · exact onlyCorrupt_corrupt
  split
  · exact onlyCorrupt_ok _
  · exact onlyCorrupt_corrupt

theorem onlyCorrupt_uuid (value : Option String) : OnlyCorrupt (parseStoredUuid value) := by
  unfold parseStoredUuid
  split
  · exact onlyCorrupt_ok _
  · exact onlyCorrupt_corrupt

theorem onlyCorrupt_action (value : Option String) : OnlyCorrupt (parseStoredAction value) := by
  unfold parseStoredAction
  split
  · exact onlyCorrupt_ok _
  · exact onlyCorrupt_corrupt

theorem onlyCorrupt_state (value : Option String) : OnlyCorrupt (CommandState.valueOf value) := by
  unfold CommandState.valueOf
  split
  · exact onlyCorrupt_ok _
  split
  · exact onlyCorrupt_ok _
  split
  · exact onlyCorrupt_ok _
  split
  · exact onlyCorrupt_ok _
  · exact onlyCorrupt_corrupt

theorem onlyCorrupt_boolean (value : Option String) : OnlyCorrupt (parseBoolean value) := by
  unfold parseBoolean
  split
  · exact onlyCorrupt_ok _
  split
  · exact onlyCorrupt_ok _
  · exact onlyCorrupt_corrupt

theorem onlyCorrupt_parse (values : Values) : OnlyCorrupt (Snapshot.parse values) := by
  unfold Snapshot.parse
  split
  · exact onlyCorrupt_ok _
  split
  · exact onlyCorrupt_corrupt
  split
  · exact onlyCorrupt_corrupt
  apply onlyCorrupt_bind (onlyCorrupt_number _)
  intro generation
  apply onlyCorrupt_bind (onlyCorrupt_number _)
  intro sequence
  apply onlyCorrupt_bind (onlyCorrupt_uuid _)
  intro commandId
  apply onlyCorrupt_bind (onlyCorrupt_action _)
  intro action
  apply onlyCorrupt_bind (onlyCorrupt_uuid _)
  intro lifecycle
  apply onlyCorrupt_bind (onlyCorrupt_state _)
  intro state
  apply onlyCorrupt_bind (onlyCorrupt_boolean _)
  intro ack
  apply onlyCorrupt_bind (onlyCorrupt_boolean _)
  intro restart
  dsimp only
  split
  · exact onlyCorrupt_corrupt
  · exact onlyCorrupt_ok _

theorem parse_eq_none {values : Values} : Snapshot.parse values = .ok none ↔ values = [] := by
  constructor
  · intro parsed
    by_contra some
    have stored : values.isEmpty = false := by
      rw [List.isEmpty_eq_false_iff]
      exact some
    unfold Snapshot.parse at parsed
    rw [stored, if_neg Bool.false_ne_true] at parsed
    split at parsed
    · cases parsed
    split at parsed
    · cases parsed
    obtain ⟨_, _, parsed⟩ := bind_ok parsed
    obtain ⟨_, _, parsed⟩ := bind_ok parsed
    obtain ⟨_, _, parsed⟩ := bind_ok parsed
    obtain ⟨_, _, parsed⟩ := bind_ok parsed
    obtain ⟨_, _, parsed⟩ := bind_ok parsed
    obtain ⟨_, _, parsed⟩ := bind_ok parsed
    obtain ⟨_, _, parsed⟩ := bind_ok parsed
    obtain ⟨_, _, parsed⟩ := bind_ok parsed
    dsimp only at parsed
    split at parsed <;> cases parsed
  · rintro rfl
    rfl

/-- A map that is not empty and encodes no valid command is corrupt. -/
theorem parse_corrupt_iff {values : Values} : Snapshot.parse values = .error corrupt ↔
    values ≠ [] ∧ ∀ s : Snapshot, s.Valid → ¬SameMap s.encode values := by
  constructor
  · intro failed
    constructor
    · rintro rfl
      cases failed
    · intro s valid same
      rw [← same.parse, parse_encode valid] at failed
      cases failed
  · rintro ⟨some, other⟩
    cases parsed : Snapshot.parse values with
    | error failure => rw [onlyCorrupt_parse values failure parsed]
    | ok current =>
      cases current with
      | none => exact absurd (parse_eq_none.mp parsed) some
      | some s => exact absurd (encode_parse parsed) (other s (parse_valid parsed))

/-! ## Operations on a corrupt map -/

section corrupted

variable {p : Persistence} {d : Device}

/-- The checks of a request that come before the storage is read. -/
def Request.checked : Request → Except Failure Unit
  | .accept generation sequence commandId action lifecycle => do
    requireNumber generation "credentialGeneration"
    requireNumber sequence "sequence"
    let _ ← canonicalUuid commandId "commandId"
    let _ ← supportedAction action
    let _ ← canonicalUuid lifecycle "rendererLifecycleId"
    .ok ()
  | _ => .ok ()

/-- The operation stops and leaves the device as it is. Where it comes to read the values, it
reports them as corrupt. -/
def Refuses (p : Persistence) (d : Device) (reads : Prop) {α : Type} (m : Journal α) : Prop :=
  Gives (fun _ _ => False) (fun failure d' => d' = d ∧
    (reads → p.read = .values → p.storageKey ∉ d.uncertainStorageKeys → failure = corrupt)) m d

theorem refuses_bind {reads : Prop} {α β : Type} {m : Journal α} {f : α → Journal β}
    (refuses : Refuses p d reads m) : Refuses p d reads (m >>= f) := by
  unfold Refuses
  rw [gives_bind]
  exact refuses.imp (fun _ _ impossible => impossible.elim) fun _ _ same => same

theorem refuses_load (failed : Snapshot.parse (d.values p.storageKey) = .error corrupt) :
    Refuses p d True (load p) := by
  unfold Refuses load
  rw [gives_bind, gives_look, gives_bind, gives_ensure]
  constructor
  · intro certain
    cases read : p.read with
    | thrown failure => exact gives_stop.mpr ⟨rfl, by simp⟩
    | null => exact gives_stop.mpr ⟨rfl, by simp⟩
    | values =>
      simp only [gives_bind, gives_look]
      rw [gives_lift, failed]
      constructor
      · intro current parsed
        cases parsed
      · rintro failure ⟨⟩
        exact ⟨rfl, fun _ _ _ => rfl⟩
  · intro uncertain
    refine ⟨rfl, ?_⟩
    intro _ _ certain
    rw [Bool.not_eq_false', List.contains_iff_mem] at uncertain
    exact absurd uncertain certain

theorem refuses_required (failed : Snapshot.parse (d.values p.storageKey) = .error corrupt) :
    Refuses p d True (required p) := refuses_bind (refuses_load failed)

/-- A check of the arguments, and then an operation that refuses where the check passes. -/
theorem refuses_lift {reads : Prop} {α β : Type} {x : Except Failure α} {f : α → Journal β}
    (passes : ∀ a, x = .ok a → Refuses p d reads (f a))
    (fails : ∀ failure, x = .error failure → ¬reads) : Refuses p d reads (lift x >>= f) := by
  unfold Refuses
  rw [gives_bind, gives_lift]
  constructor
  · intro a passed
    exact passes a passed
  · intro failure failed
    exact ⟨rfl, fun readsFirst => absurd readsFirst (fails failure failed)⟩

theorem Refuses.imp {reads reads' : Prop} {α : Type} {m : Journal α} (imp : reads' → reads)
    (refuses : Refuses p d reads m) : Refuses p d reads' m := by
  refine Gives.imp refuses (fun _ _ impossible => impossible) ?_
  rintro failure d' ⟨same, isCorrupt⟩
  exact ⟨same, fun readsFirst => isCorrupt (imp readsFirst)⟩

theorem checked_bind {α : Type} {x : Except Failure α} {f : α → Except Failure Unit}
    {failure : Failure} (failed : x = .error failure) : ¬(x >>= f) = .ok () := by
  rw [failed]
  intro passed
  cases passed

theorem ok_bind {α β : Type} (a : α) (f : α → Except Failure β) :
    ((Except.ok a : Except Failure α) >>= f) = f a := rfl

theorem refuses_accept (failed : Snapshot.parse (d.values p.storageKey) = .error corrupt)
    (generation sequence : Int) (commandId action lifecycle : Option String) :
    Refuses p d
      ((Request.accept generation sequence commandId action lifecycle).checked = .ok ())
      (accept p generation sequence commandId action lifecycle) := by
  unfold accept Request.checked
  dsimp only
  refine refuses_lift ?_ fun _ failed => checked_bind failed
  intro _ hgeneration
  rw [hgeneration, ok_bind]
  refine refuses_lift ?_ fun _ failed => checked_bind failed
  intro _ hsequence
  rw [hsequence, ok_bind]
  refine refuses_lift ?_ fun _ failed => checked_bind failed
  intro _ hcommandId
  rw [hcommandId, ok_bind]
  refine refuses_lift ?_ fun _ failed => checked_bind failed
  intro _ haction
  rw [haction, ok_bind]
  refine refuses_lift ?_ fun _ failed => checked_bind failed
  intro _ hlifecycle
  exact (refuses_bind (refuses_load failed)).imp fun _ => trivial

theorem refuses_perform (failed : Snapshot.parse (d.values p.storageKey) = .error corrupt)
    (request : Request) : Refuses p d (request.checked = .ok ()) (request.perform p) := by
  cases request with
  | accept generation sequence commandId action lifecycle =>
    exact refuses_bind (refuses_accept failed generation sequence commandId action lifecycle)
  | completeRefresh sequence commandId succeeded =>
    exact (refuses_bind (refuses_bind (refuses_required failed))).imp fun _ => trivial
  | confirmRendererRestarted sequence commandId lifecycle =>
    exact (refuses_bind (refuses_bind (refuses_required failed))).imp fun _ => trivial
  | pendingAcknowledgement =>
    exact (refuses_bind (refuses_load failed)).imp fun _ => trivial
  | markAcknowledgementDelivered sequence commandId =>
    exact (refuses_bind (refuses_bind (refuses_required failed))).imp fun _ => trivial

end corrupted

/-! ## The stored form -/

/-- What is stored reads back, for each command that a device can come to hold. A map that is
accepted is the encoding of what it is parsed as, and the empty map is the empty journal. Any other
map is corrupt: every operation on it fails and leaves the device as it is, and says so where its
own arguments and the storage let it read the map. -/
theorem encoding_and_parsing_are_inverse :
    (∀ (key : String) (d : Device) (moves : List Move) (s : Snapshot),
      (final Device.step d moves).command key = some s → Snapshot.parse s.encode = .ok (some s)) ∧
    (∀ values s, Snapshot.parse values = .ok (some s) → SameMap s.encode values) ∧
    (∀ values, Snapshot.parse values = .ok none ↔ values = []) ∧
    (∀ values, Snapshot.parse values = .error corrupt ↔
      values ≠ [] ∧ ∀ s : Snapshot, s.Valid → ¬SameMap s.encode values) ∧
    ∀ (d : Device) (p : Persistence) (request : Request),
      Snapshot.parse (d.values p.storageKey) = .error corrupt →
        (∃ failure, request.perform p d = (.error failure, d)) ∧
        (request.checked = .ok () → p.read = .values → p.storageKey ∉ d.uncertainStorageKeys →
          request.perform p d = (.error corrupt, d)) := by
  refine ⟨?_, ?_, ?_, ?_, ?_⟩
  · intro key d moves s held
    exact parse_encode (command_valid held)
  · intro values s parsed
    exact encode_parse parsed
  · intro values
    exact parse_eq_none
  · intro values
    exact parse_corrupt_iff
  · intro d p request failed
    have refuses := refuses_perform failed request
    rcases ran : request.perform p d with ⟨answer, d'⟩
    cases answer with
    | ok result => exact (refuses.ok ran).elim
    | error failure =>
      obtain ⟨rfl, isCorrupt⟩ := refuses.error ran
      refine ⟨⟨failure, rfl⟩, ?_⟩
      intro checked read certain
      rw [isCorrupt checked read certain]

end screengoblin.journal
