-- Metadata that the API accepts is what the database accepts: its shape passes the check, and its
-- text is no longer than the estimate. A value that contains itself is never accepted.
import ScreenGoblin.AuditMetadata

open jsontext jsvalues

namespace screengoblin.metadata

open server (AUDIT_METADATA_MAX_BYTES AUDIT_METADATA_MAX_DEPTH AUDIT_METADATA_MAX_OBJECT_KEYS
  AUDIT_METADATA_MAX_ARRAY_ITEMS AUDIT_METADATA_MAX_STRING_BYTES)

/-! ## Lengths -/

theorem octetLength_cons (c : Char) (text : List Char) :
    octetLength (c :: text) = c.utf8Size + octetLength text := by
  simp [octetLength]

theorem octetLength_append (text text' : List Char) :
    octetLength (text ++ text') = octetLength text + octetLength text' := by
  simp [octetLength]

theorem octetLength_commaSeparated (texts : List (List Char)) :
    octetLength (commaSeparated texts) =
      (texts.map octetLength).sum + 2 * (texts.length - 1) := by
  have later : ∀ rest : List (List Char),
      octetLength (rest.flatMap fun next => ',' :: ' ' :: next) =
        (rest.map octetLength).sum + 2 * rest.length := by
    intro rest
    induction rest with
    | nil => rfl
    | cons text rest ih =>
      rw [List.flatMap_cons, octetLength_append, octetLength_cons, octetLength_cons, ih]
      simp only [List.map_cons, List.sum_cons, List.length_cons]
      have comma : Char.utf8Size ',' = 1 := by decide
      have blank : Char.utf8Size ' ' = 1 := by decide
      omega
  cases texts with
  | nil => rfl
  | cons text rest =>
    unfold commaSeparated
    rw [octetLength_append, later]
    simp only [List.map_cons, List.sum_cons, List.length_cons]
    omega

/-- A text between two characters of one byte. -/
theorem octetLength_between (opening closing : Char) (text : List Char)
    (first : opening.utf8Size = 1) (last : closing.utf8Size = 1) :
    octetLength (opening :: (text ++ [closing])) = octetLength text + 2 := by
  rw [octetLength_cons, octetLength_append, octetLength_cons, first, last]
  simp only [octetLength, List.map_nil, List.sum_nil]
  omega

theorem itemTexts_eq (items : List Jsonb) : itemTexts items = items.map Jsonb.text := by
  induction items with
  | nil => rfl
  | cons item rest ih =>
    rw [itemTexts, ih]
    rfl

theorem memberTexts_eq (members : List (List Char × Jsonb)) :
    memberTexts members =
      members.map fun member => escapeJson member.1 ++ ':' :: ' ' :: member.2.text := by
  induction members with
  | nil => rfl
  | cons member rest ih =>
    rw [memberTexts, ih]
    rfl

/-! ## Strings -/

theorem escapeJsonChar_eq (c : Char) : escapeJsonChar c = escapeChar c := by
  unfold escapeJsonChar escapeChar
  by_cases isQuote : c = '"'
  · subst isQuote
    decide
  by_cases isBackslash : c = '\\'
  · subst isBackslash
    decide
  rw [if_neg isQuote, if_neg isBackslash, if_neg isQuote, if_neg isBackslash]
  have digits : c.toNat < 32 →
      hex4 c.toNat = ['0', '0', hexDigit (c.toNat / 16), hexDigit (c.toNat % 16)] := by
    intro control
    unfold hex4
    rw [Nat.div_eq_of_lt (by omega : c.toNat < 4096), Nat.div_eq_of_lt (by omega : c.toNat < 256),
      Nat.mod_eq_of_lt (by omega : c.toNat / 16 < 16)]
    rfl
  split_ifs
  any_goals first | rfl | omega
  rw [digits (by omega)]

theorem isLeading_iff (u : UInt16) :
    isLeading u = true ↔ 0xd800 ≤ u.toNat ∧ u.toNat < 0xdc00 := by
  unfold isLeading
  rw [Bool.and_eq_true, decide_eq_true_eq, decide_eq_true_eq, UInt16.le_iff_toNat_le,
    UInt16.le_iff_toNat_le]
  show 0xd800 ≤ u.toNat ∧ u.toNat ≤ 0xdbff ↔ _
  omega

theorem isTrailing_iff (u : UInt16) :
    isTrailing u = true ↔ 0xdc00 ≤ u.toNat ∧ u.toNat < 0xe000 := by
  unfold isTrailing
  rw [Bool.and_eq_true, decide_eq_true_eq, decide_eq_true_eq, UInt16.le_iff_toNat_le,
    UInt16.le_iff_toNat_le]
  show 0xdc00 ≤ u.toNat ∧ u.toNat ≤ 0xdfff ↔ _
  omega

theorem utf8Size_eq (c : Char) : c.utf8Size =
    if c.toNat < 0x80 then 1 else if c.toNat < 0x800 then 2 else if c.toNat < 0x10000 then 3
    else 4 := by
  have low : c.val ≤ 0x7f ↔ c.toNat < 0x80 := by
    rw [UInt32.le_iff_toNat_le]
    exact Nat.lt_succ_iff.symm
  have middle : c.val ≤ 0x7ff ↔ c.toNat < 0x800 := by
    rw [UInt32.le_iff_toNat_le]
    exact Nat.lt_succ_iff.symm
  have high : c.val ≤ 0xffff ↔ c.toNat < 0x10000 := by
    rw [UInt32.le_iff_toNat_le]
    exact Nat.lt_succ_iff.symm
  show (if c.val ≤ 0x7f then 1 else if c.val ≤ 0x7ff then 2 else if c.val ≤ 0xffff then 3
    else 4) = _
  simp only [low, middle, high]

/-- A code unit that stands for itself. -/
theorem plain_unit {u : UInt16} (noLeading : isLeading u = false)
    (noTrailing : isTrailing u = false) (rest : JsString) :
    ∃ c : Char, c.toNat = u.toNat ∧
      decode (u :: rest) = (decode rest).map (fun text => c :: text) ∧
      byteLength (u :: rest) = c.utf8Size + byteLength rest ∧
      quoteUnits (u :: rest) = escapeChar c ++ quoteUnits rest := by
  have notLeading := (Bool.eq_false_iff.mp noLeading) ∘ (isLeading_iff u).mpr
  have notTrailing := (Bool.eq_false_iff.mp noTrailing) ∘ (isTrailing_iff u).mpr
  have noSurrogate : ¬ (0xD800 ≤ u.toNat ∧ u.toNat ≤ 0xDFFF) := by
    intro surrogate
    by_cases half : u.toNat < 0xdc00
    · exact notLeading ⟨surrogate.1, half⟩
    · exact notTrailing ⟨by omega, by omega⟩
  have noPair : ∀ low, pairScalar u.toNat low = none := by
    intro low
    unfold pairScalar
    rw [if_neg]
    intro pair
    exact notLeading ⟨pair.1, pair.2.1⟩
  have found : scalar u.toNat = some (Char.ofNat u.toNat) := if_neg noSurrogate
  have value := scalar_toNat u.toNat_lt found
  have bytes : (if u.toNat < 0x80 then 1 else if u.toNat < 0x800 then 2 else 3) =
      (Char.ofNat u.toNat).utf8Size := by
    have unit := u.toNat_lt
    rw [utf8Size_eq, value, if_pos (by omega : u.toNat < 0x10000)]
  refine ⟨Char.ofNat u.toNat, value, ?_, ?_, ?_⟩
  · cases rest with
    | nil =>
      show (scalar u.toNat).map _ = _
      rw [found]
      rfl
    | cons low rest => rw [decode, noPair]; simp only [found]
  · cases rest with
    | nil => exact bytes
    | cons low rest => rw [byteLength, noPair]; simp only [bytes]
  · cases rest with
    | nil =>
      show quoteUnit u = _ ++ []
      rw [quoteUnit, found, List.append_nil]
    | cons low rest => rw [quoteUnits, noPair]; simp only [quoteUnit, found]

/-- Two surrogates that are a pair. -/
theorem pair_units {high low : UInt16} (leading : isLeading high = true)
    (trailing : isTrailing low = true) (rest : JsString) :
    ∃ c : Char, 0x10000 ≤ c.toNat ∧
      decode (high :: low :: rest) = (decode rest).map (fun text => c :: text) ∧
      byteLength (high :: low :: rest) = 4 + byteLength rest ∧
      quoteUnits (high :: low :: rest) = c :: quoteUnits rest := by
  have isHigh := (isLeading_iff high).mp leading
  have isLow := (isTrailing_iff low).mp trailing
  have pair : ∃ c, pairScalar high.toNat low.toNat = some c :=
    ⟨_, if_pos ⟨isHigh.1, isHigh.2, isLow.1, isLow.2⟩⟩
  obtain ⟨c, pair⟩ := pair
  refine ⟨c, (charUnits_pair pair).2, ?_, ?_, ?_⟩
  · rw [decode, pair]
  · rw [byteLength, pair]
  · rw [quoteUnits, pair]

/-- A string that is accepted is stored, in as many bytes as it was counted. -/
structure Textual (s : JsString) (text : List Char) : Prop where
  stored : StoresText s text
  bytes : octetLength text = byteLength s
  quoted : text.flatMap escapeJsonChar = quoteUnits s

theorem compatible_textual {field : String} {s : JsString}
    (ok : assertPostgresTextCompatible field s = .ok ()) : ∃ text, Textual s text := by
  fun_induction assertPostgresTextCompatible field s with
  | case1 => exact ⟨[], ⟨rfl, List.not_mem_nil⟩, rfl, rfl⟩
  | case2 => cases ok
  | case3 high noNul leading low rest trailing ih =>
    obtain ⟨text, stored, bytes, quoted⟩ := ih ok
    obtain ⟨c, big, isDecoded, isBytes, isQuoted⟩ := pair_units leading trailing rest
    refine ⟨c :: text, ⟨?_, ?_⟩, ?_, ?_⟩
    · rw [isDecoded, stored.1]
      rfl
    · rw [List.mem_cons, not_or]
      refine ⟨?_, stored.2⟩
      rintro rfl
      exact absurd big (by decide)
    · rw [octetLength_cons, bytes, isBytes, utf8Size_eq, if_neg (by omega), if_neg (by omega),
        if_neg (by omega)]
    · have plain : escapeJsonChar c = [c] := by
        unfold escapeJsonChar
        rw [if_neg (by omega), if_neg (by omega), if_neg (by omega), if_neg (by omega),
          if_neg (by omega), if_neg, if_neg, if_neg (by omega)]
        · rintro rfl
          exact absurd big (by decide)
        · rintro rfl
          exact absurd big (by decide)
      rw [List.flatMap_cons, plain, quoted, isQuoted]
      rfl
  | case4 => cases ok
  | case5 => cases ok
  | case6 => cases ok
  | case7 u rest noNul noLeading noTrailing ih =>
    obtain ⟨text, stored, bytes, quoted⟩ := ih ok
    obtain ⟨c, value, isDecoded, isBytes, isQuoted⟩ :=
      plain_unit (Bool.eq_false_iff.mpr noLeading) (Bool.eq_false_iff.mpr noTrailing) rest
    refine ⟨c :: text, ⟨?_, ?_⟩, ?_, ?_⟩
    · rw [isDecoded, stored.1]
      rfl
    · rw [List.mem_cons, not_or]
      refine ⟨?_, stored.2⟩
      rintro rfl
      apply noNul
      exact UInt16.toNat_inj.mp value.symm
    · rw [octetLength_cons, bytes, isBytes]
    · rw [List.flatMap_cons, escapeJsonChar_eq, quoted, isQuoted]

theorem Textual.unique {s : JsString} {text other : List Char} (textual : Textual s text)
    (stored : StoresText s other) : Textual s other := by
  have same := Option.some.inj (textual.stored.1.symm.trans stored.1)
  exact same ▸ textual

/-- `JSON.stringify` and `escape_json` write the same text. -/
theorem Textual.quote {s : JsString} {text : List Char} (textual : Textual s text) :
    escapeJson text = jsvalues.quote s := by
  unfold escapeJson jsvalues.quote
  rw [textual.quoted]

theorem octetLength_escapeJsonChar_le (c : Char) :
    octetLength (escapeJsonChar c) ≤ 6 * c.utf8Size := by
  have positive := c.utf8Size_pos
  have escapes : ∀ d : Char, d ∈ ['b', 'f', 'n', 'r', 't', '"', '\\'] →
      octetLength ['\\', d] = 2 := by
    intro d member
    simp only [List.mem_cons, List.not_mem_nil, or_false] at member
    rcases member with rfl | rfl | rfl | rfl | rfl | rfl | rfl <;> rfl
  unfold escapeJsonChar
  split_ifs
  any_goals
    rw [escapes _ (by decide)]
    omega
  · rename_i control
    have digits : ∀ n < 32, octetLength ('\\' :: 'u' :: hex4 n) = 6 := by decide +kernel
    rw [digits _ control]
    omega
  · show octetLength [c] ≤ _
    simp only [octetLength, List.map_cons, List.map_nil, List.sum_cons, List.sum_nil]
    omega

theorem octetLength_escapeJson_le (text : List Char) :
    octetLength (escapeJson text) ≤ 6 * octetLength text + 2 := by
  have inside : octetLength (text.flatMap escapeJsonChar) ≤ 6 * octetLength text := by
    induction text with
    | nil => exact Nat.le_refl 0
    | cons c text ih =>
      have one := octetLength_escapeJsonChar_le c
      rw [List.flatMap_cons, octetLength_append, octetLength_cons]
      omega
  unfold escapeJson
  rw [octetLength_between _ _ _ (by decide) (by decide)]
  omega

/-! ## The loops -/

section

variable {N : Type} {validate : Value N → Seen → Estimate}

/-- A nested call accepts a value with this estimate. -/
def Accepts (validate : Value N → Seen → Estimate) (value : Value N) (estimate : Nat) : Prop :=
  ∃ seen seen', validate value seen = .ok (estimate, seen')

/-- The bytes between the items, when `index` items have gone before. -/
def separators (index count : Nat) : Nat := 2 * if index > 0 then count else count - 1

theorem separators_next (index count : Nat) :
    separators index (count + 1) = (if index > 0 then 2 else 0) + separators (index + 1) count := by
  unfold separators
  split
  · simp
    omega
  · simp

theorem validateItems_ok {items : List (Value N)} {index bytes total : Nat} {seen seen' : Seen}
    (ok : validateItems validate index bytes seen items = .ok (total, seen')) :
    ∃ estimates, List.Forall₂ (Accepts validate) items estimates ∧
      total = bytes + estimates.sum + separators index items.length ∧
      (bytes ≤ AUDIT_METADATA_MAX_BYTES → total ≤ AUDIT_METADATA_MAX_BYTES) := by
  induction items generalizing index bytes seen with
  | nil =>
    cases ok
    refine ⟨[], .nil, ?_, id⟩
    simp [separators]
  | cons item rest ih =>
    unfold validateItems at ok
    dsimp only at ok
    generalize isStart : (if index > 0 then bytes + 2 else bytes) = start at ok
    split at ok
    · cases ok
    rename_i estimate seen₁ accepted
    split at ok
    · cases ok
    rename_i within
    obtain ⟨estimates, each, isTotal, bound⟩ := ih ok
    refine ⟨estimate :: estimates, .cons ⟨_, _, accepted⟩ each, ?_, fun _ => bound (by omega)⟩
    rw [isTotal, List.sum_cons, List.length_cons, separators_next, ← isStart]
    split <;> omega

/-- A key, with the colon after it. -/
def keyBytes (key : JsString) : Nat := octetLength (quote key) + 2

theorem validateEntries_ok {entries : List (JsString × Descriptor N)} {index bytes total : Nat}
    {seen seen' : Seen}
    (ok : validateEntries validate index bytes seen entries = .ok (total, seen')) :
    ∃ estimates,
      List.Forall₂ (Accepts validate) (entries.map fun entry => entry.2.value) estimates ∧
      (∀ entry ∈ entries, ∃ text, Textual entry.1 text) ∧
      total = bytes + (entries.map fun entry => keyBytes entry.1).sum + estimates.sum +
        separators index entries.length ∧
      (bytes ≤ AUDIT_METADATA_MAX_BYTES → total ≤ AUDIT_METADATA_MAX_BYTES) := by
  induction entries generalizing index bytes seen with
  | nil =>
    cases ok
    refine ⟨[], .nil, ?_, ?_, id⟩
    · intro entry member
      cases member
    · simp [separators]
  | cons entry rest ih =>
    obtain ⟨key, descriptor⟩ := entry
    unfold validateEntries at ok
    split at ok
    · cases ok
    dsimp only at ok
    generalize isStart : (if index > 0 then bytes + 2 else bytes) = start at ok
    split at ok
    · cases ok
    rename_i compatible
    split at ok
    · cases ok
    rename_i estimate seen₁ accepted
    split at ok
    · cases ok
    rename_i within
    obtain ⟨estimates, each, textual, isTotal, bound⟩ := ih ok
    refine ⟨estimate :: estimates, .cons ⟨_, _, accepted⟩ each, ?_, ?_, fun _ => bound (by omega)⟩
    · rw [List.forall_mem_cons]
      exact ⟨compatible_textual compatible, textual⟩
    · rw [isTotal, List.map_cons, List.sum_cons, List.sum_cons, List.length_cons, separators_next,
        ← isStart]
      have isKey : keyBytes (key, descriptor).1 = octetLength (quote key) + 2 := rfl
      split <;> omega

end

/-! ## What is stored -/

section

variable {N : Type} {isFinite : N → Bool} {numericText : N → List Char} {heap : Heap N}

/-- What a validated value is stored as passes the check and is no longer than the estimate. -/
structure Checked (isFinite : N → Bool) (numericText : N → List Char) (heap : Heap N)
    (depth : Nat) (value : Value N) (estimate : Nat) : Prop where
  stored : ∃ stored, Stores isFinite numericText heap value stored
  shape : ∀ stored, Stores isFinite numericText heap value stored →
    auditEventMetadataShapeValid stored depth = true
  bytes : ∀ stored, Stores isFinite numericText heap value stored →
    octetLength stored.text ≤ estimate

theorem forall₂_of_exists {α β : Type} {R : α → β → Prop} {xs : List α}
    (each : ∀ x ∈ xs, ∃ y, R x y) : ∃ ys, List.Forall₂ R xs ys := by
  induction xs with
  | nil => exact ⟨[], .nil⟩
  | cons x xs ih =>
    rw [List.forall_mem_cons] at each
    obtain ⟨y, first⟩ := each.1
    obtain ⟨ys, rest⟩ := ih each.2
    exact ⟨y :: ys, .cons first rest⟩

/-- The parts of an array or of an object, all together. -/
theorem checked_all {depth : Nat} {values : List (Value N)} {estimates : List Nat}
    (each : List.Forall₂ (Checked isFinite numericText heap depth) values estimates) :
    (∃ stored, List.Forall₂ (Stores isFinite numericText heap) values stored) ∧
      ∀ stored, List.Forall₂ (Stores isFinite numericText heap) values stored →
        (∀ part ∈ stored, auditEventMetadataShapeValid part depth = true) ∧
        (stored.map fun part => octetLength part.text).sum ≤ estimates.sum := by
  induction each with
  | nil =>
    refine ⟨⟨[], .nil⟩, ?_⟩
    intro stored isStored
    cases isStored
    exact ⟨by simp, Nat.le_refl 0⟩
  | cons checked _ ih =>
    obtain ⟨⟨others, areStored⟩, bounds⟩ := ih
    obtain ⟨one, isStored⟩ := checked.stored
    refine ⟨⟨one :: others, .cons isStored areStored⟩, ?_⟩
    rintro _ (_ | ⟨first, rest⟩)
    obtain ⟨shapes, bytes⟩ := bounds _ rest
    refine ⟨List.forall_mem_cons.mpr ⟨checked.shape _ first, shapes⟩, ?_⟩
    have oneBytes := checked.bytes _ first
    rw [List.map_cons, List.sum_cons, List.sum_cons]
    omega

/-- The members of an object are the keys and the values, in some order. -/
theorem members_length {keys : List JsString} {texts : List (List Char)} {values : List Jsonb}
    {members : List (List Char × Jsonb)} (textual : ∀ key ∈ keys, ∃ text, Textual key text)
    (isText : List.Forall₂ StoresText keys texts) (many : keys.length = values.length)
    (same : members.Perm (texts.zip values)) :
    (members.map fun member => octetLength (escapeJson member.1 ++ ':' :: ' ' :: member.2.text)).sum
      = (keys.map keyBytes).sum + (values.map fun part => octetLength part.text).sum := by
  rw [(same.map _).sum_eq]
  clear same
  induction isText generalizing values with
  | nil =>
    cases values with
    | nil => rfl
    | cons value values => cases many
  | @cons key written _ _ isStored _ ih =>
    cases values with
    | nil => cases many
    | cons value values =>
      rw [List.forall_mem_cons] at textual
      obtain ⟨text, isTextual⟩ := textual.1
      have rest := ih textual.2 (Nat.succ.inj many)
      have first : octetLength (escapeJson written ++ ':' :: ' ' :: value.text) =
          keyBytes key + octetLength value.text := by
        have colon : Char.utf8Size ':' = 1 := by decide
        have blank : Char.utf8Size ' ' = 1 := by decide
        rw [octetLength_append, octetLength_cons, octetLength_cons, colon, blank,
          (isTextual.unique isStored).quote]
        unfold keyBytes
        omega
      rw [List.zip_cons_cons, List.map_cons, List.sum_cons, rest, first]
      simp only [List.map_cons, List.sum_cons]
      omega

theorem octetLength_array (items : List Jsonb) : octetLength (Jsonb.array items).text =
    (items.map fun part => octetLength part.text).sum + separators 0 items.length + 2 := by
  rw [Jsonb.text, octetLength_between _ _ _ (by decide) (by decide), octetLength_commaSeparated,
    itemTexts_eq, List.map_map, List.length_map]
  rfl

theorem octetLength_object (members : List (List Char × Jsonb)) :
    octetLength (Jsonb.object members).text =
      (members.map fun member =>
        octetLength (escapeJson member.1 ++ ':' :: ' ' :: member.2.text)).sum +
      separators 0 members.length + 2 := by
  rw [Jsonb.text, octetLength_between _ _ _ (by decide) (by decide), octetLength_commaSeparated,
    memberTexts_eq, List.map_map, List.length_map]
  rfl

/-! ## One level of a value -/

/-- What the validation found at one level, where `accepts` is what it found at the next. -/
inductive Parts (isFinite : N → Bool) (heap : Heap N) (accepts : Value N → Nat → Prop) :
    Value N → Nat → Prop
  | null : Parts isFinite heap accepts .null 4
  | boolean (b : Bool) : Parts isFinite heap accepts (.boolean b) (if b then 4 else 5)
  | string (s : JsString) (text : List Char) (textual : Textual s text)
      (short : byteLength s ≤ AUDIT_METADATA_MAX_STRING_BYTES) :
      Parts isFinite heap accepts (.string s) (octetLength (quote s))
  | number (n : N) (finite : isFinite n = true) : Parts isFinite heap accepts (.number n) 330
  | array (address : Nat) (items : List (Value N)) (estimates : List Nat)
      (here : heap address = .array items)
      (few : items.length ≤ AUDIT_METADATA_MAX_ARRAY_ITEMS)
      (each : List.Forall₂ accepts items estimates)
      (within : 2 + estimates.sum + separators 0 items.length ≤ AUDIT_METADATA_MAX_BYTES) :
      Parts isFinite heap accepts (.reference address)
        (2 + estimates.sum + separators 0 items.length)
  | object (address : Nat) (object : PlainObject N) (estimates : List Nat)
      (here : heap address = .object object)
      (few : object.descriptors.length ≤ AUDIT_METADATA_MAX_OBJECT_KEYS)
      (each : List.Forall₂ accepts (object.descriptors.map fun entry => entry.2.value) estimates)
      (textual : ∀ entry ∈ object.descriptors, ∃ text, Textual entry.1 text)
      (within : 2 + (object.descriptors.map fun entry => keyBytes entry.1).sum + estimates.sum +
        separators 0 object.descriptors.length ≤ AUDIT_METADATA_MAX_BYTES) :
      Parts isFinite heap accepts (.reference address)
        (2 + (object.descriptors.map fun entry => keyBytes entry.1).sum + estimates.sum +
          separators 0 object.descriptors.length)

/-- The validation at the levels below `depth`. -/
def AcceptedBelow (isFinite : N → Bool) (heap : Heap N) (depth : Nat) : Value N → Nat → Prop :=
  Accepts fun value seen => validateJsonValue isFinite heap value (depth + 1) seen

theorem validate_parts {value : Value N} {depth estimate : Nat} {seen seen' : Seen}
    (ok : validateJsonValue isFinite heap value depth seen = .ok (estimate, seen')) :
    depth ≤ AUDIT_METADATA_MAX_DEPTH ∧
      Parts isFinite heap (AcceptedBelow isFinite heap depth) value estimate := by
  rw [validateJsonValue.eq_def] at ok
  split at ok
  · cases ok
  rename_i shallow
  refine ⟨by omega, ?_⟩
  cases value with
  | undefined => cases ok
  | other => cases ok
  | null =>
    cases ok
    exact .null
  | boolean b =>
    cases ok
    exact .boolean b
  | number n =>
    dsimp only at ok
    split at ok
    · cases ok
    · rename_i finite
      cases ok
      exact .number n (by simpa using finite)
  | string s =>
    dsimp only at ok
    split at ok
    · cases ok
    rename_i compatible
    obtain ⟨text, textual⟩ := compatible_textual compatible
    split at ok
    · cases ok
    · rename_i short
      cases ok
      exact .string s text textual (by omega)
  | reference address =>
    dsimp only at ok
    split at ok
    · cases ok
    split at ok
    · rename_i items here
      split at ok
      · cases ok
      rename_i few
      obtain ⟨estimates, each, rfl, bound⟩ := validateItems_ok ok
      exact .array address items estimates here (by omega) each (bound (by decide))
    · rename_i object here
      split at ok
      · cases ok
      split at ok
      · cases ok
      split at ok
      · cases ok
      rename_i few
      obtain ⟨estimates, each, textual, rfl, bound⟩ := validateEntries_ok ok
      exact .object address object estimates here (by omega) each textual (bound (by decide))

/-- The estimate is at most the limit. -/
theorem Parts.within {accepts : Value N → Nat → Prop} {value : Value N} {estimate : Nat}
    (parts : Parts isFinite heap accepts value estimate) :
    estimate ≤ AUDIT_METADATA_MAX_BYTES := by
  cases parts with
  | null => decide
  | boolean b => cases b <;> decide
  | number n finite => decide
  | string s text textual short =>
    have escaped := octetLength_escapeJson_le text
    rw [textual.quote, textual.bytes] at escaped
    unfold AUDIT_METADATA_MAX_STRING_BYTES at short
    unfold AUDIT_METADATA_MAX_BYTES
    omega
  | array address items estimates here few each within => exact within
  | object address object estimates here few each textual within => exact within

theorem not_deep {depth : Nat} (shallow : depth ≤ AUDIT_METADATA_MAX_DEPTH) : ¬ depth > 8 := by
  unfold AUDIT_METADATA_MAX_DEPTH at shallow
  omega

theorem checked_string {depth : Nat} {s : JsString} {text : List Char}
    (shallow : depth ≤ AUDIT_METADATA_MAX_DEPTH) (textual : Textual s text)
    (short : byteLength s ≤ AUDIT_METADATA_MAX_STRING_BYTES) :
    Checked isFinite numericText heap depth (.string s) (octetLength (quote s)) where
  stored := ⟨_, .string s text textual.stored⟩
  shape := by
    intro stored isStored
    cases isStored with
    | string _ other same =>
      have bytes := (textual.unique same).bytes
      unfold AUDIT_METADATA_MAX_STRING_BYTES at short
      rw [auditEventMetadataShapeValid, dif_neg (not_deep shallow)]
      simp only [bytes, Bool.not_eq_true', decide_eq_false_iff_not]
      omega
  bytes := by
    intro stored isStored
    cases isStored with
    | string _ other same => rw [Jsonb.text, (textual.unique same).quote]

theorem checked_array {depth address : Nat} {items : List (Value N)} {estimates : List Nat}
    (shallow : depth ≤ AUDIT_METADATA_MAX_DEPTH) (here : heap address = .array items)
    (few : items.length ≤ AUDIT_METADATA_MAX_ARRAY_ITEMS)
    (each : List.Forall₂ (Checked isFinite numericText heap (depth + 1)) items estimates) :
    Checked isFinite numericText heap depth (.reference address)
      (2 + estimates.sum + separators 0 items.length) := by
  obtain ⟨⟨stored, areStored⟩, bounds⟩ := checked_all each
  refine ⟨⟨_, .array address items stored here areStored⟩, ?_, ?_⟩
  · intro stored isStored
    cases isStored with
    | array _ items' stored here' each' =>
      cases here.symm.trans here'
      have length := each'.length_eq
      unfold AUDIT_METADATA_MAX_ARRAY_ITEMS at few
      rw [auditEventMetadataShapeValid, dif_neg (not_deep shallow)]
      rw [if_neg (by omega), List.all_eq_true]
      exact (bounds stored each').1
    | object _ object _ _ _ here' => cases here.symm.trans here'
  · intro stored isStored
    cases isStored with
    | array _ items' stored here' each' =>
      cases here.symm.trans here'
      have bytes := (bounds stored each').2
      rw [octetLength_array, ← each'.length_eq]
      omega
    | object _ object _ _ _ here' => cases here.symm.trans here'

theorem checked_object {depth address : Nat} {object : PlainObject N} {estimates : List Nat}
    (shallow : depth ≤ AUDIT_METADATA_MAX_DEPTH) (here : heap address = .object object)
    (few : object.descriptors.length ≤ AUDIT_METADATA_MAX_OBJECT_KEYS)
    (each : List.Forall₂ (Checked isFinite numericText heap (depth + 1))
      (object.descriptors.map fun entry => entry.2.value) estimates)
    (textual : ∀ entry ∈ object.descriptors, ∃ text, Textual entry.1 text) :
    Checked isFinite numericText heap depth (.reference address)
      (2 + (object.descriptors.map fun entry => keyBytes entry.1).sum + estimates.sum +
        separators 0 object.descriptors.length) := by
  obtain ⟨⟨stored, areStored⟩, bounds⟩ := checked_all each
  have textual' : ∀ key ∈ object.descriptors.map Prod.fst, ∃ text, Textual key text := by
    intro key member
    obtain ⟨entry, isEntry, rfl⟩ := List.mem_map.mp member
    exact textual entry isEntry
  have texts : ∃ texts, List.Forall₂ StoresText (object.descriptors.map Prod.fst) texts := by
    apply forall₂_of_exists
    intro key member
    obtain ⟨text, isTextual⟩ := textual' key member
    exact ⟨text, isTextual.stored⟩
  obtain ⟨texts, areTexts⟩ := texts
  refine ⟨⟨_, .object address object stored texts _ here areTexts areStored (.refl _)⟩, ?_, ?_⟩
  · intro stored isStored
    cases isStored with
    | array _ items' stored here' each' => cases here.symm.trans here'
    | object _ object' values texts' members here' keys' each' same =>
      cases here.symm.trans here'
      have count := same.length_eq
      have length := each'.length_eq
      rw [List.length_zip] at count
      rw [List.length_map] at length
      unfold AUDIT_METADATA_MAX_OBJECT_KEYS at few
      rw [auditEventMetadataShapeValid, dif_neg (not_deep shallow)]
      dsimp only
      rw [if_neg (by omega), List.all_eq_true]
      intro member isMember
      have paired := same.mem_iff.mp isMember
      exact (bounds values each').1 _ (List.of_mem_zip paired).2
  · intro stored isStored
    cases isStored with
    | array _ items' stored here' each' => cases here.symm.trans here'
    | object _ object' values texts' members here' keys' each' same =>
      cases here.symm.trans here'
      have bytes := (bounds values each').2
      have count := same.length_eq
      have length := each'.length_eq
      have keys := keys'.length_eq
      rw [List.length_map] at length keys
      rw [List.length_zip] at count
      have whole := members_length textual' keys' (by rw [List.length_map]; exact length) same
      rw [List.map_map] at whole
      have isCount : members.length = object.descriptors.length := by omega
      rw [octetLength_object, whole, isCount]
      have sameKeys : (object.descriptors.map (keyBytes ∘ Prod.fst)).sum =
          (object.descriptors.map fun entry => keyBytes entry.1).sum := rfl
      omega

/-- A value is checked when its parts are. -/
theorem Parts.checked {depth : Nat} {value : Value N} {estimate : Nat}
    (bounded : ∀ n, isFinite n = true → octetLength (numericText n) ≤ 330)
    (shallow : depth ≤ AUDIT_METADATA_MAX_DEPTH)
    (parts : Parts isFinite heap (Checked isFinite numericText heap (depth + 1)) value estimate) :
    Checked isFinite numericText heap depth value estimate := by
  cases parts with
  | null =>
    refine ⟨⟨_, .null⟩, ?_, ?_⟩
    · rintro _ (_ | _)
      rw [auditEventMetadataShapeValid, dif_neg (not_deep shallow)]
    · rintro _ (_ | _)
      decide
  | boolean b =>
    refine ⟨⟨_, .boolean b⟩, ?_, ?_⟩
    · rintro _ (_ | _)
      rw [auditEventMetadataShapeValid, dif_neg (not_deep shallow)]
    · rintro _ (_ | _)
      cases b <;> decide
  | number n finite =>
    refine ⟨⟨_, .number n finite⟩, ?_, ?_⟩
    · rintro _ (_ | _)
      rw [auditEventMetadataShapeValid, dif_neg (not_deep shallow)]
    · rintro _ (_ | _)
      exact bounded n finite
  | string s text textual short => exact checked_string shallow textual short
  | array address items estimates here few each within => exact checked_array shallow here few each
  | object address object estimates here few each textual within =>
    exact checked_object shallow here few each textual

theorem forall₂_imp {α β : Type} {R S : α → β → Prop} {xs : List α} {ys : List β}
    (each : List.Forall₂ R xs ys) (imp : ∀ x y, R x y → S x y) : List.Forall₂ S xs ys := by
  induction each with
  | nil => exact .nil
  | cons first _ ih => exact .cons (imp _ _ first) ih

theorem Parts.imp {accepts accepts' : Value N → Nat → Prop} {value : Value N} {estimate : Nat}
    (parts : Parts isFinite heap accepts value estimate)
    (weaker : ∀ part estimate, accepts part estimate → accepts' part estimate) :
    Parts isFinite heap accepts' value estimate := by
  cases parts with
  | null => exact .null
  | boolean b => exact .boolean b
  | number n finite => exact .number n finite
  | string s text textual short => exact .string s text textual short
  | array address items estimates here few each within =>
    exact .array address items estimates here few (forall₂_imp each weaker) within
  | object address object estimates here few each textual within =>
    exact .object address object estimates here few (forall₂_imp each weaker) textual within

/-- The induction is on the levels that are left. -/
theorem validate_checked (bounded : ∀ n, isFinite n = true → octetLength (numericText n) ≤ 330)
    (levels : Nat) {depth : Nat} (left : depth + levels = AUDIT_METADATA_MAX_DEPTH + 1)
    {value : Value N} {estimate : Nat} {seen seen' : Seen}
    (ok : validateJsonValue isFinite heap value depth seen = .ok (estimate, seen')) :
    Checked isFinite numericText heap depth value estimate := by
  induction levels generalizing depth value estimate seen seen' with
  | zero =>
    have shallow := (validate_parts ok).1
    omega
  | succ levels ih =>
    obtain ⟨shallow, parts⟩ := validate_parts ok
    apply Parts.checked bounded shallow
    apply parts.imp
    rintro part bytes ⟨before, after, accepted⟩
    exact ih (by omega) accepted

/-! ## Values that contain themselves -/

/-- An item of an array, or the value of a property. -/
def Child (heap : Heap N) (value child : Value N) : Prop :=
  ∃ address, value = .reference address ∧
    match heap address with
    | .array items => child ∈ items
    | .object object => ∃ entry ∈ object.descriptors, entry.2.value = child

/-- From the value one comes to a value that contains itself. -/
def Cyclic (heap : Heap N) (value : Value N) : Prop :=
  ∃ inner, Relation.ReflTransGen (Child heap) value inner ∧
    Relation.TransGen (Child heap) inner inner

/-- There are values inside of each other, this many below the first. -/
def Descends (heap : Heap N) : Nat → Value N → Prop
  | 0, _ => True
  | count + 1, value => ∃ child, Child heap value child ∧ Descends heap count child

theorem Descends.less {count : Nat} {value : Value N} (descends : Descends heap (count + 1) value) :
    Descends heap count value := by
  induction count generalizing value with
  | zero => trivial
  | succ count ih =>
    obtain ⟨child, isChild, below⟩ := descends
    exact ⟨child, isChild, ih below⟩

theorem Descends.above {count : Nat} {value inner : Value N}
    (path : Relation.ReflTransGen (Child heap) value inner) (descends : Descends heap count inner) :
    Descends heap count value := by
  induction path using Relation.ReflTransGen.head_induction_on with
  | refl => exact descends
  | head isChild _ ih => exact Descends.less ⟨_, isChild, ih⟩

theorem Cyclic.descends {value : Value N} (cyclic : Cyclic heap value) (count : Nat) :
    Descends heap count value := by
  obtain ⟨inner, path, loop⟩ := cyclic
  apply Descends.above path
  induction count with
  | zero => trivial
  | succ count ih =>
    obtain ⟨next, isChild, back⟩ := Relation.TransGen.head'_iff.mp loop
    exact ⟨next, isChild, Descends.above back ih⟩

theorem accepted_of_mem {α β : Type} {R : α → β → Prop} {xs : List α} {ys : List β}
    (each : List.Forall₂ R xs ys) {x : α} (member : x ∈ xs) : ∃ y, R x y := by
  induction each with
  | nil => cases member
  | cons first _ ih =>
    rcases List.mem_cons.mp member with rfl | later
    · exact ⟨_, first⟩
    · exact ih later

/-- What is inside of a validated value was validated at the next level. -/
theorem Parts.child {accepts : Value N → Nat → Prop} {value child : Value N} {estimate : Nat}
    (parts : Parts isFinite heap accepts value estimate) (isChild : Child heap value child) :
    ∃ estimate, accepts child estimate := by
  obtain ⟨address, rfl, inside⟩ := isChild
  cases parts with
  | array _ items estimates here few each within =>
    rw [here] at inside
    exact accepted_of_mem each inside
  | object _ object estimates here few each textual within =>
    rw [here] at inside
    obtain ⟨entry, member, rfl⟩ := inside
    exact accepted_of_mem each (List.mem_map_of_mem member)

theorem validate_descends (levels : Nat) {depth : Nat}
    (left : depth + levels = AUDIT_METADATA_MAX_DEPTH + 1) {value : Value N} {estimate : Nat}
    {seen seen' : Seen}
    (ok : validateJsonValue isFinite heap value depth seen = .ok (estimate, seen')) :
    ¬ Descends heap levels value := by
  induction levels generalizing depth value estimate seen seen' with
  | zero =>
    have shallow := (validate_parts ok).1
    omega
  | succ levels ih =>
    rintro ⟨child, isChild, below⟩
    obtain ⟨_, before, after, accepted⟩ := (validate_parts ok).2.child isChild
    exact ih (by omega) accepted below

end

/-! ## The laws -/

/-- A value that the validation accepts is stored, whatever it is stored as passes the check on
its shape, and its text is no longer than the estimate, which is at most 16384 bytes. A value
that contains itself is rejected. Metadata that is accepted passes the checks on the table. -/
theorem accepted_metadata_fits_the_database {N : Type} (isFinite : N → Bool)
    (numericText : N → List Char)
    (bounded : ∀ n, isFinite n = true → octetLength (numericText n) ≤ 330) (heap : Heap N) :
    (∀ value estimate seen, validateJsonValue isFinite heap value 0 [] = .ok (estimate, seen) →
      estimate ≤ 16384 ∧ (∃ stored, Stores isFinite numericText heap value stored) ∧
      ∀ stored, Stores isFinite numericText heap value stored →
        auditEventMetadataShapeValid stored 0 = true ∧ octetLength stored.text ≤ estimate) ∧
    (∀ value, Cyclic heap value →
      ∃ thrown, validateJsonValue isFinite heap value 0 [] = .error thrown) ∧
    (∀ metadata, assertMetadataIntegrity isFinite heap metadata = .ok () →
      ∀ stored, Stores isFinite numericText heap metadata stored →
        metadataChecks stored = true) := by
  refine ⟨?_, ?_, ?_⟩
  · intro value estimate seen ok
    have checked := validate_checked bounded 9 rfl ok
    refine ⟨(validate_parts ok).2.within, checked.stored, ?_⟩
    intro stored isStored
    exact ⟨checked.shape stored isStored, checked.bytes stored isStored⟩
  · intro value cyclic
    cases result : validateJsonValue isFinite heap value 0 [] with
    | error thrown => exact ⟨thrown, rfl⟩
    | ok found => exact absurd (cyclic.descends 9) (validate_descends 9 rfl result)
  · intro metadata ok stored isStored
    unfold assertMetadataIntegrity at ok
    cases metadata with
    | reference address =>
      dsimp only at ok
      split at ok
      · cases ok
      rename_i object here
      split at ok
      · cases ok
      rename_i estimate seen accepted
      have checked := validate_checked bounded 9 rfl accepted
      have bytes := checked.bytes stored isStored
      have within := (validate_parts accepted).2.within
      unfold AUDIT_METADATA_MAX_BYTES at within
      unfold metadataChecks
      rw [checked.shape stored isStored]
      cases isStored with
      | array _ items _ here' => cases here.symm.trans here'
      | object =>
        simp only [Bool.true_and, Bool.and_true, decide_eq_true_eq]
        omega
    | _ => cases ok

/-- An integer as `numeric` text. -/
def integerText (n : Int) : List Char := (toString n).toList

def isShort (n : Int) : Bool := octetLength (integerText n) ≤ 330

/-- `{ a: [7] }` -/
def twoLevels : Heap Int
  | 0 => .object { descriptors := [([97], { value := .reference 1 })] }
  | _ => .array [.number 7]

theorem two_levels_are_stored : ∃ stored,
    Stores isShort integerText twoLevels (.reference 0) stored ∧ octetLength stored.text ≤ 339 := by
  have law := accepted_metadata_fits_the_database isShort integerText
    (fun n finite => by simpa [isShort] using finite) twoLevels
  have short : isShort 7 = true := by decide +kernel
  have accepted : validateJsonValue isShort twoLevels (.reference 0) 0 [] = .ok (339, [1, 0]) := by
    have number : validateJsonValue isShort twoLevels (.number 7) 2 [1, 0] = .ok (330, [1, 0]) := by
      rw [validateJsonValue.eq_def]
      simp [AUDIT_METADATA_MAX_DEPTH, short]
    have array : validateJsonValue isShort twoLevels (.reference 1) 1 [0] = .ok (332, [1, 0]) := by
      rw [validateJsonValue.eq_def]
      simp [AUDIT_METADATA_MAX_DEPTH, AUDIT_METADATA_MAX_ARRAY_ITEMS, AUDIT_METADATA_MAX_BYTES,
        twoLevels, validateItems, number]
    rw [validateJsonValue.eq_def]
    have key : octetLength (quote [97]) = 3 := by decide +kernel
    simp [AUDIT_METADATA_MAX_DEPTH, AUDIT_METADATA_MAX_OBJECT_KEYS, AUDIT_METADATA_MAX_BYTES,
      twoLevels, validateEntries, array, assertPostgresTextCompatible, isLeading, isTrailing, key]
  obtain ⟨_, ⟨stored, isStored⟩, bounds⟩ := law.1 _ _ _ accepted
  exact ⟨stored, isStored, (bounds stored isStored).2⟩

end screengoblin.metadata
