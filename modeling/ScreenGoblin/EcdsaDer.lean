-- The check on the form of a device signature (`isStrictEcdsaDer` in
-- apps/api/src/device-proof/crypto.ts). It accepts the DER encodings of two numbers below
-- 2 ^ 263 and nothing else, so that a signature has one form.
import Mathlib.Data.Nat.Bitwise
import Mathlib.Data.Set.Function
import ScreenGoblin.Der

open der

namespace screengoblin.server

/-! ## The check -/

/-- One turn of the loop: the offset after the INTEGER at `offset`, and the indices that the turn
reads with an assumed value (`signature[offset + 3]!`). -/
def readInteger (signature : List UInt8) (offset : Nat) : Option Nat × List Nat :=
  if signature[offset]? ≠ some 0x02 then (none, [])
  else
    match signature[offset + 1]? with
    | none => (none, [])
    | some length =>
      if length.toNat = 0 ∨ length.toNat > 33 ∨ offset + 2 + length.toNat > signature.length then
        (none, [])
      else
        match signature[offset + 2]? with
        | none => (none, [])
        | some first =>
          if first.toNat &&& 0x80 ≠ 0 then (none, [])
          else if length.toNat > 1 ∧ first.toNat = 0 then
            -- an index outside the string would be read as `undefined`, with no bit set
            let second := (signature[offset + 3]?.map UInt8.toNat).getD 0
            (if second &&& 0x80 = 0 then none else some (offset + 2 + length.toNat), [offset + 3])
          else (some (offset + 2 + length.toNat), [])

/-- The two turns of the loop from an offset, and the check after it. -/
def readIntegers (signature : List UInt8) : Bool × List Nat :=
  match readInteger signature 2 with
  | (none, assumed) => (false, assumed)
  | (some offset, assumed) =>
    match readInteger signature offset with
    | (none, assumed') => (false, assumed ++ assumed')
    | (some offset', assumed') => (offset' == signature.length, assumed ++ assumed')

/-- The answer of the check, and the indices that it reads with an assumed value. -/
def checkEcdsaDer (signature : List UInt8) : Bool × List Nat :=
  if signature.length < 8 ∨ signature.length > 72 ∨ signature[0]? ≠ some 0x30 then (false, [])
  else
    match signature[1]? with
    | none => (false, [])
    | some sequenceLength =>
      if sequenceLength.toNat ≠ signature.length - 2 then (false, [])
      else readIntegers signature

def isStrictEcdsaDer (signature : List UInt8) : Bool := (checkEcdsaDer signature).1

def assumedIndices (signature : List UInt8) : List Nat := (checkEcdsaDer signature).2

/-! ## The encoding of two numbers -/

/-- Contents that the check accepts: of a number from zero, with as few octets as possible, and
with 33 of them at most. -/
structure Accepted (x : List UInt8) : Prop where
  shortest : Shortest x
  nonneg : 0 ≤ value x
  length : x.length ≤ 33

/-- A SEQUENCE of two INTEGERs with these contents. -/
def signatureOf (x y : List UInt8) : List UInt8 := encode 0x30 (encode 0x02 x ++ encode 0x02 y)

/-- The DER encoding of two numbers. -/
def encodeSignature (numbers : Nat × Nat) : List UInt8 :=
  signatureOf (contents numbers.1) (contents numbers.2)

theorem high_bit {n : Nat} (byte : n < 256) : n &&& 0x80 = 0 ↔ n < 128 := by
  have bit : n &&& 0x80 = (n.testBit 7).toNat * 2 ^ 7 := Nat.and_two_pow n 7
  rw [bit, Nat.testBit_eq_decide_div_mod_eq]
  by_cases set : n / 2 ^ 7 % 2 = 1
  · simp only [set, decide_true, Bool.toNat_true]
    omega
  · simp only [set, decide_false, Bool.toNat_false]
    omega

theorem Accepted.ne_nil {x : List UInt8} (accepted : Accepted x) : x ≠ [] := by
  rintro rfl
  exact accepted.shortest

theorem encode_accepted {x : List UInt8} (accepted : Accepted x) :
    encode 0x02 x = 0x02 :: UInt8.ofNat x.length :: x := by
  apply encode_short
  have := accepted.length
  omega

/-! ## One turn -/

theorem getElem_after (before rest : List UInt8) (k : Nat) :
    (before ++ rest)[before.length + k]? = rest[k]? := by
  rw [List.getElem?_append_right (Nat.le_add_right _ _), Nat.add_sub_cancel_left]

/-- A turn on an INTEGER of this length. -/
theorem readInteger_eq (before tail : List UInt8) (length : UInt8) :
    readInteger (before ++ 0x02 :: length :: tail) before.length =
      if length.toNat = 0 ∨ length.toNat > 33 ∨ length.toNat > tail.length then (none, [])
      else
        match tail[0]? with
        | none => (none, [])
        | some first =>
          if first.toNat &&& 0x80 ≠ 0 then (none, [])
          else if length.toNat > 1 ∧ first.toNat = 0 then
            (if (tail[1]?.map UInt8.toNat).getD 0 &&& 0x80 = 0 then none
              else some (before.length + 2 + length.toNat), [before.length + 3])
          else (some (before.length + 2 + length.toNat), []) := by
  have at0 := getElem_after before (0x02 :: length :: tail) 0
  have at1 := getElem_after before (0x02 :: length :: tail) 1
  have at2 := getElem_after before (0x02 :: length :: tail) 2
  have at3 := getElem_after before (0x02 :: length :: tail) 3
  simp only [Nat.add_zero, List.getElem?_cons_zero, List.getElem?_cons_succ] at at0 at1 at2 at3
  have room : before.length + 2 + length.toNat > (before ++ 0x02 :: length :: tail).length ↔
      length.toNat > tail.length := by
    simp only [List.length_append, List.length_cons]
    omega
  unfold readInteger
  simp only [at0, at1, at2, at3, room, ne_eq, not_true_eq_false, if_false]

theorem readInteger_starts {before rest : List UInt8} {next : Nat}
    (reads : (readInteger (before ++ rest) before.length).1 = some next) :
    ∃ length tail, rest = 0x02 :: length :: tail := by
  have at0 := getElem_after before rest 0
  have at1 := getElem_after before rest 1
  rw [Nat.add_zero] at at0
  unfold readInteger at reads
  rw [at0, at1] at reads
  match rest with
  | [] => simp at reads
  | [tag] =>
    simp only [List.getElem?_cons_succ, List.getElem?_nil] at reads
    split at reads <;> cases reads
  | tag :: length :: tail =>
    by_cases isInteger : tag = 0x02
    · exact ⟨length, tail, by rw [isInteger]⟩
    · simp [isInteger] at reads

/-- An octet of zeros in front is needed only for the sign of the next. -/
theorem shortest_iff {first : UInt8} (sign : first.toNat < 128) (others : List UInt8) :
    Shortest (first :: others) ↔
      ∀ second, others[0]? = some second → first.toNat = 0 → 128 ≤ second.toNat := by
  cases others with
  | nil => simp [Shortest]
  | cons second others =>
    have zero : first = 0 ↔ first.toNat = 0 := by
      rw [← UInt8.toNat_inj]
      rfl
    have ones : first ≠ 255 := by
      rintro rfl
      exact absurd sign (by decide)
    have low := lt_iff_toNat second 128 (by decide)
    show (¬ (first = 0 ∧ second < UInt8.ofNat 128) ∧ ¬ (first = 255 ∧ 128 ≤ second)) ↔ _
    rw [zero, low]
    simp [ones]

/-- A turn reads the INTEGER that stands at the offset, and only one that is accepted. -/
theorem readInteger_iff (before rest : List UInt8) (next : Nat) :
    (readInteger (before ++ rest) before.length).1 = some next ↔
      ∃ x after, Accepted x ∧ rest = encode 0x02 x ++ after ∧
        next = before.length + 2 + x.length := by
  constructor
  · intro reads
    obtain ⟨length, tail, rfl⟩ := readInteger_starts reads
    rw [readInteger_eq] at reads
    split at reads
    · cases reads
    next inside =>
    have takes : (tail.take length.toNat).length = length.toNat := by
      rw [List.length_take]
      omega
    cases tail with
    | nil => cases reads
    | cons first others =>
      simp only [List.getElem?_cons_zero, List.getElem?_cons_succ] at reads
      split at reads
      · cases reads
      next positive =>
      have sign : first.toNat < 128 := (high_bit first.toNat_lt).mp (not_not.mp positive)
      obtain ⟨k, isLength⟩ : ∃ k, length.toNat = k + 1 := ⟨length.toNat - 1, by omega⟩
      rw [isLength, List.take_succ_cons] at takes
      have goes : next = before.length + 2 + length.toNat ∧
          Shortest (first :: others.take k) := by
        rw [shortest_iff sign]
        simp only [List.getElem?_take]
        split at reads
        · next long =>
          split at reads
          · cases reads
          · next high =>
            refine ⟨(Option.some.inj reads).symm, ?_⟩
            intro second isSecond zero
            have here : others[0]? = some second := by
              split at isSecond
              · exact isSecond
              · cases isSecond
            rw [here] at high
            exact not_lt.mp (mt (high_bit second.toNat_lt).mpr high)
        · next short =>
          refine ⟨(Option.some.inj reads).symm, ?_⟩
          intro second isSecond zero
          split at isSecond
          · exact absurd ⟨by omega, zero⟩ short
          · cases isSecond
      refine ⟨first :: others.take k, others.drop k, ⟨goes.2, ?_, ?_⟩, ?_, ?_⟩
      · exact (value_nonneg_iff first _).mpr sign
      · omega
      · rw [encode_short (by omega), takes, ← isLength, UInt8.ofNat_toNat]
        simp
      · rw [goes.1, takes, isLength]
  · rintro ⟨x, after, accepted, rfl, rfl⟩
    have short := accepted.length
    cases x with
    | nil => exact absurd rfl accepted.ne_nil
    | cons first others =>
      have sign := (value_nonneg_iff first others).mp accepted.nonneg
      have shortest := (shortest_iff sign others).mp accepted.shortest
      have isLength : (UInt8.ofNat (first :: others).length).toNat = (first :: others).length := by
        rw [UInt8.toNat_ofNat']
        omega
      rw [encode_accepted accepted]
      show (readInteger (before ++ 0x02 :: _ :: (first :: (others ++ after))) _).1 = _
      rw [readInteger_eq, isLength]
      simp only [List.length_cons, List.length_append] at short ⊢
      rw [if_neg (by omega)]
      simp only [List.getElem?_cons_zero, List.getElem?_cons_succ]
      rw [if_neg (by rw [not_not]; exact (high_bit first.toNat_lt).mpr sign)]
      split
      · next long =>
        cases others with
        | nil => exact absurd long.1 (by simp)
        | cons second others =>
          have high := mt (high_bit second.toNat_lt).mp (not_lt.mpr (shortest second rfl long.2))
          simp [high]
      · rfl

/-- Every index that a turn reads with an assumed value is inside the string. -/
theorem readInteger_inside (signature : List UInt8) (offset : Nat) :
    ∀ i ∈ (readInteger signature offset).2, i < signature.length := by
  have none : ∀ i ∈ ([] : List Nat), i < signature.length := fun i here => by cases here
  unfold readInteger
  split
  · exact none
  split
  · exact none
  split
  · exact none
  next inside =>
  split
  · exact none
  split
  · exact none
  split
  · next long =>
    intro i here
    obtain rfl := List.mem_singleton.mp here
    omega
  · exact none

/-! ## The whole string -/

theorem signatureOf_eq {x y : List UInt8} (ax : Accepted x) (ay : Accepted y) :
    signatureOf x y = 0x30 :: UInt8.ofNat (encode 0x02 x ++ encode 0x02 y).length ::
      (encode 0x02 x ++ encode 0x02 y) := by
  have shortX := ax.length
  have shortY := ay.length
  apply encode_short
  rw [encode_accepted ax, encode_accepted ay]
  simp only [List.length_append, List.length_cons]
  omega

theorem length_encode {x : List UInt8} (accepted : Accepted x) :
    (encode 0x02 x).length = x.length + 2 := by
  rw [encode_accepted accepted]
  rfl

/-- The two turns read two INTEGERs with nothing after them. -/
theorem readIntegers_iff (a b : UInt8) (rest : List UInt8) :
    (readIntegers (a :: b :: rest)).1 = true ↔
      ∃ x y, Accepted x ∧ Accepted y ∧ rest = encode 0x02 x ++ encode 0x02 y := by
  have first := readInteger_iff [a, b] rest
  constructor
  · intro reads
    unfold readIntegers at reads
    split at reads
    · cases reads
    next offset assumed turn =>
    obtain ⟨x, after, ax, rfl, rfl⟩ := (first offset).mp (congrArg Prod.fst turn)
    have second := readInteger_iff (a :: b :: encode 0x02 x) after
    have place : (a :: b :: encode 0x02 x).length = [a, b].length + 2 + x.length := by
      simp only [List.length_cons, length_encode ax, List.length_nil]
      omega
    split at reads
    · cases reads
    next offset' assumed' turn' =>
    rw [place] at second
    obtain ⟨y, last, ay, rfl, rfl⟩ := (second offset').mp (congrArg Prod.fst turn')
    have whole := beq_iff_eq.mp reads
    simp only [List.length_cons, List.length_append, length_encode ax, length_encode ay,
      List.length_nil] at whole
    have none : last = [] := List.length_eq_zero_iff.mp (by omega)
    rw [none, List.append_nil]
    exact ⟨x, y, ax, ay, rfl⟩
  · rintro ⟨x, y, ax, ay, rfl⟩
    have turn := (first (4 + x.length)).mpr ⟨x, _, ax, rfl, by simp⟩
    have second := readInteger_iff (a :: b :: encode 0x02 x) (encode 0x02 y)
    have place : (a :: b :: encode 0x02 x).length = 4 + x.length := by
      simp only [List.length_cons, length_encode ax]
      omega
    rw [place] at second
    have turn' := (second (6 + x.length + y.length)).mpr
      ⟨y, [], ay, (List.append_nil _).symm, by omega⟩
    unfold readIntegers
    split
    · next stopped =>
      have stopped := congrArg Prod.fst stopped
      cases stopped.symm.trans turn
    next offset assumed read =>
    have read := congrArg Prod.fst read
    obtain rfl := Option.some.inj (read.symm.trans turn)
    split
    · next stopped =>
      have stopped := congrArg Prod.fst stopped
      cases stopped.symm.trans turn'
    next offset' assumed' read' =>
    have read' := congrArg Prod.fst read'
    obtain rfl := Option.some.inj (read'.symm.trans turn')
    simp only [beq_iff_eq, List.length_cons, List.length_append, length_encode ax,
      length_encode ay]
    omega

/-- The check accepts a SEQUENCE of two accepted INTEGERs and nothing else. -/
theorem isStrictEcdsaDer_iff (signature : List UInt8) :
    isStrictEcdsaDer signature = true ↔
      ∃ x y, Accepted x ∧ Accepted y ∧ signature = signatureOf x y := by
  unfold isStrictEcdsaDer
  constructor
  · intro accepts
    unfold checkEcdsaDer at accepts
    split at accepts
    · cases accepts
    next start =>
    match signature with
    | [] => simp at start
    | [a] => simp at start
    | a :: b :: rest =>
      simp only [List.getElem?_cons_succ, List.getElem?_cons_zero] at accepts start
      split at accepts
      · cases accepts
      next length =>
      obtain ⟨x, y, ax, ay, rfl⟩ := (readIntegers_iff a b rest).mp accepts
      refine ⟨x, y, ax, ay, ?_⟩
      rw [signatureOf_eq ax ay]
      have isLength : b.toNat = (encode 0x02 x ++ encode 0x02 y).length := not_not.mp length
      have isSequence : a = 0x30 := by simpa using fun tag => start (.inr (.inr tag))
      rw [← isLength, isSequence, UInt8.ofNat_toNat]
  · rintro ⟨x, y, ax, ay, rfl⟩
    have reads := (readIntegers_iff 0x30 (UInt8.ofNat (encode 0x02 x ++ encode 0x02 y).length)
      (encode 0x02 x ++ encode 0x02 y)).mpr ⟨x, y, ax, ay, rfl⟩
    have shortX := ax.length
    have shortY := ay.length
    have someX := List.length_pos_iff.mpr ax.ne_nil
    have someY := List.length_pos_iff.mpr ay.ne_nil
    have length : (encode 0x02 x ++ encode 0x02 y).length = x.length + y.length + 4 := by
      rw [List.length_append, length_encode ax, length_encode ay]
      omega
    rw [signatureOf_eq ax ay]
    unfold checkEcdsaDer
    simp only [List.getElem?_cons_succ, List.getElem?_cons_zero, List.length_cons, length,
      UInt8.toNat_ofNat'] at reads ⊢
    rw [if_neg (by simp; omega), if_neg (by simp; omega)]
    exact reads

theorem assumedIndices_inside (signature : List UInt8) :
    ∀ i ∈ assumedIndices signature, i < signature.length := by
  have none : ∀ i ∈ ([] : List Nat), i < signature.length := fun i here => by cases here
  unfold assumedIndices checkEcdsaDer
  split
  · exact none
  split
  · exact none
  split
  · exact none
  unfold readIntegers
  have first := readInteger_inside signature 2
  split
  · next turn =>
    rw [turn] at first
    exact first
  next offset assumed turn =>
  rw [turn] at first
  have second := readInteger_inside signature offset
  split
  · next turn' =>
    rw [turn'] at second
    exact List.forall_mem_append.mpr ⟨first, second⟩
  · next turn' =>
    rw [turn'] at second
    exact List.forall_mem_append.mpr ⟨first, second⟩

/-! ## The numbers -/

theorem accepted_contents {n : Nat} (below : n < 2 ^ 263) : Accepted (contents n) where
  shortest := shortest_contents n
  nonneg := by
    rw [value_contents]
    exact Int.natCast_nonneg n
  length := by
    apply (length_contents_le 32 n).mpr
    omega

theorem number_of_accepted {x : List UInt8} (accepted : Accepted x) :
    (value x).toNat < 2 ^ 263 ∧ contents (value x).toNat = x := by
  have same := contents_value accepted.shortest
  have bound := (length_contents_le 32 (value x)).mp (by rw [same]; exact accepted.length)
  have nonneg := accepted.nonneg
  refine ⟨by omega, ?_⟩
  rw [Int.toNat_of_nonneg nonneg]
  exact same

theorem signatureOf_inj {x y x' y' : List UInt8} (ax : Accepted x) (ay : Accepted y)
    (ax' : Accepted x') (ay' : Accepted y') (same : signatureOf x y = signatureOf x' y') :
    x = x' ∧ y = y' := by
  have shortX := ax.length
  have shortX' := ax'.length
  rw [signatureOf_eq ax ay, signatureOf_eq ax' ay'] at same
  have rest := (List.cons.inj (List.cons.inj same).2).2
  rw [encode_accepted ax, encode_accepted ax', encode_accepted ay, encode_accepted ay'] at rest
  simp only [List.cons_append, List.cons.injEq, true_and] at rest
  have length : x.length = x'.length := by
    have octet := congrArg UInt8.toNat rest.1
    rw [UInt8.toNat_ofNat', UInt8.toNat_ofNat'] at octet
    omega
  obtain ⟨rfl, tail⟩ := List.append_inj rest.2 length
  simp only [List.cons.injEq, true_and] at tail
  exact ⟨rfl, tail.2⟩

/-- The check accepts the DER encodings of two numbers and nothing else, reads no index outside
the string with an assumed value, and gives every pair of numbers one form. -/
theorem the_accepted_signatures_are_the_encodings_of_two_numbers :
    (∀ signature, isStrictEcdsaDer signature = true ↔
      ∃ x y, Accepted x ∧ Accepted y ∧ signature = signatureOf x y) ∧
    (∀ signature, ∀ i ∈ assumedIndices signature, i < signature.length) ∧
    Set.BijOn encodeSignature {numbers | numbers.1 < 2 ^ 263 ∧ numbers.2 < 2 ^ 263}
      {signature | isStrictEcdsaDer signature = true} := by
  refine ⟨isStrictEcdsaDer_iff, assumedIndices_inside, ?_, ?_, ?_⟩
  · rintro ⟨r, s⟩ ⟨smallR, smallS⟩
    exact (isStrictEcdsaDer_iff _).mpr
      ⟨_, _, accepted_contents smallR, accepted_contents smallS, rfl⟩
  · rintro ⟨r, s⟩ ⟨smallR, smallS⟩ ⟨r', s'⟩ ⟨smallR', smallS'⟩ same
    obtain ⟨sameR, sameS⟩ := signatureOf_inj (accepted_contents smallR)
      (accepted_contents smallS) (accepted_contents smallR') (accepted_contents smallS') same
    have numberR := congrArg value sameR
    have numberS := congrArg value sameS
    simp only [value_contents] at numberR numberS
    rw [Int.natCast_inj.mp numberR, Int.natCast_inj.mp numberS]
  · intro signature accepts
    obtain ⟨x, y, ax, ay, rfl⟩ := (isStrictEcdsaDer_iff signature).mp accepts
    obtain ⟨smallX, sameX⟩ := number_of_accepted ax
    obtain ⟨smallY, sameY⟩ := number_of_accepted ay
    refine ⟨((value x).toNat, (value y).toNat), ⟨smallX, smallY⟩, ?_⟩
    unfold encodeSignature
    rw [sameX, sameY]

-- the pair 1, 128: the second number takes an octet of zeros for its sign
example : isStrictEcdsaDer [0x30, 0x07, 0x02, 0x01, 0x01, 0x02, 0x02, 0x00, 0x80] = true := by
  decide

end screengoblin.server
