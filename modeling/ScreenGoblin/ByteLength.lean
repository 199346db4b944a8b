-- The byte stream of a private media object (`enforceExactByteLength` in
-- apps/api/src/media/delivery.ts). A transform counts the bytes of the chunks and holds the last
-- one back, so that no one gets a whole object of a wrong length.
import ScreenGoblin.JsonText
import ScreenGoblin.ReleaseCanonical
import ScreenGoblin.Streams

open js jsontext stream

namespace screengoblin.server

/-! ## The transform -/

/-- A chunk of a source: a buffer, or a text with its encoding. -/
inductive Chunk where
  | buffer (bytes : List UInt8)
  | string (value encoding : String)

/-- The variables that the transform closes on. -/
structure ByteCount where
  receivedBytes : Nat
  finalByte : Option (List UInt8)

section

-- `Buffer.from(text, encoding)`
variable (bufferFrom : String → String → List UInt8)

def Chunk.bytes : Chunk → List UInt8
  | .buffer bytes => bytes
  | .string value encoding => bufferFrom value encoding

/-- The bytes of a source. -/
def bytesOfChunks (chunks : List Chunk) : List UInt8 := chunks.flatMap (Chunk.bytes bufferFrom)

def bounded (expectedBytes : Nat) : Transform ByteCount Chunk (List UInt8) where
  transform s chunk :=
    let bytes := chunk.bytes bufferFrom
    if (bytes.length : Int) > expectedBytes - s.receivedBytes then
      .error "Private media object exceeded its declared length"
    else
      let receivedBytes := s.receivedBytes + bytes.length
      if receivedBytes = expectedBytes ∧ bytes.length > 0 then
        .ok ({ receivedBytes, finalByte := some (bytes.drop (bytes.length - 1)) },
          if bytes.length = 1 then [] else bytes.take (bytes.length - 1))
      else .ok ({ s with receivedBytes }, bytes)
  flush s :=
    if s.receivedBytes ≠ expectedBytes then
      .error "Private media object ended before its declared length"
    else .ok (s.finalByte.getD [])

/-- The stream that the function returns, for the chunks and the ending of its source. -/
def enforceExactByteLength (body : List Chunk) (ending : Ending) (expectedBytes : Rat) :
    Except String (Output (List UInt8)) :=
  if !Value.isSafeInteger (numberJson expectedBytes) || decide (expectedBytes < 0) then
    .error "Private media object length is invalid"
  else
    .ok ((bounded bufferFrom expectedBytes.num.toNat).run { receivedBytes := 0, finalByte := none }
      body ending)

/-! ## What is emitted -/

variable {bufferFrom}

/-- What was emitted and the byte that is held back are the bytes so far. A byte is held back once
all bytes have come. -/
structure Counts (bufferFrom : String → String → List UInt8) (n : Nat) (seen : List Chunk)
    (s : ByteCount) (out : List (List UInt8)) : Prop where
  received : s.receivedBytes = (bytesOfChunks bufferFrom seen).length
  bound : s.receivedBytes ≤ n
  parts : bytesOfChunks bufferFrom seen = out.flatten ++ s.finalByte.getD []
  held : (s.finalByte.getD []).length = if s.receivedBytes = n ∧ 0 < n then 1 else 0

theorem bytesOfChunks_append (seen : List Chunk) (chunk : Chunk) :
    bytesOfChunks bufferFrom (seen ++ [chunk]) =
      bytesOfChunks bufferFrom seen ++ chunk.bytes bufferFrom := by
  unfold bytesOfChunks
  rw [List.flatMap_append, List.flatMap_singleton]

theorem Counts.start (n : Nat) :
    Counts bufferFrom n [] { receivedBytes := 0, finalByte := none } [] where
  received := rfl
  bound := Nat.zero_le n
  parts := rfl
  held := by
    rw [if_neg (by dsimp only; omega)]
    rfl

theorem Counts.step {n : Nat} {seen : List Chunk} {s s' : ByteCount} {out : List (List UInt8)}
    {chunk : Chunk} {pushed : List UInt8} (h : Counts bufferFrom n seen s out)
    (transformed : (bounded bufferFrom n).transform s chunk = .ok (s', pushed)) :
    Counts bufferFrom n (seen ++ [chunk]) s' (out ++ [pushed]) := by
  have count : (bytesOfChunks bufferFrom (seen ++ [chunk])).length =
      s.receivedBytes + (chunk.bytes bufferFrom).length := by
    rw [bytesOfChunks_append, List.length_append, h.received]
  unfold bounded at transformed
  dsimp only at transformed
  by_cases large : ((chunk.bytes bufferFrom).length : Int) > n - s.receivedBytes
  · rw [if_pos large] at transformed
    cases transformed
  rw [if_neg large] at transformed
  by_cases full : s.receivedBytes + (chunk.bytes bufferFrom).length = n ∧
      (chunk.bytes bufferFrom).length > 0
  · rw [if_pos full] at transformed
    -- nothing was held back before this chunk, and now its last byte is
    have none : s.finalByte.getD [] = [] := by
      apply List.eq_nil_of_length_eq_zero
      rw [h.held, if_neg (by omega)]
    have front : (if (chunk.bytes bufferFrom).length = 1 then [] else
        (chunk.bytes bufferFrom).take ((chunk.bytes bufferFrom).length - 1)) =
          (chunk.bytes bufferFrom).take ((chunk.bytes bufferFrom).length - 1) := by
      split
      · rename_i one
        rw [one]
        rfl
      · rfl
    rw [front] at transformed
    cases transformed
    refine ⟨count.symm, by dsimp only; omega, ?_, ?_⟩
    · rw [bytesOfChunks_append, h.parts, none, List.append_nil, List.flatten_append,
        List.append_assoc]
      simp
    · dsimp only
      rw [if_pos (by omega), Option.getD_some, List.length_drop]
      omega
  · rw [if_neg full] at transformed
    cases transformed
    refine ⟨count.symm, by dsimp only; omega, ?_, ?_⟩
    · rw [bytesOfChunks_append, h.parts, List.flatten_append, List.append_assoc, List.append_assoc]
      congr 1
      by_cases empty : (chunk.bytes bufferFrom).length = 0
      · simp [List.eq_nil_of_length_eq_zero empty]
      · have none : s.finalByte.getD [] = [] := by
          apply List.eq_nil_of_length_eq_zero
          rw [h.held, if_neg (by omega)]
        simp [none]
    · dsimp only
      rw [h.held]
      by_cases empty : (chunk.bytes bufferFrom).length = 0
      · rw [empty, Nat.add_zero]
      · rw [if_neg (by omega), if_neg (by omega)]

/-- Before an error fewer bytes are emitted than the declared length, or none at all. -/
theorem Counts.emitted {n : Nat} {seen : List Chunk} {s : ByteCount} {out : List (List UInt8)}
    (h : Counts bufferFrom n seen s out) (rest : List Chunk) :
    out.flatten <+: bytesOfChunks bufferFrom (seen ++ rest) ∧
      (out.flatten.length < n ∨ n = 0 ∧ out.flatten = []) := by
  have total : s.receivedBytes = out.flatten.length + (s.finalByte.getD []).length := by
    rw [h.received, h.parts, List.length_append]
  constructor
  · unfold bytesOfChunks
    rw [List.flatMap_append]
    apply List.IsPrefix.trans _ (List.prefix_append _ _)
    show out.flatten <+: bytesOfChunks bufferFrom seen
    rw [h.parts]
    exact List.prefix_append _ _
  · have bound := h.bound
    by_cases zero : n = 0
    · right
      exact ⟨zero, List.eq_nil_of_length_eq_zero (by omega)⟩
    · left
      by_cases full : s.receivedBytes = n
      · have held := h.held
        rw [if_pos (by omega)] at held
        omega
      · omega

/-- The output is the source if this ends after the declared length. Otherwise the output fails,
and before that it emits a part of the source that is too short, or nothing. -/
structure ExactOutput (n : Nat) (source : List UInt8) (ending : Ending)
    (out : Output (List UInt8)) : Prop where
  whole : ending = .ended ∧ source.length = n → out.emitted.flatten = source ∧ out.failure = none
  fails : ¬(ending = .ended ∧ source.length = n) → out.failure ≠ none ∧
    out.emitted.flatten <+: source ∧
    (out.emitted.flatten.length < n ∨ n = 0 ∧ out.emitted.flatten = [])

theorem exact_of_failure {n : Nat} {source : List UInt8} {ending : Ending}
    {out : List (List UInt8)} {error : String} (wrong : ¬(ending = .ended ∧ source.length = n))
    (emitted : out.flatten <+: source ∧ (out.flatten.length < n ∨ n = 0 ∧ out.flatten = [])) :
    ExactOutput n source ending { emitted := out, failure := some error } where
  whole right := absurd right wrong
  fails _ := ⟨by simp, emitted⟩

theorem Counts.exact {n : Nat} {done rest : List Chunk} {s : ByteCount}
    {emitted : List (List UInt8)} {ending : Ending} {out : Output (List UInt8)}
    (h : Counts bufferFrom n done s emitted)
    (stops : Stops (bounded bufferFrom n) s emitted ending rest out) :
    ExactOutput n (bytesOfChunks bufferFrom (done ++ rest)) ending out := by
  have parts := h.emitted rest
  cases stops with
  | failed failed =>
    apply exact_of_failure _ parts
    rintro ⟨ended, _⟩
    rw [failed] at ended
    cases ended
  | short _ flushed =>
    apply exact_of_failure _ parts
    rintro ⟨_, length⟩
    rw [List.append_nil, ← h.received] at length
    unfold bounded at flushed
    dsimp only at flushed
    rw [if_neg (not_not_intro length)] at flushed
    cases flushed
  | @refused chunk later _ transformed =>
    apply exact_of_failure _ parts
    rintro ⟨_, length⟩
    have count : (bytesOfChunks bufferFrom (done ++ chunk :: later)).length =
        s.receivedBytes + (chunk.bytes bufferFrom).length +
          (bytesOfChunks bufferFrom later).length := by
      rw [h.received]
      unfold bytesOfChunks
      rw [List.flatMap_append, List.flatMap_cons, List.length_append, List.length_append]
      omega
    unfold bounded at transformed
    dsimp only at transformed
    rw [if_neg (by omega)] at transformed
    split at transformed <;> cases transformed
  | @ended last ended flushed =>
    have length : s.receivedBytes = n ∧ s.finalByte.getD [] = last := by
      unfold bounded at flushed
      dsimp only at flushed
      split at flushed
      · cases flushed
      · rename_i full
        exact ⟨not_not.mp full, Except.ok.inj flushed⟩
    rw [List.append_nil]
    constructor
    · intro _
      rw [List.flatten_append, h.parts, length.2]
      simp
    · intro wrong
      exact absurd ⟨ended, by rw [← h.received, length.1]⟩ wrong

theorem bounded_exact (n : Nat) (chunks : List Chunk) (ending : Ending) :
    ExactOutput n (bytesOfChunks bufferFrom chunks) ending
      ((bounded bufferFrom n).run { receivedBytes := 0, finalByte := none } chunks ending) := by
  obtain ⟨done, rest, s, emitted, whole, counts, stops⟩ :=
    (bounded bufferFrom n).run_stops Counts.step ending chunks (Counts.start n)
  rw [whole]
  rw [whole] at stops
  exact counts.exact stops

/-- For every declared length that is a safe integer, and every source, the output is exact. For
any other length the call throws. -/
theorem the_output_has_exactly_the_declared_length (bufferFrom : String → String → List UInt8)
    (chunks : List Chunk) (ending : Ending) :
    (∀ n : Nat, n ≤ 9007199254740991 → ∃ out,
      enforceExactByteLength bufferFrom chunks ending n = .ok out ∧
        ExactOutput n (bytesOfChunks bufferFrom chunks) ending out) ∧
    ∀ expectedBytes : Rat, (¬∃ n : Nat, n ≤ 9007199254740991 ∧ expectedBytes = n) →
      enforceExactByteLength bufferFrom chunks ending expectedBytes =
        .error "Private media object length is invalid" := by
  have zero : (0 : Rat) = ((0 : Int) : Rat) := rfl
  constructor
  · intro n small
    have safe : Value.isSafeInteger (numberJson (n : Rat)) = true :=
      isSafeInteger_iff.mpr ⟨n, by omega, by omega, (Rat.intCast_natCast n).symm⟩
    have positive : ¬(n : Rat) < 0 := by
      rw [← Rat.intCast_natCast, zero, Rat.intCast_lt_intCast]
      omega
    refine ⟨_, ?_, bounded_exact n chunks ending⟩
    unfold enforceExactByteLength
    rw [safe, decide_eq_false positive, Bool.not_true, Bool.or_self, if_neg Bool.false_ne_true,
      Rat.num_natCast, Int.toNat_natCast]
  · intro expectedBytes wrong
    unfold enforceExactByteLength
    by_cases safe : Value.isSafeInteger (numberJson expectedBytes) = true
    · obtain ⟨k, _, high, rfl⟩ := isSafeInteger_iff.mp safe
      have negative : (k : Rat) < 0 := by
        rw [zero, Rat.intCast_lt_intCast]
        by_contra positive
        obtain ⟨n, rfl⟩ := Int.eq_ofNat_of_zero_le (Int.not_lt.mp positive)
        exact wrong ⟨n, by omega, Rat.intCast_natCast n⟩
      rw [decide_eq_true negative, Bool.or_true, if_pos rfl]
    · rw [Bool.not_eq_true _ |>.mp safe, Bool.not_false, Bool.true_or, if_pos rfl]

end

/-! ## Two short streams -/

/-- The encoding of a text is UTF-8, whatever is asked for. -/
def bufferFromUtf8 (value _encoding : String) : List UInt8 := value.toByteArray.data.toList

/-- Two bytes in three chunks, where the last chunk is empty. -/
theorem two_bytes_of_two_are_emitted :
    ∃ out, enforceExactByteLength bufferFromUtf8 [.buffer [7], .buffer [8], .buffer []] .ended
        ((2 : Nat) : Rat) = .ok out ∧
      ExactOutput 2 (bytesOfChunks bufferFromUtf8 [.buffer [7], .buffer [8], .buffer []]) .ended
        out :=
  (the_output_has_exactly_the_declared_length bufferFromUtf8 _ _).1 2 (by decide)

/-- A source of one byte that was declared as empty fails, and nothing is emitted. That is no fewer
bytes than none. -/
theorem an_empty_object_has_no_fewer_bytes :
    ¬∀ (n : Nat) (chunks : List Chunk) (ending : Ending),
      ¬(ending = .ended ∧ (bytesOfChunks bufferFromUtf8 chunks).length = n) →
        ∃ out, enforceExactByteLength bufferFromUtf8 chunks ending n = .ok out ∧
          out.failure ≠ none ∧ out.emitted.flatten <+: bytesOfChunks bufferFromUtf8 chunks ∧
          out.emitted.flatten.length < n := by
  intro every
  obtain ⟨out, _, _, _, fewer⟩ := every 0 [.buffer [7]] .ended (by decide)
  exact Nat.not_lt_zero _ fewer

end screengoblin.server
