-- Base64 with the alphabet of URLs and without padding: three bytes are four characters. Reading
-- is lenient, as in most runtimes. What was written is read back.
import Mathlib.Data.List.Basic

namespace base64url

/-- The character of six bits. -/
def letter (n : Nat) : Char :=
  if n < 26 then Char.ofNat (n + 65)
  else if n < 52 then Char.ofNat (n + 71)
  else if n < 62 then Char.ofNat (n - 4)
  else if n = 62 then '-'
  else '_'

/-- The six bits of a character. The other alphabet is read as well. -/
def sextet (c : Char) : Option Nat :=
  if 'A' ≤ c ∧ c ≤ 'Z' then some (c.toNat - 65)
  else if 'a' ≤ c ∧ c ≤ 'z' then some (c.toNat - 71)
  else if '0' ≤ c ∧ c ≤ '9' then some (c.toNat + 4)
  else if c = '-' ∨ c = '+' then some 62
  else if c = '_' ∨ c = '/' then some 63
  else none

/-- The bytes in groups of six bits. The last group is filled with zeros. -/
def sextets : List UInt8 → List Nat
  | a :: b :: c :: rest =>
    a.toNat / 4 :: (a.toNat % 4 * 16 + b.toNat / 16) :: (b.toNat % 16 * 4 + c.toNat / 64) ::
      c.toNat % 64 :: sextets rest
  | [a, b] => [a.toNat / 4, a.toNat % 4 * 16 + b.toNat / 16, b.toNat % 16 * 4]
  | [a] => [a.toNat / 4, a.toNat % 4 * 16]
  | [] => []

/-- The whole bytes in groups of six bits. -/
def bytesOf : List Nat → List UInt8
  | a :: b :: c :: d :: rest =>
    UInt8.ofNat (a * 4 + b / 16) :: UInt8.ofNat (b % 16 * 16 + c / 4) ::
      UInt8.ofNat (c % 4 * 64 + d) :: bytesOf rest
  | [a, b, c] => [UInt8.ofNat (a * 4 + b / 16), UInt8.ofNat (b % 16 * 16 + c / 4)]
  | [a, b] => [UInt8.ofNat (a * 4 + b / 16)]
  | _ => []

def encode (bytes : List UInt8) : List Char := (sextets bytes).map letter

/-- Characters outside of both alphabets are skipped. -/
def decode (text : List Char) : List UInt8 := bytesOf (text.filterMap sextet)

/-! ## What was written is read back -/

theorem sextet_letter {n : Nat} (small : n < 64) : sextet (letter n) = some n := by
  have all : ∀ n : Fin 64, sextet (letter n) = some n.val := by decide
  exact all ⟨n, small⟩

theorem sextets_small (bytes : List UInt8) : ∀ n ∈ sextets bytes, n < 64 := by
  fun_induction sextets bytes with
  | case1 a b c rest ih =>
    intro n member
    have := a.toNat_lt
    have := b.toNat_lt
    have := c.toNat_lt
    simp only [List.mem_cons] at member
    rcases member with rfl | rfl | rfl | rfl | member
    · omega
    · omega
    · omega
    · omega
    · exact ih n member
  | case2 a b =>
    intro n member
    have := a.toNat_lt
    have := b.toNat_lt
    simp only [List.mem_cons, List.not_mem_nil, or_false] at member
    omega
  | case3 a =>
    intro n member
    have := a.toNat_lt
    simp only [List.mem_cons, List.not_mem_nil, or_false] at member
    omega
  | case4 =>
    intro n member
    cases member

theorem byte_eq {n : Nat} {a : UInt8} (same : n = a.toNat) : UInt8.ofNat n = a := by
  rw [same, UInt8.ofNat_toNat]

theorem bytesOf_sextets (bytes : List UInt8) : bytesOf (sextets bytes) = bytes := by
  fun_induction sextets bytes with
  | case1 a b c rest ih =>
    have := a.toNat_lt
    have := b.toNat_lt
    have := c.toNat_lt
    rw [bytesOf, ih, byte_eq (a := a) (by omega), byte_eq (a := b) (by omega),
      byte_eq (a := c) (by omega)]
  | case2 a b =>
    have := a.toNat_lt
    have := b.toNat_lt
    rw [bytesOf, byte_eq (a := a) (by omega), byte_eq (a := b) (by omega)]
  | case3 a =>
    have := a.toNat_lt
    rw [bytesOf, byte_eq (a := a) (by omega)]
  | case4 => rfl

theorem filterMap_letters {ns : List Nat} (small : ∀ n ∈ ns, n < 64) :
    (ns.map letter).filterMap sextet = ns := by
  induction ns with
  | nil => rfl
  | cons n rest ih =>
    rw [List.map_cons, List.filterMap_cons, sextet_letter (small n List.mem_cons_self)]
    dsimp only
    rw [ih fun m member => small m (List.mem_cons_of_mem _ member)]

theorem decode_encode (bytes : List UInt8) : decode (encode bytes) = bytes := by
  unfold decode encode
  rw [filterMap_letters (sextets_small bytes), bytesOf_sextets]

/-! ## Lengths -/

theorem length_sextets (bytes : List UInt8) :
    (sextets bytes).length = (bytes.length * 4 + 2) / 3 := by
  fun_induction sextets bytes with
  | case1 a b c rest ih =>
    simp only [List.length_cons, ih]
    omega
  | _ => simp

theorem length_encode (bytes : List UInt8) :
    (encode bytes).length = (bytes.length * 4 + 2) / 3 := by
  unfold encode
  rw [List.length_map, length_sextets]

/-! ## The alphabet -/

theorem letter_ne_dot (n : Nat) : letter n ≠ '.' := by
  by_cases small : n < 64
  · intro dot
    have read := sextet_letter small
    rw [dot] at read
    cases read
  · unfold letter
    rw [if_neg (by omega), if_neg (by omega), if_neg (by omega), if_neg (by omega)]
    decide

theorem dot_notMem_encode (bytes : List UInt8) : '.' ∉ encode bytes := by
  unfold encode
  rw [List.mem_map]
  rintro ⟨n, _, dot⟩
  exact letter_ne_dot n dot

theorem encode_ne_nil {bytes : List UInt8} (some : bytes ≠ []) : encode bytes ≠ [] := by
  intro none
  have read := decode_encode bytes
  rw [none] at read
  exact some read.symm

end base64url
