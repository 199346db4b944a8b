-- DER, the encoding of signatures: a tag, the length of the contents and the contents. The
-- contents of an integer are its two's complement octets, as few as possible. So every integer
-- has one encoding.
import Mathlib

namespace der

/-! ## Tags and lengths -/

/-- The octets of a natural number, the highest first. -/
def octets (n : Nat) : List UInt8 :=
  if n < 256 then [UInt8.ofNat n] else octets (n / 256) ++ [UInt8.ofNat (n % 256)]

/-- The length octets: one below 128, else the number of the octets and the octets. -/
def lengthOctets (n : Nat) : List UInt8 :=
  if n < 128 then [UInt8.ofNat n] else UInt8.ofNat (128 + (octets n).length) :: octets n

def encode (tag : UInt8) (contents : List UInt8) : List UInt8 :=
  tag :: (lengthOctets contents.length ++ contents)

/-- An encoding with a length in the short form. -/
theorem encode_short {tag : UInt8} {contents : List UInt8} (short : contents.length < 128) :
    encode tag contents = tag :: UInt8.ofNat contents.length :: contents := by
  unfold encode lengthOctets
  rw [if_pos short]
  rfl

/-! ## Integers -/

/-- The number of the first octet. Its high bit is the sign. -/
def signed (b : UInt8) : Int := if b < 128 then b.toNat else b.toNat - 256

/-- The two's complement value of contents. -/
def value : List UInt8 → Int
  | [] => 0
  | b :: rest => rest.foldl (fun n c => n * 256 + c.toNat) (signed b)

/-- No octet can be left out: the first nine bits are not all the same. -/
def Shortest : List UInt8 → Prop
  | [] => False
  | [_] => True
  | a :: b :: _ => ¬ (a = 0 ∧ b < 128) ∧ ¬ (a = 255 ∧ 128 ≤ b)

/-- The contents of an integer. -/
def contents (n : Int) : List UInt8 :=
  if -128 ≤ n ∧ n < 128 then [UInt8.ofNat (n % 256).toNat]
  else contents (n / 256) ++ [UInt8.ofNat (n % 256).toNat]
termination_by n.natAbs
decreasing_by omega

theorem lt_iff_toNat (b : UInt8) (n : Nat) (small : n < 256) :
    b < UInt8.ofNat n ↔ b.toNat < n := by
  rw [UInt8.lt_iff_toNat_lt, UInt8.toNat_ofNat', Nat.mod_eq_of_lt (by simpa using small)]

theorem toNat_low (n : Int) : ((UInt8.ofNat (n % 256).toNat).toNat : Int) = n % 256 := by
  rw [UInt8.toNat_ofNat']
  omega

theorem ofNat_low (n : Int) (b : UInt8) :
    UInt8.ofNat ((n * 256 + b.toNat) % 256).toNat = b := by
  have bound := b.toNat_lt
  have low : ((n * 256 + b.toNat) % 256).toNat = b.toNat := by omega
  rw [low, UInt8.ofNat_toNat]

theorem signed_low {n : Int} (small : -128 ≤ n ∧ n < 128) :
    signed (UInt8.ofNat (n % 256).toNat) = n := by
  have low := toNat_low n
  unfold signed
  have sign := lt_iff_toNat (UInt8.ofNat (n % 256).toNat) 128 (by decide)
  split
  · next below =>
    have := sign.mp below
    omega
  · next above =>
    have := mt sign.mpr above
    omega

theorem low_signed (b : UInt8) : UInt8.ofNat (signed b % 256).toNat = b := by
  have bound := b.toNat_lt
  have low : (signed b % 256).toNat = b.toNat := by
    unfold signed
    split <;> omega
  rw [low, UInt8.ofNat_toNat]

theorem signed_bounds (b : UInt8) : -128 ≤ signed b ∧ signed b < 128 := by
  have bound := b.toNat_lt
  have sign := lt_iff_toNat b 128 (by decide)
  unfold signed
  split
  · next below =>
    have := sign.mp below
    omega
  · next above =>
    have := mt sign.mpr above
    omega

theorem value_concat {x : List UInt8} (some : x ≠ []) (b : UInt8) :
    value (x ++ [b]) = value x * 256 + b.toNat := by
  cases x with
  | nil => exact absurd rfl some
  | cons a rest => simp [value, List.foldl_append]

theorem contents_ne_nil (n : Int) : contents n ≠ [] := by
  unfold contents
  split <;> simp

/-- The value of the contents of an integer is the integer. -/
theorem value_contents (n : Int) : value (contents n) = n := by
  induction n using contents.induct with
  | case1 n small =>
    unfold contents
    rw [if_pos small]
    exact signed_low small
  | case2 n large ih =>
    unfold contents
    rw [if_neg large, value_concat (contents_ne_nil _), ih, toNat_low]
    omega

theorem shortest_concat {x : List UInt8} (long : 2 ≤ x.length) (b : UInt8) :
    Shortest (x ++ [b]) ↔ Shortest x := by
  match x, long with
  | _ :: _ :: _, _ => rfl

/-- Two octets can not be one, just when their value does not fit into one. -/
theorem shortest_pair (a b : UInt8) :
    Shortest [a, b] ↔ ¬ (-128 ≤ value [a, b] ∧ value [a, b] < 128) := by
  have boundA := a.toNat_lt
  have boundB := b.toNat_lt
  have zero : a = 0 ↔ a.toNat = 0 := by rw [← UInt8.toNat_inj]; rfl
  have ones : a = 255 ↔ a.toNat = 255 := by rw [← UInt8.toNat_inj]; rfl
  have signA := lt_iff_toNat a 128 (by decide)
  have signB := lt_iff_toNat b 128 (by decide)
  have notB : 128 ≤ b ↔ ¬ b < UInt8.ofNat 128 := by rw [UInt8.not_lt]; rfl
  show (¬ (a = 0 ∧ b < UInt8.ofNat 128) ∧ ¬ (a = 255 ∧ 128 ≤ b)) ↔
    ¬ (-128 ≤ signed a * 256 + b.toNat ∧ signed a * 256 + b.toNat < 128)
  rw [notB, zero, ones, signB]
  unfold signed
  split
  · next below =>
    have := signA.mp below
    omega
  · next above =>
    have := mt signA.mpr above
    omega

/-- The value of several octets that are as few as possible does not fit into one. -/
theorem Shortest.far {x : List UInt8} (shortest : Shortest x) (long : 2 ≤ x.length) :
    ¬ (-128 ≤ value x ∧ value x < 128) := by
  induction x using List.reverseRecOn with
  | nil => cases shortest
  | append_singleton x b ih =>
    match x, long with
    | [a], _ => exact (shortest_pair a b).mp shortest
    | a :: c :: rest, _ =>
      have before := ih ((shortest_concat (by simp) b).mp shortest) (by simp)
      have bound := b.toNat_lt
      rw [value_concat (List.cons_ne_nil _ _)]
      omega

theorem shortest_contents (n : Int) : Shortest (contents n) := by
  induction n using contents.induct with
  | case1 n small =>
    unfold contents
    rw [if_pos small]
    trivial
  | case2 n large ih =>
    have whole := value_contents n
    unfold contents at whole ⊢
    rw [if_neg large] at whole ⊢
    match made : contents (n / 256) with
    | [] => exact absurd made (contents_ne_nil _)
    | [a] =>
      rw [made] at whole
      apply (shortest_pair a _).mpr
      rw [show [a, _] = [a] ++ [_] from rfl, whole]
      exact large
    | a :: b :: rest =>
      rw [made] at ih
      exact (shortest_concat (by simp) _).mpr ih

/-- Contents with as few octets as possible are the contents of their value. -/
theorem contents_value {x : List UInt8} (shortest : Shortest x) : contents (value x) = x := by
  induction x using List.reverseRecOn with
  | nil => cases shortest
  | append_singleton x b ih =>
    match x with
    | [] =>
      show contents (signed b) = [b]
      unfold contents
      rw [if_pos (signed_bounds b), low_signed]
    | a :: rest =>
      have far := shortest.far (by simp)
      have before : Shortest (a :: rest) := by
        cases rest with
        | nil => trivial
        | cons c rest => exact (shortest_concat (by simp) b).mp shortest
      have bound := b.toNat_lt
      unfold contents
      rw [if_neg far, value_concat (List.cons_ne_nil _ _), ofNat_low]
      have high : (value (a :: rest) * 256 + b.toNat) / 256 = value (a :: rest) := by omega
      rw [high, ih before]

/-- How many octets an integer takes. -/
theorem length_contents_le (k : Nat) (n : Int) :
    (contents n).length ≤ k + 1 ↔ -(128 * 256 ^ k : Int) ≤ n ∧ n < 128 * 256 ^ k := by
  induction k generalizing n with
  | zero =>
    unfold contents
    split
    · next small => simpa using small
    · next large =>
      have some := List.length_pos_iff.mpr (contents_ne_nil (n / 256))
      simp only [List.length_append, List.length_singleton, Int.pow_zero, Int.mul_one]
      omega
  | succ k ih =>
    have positive : (0 : Int) < 256 ^ k := Int.pow_pos (by decide)
    rw [Int.pow_succ]
    unfold contents
    split
    · next small =>
      simp only [List.length_singleton]
      omega
    · next large =>
      rw [List.length_append, List.length_singleton, Nat.add_le_add_iff_right, ih (n / 256)]
      omega

theorem foldl_nonneg_iff (rest : List UInt8) (n : Int) :
    0 ≤ rest.foldl (fun (n : Int) (c : UInt8) => n * 256 + c.toNat) n ↔ 0 ≤ n := by
  induction rest generalizing n with
  | nil => rfl
  | cons c rest ih =>
    have bound := c.toNat_lt
    rw [List.foldl_cons, ih]
    omega

/-- The sign is the high bit of the first octet. -/
theorem value_nonneg_iff (b : UInt8) (rest : List UInt8) :
    0 ≤ value (b :: rest) ↔ b.toNat < 128 := by
  have bound := b.toNat_lt
  have sign := lt_iff_toNat b 128 (by decide)
  have first : 0 ≤ signed b ↔ b.toNat < 128 := by
    unfold signed
    split
    · next below =>
      have := sign.mp below
      omega
    · next above =>
      have := mt sign.mpr above
      omega
  exact (foldl_nonneg_iff rest (signed b)).trans first

end der
