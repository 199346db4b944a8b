-- JSON texts: what `JSON.stringify` writes for a value, and what `JSON.parse` reads. How a
-- number is written is a parameter. A value that lists its fields the way JavaScript does is
-- read back as it was written.
import ScreenGoblin.Json

open js

namespace jsontext

/-! ## Numbers and the order of fields -/

def isNumberChar (c : Char) : Bool := c.isDigit || c == '-' || c == '+' || c == '.' || c == 'e' ||
  c == 'E'

/-- The texts of numbers: `String(number)`, and the number of a JSON token. -/
structure Numerals where
  text : Rat → List Char
  value : List Char → Option Rat

/-- A number is written in characters of a number, and read back. -/
def Numerals.Exact (N : Numerals) (q : Rat) : Prop :=
  N.value (N.text q) = some q ∧ N.text q ≠ [] ∧ ∀ c ∈ N.text q, isNumberChar c = true

/-- The number of a key that is an array index. JavaScript lists these first. -/
def arrayIndex (key : String) : Option Nat :=
  let digits := key.toList
  let n := digits.foldl (fun n c => 10 * n + (c.toNat - 48)) 0
  if digits ≠ [] ∧ digits.all Char.isDigit ∧ (digits.head? ≠ some '0' ∨ digits.length = 1) ∧
      n < 4294967295 then some n
  else none

def putIndex (n : Nat) (f : String × Json) : List (Nat × String × Json) → List (Nat × String × Json)
  | [] => [(n, f)]
  | g :: rest => if n < g.1 then (n, f) :: g :: rest else g :: putIndex n f rest

/-- The fields of an object in the order in which JavaScript lists them: array indices first. -/
def inOrder (fields : List (String × Json)) : List (String × Json) :=
  let indexed := fields.filterMap fun f => (arrayIndex f.1).map fun n => (n, f)
  (indexed.foldr (fun p sorted => putIndex p.1 p.2 sorted) []).map (·.2) ++
    fields.filter fun f => (arrayIndex f.1).isNone

/-- The object that the fields make when they are set one after the other. -/
def makeObject (fields : List (String × Json)) : List (String × Json) :=
  inOrder (fields.foldl (fun made f => setField f.1 (some f.2) made) [])

/-! ## Writing -/

def hexDigit (n : Nat) : Char := if n < 10 then Char.ofNat (48 + n) else Char.ofNat (87 + n)

/-- A character inside a string literal. -/
def escapeChar (c : Char) : List Char :=
  if c = '"' then ['\\', '"']
  else if c = '\\' then ['\\', '\\']
  else if c.toNat = 8 then ['\\', 'b']
  else if c.toNat = 9 then ['\\', 't']
  else if c.toNat = 10 then ['\\', 'n']
  else if c.toNat = 12 then ['\\', 'f']
  else if c.toNat = 13 then ['\\', 'r']
  else if c.toNat < 32 then ['\\', 'u', '0', '0', hexDigit (c.toNat / 16), hexDigit (c.toNat % 16)]
  else [c]

def writeString (s : String) : List Char := '"' :: (s.toList.flatMap escapeChar ++ ['"'])

mutual

def write (N : Numerals) : Json → List Char
  | .null => ['n', 'u', 'l', 'l']
  | .bool true => ['t', 'r', 'u', 'e']
  | .bool false => ['f', 'a', 'l', 's', 'e']
  | .num q => N.text q
  | .str s => writeString s
  | .arr xs => '[' :: (writeElements N xs ++ [']'])
  | .obj fields => '{' :: (writeFields N fields ++ ['}'])

def writeElements (N : Numerals) : List Json → List Char
  | [] => []
  | [x] => write N x
  | x :: y :: rest => write N x ++ ',' :: writeElements N (y :: rest)

def writeFields (N : Numerals) : List (String × Json) → List Char
  | [] => []
  | [f] => writeString f.1 ++ ':' :: write N f.2
  | f :: g :: rest => writeString f.1 ++ ':' :: (write N f.2 ++ ',' :: writeFields N (g :: rest))

end

/-- `JSON.stringify(value)` -/
def stringify (N : Numerals) (j : Json) : String := String.ofList (write N j)

/-! ## Reading -/

def isJsonSpace (c : Char) : Bool := c == ' ' || c == '\t' || c == '\n' || c == '\r'

def skipSpace (text : List Char) : List Char := text.dropWhile isJsonSpace

def hexValue (c : Char) : Option Nat :=
  if '0' ≤ c ∧ c ≤ '9' then some (c.toNat - 48)
  else if 'a' ≤ c ∧ c ≤ 'f' then some (c.toNat - 87)
  else if 'A' ≤ c ∧ c ≤ 'F' then some (c.toNat - 55)
  else none

def hexValue4 (a b c d : Char) : Option Nat := do
  let a ← hexValue a
  let b ← hexValue b
  let c ← hexValue c
  let d ← hexValue d
  some (((a * 16 + b) * 16 + c) * 16 + d)

def simpleEscape (c : Char) : Option Char :=
  if c = '"' ∨ c = '\\' ∨ c = '/' then some c
  else if c = 'b' then some (Char.ofNat 8)
  else if c = 't' then some (Char.ofNat 9)
  else if c = 'n' then some (Char.ofNat 10)
  else if c = 'f' then some (Char.ofNat 12)
  else if c = 'r' then some (Char.ofNat 13)
  else none

/-- The character of an escaped code unit, or of an escaped pair of surrogates. -/
def scalar (n : Nat) : Option Char :=
  if 0xD800 ≤ n ∧ n ≤ 0xDFFF then none else some (Char.ofNat n)

def pairScalar (high low : Nat) : Option Char :=
  if 0xD800 ≤ high ∧ high < 0xDC00 ∧ 0xDC00 ≤ low ∧ low < 0xE000 then
    some (Char.ofNat (0x10000 + (high - 0xD800) * 0x400 + (low - 0xDC00)))
  else none

/-- What an escape gives after its backslash: the character, and the rest of the text. -/
def readEscape : List Char → Option (Char × List Char)
  | 'u' :: a :: b :: c :: d :: rest => do
    let high ← hexValue4 a b c d
    match scalar high with
    | some ch => some (ch, rest)
    | none => match rest with
      | '\\' :: 'u' :: e :: f :: g :: h :: rest => do
        let low ← hexValue4 e f g h
        let ch ← pairScalar high low
        some (ch, rest)
      | _ => none
  | c :: rest => (simpleEscape c).map fun ch => (ch, rest)
  | [] => none

/-- The characters of a string literal after its first quote. -/
def readChars : Nat → List Char → Option (List Char × List Char)
  | 0, _ => none
  | _ + 1, [] => none
  | fuel + 1, c :: rest =>
    if c = '"' then some ([], rest)
    else if c = '\\' then do
      let (ch, rest) ← readEscape rest
      let (chars, rest) ← readChars fuel rest
      some (ch :: chars, rest)
    else if c.toNat < 32 then none
    else (readChars fuel rest).map fun p => (c :: p.1, p.2)

/-- A string literal after its first quote. -/
def readString (text : List Char) : Option (String × List Char) :=
  (readChars (text.length + 1) text).map fun p => (String.ofList p.1, p.2)

def readNumber (N : Numerals) (text : List Char) : Option (Json × List Char) :=
  (N.value (text.takeWhile isNumberChar)).map fun q => (.num q, text.dropWhile isNumberChar)

/-- `text` after a given character and the space before it. -/
def expect (c : Char) (text : List Char) : Option (List Char) :=
  match skipSpace text with
  | d :: rest => if d = c then some rest else none
  | [] => none

mutual

def readValue (N : Numerals) : Nat → List Char → Option (Json × List Char)
  | 0, _ => none
  | fuel + 1, text => match skipSpace text with
    | 'n' :: 'u' :: 'l' :: 'l' :: rest => some (.null, rest)
    | 't' :: 'r' :: 'u' :: 'e' :: rest => some (.bool true, rest)
    | 'f' :: 'a' :: 'l' :: 's' :: 'e' :: rest => some (.bool false, rest)
    | '"' :: rest => (readString rest).map fun p => (.str p.1, p.2)
    | '[' :: rest => match expect ']' rest with
      | some rest => some (.arr [], rest)
      | none => (readElements N fuel rest).map fun p => (.arr p.1, p.2)
    | '{' :: rest => match expect '}' rest with
      | some rest => some (.obj [], rest)
      | none => (readFields N fuel rest).map fun p => (.obj (makeObject p.1), p.2)
    | text => readNumber N text

/-- The elements of an array up to its bracket. -/
def readElements (N : Numerals) : Nat → List Char → Option (List Json × List Char)
  | 0, _ => none
  | fuel + 1, text => do
    let (x, rest) ← readValue N fuel text
    match expect ']' rest with
    | some rest => some ([x], rest)
    | none =>
      let rest ← expect ',' rest
      let (xs, rest) ← readElements N fuel rest
      some (x :: xs, rest)

/-- The fields of an object up to its brace, in the order of the text. -/
def readFields (N : Numerals) : Nat → List Char → Option (List (String × Json) × List Char)
  | 0, _ => none
  | fuel + 1, text => do
    let rest ← expect '"' text
    let (key, rest) ← readString rest
    let rest ← expect ':' rest
    let (x, rest) ← readValue N fuel rest
    match expect '}' rest with
    | some rest => some ([(key, x)], rest)
    | none =>
      let rest ← expect ',' rest
      let (fields, rest) ← readFields N fuel rest
      some ((key, x) :: fields, rest)

end

/-- `JSON.parse(text)` -/
def parse (N : Numerals) (text : String) : Option Json :=
  match readValue N (text.toList.length + 1) text.toList with
  | some (j, rest) => if skipSpace rest = [] then some j else none
  | none => none

/-! ## Values as JavaScript has them -/

mutual

/-- The numbers are numbers of JavaScript, and each object lists its fields in order, each key
once. -/
def Proper (N : Numerals) : Json → Prop
  | .num q => N.Exact q
  | .arr xs => ProperList N xs
  | .obj fields => makeObject fields = fields ∧ ProperFields N fields
  | _ => True

def ProperList (N : Numerals) : List Json → Prop
  | [] => True
  | x :: xs => Proper N x ∧ ProperList N xs

def ProperFields (N : Numerals) : List (String × Json) → Prop
  | [] => True
  | f :: fields => Proper N f.2 ∧ ProperFields N fields

end

instance (N : Numerals) (q : Rat) : Decidable (N.Exact q) :=
  @instDecidableAnd _ _ inferInstance
    (@instDecidableAnd _ _ inferInstance
      (List.decidableBAll (fun c => isNumberChar c = true) (N.text q)))

mutual

def decProper (N : Numerals) : (j : Json) → Decidable (Proper N j)
  | .null | .bool _ | .str _ => isTrue trivial
  | .num q => inferInstanceAs (Decidable (N.Exact q))
  | .arr xs => decProperList N xs
  | .obj fields => @instDecidableAnd _ _ inferInstance (decProperFields N fields)

def decProperList (N : Numerals) : (xs : List Json) → Decidable (ProperList N xs)
  | [] => isTrue trivial
  | x :: xs => @instDecidableAnd _ _ (decProper N x) (decProperList N xs)

def decProperFields (N : Numerals) : (fields : List (String × Json)) →
    Decidable (ProperFields N fields)
  | [] => isTrue trivial
  | f :: fields => @instDecidableAnd _ _ (decProper N f.2) (decProperFields N fields)

end

instance (N : Numerals) (j : Json) : Decidable (Proper N j) := decProper N j

/-- The numerals of integers. -/
def integerNumerals : Numerals where
  text q := (toString q.num).toList
  value token :=
    let (sign, digits) : Int × List Char := match token with
      | '-' :: digits => (-1, digits)
      | digits => (1, digits)
    if digits ≠ [] ∧ digits.all Char.isDigit then
      some (sign * (digits.foldl (fun n c => 10 * n + (c.toNat - 48)) 0 : Nat) : Int)
    else none

example : parse integerNumerals
    " \x7b \"2\" : [ 10, null ] , \"a\\u0062\" : true, \"2\" : \"x\" \x7d " =
      some (.obj [("2", .str "x"), ("ab", .bool true)]) := by
  decide +kernel

/-! ## What is written is read -/

section reading

variable {N : Numerals}

theorem skipSpace_cons {c : Char} (visible : isJsonSpace c = false) (rest : List Char) :
    skipSpace (c :: rest) = c :: rest := by
  simp [skipSpace, visible]

theorem expect_cons {c : Char} (visible : isJsonSpace c = false) (rest : List Char) :
    expect c (c :: rest) = some rest := by
  simp [expect, skipSpace_cons visible]

theorem expect_other {c d : Char} (visible : isJsonSpace d = false) (other : d ≠ c)
    (rest : List Char) : expect c (d :: rest) = none := by
  simp [expect, skipSpace_cons visible, other]

/-- The control characters that have no short escape. -/
theorem readEscape_control (n : Nat) (small : n < 32) (rest : List Char) :
    readEscape ('u' :: '0' :: '0' :: hexDigit (n / 16) :: hexDigit (n % 16) :: rest) =
      some (Char.ofNat n, rest) := by
  have digits : ∀ k, k < 32 →
      hexValue4 '0' '0' (hexDigit (k / 16)) (hexDigit (k % 16)) = some k := by decide
  have low : ¬ (0xD800 ≤ n ∧ n ≤ 0xDFFF) := by omega
  simp [readEscape, digits n small, scalar, low]

/-- A written character is read as itself. -/
theorem readChars_escapeChar (fuel : Nat) (c : Char) (rest : List Char) :
    readChars (fuel + 1) (escapeChar c ++ rest) =
      (readChars fuel rest).map fun p => (c :: p.1, p.2) := by
  have same : ∀ n, c.toNat = n → c = Char.ofNat n := by
    intro n value
    rw [← value, Char.ofNat_toNat]
  have bind : ∀ d : Char, (do
      let p ← readChars fuel rest
      some (d :: p.1, p.2)) = (readChars fuel rest).map fun p => (d :: p.1, p.2) := by
    intro d
    cases readChars fuel rest <;> rfl
  unfold escapeChar
  split
  · rename_i quote
    subst quote
    exact bind '"'
  split
  · rename_i slash
    subst slash
    exact bind '\\'
  split
  · rename_i value
    rw [same 8 value]
    exact bind _
  split
  · rename_i value
    rw [same 9 value]
    exact bind _
  split
  · rename_i value
    rw [same 10 value]
    exact bind _
  split
  · rename_i value
    rw [same 12 value]
    exact bind _
  split
  · rename_i value
    rw [same 13 value]
    exact bind _
  split
  · rename_i small
    have read := readEscape_control c.toNat small rest
    rw [Char.ofNat_toNat] at read
    simp only [List.cons_append, List.nil_append, readChars, read]
    exact bind c
  · rename_i quote slash _ _ _ _ _ large
    simp [readChars, quote, slash, large]

theorem readChars_flatMap (chars rest : List Char) :
    ∀ fuel, chars.length < fuel →
      readChars fuel (chars.flatMap escapeChar ++ '"' :: rest) = some (chars, rest) := by
  induction chars with
  | nil =>
    intro fuel enough
    cases fuel with
    | zero => omega
    | succ fuel => simp [readChars]
  | cons c chars ih =>
    intro fuel enough
    cases fuel with
    | zero => omega
    | succ fuel =>
      rw [List.length_cons] at enough
      rw [List.flatMap_cons, List.append_assoc, readChars_escapeChar, ih fuel (by omega)]
      rfl

theorem escapeChar_length (c : Char) : 1 ≤ (escapeChar c).length := by
  unfold escapeChar
  repeat' split
  all_goals simp

theorem length_le_flatMap (chars : List Char) :
    chars.length ≤ (chars.flatMap escapeChar).length := by
  induction chars with
  | nil => simp
  | cons c chars ih =>
    have one := escapeChar_length c
    simp only [List.flatMap_cons, List.length_cons, List.length_append]
    omega

/-- A string literal is read after its quote. -/
theorem readString_written (s : String) (rest : List Char) :
    readString (s.toList.flatMap escapeChar ++ '"' :: rest) = some (s, rest) := by
  unfold readString
  rw [readChars_flatMap]
  · simp
  · have long := length_le_flatMap s.toList
    simp only [List.length_append, List.length_cons]
    omega

/-- The text after a value does not go on with a number. -/
def Ends (rest : List Char) : Prop := ∀ c text, rest = c :: text → isNumberChar c = false

theorem takeWhile_number {digits rest : List Char} (all : ∀ c ∈ digits, isNumberChar c = true)
    (ends : Ends rest) : (digits ++ rest).takeWhile isNumberChar = digits ∧
      (digits ++ rest).dropWhile isNumberChar = rest := by
  induction digits with
  | nil =>
    cases rest with
    | nil => simp
    | cons c text => simp [ends c text rfl]
  | cons c digits ih =>
    have number := all c (by simp)
    have more := ih fun d member => all d (by simp [member])
    simp [number, more]

theorem readNumber_written {q : Rat} (exact : N.Exact q) {rest : List Char} (ends : Ends rest) :
    readNumber N (N.text q ++ rest) = some (.num q, rest) := by
  obtain ⟨value, _, chars⟩ := exact
  obtain ⟨taken, left⟩ := takeWhile_number chars ends
  simp [readNumber, taken, left, value]

/-- A text starts with no space and no bracket that closes. -/
def Opens (text : List Char) : Prop :=
  ∃ c more, text = c :: more ∧ isJsonSpace c = false ∧ c ≠ ']' ∧ c ≠ '}'

theorem write_opens (j : Json) (proper : Proper N j) : Opens (write N j) := by
  cases j with
  | null => exact ⟨_, _, rfl, by decide, by decide, by decide⟩
  | bool b => cases b <;> exact ⟨_, _, rfl, by decide, by decide, by decide⟩
  | num q =>
    obtain ⟨_, some_text, chars⟩ := proper
    cases text : N.text q with
    | nil => exact absurd text some_text
    | cons c more =>
      have number := chars c (by simp [text])
      refine ⟨c, more, by rw [write, text], ?_, ?_, ?_⟩
      · cases space : isJsonSpace c with
        | false => rfl
        | true =>
          simp only [isJsonSpace, Bool.or_eq_true, beq_iff_eq] at space
          rcases space with ((rfl | rfl) | rfl) | rfl <;> exact absurd number (by decide)
      · rintro rfl; exact absurd number (by decide)
      · rintro rfl; exact absurd number (by decide)
  | str s => exact ⟨_, _, rfl, by decide, by decide, by decide⟩
  | arr xs => exact ⟨_, _, rfl, by decide, by decide, by decide⟩
  | obj fields => exact ⟨_, _, rfl, by decide, by decide, by decide⟩

theorem ends_cons {c : Char} (other : isNumberChar c = false) (text : List Char) :
    Ends (c :: text) := by
  rintro d more same
  cases same
  exact other

/-- A number is read where no other value starts. -/
theorem readValue_number {fuel : Nat} {q : Rat} (exact : N.Exact q) {rest : List Char}
    (ends : Ends rest) : readValue N (fuel + 1) (N.text q ++ rest) = some (.num q, rest) := by
  obtain ⟨c, more, text, visible, _⟩ := write_opens (.num q) exact
  rw [write] at text
  have number := exact.2.2 c (by simp [text])
  have skip : skipSpace (N.text q ++ rest) = N.text q ++ rest := by
    rw [text, List.cons_append, skipSpace_cons visible]
  have other : ∀ d, isNumberChar d = false → ∀ tail, N.text q ++ rest ≠ d :: tail := by
    intro d plain tail same
    rw [text, List.cons_append] at same
    cases same
    rw [number] at plain
    cases plain
  rw [readValue, skip]
  split
  · rename_i same; exact absurd same (other _ (by decide) _)
  · rename_i same; exact absurd same (other _ (by decide) _)
  · rename_i same; exact absurd same (other _ (by decide) _)
  · rename_i same; exact absurd same (other _ (by decide) _)
  · rename_i same; exact absurd same (other _ (by decide) _)
  · rename_i same; exact absurd same (other _ (by decide) _)
  · exact readNumber_written exact ends

theorem readString_value (fuel : Nat) (s : String) (rest : List Char) :
    readValue N (fuel + 1) (writeString s ++ rest) = some (.str s, rest) := by
  have text : writeString s ++ rest = '"' :: (s.toList.flatMap escapeChar ++ '"' :: rest) := by
    simp [writeString]
  rw [text, readValue, skipSpace_cons (by decide)]
  simp only [readString_written]
  rfl

/-- The key of a field, with its colon. -/
theorem readFields_key (fuel : Nat) (key : String) (rest : List Char) :
    readFields N (fuel + 1) (writeString key ++ ':' :: rest) = (do
      let (x, rest) ← readValue N fuel rest
      match expect '}' rest with
      | some rest => some ([(key, x)], rest)
      | none =>
        let rest ← expect ',' rest
        let (fields, rest) ← readFields N fuel rest
        some ((key, x) :: fields, rest)) := by
  have text : writeString key ++ ':' :: rest =
      '"' :: (key.toList.flatMap escapeChar ++ '"' :: ':' :: rest) := by
    simp [writeString]
  rw [text, readFields, expect_cons (by decide)]
  simp only [Option.bind_eq_bind, Option.bind_some, readString_written,
    expect_cons (show isJsonSpace ':' = false by decide)]

theorem expect_opens {c : Char} {text rest : List Char} (opens : Opens text)
    (closes : c = ']' ∨ c = '}') : expect c (text ++ rest) = none := by
  obtain ⟨d, more, rfl, visible, bracket, brace⟩ := opens
  rw [List.cons_append]
  apply expect_other visible
  rcases closes with rfl | rfl
  · exact bracket
  · exact brace

theorem writeElements_opens {x : Json} {xs : List Json} (proper : Proper N x) :
    Opens (writeElements N (x :: xs)) := by
  obtain ⟨c, more, text, marks⟩ := write_opens x proper
  cases xs with
  | nil => exact ⟨c, more, by rw [writeElements, text], marks⟩
  | cons y rest =>
    exact ⟨c, more ++ ',' :: writeElements N (y :: rest),
      by rw [writeElements, text, List.cons_append], marks⟩

theorem writeFields_opens (f : String × Json) (fields : List (String × Json)) :
    Opens (writeFields N (f :: fields)) := by
  cases fields with
  | nil => exact ⟨_, _, rfl, by decide, by decide, by decide⟩
  | cons g rest => exact ⟨_, _, rfl, by decide, by decide, by decide⟩

mutual

/-- A value is read back, whatever stands behind it. -/
theorem readValue_write : ∀ (j : Json), Proper N j → ∀ (fuel : Nat) (rest : List Char),
    Ends rest → (write N j).length ≤ fuel →
    readValue N (fuel + 1) (write N j ++ rest) = some (j, rest)
  | .null, _, _, _, _, _ => by
    simp [write, readValue, skipSpace_cons (show isJsonSpace 'n' = false by decide)]
  | .bool true, _, _, _, _, _ => by
    simp [write, readValue, skipSpace_cons (show isJsonSpace 't' = false by decide)]
  | .bool false, _, _, _, _, _ => by
    simp [write, readValue, skipSpace_cons (show isJsonSpace 'f' = false by decide)]
  | .num _, proper, _, _, ends, _ => readValue_number proper ends
  | .str s, _, fuel, rest, _, _ => readString_value fuel s rest
  | .arr [], _, _, _, _, _ => by
    simp [write, writeElements, readValue, skipSpace_cons (show isJsonSpace '[' = false by decide),
      expect_cons (show isJsonSpace ']' = false by decide)]
  | .arr (x :: xs), proper, fuel, rest, _, enough => by
    rw [write, List.length_cons, List.length_append, List.length_singleton] at enough
    have inner := readElements_write x xs proper fuel rest (by omega)
    have shut : expect ']' (writeElements N (x :: xs) ++ ']' :: rest) = none :=
      expect_opens (writeElements_opens proper.1) (Or.inl rfl)
    rw [write, List.cons_append, List.append_assoc, List.singleton_append, readValue,
      skipSpace_cons (by decide)]
    simp only [shut, inner]
    rfl
  | .obj [], _, _, _, _, _ => by
    simp [write, writeFields, readValue, skipSpace_cons (show isJsonSpace '{' = false by decide),
      expect_cons (show isJsonSpace '}' = false by decide)]
  | .obj (f :: fields), proper, fuel, rest, _, enough => by
    rw [write, List.length_cons, List.length_append, List.length_singleton] at enough
    have inner := readFields_write f fields proper.2 fuel rest (by omega)
    have shut : expect '}' (writeFields N (f :: fields) ++ '}' :: rest) = none :=
      expect_opens (writeFields_opens f fields) (Or.inr rfl)
    rw [write, List.cons_append, List.append_assoc, List.singleton_append, readValue,
      skipSpace_cons (by decide)]
    simp only [shut, inner, Option.map_some, proper.1]

theorem readElements_write : ∀ (x : Json) (xs : List Json), ProperList N (x :: xs) →
    ∀ (fuel : Nat) (rest : List Char), (writeElements N (x :: xs)).length + 1 < fuel →
    readElements N fuel (writeElements N (x :: xs) ++ ']' :: rest) = some (x :: xs, rest)
  | _, _, _, 0, _, enough => by omega
  | _, _, _, 1, _, enough => by omega
  | x, [], proper, fuel + 2, rest, enough => by
    rw [writeElements] at enough ⊢
    have first := readValue_write x proper.1 fuel (']' :: rest) (ends_cons (by decide) _) (by omega)
    simp [readElements, first, expect_cons (show isJsonSpace ']' = false by decide)]
  | x, y :: more, proper, fuel + 2, rest, enough => by
    rw [writeElements, List.length_append, List.length_cons] at enough
    have first := readValue_write x proper.1 fuel
      (',' :: (writeElements N (y :: more) ++ ']' :: rest)) (ends_cons (by decide) _) (by omega)
    have inner := readElements_write y more proper.2 (fuel + 1) rest (by omega)
    rw [writeElements, List.append_assoc, List.cons_append, readElements, first]
    simp [expect_other (show isJsonSpace ',' = false by decide) (show ',' ≠ ']' by decide),
      expect_cons (show isJsonSpace ',' = false by decide), inner]

theorem readFields_write : ∀ (f : String × Json) (fields : List (String × Json)),
    ProperFields N (f :: fields) → ∀ (fuel : Nat) (rest : List Char),
    (writeFields N (f :: fields)).length + 1 < fuel →
    readFields N fuel (writeFields N (f :: fields) ++ '}' :: rest) = some (f :: fields, rest)
  | _, _, _, 0, _, enough => by omega
  | _, _, _, 1, _, enough => by omega
  | (key, x), [], proper, fuel + 2, rest, enough => by
    rw [writeFields, List.length_append, List.length_cons] at enough
    dsimp only at enough
    have first := readValue_write x proper.1 fuel ('}' :: rest) (ends_cons (by decide) _) (by omega)
    rw [writeFields, List.append_assoc, List.cons_append, readFields_key, first]
    simp [expect_cons (show isJsonSpace '}' = false by decide)]
  | (key, x), g :: more, proper, fuel + 2, rest, enough => by
    rw [writeFields, List.length_append, List.length_cons, List.length_append,
      List.length_cons] at enough
    dsimp only at enough
    have first := readValue_write x proper.1 fuel
      (',' :: (writeFields N (g :: more) ++ '}' :: rest)) (ends_cons (by decide) _) (by omega)
    have inner := readFields_write g more proper.2 (fuel + 1) rest (by omega)
    rw [writeFields, List.append_assoc, List.cons_append, List.append_assoc, List.cons_append,
      readFields_key, first]
    simp [expect_other (show isJsonSpace ',' = false by decide) (show ',' ≠ '}' by decide),
      expect_cons (show isJsonSpace ',' = false by decide), inner]

end

/-- `JSON.parse(JSON.stringify(value))` is the value. -/
theorem parse_stringify {j : Json} (proper : Proper N j) : parse N (stringify N j) = some j := by
  have read := readValue_write j proper (write N j).length [] (fun _ _ none => by cases none)
    (Nat.le_refl _)
  rw [List.append_nil] at read
  simp [parse, stringify, read, skipSpace]

/-- Two values with the same text are the same value. -/
theorem stringify_injective {j k : Json} (proper : Proper N j) (proper' : Proper N k)
    (same : stringify N j = stringify N k) : j = k := by
  have read := parse_stringify proper
  rw [same, parse_stringify proper'] at read
  exact (Option.some.inj read).symm

end reading

/-! ## Plain objects -/

theorem setField_new {key : String} {x : Json} {fields : List (String × Json)}
    (new : key ∉ fields.map (·.1)) : setField key (some x) fields = fields ++ [(key, x)] := by
  induction fields with
  | nil => rfl
  | cons f rest ih =>
    obtain ⟨other, y⟩ := f
    rw [List.map_cons, List.mem_cons, not_or] at new
    rw [setField, if_neg (Ne.symm new.1), ih new.2]
    rfl

theorem foldl_setField (fields made : List (String × Json))
    (unique : ((made ++ fields).map (·.1)).Nodup) :
    fields.foldl (fun made f => setField f.1 (some f.2) made) made = made ++ fields := by
  induction fields generalizing made with
  | nil => rw [List.foldl_nil, List.append_nil]
  | cons f rest ih =>
    have new : f.1 ∉ made.map (·.1) := by
      intro member
      rw [List.map_append, List.nodup_append] at unique
      exact unique.2.2 f.1 member f.1 List.mem_cons_self rfl
    rw [List.foldl_cons, setField_new new]
    rw [ih (made ++ [(f.1, f.2)]) (by rwa [List.append_assoc]), List.append_assoc]
    rfl

/-- Keys that are all different, and no array index, are listed in the order they were set in. -/
theorem makeObject_plain {fields : List (String × Json)} (unique : (fields.map (·.1)).Nodup)
    (plain : ∀ key ∈ fields.map (·.1), arrayIndex key = none) : makeObject fields = fields := by
  have none_indexed : fields.filterMap
      (fun f => (arrayIndex f.1).map fun n => (n, f)) = [] := by
    rw [List.filterMap_eq_nil_iff]
    intro f member
    rw [plain f.1 (List.mem_map_of_mem member)]
    rfl
  have all_named : fields.filter (fun f => (arrayIndex f.1).isNone) = fields := by
    rw [List.filter_eq_self]
    intro f member
    rw [plain f.1 (List.mem_map_of_mem member)]
    rfl
  unfold makeObject
  rw [foldl_setField fields [] (by rwa [List.nil_append]), List.nil_append]
  unfold inOrder
  rw [none_indexed, all_named]
  rfl

/-- The keys of an object literal, less those that are set to `undefined`. -/
theorem keys_object (fields : List (String × Value)) :
    ((fields.filterMap fun f => f.2.map fun v => (f.1, v)).map (·.1)).Sublist
      (fields.map (·.1)) := by
  induction fields with
  | nil => exact List.Sublist.slnil
  | cons f rest ih =>
    obtain ⟨key, value⟩ := f
    cases value with
    | none => exact ih.cons key
    | some x => exact ih.cons_cons key

theorem properFields_of {N : Numerals} {fields : List (String × Json)}
    (values : ∀ f ∈ fields, Proper N f.2) : ProperFields N fields := by
  induction fields with
  | nil => exact trivial
  | cons f rest ih =>
    constructor
    · exact values f List.mem_cons_self
    · exact ih fun g member => values g (List.mem_cons_of_mem _ member)

theorem proper_object {N : Numerals} {fields : List (String × Value)}
    (unique : (fields.map (·.1)).Nodup) (plain : ∀ key ∈ fields.map (·.1), arrayIndex key = none)
    (values : ∀ f ∈ fields, ∀ v, f.2 = some v → Proper N v) : Proper N (object fields) := by
  have keys := keys_object fields
  constructor
  · apply makeObject_plain
    · exact unique.sublist keys
    · intro key member
      exact plain key (keys.mem member)
  · apply properFields_of
    intro f member
    obtain ⟨g, isField, made⟩ := List.mem_filterMap.mp member
    obtain ⟨v, value, rfl⟩ := Option.map_eq_some_iff.mp made
    exact values g isField v value

/-- Keys that are all different, and no array index. -/
def PlainKeys (keys : List String) : Prop :=
  keys.Nodup ∧ ∀ key ∈ keys, arrayIndex key = none

instance (keys : List String) : Decidable (PlainKeys keys) :=
  @instDecidableAnd _ _ inferInstance (List.decidableBAll _ keys)

/-- A value that is written as it is, where it is there. -/
def Writes (N : Numerals) (v : Value) : Prop := ∀ j, v = some j → Proper N j

theorem writes_object {N : Numerals} {fields : List (String × Value)}
    (plain : PlainKeys (fields.map (·.1))) (values : ∀ f ∈ fields, Writes N f.2) :
    Writes N (some (object fields)) := by
  rintro j ⟨⟩
  exact proper_object plain.1 plain.2 values

theorem writes_array {N : Numerals} {elements : List Json}
    (values : ∀ x ∈ elements, Proper N x) : Writes N (some (.arr elements)) := by
  rintro j ⟨⟩
  induction elements with
  | nil => exact trivial
  | cons x rest ih =>
    constructor
    · exact values x List.mem_cons_self
    · exact ih fun y member => values y (List.mem_cons_of_mem _ member)

/-! ## Integers -/

/-- The numbers that `Number.isSafeInteger` accepts. -/
theorem isSafeInteger_iff {q : Rat} :
    Value.isSafeInteger (some (.num q)) = true ↔
      ∃ k : Int, -9007199254740991 ≤ k ∧ k ≤ 9007199254740991 ∧ q = k := by
  have largest : maxSafeInteger = ((9007199254740991 : Int) : Rat) := rfl
  unfold Value.isSafeInteger
  simp only [Bool.and_eq_true, beq_iff_eq, decide_eq_true_eq]
  rw [largest, ← Rat.intCast_neg]
  constructor
  · rintro ⟨⟨whole, low⟩, high⟩
    rw [← (Rat.den_eq_one_iff q).mp whole] at low high
    exact ⟨q.num, Rat.intCast_le_intCast.mp low, Rat.intCast_le_intCast.mp high,
      ((Rat.den_eq_one_iff q).mp whole).symm⟩
  · rintro ⟨k, low, high, rfl⟩
    exact ⟨⟨Rat.den_intCast k, Rat.intCast_le_intCast.mpr low⟩, Rat.intCast_le_intCast.mpr high⟩

theorem isDigit_toDigits {k : Nat} {c : Char} (member : c ∈ Nat.toDigits 10 k) :
    c.isDigit = true :=
  Nat.isDigit_of_mem_toDigits (by decide) (by decide) member

/-- An integer is written with its digits, after a sign where it is negative. -/
theorem integerNumerals_exact (n : Int) : integerNumerals.Exact n := by
  have some_digit (k : Nat) : Nat.toDigits 10 k ≠ [] :=
    List.ne_nil_of_length_pos Nat.length_toDigits_pos
  have digits (k : Nat) : (Nat.toDigits 10 k).all Char.isDigit = true :=
    List.all_eq_true.mpr fun c member => isDigit_toDigits member
  have back (k : Nat) : (Nat.toDigits 10 k).foldl (fun n c => 10 * n + (c.toNat - 48)) 0 = k :=
    Nat.ofDigitChars_ten_toDigits
  have isChar (k : Nat) : ∀ c ∈ Nat.toDigits 10 k, isNumberChar c = true := by
    intro c member
    unfold isNumberChar
    rw [isDigit_toDigits member]
    rfl
  cases n with
  | ofNat k =>
    have text : integerNumerals.text ((Int.ofNat k : Int) : Rat) = Nat.toDigits 10 k := by
      show (Int.repr (Int.ofNat k)).toList = _
      exact Nat.toList_repr
    refine ⟨?_, ?_, ?_⟩
    · rw [text]
      unfold integerNumerals
      dsimp only
      split
      · rename_i rest shape
        have := isDigit_toDigits (k := k) (c := '-') (by rw [shape]; exact List.mem_cons_self)
        cases this
      · dsimp only
        rw [if_pos ⟨some_digit k, digits k⟩, back]
        simp
    · rw [text]
      exact some_digit k
    · rw [text]
      exact isChar k
  | negSucc k =>
    have text : integerNumerals.text ((Int.negSucc k : Int) : Rat) =
        '-' :: Nat.toDigits 10 (k + 1) := by
      show (Int.repr (Int.negSucc k)).toList = _
      show ("-" ++ Nat.repr (k + 1)).toList = _
      rw [String.toList_append, Nat.toList_repr]
      rfl
    refine ⟨?_, ?_, ?_⟩
    · have read : integerNumerals.value ('-' :: Nat.toDigits 10 (k + 1)) =
          some (((-1 : Int) * ((Nat.toDigits 10 (k + 1)).foldl
            (fun n c => 10 * n + (c.toNat - 48)) 0 : Nat) : Int) : Rat) :=
        if_pos ⟨some_digit (k + 1), digits (k + 1)⟩
      rw [text, read, back, Int.negSucc_eq]
      simp
    · rw [text]
      exact List.cons_ne_nil _ _
    · rw [text]
      intro c member
      rcases List.mem_cons.mp member with rfl | member
      · rfl
      · exact isChar (k + 1) c member

end jsontext
