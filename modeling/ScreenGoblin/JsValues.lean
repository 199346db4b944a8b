-- Values of JavaScript with the strings it really has, which are lists of UTF-16 code units:
-- how `JSON.stringify` writes a string with unpaired surrogates, what `JSON.parse` makes of a
-- text, and that a value the text tells exactly is read back as it was written.
import Mathlib
import ScreenGoblin.JsonText

open jsontext

namespace jsvalues

/-! ## Strings, numbers and values -/

abbrev JsString := List UInt16

/-- The code units of a character. -/
def charUnits (c : Char) : JsString :=
  if c.toNat < 0x10000 then [UInt16.ofNat c.toNat]
  else [UInt16.ofNat (0xD800 + (c.toNat - 0x10000) / 0x400),
    UInt16.ofNat (0xDC00 + (c.toNat - 0x10000) % 0x400)]

def jsString (text : String) : JsString := text.toList.flatMap charUnits

inductive JsNumber where
  | finite (q : Rat)
  | negativeZero
  | infinite (negative : Bool)
  | nan
  deriving DecidableEq

/-- A value of JavaScript. `other` is a function, a symbol or a bigint. `hole` is a position of
an array that has no element. The properties of an object are those that `Object.keys` lists,
and `unlisted` says that an array or an object has some more: one under a symbol, one that is
not enumerable, or one of an array that is no element. -/
inductive JsValue where
  | undefined
  | null
  | boolean (b : Bool)
  | number (n : JsNumber)
  | string (s : JsString)
  | other
  | hole
  | array (elements : List JsValue) (unlisted : Bool)
  | object (plain : Bool) (properties : List (JsString × JsValue)) (unlisted : Bool)
  deriving Inhabited

/-- The texts of numbers: `String(number)` of a finite number, and the number of a JSON token. -/
structure NumberTexts where
  text : Rat → List Char
  value : List Char → Option JsNumber

/-- A number is written in characters of a number, and read back. -/
def NumberTexts.Exact (N : NumberTexts) (q : Rat) : Prop :=
  N.value (N.text q) = some (.finite q) ∧ N.text q ≠ [] ∧ ∀ c ∈ N.text q, isNumberChar c = true

/-! ## Strings in JSON -/

def hex4 (n : Nat) : List Char :=
  [hexDigit (n / 4096), hexDigit (n / 256 % 16), hexDigit (n / 16 % 16), hexDigit (n % 16)]

/-- A code unit on its own. A surrogate that has no other half is escaped. -/
def quoteUnit (u : UInt16) : List Char :=
  match scalar u.toNat with
  | some c => escapeChar c
  | none => '\\' :: 'u' :: hex4 u.toNat

def quoteUnits : JsString → List Char
  | [] => []
  | [u] => quoteUnit u
  | high :: low :: rest => match pairScalar high.toNat low.toNat with
    | some c => c :: quoteUnits rest
    | none => quoteUnit high ++ quoteUnits (low :: rest)

/-- `JSON.stringify(string)` -/
def quote (s : JsString) : List Char := '"' :: (quoteUnits s ++ ['"'])

example : quote [0xD800, 0xD83D, 0xDE00] =
    ['"', '\\', 'u', 'd', '8', '0', '0', Char.ofNat 0x1F600, '"'] := by
  decide +kernel

/-- The code unit of an escape, after its backslash. -/
def readUnit : List Char → Option (UInt16 × List Char)
  | 'u' :: a :: b :: c :: d :: rest => (hexValue4 a b c d).map fun n => (UInt16.ofNat n, rest)
  | c :: rest => (simpleEscape c).map fun ch => (UInt16.ofNat ch.toNat, rest)
  | [] => none

/-- The code units of a string literal after its first quote. -/
def readUnits : Nat → List Char → Option (JsString × List Char)
  | 0, _ => none
  | _ + 1, [] => none
  | fuel + 1, c :: rest =>
    if c = '"' then some ([], rest)
    else if c = '\\' then do
      let (u, rest) ← readUnit rest
      let (units, rest) ← readUnits fuel rest
      some (u :: units, rest)
    else if c.toNat < 32 then none
    else (readUnits fuel rest).map fun p => (charUnits c ++ p.1, p.2)

def readQuoted (text : List Char) : Option (JsString × List Char) :=
  readUnits (text.length + 1) text

/-! ## Values in JSON -/

/-- `object[key] = x`. A property keeps its place, and a new one goes last. -/
def setProperty (key : JsString) (x : JsValue) :
    List (JsString × JsValue) → List (JsString × JsValue)
  | [] => [(key, x)]
  | (k, y) :: rest => if k = key then (k, x) :: rest else (k, y) :: setProperty key x rest

def makeProperties (fields : List (JsString × JsValue)) : List (JsString × JsValue) :=
  fields.foldl (fun made f => setProperty f.1 f.2 made) []

def readNumeral (N : NumberTexts) (text : List Char) : Option (JsValue × List Char) :=
  (N.value (text.takeWhile isNumberChar)).map fun n => (.number n, text.dropWhile isNumberChar)

mutual

def readValue (N : NumberTexts) : Nat → List Char → Option (JsValue × List Char)
  | 0, _ => none
  | fuel + 1, text => match skipSpace text with
    | 'n' :: 'u' :: 'l' :: 'l' :: rest => some (.null, rest)
    | 't' :: 'r' :: 'u' :: 'e' :: rest => some (.boolean true, rest)
    | 'f' :: 'a' :: 'l' :: 's' :: 'e' :: rest => some (.boolean false, rest)
    | '"' :: rest => (readQuoted rest).map fun p => (.string p.1, p.2)
    | '[' :: rest => match expect ']' rest with
      | some rest => some (.array [] false, rest)
      | none => (readElements N fuel rest).map fun p => (.array p.1 false, p.2)
    | '{' :: rest => match expect '}' rest with
      | some rest => some (.object true [] false, rest)
      | none => (readProperties N fuel rest).map fun p =>
        (.object true (makeProperties p.1) false, p.2)
    | text => readNumeral N text

/-- The elements of an array up to its bracket. -/
def readElements (N : NumberTexts) : Nat → List Char → Option (List JsValue × List Char)
  | 0, _ => none
  | fuel + 1, text => do
    let (x, rest) ← readValue N fuel text
    match expect ']' rest with
    | some rest => some ([x], rest)
    | none =>
      let rest ← expect ',' rest
      let (xs, rest) ← readElements N fuel rest
      some (x :: xs, rest)

/-- The properties of an object up to its brace, in the order of the text. -/
def readProperties (N : NumberTexts) :
    Nat → List Char → Option (List (JsString × JsValue) × List Char)
  | 0, _ => none
  | fuel + 1, text => do
    let rest ← expect '"' text
    let (key, rest) ← readQuoted rest
    let rest ← expect ':' rest
    let (x, rest) ← readValue N fuel rest
    match expect '}' rest with
    | some rest => some ([(key, x)], rest)
    | none =>
      let rest ← expect ',' rest
      let (fields, rest) ← readProperties N fuel rest
      some ((key, x) :: fields, rest)

end

/-- `JSON.parse(text)` -/
def parse (N : NumberTexts) (text : List Char) : Option JsValue :=
  match readValue N (text.length + 1) text with
  | some (x, rest) => if skipSpace rest = [] then some x else none
  | none => none

/-- `texts.join(",")` -/
def join : List (List Char) → List Char
  | [] => []
  | [text] => text
  | text :: next :: rest => text ++ ',' :: join (next :: rest)

mutual

/-- The text of a value that has one, with the properties of each object in order. -/
def write (N : NumberTexts) : JsValue → List Char
  | .null => ['n', 'u', 'l', 'l']
  | .boolean true => ['t', 'r', 'u', 'e']
  | .boolean false => ['f', 'a', 'l', 's', 'e']
  | .number (.finite q) => N.text q
  | .number .negativeZero => N.text 0
  | .string s => quote s
  | .array xs _ => '[' :: (join (writeElements N xs) ++ [']'])
  | .object _ fields _ => '{' :: (join (writeProperties N fields) ++ ['}'])
  | _ => []

def writeElements (N : NumberTexts) : List JsValue → List (List Char)
  | [] => []
  | x :: xs => write N x :: writeElements N xs

def writeProperties (N : NumberTexts) : List (JsString × JsValue) → List (List Char)
  | [] => []
  | (key, x) :: fields => (quote key ++ ':' :: write N x) :: writeProperties N fields

end

/-! ## Strings are read as they were written -/

theorem unit_of_toNat {u : UInt16} {n : Nat} (same : n = u.toNat) : UInt16.ofNat n = u := by
  rw [same, UInt16.ofNat_toNat]

/-- The character of a code unit that is no surrogate. -/
theorem scalar_toNat {n : Nat} {c : Char} (unit : n < 0x10000) (found : scalar n = some c) :
    c.toNat = n := by
  unfold scalar at found
  split at found
  · cases found
  · rename_i other
    cases found
    rw [Char.toNat_ofNat, if_pos]
    rw [Nat.isValidChar]
    omega

theorem hex4_value (n : Nat) (unit : n < 0x10000) :
    hexValue4 (hexDigit (n / 4096)) (hexDigit (n / 256 % 16)) (hexDigit (n / 16 % 16))
      (hexDigit (n % 16)) = some n := by
  have digits : ∀ k, k < 16 → hexValue (hexDigit k) = some k := by decide
  unfold hexValue4
  rw [digits _ (by omega), digits _ (by omega), digits _ (by omega), digits _ (by omega)]
  simp only [Option.bind_eq_bind, Option.bind_some, Option.some.injEq]
  omega

/-- A pair of surrogates is the pair of code units of its character. -/
theorem charUnits_pair {high low : UInt16} {c : Char}
    (pair : pairScalar high.toNat low.toNat = some c) :
    charUnits c = [high, low] ∧ 0x10000 ≤ c.toNat := by
  unfold pairScalar at pair
  split at pair
  · rename_i range
    have made := Option.some.inj pair
    have value := Char.toNat_ofNat (0x10000 + (high.toNat - 0xD800) * 0x400 +
      (low.toNat - 0xDC00))
    rw [if_pos (by unfold Nat.isValidChar; omega), made] at value
    have first : UInt16.ofNat (0xD800 + (0x10000 + (high.toNat - 0xD800) * 0x400 +
        (low.toNat - 0xDC00) - 0x10000) / 0x400) = high := unit_of_toNat (by omega)
    have second : UInt16.ofNat (0xDC00 + (0x10000 + (high.toNat - 0xD800) * 0x400 +
        (low.toNat - 0xDC00) - 0x10000) % 0x400) = low := unit_of_toNat (by omega)
    constructor
    · unfold charUnits
      rw [value, if_neg (by omega), first, second]
    · rw [value]
      omega
  · cases pair

theorem charUnits_scalar {u : UInt16} {c : Char} (found : scalar u.toNat = some c) :
    charUnits c = [u] := by
  have value := scalar_toNat u.toNat_lt found
  unfold charUnits
  rw [if_pos (by rw [value]; exact u.toNat_lt), unit_of_toNat value]

/-- A character that stands for itself gives its code units. -/
theorem readUnits_plain {c : Char} (noQuote : c ≠ '"') (noEscape : c ≠ '\\')
    (visible : ¬ c.toNat < 32) (fuel : Nat) (rest : List Char) :
    readUnits (fuel + 1) (c :: rest) =
      (readUnits fuel rest).map fun p => (charUnits c ++ p.1, p.2) := by
  rw [readUnits, if_neg noQuote, if_neg noEscape, if_neg visible]

theorem readUnits_escape {u : UInt16} {rest : List Char} (escape : List Char) (fuel : Nat)
    (read : readUnit (escape ++ rest) = some (u, rest)) :
    readUnits (fuel + 1) ('\\' :: (escape ++ rest)) =
      (readUnits fuel rest).map fun p => (u :: p.1, p.2) := by
  rw [readUnits, if_neg (by decide), if_pos rfl, read]
  simp only [Option.bind_eq_bind, Option.bind_some]
  cases readUnits fuel rest <;> rfl

theorem readUnit_hex {n : Nat} (unit : n < 0x10000) (rest : List Char) :
    readUnit (('u' :: hex4 n) ++ rest) = some (UInt16.ofNat n, rest) := by
  simp only [hex4, List.cons_append, List.nil_append, readUnit, hex4_value n unit, Option.map_some]

/-- A code unit on its own is read as itself. -/
theorem readUnits_quoteUnit (fuel : Nat) (u : UInt16) (rest : List Char) :
    readUnits (fuel + 1) (quoteUnit u ++ rest) =
      (readUnits fuel rest).map fun p => (u :: p.1, p.2) := by
  unfold quoteUnit
  split
  · rename_i c found
    have value := scalar_toNat u.toNat_lt found
    have short : ∀ d : Char, ∀ n, simpleEscape d = some (Char.ofNat n) → d ≠ 'u' →
        c.toNat = n → readUnit (d :: rest) = some (u, rest) := by
      intro d n simple noHex code
      have same : Char.ofNat n = c := by rw [← code, Char.ofNat_toNat]
      rw [readUnit, simple, same, Option.map_some, unit_of_toNat value]
      intro _ _ _ _ _ same
      exact absurd same noHex
    unfold escapeChar
    split
    · rename_i quote
      exact readUnits_escape ['"'] fuel
        (short '"' 34 rfl (by decide) (by rw [quote]; rfl))
    split
    · rename_i slash
      exact readUnits_escape ['\\'] fuel
        (short '\\' 92 rfl (by decide) (by rw [slash]; rfl))
    split
    · rename_i code
      exact readUnits_escape ['b'] fuel (short 'b' 8 rfl (by decide) code)
    split
    · rename_i code
      exact readUnits_escape ['t'] fuel (short 't' 9 rfl (by decide) code)
    split
    · rename_i code
      exact readUnits_escape ['n'] fuel (short 'n' 10 rfl (by decide) code)
    split
    · rename_i code
      exact readUnits_escape ['f'] fuel (short 'f' 12 rfl (by decide) code)
    split
    · rename_i code
      exact readUnits_escape ['r'] fuel (short 'r' 13 rfl (by decide) code)
    split
    · rename_i control
      have digits : ['u', '0', '0', hexDigit (c.toNat / 16), hexDigit (c.toNat % 16)] =
          'u' :: hex4 u.toNat := by
        have small := control
        rw [value] at small ⊢
        rw [hex4, show u.toNat / 4096 = 0 by omega, show u.toNat / 256 % 16 = 0 by omega,
          show u.toNat / 16 % 16 = u.toNat / 16 by omega]
        rfl
      rw [digits]
      apply readUnits_escape
      rw [readUnit_hex u.toNat_lt, UInt16.ofNat_toNat]
    · rename_i noQuote noEscape _ _ _ _ _ visible
      have plain := readUnits_plain noQuote noEscape visible fuel rest
      rw [charUnits_scalar found] at plain
      exact plain
  · apply readUnits_escape
    rw [readUnit_hex u.toNat_lt, UInt16.ofNat_toNat]

theorem quoteUnit_length (u : UInt16) : 1 ≤ (quoteUnit u).length := by
  unfold quoteUnit
  split
  · exact escapeChar_length _
  · simp

/-- The code units of a string are read up to the quote behind them. -/
theorem readUnits_quoteUnits (s : JsString) (rest : List Char) :
    ∀ fuel, (quoteUnits s).length < fuel →
      readUnits fuel (quoteUnits s ++ '"' :: rest) = some (s, rest) := by
  have done : ∀ fuel, 0 < fuel → readUnits fuel ('"' :: rest) = some ([], rest) := by
    intro fuel enough
    cases fuel with
    | zero => omega
    | succ fuel => rw [readUnits, if_pos rfl]
  induction s using quoteUnits.induct with
  | case1 =>
    intro fuel enough
    exact done fuel enough
  | case2 u =>
    intro fuel enough
    have one := quoteUnit_length u
    rw [quoteUnits] at enough ⊢
    cases fuel with
    | zero => omega
    | succ fuel =>
      rw [readUnits_quoteUnit, done fuel (by omega)]
      rfl
  | case3 high low more c pair ih =>
    intro fuel enough
    obtain ⟨units, large⟩ := charUnits_pair pair
    have noQuote : c ≠ '"' := by rintro rfl; exact absurd large (by decide)
    have noEscape : c ≠ '\\' := by rintro rfl; exact absurd large (by decide)
    rw [quoteUnits, pair] at enough ⊢
    dsimp only at enough ⊢
    rw [List.length_cons] at enough
    cases fuel with
    | zero => omega
    | succ fuel =>
      rw [List.cons_append, readUnits_plain noQuote noEscape (by omega), ih fuel (by omega), units]
      rfl
  | case4 high low more pair ih =>
    intro fuel enough
    have one := quoteUnit_length high
    rw [quoteUnits, pair] at enough ⊢
    dsimp only at enough ⊢
    rw [List.length_append] at enough
    cases fuel with
    | zero => omega
    | succ fuel =>
      rw [List.append_assoc, readUnits_quoteUnit, ih fuel (by omega)]
      rfl

theorem readQuoted_written (s : JsString) (rest : List Char) :
    readQuoted (quoteUnits s ++ '"' :: rest) = some (s, rest) := by
  unfold readQuoted
  apply readUnits_quoteUnits
  simp only [List.length_append]
  omega

/-! ## Values are read as they were written -/

mutual

/-- The text tells the value exactly: each number is written exactly, no array has a position
without an element, and each object has each key once. -/
def Legible (N : NumberTexts) : JsValue → Prop
  | .null | .boolean _ | .string _ => True
  | .number (.finite q) => N.Exact q
  | .array xs unlisted => unlisted = false ∧ LegibleElements N xs
  | .object plain fields unlisted =>
    (plain = true ∧ unlisted = false) ∧ (fields.map (·.1)).Nodup ∧ LegibleProperties N fields
  | _ => False

def LegibleElements (N : NumberTexts) : List JsValue → Prop
  | [] => True
  | x :: xs => Legible N x ∧ LegibleElements N xs

def LegibleProperties (N : NumberTexts) : List (JsString × JsValue) → Prop
  | [] => True
  | (_, x) :: fields => Legible N x ∧ LegibleProperties N fields

end

theorem setProperty_new {key : JsString} {x : JsValue} {fields : List (JsString × JsValue)}
    (new : key ∉ fields.map (·.1)) : setProperty key x fields = fields ++ [(key, x)] := by
  induction fields with
  | nil => rfl
  | cons f rest ih =>
    obtain ⟨other, y⟩ := f
    rw [List.map_cons, List.mem_cons, not_or] at new
    rw [setProperty, if_neg (Ne.symm new.1), ih new.2]
    rfl

theorem foldl_setProperty (fields made : List (JsString × JsValue))
    (unique : ((made ++ fields).map (·.1)).Nodup) :
    fields.foldl (fun made f => setProperty f.1 f.2 made) made = made ++ fields := by
  induction fields generalizing made with
  | nil => rw [List.foldl_nil, List.append_nil]
  | cons f rest ih =>
    have new : f.1 ∉ made.map (·.1) := by
      intro member
      rw [List.map_append, List.nodup_append] at unique
      exact unique.2.2 f.1 member f.1 List.mem_cons_self rfl
    rw [List.foldl_cons, setProperty_new new]
    rw [ih (made ++ [(f.1, f.2)]) (by rwa [List.append_assoc]), List.append_assoc]
    rfl

theorem makeProperties_unique {fields : List (JsString × JsValue)}
    (unique : (fields.map (·.1)).Nodup) : makeProperties fields = fields := by
  unfold makeProperties
  rw [foldl_setProperty fields [] (by rwa [List.nil_append]), List.nil_append]

section reading

variable {N : NumberTexts}

theorem write_opens {x : JsValue} (legible : Legible N x) : Opens (write N x) := by
  cases x with
  | undefined => exact legible.elim
  | other => exact legible.elim
  | hole => exact legible.elim
  | null => exact ⟨_, _, rfl, by decide, by decide, by decide⟩
  | boolean b => cases b <;> exact ⟨_, _, rfl, by decide, by decide, by decide⟩
  | string s => exact ⟨_, _, rfl, by decide, by decide, by decide⟩
  | array xs unlisted => exact ⟨_, _, rfl, by decide, by decide, by decide⟩
  | object plain fields unlisted => exact ⟨_, _, rfl, by decide, by decide, by decide⟩
  | number n =>
    cases n with
    | negativeZero => exact legible.elim
    | infinite negative => exact legible.elim
    | nan => exact legible.elim
    | finite q =>
      obtain ⟨_, some_text, chars⟩ := legible
      cases text : N.text q with
      | nil => exact absurd text some_text
      | cons c more =>
        have number := chars c (by simp [text])
        refine ⟨c, more, by rw [write, text], ?_, ?_, ?_⟩
        · cases space : isJsonSpace c with
          | false => rfl
          | true =>
            simp only [isJsonSpace, Bool.or_eq_true, beq_iff_eq] at space
            rcases space with ((rfl | rfl) | rfl) | rfl <;> exact absurd number (by decide)
        · rintro rfl; exact absurd number (by decide)
        · rintro rfl; exact absurd number (by decide)

/-- A number is read where no other value starts. -/
theorem readValue_number {fuel : Nat} {q : Rat} (exact : N.Exact q) {rest : List Char}
    (ends : Ends rest) :
    readValue N (fuel + 1) (N.text q ++ rest) = some (.number (.finite q), rest) := by
  obtain ⟨c, more, text, visible, _⟩ := write_opens (x := .number (.finite q)) exact
  rw [write] at text
  have number := exact.2.2 c (by simp [text])
  have skip : skipSpace (N.text q ++ rest) = N.text q ++ rest := by
    rw [text, List.cons_append, skipSpace_cons visible]
  have other : ∀ d, isNumberChar d = false → ∀ tail, N.text q ++ rest ≠ d :: tail := by
    intro d plain tail same
    rw [text, List.cons_append] at same
    cases same
    rw [number] at plain
    cases plain
  rw [readValue, skip]
  split
  · rename_i same; exact absurd same (other _ (by decide) _)
  · rename_i same; exact absurd same (other _ (by decide) _)
  · rename_i same; exact absurd same (other _ (by decide) _)
  · rename_i same; exact absurd same (other _ (by decide) _)
  · rename_i same; exact absurd same (other _ (by decide) _)
  · rename_i same; exact absurd same (other _ (by decide) _)
  · obtain ⟨taken, left⟩ := takeWhile_number exact.2.2 ends
    simp [readNumeral, taken, left, exact.1]

theorem readValue_string (fuel : Nat) (s : JsString) (rest : List Char) :
    readValue N (fuel + 1) (quote s ++ rest) = some (.string s, rest) := by
  have text : quote s ++ rest = '"' :: (quoteUnits s ++ '"' :: rest) := by simp [quote]
  rw [text, readValue, skipSpace_cons (by decide)]
  simp only [readQuoted_written]
  rfl

/-- The key of a property, with its colon. -/
theorem readProperties_key (fuel : Nat) (key : JsString) (rest : List Char) :
    readProperties N (fuel + 1) (quote key ++ ':' :: rest) = (do
      let (x, rest) ← readValue N fuel rest
      match expect '}' rest with
      | some rest => some ([(key, x)], rest)
      | none =>
        let rest ← expect ',' rest
        let (fields, rest) ← readProperties N fuel rest
        some ((key, x) :: fields, rest)) := by
  have text : quote key ++ ':' :: rest = '"' :: (quoteUnits key ++ '"' :: ':' :: rest) := by
    simp [quote]
  rw [text, readProperties, expect_cons (by decide)]
  simp only [Option.bind_eq_bind, Option.bind_some, readQuoted_written,
    expect_cons (show isJsonSpace ':' = false by decide)]

theorem join_opens {text : List Char} (opens : Opens text) (texts : List (List Char)) :
    Opens (join (text :: texts)) := by
  obtain ⟨c, more, rfl, marks⟩ := opens
  cases texts with
  | nil => exact ⟨c, more, rfl, marks⟩
  | cons next rest => exact ⟨c, more ++ ',' :: join (next :: rest), rfl, marks⟩

mutual

/-- A value is read back, whatever stands behind it. -/
theorem readValue_write : ∀ (x : JsValue), Legible N x → ∀ (fuel : Nat) (rest : List Char),
    Ends rest → (write N x).length ≤ fuel →
    readValue N (fuel + 1) (write N x ++ rest) = some (x, rest)
  | .null, _, _, _, _, _ => by
    simp [write, readValue, skipSpace_cons (show isJsonSpace 'n' = false by decide)]
  | .boolean true, _, _, _, _, _ => by
    simp [write, readValue, skipSpace_cons (show isJsonSpace 't' = false by decide)]
  | .boolean false, _, _, _, _, _ => by
    simp [write, readValue, skipSpace_cons (show isJsonSpace 'f' = false by decide)]
  | .number (.finite _), legible, _, _, ends, _ => readValue_number legible ends
  | .string s, _, fuel, rest, _, _ => readValue_string fuel s rest
  | .array [] _, ⟨rfl, _⟩, _, _, _, _ => by
    simp [write, writeElements, join, readValue,
      skipSpace_cons (show isJsonSpace '[' = false by decide),
      expect_cons (show isJsonSpace ']' = false by decide)]
  | .array (x :: xs) _, ⟨rfl, legible⟩, fuel, rest, _, enough => by
    rw [write, List.length_cons, List.length_append, List.length_singleton] at enough
    have inner := readElements_write x xs legible fuel rest (by omega)
    have shut : expect ']' (join (writeElements N (x :: xs)) ++ ']' :: rest) = none :=
      expect_opens (join_opens (write_opens legible.1) _) (Or.inl rfl)
    rw [write, List.cons_append, List.append_assoc, List.singleton_append, readValue,
      skipSpace_cons (by decide)]
    simp only [shut, inner]
    rfl
  | .object _ [] _, ⟨⟨rfl, rfl⟩, _⟩, _, _, _, _ => by
    simp [write, writeProperties, join, readValue,
      skipSpace_cons (show isJsonSpace '{' = false by decide),
      expect_cons (show isJsonSpace '}' = false by decide)]
  | .object _ ((key, x) :: fields) _, ⟨⟨rfl, rfl⟩, unique, legible⟩, fuel, rest, _, enough => by
    rw [write, List.length_cons, List.length_append, List.length_singleton] at enough
    have inner := readProperties_write (key, x) fields legible fuel rest (by omega)
    have shut : expect '}' (join (writeProperties N ((key, x) :: fields)) ++ '}' :: rest) =
        none := by
      apply expect_opens _ (Or.inr rfl)
      apply join_opens
      exact ⟨'"', _, rfl, by decide, by decide, by decide⟩
    rw [write, List.cons_append, List.append_assoc, List.singleton_append, readValue,
      skipSpace_cons (by decide)]
    simp only [shut, inner, Option.map_some, makeProperties_unique unique]

theorem readElements_write : ∀ (x : JsValue) (xs : List JsValue), LegibleElements N (x :: xs) →
    ∀ (fuel : Nat) (rest : List Char), (join (writeElements N (x :: xs))).length + 1 < fuel →
    readElements N fuel (join (writeElements N (x :: xs)) ++ ']' :: rest) = some (x :: xs, rest)
  | _, _, _, 0, _, enough => by omega
  | _, _, _, 1, _, enough => by omega
  | x, [], legible, fuel + 2, rest, enough => by
    rw [writeElements, writeElements, join] at enough ⊢
    have first := readValue_write x legible.1 fuel (']' :: rest) (ends_cons (by decide) _)
      (by omega)
    simp [readElements, first, expect_cons (show isJsonSpace ']' = false by decide)]
  | x, y :: more, legible, fuel + 2, rest, enough => by
    have text : join (writeElements N (x :: y :: more)) =
        write N x ++ ',' :: join (writeElements N (y :: more)) := rfl
    rw [text, List.length_append, List.length_cons] at enough
    have first := readValue_write x legible.1 fuel
      (',' :: (join (writeElements N (y :: more)) ++ ']' :: rest)) (ends_cons (by decide) _)
      (by omega)
    have inner := readElements_write y more legible.2 (fuel + 1) rest (by omega)
    rw [text, List.append_assoc, List.cons_append, readElements, first]
    simp [expect_other (show isJsonSpace ',' = false by decide) (show ',' ≠ ']' by decide),
      expect_cons (show isJsonSpace ',' = false by decide), inner]

theorem readProperties_write : ∀ (f : JsString × JsValue) (fields : List (JsString × JsValue)),
    LegibleProperties N (f :: fields) → ∀ (fuel : Nat) (rest : List Char),
    (join (writeProperties N (f :: fields))).length + 1 < fuel →
    readProperties N fuel (join (writeProperties N (f :: fields)) ++ '}' :: rest) =
      some (f :: fields, rest)
  | _, _, _, 0, _, enough => by omega
  | _, _, _, 1, _, enough => by omega
  | (key, x), [], legible, fuel + 2, rest, enough => by
    rw [writeProperties, writeProperties, join, List.length_append, List.length_cons] at enough
    have first := readValue_write x legible.1 fuel ('}' :: rest) (ends_cons (by decide) _)
      (by omega)
    rw [writeProperties, writeProperties, join, List.append_assoc, List.cons_append,
      readProperties_key, first]
    simp [expect_cons (show isJsonSpace '}' = false by decide)]
  | (key, x), (key', y) :: more, legible, fuel + 2, rest, enough => by
    have text : join (writeProperties N ((key, x) :: (key', y) :: more)) =
        quote key ++ ':' :: (write N x ++ ',' :: join (writeProperties N ((key', y) :: more))) := by
      simp [writeProperties, join]
    rw [text, List.length_append, List.length_cons, List.length_append,
      List.length_cons] at enough
    have first := readValue_write x legible.1 fuel
      (',' :: (join (writeProperties N ((key', y) :: more)) ++ '}' :: rest))
      (ends_cons (by decide) _) (by omega)
    have inner := readProperties_write (key', y) more legible.2 (fuel + 1) rest (by omega)
    rw [text, List.append_assoc, List.cons_append, List.append_assoc, List.cons_append,
      readProperties_key, first]
    simp [expect_other (show isJsonSpace ',' = false by decide) (show ',' ≠ '}' by decide),
      expect_cons (show isJsonSpace ',' = false by decide), inner]

end

/-- A text that tells its value exactly is read as that value. -/
theorem parse_write {x : JsValue} (legible : Legible N x) : parse N (write N x) = some x := by
  have read := readValue_write x legible (write N x).length [] (fun _ _ none => by cases none)
    (Nat.le_refl _)
  rw [List.append_nil] at read
  simp [parse, read, skipSpace]

end reading

end jsvalues
