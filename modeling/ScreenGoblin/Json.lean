-- JSON values as JavaScript code reads them. An object is a list of fields in
-- order, and a field that is not there reads as `undefined`, which is `none`.
import Mathlib.Data.Rat.Defs

namespace js

inductive Json where
  | null
  | bool (b : Bool)
  | num (q : Rat)
  | str (s : String)
  | arr (xs : List Json)
  | obj (fields : List (String × Json))
  deriving Inhabited

/-- A JavaScript value that came from JSON: a JSON value, or `undefined`. -/
abbrev Value := Option Json

namespace Json

mutual

def decEq : (a b : Json) → Decidable (a = b)
  | .null, .null => isTrue rfl
  | .bool a, .bool b => decidable_of_iff (a = b) (by simp)
  | .num a, .num b => decidable_of_iff (a = b) (by simp)
  | .str a, .str b => decidable_of_iff (a = b) (by simp)
  | .arr a, .arr b => match decEqList a b with
    | isTrue h => isTrue (by rw [h])
    | isFalse h => isFalse (by simpa using h)
  | .obj a, .obj b => match decEqFields a b with
    | isTrue h => isTrue (by rw [h])
    | isFalse h => isFalse (by simpa using h)
  | .null, .bool _ | .null, .num _ | .null, .str _ | .null, .arr _ | .null, .obj _
  | .bool _, .null | .bool _, .num _ | .bool _, .str _ | .bool _, .arr _ | .bool _, .obj _
  | .num _, .null | .num _, .bool _ | .num _, .str _ | .num _, .arr _ | .num _, .obj _
  | .str _, .null | .str _, .bool _ | .str _, .num _ | .str _, .arr _ | .str _, .obj _
  | .arr _, .null | .arr _, .bool _ | .arr _, .num _ | .arr _, .str _ | .arr _, .obj _
  | .obj _, .null | .obj _, .bool _ | .obj _, .num _ | .obj _, .str _ | .obj _, .arr _ =>
    isFalse (by simp)

def decEqList : (a b : List Json) → Decidable (a = b)
  | [], [] => isTrue rfl
  | [], _ :: _ | _ :: _, [] => isFalse (by simp)
  | x :: xs, y :: ys => match decEq x y, decEqList xs ys with
    | isTrue h, isTrue h' => isTrue (by rw [h, h'])
    | isFalse h, _ => isFalse (by simp [h])
    | _, isFalse h => isFalse (by simp [h])

def decEqFields : (a b : List (String × Json)) → Decidable (a = b)
  | [], [] => isTrue rfl
  | [], _ :: _ | _ :: _, [] => isFalse (by simp)
  | (k, x) :: xs, (l, y) :: ys => match decEq x y, decEqFields xs ys with
    | isTrue h, isTrue h' => decidable_of_iff (k = l) (by simp [h, h'])
    | isFalse h, _ => isFalse (by simp [h])
    | _, isFalse h => isFalse (by simp [h])

end

instance : DecidableEq Json := decEq

end Json

/-! ## Fields -/

/-- The first field of a list with this key. -/
def field (key : String) : List (String × Json) → Value
  | [] => none
  | (k, v) :: rest => if k = key then some v else field key rest

/-- `value?.key`. -/
def Value.get (v : Value) (key : String) : Value :=
  match v with
  | some (.obj fields) => field key fields
  | _ => none

/-- The elements of an array, and none of any other value. -/
def Value.elements (v : Value) : List Json :=
  match v with
  | some (.arr xs) => xs
  | _ => []

/-- The fields that a spread `...value` copies. -/
def Value.fields (v : Value) : List (String × Json) :=
  match v with
  | some (.obj fields) => fields
  | _ => []

/-- `object.key = v`. A field keeps its place, a new one goes last, and a field that is
set to `undefined` is left out, as it is in the JSON text. -/
def setField (key : String) (v : Value) : List (String × Json) → List (String × Json)
  | [] => match v with
    | some x => [(key, x)]
    | none => []
  | (k, y) :: rest =>
    if k = key then match v with
      | some x => (k, x) :: rest
      | none => rest
    else (k, y) :: setField key v rest

/-- An object literal. The fields that are `undefined` are left out. -/
def object (fields : List (String × Value)) : Json :=
  .obj (fields.filterMap fun kv => kv.2.map fun v => (kv.1, v))

@[simp]
theorem get_object_nil (key : String) : Value.get (some (object [])) key = none := rfl

/-- The fields of an object literal, read one by one. -/
@[simp]
theorem get_object_cons (k key : String) (v : Value) (rest : List (String × Value)) :
    Value.get (some (object ((k, v) :: rest))) key =
      if k = key then v.or (Value.get (some (object rest)) key)
      else Value.get (some (object rest)) key := by
  cases v with
  | none => simp [object]
  | some x =>
    simp only [object, Value.get, List.filterMap_cons, Option.map_some, field, Option.some_or]

/-! ## The tests of JavaScript -/

/-- `Boolean(value)`. -/
def Value.truthy : Value → Bool
  | none | some .null => false
  | some (.bool b) => b
  | some (.num q) => q != 0
  | some (.str s) => s != ""
  | some (.arr _) | some (.obj _) => true

/-- `typeof value === "object"`, for a value that is not `null`. -/
def Value.isObject : Value → Bool
  | some (.arr _) | some (.obj _) => true
  | _ => false

/-- `Array.isArray(value)`. -/
def Value.isArray : Value → Bool
  | some (.arr _) => true
  | _ => false

/-- `typeof value === "string"`. -/
def Value.isString : Value → Bool
  | some (.str _) => true
  | _ => false

/-- `a === b` for values of two different objects: two arrays or two objects are then two
references, and never equal. -/
def Value.strictEq : Value → Value → Bool
  | some (.arr _), _ | some (.obj _), _ => false
  | a, b => a == b

/-- `Number.isInteger(value)`. -/
def Value.isInteger : Value → Bool
  | some (.num q) => q.den == 1
  | _ => false

/-- `Number.MAX_SAFE_INTEGER`. -/
def maxSafeInteger : Rat := 9007199254740991

/-- `Number.isSafeInteger(value)`. -/
def Value.isSafeInteger : Value → Bool
  | some (.num q) => q.den == 1 && decide (-maxSafeInteger ≤ q) && decide (q ≤ maxSafeInteger)
  | _ => false

/-- The number of a value, and 0 for a value that is no number. -/
def Value.number : Value → Rat
  | some (.num q) => q
  | _ => 0

@[simp] theorem truthy_none : Value.truthy none = false := rfl

/-- The length of a text in UTF-16 code units. -/
def utf16Length (text : String) : Nat :=
  text.toList.foldl (fun units c => units + if c.toNat < 0x10000 then 1 else 2) 0

/-- The white space and the line ends of JavaScript. -/
def isSpace (c : Char) : Bool :=
  [0x9, 0xA, 0xB, 0xC, 0xD, 0x20, 0xA0, 0x1680, 0x2028, 0x2029, 0x202F, 0x205F, 0x3000,
    0xFEFF].contains c.toNat || (decide (0x2000 ≤ c.toNat) && decide (c.toNat ≤ 0x200A))

/-- `text.trim()`. -/
def trim (text : String) : String :=
  String.ofList ((text.toList.dropWhile isSpace).reverse.dropWhile isSpace).reverse

/-! ## Formats of the web -/

/-- The parts of a parsed URL. -/
structure Url where
  protocol : String
  username : String
  password : String
  hostname : String
  origin : String
  search : String
  hash : String

/-- `[A-Za-z0-9_-]` -/
def isBase64Url (c : Char) : Bool :=
  ('A' ≤ c && c ≤ 'Z') || ('a' ≤ c && c ≤ 'z') || ('0' ≤ c && c ≤ '9') || c == '_' || c == '-'

/-- `/^[a-f\d]{64}$/i` -/
def isSha256Hex (text : String) : Bool :=
  text.toList.length == 64 && text.toList.all fun c =>
    ('a' ≤ c && c ≤ 'f') || ('A' ≤ c && c ≤ 'F') || ('0' ≤ c && c ≤ '9')

/-- `/^[0-9a-f]{64}$/` -/
def isLowerHex64 (text : String) : Bool :=
  text.toList.length == 64 && text.toList.all fun c =>
    ('0' ≤ c && c ≤ '9') || ('a' ≤ c && c ≤ 'f')

end js
