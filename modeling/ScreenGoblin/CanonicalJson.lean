-- The canonical JSON of protocol hashes (packages/contracts/src/index.ts, canonicalJson): what
-- it rejects, and that two values have one text just when they are equal up to the order of
-- their keys.
import ScreenGoblin.JsValues
import ScreenGoblin.Collections

open collections

namespace jsvalues

/-! ## The function -/

/-- The order of `sort()` on keys. -/
def keyLe {α : Type} (f g : JsString × α) : Prop := f.1.map UInt16.toNat ≤ g.1.map UInt16.toNat

instance {α : Type} : DecidableRel (keyLe (α := α)) := fun f g =>
  inferInstanceAs (Decidable (f.1.map UInt16.toNat ≤ g.1.map UInt16.toNat))

def numberText (N : NumberTexts) : JsNumber → Except String (List Char)
  | .finite q => .ok (N.text q)
  | .negativeZero => .ok (N.text 0)
  | .infinite _ | .nan => .error "Canonical JSON requires finite numbers"

/-- A key with the text of its value. -/
def propertyText (f : JsString × Except String (List Char)) : Except String (List Char) :=
  f.2.map fun text => quote f.1 ++ ':' :: text

mutual

def canonicalJson (N : NumberTexts) : JsValue → Except String (List Char)
  | .null => .ok ['n', 'u', 'l', 'l']
  | .boolean true => .ok ['t', 'r', 'u', 'e']
  | .boolean false => .ok ['f', 'a', 'l', 's', 'e']
  | .string s => .ok (quote s)
  | .number n => numberText N n
  | .array xs _ => (canonicalElements N xs).map fun texts => '[' :: (join texts ++ [']'])
  | .undefined | .other | .hole => .error "Value is not representable as canonical JSON"
  | .object plain properties _ =>
    if plain then
      (((canonicalProperties N properties).insertionSort keyLe).mapM propertyText).map fun texts =>
        '{' :: (join texts ++ ['}'])
    else .error "Canonical JSON objects must be plain objects"

/-- `value.map(canonicalJson)`. A hole stays a hole, and `join` writes nothing for it. -/
def canonicalElements (N : NumberTexts) : List JsValue → Except String (List (List Char))
  | [] => .ok []
  | .hole :: xs => (canonicalElements N xs).map fun texts => [] :: texts
  | x :: xs => do
    let text ← canonicalJson N x
    let texts ← canonicalElements N xs
    .ok (text :: texts)

def canonicalProperties (N : NumberTexts) :
    List (JsString × JsValue) → List (JsString × Except String (List Char))
  | [] => []
  | (key, x) :: rest => (key, canonicalJson N x) :: canonicalProperties N rest

end

/-! ## What a value is made of -/

/-- An induction over a value and the values in it. -/
theorem value_induction {P : JsValue → Prop} (undefined : P .undefined) (null : P .null)
    (boolean : ∀ b, P (.boolean b)) (number : ∀ n, P (.number n)) (string : ∀ s, P (.string s))
    (other : P .other) (hole : P .hole)
    (array : ∀ xs unlisted, (∀ x ∈ xs, P x) → P (.array xs unlisted))
    (object : ∀ plain fields unlisted, (∀ f ∈ fields, P f.2) → P (.object plain fields unlisted))
    (v : JsValue) : P v := by
  refine @JsValue.rec P (fun xs => ∀ x ∈ xs, P x) (fun fields => ∀ f ∈ fields, P f.2)
    (fun f => P f.2)
    undefined null boolean number string other hole array object ?_ ?_ ?_ ?_ ?_ v
  · intro x none
    cases none
  · intro x xs first others y member
    rcases List.mem_cons.mp member with rfl | later
    · exact first
    · exact others y later
  · intro f none
    cases none
  · intro f fields first others g member
    rcases List.mem_cons.mp member with rfl | later
    · exact first
    · exact others g later
  · intro key x value
    exact value

/-- The values directly in a value. -/
def children : JsValue → List JsValue
  | .array xs _ => xs
  | .object _ fields _ => fields.map (·.2)
  | _ => []

/-- `P` holds of a value and of all the values in it. -/
inductive Everywhere (P : JsValue → Prop) : JsValue → Prop
  | node {v : JsValue} : P v → (∀ x ∈ children v, Everywhere P x) → Everywhere P v

theorem Everywhere.leaf {P : JsValue → Prop} {v : JsValue} (here : P v) (alone : children v = []) :
    Everywhere P v := by
  refine .node here ?_
  intro x member
  rw [alone] at member
  cases member

theorem Everywhere.here {P : JsValue → Prop} {v : JsValue} (h : Everywhere P v) : P v := by
  cases h with
  | node here _ => exact here

theorem Everywhere.element {P : JsValue → Prop} {xs : List JsValue} {u : Bool} {x : JsValue}
    (h : Everywhere P (.array xs u)) (member : x ∈ xs) : Everywhere P x := by
  cases h with
  | node _ inside => exact inside x member

theorem Everywhere.value {P : JsValue → Prop} {plain u : Bool} {fields : List (JsString × JsValue)}
    {f : JsString × JsValue} (h : Everywhere P (.object plain fields u)) (member : f ∈ fields) :
    Everywhere P f.2 := by
  cases h with
  | node _ inside => exact inside f.2 (List.mem_map_of_mem member)

def JsonNode : JsValue → Prop
  | .null | .boolean _ | .string _ | .number (.finite _) | .number .negativeZero => True
  | .array _ unlisted => unlisted = false
  | .object plain _ unlisted => plain = true ∧ unlisted = false
  | _ => False

/-- The JSON values: `null`, booleans, strings, finite numbers, arrays with an element at each
position, and plain objects. -/
def IsJson : JsValue → Prop := Everywhere JsonNode

def WholeNode : JsValue → Prop
  | .hole => False
  | .array _ unlisted | .object _ _ unlisted => unlisted = false
  | _ => True

/-- Each position of each array has its element, and `Object.keys` lists all there is. -/
def Whole : JsValue → Prop := Everywhere WholeNode

def ProperNode (N : NumberTexts) : JsValue → Prop
  | .number (.finite q) => N.Exact q
  | .number .negativeZero => N.Exact 0
  | .object _ fields _ => (fields.map (·.1)).Nodup
  | _ => True

/-- The numbers are numbers of JavaScript, which their texts tell exactly, and each object has
each key once. -/
def Proper (N : NumberTexts) : JsValue → Prop := Everywhere (ProperNode N)

/-- What the function sees of the value is JSON: it sees no hole of an array, and nothing that
`Object.keys` does not list. -/
inductive Supported : JsValue → Prop
  | null : Supported .null
  | boolean (b : Bool) : Supported (.boolean b)
  | string (s : JsString) : Supported (.string s)
  | finite (q : Rat) : Supported (.number (.finite q))
  | negativeZero : Supported (.number .negativeZero)
  | array (xs : List JsValue) (unlisted : Bool) :
      (∀ x ∈ xs, x ≠ .hole → Supported x) → Supported (.array xs unlisted)
  | object (fields : List (JsString × JsValue)) (unlisted : Bool) :
      (∀ f ∈ fields, Supported f.2) → Supported (.object true fields unlisted)

/-- `m === n`, but for `NaN`, which is no JSON. -/
def SameNumber (m n : JsNumber) : Prop :=
  m = n ∨ (m = .negativeZero ∧ n = .finite 0) ∨ (m = .finite 0 ∧ n = .negativeZero)

/-- Two JSON values are equal up to the order of their keys. -/
inductive SameJson : JsValue → JsValue → Prop
  | null : SameJson .null .null
  | boolean (b : Bool) : SameJson (.boolean b) (.boolean b)
  | string (s : JsString) : SameJson (.string s) (.string s)
  | number {m n : JsNumber} : SameNumber m n → SameJson (.number m) (.number n)
  | array {xs ys : List JsValue} : xs.length = ys.length →
      (∀ (i : Nat) (x y : JsValue), xs[i]? = some x → ys[i]? = some y → SameJson x y) →
      SameJson (.array xs false) (.array ys false)
  | object {fields fields' : List (JsString × JsValue)} :
      (∀ key, key ∈ fields.map (·.1) ↔ key ∈ fields'.map (·.1)) →
      (∀ (key : JsString) (x y : JsValue), (key, x) ∈ fields → (key, y) ∈ fields' →
        SameJson x y) →
      SameJson (.object true fields false) (.object true fields' false)

theorem isJson_iff {v : JsValue} : IsJson v ↔ Supported v ∧ Whole v := by
  constructor
  · intro json
    induction v using value_induction with
    | undefined => exact json.here.elim
    | other => exact json.here.elim
    | hole => exact json.here.elim
    | null => exact ⟨.null, .leaf trivial rfl⟩
    | boolean b => exact ⟨.boolean b, .leaf trivial rfl⟩
    | string s => exact ⟨.string s, .leaf trivial rfl⟩
    | number n =>
      have whole : Whole (.number n) := .leaf trivial rfl
      cases n with
      | finite q => exact ⟨.finite q, whole⟩
      | negativeZero => exact ⟨.negativeZero, whole⟩
      | infinite negative => exact json.here.elim
      | nan => exact json.here.elim
    | array xs unlisted ih =>
      have here : unlisted = false := json.here
      refine ⟨.array xs unlisted ?_, .node here ?_⟩
      · intro x member _
        exact (ih x member (json.element member)).1
      · intro x member
        exact (ih x member (json.element member)).2
    | object plain fields unlisted ih =>
      obtain ⟨rfl, rfl⟩ : plain = true ∧ unlisted = false := json.here
      refine ⟨.object fields false ?_, .node rfl ?_⟩
      · intro f member
        exact (ih f member (json.value member)).1
      · intro x member
        obtain ⟨f, isField, rfl⟩ := List.mem_map.mp member
        exact (ih f isField (json.value isField)).2
  · rintro ⟨supported, whole⟩
    induction supported with
    | null => exact .leaf trivial rfl
    | boolean b => exact .leaf trivial rfl
    | string s => exact .leaf trivial rfl
    | finite q => exact .leaf trivial rfl
    | negativeZero => exact .leaf trivial rfl
    | array xs unlisted _ ih =>
      have here : unlisted = false := whole.here
      refine .node here ?_
      intro x member
      have inside := whole.element member
      apply ih x member _ inside
      rintro rfl
      exact inside.here
    | object fields unlisted _ ih =>
      have here : unlisted = false := whole.here
      refine .node ⟨rfl, here⟩ ?_
      intro x member
      obtain ⟨f, isField, rfl⟩ := List.mem_map.mp member
      exact ih f isField (whole.value isField)

/-! ## The text is the text of the value with sorted keys -/

mutual

/-- The value with the keys of each object in order, and `0` for `-0`. -/
def sortKeys : JsValue → JsValue
  | .number .negativeZero => .number (.finite 0)
  | .array xs _ => .array (sortElements xs) false
  | .object plain fields _ => .object plain ((sortProperties fields).insertionSort keyLe) false
  | v => v

def sortElements : List JsValue → List JsValue
  | [] => []
  | x :: xs => sortKeys x :: sortElements xs

def sortProperties : List (JsString × JsValue) → List (JsString × JsValue)
  | [] => []
  | (key, x) :: fields => (key, sortKeys x) :: sortProperties fields

end

theorem sortElements_eq (xs : List JsValue) : sortElements xs = xs.map sortKeys := by
  induction xs with
  | nil => rfl
  | cons x xs ih => rw [sortElements, ih, List.map_cons]

theorem sortProperties_eq (fields : List (JsString × JsValue)) :
    sortProperties fields = fields.map fun f => (f.1, sortKeys f.2) := by
  induction fields with
  | nil => rfl
  | cons f fields ih => rw [sortProperties, ih, List.map_cons]

theorem keys_sortProperties (fields : List (JsString × JsValue)) :
    (sortProperties fields).map (·.1) = fields.map (·.1) := by
  rw [sortProperties_eq, List.map_map]
  rfl

theorem writeProperties_eq (N : NumberTexts) (fields : List (JsString × JsValue)) :
    writeProperties N fields = fields.map fun f => quote f.1 ++ ':' :: write N f.2 := by
  induction fields with
  | nil => rfl
  | cons f fields ih => rw [writeProperties, ih, List.map_cons]

theorem canonicalProperties_eq (N : NumberTexts) (fields : List (JsString × JsValue)) :
    canonicalProperties N fields = fields.map fun f => (f.1, canonicalJson N f.2) := by
  induction fields with
  | nil => rfl
  | cons f fields ih => rw [canonicalProperties, ih, List.map_cons]

theorem canonicalElements_value {N : NumberTexts} {x : JsValue} (value : x ≠ .hole)
    (xs : List JsValue) : canonicalElements N (x :: xs) = (do
      let text ← canonicalJson N x
      let texts ← canonicalElements N xs
      .ok (text :: texts)) := by
  cases x with
  | hole => exact absurd rfl value
  | _ => rfl

/-- Sorting by keys does not look at the values. -/
theorem map_insertionSort_keyLe {α β : Type} (g : JsString × α → β)
    (fields : List (JsString × α)) :
    ((fields.map fun f => (f.1, g f)).insertionSort keyLe) =
      (fields.insertionSort keyLe).map fun f => (f.1, g f) := by
  symm
  apply List.map_insertionSort
  intro f _ f' _
  exact Iff.rfl

theorem mapM_propertyText {α : Type} (texts : α → List Char) (fields : List (JsString × α)) :
    (fields.map fun f => (f.1, (.ok (texts f.2) : Except String (List Char)))).mapM propertyText =
      .ok (fields.map fun f => quote f.1 ++ ':' :: texts f.2) := by
  induction fields with
  | nil => rfl
  | cons f fields ih =>
    rw [List.map_cons, List.mapM_cons, ih]
    rfl

/-- A value is given its text where what the function sees of it is JSON. -/
theorem canonicalJson_supported (N : NumberTexts) {v : JsValue} (supported : Supported v) :
    canonicalJson N v = .ok (write N (sortKeys v)) := by
  induction supported with
  | null => rfl
  | boolean b => cases b <;> rfl
  | string s => rfl
  | finite q => rfl
  | negativeZero => rfl
  | array xs unlisted inside ih =>
    clear inside
    have texts : canonicalElements N xs = .ok (writeElements N (sortElements xs)) := by
      induction xs with
      | nil => rfl
      | cons x xs more =>
        have others := more fun y member => ih y (List.mem_cons_of_mem _ member)
        by_cases hole : x = .hole
        · subst hole
          rw [canonicalElements, others]
          rfl
        · rw [canonicalElements_value hole, ih x List.mem_cons_self hole, others]
          rfl
    rw [canonicalJson, texts]
    rfl
  | object fields unlisted _ ih =>
    have texts : canonicalProperties N fields =
        fields.map fun f => (f.1, .ok (write N (sortKeys f.2))) := by
      rw [canonicalProperties_eq]
      apply List.map_congr_left
      intro f member
      rw [ih f member]
    have sorted := map_insertionSort_keyLe
      (fun f => (.ok (write N (sortKeys f.2)) : Except String (List Char))) fields
    rw [canonicalJson, if_pos rfl, texts, sorted, mapM_propertyText fun x => write N (sortKeys x)]
    rw [sortKeys, write, writeProperties_eq, sortProperties_eq,
      map_insertionSort_keyLe (fun f => sortKeys f.2), List.map_map]
    rfl

theorem ok_of_canonicalElements {N : NumberTexts} {xs : List JsValue} {texts : List (List Char)}
    (all : canonicalElements N xs = .ok texts) :
    ∀ x ∈ xs, x ≠ .hole → ∃ text, canonicalJson N x = .ok text := by
  induction xs generalizing texts with
  | nil =>
    intro x none
    cases none
  | cons y xs ih =>
    have parts : (y ≠ .hole → ∃ text, canonicalJson N y = .ok text) ∧
        ∃ texts, canonicalElements N xs = .ok texts := by
      by_cases hole : y = .hole
      · subst hole
        rw [canonicalElements] at all
        cases others : canonicalElements N xs with
        | error e => rw [others] at all; cases all
        | ok texts => exact ⟨fun value => absurd rfl value, texts, rfl⟩
      · rw [canonicalElements_value hole] at all
        cases first : canonicalJson N y with
        | error e => rw [first] at all; cases all
        | ok text =>
          cases others : canonicalElements N xs with
          | error e => rw [first, others] at all; cases all
          | ok texts => exact ⟨fun _ => ⟨text, rfl⟩, texts, rfl⟩
    obtain ⟨first, texts, others⟩ := parts
    intro x member
    rcases List.mem_cons.mp member with rfl | later
    · exact first
    · exact ih others x later

theorem ok_of_mapM_propertyText {fields : List (JsString × Except String (List Char))}
    {texts : List (List Char)} (all : fields.mapM propertyText = .ok texts) :
    ∀ f ∈ fields, ∃ text, f.2 = .ok text := by
  induction fields generalizing texts with
  | nil =>
    intro f none
    cases none
  | cons g fields ih =>
    rw [List.mapM_cons] at all
    obtain ⟨key, value⟩ := g
    cases value with
    | error e => cases all
    | ok text =>
      cases others : fields.mapM propertyText with
      | error e => rw [others] at all; cases all
      | ok texts =>
        intro f member
        rcases List.mem_cons.mp member with rfl | later
        · exact ⟨text, rfl⟩
        · exact ih others f later

/-- A value whose text is given is JSON, as far as the function sees it. -/
theorem supported_of_canonicalJson (N : NumberTexts) {v : JsValue} {text : List Char}
    (given : canonicalJson N v = .ok text) : Supported v := by
  induction v using value_induction generalizing text with
  | undefined => cases given
  | other => cases given
  | hole => cases given
  | null => exact .null
  | boolean b => exact .boolean b
  | string s => exact .string s
  | number n =>
    cases n with
    | finite q => exact .finite q
    | negativeZero => exact .negativeZero
    | infinite negative => cases given
    | nan => cases given
  | array xs unlisted ih =>
    apply Supported.array
    intro x member value
    rw [canonicalJson] at given
    cases all : canonicalElements N xs with
    | error e => rw [all] at given; cases given
    | ok texts =>
      obtain ⟨text, first⟩ := ok_of_canonicalElements all x member value
      exact ih x member first
  | object plain fields unlisted ih =>
    rw [canonicalJson] at given
    cases plain with
    | false => cases given
    | true =>
      apply Supported.object
      intro f member
      rw [if_pos rfl] at given
      cases all : ((canonicalProperties N fields).insertionSort keyLe).mapM propertyText with
      | error e => rw [all] at given; cases given
      | ok texts =>
        have listed : (f.1, canonicalJson N f.2) ∈
            (canonicalProperties N fields).insertionSort keyLe := by
          rw [List.mem_insertionSort, canonicalProperties_eq]
          exact List.mem_map_of_mem (f := fun f => (f.1, canonicalJson N f.2)) member
        obtain ⟨text, value⟩ := ok_of_mapM_propertyText all _ listed
        exact ih f member value

/-! ## Sorted keys -/

theorem key_injective : Function.Injective fun key : JsString => key.map UInt16.toNat :=
  List.map_injective_iff.mpr fun _ _ => UInt16.toNat_inj.mp

theorem orderedOn_keyLe {α : Type} {fields : List (JsString × α)}
    (unique : (fields.map (·.1)).Nodup) : OrderedOn keyLe fields where
  total f _ g _ := le_total (f.1.map UInt16.toNat) (g.1.map UInt16.toNat)
  trans _ _ _ _ _ _ := le_trans
  antisymm _ hf _ hg le ge :=
    List.inj_on_of_nodup_map unique hf hg (key_injective (le_antisymm le ge))

/-- Rearranged properties are sorted alike. -/
theorem insertionSort_keyLe_perm {α : Type} {fields fields' : List (JsString × α)}
    (unique : (fields.map (·.1)).Nodup) (perm : fields.Perm fields') :
    fields.insertionSort keyLe = fields'.insertionSort keyLe :=
  (orderedOn_keyLe unique).insertionSort_perm perm

theorem mem_sortKeys_properties {fields : List (JsString × JsValue)} {f : JsString × JsValue} :
    f ∈ (sortProperties fields).insertionSort keyLe ↔
      ∃ g ∈ fields, (g.1, sortKeys g.2) = f := by
  rw [List.mem_insertionSort, sortProperties_eq, List.mem_map]

theorem unique_sortKeys_properties {fields : List (JsString × JsValue)}
    (unique : (fields.map (·.1)).Nodup) :
    (((sortProperties fields).insertionSort keyLe).map (·.1)).Nodup := by
  rw [((List.perm_insertionSort keyLe (sortProperties fields)).map (·.1)).nodup_iff,
    keys_sortProperties]
  exact unique

/-- The value with sorted keys is one that its text tells exactly. -/
theorem legible_sortKeys {N : NumberTexts} {v : JsValue} (json : IsJson v) (proper : Proper N v) :
    Legible N (sortKeys v) := by
  induction v using value_induction with
  | undefined => exact json.here.elim
  | other => exact json.here.elim
  | hole => exact json.here.elim
  | null => trivial
  | boolean b => trivial
  | string s => trivial
  | number n =>
    cases n with
    | finite q => exact proper.here
    | negativeZero => exact proper.here
    | infinite negative => exact json.here.elim
    | nan => exact json.here.elim
  | array xs unlisted ih =>
    refine ⟨rfl, ?_⟩
    induction xs with
    | nil => trivial
    | cons x xs more =>
      constructor
      · exact ih x List.mem_cons_self (json.element List.mem_cons_self)
          (proper.element List.mem_cons_self)
      · apply more
        · intro y member
          exact ih y (List.mem_cons_of_mem _ member)
        · exact .node json.here fun y member => json.element (List.mem_cons_of_mem _ member)
        · exact .node trivial fun y member => proper.element (List.mem_cons_of_mem _ member)
  | object plain fields unlisted ih =>
    have values : ∀ f ∈ (sortProperties fields).insertionSort keyLe, Legible N f.2 := by
      intro f member
      obtain ⟨g, isField, rfl⟩ := mem_sortKeys_properties.mp member
      exact ih g isField (json.value isField) (proper.value isField)
    have all : ∀ l : List (JsString × JsValue), (∀ f ∈ l, Legible N f.2) →
        LegibleProperties N l := by
      intro l legible
      induction l with
      | nil => trivial
      | cons f l more =>
        exact ⟨legible f List.mem_cons_self,
          more fun g member => legible g (List.mem_cons_of_mem _ member)⟩
    have here : plain = true ∧ unlisted = false := json.here
    exact ⟨⟨here.1, rfl⟩, unique_sortKeys_properties proper.here, all _ values⟩

/-- Sorting the keys changes nothing but their order. -/
theorem sameJson_sortKeys {N : NumberTexts} {v : JsValue} (json : IsJson v) (proper : Proper N v) :
    SameJson v (sortKeys v) := by
  induction v using value_induction with
  | undefined => exact json.here.elim
  | other => exact json.here.elim
  | hole => exact json.here.elim
  | null => exact .null
  | boolean b => exact .boolean b
  | string s => exact .string s
  | number n =>
    cases n with
    | finite q => exact .number (Or.inl rfl)
    | negativeZero => exact .number (Or.inr (Or.inl ⟨rfl, rfl⟩))
    | infinite negative => exact json.here.elim
    | nan => exact json.here.elim
  | array xs unlisted ih =>
    have here : unlisted = false := json.here
    subst here
    rw [sortKeys, sortElements_eq]
    apply SameJson.array
    · rw [List.length_map]
    · intro i x y first second
      rw [List.getElem?_map, first] at second
      cases second
      have member := List.mem_of_getElem? first
      exact ih x member (json.element member) (proper.element member)
  | object plain fields unlisted ih =>
    obtain ⟨rfl, rfl⟩ : plain = true ∧ unlisted = false := json.here
    have unique : (fields.map (·.1)).Nodup := proper.here
    rw [sortKeys]
    apply SameJson.object
    · intro key
      rw [((List.perm_insertionSort keyLe (sortProperties fields)).map (·.1)).mem_iff,
        keys_sortProperties]
    · intro key x y first second
      obtain ⟨g, isField, same⟩ := mem_sortKeys_properties.mp second
      cases same
      have field := List.inj_on_of_nodup_map unique isField first rfl
      have value : g.2 = x := congrArg Prod.snd field
      rw [← value]
      exact ih g isField (json.value isField) (proper.value isField)

/-- Values that are equal up to the order of keys are one value once the keys are sorted. -/
theorem sortKeys_congr {N : NumberTexts} {v w : JsValue} (same : SameJson v w)
    (proper : Proper N v) (proper' : Proper N w) : sortKeys v = sortKeys w := by
  induction same with
  | null => rfl
  | boolean b => rfl
  | string s => rfl
  | number same =>
    rcases same with rfl | ⟨rfl, rfl⟩ | ⟨rfl, rfl⟩
    · rfl
    · rfl
    · rfl
  | @array xs ys length _ ih =>
    rw [sortKeys, sortKeys, sortElements_eq, sortElements_eq]
    congr 1
    apply List.ext_getElem?
    intro i
    rw [List.getElem?_map, List.getElem?_map]
    cases first : xs[i]? with
    | none =>
      have past : ys[i]? = none := by
        rw [List.getElem?_eq_none_iff] at first ⊢
        omega
      rw [past]
    | some x =>
      obtain ⟨y, second⟩ : ∃ y, ys[i]? = some y := by
        obtain ⟨inside, _⟩ := List.getElem?_eq_some_iff.mp first
        exact ⟨ys[i], List.getElem?_eq_getElem (by omega)⟩
      rw [second, Option.map_some, Option.map_some, ih i x y first second
        (proper.element (List.mem_of_getElem? first))
        (proper'.element (List.mem_of_getElem? second))]
  | @object fields fields' keys _ ih =>
    have unique : (fields.map (·.1)).Nodup := proper.here
    have unique' : (fields'.map (·.1)).Nodup := proper'.here
    have sortedUnique : ((sortProperties fields).map (·.1)).Nodup := by
      rwa [keys_sortProperties]
    have sortedUnique' : ((sortProperties fields').map (·.1)).Nodup := by
      rwa [keys_sortProperties]
    have half : ∀ l l' : List (JsString × JsValue),
        (∀ key, key ∈ l.map (·.1) → key ∈ l'.map (·.1)) →
        (∀ key x y, (key, x) ∈ l → (key, y) ∈ l' → sortKeys x = sortKeys y) →
        ∀ f, f ∈ sortProperties l → f ∈ sortProperties l' := by
      intro l l' keys values f member
      rw [sortProperties_eq, List.mem_map] at member ⊢
      obtain ⟨⟨key, x⟩, isField, rfl⟩ := member
      obtain ⟨⟨key', y⟩, isField', rfl⟩ :=
        List.mem_map.mp (keys key (List.mem_map_of_mem (f := (·.1)) isField))
      exact ⟨(key', y), isField', by rw [values key' x y isField isField']⟩
    have values : ∀ key x y, (key, x) ∈ fields → (key, y) ∈ fields' →
        sortKeys x = sortKeys y := by
      intro key x y first second
      exact ih key x y first second (proper.value first) (proper'.value second)
    have perm : (sortProperties fields).Perm (sortProperties fields') := by
      rw [List.perm_ext_iff_of_nodup (List.Nodup.of_map _ sortedUnique)
        (List.Nodup.of_map _ sortedUnique')]
      intro f
      constructor
      · exact half fields fields' (fun key => (keys key).mp) values f
      · exact half fields' fields (fun key => (keys key).mpr)
          (fun key x y first second => (values key y x second first).symm) f
    rw [sortKeys, sortKeys, insertionSort_keyLe_perm sortedUnique perm]

/-- A zero that has a sign is sorted as the other zero. -/
theorem number_of_sortKeys {n m : JsNumber} (json : IsJson (.number n)) (json' : IsJson (.number m))
    (sorted : sortKeys (.number n) = sortKeys (.number m)) :
    SameJson (.number n) (.number m) := by
  apply SameJson.number
  cases n with
  | infinite negative => exact json.here.elim
  | nan => exact json.here.elim
  | finite q =>
    cases m with
    | finite p =>
      cases sorted
      exact Or.inl rfl
    | negativeZero =>
      cases sorted
      exact Or.inr (Or.inr ⟨rfl, rfl⟩)
    | infinite negative => exact json'.here.elim
    | nan => exact json'.here.elim
  | negativeZero =>
    cases m with
    | finite p =>
      cases sorted
      exact Or.inr (Or.inl ⟨rfl, rfl⟩)
    | negativeZero => exact Or.inl rfl
    | infinite negative => exact json'.here.elim
    | nan => exact json'.here.elim

theorem array_of_sortKeys {xs ys : List JsValue}
    (each : ∀ x ∈ xs, ∀ y ∈ ys, sortKeys x = sortKeys y → SameJson x y)
    (sorted : sortKeys (.array xs false) = sortKeys (.array ys false)) :
    SameJson (.array xs false) (.array ys false) := by
  rw [sortKeys, sortKeys, sortElements_eq, sortElements_eq] at sorted
  have elements : xs.map sortKeys = ys.map sortKeys := by
    injection sorted
  apply SameJson.array
  · have lengths := congrArg List.length elements
    rwa [List.length_map, List.length_map] at lengths
  · intro i x y first second
    have atIndex := congrArg (·[i]?) elements
    simp only [List.getElem?_map, first, second, Option.map_some, Option.some.injEq] at atIndex
    exact each x (List.mem_of_getElem? first) y (List.mem_of_getElem? second) atIndex

theorem object_of_sortKeys {fields fields' : List (JsString × JsValue)}
    (unique' : (fields'.map (·.1)).Nodup)
    (each : ∀ f ∈ fields, ∀ g ∈ fields', sortKeys f.2 = sortKeys g.2 → SameJson f.2 g.2)
    (sorted : sortKeys (.object true fields false) = sortKeys (.object true fields' false)) :
    SameJson (.object true fields false) (.object true fields' false) := by
  rw [sortKeys, sortKeys] at sorted
  have lists : (sortProperties fields).insertionSort keyLe =
      (sortProperties fields').insertionSort keyLe := by
    injection sorted
  have perm : (sortProperties fields).Perm (sortProperties fields') :=
    (List.perm_insertionSort keyLe _).symm.trans
      (lists ▸ List.perm_insertionSort keyLe (sortProperties fields'))
  apply SameJson.object
  · intro key
    rw [← keys_sortProperties fields, ← keys_sortProperties fields', (perm.map (·.1)).mem_iff]
  · intro key x y first second
    have moved : (key, sortKeys x) ∈ sortProperties fields' := by
      rw [← perm.mem_iff, sortProperties_eq]
      exact List.mem_map_of_mem (f := fun f => (f.1, sortKeys f.2)) first
    rw [sortProperties_eq] at moved
    obtain ⟨g, isField, same⟩ := List.mem_map.mp moved
    obtain ⟨sameKey, sameValue⟩ := Prod.mk.inj same
    have value := List.inj_on_of_nodup_map unique' isField second sameKey
    subst value
    exact each (key, x) first (key, y) second sameValue.symm

/-- Values whose sorted forms are one value are equal up to the order of keys. -/
theorem same_of_sortKeys {N : NumberTexts} {v w : JsValue} (json : IsJson v) (json' : IsJson w)
    (proper : Proper N v) (proper' : Proper N w) (sorted : sortKeys v = sortKeys w) :
    SameJson v w := by
  induction v using value_induction generalizing w with
  | undefined => exact json.here.elim
  | other => exact json.here.elim
  | hole => exact json.here.elim
  | null =>
    cases w with
    | null => exact .null
    | number n => cases n <;> cases sorted
    | _ => cases sorted
  | boolean b =>
    cases w with
    | boolean c =>
      cases sorted
      exact .boolean b
    | number n => cases n <;> cases sorted
    | _ => cases sorted
  | string s =>
    cases w with
    | string t =>
      cases sorted
      exact .string s
    | number n => cases n <;> cases sorted
    | _ => cases sorted
  | number n =>
    cases w with
    | number m => exact number_of_sortKeys json json' sorted
    | _ => cases n <;> cases sorted
  | array xs unlisted ih =>
    have here : unlisted = false := json.here
    subst here
    cases w with
    | array ys unlisted' =>
      have here' : unlisted' = false := json'.here
      subst here'
      apply array_of_sortKeys _ sorted
      intro x member y member' same
      exact ih x member (json.element member) (json'.element member') (proper.element member)
        (proper'.element member') same
    | number n => cases n <;> cases sorted
    | _ => cases sorted
  | object plain fields unlisted ih =>
    obtain ⟨rfl, rfl⟩ : plain = true ∧ unlisted = false := json.here
    cases w with
    | object plain' fields' unlisted' =>
      obtain ⟨rfl, rfl⟩ : plain' = true ∧ unlisted' = false := json'.here
      apply object_of_sortKeys proper'.here _ sorted
      intro f member g member' same
      exact ih f member (json.value member) (json'.value member') (proper.value member)
        (proper'.value member') same
    | number n => cases n <;> cases sorted
    | _ => cases sorted

/-! ## One text for one value -/

/-- What a text tells exactly is JSON. -/
theorem json_of_legible {N : NumberTexts} {v : JsValue} (legible : Legible N v) :
    IsJson v ∧ Proper N v := by
  induction v using value_induction with
  | undefined => exact legible.elim
  | other => exact legible.elim
  | hole => exact legible.elim
  | null => exact ⟨.leaf trivial rfl, .leaf trivial rfl⟩
  | boolean b => exact ⟨.leaf trivial rfl, .leaf trivial rfl⟩
  | string s => exact ⟨.leaf trivial rfl, .leaf trivial rfl⟩
  | number n =>
    cases n with
    | finite q => exact ⟨.leaf trivial rfl, .leaf legible rfl⟩
    | negativeZero => exact legible.elim
    | infinite negative => exact legible.elim
    | nan => exact legible.elim
  | array xs unlisted ih =>
    obtain ⟨whole, elements⟩ := legible
    have inside : ∀ x ∈ xs, IsJson x ∧ Proper N x := by
      clear whole
      induction xs with
      | nil =>
        intro x none
        cases none
      | cons x xs more =>
        intro y member
        rcases List.mem_cons.mp member with rfl | later
        · exact ih y List.mem_cons_self elements.1
        · exact more (fun z member => ih z (List.mem_cons_of_mem _ member)) elements.2 y later
    exact ⟨.node whole fun x member => (inside x member).1,
      .node trivial fun x member => (inside x member).2⟩
  | object plain fields unlisted ih =>
    obtain ⟨whole, unique, properties⟩ := legible
    have inside : ∀ f ∈ fields, IsJson f.2 ∧ Proper N f.2 := by
      clear unique
      induction fields with
      | nil =>
        intro f none
        cases none
      | cons f fields more =>
        intro g member
        rcases List.mem_cons.mp member with rfl | later
        · exact ih g List.mem_cons_self properties.1
        · exact more (fun h member => ih h (List.mem_cons_of_mem _ member)) properties.2 g later
    constructor
    · refine .node whole fun x member => ?_
      obtain ⟨f, isField, rfl⟩ := List.mem_map.mp member
      exact (inside f isField).1
    · refine .node unique fun x member => ?_
      obtain ⟨f, isField, rfl⟩ := List.mem_map.mp member
      exact (inside f isField).2

/-- The text of a JSON value, and the value that it is read as. -/
theorem canonicalJson_json {N : NumberTexts} {v : JsValue} (json : IsJson v)
    (proper : Proper N v) : canonicalJson N v = .ok (write N (sortKeys v)) ∧
      parse N (write N (sortKeys v)) = some (sortKeys v) :=
  ⟨canonicalJson_supported N (isJson_iff.mp json).1, parse_write (legible_sortKeys json proper)⟩

/-- Two JSON values have one text just when they are equal up to the order of their keys. -/
theorem canonicalJson_eq_iff {N : NumberTexts} {v w : JsValue} (json : IsJson v)
    (json' : IsJson w) (proper : Proper N v) (proper' : Proper N w) :
    canonicalJson N v = canonicalJson N w ↔ SameJson v w := by
  obtain ⟨text, read⟩ := canonicalJson_json json proper
  obtain ⟨text', read'⟩ := canonicalJson_json json' proper'
  constructor
  · intro same
    rw [text, text'] at same
    have texts := Except.ok.inj same
    rw [texts, read'] at read
    exact same_of_sortKeys json json' proper proper' (Option.some.inj read).symm
  · intro same
    rw [text, text', sortKeys_congr same proper proper']

/-- The value with sorted keys has the text of the value itself. -/
theorem canonicalJson_sortKeys {N : NumberTexts} {v : JsValue} (json : IsJson v)
    (proper : Proper N v) : canonicalJson N (sortKeys v) = canonicalJson N v := by
  obtain ⟨json', proper'⟩ := json_of_legible (legible_sortKeys json proper)
  symm
  rw [canonicalJson_eq_iff json json' proper proper']
  exact sameJson_sortKeys json proper

end jsvalues
