-- The files of the native media cache (MediaCacheStore.java of the Android player): the names
-- of finished and of temporary files, the arguments that are accepted, and the response that a
-- download accepts. Names and headers are lists of characters.
import Mathlib

namespace screengoblin.mediacache

abbrev Bytes := List UInt8

abbrev Name := List Char

def MAX_ASSET_BYTES : Int := 128 * 1024 * 1024

def MIN_SAFETY_RESERVE_BYTES : Int := 64 * 1024 * 1024

def MAX_DOWNLOAD_DURATION_MS : Int := 10 * 60 * 1000

/-- A `CacheException`, or an exception that the class does not throw itself. -/
inductive Thrown where
  | cache (code message : String)
  | unchecked
  deriving DecidableEq

def invalid (message : String) : Thrown := .cache "INVALID_ARGUMENT" message

/-! ## Names -/

/-- `[0-9a-f]` -/
def isHex (c : Char) : Bool := ('0' ≤ c && c ≤ '9') || ('a' ≤ c && c ≤ 'f')

/-- `[a-z0-9]` -/
def isExtensionChar (c : Char) : Bool := ('a' ≤ c && c ≤ 'z') || ('0' ≤ c && c ≤ '9')

/-- `SHA256.matcher(value).matches()` -/
def isSha256 (value : List Char) : Bool := value.length == 64 && value.all isHex

/-- `FINAL_NAME.matcher(name).matches()` -/
def isFinalName (name : Name) : Bool :=
  isSha256 (name.take 64) &&
    match name.drop 64 with
    | dot :: extension => dot == '.' && !extension.isEmpty && extension.all isExtensionChar
    | [] => false

/-- `name.endsWith(".part")` -/
def isPartial (name : Name) : Bool := ".part".toList.isSuffixOf name

/-- `fileName + "." + uuid + ".part"` -/
def partialName (fileName : Name) (uuid : List Char) : Name :=
  fileName ++ '.' :: (uuid ++ ".part".toList)

/-- `String.hashCode`, for characters of one code unit. -/
def hashCode (name : Name) : BitVec 32 :=
  name.foldl (fun hash c => 31#32 * hash + BitVec.ofNat 32 c.toNat) 0#32

/-- The index of the lock of a file: `(name.hashCode() & 0x7fffffff) % assetLocks.length`. -/
def stripe (name : Name) : Nat := (hashCode name &&& 0x7fffffff#32).toNat % 32

/-- The finished file that a name belongs to. -/
def base (name : Name) : Name :=
  name.take 65 ++ (name.drop 65).takeWhile isExtensionChar

/-! ## Arguments -/

def EXTENSIONS : List (List Char × List Char) :=
  [("image/jpeg".toList, "jpg".toList), ("image/png".toList, "png".toList),
    ("video/mp4".toList, "mp4".toList), ("application/json".toList, "json".toList)]

/-- `toLowerCase(Locale.ROOT)`. No key of `EXTENSIONS` has a letter that the lower case of a
letter outside of ASCII could give. -/
def lowerCase (value : List Char) : List Char := value.map Char.toLower

def extensionFor (mimeType : List Char) : Except Thrown (List Char) :=
  match EXTENSIONS.lookup (lowerCase mimeType) with
  | none => .error (invalid "mimeType is not supported")
  | some extension => .ok extension

/-- `value.trim()`: without the characters up to the blank at both ends. -/
def trim (value : List Char) : List Char :=
  ((value.dropWhile (· ≤ ' ')).reverse.dropWhile (· ≤ ' ')).reverse

/-- `Character.isISOControl` -/
def isISOControl (c : Char) : Bool := c.toNat ≤ 0x1f || (0x7f ≤ c.toNat && c.toNat ≤ 0x9f)

/-- `value.length()`, in code units. -/
def javaLength (value : List Char) : Nat :=
  (value.map fun c => if c.toNat < 0x10000 then 1 else 2).sum

def requireAssetId (assetId : List Char) : Except Thrown Unit :=
  if assetId.isEmpty || javaLength assetId > 256 || assetId != trim assetId ||
      assetId.any isISOControl then
    .error (invalid "assetId is invalid")
  else .ok ()

def sizeInRange (sizeBytes : Int) : Bool := !(sizeBytes < 1 || sizeBytes > MAX_ASSET_BYTES)

/-- An asset whose digest, type and size have been accepted. -/
structure Asset where
  mimeType : List Char
  sha256 : List Char
  sizeBytes : Int
  extension : List Char
  known : extensionFor mimeType = .ok extension
  digest : isSha256 sha256 = true
  size : sizeInRange sizeBytes = true

def Asset.fileName (asset : Asset) : Name := asset.sha256 ++ '.' :: asset.extension

/-- The checks that `forPrefetch` and `validateResolve` share, in their order. -/
def validate (assetId mimeType sha256 : List Char) (sizeBytes : Int) : Except Thrown Asset :=
  match requireAssetId assetId with
  | .error thrown => .error thrown
  | .ok () =>
    match known : extensionFor mimeType with
    | .error thrown => .error thrown
    | .ok extension =>
      if digest : isSha256 sha256 = true then
        if size : sizeInRange sizeBytes = true then
          .ok { mimeType, sha256, sizeBytes, extension, known, digest, size }
        else .error (invalid "sizeBytes is outside the supported range")
      else .error (invalid "checksumSha256 must be lowercase hexadecimal SHA-256")

/-! ## The response of a download -/

structure Response where
  status : Int
  contentEncoding : Option (List Char)
  contentLength : Option (List Char)
  contentType : Option (List Char)

/-- The letter that `equalsIgnoreCase` compares: of the letters outside of ASCII only these four
are equal to one of ASCII. -/
def foldCase (c : Char) : Char :=
  if c = 'ı' || c = 'İ' then 'i' else if c = 'ſ' then 's' else if c = '\u212a' then 'k'
  else c.toLower

def equalsIgnoreCase (value other : List Char) : Bool := value.map foldCase == other.map foldCase

def rejected (message : String) : Thrown := .cache "INTEGRITY_FAILURE" message

def validateContentEncoding : Option (List Char) → Except Thrown Unit
  | none => .ok ()
  | some value =>
    if equalsIgnoreCase value "identity".toList then .ok ()
    else .error (rejected "Media response encoding is not allowed")

/-- `value.matches("^(0|[1-9][0-9]*)$")` -/
def isDecimal (value : List Char) : Bool :=
  value.all Char.isDigit &&
    match value with
    | [] => false
    | first :: rest => first != '0' || rest.isEmpty

/-- `Long.parseLong(value)` of decimal digits -/
def decimal (value : List Char) : Int :=
  value.foldl (fun n c => 10 * n + (c.toNat - '0'.toNat : Nat)) 0

def parseContentLength : Option (List Char) → Except Thrown Int
  | none => .ok (-1)
  | some value =>
    if isDecimal value && decimal value ≤ 9223372036854775807 then .ok (decimal value)
    else .error (rejected "Media response Content-Length is invalid")

/-- The checks of `download` before it reads. -/
def Asset.accepts (asset : Asset) (response : Response) : Except Thrown Unit := do
  if response.status ≠ 200 then
    throw (.cache "DOWNLOAD_REJECTED" s!"Media server returned HTTP {response.status}")
  validateContentEncoding response.contentEncoding
  let contentLength ← parseContentLength response.contentLength
  if contentLength > MAX_ASSET_BYTES || (contentLength ≥ 0 && contentLength ≠ asset.sizeBytes) then
    throw (rejected "Media response size does not match the manifest")
  match response.contentType with
  | none => pure ()
  | some responseMimeType =>
    -- the stored `asset.mimeType` is in lower case
    if !equalsIgnoreCase (trim (responseMimeType.takeWhile (· ≠ ';'))) (lowerCase asset.mimeType)
    then throw (rejected "Media response type does not match the manifest")

/-! ## A temporary file belongs to its finished file -/

theorem Asset.positive (asset : Asset) : 1 ≤ asset.sizeBytes := by
  have size := asset.size
  unfold sizeInRange at size
  simp only [Bool.not_eq_true', Bool.or_eq_false_iff, decide_eq_false_iff_not] at size
  omega

theorem extension_plain {mimeType extension : List Char}
    (known : extensionFor mimeType = .ok extension) : extension.all isExtensionChar = true := by
  unfold extensionFor at known
  split at known
  · cases known
  · rename_i found
    cases known
    obtain ⟨before, after, split, _⟩ := List.lookup_eq_some_iff.mp found
    have member : (lowerCase mimeType, extension) ∈ EXTENSIONS := by simp [split]
    simp only [EXTENSIONS, List.mem_cons, Prod.mk.injEq, List.not_mem_nil, or_false] at member
    rcases member with ⟨_, rfl⟩ | ⟨_, rfl⟩ | ⟨_, rfl⟩ | ⟨_, rfl⟩ <;> rfl

theorem Asset.fileName_split (asset : Asset) (rest : List Char) :
    (asset.fileName ++ rest).take 65 = asset.sha256 ++ ['.'] ∧
      (asset.fileName ++ rest).drop 65 = asset.extension ++ rest := by
  have long : (asset.sha256 ++ ['.']).length = 65 := by
    have digest := asset.digest
    unfold isSha256 at digest
    simp only [Bool.and_eq_true, beq_iff_eq] at digest
    simp [digest.1]
  have split : asset.fileName ++ rest = (asset.sha256 ++ ['.']) ++ (asset.extension ++ rest) := by
    unfold Asset.fileName
    simp
  rw [split]
  exact ⟨List.take_left' long, List.drop_left' long⟩

theorem Asset.base_fileName (asset : Asset) : base asset.fileName = asset.fileName := by
  have split := asset.fileName_split []
  rw [List.append_nil, List.append_nil] at split
  unfold base
  rw [split.1, split.2, List.takeWhile_eq_self_iff.mpr
    (fun c member => List.all_eq_true.mp (extension_plain asset.known) c member)]
  unfold Asset.fileName
  simp

theorem Asset.base_partialName (asset : Asset) (uuid : List Char) :
    base (partialName asset.fileName uuid) = asset.fileName := by
  have split := asset.fileName_split ('.' :: (uuid ++ ".part".toList))
  unfold base partialName
  rw [split.1, split.2, List.takeWhile_append_of_pos
    (fun c member => List.all_eq_true.mp (extension_plain asset.known) c member)]
  rw [List.takeWhile_cons_of_neg (by decide)]
  unfold Asset.fileName
  simp

theorem partialName_ne (fileName : Name) (uuid : List Char) :
    partialName fileName uuid ≠ fileName := by
  intro same
  have length := congrArg List.length same
  unfold partialName at length
  simp at length

end screengoblin.mediacache
