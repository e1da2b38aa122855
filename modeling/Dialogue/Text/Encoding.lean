import Dialogue.Text.CodeUnits
import Dialogue.Text.Quoted

/-!
# Texts as bytes

* `Encoding`: units of 8, 16 or 32 bits, the wider ones in either order of bytes;
* `Encoding.detect`: the encoding of a JSON text, told by a byte order mark, or else by the
  zero bytes among the first four: the first characters of such a text are ASCII;
* `decode`: the text of a list of bytes, or the first fault with its place.

Surrogates that are encoded as characters of their own are let through.
-/

namespace Dialogue.Text

/-- How characters are written as bytes. -/
inductive Encoding
  | utf8
  | utf16 (bigEndian : Bool)
  | utf32 (bigEndian : Bool)
  deriving DecidableEq

/-- The name of an encoding. -/
def Encoding.name : Encoding → String
  | .utf8 => "utf-8"
  | .utf16 bigEndian => if bigEndian then "utf-16-be" else "utf-16-le"
  | .utf32 bigEndian => if bigEndian then "utf-32-be" else "utf-32-le"

/-- Why bytes are no text. -/
inductive DecodeFault
  | startByte
  | continuationByte
  | endOfData
  | truncated
  | codePoint
  deriving DecidableEq

/-- The words for a fault. -/
def DecodeFault.text : DecodeFault → String
  | .startByte => "invalid start byte"
  | .continuationByte => "invalid continuation byte"
  | .endOfData => "unexpected end of data"
  | .truncated => "truncated data"
  | .codePoint => "code point not in range(0x110000)"

/-- A fault of the bytes from place `first` to place `last`; `byte` is the first of them. -/
structure DecodeError where
  encoding : Encoding
  fault : DecodeFault
  first : Nat
  last : Nat
  byte : Nat
  deriving DecidableEq

/-- The words for an error: a single byte is shown, of several only the places. -/
def DecodeError.message (e : DecodeError) : String :=
  let what :=
    if e.first = e.last then
      "byte 0x" ++ String.ofList (hexDigits 2 e.byte) ++ " in position " ++ toString e.first
    else "bytes in position " ++ toString e.first ++ "-" ++ toString e.last
  quoted e.encoding.name ++ " codec can't decode " ++ what ++ ": " ++ e.fault.text

/-! ### Units of 8 bits -/

/-- What the first byte of a character of several bytes asks for: the number of further
bytes, the least and the greatest second byte, and the bits it contributes. -/
structure Lead where
  count : Nat
  least : Nat
  greatest : Nat
  bits : Nat

/-- The first bytes of characters of several bytes. -/
def lead (b : Nat) : Option Lead :=
  if b < 0xC2 then none
  else if b < 0xE0 then some ⟨1, 0x80, 0xBF, b - 0xC0⟩
  else if b = 0xE0 then some ⟨2, 0xA0, 0xBF, 0⟩
  else if b = 0xED then some ⟨2, 0x80, 0x9F, 0xD⟩
  else if b < 0xF0 then some ⟨2, 0x80, 0xBF, b - 0xE0⟩
  else if b = 0xF0 then some ⟨3, 0x90, 0xBF, 0⟩
  else if b < 0xF4 then some ⟨3, 0x80, 0xBF, b - 0xF0⟩
  else if b = 0xF4 then some ⟨3, 0x80, 0x8F, 4⟩
  else none

/-- Whether a byte continues a character. -/
def isContinuation (b : Nat) : Bool := decide (0x80 ≤ b) && decide (b ≤ 0xBF)

/-- The further bytes of a character, as far as they fit its first byte. -/
def Lead.fitting (l : Lead) : List Nat → List Nat
  | [] => []
  | b :: r =>
    if l.least ≤ b ∧ b ≤ l.greatest then b :: (r.take (l.count - 1)).takeWhile isContinuation
    else []

/-- The surrogate that the bytes after `ED` make of it. -/
def surrogateTail? : List Nat → Option Nat
  | b :: c :: _ =>
    if 0xA0 ≤ b ∧ isContinuation b ∧ isContinuation c then
      some (0xD000 + (b - 0x80) * 64 + (c - 0x80))
    else none
  | _ => none

/-- The surrogate at the front of some bytes. -/
def surrogate? (b : Nat) (r : List Nat) : Option Nat := if b = 0xED then surrogateTail? r else none

/-- The text of bytes from `place` on, of which the first `skip` belong to the character
before. -/
def decodeUtf8 : (skip place : Nat) → List Nat → Except DecodeError (List Char)
  | _, _, [] => .ok []
  | skip + 1, place, _ :: r => decodeUtf8 skip (place + 1) r
  | 0, place, b :: r =>
    if b < 0x80 then (Char.ofNat b :: ·) <$> decodeUtf8 0 (place + 1) r
    else
      match surrogate? b r, lead b with
      | some n, _ => (unitChars n ++ ·) <$> decodeUtf8 2 (place + 1) r
      | none, none => .error ⟨.utf8, .startByte, place, place, b⟩
      | none, some l =>
        let tail := l.fitting r
        if tail.length = l.count then
          let n := tail.foldl (fun n c => n * 64 + (c - 0x80)) l.bits
          (Char.ofNat n :: ·) <$> decodeUtf8 l.count (place + 1) r
        else
          let fault := if tail.length = r.length then .endOfData else .continuationByte
          .error ⟨.utf8, fault, place, place + tail.length, b⟩

/-! ### Units of 16 and 32 bits -/

/-- A number from its bytes. -/
def fromBytes (bigEndian : Bool) (bytes : List Nat) : Nat :=
  (if bigEndian then bytes else bytes.reverse).foldl (fun n b => n * 256 + b) 0

/-- The units of 16 bits from `place` on. -/
def units16 (bigEndian : Bool) : (place : Nat) → List Nat → Except DecodeError (List Nat)
  | _, [] => .ok []
  | place, [b] => .error ⟨.utf16 bigEndian, .truncated, place, place, b⟩
  | place, a :: b :: r => (fromBytes bigEndian [a, b] :: ·) <$> units16 bigEndian (place + 2) r

/-- The code points of 32 bits from `place` on. -/
def units32 (bigEndian : Bool) : (place : Nat) → List Nat → Except DecodeError (List Nat)
  | _, [] => .ok []
  | place, a :: b :: c :: d :: r =>
    let n := fromBytes bigEndian [a, b, c, d]
    if n < 0x110000 then (n :: ·) <$> units32 bigEndian (place + 4) r
    else .error ⟨.utf32 bigEndian, .codePoint, place, place + 3, a⟩
  | place, a :: r => .error ⟨.utf32 bigEndian, .truncated, place, place + r.length, a⟩

/-! ### Detection -/

/-- The encoding of the bytes of a JSON text, and the length of its byte order mark. -/
def Encoding.detect : List Nat → Encoding × Nat
  | 0 :: 0 :: 0xFE :: 0xFF :: _ => (.utf32 true, 4)
  | 0xFF :: 0xFE :: 0 :: 0 :: _ => (.utf32 false, 4)
  | 0xFE :: 0xFF :: _ => (.utf16 true, 2)
  | 0xFF :: 0xFE :: _ => (.utf16 false, 2)
  | 0xEF :: 0xBB :: 0xBF :: _ => (.utf8, 3)
  | a :: b :: c :: d :: _ =>
    if a = 0 then (if b = 0 then .utf32 true else .utf16 true, 0)
    else if b = 0 then (if c = 0 ∧ d = 0 then .utf32 false else .utf16 false, 0)
    else (.utf8, 0)
  | [a, b] => (if a = 0 then .utf16 true else if b = 0 then .utf16 false else .utf8, 0)
  | _ => (.utf8, 0)

/-- The text of a list of bytes. The places of faults count from the first byte, of 8-bit
units from the first after the byte order mark. -/
def decode (bytes : List UInt8) : Except DecodeError (List Char) :=
  let bytes := bytes.map (·.toNat)
  match Encoding.detect bytes with
  | (.utf8, mark) => decodeUtf8 0 0 (bytes.drop mark)
  | (.utf16 bigEndian, mark) => joinUnits <$> units16 bigEndian mark (bytes.drop mark)
  | (.utf32 bigEndian, mark) => List.flatMap unitChars <$> units32 bigEndian mark (bytes.drop mark)

end Dialogue.Text
