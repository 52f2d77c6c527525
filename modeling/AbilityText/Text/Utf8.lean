/-
AbilityText.Text.Utf8 — texts as bytes in UTF-8, and the first place where bytes are no text.
-/
import AbilityText.Text.Letter

namespace AbilityText.Utf8

/-- The bytes of a text. -/
def encode (t : Text) : ByteArray := (String.ofList t).toUTF8

/-! ## Faults -/

/-- A place at which bytes are no text: the index where no character stands, and how many bytes
there open none. Where the bytes end inside a character there is no such number. -/
structure Fault where
  index : Nat
  length? : Option Nat
deriving DecidableEq, Repr

/-- The message of a fault. -/
def Fault.message (fault : Fault) : Text :=
  match fault.length? with
  | some length =>
    "invalid utf-8 sequence of " ++ Text.ofNat length ++ " bytes from index " ++
      Text.ofNat fault.index
  | none => "incomplete utf-8 byte sequence from index " ++ Text.ofNat fault.index

/-- The least and the largest value of any byte of a character but the first two. -/
def tail : UInt8 × UInt8 := (0x80, 0xBF)

/-- The bytes behind the first byte of a character, each with its least and its largest value. The
ranges of the second byte leave out spellings that are too long, surrogates, and what lies beyond
the last code point. -/
def tails? (first : UInt8) : Option (List (UInt8 × UInt8)) :=
  if first ≤ 0x7F then some []
  else if 0xC2 ≤ first && first ≤ 0xDF then some [tail]
  else if first = 0xE0 then some [(0xA0, 0xBF), tail]
  else if first = 0xED then some [(0x80, 0x9F), tail]
  else if 0xE1 ≤ first && first ≤ 0xEF then some [tail, tail]
  else if first = 0xF0 then some [(0x90, 0xBF), tail, tail]
  else if 0xF1 ≤ first && first ≤ 0xF3 then some [tail, tail, tail]
  else if first = 0xF4 then some [(0x80, 0x8F), tail, tail]
  else none

/-- The fault of a character that starts at the index, of which the first `read` bytes fit: the next
byte is out of its range, or missing. -/
def faultWithin? (index read : Nat) : List (UInt8 × UInt8) → List UInt8 → Option Fault
  | [], _ => none
  | _ :: _, [] => some ⟨index, none⟩
  | (least, largest) :: tails, byte :: rest =>
    if least ≤ byte && byte ≤ largest then faultWithin? index (read + 1) tails rest
    else some ⟨index, some read⟩

/-- Where reading characters stops, in bytes that start at the index. `taken` counts the bytes that
still belong to the character read last. -/
def faultFrom (index : Nat) : (taken : Nat) → List UInt8 → Fault
  | _, [] => ⟨index, none⟩
  | taken + 1, _ :: rest => faultFrom (index + 1) taken rest
  | 0, byte :: rest =>
    match tails? byte with
    | none => ⟨index, some 1⟩
    | some tails =>
      match faultWithin? index 1 tails rest with
      | some fault => fault
      | none => faultFrom (index + 1) tails.length rest

/-! ## Texts -/

/-- The text of some bytes, or the first place at which they are none. -/
def decode (bytes : ByteArray) : Except Fault Text :=
  match String.fromUTF8? bytes with
  | some t => .ok t.toList
  | none => .error (faultFrom 0 0 bytes.toList)

@[simp] theorem decode_encode (t : Text) : decode (encode t) = .ok t := by
  have valid : String.fromUTF8? (String.ofList t).toUTF8 = some (String.ofList t) :=
    dif_pos (String.ofList t).isValidUTF8
  rw [decode, encode, valid]
  simp

/-- A character that ends too early, behind one of two bytes. -/
example : faultFrom 0 0 [0xC3, 0xA9, 0xE2, 0x82] = ⟨2, none⟩ := by decide

end AbilityText.Utf8
