import SiteWeave.Text.Search

/-!
# Bytes and texts

Names and contents of files are bytes; they are texts where the bytes are valid UTF-8. To show other
bytes, every longest part that begins a character but does not finish it, and every byte that begins
none, is replaced by U+FFFD.

## Main definitions

* `Bytes`: a sequence of bytes.
* `Bytes.ofString`, `Bytes.toString?`: the bytes of a text, and the text of valid bytes.
* `Bytes.display`: the text that shows any bytes.
-/

namespace SiteWeave

/-- A sequence of bytes. -/
abbrev Bytes := List UInt8

namespace Bytes

/-- The bytes of a text. -/
def ofString (text : String) : Bytes :=
  text.toUTF8.data.toList

/-- The text of bytes, if they are valid UTF-8. -/
def toString? (bytes : Bytes) : Option String :=
  String.fromUTF8? ⟨bytes.toArray⟩

/-- The bounds of the second byte of a character and the number of bytes behind it, by the first
byte. -/
def secondByte? (first : Nat) : Option (Nat × Nat × Nat) :=
  if 0xC2 ≤ first ∧ first ≤ 0xDF then some (0x80, 0xBF, 0)
  else if first = 0xE0 then some (0xA0, 0xBF, 1)
  else if first = 0xED then some (0x80, 0x9F, 1)
  else if 0xE1 ≤ first ∧ first ≤ 0xEF then some (0x80, 0xBF, 1)
  else if first = 0xF0 then some (0x90, 0xBF, 2)
  else if 0xF1 ≤ first ∧ first ≤ 0xF3 then some (0x80, 0xBF, 2)
  else if first = 0xF4 then some (0x80, 0x8F, 2)
  else none

/-- Whether a byte continues a character. -/
def isContinuation (b : UInt8) : Bool :=
  0x80 ≤ b.toNat && b.toNat ≤ 0xBF

/-- The length of the character, or of the part of one, at the front of bytes, and whether it is
finished. -/
def frontLength : Bytes → Nat × Bool
  | [] => (0, false)
  | b :: rest =>
    if b.toNat < 0x80 then (1, true)
    else
      match secondByte? b.toNat, rest with
      | some (low, high, more), second :: tail =>
        if low ≤ second.toNat ∧ second.toNat ≤ high then
          let count := ((tail.take more).takeWhile isContinuation).length
          (2 + count, count = more)
        else (1, false)
      | _, _ => (1, false)

/-- The text that shows bytes; `fuel` bounds the number of characters. -/
def showFrom : Nat → Bytes → Text
  | _, [] => []
  | 0, _ => []
  | fuel + 1, bytes =>
    let (length, finished) := frontLength bytes
    let shown := match if finished then toString? (bytes.take length) else none with
      | some text => text.toList
      | none => ['\uFFFD']
    shown ++ showFrom fuel (bytes.drop length)

/-- The text that shows bytes. -/
def display (bytes : Bytes) : String :=
  String.ofList (showFrom bytes.length bytes)

end Bytes

end SiteWeave
