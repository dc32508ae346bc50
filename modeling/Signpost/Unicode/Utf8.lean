/-!
# Text in bytes

Bytes read as UTF-8, in such a way that a byte which is part of no character stays visible.

Main fact: `characters_toUTF8`, the bytes of a text read as the text.
-/

namespace Signpost.Unicode.Utf8

/-- The six low bits of a byte that goes on with a character. -/
def continuation? (b : UInt8) : Option Nat :=
  if 0x80 ≤ b.toNat ∧ b.toNat < 0xC0 then some (b.toNat - 0x80) else none

/-- Adds the bits of `count` further bytes to those of a character. -/
def gather (value : Nat) : (count : Nat) → List UInt8 → Option Nat
  | 0, _ => some value
  | _ + 1, [] => none
  | n + 1, b :: bs => do gather (64 * value + (← continuation? b)) n bs

/-- The character whose first byte is `b`, and the number of its further bytes. It must have its
shortest form. -/
def character? (b : UInt8) (bs : List UInt8) : Option (Char × Nat) := do
  let n := b.toNat
  let (first, count, least) ←
    if n < 0x80 then some (n, 0, 0)
    else if n < 0xC0 then none
    else if n < 0xE0 then some (n - 0xC0, 1, 0x80)
    else if n < 0xF0 then some (n - 0xE0, 2, 0x800)
    else if n < 0xF8 then some (n - 0xF0, 3, 0x10000)
    else none
  let value ← gather first count bs
  if h : least ≤ value ∧ value.isValidChar then some (Char.ofNatAux value h.2, count) else none

/-- The characters of some bytes but for the next `skip`, which have been read already. A byte that
is part of no character reads as `none`. -/
def scan : (skip : Nat) → List UInt8 → List (Option Char)
  | _, [] => []
  | k + 1, _ :: bs => scan k bs
  | 0, b :: bs =>
    match character? b bs with
    | some (c, count) => some c :: scan count bs
    | none => none :: scan 0 bs

/-- The characters of some bytes. Bytes that are text as a whole are read at once. -/
def characters (bytes : ByteArray) : List (Option Char) :=
  match String.fromUTF8? bytes with
  | some s => s.toList.map some
  | none => scan 0 bytes.toList

theorem characters_toUTF8 (s : String) : characters s.toUTF8 = s.toList.map some := by
  have : String.fromUTF8? s.toUTF8 = some s := dif_pos s.isValidUTF8
  rw [characters, this]

end Signpost.Unicode.Utf8
