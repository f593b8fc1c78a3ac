/-
  Hexadecimal text of byte strings: two digits a byte, high half first.

  `encode` writes lower-case digits, `decode` reads either case and fails on an odd number of digits
  or on any other character.

  1. **Digits** - `digit?` is the value of a digit; it undoes `Nat.digitChar` below 16.
  2. **Byte strings** - `encodeChars` and `decodeChars` go along the list, two characters for each
     byte.
  3. **Round trip** - `decode_encode`, and with it two byte strings with the same text are equal
     (`encode_injective`).  The other way round there is none, since both cases of a letter are
     accepted; the empty text is the only one for no bytes (`decode_eq_some_nil`).
-/
import Mathlib.Tactic.Common

namespace Hex

/-- The value of a hexadecimal digit, in either case. -/
def digit? (c : Char) : Option Nat :=
  if '0' ≤ c ∧ c ≤ '9' then some (c.toNat - 48)
  else if 'a' ≤ c ∧ c ≤ 'f' then some (c.toNat - 87)
  else if 'A' ≤ c ∧ c ≤ 'F' then some (c.toNat - 55)
  else none

theorem digit?_digitChar : ∀ n, n < 16 → digit? (Nat.digitChar n) = some n := by decide

/-- The two digits of a byte. -/
def ofByte (b : UInt8) : List Char := [Nat.digitChar (b.toNat / 16), Nat.digitChar (b.toNat % 16)]

/-- Two digits a byte. -/
def encodeChars : List UInt8 → List Char
  | [] => []
  | b :: bs => ofByte b ++ encodeChars bs

/-- Two digits are one byte; an odd one is an error. -/
def decodeChars : List Char → Option (List UInt8)
  | [] => some []
  | [_] => none
  | c :: d :: rest => do
    let hi ← digit? c
    let lo ← digit? d
    let bs ← decodeChars rest
    return UInt8.ofNat (16 * hi + lo) :: bs

/-- The text of a byte string. -/
def encode (bs : List UInt8) : String := String.ofList (encodeChars bs)

/-- The byte string a text denotes, if it denotes one. -/
def decode (s : String) : Option (List UInt8) := decodeChars s.toList

theorem decodeChars_encodeChars (bs : List UInt8) : decodeChars (encodeChars bs) = some bs := by
  induction bs with
  | nil => rfl
  | cons b bs ih =>
    have hb : b.toNat < 256 := b.toNat_lt
    have hsum : 16 * (b.toNat / 16) + b.toNat % 16 = b.toNat := by omega
    show decodeChars (Nat.digitChar (b.toNat / 16) :: Nat.digitChar (b.toNat % 16)
      :: encodeChars bs) = _
    rw [decodeChars, digit?_digitChar _ (by omega), digit?_digitChar _ (by omega), ih]
    show some (UInt8.ofNat (16 * (b.toNat / 16) + b.toNat % 16) :: bs) = some (b :: bs)
    rw [hsum, UInt8.ofNat_toNat]

/-- **Round trip.** -/
theorem decode_encode (bs : List UInt8) : decode (encode bs) = some bs := by
  rw [decode, encode, String.toList_ofList, decodeChars_encodeChars]

/-- Only the empty text denotes no bytes. -/
theorem decode_eq_some_nil {s : String} : decode s = some [] ↔ s = "" := by
  constructor
  · intro h
    cases hs : s.toList with
    | nil => exact String.toList_inj.mp hs
    | cons c cs =>
      cases cs with
      | nil =>
        rw [decode, hs] at h
        exact absurd h (by simp [decodeChars])
      | cons d rest =>
        -- two digits are a byte, and a byte is not nothing
        rw [decode, hs, decodeChars] at h
        simp [Option.bind_eq_some_iff] at h
  · rintro rfl
    rfl

/-- Distinct bytes have distinct texts. -/
theorem encode_injective {as bs : List UInt8} (h : encode as = encode bs) : as = bs := by
  have ha := decode_encode as
  rw [h, decode_encode] at ha
  exact (Option.some.inj ha).symm

end Hex
