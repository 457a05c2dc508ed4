import Cloudless.Foundations.GoStd

namespace Cloudless.Foundations.Hex

open GoStd

def hexDigit (n : ℕ) : UInt8 := UInt8.ofNat (if n < 10 then 48 + n else 87 + n)

def digitsOf (b : UInt8) : Bytes := [hexDigit (b.toNat / 16), hexDigit (b.toNat % 16)]

def asciiString (bytes : Bytes) : String := String.ofList (bytes.map fun b => Char.ofNat b.toNat)

def encodeToString (bytes : Bytes) : String := asciiString (bytes.flatMap digitsOf)

def reverseHex (b : UInt8) : Option ℕ :=
  if 48 ≤ b ∧ b ≤ 57 then some (b.toNat - 48)
  else if 97 ≤ b ∧ b ≤ 102 then some (b.toNat - 87)
  else if 65 ≤ b ∧ b ≤ 70 then some (b.toNat - 55)
  else none

def invalidByteError (b : UInt8) : String :=
  let printable := 0x20 ≤ b ∧ b ≤ 0x7e ∨ 0xa1 ≤ b ∧ b ≠ 0xad
  "encoding/hex: invalid byte: U+00" ++ (encodeToString [b]).map Char.toUpper ++
    if printable then " '" ++ String.singleton (Char.ofNat b.toNat) ++ "'" else ""

def decode : Bytes → Except String Bytes
  | [] => .ok []
  | [p] =>
    match reverseHex p with
    | none => .error (invalidByteError p)
    | some _ => .error "encoding/hex: odd length hex string"
  | p :: q :: src =>
    match reverseHex p, reverseHex q with
    | none, _ => .error (invalidByteError p)
    | some _, none => .error (invalidByteError q)
    | some a, some b => (decode src).map (UInt8.ofNat (16 * a + b) :: ·)

def decodeString (s : String) : Except String Bytes := decode s.toByteArray.data.toList

lemma reverseHex_hexDigit {n : ℕ} (h : n < 16) : reverseHex (hexDigit n) = some n := by
  interval_cases n <;> rfl

lemma utf8EncodeChar_hexDigit {n : ℕ} (h : n < 16) :
    String.utf8EncodeChar (Char.ofNat (hexDigit n).toNat) = [hexDigit n] := by
  interval_cases n <;> rfl

lemma bytes_encodeToString {bs : Bytes} : (encodeToString bs).toByteArray.data.toList = bs.flatMap digitsOf := by
  rw [encodeToString, asciiString, String.toByteArray_ofList, List.utf8Encode, List.data_toByteArray]
  induction bs with
  | nil => rfl
  | cons b bs ih =>
    have hl := b.toNat_lt
    rw [List.flatMap_cons, digitsOf, List.map_append, List.flatMap_append, List.toList_toArray] at *
    rw [ih]
    simp [utf8EncodeChar_hexDigit (show b.toNat / 16 < 16 by omega),
      utf8EncodeChar_hexDigit (show b.toNat % 16 < 16 by omega)]

lemma decode_flatMap_digitsOf {bytes : Bytes} : decode (bytes.flatMap digitsOf) = .ok bytes := by
  induction bytes with
  | nil => rfl
  | cons b bytes ih =>
    have hlt := b.toNat_lt
    have hb : UInt8.ofNat (16 * (b.toNat / 16) + b.toNat % 16) = b := by
      rw [Nat.div_add_mod, UInt8.ofNat_toNat]
    rw [List.flatMap_cons, digitsOf, List.cons_append, List.cons_append, List.nil_append, decode,
      reverseHex_hexDigit (by omega), reverseHex_hexDigit (by omega), ih]
    simp only [Except.map, hb]

@[simp] lemma decodeString_encodeToString (bytes : Bytes) : decodeString (encodeToString bytes) = .ok bytes := by
  rw [decodeString, bytes_encodeToString, decode_flatMap_digitsOf]

lemma encodeToString_eq_empty {bytes : Bytes} : encodeToString bytes = "" ↔ bytes = [] := by
  constructor
  · intro h
    have hd := decodeString_encodeToString bytes
    rw [h] at hd
    exact (Except.ok.inj hd).symm
  · rintro rfl
    rfl

end Cloudless.Foundations.Hex
