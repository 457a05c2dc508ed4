import Cloudless.Foundations.GoStd

namespace Cloudless.Foundations.UTF8

open GoStd

def utf8 (text : List Char) : Bytes := text.flatMap String.utf8EncodeChar

/-- The runes of a string after some bytes of it, and `none` for each byte that starts no valid sequence. -/
def runesFrom : ℕ → Bytes → List (Option Char)
  | _, [] => []
  | k + 1, _ :: rest => runesFrom k rest
  | 0, b :: rest =>
    match (b :: rest).toByteArray.utf8DecodeChar? 0 with
    | some c => some c :: runesFrom (c.utf8Size - 1) rest
    | none => none :: runesFrom 0 rest

def runes (bytes : Bytes) : List (Option Char) := runesFrom 0 bytes

def coerce (runes : List (Option Char)) : List Char := runes.map fun r => r.getD '�'

lemma utf8_cons {c : Char} {text : List Char} : utf8 (c :: text) = String.utf8EncodeChar c ++ utf8 text := rfl

lemma runesFrom_length {s rest : Bytes} : runesFrom s.length (s ++ rest) = runesFrom 0 rest := by
  induction s with
  | nil => rfl
  | cons b s ih => exact ih

lemma runes_append {c : Char} {rest : Bytes} : runes (String.utf8EncodeChar c ++ rest) = some c :: runes rest := by
  have hde : (String.utf8EncodeChar c ++ rest).toByteArray.utf8DecodeChar? 0 = some c := by
    rw [List.toByteArray_append]
    exact ByteArray.utf8DecodeChar?_utf8EncodeChar_append
  have hl := String.length_utf8EncodeChar c
  cases he : String.utf8EncodeChar c with
  | nil =>
    have hpos := c.utf8Size_pos
    rw [he, List.length_nil] at hl
    omega
  | cons b more =>
    rw [he, List.cons_append] at hde
    rw [he, List.length_cons] at hl
    rw [runes, List.cons_append, runesFrom, hde]
    simp only
    rw [← hl, Nat.add_sub_cancel, runesFrom_length, runes]

@[simp] lemma runes_utf8 (text : List Char) : runes (utf8 text) = text.map some := by
  induction text with
  | nil => rfl
  | cons c text ih => rw [utf8_cons, runes_append, ih, List.map_cons]

@[simp] lemma coerce_map_some (text : List Char) : coerce (text.map some) = text := by
  rw [coerce, List.map_map]
  exact List.map_id' text

lemma runes_eq_nil_iff {bs : Bytes} : runes bs = [] ↔ bs = [] := by
  constructor
  · intro h
    cases bs with
    | nil => rfl
    | cons b r =>
      rw [runes, runesFrom] at h
      split at h <;> cases h
  · rintro rfl
    rfl

end Cloudless.Foundations.UTF8
