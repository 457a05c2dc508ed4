import Cloudless.Foundations.GoStd

namespace Cloudless.Foundations.Base64

open GoStd

def alphabet : List Char := "ABCDEFGHIJKLMNOPQRSTUVWXYZabcdefghijklmnopqrstuvwxyz0123456789+/".toList

def letter (n : ℕ) : Char := alphabet.getD n 'A'

def digit (c : Char) : Option ℕ := alphabet.findIdx? (· = c)

def encode : Bytes → List Char
  | [] => []
  | [x] => [letter (x.toNat / 4), letter (x.toNat % 4 * 16), '=', '=']
  | [x, y] => [letter (x.toNat / 4), letter (x.toNat % 4 * 16 + y.toNat / 16), letter (y.toNat % 16 * 4), '=']
  | x :: y :: z :: rest =>
    letter (x.toNat / 4) :: letter (x.toNat % 4 * 16 + y.toNat / 16) :: letter (y.toNat % 16 * 4 + z.toNat / 64) ::
      letter (z.toNat % 64) :: encode rest

def decodeQuanta : List Char → Option Bytes
  | [] => some []
  | p :: q :: r :: s :: rest =>
    match digit p, digit q, digit r, digit s with
    | some a, some b, some c, some d =>
      (decodeQuanta rest).map fun bytes =>
        UInt8.ofNat (4 * a + b / 16) :: UInt8.ofNat (b % 16 * 16 + c / 4) :: UInt8.ofNat (c % 4 * 64 + d) :: bytes
    | some a, some b, some c, none =>
      if s = '=' ∧ rest.isEmpty then some [UInt8.ofNat (4 * a + b / 16), UInt8.ofNat (b % 16 * 16 + c / 4)] else none
    | some a, some b, none, none =>
      if r = '=' ∧ s = '=' ∧ rest.isEmpty then some [UInt8.ofNat (4 * a + b / 16)] else none
    | _, _, _, _ => none
  | _ => none

def decode (text : List Char) : Option Bytes := decodeQuanta (text.filter fun c => c ≠ '\n' ∧ c ≠ '\r')

lemma digit_letter {n : ℕ} (h : n < 64) : digit (letter n) = some n := by
  have ha : ∀ n < 64, digit (letter n) = some n := by decide +kernel
  exact ha n h

lemma digit_pad : digit '=' = none := by decide +kernel

lemma decodeQuanta_encode {bytes : Bytes} : decodeQuanta (encode bytes) = some bytes := by
  fun_induction encode bytes with
  | case1 => rfl
  | case2 x =>
    have hx := x.toNat_lt
    rw [decodeQuanta, digit_letter (by omega), digit_letter (by omega), digit_pad]
    simp only [and_self, List.isEmpty_nil, if_true]
    rw [show 4 * (x.toNat / 4) + x.toNat % 4 * 16 / 16 = x.toNat by omega, UInt8.ofNat_toNat]
  | case3 x y =>
    have hx := x.toNat_lt
    have hy := y.toNat_lt
    rw [decodeQuanta, digit_letter (by omega), digit_letter (by omega), digit_letter (by omega), digit_pad]
    simp only [and_self, List.isEmpty_nil, if_true]
    rw [show 4 * (x.toNat / 4) + (x.toNat % 4 * 16 + y.toNat / 16) / 16 = x.toNat by omega,
      show (x.toNat % 4 * 16 + y.toNat / 16) % 16 * 16 + y.toNat % 16 * 4 / 4 = y.toNat by omega,
      UInt8.ofNat_toNat, UInt8.ofNat_toNat]
  | case4 x y z rest ih =>
    have hx := x.toNat_lt
    have hy := y.toNat_lt
    have hz := z.toNat_lt
    rw [decodeQuanta, digit_letter (by omega), digit_letter (by omega), digit_letter (by omega),
      digit_letter (by omega), ih]
    simp only [Option.map_some]
    rw [show 4 * (x.toNat / 4) + (x.toNat % 4 * 16 + y.toNat / 16) / 16 = x.toNat by omega,
      show (x.toNat % 4 * 16 + y.toNat / 16) % 16 * 16 + (y.toNat % 16 * 4 + z.toNat / 64) / 4 = y.toNat by omega,
      show (y.toNat % 16 * 4 + z.toNat / 64) % 4 * 64 + z.toNat % 64 = z.toNat by omega,
      UInt8.ofNat_toNat, UInt8.ofNat_toNat, UInt8.ofNat_toNat]

lemma letter_mem {n : ℕ} : letter n ∈ alphabet := by
  rw [letter, List.getD_eq_getElem?_getD]
  cases h : alphabet[n]? with
  | none => decide
  | some c => exact List.mem_of_getElem? h

lemma mem_encode {bs : Bytes} {c : Char} (h : c ∈ encode bs) : c ∈ '=' :: alphabet := by
  have hl : ∀ {n}, c = letter n → c ∈ '=' :: alphabet := by
    rintro n rfl
    exact List.mem_cons_of_mem _ letter_mem
  fun_induction encode bs with
  | case1 => cases h
  | case2 x =>
    simp only [List.mem_cons, List.not_mem_nil, or_false] at h
    rcases h with h | h | rfl | rfl
    · exact hl h
    · exact hl h
    · exact List.mem_cons_self ..
    · exact List.mem_cons_self ..
  | case3 x y =>
    simp only [List.mem_cons, List.not_mem_nil, or_false] at h
    rcases h with h | h | h | rfl
    · exact hl h
    · exact hl h
    · exact hl h
    · exact List.mem_cons_self ..
  | case4 x y z r ih =>
    simp only [List.mem_cons] at h
    rcases h with h | h | h | h | h
    · exact hl h
    · exact hl h
    · exact hl h
    · exact hl h
    · exact ih h

lemma decode_encode (bytes : Bytes) : decode (encode bytes) = some bytes := by
  have hk : (encode bytes).filter (fun c => c ≠ '\n' ∧ c ≠ '\r') = encode bytes := by
    rw [List.filter_eq_self]
    intro c hc
    have ha : ('=' :: alphabet).all (fun c => c ≠ '\n' ∧ c ≠ '\r') = true := by decide +kernel
    exact List.all_eq_true.mp ha c (mem_encode hc)
  rw [decode, hk, decodeQuanta_encode]

end Cloudless.Foundations.Base64
