import Mathlib.Tactic

/-! The parts of Go's standard library that the models rest on: machine integers, instants,
byte strings, string prefixes, and serializers whose output can be read back. -/

namespace Cloudless.Foundations.GoStd

abbrev Bytes := List UInt8

/-- Two's complement wrap-around of `int64` arithmetic. -/
def int64 (x : ℤ) : ℤ := x.bmod (2 ^ 64)

def uint64 (x : ℕ) : ℕ := x % 2 ^ 64

def FitsInt64 (x : ℤ) : Prop := -2 ^ 63 ≤ x ∧ x < 2 ^ 63

instance (x : ℤ) : Decidable (FitsInt64 x) := inferInstanceAs (Decidable (_ ∧ _))

lemma int64_of_fits {x : ℤ} (h : FitsInt64 x) : int64 x = x := by
  obtain ⟨hl, hu⟩ := h
  apply Int.bmod_eq_of_le <;> norm_num <;> omega

variable {a : Int64} (p s : String) {b : Int64}

lemma toInt_sub_of_fits (h : FitsInt64 (a.toInt - b.toInt)) : (a - b).toInt = a.toInt - b.toInt := by
  rw [Int64.toInt_sub]
  exact int64_of_fits h

lemma toInt_add_of_fits (h : FitsInt64 (a.toInt + b.toInt)) : (a + b).toInt = a.toInt + b.toInt := by
  rw [Int64.toInt_add]
  exact int64_of_fits h

lemma toInt_div_of_nonneg (ha : 0 ≤ a.toInt) (hb : 0 < b.toInt) : (a / b).toInt = a.toInt / b.toInt := by
  have hne : b ≠ -1 := by
    rintro rfl
    simp at hb
  rw [Int64.toInt_div_of_ne_right a b hne, Int.tdiv_eq_ediv_of_nonneg ha]

lemma toInt_sub_le (h : -2 ^ 63 ≤ a.toInt - b.toInt) : (a - b).toInt ≤ a.toInt - b.toInt := by
  have ha := a.toInt_lt
  have hb := b.le_toInt
  have hl := (a - b).toInt_lt
  by_cases hf : a.toInt - b.toInt < 2 ^ 63
  · exact (toInt_sub_of_fits ⟨h, hf⟩).le
  · omega

/-- Nanoseconds since January 1 of year 1, the zero value of `time.Time`. -/
abbrev Time := ℤ

def unixToInternal : ℤ := 62135596800

/-- `time.Unix(sec, 0)`; the seconds are rebased in `int64`, so a huge argument wraps around. -/
def unix (sec : ℤ) : Time := int64 (sec + unixToInternal) * 1000000000

def unixNano (t : Time) : ℤ := int64 (t - unixToInternal * 1000000000)

def unixSeconds (t : Time) : ℤ := t / 1000000000 - unixToInternal

def wholeSeconds (t : Time) : Time := t / 1000000000 * 1000000000

lemma lt_wholeSeconds_add (t : Time) : t < wholeSeconds t + 1000000000 := by
  have h := Int.lt_ediv_add_one_mul_self t (show (0 : ℤ) < 1000000000 by decide)
  rwa [add_mul, one_mul] at h

def hasPrefix (s p : String) : Bool := p.toList.isPrefixOf s.toList

def trimPrefix (s p : String) : String :=
  if hasPrefix s p then String.ofList (s.toList.drop p.toList.length) else s

@[simp] lemma hasPrefix_append : hasPrefix (p ++ s) p = true := by
  simp [hasPrefix, String.toList_append]

@[simp] lemma trimPrefix_append : trimPrefix (p ++ s) p = s := by
  simp [trimPrefix, String.toList_append]

lemma eq_append_of_hasPrefix {s p : String} (h : hasPrefix s p = true) : s = p ++ trimPrefix s p := by
  obtain ⟨t, ht⟩ := List.isPrefixOf_iff_prefix.mp h
  have hs : s = p ++ String.ofList t := by
    apply String.toList_injective
    rw [String.toList_append, String.toList_ofList, ht]
  rw [hs, trimPrefix_append]

lemma append_right_injective : Function.Injective (p ++ ·) := by
  intro a b h
  have hh := congrArg (fun s => trimPrefix s p) h
  simpa using hh

def splitN2 (s : String) (sep : Char) : List String :=
  if sep ∈ s.toList then
    [String.ofList (s.toList.takeWhile (· ≠ sep)), String.ofList (s.toList.dropWhile (· ≠ sep)).tail]
  else [s]

lemma length_splitN2 (sep : Char) : (splitN2 s sep).length = 2 ↔ sep ∈ s.toList := by
  rw [splitN2]
  split_ifs with h <;> simp [h]

def stringOfRune (r : Int32) : String :=
  if 0 ≤ r ∧ r.toInt.toNat.isValidChar then String.singleton (Char.ofNat r.toInt.toNat) else "\uFFFD"

def inf : Float := 1.0 / 0.0

def mathMax (x y : Float) : Float :=
  if x == inf || y == inf then inf
  else if x.isNaN || y.isNaN then 0.0 / 0.0
  else if x == 0 && x == y then (if 1.0 / x < 0 then y else x)
  else if x > y then x else y

def mathMin (x y : Float) : Float :=
  if x == -inf || y == -inf then -inf
  else if x.isNaN || y.isNaN then 0.0 / 0.0
  else if x == 0 && x == y then (if 1.0 / x < 0 then x else y)
  else if x < y then x else y

/-- The choices Go leaves to its runtime: the order of a map iteration, and the unstable `sort.Slice`. -/
structure Runtime where
  rangeOrder : ∀ {α : Type}, List α → List α
  sortSlice : ∀ {α : Type}, (α → α → Bool) → List α → List α
  rangeOrder_perm : ∀ {α : Type} (l : List α), (rangeOrder l).Perm l
  sortSlice_perm : ∀ {α : Type} (less : α → α → Bool) (l : List α), (sortSlice less l).Perm l

def plainRuntime : Runtime where
  rangeOrder l := l
  sortSlice less l := l.insertionSort fun a b => less b a = false
  rangeOrder_perm l := List.Perm.refl l
  sortSlice_perm _ l := List.perm_insertionSort _ l

lemma except_bind_eq_ok {E α β : Type} {x : Except E α} {f : α → Except E β} {b : β} :
    (x >>= f) = .ok b ↔ ∃ a, x = .ok a ∧ f a = .ok b := by
  cases x <;> simp [bind, Except.bind]

lemma except_map_eq_ok {E α β : Type} {x : Except E α} {f : α → β} {b : β} :
    x.map f = .ok b ↔ ∃ a, x = .ok a ∧ f a = b := by
  cases x <;> simp [Except.map]

/-- A partial encoder of `α` into `B`, with a decoder that inverts it on what it produces. -/
structure Codec (α B : Type*) where
  marshal : α → Except String B
  unmarshal : B → Except String α
  unmarshal_marshal : ∀ {a b}, marshal a = .ok b → unmarshal b = .ok a

end Cloudless.Foundations.GoStd
