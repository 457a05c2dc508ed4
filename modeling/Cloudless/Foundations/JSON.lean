import Cloudless.Foundations.Base64
import Cloudless.Foundations.UTF8

/-! JSON as Go's `encoding/json` reads and writes it: what each kind of value is written as is read back as that value. -/

namespace Cloudless.Foundations.JSON

open GoStd UTF8

inductive Json
  | null
  | bool (b : Bool)
  | num (literal : List Char)
  | str (s : String)
  | arr (items : List Json)
  | obj (members : List (String × Json))

section Strings

inductive Piece
  | char (c : Char)
  | code (n : ℕ)

def hexValue (c : Char) : Option ℕ :=
  if '0' ≤ c ∧ c ≤ '9' then some (c.toNat - 48)
  else if 'a' ≤ c ∧ c ≤ 'f' then some (c.toNat - 87)
  else if 'A' ≤ c ∧ c ≤ 'F' then some (c.toNat - 55)
  else none

def hexLetter (n : ℕ) : Char := Char.ofNat (if n < 10 then 48 + n else 87 + n)

def unescape (c : Char) : Option Char :=
  if c = '"' ∨ c = '\\' ∨ c = '/' then some c
  else if c = 'b' then some '\x08'
  else if c = 'f' then some '\x0c'
  else if c = 'n' then some '\n'
  else if c = 'r' then some '\r'
  else if c = 't' then some '\t'
  else none

def scanString : List Char → Option (List Piece × List Char)
  | [] => none
  | '"' :: rest => some ([], rest)
  | '\\' :: 'u' :: p :: q :: r :: s :: rest =>
    match hexValue p, hexValue q, hexValue r, hexValue s with
    | some a, some b, some c, some d =>
      (scanString rest).map fun e => (.code (4096 * a + 256 * b + 16 * c + d) :: e.1, e.2)
    | _, _, _, _ => none
  | '\\' :: c :: rest =>
    match unescape c with
    | some c => (scanString rest).map fun e => (.char c :: e.1, e.2)
    | none => none
  | c :: rest =>
    if c.toNat < 0x20 ∨ c = '\\' then none else (scanString rest).map fun e => (.char c :: e.1, e.2)

def isHighSurrogate (n : ℕ) : Bool := decide (0xd800 ≤ n ∧ n < 0xdc00)

def isLowSurrogate (n : ℕ) : Bool := decide (0xdc00 ≤ n ∧ n < 0xe000)

def assemble : List Piece → List Char
  | [] => []
  | .char c :: rest => c :: assemble rest
  | .code n :: .code m :: rest =>
    if isHighSurrogate n ∧ isLowSurrogate m then Char.ofNat (0x10000 + (n - 0xd800) * 0x400 + (m - 0xdc00)) :: assemble rest
    else (if isHighSurrogate n ∨ isLowSurrogate n then '�' else Char.ofNat n) :: assemble (.code m :: rest)
  | .code n :: rest => (if isHighSurrogate n ∨ isLowSurrogate n then '�' else Char.ofNat n) :: assemble rest

def escapeCode (n : ℕ) : List Char :=
  ['\\', 'u', hexLetter (n / 4096 % 16), hexLetter (n / 256 % 16), hexLetter (n / 16 % 16), hexLetter (n % 16)]

def needsCode (c : Char) : Bool :=
  decide (c.toNat < 0x20 ∨ c = '<' ∨ c = '>' ∨ c = '&' ∨ c = Char.ofNat 0x2028 ∨ c = Char.ofNat 0x2029)

def shortEscape (c : Char) : Option Char :=
  if c = '"' ∨ c = '\\' then some c
  else if c = '\x08' then some 'b'
  else if c = '\x0c' then some 'f'
  else if c = '\n' then some 'n'
  else if c = '\r' then some 'r'
  else if c = '\t' then some 't'
  else none

def escape : Option Char → List Char
  | none => escapeCode 0xfffd
  | some c =>
    match shortEscape c with
    | some letter => ['\\', letter]
    | none => if needsCode c then escapeCode c.toNat else [c]

def quoted (runes : List (Option Char)) : List Char := '"' :: (runes.flatMap escape ++ ['"'])

variable {n : ℕ} {c : Char} {rest : List Char}

lemma hexValue_hexLetter (h : n < 16) : hexValue (hexLetter n) = some n := by
  have ha : ∀ n < 16, hexValue (hexLetter n) = some n := by decide
  exact ha n h

lemma scanString_escapeCode (h : n < 0x10000) :
    scanString (escapeCode n ++ rest) = (scanString rest).map fun e => (.code n :: e.1, e.2) := by
  have hn : 4096 * (n / 4096 % 16) + 256 * (n / 256 % 16) + 16 * (n / 16 % 16) + n % 16 = n := by omega
  rw [escapeCode]
  simp only [List.cons_append, List.nil_append]
  rw [scanString, hexValue_hexLetter (by omega), hexValue_hexLetter (by omega), hexValue_hexLetter (by omega),
    hexValue_hexLetter (by omega)]
  simp only [hn]

def pieceOf : Option Char → Piece
  | none => .code 0xfffd
  | some c =>
    match shortEscape c with
    | some _ => .char c
    | none => if needsCode c then .code c.toNat else .char c

lemma of_shortEscape {l : Char} (h : shortEscape c = some l) : unescape l = some c ∧ l ≠ 'u' := by
  rw [shortEscape] at h
  split_ifs at h with hc h1 h2 h3 h4 h5
  · cases h
    rcases hc with rfl | rfl
    · exact ⟨rfl, by decide⟩
    · exact ⟨rfl, by decide⟩
  all_goals
    cases h
    subst c
    exact ⟨rfl, by decide⟩

lemma of_shortEscape_eq_none (h : shortEscape c = none) : c ≠ '"' ∧ c ≠ '\\' := by
  rw [shortEscape] at h
  split_ifs at h with hc
  exact not_or.mp hc

lemma needsCode_lt (h : needsCode c = true) : c.toNat < 0x10000 := by
  rw [needsCode, decide_eq_true_eq] at h
  rcases h with h | rfl | rfl | rfl | rfl | rfl
  · omega
  all_goals decide

lemma scanString_escape {r : Option Char} :
    scanString (escape r ++ rest) = (scanString rest).map fun e => (pieceOf r :: e.1, e.2) := by
  cases r with
  | none => exact scanString_escapeCode (by decide)
  | some c =>
    rw [escape, pieceOf]
    cases hs : shortEscape c with
    | some le =>
      obtain ⟨hl, hu⟩ := of_shortEscape hs
      simp only [List.cons_append, List.nil_append]
      rw [scanString, hl]
      rintro p q r s r' rfl
      exact absurd rfl hu
    | none =>
      obtain ⟨hq, hsl⟩ := of_shortEscape_eq_none hs
      cases hn : needsCode c with
      | true => exact scanString_escapeCode (needsCode_lt hn)
      | false =>
        have hlow : ¬(c.toNat < 0x20 ∨ c = '\\') := by
          rintro (h | h)
          · rw [needsCode, decide_eq_false_iff_not] at hn
            exact hn (.inl h)
          · exact hsl h
        simp only [Bool.false_eq_true, if_false, List.cons_append, List.nil_append]
        rw [scanString, if_neg hlow]
        · exact hq
        · rintro p q r s r' rfl
          exact absurd rfl hsl
        · rintro l r' rfl
          exact absurd rfl hsl

lemma assemble_code (h : ¬(isHighSurrogate n ∨ isLowSurrogate n)) {rest : List Piece} :
    assemble (.code n :: rest) = Char.ofNat n :: assemble rest := by
  cases rest with
  | nil => simp only [assemble, if_neg h]
  | cons p rest =>
    cases p with
    | char c => simp only [assemble, if_neg h]
    | code m => rw [assemble, if_neg fun hp => h (.inl hp.1), if_neg h]

lemma not_surrogate : ¬(isHighSurrogate c.toNat ∨ isLowSurrogate c.toNat) := by
  have hv := c.valid
  rw [isHighSurrogate, isLowSurrogate, decide_eq_true_eq, decide_eq_true_eq]
  change c.toNat < 0xd800 ∨ 0xdfff < c.toNat ∧ c.toNat < 0x110000 at hv
  omega

lemma assemble_pieceOf {runes : List (Option Char)} : assemble (runes.map pieceOf) = coerce runes := by
  induction runes with
  | nil => rfl
  | cons r runes ih =>
    rw [coerce] at ih ⊢
    rw [List.map_cons, List.map_cons, ← ih]
    cases r with
    | none => exact assemble_code (by decide)
    | some c =>
      rw [pieceOf]
      split
      · rfl
      · split_ifs
        · rw [assemble_code not_surrogate, Char.ofNat_toNat]
          rfl
        · rfl

lemma scanString_quoted {rs : List (Option Char)} :
    scanString (rs.flatMap escape ++ '"' :: rest) = some (rs.map pieceOf, rest) := by
  induction rs with
  | nil => rfl
  | cons r rs ih => rw [List.flatMap_cons, List.append_assoc, scanString_escape, ih, Option.map_some, List.map_cons]

end Strings

section Numbers

def scanDigits (text : List Char) : List Char × List Char := (text.takeWhile Char.isDigit, text.dropWhile Char.isDigit)

def integerPart : List Char → Option (List Char × List Char)
  | [] => none
  | c :: rest =>
    if c = '0' then some (['0'], rest) else if c.isDigit then some (scanDigits (c :: rest)) else none

def fraction : List Char → Option (List Char × List Char)
  | '.' :: rest => if (scanDigits rest).1.isEmpty then none else some ('.' :: (scanDigits rest).1, (scanDigits rest).2)
  | rest => some ([], rest)

def optionalSign : List Char → List Char × List Char
  | '+' :: rest => (['+'], rest)
  | '-' :: rest => (['-'], rest)
  | rest => ([], rest)

def exponent : List Char → Option (List Char × List Char)
  | [] => some ([], [])
  | c :: rest =>
    if c = 'e' ∨ c = 'E' then
      let (sign, rest) := optionalSign rest
      if (scanDigits rest).1.isEmpty then none else some (c :: sign ++ (scanDigits rest).1, (scanDigits rest).2)
    else some ([], c :: rest)

def unsigned (text : List Char) : Option (List Char × List Char) := do
  let (whole, rest) ← integerPart text
  let (frac, rest) ← fraction rest
  let (exp, rest) ← exponent rest
  return (whole ++ frac ++ exp, rest)

def scanNumber : List Char → Option (List Char × List Char)
  | '-' :: rest => (unsigned rest).map fun e => ('-' :: e.1, e.2)
  | text => unsigned text

def parseInt : List Char → Option ℤ
  | '-' :: digits => if digits.all Char.isDigit ∧ digits ≠ [] then some (-Nat.ofDigitChars 10 digits 0) else none
  | digits => if digits.all Char.isDigit ∧ digits ≠ [] then some (Nat.ofDigitChars 10 digits 0) else none

def integer : ℤ → List Char
  | .ofNat n => Nat.toDigits 10 n
  | .negSucc n => '-' :: Nat.toDigits 10 (n + 1)

def Closed (rest : List Char) : Prop := ∀ c, rest.head? = some c → c = ',' ∨ c = ']' ∨ c = '}'

variable {n : ℕ}

lemma head_toDigits (hn : 0 < n) : ∃ c rest, Nat.toDigits 10 n = c :: rest ∧ c ≠ '0' := by
  induction n using Nat.strongRecOn with
  | _ n ih =>
    rw [Nat.toDigits_eq_if (by decide)]
    split_ifs with hl
    · have ha : ∀ n < 10, 0 < n → n.digitChar ≠ '0' := by decide
      exact ⟨_, _, rfl, ha n hl hn⟩
    · obtain ⟨c, rest, he, hc⟩ := ih (n / 10) (by omega) (by omega)
      exact ⟨c, rest ++ [(n % 10).digitChar], by rw [he, List.cons_append], hc⟩

lemma all_toDigits (n : ℕ) : ∀ c ∈ Nat.toDigits 10 n, c.isDigit = true := fun _ hc =>
  Nat.isDigit_of_mem_toDigits (by decide) (by decide) hc

lemma scanDigits_append {ds rest : List Char} (hd : ∀ c ∈ ds, c.isDigit = true)
    (hr : ∀ c, rest.head? = some c → c.isDigit = false) : scanDigits (ds ++ rest) = (ds, rest) := by
  rw [scanDigits, List.takeWhile_append_of_pos hd, List.dropWhile_append_of_pos hd]
  cases rest with
  | nil => simp
  | cons c rest => simp [hr c rfl]

variable {rest : List Char}

lemma Closed.not_isDigit (h : Closed rest) (c : Char) (hc : rest.head? = some c) : c.isDigit = false := by
  rcases h c hc with rfl | rfl | rfl <;> rfl

lemma integerPart_toDigits (h : Closed rest) :
    integerPart (Nat.toDigits 10 n ++ rest) = some (Nat.toDigits 10 n, rest) := by
  rcases Nat.eq_zero_or_pos n with rfl | hn
  · rfl
  · obtain ⟨c, ds, he, hc⟩ := head_toDigits hn
    have ha := all_toDigits n
    have hs := scanDigits_append ha h.not_isDigit
    rw [he] at ha hs ⊢
    rw [List.cons_append, integerPart, if_neg hc, if_pos (ha c (List.mem_cons_self ..)), ← List.cons_append, hs]

lemma Closed.fraction (h : Closed rest) : fraction rest = some ([], rest) := by
  unfold JSON.fraction
  split
  · next rest => rcases h '.' rfl with h | h | h <;> exact absurd h (by decide)
  · rfl

lemma Closed.exponent (h : Closed rest) : exponent rest = some ([], rest) := by
  cases rest with
  | nil => rfl
  | cons c rest =>
    have hc : ¬(c = 'e' ∨ c = 'E') := by rcases h c rfl with rfl | rfl | rfl <;> decide
    rw [JSON.exponent, if_neg hc]

lemma unsigned_toDigits (n : ℕ) (h : Closed rest) :
    unsigned (Nat.toDigits 10 n ++ rest) = some (Nat.toDigits 10 n, rest) := by
  rw [unsigned, integerPart_toDigits h]
  simp [h.fraction, h.exponent]

lemma toDigits_ne_minus : ∃ c rest, Nat.toDigits 10 n = c :: rest ∧ c ≠ '-' := by
  have ha := all_toDigits n
  cases he : Nat.toDigits 10 n with
  | nil => exact absurd he Nat.toDigits_ne_nil
  | cons c rest =>
    refine ⟨c, rest, rfl, ?_⟩
    rintro rfl
    rw [he] at ha
    exact absurd (ha '-' (List.mem_cons_self ..)) (by decide)

lemma scanNumber_integer (i : ℤ) (h : Closed rest) : scanNumber (integer i ++ rest) = some (integer i, rest) := by
  cases i with
  | ofNat n =>
    obtain ⟨c, ds, he, hc⟩ := toDigits_ne_minus
    have hs := unsigned_toDigits n h
    rw [integer]
    rw [he] at hs ⊢
    rw [List.cons_append] at hs ⊢
    rw [scanNumber, hs]
    intro r' heq
    exact hc (List.cons.inj heq).1
  | negSucc n => rw [integer, List.cons_append, scanNumber, unsigned_toDigits (n + 1) h, Option.map_some]

lemma parseInt_integer {i : ℤ} : parseInt (integer i) = some i := by
  have hdi : ∀ n, (Nat.toDigits 10 n).all Char.isDigit ∧ Nat.toDigits 10 n ≠ [] := fun n =>
    ⟨List.all_eq_true.mpr (all_toDigits n), Nat.toDigits_ne_nil⟩
  cases i with
  | ofNat n =>
    obtain ⟨c, ds, he, hc⟩ := toDigits_ne_minus
    have hn := hdi n
    have hv : Nat.ofDigitChars 10 (Nat.toDigits 10 n) 0 = n := Nat.ofDigitChars_ten_toDigits
    rw [integer]
    rw [he] at hn hv ⊢
    rw [parseInt, if_pos hn, hv]
    · rfl
    · intro r' heq
      exact hc (List.cons.inj heq).1
  | negSucc n =>
    rw [integer, parseInt, if_pos (hdi (n + 1)), Nat.ofDigitChars_ten_toDigits]
    rfl

end Numbers

section Values

def isSpace (c : Char) : Bool := decide (c = ' ' ∨ c = '\t' ∨ c = '\r' ∨ c = '\n')

def skip (text : List Char) : List Char := text.dropWhile isSpace

def scanKey (text : List Char) : Option (String × List Char) :=
  (scanString text).map fun e => (String.ofList (assemble e.1), e.2)

def series {α : Type} (scan : List Char → Option (α × List Char)) (close : Char) :
    ℕ → List Char → Option (List α × List Char)
  | 0, _ => none
  | n + 1, text =>
    match scan text with
    | none => none
    | some (item, rest) =>
      match skip rest with
      | [] => none
      | c :: rest =>
        if c = ',' then (series scan close n rest).map fun e => (item :: e.1, e.2)
        else if c = close then some ([item], rest)
        else none

def scanMember (scan : List Char → Option (Json × List Char)) (text : List Char) :
    Option ((String × Json) × List Char) :=
  match skip text with
  | '"' :: rest =>
    match scanKey rest with
    | none => none
    | some (key, rest) =>
      match skip rest with
      | ':' :: rest => (scan rest).map fun e => ((key, e.1), e.2)
      | _ => none
  | _ => none

-- Each nested value has one unit of fuel less; the length of the text is always enough.
def value : ℕ → List Char → Option (Json × List Char)
  | 0, _ => none
  | n + 1, text =>
    match skip text with
    | '"' :: rest => (scanKey rest).map fun e => (.str e.1, e.2)
    | '{' :: rest =>
      match skip rest with
      | '}' :: rest => some (.obj [], rest)
      | rest => (series (scanMember (value n)) '}' rest.length rest).map fun e => (.obj e.1, e.2)
    | '[' :: rest =>
      match skip rest with
      | ']' :: rest => some (.arr [], rest)
      | rest => (series (value n) ']' rest.length rest).map fun e => (.arr e.1, e.2)
    | 't' :: 'r' :: 'u' :: 'e' :: rest => some (.bool true, rest)
    | 'f' :: 'a' :: 'l' :: 's' :: 'e' :: rest => some (.bool false, rest)
    | 'n' :: 'u' :: 'l' :: 'l' :: rest => some (.null, rest)
    | rest => (scanNumber rest).map fun e => (.num e.1, e.2)

def parse (text : List Char) : Option Json :=
  match value (text.length + 1) text with
  | some (j, rest) => if (skip rest).isEmpty then some j else none
  | none => none

def separated : List (List Char) → List Char
  | [] => []
  | [item] => item
  | item :: items => item ++ ',' :: separated items

def array (items : List (List Char)) : List Char := '[' :: (separated items ++ [']'])

def member (field : String × List Char) : List Char := quoted (field.1.toList.map some) ++ ':' :: field.2

def object (fields : List (String × List Char)) : List Char := '{' :: (separated (fields.map member) ++ ['}'])

structure Reads (text : List Char) (j : Json) : Prop where
  starts : ∃ c rest, text = c :: rest ∧ isSpace c = false ∧ c ≠ ']'
  value : ∀ n rest, text.length < n → Closed rest → value n (text ++ rest) = some (j, rest)

lemma parse_of_reads {t : List Char} {j : Json} (h : Reads t j) : parse t = some j := by
  have hv := h.value (t.length + 1) [] (Nat.lt_succ_self _) (fun c hc => by cases hc)
  rw [List.append_nil] at hv
  rw [parse, hv]
  rfl

variable {rest : List Char}

lemma scanKey_quoted {runes : List (Option Char)} :
    scanKey (runes.flatMap escape ++ '"' :: rest) = some (String.ofList (coerce runes), rest) := by
  rw [scanKey, scanString_quoted, Option.map_some, assemble_pieceOf]

variable {c : Char}

lemma skip_cons (h : isSpace c = false) : skip (c :: rest) = c :: rest := by
  rw [skip, List.dropWhile_cons_of_neg (by simp [h])]

lemma reads_quoted (runes : List (Option Char)) : Reads (quoted runes) (.str (String.ofList (coerce runes))) := by
  refine ⟨⟨'"', _, rfl, by decide, by decide⟩, ?_⟩
  intro n rest hn _
  cases n with
  | zero => cases hn
  | succ n =>
    have hs : skip (quoted runes ++ rest) = '"' :: (runes.flatMap escape ++ '"' :: rest) := by
      rw [quoted, List.cons_append, skip_cons (by decide), List.append_assoc]
      rfl
    rw [value, hs]
    simp only
    rw [scanKey_quoted, Option.map_some]

lemma isSpace_digit (h : c.isDigit = true ∨ c = '-') : isSpace c = false := by
  rw [isSpace, decide_eq_false_iff_not]
  rintro (rfl | rfl | rfl | rfl) <;> exact absurd h (by decide)

lemma integer_eq_cons {i : ℤ} : ∃ c rest, integer i = c :: rest ∧ (c.isDigit = true ∨ c = '-') := by
  cases i with
  | ofNat n =>
    obtain ⟨c, rest, he, -⟩ := toDigits_ne_minus
    exact ⟨c, rest, he, .inl (all_toDigits n c (by rw [he]; exact List.mem_cons_self ..))⟩
  | negSucc n => exact ⟨'-', _, rfl, .inr rfl⟩

lemma reads_integer (i : ℤ) : Reads (integer i) (.num (integer i)) := by
  obtain ⟨c, ds, he, hc⟩ := integer_eq_cons
  refine ⟨⟨c, ds, he, isSpace_digit hc, by rintro rfl; exact absurd hc (by decide)⟩, ?_⟩
  intro n rest hn hr
  have hs := scanNumber_integer i hr
  cases n with
  | zero => cases hn
  | succ n =>
    rw [he] at hs ⊢
    rw [List.cons_append] at hs ⊢
    rw [value, skip_cons (isSpace_digit hc)]
    split
    case h_7 => rw [hs, Option.map_some]
    all_goals
      next heq =>
        rw [(List.cons.inj heq).1] at hc
        exact absurd hc (by decide)

lemma closed_cons (h : c = ',' ∨ c = ']' ∨ c = '}') (rest : List Char) : Closed (c :: rest) := by
  rintro _ ⟨⟩
  exact h

def Scans {α : Type} (scan : List Char → Option (α × List Char)) (text : List Char) (item : α) : Prop :=
  ∀ rest, Closed rest → scan (text ++ rest) = some (item, rest)

variable {item : List Char} {items : List (List Char)}

@[simp] lemma separated_cons_cons {next : List Char} :
    separated (item :: next :: items) = item ++ ',' :: separated (next :: items) := rfl

lemma length_le_separated (h : item ∈ items) : item.length ≤ (separated items).length := by
  fun_induction separated items with
  | case1 => cases h
  | case2 only =>
    rw [List.mem_singleton.mp h]
  | case3 f items hne ih =>
    rw [List.length_append, List.length_cons]
    rcases List.mem_cons.mp h with rfl | h
    · omega
    · have := ih h
      omega

lemma length_items_le (items : List (List Char)) : items.length ≤ (separated items).length + 1 := by
  fun_induction separated items with
  | case1 | case2 => simp
  | case3 first items hne ih =>
    rw [List.length_append, List.length_cons, List.length_cons]
    omega

lemma series_separated {α : Type} {s : List Char → Option (α × List Char)} {cl : Char}
    (hcl : cl = ']' ∨ cl = '}') {items : List (List Char)} {as : List α}
    (h : List.Forall₂ (Scans s) items as) (hne : items ≠ []) {n : ℕ} (hn : items.length ≤ n) (rest : List Char) :
    series s cl n (separated items ++ cl :: rest) = some (as, rest) := by
  induction h generalizing n with
  | nil => exact absurd rfl hne
  | @cons item a items as hitem hit ih =>
    obtain ⟨m, rfl⟩ : ∃ m, n = m + 1 := ⟨n - 1, by rw [List.length_cons] at hn; omega⟩
    rw [List.length_cons] at hn
    rw [series]
    cases hit with
    | nil =>
      have hs : isSpace cl = false := by rcases hcl with rfl | rfl <;> rfl
      have hco : cl ≠ ',' := by rcases hcl with rfl | rfl <;> decide
      rw [separated, hitem _ (closed_cons (.inr hcl) rest)]
      simp only [skip_cons hs, if_neg hco, if_true]
    | @cons next b items as hnext hit =>
      rw [separated_cons_cons, List.append_assoc, List.cons_append, hitem _ (closed_cons (.inl rfl) _)]
      simp only [skip_cons (show isSpace ',' = false from rfl), if_true]
      rw [ih (by simp) (by omega), Option.map_some]

lemma separated_eq_cons {more : List Char} (h : item = c :: more) : ∃ tail, separated (item :: items) = c :: tail := by
  cases items with
  | nil => exact ⟨more, h⟩
  | cons next items => exact ⟨_, by rw [separated_cons_cons, h, List.cons_append]⟩

lemma series_bracketed {α : Type} {scan : List Char → Option (α × List Char)} {cl : Char}
    (hcl : cl = ']' ∨ cl = '}') {item : List Char} {items : List (List Char)} {as : List α}
    (h : List.Forall₂ (Scans scan) (item :: items) as) {c : Char} {more : List Char} (he : item = c :: more)
    (hs : isSpace c = false) (rest : List Char) : ∃ tail, skip (separated (item :: items) ++ cl :: rest) = c :: tail ∧
      series scan cl (c :: tail).length (c :: tail) = some (as, rest) := by
  have hl : (item :: items).length ≤ (separated (item :: items) ++ cl :: rest).length := by
    have := length_items_le (item :: items)
    rw [List.length_append, List.length_cons (a := cl)]
    omega
  have hse := series_separated hcl h (by simp) hl rest
  obtain ⟨tail, ht⟩ := separated_eq_cons he
  rw [ht, List.cons_append] at hse ⊢
  exact ⟨tail ++ cl :: rest, skip_cons hs, hse⟩

lemma reads_array {js : List Json} (h : List.Forall₂ Reads items js) : Reads (array items) (.arr js) := by
  refine ⟨⟨'[', _, rfl, by decide, by decide⟩, ?_⟩
  intro n rest hn _
  obtain ⟨m, rfl⟩ : ∃ m, n = m + 1 := ⟨n - 1, by omega⟩
  have ht : array items ++ rest = '[' :: (separated items ++ ']' :: rest) := by simp [array]
  rw [array, List.length_cons, List.length_append, List.length_singleton] at hn
  have hsc : List.Forall₂ (Scans (value m)) items js := by
    refine List.Forall₂.imp ?_ (List.forall₂_and_left _ _ |>.mpr ⟨fun item => length_le_separated, h⟩)
    rintro item j ⟨hl, hre⟩ rest hr
    exact hre.value m rest (by omega) hr
  rw [ht, value, skip_cons (by decide)]
  simp only
  cases h with
  | nil => rfl
  | cons hitem hit =>
    obtain ⟨c, mo, he, hs, hc⟩ := hitem.starts
    obtain ⟨t, hskip, hse⟩ := series_bracketed (.inl rfl) hsc he hs rest
    rw [hskip]
    split
    · next heq => exact absurd (List.cons.inj heq).1 hc
    · rw [hse, Option.map_some]

lemma scans_member {m : ℕ} {field : String × List Char} {j : Json} (h : Scans (value m) field.2 j) :
    Scans (scanMember (value m)) (member field) (field.1, j) := by
  intro rest hr
  have ht : member field ++ rest =
      '"' :: ((field.1.toList.map some).flatMap escape ++ '"' :: ':' :: (field.2 ++ rest)) := by simp [member, quoted]
  rw [ht, scanMember, skip_cons (by decide)]
  simp only
  rw [scanKey_quoted]
  simp only
  rw [skip_cons (by decide)]
  simp only
  rw [h rest hr, Option.map_some, coerce_map_some, String.ofList_toList]

lemma reads_object {fs : List (String × List Char)} {ms : List (String × Json)}
    (h : List.Forall₂ (fun f m => f.1 = m.1 ∧ Reads f.2 m.2) fs ms) : Reads (object fs) (.obj ms) := by
  refine ⟨⟨'{', _, rfl, by decide, by decide⟩, ?_⟩
  intro n rest hn _
  obtain ⟨m, rfl⟩ : ∃ m, n = m + 1 := ⟨n - 1, by omega⟩
  have ht : object fs ++ rest = '{' :: (separated (fs.map member) ++ '}' :: rest) := by simp [object]
  rw [object, List.length_cons, List.length_append, List.length_singleton] at hn
  have hl : ∀ f ∈ fs, (member f).length ≤ (separated (fs.map member)).length := fun f hf =>
    length_le_separated (List.mem_map_of_mem hf)
  have hsc : List.Forall₂ (Scans (scanMember (value m))) (fs.map member) ms := by
    rw [List.forall₂_map_left_iff]
    refine List.Forall₂.imp ?_ (List.forall₂_and_left _ _ |>.mpr ⟨hl, h⟩)
    rintro ⟨key, te⟩ ⟨key', j⟩ ⟨hle, rfl, hre⟩
    refine scans_member fun rest hr => hre.value m rest ?_ hr
    rw [member, List.length_append, List.length_cons] at hle
    omega
  rw [ht, value, skip_cons (by decide)]
  simp only
  cases h with
  | nil => rfl
  | cons hfie hfi =>
    obtain ⟨t, hskip, hs⟩ := series_bracketed (.inr rfl) hsc rfl (by decide) rest
    rw [List.map_cons, hskip]
    split
    · next he => exact absurd (List.cons.inj he).1 (by decide)
    · rw [hs, Option.map_some]

end Values

section Structs

variable {α : Type}

def foldRune (c : Char) : Char :=
  if 'a' ≤ c ∧ c ≤ 'z' then Char.ofNat (c.toNat - 32)
  else if c = Char.ofNat 0x17f then 'S'
  else if c = Char.ofNat 0x212a then 'K'
  else c

def sameField (name key : String) : Bool := name.toList.map foldRune == key.toList.map foldRune

def field (name : String) (decode : Json → α → Option α) (members : List (String × Json)) (old : α) : Option α :=
  members.foldlM (fun a m => if sameField name m.1 then decode m.2 a else some a) old

def decodeString : Json → String → Option String
  | .str s, _ => some s
  | .null, old => some old
  | _, _ => none

def decodeInt64 : Json → ℤ → Option ℤ
  | .num literal, _ => (parseInt literal).filter fun i => FitsInt64 i
  | .null, old => some old
  | _, _ => none

def decodeUint8 : Json → Option UInt8
  | .num literal =>
    match parseInt literal with
    | some i => if 0 ≤ i ∧ i < 256 then some (UInt8.ofNat i.toNat) else none
    | none => none
  | .null => some 0
  | _ => none

def decodeBytes : Json → Bytes → Option Bytes
  | .str s, _ => Base64.decode s.toList
  | .null, _ => some []
  | .arr items, _ => items.mapM decodeUint8
  | _, _ => none

def decodeSlice (decode : Json → Option α) : Json → List α → Option (List α)
  | .arr items, _ => items.mapM decode
  | .null, _ => some []
  | _, _ => none

def omitting (empty : Bool) (m : α) : List α := if empty then [] else [m]

variable {name : String} {de : Json → α → Option α} {old : α}

@[simp] lemma field_nil : field name de [] old = some old := rfl

@[simp] lemma field_append {ms ms' : List (String × Json)} :
    field name de (ms ++ ms') old = (field name de ms old).bind (field name de ms') := List.foldlM_append

variable {key : String}

@[simp] lemma field_same (h : sameField name key = true) (j : Json) (ms : List (String × Json)) :
    field name de ((key, j) :: ms) old = (de j old).bind (field name de ms) := by
  simp only [field, List.foldlM_cons, if_pos h]
  rfl

@[simp] lemma field_other (h : sameField name key = false) (j : Json) (ms : List (String × Json)) :
    field name de ((key, j) :: ms) old = field name de ms old := by
  simp [field, h]

@[simp] lemma field_omitting_other (h : sameField name key = false) {e : Bool} {j : Json} :
    field name de (omitting e (key, j)) old = some old := by
  rw [omitting]
  split
  · rfl
  · exact field_other h j []

lemma field_omitting_same (h : sameField name key = true) {e : Bool} {j : Json} {new : α}
    (hem : e = true → new = old) (hj : de j old = some new) : field name de (omitting e (key, j)) old = some new := by
  rw [omitting]
  split_ifs with he
  · rw [hem he, field_nil]
  · rw [field_same h, hj, Option.bind_some, field_nil]

lemma decodeInt64_integer {i : ℤ} (h : FitsInt64 i) (old : ℤ) : decodeInt64 (.num (integer i)) old = some i := by
  rw [decodeInt64, parseInt_integer]
  simp [h]

lemma forall₂_omitting {β : Type} {R : α → β → Prop} {a : α} {b : β} (h : R a b) (e : Bool) :
    List.Forall₂ R (omitting e a) (omitting e b) := by
  cases e with
  | true => exact List.Forall₂.nil
  | false => exact List.Forall₂.cons h List.Forall₂.nil

end Structs

end Cloudless.Foundations.JSON
