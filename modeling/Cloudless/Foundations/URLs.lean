import Cloudless.Foundations.Hex

/-! Go's `net/url`: percent-encoding, the parsing of a reference, and its text. The syntax of the authority is kept
abstract up to hosts of plain letters. -/

namespace Cloudless.Foundations.URLs

open GoStd Hex

abbrev percent : UInt8 := 37
abbrev slash : UInt8 := 47
abbrev colon : UInt8 := 58
abbrev question : UInt8 := 63
abbrev hash : UInt8 := 35

def ascii (s : String) : Bytes := s.toList.map Char.toUInt8

inductive Encoding
  | path
  | fragment

inductive ParseError
  | control
  | escape (s : Bytes)
  | missingScheme
  | firstSegmentColon
  | authority (err : String)
  deriving DecidableEq

variable (c : UInt8)

def isLetter : Bool := 97 ≤ c && c ≤ 122 || 65 ≤ c && c ≤ 90

def isDigit : Bool := 48 ≤ c && c ≤ 57

def isControl : Bool := c < 32 || c = 127

variable (mode : Encoding)

def shouldEscape (c : UInt8) : Bool :=
  if isLetter c || isDigit c then false
  else if c ∈ ascii "-_.~" then false
  else
    match mode with
    | .path => if c ∈ ascii "$&+,/:;=?@" then c = question else true
    | .fragment => if c ∈ ascii "$&+,/:;=?@" then false else c ∉ ascii "!()*"

def upperHex (n : ℕ) : UInt8 := UInt8.ofNat (if n < 10 then 48 + n else 55 + n)

def escapeByte (c : UInt8) : Bytes :=
  if shouldEscape mode c then [percent, upperHex (c.toNat / 16), upperHex (c.toNat % 16)] else [c]

def escape (s : Bytes) : Bytes := s.flatMap (escapeByte mode)

def unescape : Bytes → Except ParseError Bytes
  | [] => .ok []
  | c :: rest =>
    if c = percent then
      match rest with
      | hi :: lo :: rest' =>
        match reverseHex hi, reverseHex lo with
        | some a, some b => (unescape rest').map (UInt8.ofNat (16 * a + b) :: ·)
        | _, _ => .error (.escape [c, hi, lo])
      | _ => .error (.escape (c :: rest))
    else (unescape rest).map (c :: ·)

def validEncoded (s : Bytes) : Bool :=
  s.all fun c => c ∈ ascii "!$&'()*+,;=:@[]%" || !shouldEscape mode c

def encoded (raw value : Bytes) : Bytes :=
  if raw ≠ [] ∧ validEncoded mode raw ∧ unescape raw = .ok value then raw else escape mode value

def rawHint (text value : Bytes) : Bytes := if text = escape mode value then [] else text

structure URL where
  scheme : Bytes := []
  opaqueText : Bytes := []
  user : Option Bytes := none
  host : Bytes := []
  path : Bytes := []
  rawPath : Bytes := []
  omitHost : Bool := false
  forceQuery : Bool := false
  rawQuery : Bytes := []
  fragment : Bytes := []
  rawFragment : Bytes := []
  deriving DecidableEq

def Plain (s : Bytes) : Prop := s ≠ [] ∧ ∀ c ∈ s, 97 ≤ c ∧ c ≤ 122

instance (s : Bytes) : Decidable (Plain s) := @instDecidableAnd _ _ _ (List.decidableBAll _ s)

/-- How the text of an authority is read and how a user and a host are written. -/
structure Authorities where
  parse : Bytes → Except String (Option Bytes × Bytes)
  (userText hostText : Bytes → Bytes)
  parse_plain : ∀ {h}, Plain h → parse h = .ok (none, h)
  hostText_plain : ∀ {h}, Plain h → hostText h = h

def plainAuthorities : Authorities where
  parse h := if Plain h then .ok (none, h) else .error "unsupported authority"
  userText := fun u => u
  hostText := fun h => h
  parse_plain := fun h => if_pos h
  hostText_plain := fun _ => rfl

def cut (sep : UInt8) (s : Bytes) : Bytes × Bytes := (s.takeWhile (· ≠ sep), (s.dropWhile (· ≠ sep)).tail)

def schemeLoop (rawURL : Bytes) : Bytes → Bytes → Except ParseError (Bytes × Bytes)
  | _, [] => .ok ([], rawURL)
  | scheme, c :: rest =>
    if isLetter c then schemeLoop rawURL (scheme ++ [c]) rest
    else if isDigit c || c ∈ ascii "+-." then
      if scheme = [] then .ok ([], rawURL) else schemeLoop rawURL (scheme ++ [c]) rest
    else if c = colon then
      if scheme = [] then .error .missingScheme else .ok (scheme, rest)
    else .ok ([], rawURL)

def getScheme (rawURL : Bytes) : Except ParseError (Bytes × Bytes) := schemeLoop rawURL [] rawURL

def toLower : UInt8 := if 65 ≤ c && c ≤ 90 then c + 32 else c

namespace URL

def setPath (p : Bytes) (u : URL) : Except ParseError URL :=
  match unescape p with
  | .error err => .error err
  | .ok path => .ok { u with path := path, rawPath := rawHint .path p path }

def setFragment (f : Bytes) (u : URL) : Except ParseError URL :=
  match unescape f with
  | .error err => .error err
  | .ok fragment => .ok { u with fragment := fragment, rawFragment := rawHint .fragment f fragment }

def withFragment (f : Bytes) (u : URL) : Except ParseError URL := if f = [] then .ok u else u.setFragment f

def escapedPath (u : URL) : Bytes :=
  if u.rawPath ≠ [] ∧ validEncoded .path u.rawPath ∧ unescape u.rawPath = .ok u.path then u.rawPath
  else if u.path = ascii "*" then ascii "*"
  else escape .path u.path

def escapedFragment (u : URL) : Bytes := encoded .fragment u.rawFragment u.fragment

end URL

variable (authorities : Authorities)

def parseHierarchy (rest : Bytes) (u : URL) : Except ParseError URL :=
  if rest.head? ≠ some slash ∧ u.scheme ≠ [] then .ok { u with opaqueText := rest }
  else if rest.head? ≠ some slash ∧ colon ∈ (cut slash rest).1 then .error .firstSegmentColon
  else if [slash, slash] <+: rest ∧ (u.scheme ≠ [] ∨ ¬[slash, slash, slash] <+: rest) then
    let authority := (rest.drop 2).takeWhile (· ≠ slash)
    match authorities.parse authority with
    | .error err => .error (.authority err)
    | .ok (user, host) => { u with user := user, host := host }.setPath ((rest.drop 2).dropWhile (· ≠ slash))
  else if u.scheme ≠ [] ∧ rest.head? = some slash then { u with omitHost := true }.setPath rest
  else u.setPath rest

def parseReference (rawURL : Bytes) : Except ParseError URL :=
  if rawURL.any isControl then .error .control
  else if rawURL = ascii "*" then .ok { path := ascii "*" }
  else
    match getScheme rawURL with
    | .error err => .error err
    | .ok (scheme, rest) =>
      let u : URL := { scheme := scheme.map toLower }
      if rest.getLast? = some question ∧ rest.count question = 1 then
        parseHierarchy authorities rest.dropLast { u with forceQuery := true }
      else parseHierarchy authorities (cut question rest).1 { u with rawQuery := (cut question rest).2 }

def parse (rawURL : Bytes) : Except ParseError URL :=
  match parseReference authorities (cut hash rawURL).1 with
  | .error err => .error err
  | .ok u => u.withFragment (cut hash rawURL).2

namespace URL

def authorityText (u : URL) : Bytes :=
  if u.scheme = [] ∧ u.host = [] ∧ u.user = none then []
  else if u.omitHost ∧ u.host = [] ∧ u.user = none then []
  else
    (if u.host ≠ [] ∨ u.path ≠ [] ∨ u.user ≠ none then [slash, slash] else []) ++
      (u.user.elim [] fun user => authorities.userText user ++ ascii "@") ++
      if u.host = [] then [] else authorities.hostText u.host

def hierarchyText (u : URL) : Bytes :=
  let start := (if u.scheme = [] then [] else u.scheme ++ [colon]) ++ u.authorityText authorities
  let path := u.escapedPath
  let start := start ++ if path ≠ [] ∧ path.head? ≠ some slash ∧ u.host ≠ [] then [slash] else []
  let start := if start = [] ∧ colon ∈ (cut slash path).1 then ascii "./" else start
  start ++ path

def string (u : URL) : Bytes :=
  (if u.opaqueText ≠ [] then (if u.scheme = [] then [] else u.scheme ++ [colon]) ++ u.opaqueText
    else u.hierarchyText authorities) ++
    (if u.forceQuery ∨ u.rawQuery ≠ [] then question :: u.rawQuery else []) ++
    if u.fragment = [] then [] else hash :: u.escapedFragment

end URL

section Escaping

variable {mode} {s t : Bytes} {c}

lemma unescape_cons_of_ne (h : c ≠ percent) (s : Bytes) : unescape (c :: s) = (unescape s).map (c :: ·) := by
  conv_lhs => unfold unescape
  rw [if_neg h]

lemma reverseHex_upperHex {n : ℕ} (h : n < 16) : reverseHex (upperHex n) = some n := by
  interval_cases n <;> rfl

lemma unescape_percent {c : UInt8} :
    unescape (percent :: upperHex (c.toNat / 16) :: upperHex (c.toNat % 16) :: s) = (unescape s).map (c :: ·) := by
  have hl := c.toNat_lt
  have hc : UInt8.ofNat (16 * (c.toNat / 16) + c.toNat % 16) = c := by
    rw [Nat.div_add_mod, UInt8.ofNat_toNat]
  rw [unescape, if_pos rfl, reverseHex_upperHex (by omega), reverseHex_upperHex (by omega)]
  simp only [hc]

lemma ne_percent_of_not_shouldEscape (h : shouldEscape mode c = false) : c ≠ percent := by
  rintro rfl
  cases mode <;> revert h <;> decide

lemma unescape_escapeByte {c : UInt8} : unescape (escapeByte mode c ++ s) = (unescape s).map (c :: ·) := by
  rw [escapeByte]
  split_ifs with h
  · exact unescape_percent
  · exact unescape_cons_of_ne (ne_percent_of_not_shouldEscape (by simpa using h)) s

@[simp] lemma unescape_escape : unescape (escape mode s) = .ok s := by
  induction s with
  | nil => rfl
  | cons c s ih =>
    rw [escape, List.flatMap_cons, unescape_escapeByte]
    rw [escape] at ih
    rw [ih]
    rfl

lemma unescape_append (h : percent ∉ s) (t : Bytes) : unescape (s ++ t) = (unescape t).map (s ++ ·) := by
  induction s with
  | nil =>
    rw [List.nil_append]
    cases unescape t <;> rfl
  | cons c s ih =>
    rw [List.mem_cons, not_or] at h
    rw [List.cons_append, unescape_cons_of_ne (Ne.symm h.1), ih h.2]
    cases unescape t <;> rfl

lemma unescape_of_not_mem (h : percent ∉ s) : unescape s = .ok s := by
  have hs := unescape_append h []
  rw [List.append_nil] at hs
  rw [hs]
  simp [unescape, Except.map]

lemma ne_percent_of_reverseHex {n : ℕ} (h : reverseHex c = some n) : c ≠ percent := by
  rintro rfl
  cases h

lemma length_unescape (h : unescape s = .ok t) : t.length + 2 * s.count percent = s.length := by
  fun_induction unescape s generalizing t with
  | case1 =>
    cases h
    rfl
  | case2 hi lo rest a b hb ha ih =>
    cases hr : unescape rest with
    | error err =>
      rw [hr] at h
      cases h
    | ok r =>
      rw [hr] at h
      cases h
      have hlen := ih hr
      rw [List.count_cons_self, List.count_cons_of_ne (ne_percent_of_reverseHex ha),
        List.count_cons_of_ne (ne_percent_of_reverseHex hb)]
      simp only [List.length_cons]
      omega
  | case3 | case4 => cases h
  | case5 c rest hc ih =>
    cases hr : unescape rest with
    | error err =>
      rw [hr] at h
      cases h
    | ok r =>
      rw [hr] at h
      cases h
      have hlen := ih hr
      rw [List.count_cons_of_ne hc]
      simp only [List.length_cons]
      omega

lemma unescape_eq_self_iff : unescape s = .ok s ↔ percent ∉ s := by
  constructor
  · intro h hm
    have hlen := length_unescape h
    have hpos := List.count_pos_iff.mpr hm
    omega
  · exact unescape_of_not_mem

end Escaping

section Parsing

variable {au : Authorities} {scheme host s t : Bytes} {c} {sep : UInt8}

lemma cut_append (h : sep ∉ s) (t : Bytes) : cut sep (s ++ t) = (s ++ (cut sep t).1, (cut sep t).2) := by
  have hs : ∀ c ∈ s, decide (c ≠ sep) = true := fun c hc => by simpa using fun he : c = sep => h (he ▸ hc)
  rw [cut, List.takeWhile_append_of_pos hs, List.dropWhile_append_of_pos hs, cut]

lemma cut_cons_of_ne (h : c ≠ sep) (s : Bytes) : cut sep (c :: s) = (c :: (cut sep s).1, (cut sep s).2) :=
  cut_append (s := [c]) (by simpa using Ne.symm h) s

lemma cut_self {sep : UInt8} {t : Bytes} : cut sep (sep :: t) = ([], t) := by
  simp [cut]

lemma cut_append_self (h : sep ∉ s) (t : Bytes) : cut sep (s ++ sep :: t) = (s, t) := by
  rw [cut_append h, cut_self, List.append_nil]

lemma cut_of_not_mem (h : sep ∉ s) : cut sep s = (s, []) := by
  have hs := cut_append h []
  rwa [List.append_nil, show cut sep [] = ([], []) from rfl, List.append_nil] at hs

lemma cut_spec (sep : UInt8) (s : Bytes) : sep ∉ (cut sep s).1 ∧
    (sep ∉ s ∧ cut sep s = (s, []) ∨ s = (cut sep s).1 ++ sep :: (cut sep s).2) := by
  induction s with
  | nil => simp [cut]
  | cons c s ih =>
    by_cases hc : c = sep
    · rw [hc, cut_self]
      exact ⟨List.not_mem_nil, .inr rfl⟩
    · rw [cut_cons_of_ne hc]
      refine ⟨by simp [Ne.symm hc, ih.1], ?_⟩
      rcases ih.2 with ⟨hn, he⟩ | he
      · refine .inl ⟨by simp [Ne.symm hc, hn], ?_⟩
        rw [he]
      · exact .inr (by dsimp only; rw [List.cons_append, ← he])

lemma cut_of_last (hl : s.getLast? = some sep) (hc : s.count sep = 1) : cut sep s = (s.dropLast, []) := by
  obtain ⟨t, rfl⟩ : ∃ t, s = t ++ [sep] := ⟨s.dropLast, (List.dropLast_append_getLast? sep hl).symm⟩
  have ht : sep ∉ t := by
    rw [List.count_append, List.count_singleton_self] at hc
    exact List.count_eq_zero.mp (by omega)
  rw [cut_append_self ht, List.dropLast_concat]

lemma exists_cons_of_head? {p : Bytes} (h : p.head? = some c) : ∃ q, p = c :: q := by
  cases p with
  | nil => cases h
  | cons d q =>
    cases h
    exact ⟨q, rfl⟩

lemma head?_cut (h : s.head? = some c) (hc : c ≠ sep) : (cut sep s).1.head? = some c := by
  obtain ⟨t, rfl⟩ := exists_cons_of_head? h
  rw [cut_cons_of_ne hc]
  rfl

lemma Plain.isLetter (h : Plain s) (hc : c ∈ s) : URLs.isLetter c = true := by
  have hr := h.2 c hc
  simp [URLs.isLetter, hr.1, hr.2]

lemma Plain.not_mem (h : Plain s) (hc : c < 97) : c ∉ s := fun hm =>
  absurd (h.2 c hm).1 (UInt8.not_le.mpr hc)

lemma Plain.map_toLower (h : Plain s) : s.map toLower = s := by
  have hid : ∀ c ∈ s, toLower c = id c := by
    intro c hc
    have hl := (h.2 c hc).1
    have hnot : ¬c ≤ 90 := fun hl' => absurd (UInt8.le_trans hl hl') (by decide)
    simp [toLower, hnot]
  rw [List.map_congr_left hid, List.map_id]

lemma Plain.any_isControl (h : Plain s) : s.any isControl = false := by
  rw [List.any_eq_false]
  intro c hc
  obtain ⟨hle, hg⟩ := h.2 c hc
  have hl : ¬c < 32 := fun hlt => absurd (UInt8.lt_of_le_of_lt hle hlt) (by decide)
  have hdel : c ≠ 127 := by
    rintro rfl
    revert hg
    decide
  simp [isControl, hl, hdel]

lemma schemeLoop_plain {ru rest : Bytes} (hs : ∀ c ∈ s, isLetter c = true) (acc : Bytes) (hne : acc ++ s ≠ []) :
    schemeLoop ru acc (s ++ colon :: rest) = .ok (acc ++ s, rest) := by
  induction s generalizing acc with
  | nil =>
    rw [List.append_nil] at hne
    rw [List.nil_append, List.append_nil, schemeLoop, if_neg (by decide), if_neg (by decide), if_pos rfl, if_neg hne]
  | cons c s ih =>
    have hc := hs c (List.mem_cons_self ..)
    rw [List.cons_append, schemeLoop, if_pos hc, ih (fun d hd => hs d (List.mem_cons_of_mem _ hd)) _ (by simp)]
    simp

def located (scheme host main : Bytes) (path : Bytes) : URL :=
  { scheme := scheme
    host := host
    path := path
    rawPath := rawHint .path (cut question main).1 path
    forceQuery := main.getLast? = some question && main.count question = 1
    rawQuery := (cut question main).2 }

lemma parseHierarchy_plain (hh : Plain host) {u : URL} (hu : u.scheme ≠ []) {p : Bytes} (hp : p.head? = some slash) :
    parseHierarchy au (slash :: slash :: (host ++ p)) u = { u with user := none, host := host }.setPath p := by
  obtain ⟨q, rfl⟩ := exists_cons_of_head? hp
  have hhost : ∀ c ∈ host, decide (c ≠ slash) = true := fun c hc =>
    by simpa using fun he : c = slash => hh.not_mem (by decide) (he ▸ hc)
  have ht : (host ++ slash :: q).takeWhile (· ≠ slash) = host := by
    rw [List.takeWhile_append_of_pos hhost]
    simp
  have hdrop : (host ++ slash :: q).dropWhile (· ≠ slash) = slash :: q := by
    rw [List.dropWhile_append_of_pos hhost]
    simp
  rw [parseHierarchy, if_neg (by simp), if_neg (by simp), if_pos ⟨⟨_, rfl⟩, .inl hu⟩]
  simp only [List.drop_succ_cons, List.drop_zero, ht, hdrop, au.parse_plain hh]

lemma parseReference_plain (hs : Plain scheme) (hh : Plain host) {m : Bytes} (hm : m.head? = some slash) :
    parseReference au (scheme ++ colon :: slash :: slash :: (host ++ m)) =
      if m.any isControl then .error .control else (unescape (cut question m).1).map (located scheme host m) := by
  obtain ⟨ta, rfl⟩ := exists_cons_of_head? hm
  have hco : (scheme ++ colon :: slash :: slash :: (host ++ slash :: ta)).any isControl =
      (slash :: ta).any isControl := by
    rw [List.any_append, List.any_cons, List.any_cons, List.any_cons, List.any_append, hs.any_isControl,
      hh.any_isControl]
    rfl
  have hstar : scheme ++ colon :: slash :: slash :: (host ++ slash :: ta) ≠ ascii "*" := by
    intro he
    have hlen := congrArg List.length he
    simp [ascii] at hlen
    omega
  have hsc : getScheme (scheme ++ colon :: slash :: slash :: (host ++ slash :: ta)) =
      .ok (scheme, slash :: slash :: (host ++ slash :: ta)) :=
    schemeLoop_plain (fun c hc => hs.isLetter hc) [] (by simpa using hs.1)
  have hqu : question ∉ slash :: slash :: host := by
    simp only [List.mem_cons, not_or]
    exact ⟨by decide, by decide, hh.not_mem (by decide)⟩
  have hl : (slash :: slash :: (host ++ slash :: ta)).getLast? = (slash :: ta).getLast? := by
    rw [← List.cons_append, ← List.cons_append, List.getLast?_append, List.getLast?_cons, Option.some_or]
  have hcou : (slash :: slash :: (host ++ slash :: ta)).count question = (slash :: ta).count question := by
    rw [← List.cons_append, ← List.cons_append, List.count_append, List.count_eq_zero.mpr hqu, Nat.zero_add]
  rw [parseReference, hco, if_neg hstar, hsc]
  dsimp only
  rw [hl, hcou, hs.map_toLower]
  split_ifs with hc hq
  · rfl
  · have hdrop : (slash :: slash :: (host ++ slash :: ta)).dropLast =
        slash :: slash :: (host ++ (slash :: ta).dropLast) := by
      rw [← List.cons_append, ← List.cons_append, List.dropLast_append_of_ne_nil (by simp)]
      rfl
    have hcut := cut_of_last hq.1 hq.2
    have hhead : ((slash :: ta).dropLast).head? = some slash := by
      cases ta with
      | nil => exact absurd hq.1 (by decide)
      | cons c ta => rfl
    rw [hdrop, parseHierarchy_plain hh hs.1 hhead, URL.setPath, hcut]
    cases unescape (slash :: ta).dropLast with
    | error err => rfl
    | ok path => simp [Except.map, located, hcut, hq.1, hq.2]
  · have hcut := cut_append hqu (slash :: ta)
    rw [List.cons_append, List.cons_append] at hcut
    rw [hcut]
    dsimp only
    rw [List.cons_append, List.cons_append, parseHierarchy_plain hh hs.1 (head?_cut hm (by decide)), URL.setPath]
    cases unescape (cut question (slash :: ta)).1 with
    | error err => rfl
    | ok path =>
      have hf : ((slash :: ta).getLast? = some question && (slash :: ta).count question = 1) = false := by
        simpa using hq
      simp only [Except.map, located, hf]

lemma parse_plain (hs : Plain scheme) (hh : Plain host) {rest : Bytes} (hr : rest.head? = some slash) :
    parse au (scheme ++ colon :: slash :: slash :: (host ++ rest)) =
      if (cut hash rest).1.any isControl then .error .control else
        match unescape (cut question (cut hash rest).1).1 with
        | .error err => .error err
        | .ok path => (located scheme host (cut hash rest).1 path).withFragment (cut hash rest).2 := by
  have hb : hash ∉ scheme ++ colon :: slash :: slash :: host := by
    simp only [List.mem_append, List.mem_cons, not_or]
    exact ⟨hs.not_mem (by decide), by decide, by decide, by decide, hh.not_mem (by decide)⟩
  have hcut := cut_append hb rest
  simp only [List.append_assoc, List.cons_append] at hcut
  rw [parse, hcut]
  dsimp only
  rw [parseReference_plain hs hh (head?_cut hr (by decide))]
  split_ifs
  · rfl
  · cases unescape (cut question (cut hash rest).1).1 <;> rfl

end Parsing

section Texts

variable {au : Authorities} {mode} {scheme host path s : Bytes} {c} {u : URL}

def PathByte (c : UInt8) : Prop := c ≠ hash ∧ c ≠ question ∧ isControl c = false

instance (c : UInt8) : Decidable (PathByte c) := inferInstanceAs (Decidable (_ ∧ _))

lemma shouldEscape_of_isControl (h : isControl c = true) : shouldEscape mode c = true ∧ c ∉ ascii "!$&'()*+,;=:@[]%" := by
  rw [isControl, Bool.or_eq_true, decide_eq_true_eq, decide_eq_true_eq] at h
  rcases h with h | rfl
  · obtain ⟨n, hn, rfl⟩ : ∃ n, n < 32 ∧ c = UInt8.ofNat n := ⟨c.toNat, h, UInt8.ofNat_toNat.symm⟩
    cases mode <;> interval_cases n <;> decide
  · cases mode <;> decide

lemma pathByte_of_not_shouldEscape (h : shouldEscape .path c = false) : PathByte c := by
  refine ⟨?_, ?_, ?_⟩
  · rintro rfl
    revert h
    decide
  · rintro rfl
    revert h
    decide
  · by_contra hc
    rw [Bool.not_eq_false] at hc
    rw [(shouldEscape_of_isControl hc).1] at h
    cases h

lemma pathByte_of_mem (h : c ∈ ascii "!$&'()*+,;=:@[]%") : PathByte c := by
  have hb : (ascii "!$&'()*+,;=:@[]%").all (fun c => PathByte c) = true := by decide
  exact of_decide_eq_true (List.all_eq_true.mp hb c h)

lemma pathByte_of_validEncoded (h : validEncoded .path s = true) : ∀ c ∈ s, PathByte c := by
  intro c hc
  have hv := List.all_eq_true.mp h c hc
  rw [Bool.or_eq_true, decide_eq_true_eq, Bool.not_eq_true'] at hv
  rcases hv with hv | hv
  · exact pathByte_of_mem hv
  · exact pathByte_of_not_shouldEscape hv

lemma pathByte_upperHex {n : ℕ} (h : n < 16) : PathByte (upperHex n) := by
  interval_cases n <;> decide

lemma pathByte_of_escape : ∀ c ∈ escape .path s, PathByte c := by
  intro c hc
  obtain ⟨b, -, hb⟩ := List.mem_flatMap.mp hc
  have hl := b.toNat_lt
  rw [escapeByte] at hb
  split_ifs at hb with h
  · simp only [List.mem_cons, List.not_mem_nil, or_false] at hb
    rcases hb with rfl | rfl | rfl
    · decide
    · exact pathByte_upperHex (by omega)
    · exact pathByte_upperHex (by omega)
  · rw [List.mem_singleton] at hb
    rw [hb]
    exact pathByte_of_not_shouldEscape (by simpa using h)

structure Located (scheme host path : Bytes) (u : URL) : Prop where
  scheme_eq : u.scheme = scheme
  opaque_eq : u.opaqueText = []
  user_eq : u.user = none
  host_eq : u.host = host
  path_eq : u.path = path
  raw : u.rawPath = [] ∨ u.rawPath.head? = some slash
  query : hash ∉ u.rawQuery ∧ u.rawQuery.any isControl = false

lemma Located.escapedPath (h : Located scheme host path u) (hp : path.head? = some slash) :
    (∀ c ∈ u.escapedPath, PathByte c) ∧ u.escapedPath.head? = some slash ∧ unescape u.escapedPath = .ok path := by
  rw [URL.escapedPath, h.path_eq]
  split_ifs with hr hs
  · exact ⟨pathByte_of_validEncoded hr.2.1, h.raw.resolve_left hr.1, hr.2.2⟩
  · rw [hs] at hp
    exact absurd hp (by decide)
  · obtain ⟨q, rfl⟩ := exists_cons_of_head? hp
    exact ⟨pathByte_of_escape, rfl, unescape_escape⟩

lemma unescape_escapedFragment {u : URL} : unescape u.escapedFragment = .ok u.fragment := by
  rw [URL.escapedFragment, encoded]
  split_ifs with h
  · exact h.2.2
  · exact unescape_escape

def URL.queryText (u : URL) : Bytes := if u.forceQuery ∨ u.rawQuery ≠ [] then question :: u.rawQuery else []

def URL.fragmentText (u : URL) : Bytes := if u.fragment = [] then [] else hash :: u.escapedFragment

lemma Located.string (h : Located scheme host path u) (hs : Plain scheme) (hh : Plain host)
    (hp : path.head? = some slash) : u.string au =
      scheme ++ colon :: slash :: slash :: (host ++ (u.escapedPath ++ u.queryText ++ u.fragmentText)) := by
  have hhead := (h.escapedPath hp).2.1
  have ha : u.authorityText au = slash :: slash :: host := by
    rw [URL.authorityText, if_neg (fun hn => hs.1 (h.scheme_eq ▸ hn.1)), if_neg (fun hn => hh.1 (h.host_eq ▸ hn.2.1)),
      if_pos (.inl (h.host_eq ▸ hh.1)), h.user_eq, if_neg (h.host_eq ▸ hh.1), h.host_eq,
      au.hostText_plain hh]
    rfl
  rw [URL.string, h.opaque_eq, if_neg (by simp), URL.hierarchyText, ha, h.scheme_eq, if_neg hs.1]
  have hsl : ¬(u.escapedPath ≠ [] ∧ u.escapedPath.head? ≠ some slash ∧ u.host ≠ []) := fun hn => hn.2.1 hhead
  simp only [if_neg hsl]
  rw [if_neg (by simp), URL.queryText, URL.fragmentText]
  simp only [List.append_assoc, List.cons_append, List.nil_append, List.append_nil]

variable {rest : Bytes}

lemma located_query (hc : (cut hash rest).1.any isControl = false) :
    hash ∉ (cut question (cut hash rest).1).2 ∧ (cut question (cut hash rest).1).2.any isControl = false := by
  have hs : ∀ c ∈ (cut question (cut hash rest).1).2, c ∈ (cut hash rest).1 := by
    intro c hm
    exact (List.dropWhile_sublist _).subset (List.mem_of_mem_tail hm)
  refine ⟨fun hm => (cut_spec hash rest).1 (hs _ hm), ?_⟩
  rw [List.any_eq_false] at hc ⊢
  exact fun c hm => hc c (hs c hm)

lemma located_located (hr : rest.head? = some slash) (hc : (cut hash rest).1.any isControl = false) {path : Bytes} :
    Located scheme host path (located scheme host (cut hash rest).1 path) := by
  refine ⟨rfl, rfl, rfl, rfl, rfl, ?_, located_query hc⟩
  rw [located, rawHint]
  split_ifs
  · exact .inl rfl
  · exact .inr (head?_cut (head?_cut hr (by decide)) (by decide))

lemma Located.withFragment {f : Bytes} {u' : URL} (h : Located scheme host path u) (hf : u.withFragment f = .ok u') :
    Located scheme host path u' := by
  rw [URL.withFragment, URL.setFragment] at hf
  split_ifs at hf
  · cases hf
    exact h
  · split at hf
    · cases hf
    · cases hf
      exact ⟨h.scheme_eq, h.opaque_eq, h.user_eq, h.host_eq, h.path_eq, h.raw, h.query⟩

lemma located_of_parse (hs : Plain scheme) (hh : Plain host) (hr : rest.head? = some slash)
    (h : parse au (scheme ++ colon :: slash :: slash :: (host ++ rest)) = .ok u) :
    ∃ path, unescape (cut question (cut hash rest).1).1 = .ok path ∧ Located scheme host path u := by
  rw [parse_plain hs hh hr] at h
  split_ifs at h with hc
  rw [Bool.not_eq_true] at hc
  split at h
  · cases h
  · next path hu =>
    exact ⟨path, hu, (located_located hr hc).withFragment h⟩

lemma Located.parse_string (h : Located scheme host path u) (hs : Plain scheme) (hh : Plain host)
    (hp : path.head? = some slash) : ∃ u', parse au (u.string au) = .ok u' ∧ Located scheme host path u' := by
  obtain ⟨hb, hhead, hpath⟩ := h.escapedPath hp
  have hq : ∀ c ∈ u.queryText, c ≠ hash ∧ isControl c = false := by
    intro c hc
    rw [URL.queryText] at hc
    split_ifs at hc
    · rcases List.mem_cons.mp hc with rfl | hc
      · decide
      · refine ⟨fun he => h.query.1 (he ▸ hc), ?_⟩
        simpa using List.any_eq_false.mp h.query.2 c hc
    · cases hc
  have hm : ∀ c ∈ u.escapedPath ++ u.queryText, c ≠ hash ∧ isControl c = false := by
    intro c hc
    rcases List.mem_append.mp hc with hc | hc
    · exact ⟨(hb c hc).1, (hb c hc).2.2⟩
    · exact hq c hc
  have hhash : hash ∉ u.escapedPath ++ u.queryText := fun hmem => (hm hash hmem).1 rfl
  have hco : (u.escapedPath ++ u.queryText).any isControl = false := by
    rw [List.any_eq_false]
    intro c hc
    rw [(hm c hc).2]
    decide
  have hcut : cut hash (u.escapedPath ++ u.queryText ++ u.fragmentText) =
      (u.escapedPath ++ u.queryText, if u.fragment = [] then [] else u.escapedFragment) := by
    rw [cut_append hhash, URL.fragmentText]
    split_ifs
    · simp [cut]
    · simp [cut_self]
  have hfi : (cut question (u.escapedPath ++ u.queryText)).1 = u.escapedPath := by
    rw [cut_append fun hmem => (hb question hmem).2.1 rfl, URL.queryText]
    split_ifs
    · simp [cut_self]
    · simp [cut]
  have hr : (u.escapedPath ++ u.queryText ++ u.fragmentText).head? = some slash := by
    rw [List.append_assoc, List.head?_append, hhead, Option.some_or]
  have hlo : Located scheme host path (located scheme host (u.escapedPath ++ u.queryText) path) := by
    have hl : Located scheme host path (located scheme host _ path) :=
      located_located hr (by rw [hcut]; exact hco)
    rwa [hcut] at hl
  obtain ⟨u', hu'⟩ : ∃ u', (located scheme host (u.escapedPath ++ u.queryText) path).withFragment
      (if u.fragment = [] then [] else u.escapedFragment) = .ok u' := by
    by_cases hf : u.fragment = []
    · rw [if_pos hf]
      exact ⟨_, rfl⟩
    · rw [if_neg hf, URL.withFragment, URL.setFragment, unescape_escapedFragment]
      split_ifs <;> exact ⟨_, rfl⟩
  refine ⟨u', ?_, hlo.withFragment hu'⟩
  rw [h.string hs hh hp, parse_plain hs hh hr, hcut]
  dsimp only
  rwa [hco, if_neg (by decide), hfi, hpath]

def URL.Bare (u : URL) : Prop := u.forceQuery = false ∧ u.rawQuery = [] ∧ u.fragment = []

lemma URL.Bare.text (h : u.Bare) : u.queryText = [] ∧ u.fragmentText = [] := by
  obtain ⟨hf, hq, hr⟩ := h
  exact ⟨by simp [URL.queryText, hf, hq], by simp [URL.fragmentText, hr]⟩

lemma parse_bare (hs : Plain scheme) (hh : Plain host) (hr : rest.head? = some slash)
    (hhash : hash ∉ rest) (hq : question ∉ rest)
    (h : parse au (scheme ++ colon :: slash :: slash :: (host ++ rest)) = .ok u) : u.Bare := by
  rw [parse_plain hs hh hr, cut_of_not_mem hhash, cut_of_not_mem hq] at h
  dsimp only at h
  split_ifs at h
  split at h
  · cases h
  · cases h
    refine ⟨?_, by simp [located, cut_of_not_mem hq], rfl⟩
    rw [located, Bool.and_eq_false_iff, decide_eq_false_iff_not]
    refine .inl fun hl => hq (List.mem_of_getLast? hl)

lemma URL.Bare.parse_string {u' : URL} (hb : u.Bare) (h : Located scheme host path u) (hs : Plain scheme)
    (hh : Plain host) (hp : path.head? = some slash) (hpa : parse au (u.string au) = .ok u') : u'.Bare := by
  obtain ⟨hby, hhead, -⟩ := h.escapedPath hp
  rw [h.string hs hh hp, hb.text.1, hb.text.2, List.append_nil, List.append_nil] at hpa
  exact parse_bare hs hh hhead (fun hm => (hby _ hm).1 rfl) (fun hm => (hby _ hm).2.1 rfl) hpa

end Texts

end Cloudless.Foundations.URLs
