import Cloudless.Containers.Runtime
import Cloudless.Policy.Engine

/-! What patterns, conditions and registry lists mean, against what the evaluator makes of them. -/

namespace Cloudless.Policies

open Foundations FiniteMaps GoStd

section Patterns

def isMeta (c : Char) : Bool := c ∈ "\\.+*?()|[]\x7b\x7d^$".toList

def quoteMeta (s : List Char) : List Char := s.flatMap fun c => if isMeta c then ['\\', c] else [c]

def replaceEscaped (c : Char) (new : List Char) : List Char → List Char
  | '\\' :: d :: s => if d = c then new ++ replaceEscaped c new s else '\\' :: replaceEscaped c new (d :: s)
  | d :: s => d :: replaceEscaped c new s
  | [] => []

def regexPattern (pattern : List Char) : List Char :=
  replaceEscaped '?' ['.'] (replaceEscaped '*' ['.', '*'] ('^' :: quoteMeta pattern ++ ['$']))

inductive Atom
  | char (c : Char)
  | any
  | anything

/-- A regular expression that ends in its anchor and is made of characters and dots; no other one is asked for. -/
def parseRegex : List Char → Option (List Atom)
  | ['$'] => some []
  | '.' :: '*' :: s => (parseRegex s).map (.anything :: ·)
  | '.' :: s => (parseRegex s).map (.any :: ·)
  | '\\' :: c :: s => (parseRegex s).map (.char c :: ·)
  | c :: s => if isMeta c then none else (parseRegex s).map (.char c :: ·)
  | [] => none

def matchAtoms : List Atom → List Char → Bool
  | [], value => value.isEmpty
  | .anything :: as, value => starMatch (matchAtoms as) value
  | .any :: as, c :: cs => c ≠ '\n' && matchAtoms as cs
  | .char d :: as, c :: cs => d = c && matchAtoms as cs
  | _ :: _, [] => false

def matchString : List Char → List Char → Bool
  | '^' :: s, value => ((parseRegex s).map (matchAtoms · value)).getD false
  | _, _ => false

def atomOf (c : Char) : Atom := if c = '*' then .anything else if c = '?' then .any else .char c

def rewritten (star mark : Bool) (pattern : List Char) : List Char :=
  (pattern.flatMap fun c =>
    if c = '*' then cond star ['.', '*'] ['\\', '*']
    else if c = '?' then cond mark ['.'] ['\\', '?']
    else if isMeta c then ['\\', c] else [c]) ++ ['$']

variable {c : Char} {new p s : List Char} {star mark : Bool}

lemma rewritten_cons : rewritten star mark (c :: p) = (if c = '*' then cond star ['.', '*'] ['\\', '*']
    else if c = '?' then cond mark ['.'] ['\\', '?']
    else if isMeta c then ['\\', c] else [c]) ++ rewritten star mark p := by
  rw [rewritten, List.flatMap_cons, List.append_assoc]
  rfl

lemma head_rewritten : (rewritten star mark p).head? ≠ some '*' ∧ (rewritten star mark p).head? ≠ some '?' := by
  cases p with
  | nil => decide +revert
  | cons c p =>
    rw [rewritten_cons]
    cases star <;> cases mark <;> split_ifs <;> simp_all

lemma rewritten_of_quoteMeta : quoteMeta p ++ ['$'] = rewritten false false p := by
  rw [quoteMeta, rewritten]
  congr 2
  funext c
  split_ifs with hm hs hs hq hq <;> first | rfl | (subst_vars; revert hm; decide)

lemma replaceEscaped_cons (h : c ≠ '\\') {d : Char} : replaceEscaped d new (c :: s) = c :: replaceEscaped d new s := by
  rw [replaceEscaped]
  rintro _ _ rfl
  exact absurd rfl h

lemma replaceEscaped_escape {d : Char} (hc : c ≠ d) (hs : s.head? ≠ some d) :
    replaceEscaped d new ('\\' :: c :: s) = '\\' :: c :: replaceEscaped d new s := by
  rw [replaceEscaped, if_neg hc]
  by_cases h : c = '\\'
  · subst h
    cases s with
    | nil => rfl
    | cons e s =>
      have he : e ≠ d := fun he => hs (he ▸ rfl)
      rw [replaceEscaped, if_neg he]
  · rw [replaceEscaped_cons h]

lemma ne_of_not_isMeta {d : Char} (h : ¬isMeta c = true) (hd : isMeta d = true) : c ≠ d := by
  rintro rfl
  exact h hd

lemma replaceEscaped_star : replaceEscaped '*' ['.', '*'] (rewritten false false p) = rewritten true false p := by
  induction p with
  | nil => rfl
  | cons c p ih =>
    rw [rewritten_cons, rewritten_cons, ← ih]
    split_ifs with hs hq hm
    · simp [replaceEscaped]
    · exact replaceEscaped_escape (by decide) head_rewritten.1
    · exact replaceEscaped_escape hs head_rewritten.1
    · exact replaceEscaped_cons (ne_of_not_isMeta hm rfl)

lemma replaceEscaped_mark : replaceEscaped '?' ['.'] (rewritten true false p) = rewritten true true p := by
  induction p with
  | nil => rfl
  | cons c p ih =>
    rw [rewritten_cons, rewritten_cons, ← ih]
    split_ifs with hs hq hm
    · simp [replaceEscaped_cons]
    · simp [replaceEscaped]
    · exact replaceEscaped_escape hq head_rewritten.2
    · exact replaceEscaped_cons (ne_of_not_isMeta hm rfl)

lemma regexPattern_eq : regexPattern p = '^' :: rewritten true true p := by
  rw [regexPattern, List.cons_append, rewritten_of_quoteMeta, replaceEscaped_cons (by decide), replaceEscaped_star,
    replaceEscaped_cons (by decide), replaceEscaped_mark]

lemma parseRegex_rewritten : parseRegex (rewritten true true p) = some (p.map atomOf) := by
  induction p with
  | nil => rfl
  | cons c p ih =>
    rw [rewritten_cons, List.map_cons, atomOf]
    split_ifs with hs hq hm
    · simp [parseRegex, ih]
    · have hh : ∀ s, rewritten true true p = '*' :: s → False := by
        intro s he
        exact absurd (congrArg List.head? he) head_rewritten.1
      simp [parseRegex, ih]
    · simp [parseRegex, ih]
    · rw [List.cons_append, List.nil_append, parseRegex, if_neg hm, ih]
      · rfl
      all_goals
        intros
        exact absurd ‹c = _› (ne_of_not_isMeta hm rfl)

lemma matchAtoms_map (p : List Char) : matchAtoms (p.map atomOf) = globMatch p := by
  induction p with
  | nil => rfl
  | cons c p ih =>
    funext value
    rw [List.map_cons, atomOf]
    split_ifs with hs hq
    · rw [hs, matchAtoms, globMatch, ih]
    · cases value with
      | nil => simp [hq, matchAtoms, globMatch]
      | cons d ds => rw [hq, matchAtoms, globMatch, ih]
    · cases value with
      | nil => simp [matchAtoms, globMatch]
      | cons d ds =>
        rw [matchAtoms, globMatch, ih]
        · exact hs
        · exact hq

lemma matchesPattern_eq (ev : Evaluator) (value pattern : String) :
    ev.matchesPattern value pattern = matchString (regexPattern (ev.toLower pattern)) (ev.toLower value) := by
  rw [regexPattern_eq, matchString, parseRegex_rewritten, Option.map_some, Option.getD_some, matchAtoms_map,
    Evaluator.matchesPattern]

def Glob (same : Char → Char → Prop) : List Char → List Char → Prop
  | [], value => value = []
  | '*' :: ps, value => ∃ front cs, value = front ++ cs ∧ Glob same ps cs
  | '?' :: ps, value => ∃ c cs, value = c :: cs ∧ Glob same ps cs
  | p :: ps, value => ∃ c cs, value = c :: cs ∧ same p c ∧ Glob same ps cs

def Evaluator.Alike (ev : Evaluator) (p c : Char) : Prop := ev.lower p = ev.lower c

/-- The wildcards and the newline have one case, as in Go's tables. -/
def Evaluator.Caseless (ev : Evaluator) : Prop := ∀ d, d = '*' ∨ d = '?' ∨ d = '\n' → ∀ c, ev.lower c = d ↔ c = d

lemma starMatch_iff {rest : List Char → Bool} {value : List Char} :
    starMatch rest value = true ↔ ∃ front cs, value = front ++ cs ∧ '\n' ∉ front ∧ rest cs = true := by
  induction value with
  | nil =>
    rw [starMatch]
    constructor
    · intro h
      exact ⟨[], [], rfl, List.not_mem_nil, h⟩
    · rintro ⟨front, cs, he, -, h⟩
      obtain ⟨-, rfl⟩ := List.nil_eq_append_iff.mp he
      exact h
  | cons c value ih =>
    rw [starMatch, Bool.or_eq_true, Bool.and_eq_true, ih, decide_eq_true_eq]
    constructor
    · rintro (h | ⟨hc, front, cs, rfl, hf, h⟩)
      · exact ⟨[], _, rfl, List.not_mem_nil, h⟩
      · exact ⟨c :: front, cs, rfl, by simp [Ne.symm hc, hf], h⟩
    · rintro ⟨_ | ⟨d, front⟩, cs, he, hf, h⟩
      · exact .inl (he ▸ h)
      · obtain ⟨rfl, rfl⟩ := List.cons.inj he
        simp only [List.mem_cons, not_or] at hf
        exact .inr ⟨Ne.symm hf.1, front, cs, rfl, hf.2, h⟩

lemma Evaluator.Caseless.newline_iff {ev : Evaluator} (h : ev.Caseless) {p c : Char} (ha : ev.Alike p c) :
    p = '\n' ↔ c = '\n' := by
  rw [← h '\n' (by simp) p, ← h '\n' (by simp) c, ha]

lemma Glob.count_le {ev : Evaluator} (h : ev.Caseless) {ps value : List Char} (hg : Glob ev.Alike ps value) :
    ps.count '\n' ≤ value.count '\n' := by
  induction ps generalizing value with
  | nil => simp
  | cons p ps ih =>
    by_cases hs : p = '*'
    · rw [hs, Glob] at hg
      obtain ⟨front, cs, rfl, hg⟩ := hg
      rw [hs, List.count_append, List.count_cons_of_ne (by decide)]
      exact (ih hg).trans (Nat.le_add_left _ _)
    by_cases hq : p = '?'
    · rw [hq, Glob] at hg
      obtain ⟨c, cs, rfl, hg⟩ := hg
      rw [hq, List.count_cons_of_ne (by decide)]
      exact (ih hg).trans List.count_le_count_cons
    · rw [Glob.eq_4 _ _ _ _ hs hq] at hg
      obtain ⟨c, cs, rfl, ha, hg⟩ := hg
      have hle := ih hg
      simp only [List.count_cons, beq_iff_eq, h.newline_iff ha]
      omega

/-- In every match the wildcards stand for as many newlines as the value has more than the pattern, and the regular
expression lets them stand for none. -/
lemma globMatch_iff {ev : Evaluator} (h : ev.Caseless) {ps value : List Char} :
    globMatch (ps.map ev.lower) (value.map ev.lower) = true ↔
      Glob ev.Alike ps value ∧ value.count '\n' = ps.count '\n' := by
  have hnew : ∀ c, ev.lower c = '\n' ↔ c = '\n' := h '\n' (by simp)
  induction ps generalizing value with
  | nil =>
    rw [List.map_nil, globMatch, Glob, List.isEmpty_iff, List.map_eq_nil_iff]
    exact ⟨fun he => ⟨he, by rw [he]⟩, And.left⟩
  | cons p ps ih =>
    rw [List.map_cons]
    by_cases hs : p = '*'
    · rw [hs, (h '*' (by simp) '*').mpr rfl, globMatch, starMatch_iff, Glob, List.count_cons_of_ne (by decide)]
      constructor
      · rintro ⟨front, cs, he, hf, hg⟩
        obtain ⟨front, cs, rfl, rfl, rfl⟩ := List.map_eq_append_iff.mp he
        obtain ⟨hg, hcount⟩ := ih.mp hg
        have hfront : '\n' ∉ front := fun hm => hf (List.mem_map.mpr ⟨'\n', hm, (hnew _).mpr rfl⟩)
        exact ⟨⟨front, cs, rfl, hg⟩, by rw [List.count_append, List.count_eq_zero_of_not_mem hfront, zero_add, hcount]⟩
      · rintro ⟨⟨front, cs, rfl, hg⟩, hcount⟩
        have hle := hg.count_le h
        rw [List.count_append] at hcount
        refine ⟨_, _, List.map_append, fun hm => ?_, ih.mpr ⟨hg, by omega⟩⟩
        obtain ⟨c, hc, hl⟩ := List.mem_map.mp hm
        rw [(hnew c).mp hl] at hc
        have := List.count_pos_iff.mpr hc
        omega
    by_cases hq : p = '?'
    · rw [hq, (h '?' (by simp) '?').mpr rfl, Glob, List.count_cons_of_ne (by decide)]
      cases value with
      | nil => simp [globMatch]
      | cons c cs =>
        rw [List.map_cons, globMatch, Bool.and_eq_true, decide_eq_true_eq, ne_eq, hnew]
        refine (and_congr_right fun _ => ih).trans ⟨?_, ?_⟩
        · rintro ⟨hc, hg, hcount⟩
          exact ⟨⟨c, cs, rfl, hg⟩, by rw [List.count_cons_of_ne hc, hcount]⟩
        · rintro ⟨⟨_, _, he, hg⟩, hcount⟩
          cases he
          have hle := hg.count_le h
          rw [List.count_cons] at hcount
          split_ifs at hcount with hc
          · omega
          · exact ⟨by simpa using hc, hg, hcount⟩
    · have hs' : ev.lower p ≠ '*' := mt (h '*' (by simp) p).mp hs
      rw [Glob.eq_4 _ _ _ _ hs hq]
      cases value with
      | nil => simp [globMatch]
      | cons c cs =>
        rw [List.map_cons, globMatch, Bool.and_eq_true]
        · refine (and_congr_right fun _ => ih).trans ⟨?_, ?_⟩
          · rintro ⟨ha, hg, hcount⟩
            have ha : ev.lower p = ev.lower c := of_decide_eq_true ha
            refine ⟨⟨c, cs, rfl, ha, hg⟩, ?_⟩
            simp only [List.count_cons, beq_iff_eq, h.newline_iff ha, hcount]
          · rintro ⟨⟨_, _, he, ha, hg⟩, hcount⟩
            cases he
            simp only [List.count_cons, beq_iff_eq, h.newline_iff ha] at hcount
            exact ⟨decide_eq_true ha, hg, by omega⟩
        · exact hs'
        · exact mt (h '?' (by simp) p).mp hq

theorem pattern_matching_exact_iff {ev : Evaluator} (h : ev.Caseless) (value pattern : String) :
    ev.matchesPattern value pattern = matchString (regexPattern (ev.toLower pattern)) (ev.toLower value) ∧
    ((ev.matchesPattern value pattern = true ↔ Glob ev.Alike pattern.toList value.toList) ↔
      (Glob ev.Alike pattern.toList value.toList → value.toList.count '\n' = pattern.toList.count '\n')) := by
  refine ⟨matchesPattern_eq ev value pattern, ?_⟩
  rw [show ev.matchesPattern value pattern = true ↔ _ from globMatch_iff h]
  exact and_iff_left_iff_imp

theorem pattern_matching_exact_newline :
    (Evaluator.mk id (· == ·)).matchesPattern "a\nb" "?\n*" = true ↔ Glob (· = ·) "?\n*".toList "a\nb".toList :=
  (pattern_matching_exact_iff (fun _ _ _ => Iff.rfl) "a\nb" "?\n*").2.mpr fun _ => by decide

theorem star_stops_at_newline :
    (Evaluator.mk id (· == ·)).matchesPattern "a\nb" "*" = false ∧ Glob (· = ·) ['*'] ['a', '\n', 'b'] :=
  ⟨by decide, ['a', '\n', 'b'], [], rfl, rfl⟩

end Patterns

section Conditions

def Supported (field : String) : Prop :=
  field ∈ ["namespace", "name", "image", "privileged", "hostNetwork"] ∨ ∃ key, key ≠ "" ∧ field = "labels." ++ key

def Present (spec : WorkloadSpec) (field : String) : Prop :=
  ∀ key, key ≠ "" → field = "labels." ++ key → (spec.labels.lookup key).isSome

namespace Condition

variable (pattern : String → String → Prop) (spec : WorkloadSpec)

def Fits (c : Condition) : Prop :=
  ∃ s p, getFieldValue c.field spec = .string s ∧ c.value = .string p ∧ pattern s p

def Means (c : Condition) : Prop :=
  match c.operator with
  | .equal => (getFieldValue c.field spec).equals c.value = true
  | .notEqual => ¬(getFieldValue c.field spec).equals c.value = true
  | .in => ∃ v ∈ c.value.asList, (getFieldValue c.field spec).equals v = true
  | .notIn => ¬∃ v ∈ c.value.asList, (getFieldValue c.field spec).equals v = true
  | .exists => Present spec c.field
  | .doesNotExist => ¬Present spec c.field
  | .matches => c.Fits pattern spec
  | .doesNotMatch => ¬c.Fits pattern spec
  | .other _ => False

/-- A label that is asked for is there, and no condition on a pattern holds. -/
def Honoured (c : Condition) : Prop :=
  match c.operator with
  | .exists | .doesNotExist => Present spec c.field
  | .matches => ¬c.Fits pattern spec
  | .doesNotMatch => c.Fits pattern spec
  | _ => True

end Condition

lemma getFieldValue_ne_nil {field : String} (h : Supported field) (spec : WorkloadSpec) :
    getFieldValue field spec ≠ .nil := by
  rw [getFieldValue]
  rcases h with h | ⟨key, hk, rfl⟩
  · simp only [List.mem_cons, List.not_mem_nil, or_false] at h
    rcases h with rfl | rfl | rfl | rfl | rfl <;> simp
  · have hl : hasPrefix ("labels." ++ key) "labels." = true ∧ "labels." ++ key ≠ "labels." := by
      refine ⟨hasPrefix_append .., fun he => hk ?_⟩
      simpa using congrArg String.toList he
    split_ifs <;> simp

lemma Condition.evaluate_iff (pattern : String → String → Prop) (spec : WorkloadSpec) {c : Condition}
    (h : Supported c.field) : (evaluateCondition c spec = true ↔ c.Means pattern spec) ↔ c.Honoured pattern spec := by
  have hn := getFieldValue_ne_nil h spec
  rw [evaluateCondition, Means, Honoured]
  cases c.operator with
  | equal | notEqual | «in» | notIn | other => simp
  | «exists» | doesNotExist => simp [hn]
  | «matches» | doesNotMatch => simp

theorem rule_conditions_mean_iff (pattern : String → String → Prop) (spec : WorkloadSpec) (conditions : List Condition)
    (h : ∀ c ∈ conditions, Supported c.field) : (∀ c ∈ conditions,
      (evaluateCondition c spec = true ↔ c.Means pattern spec) ↔ c.Honoured pattern spec) ∧
    ((∀ c ∈ conditions, c.Means pattern spec) →
      (evaluateConditions conditions spec = true ↔ ∀ c ∈ conditions, c.Honoured pattern spec)) := by
  refine ⟨fun c hc => Condition.evaluate_iff pattern spec (h c hc), fun hm => ?_⟩
  rw [evaluateConditions, List.all_eq_true]
  refine forall₂_congr fun c hc => ?_
  rw [← Condition.evaluate_iff pattern spec (h c hc)]
  exact (iff_true_right (hm c hc)).symm

theorem rule_conditions_mean_name : evaluateCondition ⟨"name", .notEqual, .string "db"⟩ Engine.plainSpec = true ↔
      Condition.Means (· = ·) Engine.plainSpec ⟨"name", .notEqual, .string "db"⟩ :=
  ((rule_conditions_mean_iff (· = ·) Engine.plainSpec [⟨"name", .notEqual, .string "db"⟩]
    (by simp [Supported])).1 _ (List.mem_singleton_self _)).mpr trivial

theorem conditions_ignored :
    evaluateCondition ⟨"labels.env", .exists, .nil⟩ Engine.plainSpec = true ∧ ¬Present Engine.plainSpec "labels.env" ∧
    evaluateCondition ⟨"labels.env", .doesNotExist, .nil⟩ Engine.plainSpec = false ∧
    ∀ value, evaluateCondition ⟨"image", .matches, value⟩ Engine.plainSpec = false ∧
      evaluateCondition ⟨"image", .doesNotMatch, value⟩ Engine.plainSpec = false := by
  refine ⟨by decide +kernel, fun h => ?_, by decide +kernel, fun _ => ⟨rfl, rfl⟩⟩
  exact absurd (h "env" (by decide) (by decide)) (by decide)

end Conditions

section Registries

/-- The registry that the runtime pulls an image from. -/
def pulledFrom (image : String) : String :=
  String.ofList ((Containers.normalizeImageRef image).toList.takeWhile (· ≠ '/'))

lemma extractRegistry_eq (image : String) : extractRegistry image = pulledFrom image := by
  rw [pulledFrom, extractRegistry, Containers.normalizeImageRef, splitN2]
  split_ifs with hs
  · dsimp only
    split_ifs
    · rfl
    · rw [String.toList_append]
      rfl
  · rw [String.toList_append]
    rfl

lemma listed_map {pairs : String → String → Bool} {item : String} {entries : List String} :
    listed pairs item (entries.map .string) = entries.any (pairs item) := by
  have he : (entries.map Value.string).filterMap Value.asString = entries := by
    rw [List.filterMap_map]
    exact List.filterMap_some
  rw [listed, he]

theorem image_admission_exact (pairs : String → String → Bool) (rule : Rule) (spec : WorkloadSpec)
    (allowed denied : List String) (ha : rule.entries "allowed_registries" = allowed.map .string)
    (hd : rule.entries "denied_registries" = denied.map .string) : imageRegistryViolations pairs rule spec = [] ↔
      (∀ entry ∈ denied, pairs (pulledFrom spec.image) entry = false) ∧
      (allowed ≠ [] → ∃ entry ∈ allowed, pairs (pulledFrom spec.image) entry = true) := by
  rw [imageRegistryViolations]
  simp only [ha, hd, extractRegistry_eq, listed_map]
  split_ifs with hden hall
  · obtain ⟨entry, hm, hp⟩ := List.any_eq_true.mp hden
    exact iff_of_false id fun h => by simp [h.1 entry hm] at hp
  · refine iff_of_false id fun h => ?_
    simp only [Bool.and_eq_true, Bool.not_eq_true', List.isEmpty_eq_false_iff, List.any_eq_false] at hall
    obtain ⟨entry, hm, hp⟩ := h.2 (by simpa using hall.1)
    exact hall.2 entry hm hp
  · refine iff_of_true rfl ⟨by simpa using hden, fun hne => ?_⟩
    simpa [hne] using hall

def registryRule : Rule where
  name := "registries"
  type := .imageRegistry
  config := ((∅ : FMap String Value).insert "allowed_registries" (.list [.string "gcr.io", .string "docker.io"])).insert
    "denied_registries" (.list [.string "quay.io"])

theorem image_admission_exact_docker : imageRegistryViolations (· == ·) registryRule Engine.plainSpec = [] ∧
    imageRegistryViolations (· == ·) registryRule { Engine.plainSpec with image := "quay.io/org/tool" } ≠ [] := by
  have h := fun spec => image_admission_exact (· == ·) registryRule spec ["gcr.io", "docker.io"] ["quay.io"] rfl rfl
  refine ⟨(h _).mpr ⟨by decide +kernel, fun _ => by decide +kernel⟩, mt (h _).mp fun hv => ?_⟩
  exact absurd (hv.1 "quay.io" (List.mem_singleton_self _)) (by decide +kernel)

end Registries

end Cloudless.Policies
