import Cloudless.Policy.Evaluator

namespace Cloudless.Policies

open Foundations FiniteMaps GoStd EvaluationResult

inductive FieldValue
  | nil
  | string (s : String)
  | bool (b : Bool)
  deriving DecidableEq

def FieldValue.equals : FieldValue → Value → Bool
  | .nil, .nil => true
  | .string s, .string t => s == t
  | .bool b, .bool c => b == c
  | _, _ => false

def getFieldValue (field : String) (spec : WorkloadSpec) : FieldValue :=
  if field = "namespace" then .string spec.ns
  else if field = "name" then .string spec.name
  else if field = "image" then .string spec.image
  else if field = "privileged" then .bool spec.privileged
  else if field = "hostNetwork" then .bool spec.hostNetwork
  else if hasPrefix field "labels." ∧ field ≠ "labels." then
    .string ((spec.labels.lookup (trimPrefix field "labels.")).getD "")
  else .nil

def evaluateCondition (condition : Condition) (spec : WorkloadSpec) : Bool :=
  let fieldValue := getFieldValue condition.field spec
  match condition.operator with
  | .equal => fieldValue.equals condition.value
  | .notEqual => !fieldValue.equals condition.value
  | .in => condition.value.asList.any fieldValue.equals
  | .notIn => !condition.value.asList.any fieldValue.equals
  | .exists => fieldValue ≠ .nil
  | .doesNotExist => fieldValue = .nil
  | .matches | .doesNotMatch | .other _ => false

def evaluateConditions (conditions : List Condition) (spec : WorkloadSpec) : Bool :=
  conditions.all fun condition => evaluateCondition condition spec

def policyApplies (policy : Policy) (spec : WorkloadSpec) : Bool :=
  (policy.ns = "" || policy.ns = spec.ns || policy.ns = "*") &&
    !hasEntry (fun key value => spec.labels.lookup key ≠ some value) policy.labels

structure PolicyEvalResult where
  matched : Bool
  violations : List Violation
  message : String

def evaluatePolicy (ev : Evaluator) (rt : Runtime) (policy : Policy) (spec : WorkloadSpec) : PolicyEvalResult :=
  if policy.rules.isEmpty && policy.action = .allow then
    { matched := true
      violations := []
      message := "Allow policy " ++ policy.name ++ " matched (no specific rules)" }
  else
    let evaluated := policy.rules.filter fun rule => evaluateConditions rule.conditions spec
    let violations := evaluated.flatMap fun rule => evaluateRule ev rt rule spec
    { matched := !evaluated.isEmpty
      violations := violations
      message :=
        if evaluated.isEmpty then ""
        else "Policy " ++ policy.name ++ " evaluated with " ++ toString violations.length ++ " violation(s)" }

namespace EvaluationResult

def start (policyCount : ℕ) : EvaluationResult where
  allowed := true
  reason := ""
  matchedPolicies := []
  violations := []
  auditEntries := []
  policyCount := policyCount

variable (result : EvaluationResult)

def record (policy : Policy) (policyResult : PolicyEvalResult) : EvaluationResult :=
  let result := { result with matchedPolicies := result.matchedPolicies ++ [policy.name] }
  match policy.action with
  | .deny =>
    if policyResult.violations.isEmpty then result
    else { result with allowed := false, violations := result.violations ++ policyResult.violations }
  | .allow => if result.allowed then { result with reason := "Allowed by policy: " ++ policy.name } else result
  | .audit =>
    let entry : AuditEntry := ⟨policy.name, "audit", policyResult.message, "audit"⟩
    { result with auditEntries := result.auditEntries ++ [entry] }
  | .other _ => result

def applyDefault (defaultAction : PolicyAction) : EvaluationResult :=
  if result.matchedPolicies.isEmpty then
    if defaultAction = .deny then
      { result with allowed := false, reason := "No matching allow policy (default deny)" }
    else { result with allowed := true, reason := "No matching deny policy (default allow)" }
  else result

def explain : EvaluationResult :=
  if !result.allowed && result.reason = "" then
    { result with reason := toString result.violations.length ++ " policy violation(s)" }
  else result

end EvaluationResult

structure Call where
  policies : List (String × Policy)
  rt : Runtime
  (now done : Time)
  timedOut : ℕ → Bool

def considerPolicy (ev : Evaluator) (rt : Runtime) (spec : WorkloadSpec) (result : EvaluationResult)
    (policy : Policy) : EvaluationResult :=
  if !policy.enabled then result
  else if !policyApplies policy spec then result
  else
    let policyResult := evaluatePolicy ev rt policy spec
    if policyResult.matched then result.record policy policyResult else result

def evaluatePolicies (ev : Evaluator) (rt : Runtime) (timedOut : ℕ → Bool) (spec : WorkloadSpec) :
    ℕ → List Policy → EvaluationResult → Except String EvaluationResult
  | _, [], result => .ok result
  | i, policy :: policies, result =>
    if timedOut i then .error "policy evaluation timeout exceeded"
    else evaluatePolicies ev rt timedOut spec (i + 1) policies (considerPolicy ev rt spec result policy)

def getSortedPolicies (call : Call) : List Policy :=
  call.rt.sortSlice (fun p q => q.priority < p.priority)
    ((call.policies.map Prod.snd).filter fun policy => policy.deletedAt.isNone)

def evaluateUncached (ev : Evaluator) (config : EngineConfig) (call : Call) (spec : WorkloadSpec) :
    Except String EvaluationResult :=
  let policies := getSortedPolicies call
  (evaluatePolicies ev call.rt call.timedOut spec 0 policies (.start policies.length)).map fun result =>
    (result.applyDefault config.defaultAction).explain

section View

variable (ev : Evaluator) (rt : Runtime) (spec : WorkloadSpec)

variable {policy : Policy}

lemma evaluatePolicy_view : evaluatePolicy ev rt policy spec.view = evaluatePolicy ev rt policy spec := by
  simp only [evaluatePolicy, evaluateRule_view]
  rfl

lemma considerPolicy_view {re : EvaluationResult} :
    considerPolicy ev rt spec.view re policy = considerPolicy ev rt spec re policy := by
  have ha : policyApplies policy spec.view = policyApplies policy spec := rfl
  simp only [considerPolicy, ha, evaluatePolicy_view]

lemma evaluatePolicies_view {timedOut : ℕ → Bool} {i : ℕ} {policies : List Policy} {result : EvaluationResult} :
    evaluatePolicies ev rt timedOut spec.view i policies result =
      evaluatePolicies ev rt timedOut spec i policies result := by
  induction policies generalizing i result with
  | nil => rfl
  | cons policy policies ih => rw [evaluatePolicies, evaluatePolicies, considerPolicy_view, ih]

lemma evaluateUncached_view {ev : Evaluator} {config : EngineConfig} {call : Call} {s t : WorkloadSpec}
    (h : s.view = t.view) : evaluateUncached ev config call s = evaluateUncached ev config call t := by
  rw [evaluateUncached, evaluateUncached, ← evaluatePolicies_view, h, evaluatePolicies_view]

end View

structure CachedResult where
  result : EvaluationResult
  expiresAt : Time

structure Engine where
  config : EngineConfig
  evaluator : Evaluator
  policies : FMap String Policy := ∅
  cache : FMap String CachedResult := ∅

def getCacheKey (spec : WorkloadSpec) : String := spec.ns ++ "/" ++ spec.name ++ "/" ++ spec.image

namespace Engine

variable (e : Engine)

def getCachedResult (now : Time) (spec : WorkloadSpec) : Option EvaluationResult :=
  match e.cache.lookup (getCacheKey spec) with
  | some cached => if now < cached.expiresAt then some cached.result else none
  | none => none

def cacheResult (now : Time) (spec : WorkloadSpec) (result : EvaluationResult) : Engine :=
  { e with cache := e.cache.insert (getCacheKey spec) ⟨result, now + e.config.cacheTTL⟩ }

def evaluate (call : Call) (spec : WorkloadSpec) : Engine × Except String EvaluationResult :=
  match if e.config.cacheEnabled then e.getCachedResult call.now spec else none with
  | some cached => (e, .ok cached)
  | none =>
    match evaluateUncached e.evaluator e.config call spec with
    | .error err => (e, .error err)
    | .ok result => (if e.config.cacheEnabled then e.cacheResult call.done spec result else e, .ok result)

def addPolicy : Option Policy → Engine × Except String Unit
  | none => (e, .error "policy is nil")
  | some policy =>
    if policy.name = "" then (e, .error "policy name is required")
    else ({ e with policies := e.policies.insert policy.name policy, cache := ∅ }, .ok ())

def removePolicy (name : String) : Engine × Except String Unit :=
  if (e.policies.lookup name).isNone then (e, .error ("policy not found: " ++ name))
  else ({ e with policies := e.policies.erase name, cache := ∅ }, .ok ())

structure Matching (e : Engine) (rt : Runtime) (spec : WorkloadSpec) (policy : Policy) : Prop where
  installed : ∃ name, e.policies.lookup name = some policy
  live : policy.deletedAt = none
  enabled : policy.enabled = true
  applies : policyApplies policy spec = true
  matched : (evaluatePolicy e.evaluator rt policy spec).matched = true

end Engine

def selects (ev : Evaluator) (rt : Runtime) (spec : WorkloadSpec) (policy : Policy) : Bool :=
  policy.enabled && policyApplies policy spec && (evaluatePolicy ev rt policy spec).matched

def rejects (ev : Evaluator) (rt : Runtime) (spec : WorkloadSpec) (policy : Policy) : Bool :=
  selects ev rt spec policy && policy.action = .deny && !(evaluatePolicy ev rt policy spec).violations.isEmpty

section Decision

variable (ev : Evaluator) (rt rt' : Runtime) (spec : WorkloadSpec) (r : EvaluationResult) (policy : Policy)

lemma evaluatePolicy_matched :
    (evaluatePolicy ev rt policy spec).matched = (evaluatePolicy ev rt' policy spec).matched := by
  rw [evaluatePolicy, evaluatePolicy]
  split <;> rfl

lemma evaluatePolicy_violations_perm :
    (evaluatePolicy ev rt policy spec).violations.Perm (evaluatePolicy ev rt' policy spec).violations := by
  rw [evaluatePolicy, evaluatePolicy]
  split
  · exact List.Perm.refl _
  · exact List.Perm.flatMap_left _ fun ru _ => evaluateRule_perm ev rt rt' ru spec

lemma selects_runtime : selects ev rt spec policy = selects ev rt' spec policy := by
  rw [selects, selects, evaluatePolicy_matched ev rt rt']

lemma rejects_runtime : rejects ev rt spec policy = rejects ev rt' spec policy := by
  have he : (evaluatePolicy ev rt policy spec).violations.isEmpty =
      (evaluatePolicy ev rt' policy spec).violations.isEmpty := by
    rw [Bool.eq_iff_iff, List.isEmpty_iff, List.isEmpty_iff]
    constructor
    · intro h
      exact (h ▸ evaluatePolicy_violations_perm ev rt rt' spec policy).symm.eq_nil
    · intro h
      exact (h ▸ evaluatePolicy_violations_perm ev rt rt' spec policy).eq_nil
  rw [rejects, rejects, selects_runtime ev rt rt', he]

lemma considerPolicy_spec (result : EvaluationResult) (policy : Policy) :
    (considerPolicy ev rt spec result policy).allowed = (result.allowed && !rejects ev rt spec policy) ∧
    (considerPolicy ev rt spec result policy).matchedPolicies =
      result.matchedPolicies ++ (if selects ev rt spec policy then [policy.name] else []) ∧
    (considerPolicy ev rt spec result policy).violations = result.violations ++
        (if rejects ev rt spec policy then (evaluatePolicy ev rt policy spec).violations else []) := by
  cases hs : selects ev rt spec policy with
  | false =>
    have hc : considerPolicy ev rt spec result policy = result := by
      simp only [selects, Bool.and_eq_false_iff] at hs
      simp only [considerPolicy]
      rcases hs with (hs | hs) | hs <;> simp [hs]
    simp [hc, rejects, hs]
  | true =>
    have hm := hs
    simp only [selects, Bool.and_eq_true] at hm
    obtain ⟨⟨he, ha⟩, hm⟩ := hm
    have hc : considerPolicy ev rt spec result policy = result.record policy (evaluatePolicy ev rt policy spec) := by
      simp [considerPolicy, he, ha, hm]
    rw [hc]
    simp only [rejects, hs, record]
    cases hact : policy.action with
    | deny => cases (evaluatePolicy ev rt policy spec).violations <;> simp
    | allow => cases result.allowed <;> simp
    | audit | other => simp

lemma foldl_considerPolicy (ps : List Policy) (re : EvaluationResult) :
    (ps.foldl (considerPolicy ev rt spec) re).allowed =
      (re.allowed && ps.all fun policy => !rejects ev rt spec policy) ∧
    (ps.foldl (considerPolicy ev rt spec) re).matchedPolicies =
      re.matchedPolicies ++ (ps.filter (selects ev rt spec)).map Policy.name ∧
    (ps.foldl (considerPolicy ev rt spec) re).violations = re.violations ++
        (ps.filter (rejects ev rt spec)).flatMap fun policy => (evaluatePolicy ev rt policy spec).violations := by
  induction ps generalizing re with
  | nil => simp
  | cons policy ps ih =>
    obtain ⟨ha, hm, hv⟩ := considerPolicy_spec ev rt spec re policy
    obtain ⟨iha, ihm, ihv⟩ := ih (considerPolicy ev rt spec re policy)
    rw [List.foldl_cons, iha, ihm, ihv, ha, hm, hv]
    refine ⟨by rw [List.all_cons, Bool.and_assoc], ?_, ?_⟩
    · cases hs : selects ev rt spec policy <;> simp [hs]
    · cases hr : rejects ev rt spec policy <;> simp [hr]

variable {ev rt spec}

lemma evaluatePolicies_ok {timedOut : ℕ → Bool} {policies : List Policy} {i : ℕ} {result r : EvaluationResult}
    (h : evaluatePolicies ev rt timedOut spec i policies result = .ok r) :
    r = policies.foldl (considerPolicy ev rt spec) result := by
  induction policies generalizing i result with
  | nil =>
    cases h
    rfl
  | cons policy policies ih =>
    rw [evaluatePolicies] at h
    split at h
    · cases h
    · exact ih h

@[simp] lemma explain_allowed : r.explain.allowed = r.allowed := by
  rw [explain]
  split <;> rfl

@[simp] lemma explain_violations : r.explain.violations = r.violations := by
  rw [explain]
  split <;> rfl

variable {a : PolicyAction}

@[simp] lemma applyDefault_violations : (r.applyDefault a).violations = r.violations := by
  rw [applyDefault]
  split
  · split <;> rfl
  · rfl

lemma applyDefault_allowed :
    (r.applyDefault a).allowed = if r.matchedPolicies = [] then decide (a ≠ .deny) else r.allowed := by
  rw [applyDefault]
  simp only [List.isEmpty_iff]
  split_ifs with hm hd
  · simp [hd]
  · simp [hd]
  · rfl

lemma evaluateUncached_ok {c : EngineConfig} {call : Call} {r : EvaluationResult}
    (h : evaluateUncached ev c call spec = .ok r) :
    r.allowed = (if (getSortedPolicies call).any (selects ev call.rt spec) then
      (getSortedPolicies call).all fun policy => !rejects ev call.rt spec policy
      else decide (c.defaultAction ≠ .deny)) ∧
    r.violations = ((getSortedPolicies call).filter (rejects ev call.rt spec)).flatMap fun policy =>
      (evaluatePolicy ev call.rt policy spec).violations := by
  rw [evaluateUncached] at h
  cases hp : evaluatePolicies ev call.rt call.timedOut spec 0 (getSortedPolicies call)
      (.start (getSortedPolicies call).length) with
  | error err =>
    simp only [hp] at h
    cases h
  | ok raw =>
    simp only [hp] at h
    cases h
    obtain ⟨ha, hm, hv⟩ := foldl_considerPolicy ev call.rt spec (getSortedPolicies call)
      (.start (getSortedPolicies call).length)
    rw [← evaluatePolicies_ok hp] at ha hm hv
    refine ⟨?_, by simpa [start] using hv⟩
    rw [explain_allowed, applyDefault_allowed, ha, hm]
    simp only [start, List.nil_append, List.map_eq_nil_iff, List.filter_eq_nil_iff, Bool.true_and]
    by_cases hs : (getSortedPolicies call).any (selects ev call.rt spec) = true
    · rw [if_pos hs, if_neg]
      rw [List.any_eq_true] at hs
      obtain ⟨policy, hmem, hsel⟩ := hs
      exact fun hn => hn policy hmem hsel
    · rw [if_neg hs, if_pos]
      rw [List.any_eq_true] at hs
      exact fun policy hmem hsel => hs ⟨policy, hmem, hsel⟩

end Decision

namespace Engine

variable {e : Engine} {call : Call} {spec : WorkloadSpec} {policy : Policy}

lemma mem_getSortedPolicies (hl : Enumerates call.policies e.policies) :
    policy ∈ getSortedPolicies call ↔ (∃ n, e.policies.lookup n = some policy) ∧ policy.deletedAt = none := by
  rw [getSortedPolicies, (call.rt.sortSlice_perm _ _).mem_iff]
  simp [hl.mem]

variable {rt : Runtime}

lemma any_selects_iff (hl : Enumerates call.policies e.policies) :
    (getSortedPolicies call).any (selects e.evaluator rt spec) = true ↔ ∃ policy, e.Matching rt spec policy := by
  simp only [List.any_eq_true, mem_getSortedPolicies hl, selects, Bool.and_eq_true]
  constructor
  · rintro ⟨policy, ⟨hi, hd⟩, ⟨he, ha⟩, hm⟩
    exact ⟨policy, hi, hd, he, ha, hm⟩
  · rintro ⟨policy, hi, hd, he, ha, hm⟩
    exact ⟨policy, ⟨hi, hd⟩, ⟨he, ha⟩, hm⟩

def Rejecting (e : Engine) (rt : Runtime) (spec : WorkloadSpec) (policy : Policy) : Prop :=
  e.Matching rt spec policy ∧ policy.action = .deny ∧ (evaluatePolicy e.evaluator rt policy spec).violations ≠ []

lemma all_not_rejects_iff (hl : Enumerates call.policies e.policies) :
    ((getSortedPolicies call).all fun policy => !rejects e.evaluator rt spec policy) = true ↔
      ¬∃ policy, e.Rejecting rt spec policy := by
  simp only [List.all_eq_true, mem_getSortedPolicies hl, rejects, selects, Bool.not_eq_true', Rejecting, not_exists]
  constructor
  · rintro h policy ⟨⟨hi, hd, he, ha, hm⟩, hdeny, hv⟩
    have hr := h policy ⟨hi, hd⟩
    simp [he, ha, hm, hdeny, hv] at hr
  · intro h policy hp
    by_contra hr
    simp only [Bool.not_eq_false, Bool.and_eq_true, decide_eq_true_eq, Bool.not_eq_true',
      List.isEmpty_eq_false_iff] at hr
    obtain ⟨⟨⟨⟨he, ha⟩, hm⟩, hdeny⟩, hv⟩ := hr
    exact h policy ⟨⟨hp.1, hp.2, he, ha, hm⟩, hdeny, hv⟩

lemma evaluate_config (e : Engine) (call : Call) (spec : WorkloadSpec) :
    (e.evaluate call spec).1.config = e.config ∧ (e.evaluate call spec).1.policies = e.policies ∧
      (e.evaluate call spec).1.evaluator = e.evaluator := by
  rw [evaluate]
  split
  · exact ⟨rfl, rfl, rfl⟩
  · split
    · exact ⟨rfl, rfl, rfl⟩
    · split_ifs <;> exact ⟨rfl, rfl, rfl⟩

lemma evaluate_cacheOff (hc : e.config.cacheEnabled = false) :
    (e.evaluate call spec).2 = evaluateUncached e.evaluator e.config call spec := by
  simp only [evaluate, hc, Bool.false_eq_true, if_false]
  cases evaluateUncached e.evaluator e.config call spec <;> rfl

def withoutCache (e : Engine) : Engine := { e with config := { e.config with cacheEnabled := false } }

lemma evaluate_withoutCache :
    (e.withoutCache.evaluate call spec).2 = evaluateUncached e.evaluator e.config call spec := by
  rw [evaluate_cacheOff rfl]
  rfl

def Live (e : Engine) (now : Time) (spec : WorkloadSpec) (cached : CachedResult) : Prop :=
  e.config.cacheEnabled = true ∧ e.cache.lookup (getCacheKey spec) = some cached ∧ now < cached.expiresAt

/-- What a positive verdict rests on: a live entry that allows, or else, within the deadline, a match that no deny
policy spoils, or no match and a default action other than Deny. -/
def Admits (e : Engine) (call : Call) (spec : WorkloadSpec) : Prop :=
  (∃ cached, e.Live call.now spec cached ∧ cached.result.allowed = true) ∨
  (¬∃ cached, e.Live call.now spec cached) ∧ (∀ i < (getSortedPolicies call).length, call.timedOut i = false) ∧
    ((∃ policy, e.Matching call.rt spec policy) ∧ (¬∃ policy, e.Rejecting call.rt spec policy) ∨
      (¬∃ policy, e.Matching call.rt spec policy) ∧ e.config.defaultAction ≠ .deny)

lemma evaluatePolicies_isOk (ev : Evaluator) (rt : Runtime) (ti : ℕ → Bool) (spec : WorkloadSpec)
    (ps : List Policy) (i : ℕ) (re : EvaluationResult) : (∃ r, evaluatePolicies ev rt ti spec i ps re = .ok r) ↔
      ∀ j < ps.length, ti (i + j) = false := by
  induction ps generalizing i re with
  | nil => simp [evaluatePolicies]
  | cons policy ps ih =>
    rw [evaluatePolicies, List.length_cons]
    cases ht : ti i with
    | true =>
      refine ⟨by rintro ⟨r, ⟨⟩⟩, ?_⟩
      intro h
      rw [← Nat.add_zero i, h 0 (Nat.succ_pos _)] at ht
      cases ht
    | false =>
      simp only [Bool.false_eq_true, if_false, ih]
      constructor
      · intro h j hj
        cases j with
        | zero => exact ht
        | succ j => simpa [Nat.add_assoc, Nat.add_comm 1 j] using h j (by omega)
      · intro h j hj
        simpa [Nat.add_assoc, Nat.add_comm 1 j] using h (j + 1) (by omega)

lemma evaluateUncached_isOk : (∃ r, evaluateUncached e.evaluator e.config call spec = .ok r) ↔
    ∀ i < (getSortedPolicies call).length, call.timedOut i = false := by
  have h := evaluatePolicies_isOk e.evaluator call.rt call.timedOut spec (getSortedPolicies call) 0
    (.start (getSortedPolicies call).length)
  simp only [Nat.zero_add] at h
  rw [← h, evaluateUncached]
  cases evaluatePolicies e.evaluator call.rt call.timedOut spec 0 (getSortedPolicies call)
      (.start (getSortedPolicies call).length) <;> simp [Except.map]

variable {r : EvaluationResult}

lemma live_iff {now : Time} : (if e.config.cacheEnabled then e.getCachedResult now spec else none) = some r ↔
      ∃ c, e.Live now spec c ∧ c.result = r := by
  simp only [Live, getCachedResult]
  cases e.config.cacheEnabled with
  | false => simp
  | true =>
    cases e.cache.lookup (getCacheKey spec) with
    | none => simp
    | some c => by_cases hl : now < c.expiresAt <;> simp [hl]

lemma evaluate_of_not_live (hn : ¬∃ c, e.Live call.now spec c) :
    (e.evaluate call spec).2 = evaluateUncached e.evaluator e.config call spec := by
  have hg : (if e.config.cacheEnabled then e.getCachedResult call.now spec else none) = none := by
    by_contra hg
    obtain ⟨r, hr⟩ := Option.ne_none_iff_exists'.mp hg
    obtain ⟨c, hc, -⟩ := live_iff.mp hr
    exact hn ⟨c, hc⟩
  simp only [evaluate, hg]
  cases evaluateUncached e.evaluator e.config call spec <;> rfl

lemma uncached_allowed_iff (hl : Enumerates call.policies e.policies)
    (hr : evaluateUncached e.evaluator e.config call spec = .ok r) : r.allowed = true ↔
      (∃ policy, e.Matching call.rt spec policy) ∧ (¬∃ policy, e.Rejecting call.rt spec policy) ∨
        (¬∃ policy, e.Matching call.rt spec policy) ∧ e.config.defaultAction ≠ .deny := by
  rw [(evaluateUncached_ok hr).1, ← any_selects_iff hl, ← all_not_rejects_iff hl]
  cases (getSortedPolicies call).any (selects e.evaluator call.rt spec) <;> simp

theorem evaluate_allows_iff (hl : Enumerates call.policies e.policies) :
    (∃ r, (e.evaluate call spec).2 = .ok r ∧ r.allowed = true) ↔ e.Admits call spec := by
  cases hg : (if e.config.cacheEnabled then e.getCachedResult call.now spec else none) with
  | some r =>
    have hlive := live_iff.mp hg
    have he : (e.evaluate call spec).2 = .ok r := by simp only [evaluate, hg]
    constructor
    · rintro ⟨r', hr, ha⟩
      obtain ⟨cached, hc, hres⟩ := hlive
      rw [he, Except.ok.injEq] at hr
      exact .inl ⟨cached, hc, by rw [hres, hr, ha]⟩
    · rintro (⟨cached, hc, ha⟩ | ⟨hn, -⟩)
      · have hs := live_iff.mpr ⟨cached, hc, rfl⟩
        rw [hg, Option.some.injEq] at hs
        exact ⟨r, he, by rw [hs, ha]⟩
      · obtain ⟨cached, hc, -⟩ := hlive
        exact absurd ⟨cached, hc⟩ hn
  | none =>
    have hlive : ¬∃ cached, e.Live call.now spec cached := by
      rintro ⟨cached, hc⟩
      have hsome := live_iff.mpr ⟨cached, hc, rfl⟩
      rw [hg] at hsome
      cases hsome
    rw [evaluate_of_not_live hlive]
    constructor
    · rintro ⟨r, hr, ha⟩
      exact .inr ⟨hlive, evaluateUncached_isOk.mp ⟨r, hr⟩, (uncached_allowed_iff hl hr).mp ha⟩
    · rintro (⟨cached, hc, -⟩ | ⟨-, ht, ha⟩)
      · exact absurd ⟨cached, hc⟩ hlive
      · obtain ⟨r, hr⟩ := evaluateUncached_isOk.mpr ht
        exact ⟨r, hr, (uncached_allowed_iff hl hr).mpr ha⟩

lemma Matching.runtime (h : e.Matching rt spec policy) (rt' : Runtime) : e.Matching rt' spec policy where
  installed := h.installed
  live := h.live
  enabled := h.enabled
  applies := h.applies
  matched := by rw [evaluatePolicy_matched e.evaluator rt' rt, h.matched]

lemma Rejecting.runtime (h : e.Rejecting rt spec policy) (rt' : Runtime) : e.Rejecting rt' spec policy := by
  obtain ⟨hm, hd, hv⟩ := h
  refine ⟨hm.runtime rt', hd, ?_⟩
  intro hn
  exact hv (hn ▸ evaluatePolicy_violations_perm e.evaluator rt rt' spec policy).eq_nil

section AddPolicy

variable (hn : policy.name ≠ "") (hf : e.policies.lookup policy.name = none)

include hn

lemma addPolicy_some : (e.addPolicy (some policy)).1 =
    { e with policies := e.policies.insert policy.name policy, cache := ∅ } := by
  simp [addPolicy, hn]

include hf

lemma matching_addPolicy (rt : Runtime) (q : Policy) : (e.addPolicy (some policy)).1.Matching rt spec q ↔
    e.Matching rt spec q ∨ q = policy ∧ (e.addPolicy (some policy)).1.Matching rt spec policy := by
  rw [addPolicy_some hn]
  constructor
  · intro h
    obtain ⟨n, hq⟩ := h.installed
    rw [lookup_insert_if] at hq
    split_ifs at hq with hname
    · cases hq
      exact .inr ⟨rfl, h⟩
    · exact .inl ⟨⟨n, hq⟩, h.live, h.enabled, h.applies, h.matched⟩
  · rintro (h | ⟨rfl, h⟩)
    · obtain ⟨n, hq⟩ := h.installed
      have hname : n ≠ policy.name := by
        rintro rfl
        rw [hf] at hq
        cases hq
      refine ⟨⟨n, ?_⟩, h.live, h.enabled, h.applies, h.matched⟩
      rw [lookup_insert_if, if_neg hname, hq]
    · exact h

lemma rejecting_addPolicy (rt : Runtime) (q : Policy) : (e.addPolicy (some policy)).1.Rejecting rt spec q ↔
    e.Rejecting rt spec q ∨ q = policy ∧ (e.addPolicy (some policy)).1.Rejecting rt spec policy := by
  have he : (e.addPolicy (some policy)).1.evaluator = e.evaluator := by rw [addPolicy_some hn]
  simp only [Rejecting, matching_addPolicy hn hf rt q, he]
  constructor
  · rintro ⟨hq | ⟨rfl, hq⟩, hd, hv⟩
    · exact .inl ⟨hq, hd, hv⟩
    · exact .inr ⟨rfl, hq, hd, hv⟩
  · rintro (⟨hq, hd, hv⟩ | ⟨rfl, hq, hd, hv⟩)
    · exact ⟨.inl hq, hd, hv⟩
    · exact ⟨.inr ⟨rfl, hq⟩, hd, hv⟩

end AddPolicy

theorem defaultDeny_admits_iff {r : EvaluationResult} (hd : e.config.defaultAction = .deny)
    (hc : e.config.cacheEnabled = false) (hl : Enumerates call.policies e.policies)
    (hr : (e.evaluate call spec).2 = .ok r) : (r.allowed = true ↔
      (∃ policy, e.Matching call.rt spec policy) ∧ ¬∃ policy, e.Rejecting call.rt spec policy) ∧
    ∀ (policy : Policy) (call' : Call) (r' : EvaluationResult), policy.name ≠ "" →
      e.policies.lookup policy.name = none → policy.action = .deny ∨ policy.action = .audit →
      Enumerates call'.policies (e.addPolicy (some policy)).1.policies →
      ((e.addPolicy (some policy)).1.evaluate call' spec).2 = .ok r' → r.allowed = false →
      (r'.allowed = true ↔ (¬∃ old, e.Matching call.rt spec old) ∧
        (e.addPolicy (some policy)).1.Matching call'.rt spec policy ∧
        ¬(e.addPolicy (some policy)).1.Rejecting call'.rt spec policy) := by
  rw [evaluate_cacheOff hc] at hr
  have ha := uncached_allowed_iff hl hr
  simp only [hd, ne_eq, not_true_eq_false, and_false, or_false] at ha
  refine ⟨ha, ?_⟩
  intro policy call' r' hn hf _ hl' hr' hde
  have hco : (e.addPolicy (some policy)).1.config = e.config := by rw [addPolicy_some hn]
  rw [evaluate_cacheOff (by rw [hco, hc])] at hr'
  rw [uncached_allowed_iff hl' hr']
  simp only [hco, hd, ne_eq, not_true_eq_false, and_false, or_false]
  constructor
  · rintro ⟨⟨q, hq⟩, hrej⟩
    have hold : ¬∃ old, e.Matching call.rt spec old := by
      intro hm
      have hb : ∃ old, e.Rejecting call.rt spec old := by
        by_contra hb
        rw [ha.mpr ⟨hm, hb⟩] at hde
        cases hde
      obtain ⟨old, ho⟩ := hb
      exact hrej ⟨old, (rejecting_addPolicy hn hf call'.rt old).mpr (.inl (ho.runtime call'.rt))⟩
    refine ⟨hold, ?_, fun hp => hrej ⟨policy, hp⟩⟩
    rcases (matching_addPolicy hn hf call'.rt q).mp hq with hq | ⟨-, hq⟩
    · exact absurd ⟨q, hq.runtime call.rt⟩ hold
    · exact hq
  · rintro ⟨hold, hm, hp⟩
    refine ⟨⟨policy, hm⟩, ?_⟩
    rintro ⟨q, hq⟩
    rcases (rejecting_addPolicy hn hf call'.rt q).mp hq with hq | ⟨-, hq⟩
    · exact hold ⟨q, hq.1.runtime call.rt⟩
    · exact hp hq

def emptyEngine : Engine where
  config := ⟨.deny, false, 0⟩
  evaluator := ⟨id, (· == ·)⟩

def auditPrivileged : Policy where
  name := "audit-policy"
  ns := "*"
  enabled := true
  priority := 100
  rules := [{ name := "audit-privileged", type := .privilegedMode }]
  action := .audit

def auditCall : Call := ⟨[("audit-policy", auditPrivileged)], plainRuntime, 0, 0, fun _ => false⟩

def plainSpec : WorkloadSpec := { name := "test-workload", ns := "default", image := "nginx:latest" }

lemma auditCall_lists : Enumerates auditCall.policies (emptyEngine.addPolicy (some auditPrivileged)).1.policies :=
  enumerates_singleton "audit-policy" auditPrivileged

def emptyCall : Call := ⟨[], plainRuntime, 0, 0, fun _ => false⟩

theorem defaultDeny_admits_audited : ∃ r r', (emptyEngine.evaluate emptyCall plainSpec).2 = .ok r ∧
      ((emptyEngine.addPolicy (some auditPrivileged)).1.evaluate auditCall plainSpec).2 = .ok r' ∧
      (r.allowed = true ↔ (∃ policy, emptyEngine.Matching plainRuntime plainSpec policy) ∧
        ¬∃ policy, emptyEngine.Rejecting plainRuntime plainSpec policy) ∧
      (r'.allowed = true ↔ (¬∃ old, emptyEngine.Matching plainRuntime plainSpec old) ∧
        (emptyEngine.addPolicy (some auditPrivileged)).1.Matching plainRuntime plainSpec auditPrivileged ∧
        ¬(emptyEngine.addPolicy (some auditPrivileged)).1.Rejecting plainRuntime plainSpec auditPrivileged) := by
  have hl : Enumerates emptyCall.policies emptyEngine.policies := enumerates_empty
  obtain ⟨hnow, ha⟩ := defaultDeny_admits_iff rfl rfl hl (rfl : (emptyEngine.evaluate emptyCall plainSpec).2 = _)
  exact ⟨_, _, rfl, rfl, hnow, ha auditPrivileged auditCall _ (by decide) rfl (.inr rfl) auditCall_lists rfl rfl⟩

theorem audit_policy_lifts_default_deny : (emptyEngine.evaluate emptyCall plainSpec).2.map allowed = .ok false ∧
    ((emptyEngine.addPolicy (some auditPrivileged)).1.evaluate auditCall plainSpec).2.map allowed = .ok true ∧
    ¬∃ policy, (emptyEngine.addPolicy (some auditPrivileged)).1.Matching plainRuntime plainSpec policy ∧
      policy.action = .allow := by
  refine ⟨rfl, rfl, ?_⟩
  rintro ⟨policy, hm, ha⟩
  obtain ⟨n, hp⟩ := hm.installed
  have hp' := auditCall_lists.mem.mpr hp
  simp only [auditCall, List.mem_singleton, Prod.mk.injEq] at hp'
  rw [hp'.2] at ha
  cases ha

end Engine

end Cloudless.Policies
