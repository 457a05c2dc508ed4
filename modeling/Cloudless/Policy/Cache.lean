import Cloudless.Foundations.Runs
import Cloudless.Policy.Engine

namespace Cloudless.Policies

open Foundations FiniteMaps GoStd Runs

def EvaluationResult.Agrees (r r' : EvaluationResult) : Prop :=
  r.allowed = r'.allowed ∧ r.violations.Perm r'.violations

variable {s : WorkloadSpec}

section Agreement

variable {e : Engine} {call call' : Call}

lemma getSortedPolicies_perm (hl : Enumerates call.policies e.policies) (hl' : Enumerates call'.policies e.policies) :
    (getSortedPolicies call).Perm (getSortedPolicies call') := by
  have hp : call.policies.Perm call'.policies := by
    rw [List.perm_ext_iff_of_nodup hl.1.of_map hl'.1.of_map]
    rintro ⟨n, p⟩
    rw [hl.mem, hl'.mem]
  exact (call.rt.sortSlice_perm _ _).trans (((hp.map _).filter _).trans (call'.rt.sortSlice_perm _ _).symm)

def Policy.unranked (policy : Policy) : Policy := { policy with priority := 0 }

lemma evaluateUncached_unranked {ev : Evaluator} {config : EngineConfig} {spec : WorkloadSpec} {r r' : EvaluationResult}
    (hp : ((getSortedPolicies call).map Policy.unranked).Perm ((getSortedPolicies call').map Policy.unranked))
    (hr : evaluateUncached ev config call spec = .ok r) (hr' : evaluateUncached ev config call' spec = .ok r') :
    r.Agrees r' := by
  obtain ⟨ha, hv⟩ := evaluateUncached_ok hr
  obtain ⟨ha', hv'⟩ := evaluateUncached_ok hr'
  have hs : selects ev call.rt spec = selects ev call'.rt spec :=
    funext fun policy => selects_runtime ev call.rt call'.rt spec policy
  have hj : rejects ev call.rt spec = rejects ev call'.rt spec :=
    funext fun policy => rejects_runtime ev call.rt call'.rt spec policy
  have hany : (getSortedPolicies call).any (selects ev call'.rt spec) =
      (getSortedPolicies call').any (selects ev call'.rt spec) := by
    have h := hp.any_eq (f := selects ev call'.rt spec)
    rwa [List.any_map, List.any_map] at h
  have hall : ((getSortedPolicies call).all fun policy => !rejects ev call'.rt spec policy) =
      (getSortedPolicies call').all fun policy => !rejects ev call'.rt spec policy := by
    have h := hp.all_eq (f := fun policy => !rejects ev call'.rt spec policy)
    rwa [List.all_map, List.all_map] at h
  have hf : (((getSortedPolicies call).filter (rejects ev call'.rt spec)).flatMap fun policy =>
      (evaluatePolicy ev call'.rt policy spec).violations).Perm
        (((getSortedPolicies call').filter (rejects ev call'.rt spec)).flatMap fun policy =>
          (evaluatePolicy ev call'.rt policy spec).violations) := by
    have h := (hp.filter (rejects ev call'.rt spec)).flatMap_right fun policy =>
      (evaluatePolicy ev call'.rt policy spec).violations
    rwa [List.filter_map, List.filter_map, List.flatMap_map, List.flatMap_map] at h
  constructor
  · rw [ha, ha', hs, hj, hany, hall]
  · rw [hv, hv', hj]
    exact (List.Perm.flatMap_left _ fun policy _ =>
      evaluatePolicy_violations_perm ev call.rt call'.rt spec policy).trans hf

lemma evaluateUncached_agrees {r r' : EvaluationResult}
    (hl : Enumerates call.policies e.policies) (hl' : Enumerates call'.policies e.policies)
    (hr : evaluateUncached e.evaluator e.config call s = .ok r)
    (hr' : evaluateUncached e.evaluator e.config call' s = .ok r') : r.Agrees r' :=
  evaluateUncached_unranked ((getSortedPolicies_perm hl hl').map _) hr hr'

end Agreement

inductive Event
  | addPolicy (policy : Option Policy)
  | removePolicy (name : String)
  | evaluate (call : Call) (spec : WorkloadSpec)

structure Traced where
  engine : Engine
  origins : FMap String WorkloadSpec := ∅

namespace Traced

variable (t : Traced)

def step : Event → Traced
  | .addPolicy policy => { t with engine := (t.engine.addPolicy policy).1 }
  | .removePolicy name => { t with engine := (t.engine.removePolicy name).1 }
  | .evaluate call spec =>
    { engine := (t.engine.evaluate call spec).1
      origins :=
        if (t.engine.getCachedResult call.now spec).isSome then t.origins
        else if (t.engine.evaluate call spec).2.toBool then t.origins.insert (getCacheKey spec) spec
        else t.origins }

def Lists : Event → Prop
  | .evaluate call _ => Enumerates call.policies t.engine.policies
  | _ => True

def Faithful : Prop :=
  ∀ key cached, t.engine.cache.lookup key = some cached → ∃ spec call, t.origins.lookup key = some spec ∧
    Enumerates call.policies t.engine.policies ∧
    evaluateUncached t.engine.evaluator t.engine.config call spec = .ok cached.result

/-- An entry that is still live when the specification is looked up was stored for one with the same view. -/
def Meets (now : Time) (spec : WorkloadSpec) : Prop :=
  ∀ cached, t.engine.cache.lookup (getCacheKey spec) = some cached → now < cached.expiresAt →
    ∀ origin, t.origins.lookup (getCacheKey spec) = some origin → origin.view = spec.view

end Traced

lemma getCachedResult_some {e : Engine} {now : Time} {r : EvaluationResult} (h : e.getCachedResult now s = some r) :
    ∃ c, e.cache.lookup (getCacheKey s) = some c ∧ now < c.expiresAt ∧ c.result = r := by
  rw [Engine.getCachedResult] at h
  split at h
  · next c hl =>
    split_ifs at h with hlive
    exact ⟨c, hl, hlive, Option.some.inj h⟩
  · cases h

lemma evaluate_cases {e : Engine} (hc : e.config.cacheEnabled = true) (call : Call) (s : WorkloadSpec) :
    (∃ r, e.getCachedResult call.now s = some r ∧ e.evaluate call s = (e, .ok r)) ∨
    (e.getCachedResult call.now s = none ∧ ∃ err, evaluateUncached e.evaluator e.config call s = .error err ∧
      e.evaluate call s = (e, .error err)) ∨
    (e.getCachedResult call.now s = none ∧ ∃ r, evaluateUncached e.evaluator e.config call s = .ok r ∧
      e.evaluate call s = (e.cacheResult call.done s r, .ok r)) := by
  cases hg : e.getCachedResult call.now s with
  | some r =>
    refine .inl ⟨r, rfl, ?_⟩
    simp only [Engine.evaluate, hc, if_true, hg]
  | none =>
    refine .inr ?_
    cases hu : evaluateUncached e.evaluator e.config call s with
    | error err =>
      refine .inl ⟨rfl, err, rfl, ?_⟩
      simp only [Engine.evaluate, hc, if_true, hg, hu]
    | ok r =>
      refine .inr ⟨rfl, r, rfl, ?_⟩
      simp only [Engine.evaluate, hc, if_true, hg, hu]

namespace Traced

variable {t : Traced}

lemma Faithful.step (h : t.Faithful) (hc : t.engine.config.cacheEnabled = true) (ev : Event)
    (hl : t.Lists ev) : (t.step ev).Faithful ∧ (t.step ev).engine.config = t.engine.config := by
  cases ev with
  | addPolicy p =>
    cases p with
    | none => exact ⟨h, rfl⟩
    | some p =>
      simp only [Traced.step, Engine.addPolicy]
      split_ifs with hn
      · exact ⟨h, rfl⟩
      · refine ⟨?_, rfl⟩
        intro key c hk
        simp at hk
  | removePolicy n =>
    simp only [Traced.step, Engine.removePolicy]
    split_ifs with hn
    · exact ⟨h, rfl⟩
    · refine ⟨?_, rfl⟩
      intro key c hk
      simp at hk
  | evaluate call s =>
    rcases evaluate_cases hc call s with ⟨r, hg, he⟩ | ⟨hg, err, -, he⟩ | ⟨hg, r, hu, he⟩
    · simp only [Traced.step, he, hg, Option.isSome_some, if_true]
      exact ⟨h, trivial⟩
    · simp only [Traced.step, he, hg, Option.isSome_none, Except.toBool, Bool.false_eq_true, if_false]
      exact ⟨h, trivial⟩
    · simp only [Traced.step, he, hg, Option.isSome_none, Except.toBool, Bool.false_eq_true, if_false, if_true]
      refine ⟨?_, rfl⟩
      intro key c hk
      simp only [Engine.cacheResult, lookup_insert_if] at hk ⊢
      split_ifs at hk ⊢ with hkey
      · cases hk
        exact ⟨s, call, rfl, hl, hu⟩
      · exact h key c hk

lemma Faithful.agrees (h : t.Faithful) (hc : t.engine.config.cacheEnabled = true) {call call' : Call}
    {r r' : EvaluationResult} (hl : Enumerates call.policies t.engine.policies)
    (hm : t.Meets call.now s) (hr : (t.engine.evaluate call s).2 = .ok r)
    (hl' : Enumerates call'.policies t.engine.policies)
    (hr' : evaluateUncached t.engine.evaluator t.engine.config call' s = .ok r') : r.Agrees r' := by
  rcases evaluate_cases hc call s with ⟨r₁, hg, he⟩ | ⟨-, err, -, he⟩ | ⟨-, r₁, hu, he⟩
  · simp only [he, Except.ok.injEq] at hr
    obtain ⟨c, hk, hlive, hres⟩ := getCachedResult_some hg
    obtain ⟨o, c₀, ho, hl₀, hu⟩ := h _ c hk
    rw [evaluateUncached_view (hm c hk hlive o ho), hres, hr] at hu
    exact evaluateUncached_agrees hl₀ hl' hu hr'
  · simp [he] at hr
  · simp only [he, Except.ok.injEq] at hr
    exact evaluateUncached_agrees hl hl' (hr ▸ hu) hr'

lemma faithful_run (h : t.Faithful) (hc : t.engine.config.cacheEnabled = true) {es : List Event}
    (ha : Admissible step Lists t es) :
    (run step t es).Faithful ∧ (run step t es).engine.config.cacheEnabled = true := by
  refine run_invariant (fun t => t.Faithful ∧ t.engine.config.cacheEnabled = true) ?_ es ⟨h, hc⟩ ha
  rintro t ev ⟨h, hc⟩ hl
  obtain ⟨hf, hco⟩ := h.step hc ev hl
  exact ⟨hf, by rw [hco, hc]⟩

lemma faithful_fresh {c : EngineConfig} {ev : Evaluator} :
    ({ engine := { config := c, evaluator := ev } } : Traced).Faithful := by
  intro key ca hk
  simp at hk

theorem evaluate_agrees_with_uncached (config : EngineConfig) (ev : Evaluator) (hc : config.cacheEnabled = true)
    (events : List Event) (call : Call) (spec : WorkloadSpec)
    (ha : Admissible step Lists { engine := { config := config, evaluator := ev } } (events ++ [.evaluate call spec]))
    (hm : (run step { engine := { config := config, evaluator := ev } } events).Meets call.now spec) :
    let e := (run step { engine := { config := config, evaluator := ev } } events).engine
    (∀ r call' r', (e.evaluate call spec).2 = .ok r → Enumerates call'.policies e.policies →
      (e.withoutCache.evaluate call' spec).2 = .ok r' → r.Agrees r') ∧
    ∀ err, (e.evaluate call spec).2 = .error err → (e.withoutCache.evaluate call spec).2 = .error err := by
  rw [admissible_append] at ha
  obtain ⟨hf, ho⟩ := faithful_run faithful_fresh hc ha.1
  have hl : Enumerates call.policies _ := ha.2.1
  generalize run step _ events = t at hf ho hm hl ⊢
  intro e
  simp only [Engine.evaluate_withoutCache]
  refine ⟨fun r call' r' hr hl' hr' => hf.agrees ho hl hm hr hl' hr', ?_⟩
  intro err hr
  rcases evaluate_cases ho call spec with ⟨r, -, he⟩ | ⟨-, err', hu, he⟩ | ⟨-, r, -, he⟩
  · simp [e, he] at hr
  · simp only [e, he, Except.error.injEq] at hr
    rw [hu, hr]
  · simp [e, he] at hr

def newTraced : Traced where
  engine := { config := ⟨.deny, true, 300000000000⟩, evaluator := ⟨id, (· == ·)⟩ }

def denyPrivileged : Policy where
  name := "restrict-privileged-containers"
  ns := "*"
  enabled := true
  priority := 100
  rules := [{ name := "no-privileged", type := .privilegedMode }]
  action := .deny

def denyCall (now : Time) : Call := ⟨[(denyPrivileged.name, denyPrivileged)], plainRuntime, now, now, fun _ => false⟩

def warmUp : List Event := [.addPolicy (some denyPrivileged), .evaluate (denyCall 0) Engine.plainSpec]

lemma admissible_warmUp : Admissible step Lists newTraced (warmUp ++ [.evaluate (denyCall 1) Engine.plainSpec]) :=
  ⟨trivial, enumerates_singleton denyPrivileged.name denyPrivileged,
    enumerates_singleton denyPrivileged.name denyPrivileged, trivial⟩

theorem evaluate_agrees_when_repeated : let e := (run step newTraced warmUp).engine
    ∃ r r', (e.evaluate (denyCall 1) Engine.plainSpec).2 = .ok r ∧
      (e.withoutCache.evaluate (denyCall 1) Engine.plainSpec).2 = .ok r' ∧ r.Agrees r' := by
  have hm : (run step newTraced warmUp).Meets 1 Engine.plainSpec := by
    intro c _ _ o ho
    have hp : (run step newTraced warmUp).origins.lookup (getCacheKey Engine.plainSpec) = some Engine.plainSpec := rfl
    rw [hp] at ho
    cases ho
    rfl
  obtain ⟨ha, -⟩ := evaluate_agrees_with_uncached newTraced.engine.config newTraced.engine.evaluator rfl warmUp
    (denyCall 1) Engine.plainSpec admissible_warmUp hm
  exact ⟨_, _, rfl, rfl, ha _ (denyCall 1) _ rfl (enumerates_singleton denyPrivileged.name denyPrivileged) rfl⟩

theorem cached_verdict_admits_privileged : let e := (run step newTraced warmUp).engine
    (e.evaluate (denyCall 1) { Engine.plainSpec with privileged := true }).2.map EvaluationResult.allowed = .ok true ∧
    (e.withoutCache.evaluate (denyCall 1) { Engine.plainSpec with privileged := true }).2.map
      EvaluationResult.allowed = .ok false :=
  ⟨rfl, rfl⟩

end Traced

end Cloudless.Policies
