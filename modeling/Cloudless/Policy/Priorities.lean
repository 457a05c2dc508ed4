import Cloudless.Policy.Cache

/-! Verdicts of the policy engine under every order of the policies and every assignment of priorities. -/

namespace Cloudless.Policies

open Foundations FiniteMaps GoStd

namespace Engine

def withPriorities (e : Engine) (priorities : String → Int64) : Engine :=
  { e with policies := filterMap (fun name policy => some { policy with priority := priorities name }) e.policies }

variable {e : Engine} {priorities : String → Int64} {call call' : Call} {spec : WorkloadSpec}

lemma lookup_withPriorities {n : String} : (e.withPriorities priorities).policies.lookup n =
    (e.policies.lookup n).map fun p => { p with priority := priorities n } := by
  rw [withPriorities, lookup_filterMap]
  cases e.policies.lookup n <;> rfl

lemma enumerates_withPriorities {l : List (String × Policy)} (hl : Enumerates l e.policies) :
    Enumerates (l.map fun p => (p.1, { p.2 with priority := priorities p.1 })) (e.withPriorities priorities).policies := by
  refine ⟨by simpa [List.map_map, Function.comp_def] using hl.1, ?_⟩
  rintro n po
  rw [lookup_withPriorities]
  simp only [List.mem_map, Prod.mk.injEq, Prod.exists, Option.map_eq_some_iff]
  constructor
  · rintro ⟨_, q, hq, rfl, hp⟩
    exact ⟨q, hl.mem.mp hq, hp⟩
  · rintro ⟨q, hq, hp⟩
    exact ⟨n, q, hl.mem.mpr hq, rfl, hp⟩

lemma unranked_perm (hl : Enumerates call.policies e.policies)
    (hl' : Enumerates call'.policies (e.withPriorities priorities).policies) :
    ((getSortedPolicies call).map Policy.unranked).Perm ((getSortedPolicies call').map Policy.unranked) := by
  let ranked : Call := { call with policies := call.policies.map fun p => (p.1, { p.2 with priority := priorities p.1 }) }
  have hr : (getSortedPolicies ranked).Perm (getSortedPolicies call') :=
    getSortedPolicies_perm (enumerates_withPriorities hl) hl'
  have hs : ((getSortedPolicies call).map Policy.unranked).Perm ((getSortedPolicies ranked).map Policy.unranked) := by
    refine ((call.rt.sortSlice_perm _ _).map _).trans
      (List.Perm.trans (List.Perm.of_eq ?_) ((call.rt.sortSlice_perm _ _).map _).symm)
    simp only [ranked, List.map_map, List.filter_map]
    rfl
  exact hs.trans (hr.map _)

lemma evaluatePolicy_of_rule {ev : Evaluator} {rt : Runtime} {p : Policy} {r : Rule}
    (hr : r ∈ p.rules) (hc : evaluateConditions r.conditions spec = true) (hv : evaluateRule ev rt r spec ≠ []) :
    (evaluatePolicy ev rt p spec).matched = true ∧ (evaluatePolicy ev rt p spec).violations ≠ [] := by
  have hru : p.rules.isEmpty = false := by
    rw [List.isEmpty_eq_false_iff]
    exact List.ne_nil_of_mem hr
  have hm : r ∈ p.rules.filter fun r => evaluateConditions r.conditions spec :=
    List.mem_filter.mpr ⟨hr, hc⟩
  simp only [evaluatePolicy, hru, Bool.false_and, Bool.false_eq_true, if_false]
  refine ⟨?_, ?_⟩
  · rw [Bool.not_eq_true', List.isEmpty_eq_false_iff]
    exact List.ne_nil_of_mem hm
  · intro hn
    exact hv (List.flatMap_eq_nil_iff.mp hn r hm)

theorem deny_absolute {r r' : EvaluationResult} (hl : Enumerates call.policies e.policies)
    (hl' : Enumerates call'.policies (e.withPriorities priorities).policies)
    (hn : ¬∃ cached, e.Live call.now spec cached)
    (hn' : ¬∃ cached, (e.withPriorities priorities).Live call'.now spec cached)
    (hr : (e.evaluate call spec).2 = .ok r) (hr' : ((e.withPriorities priorities).evaluate call' spec).2 = .ok r') :
    (∀ name policy rule, e.policies.lookup name = some policy → policy.deletedAt = none → policy.enabled = true →
      policyApplies policy spec = true → policy.action = .deny → rule ∈ policy.rules →
      evaluateConditions rule.conditions spec = true → evaluateRule e.evaluator call.rt rule spec ≠ [] →
      r.allowed = false ∧ r'.allowed = false) ∧ r.allowed = r'.allowed ∧ r.violations.Perm r'.violations := by
  rw [evaluate_of_not_live hn] at hr
  rw [evaluate_of_not_live hn'] at hr'
  obtain ⟨ha, hv⟩ := evaluateUncached_unranked (unranked_perm hl hl') hr hr'
  refine ⟨?_, ha, hv⟩
  intro name policy rule hp hd he happ hdeny hrule hc hviol
  obtain ⟨hm, hne⟩ := evaluatePolicy_of_rule hrule hc hviol
  have hrej : e.Rejecting call.rt spec policy := ⟨⟨⟨name, hp⟩, hd, he, happ, hm⟩, hdeny, hne⟩
  have hf : r.allowed = false := by
    rw [Bool.eq_false_iff]
    intro hal
    rcases (uncached_allowed_iff hl hr).mp hal with ⟨-, hnone⟩ | ⟨hnone, -⟩
    · exact hnone ⟨policy, hrej⟩
    · exact hnone ⟨policy, hrej.1⟩
  exact ⟨hf, ha ▸ hf⟩

def outrankedDeny : Policy := { Traced.denyPrivileged with name := "deny-privileged", priority := 1 }

def allowAll : Policy where
  name := "allow-all"
  ns := ""
  enabled := true
  priority := 100
  rules := []
  action := .allow

def guardedEngine : Engine :=
  (((emptyEngine.addPolicy (some outrankedDeny)).1).addPolicy (some allowAll)).1

def privilegedSpec : WorkloadSpec := { plainSpec with privileged := true }

def guardedCall : Call :=
  ⟨[("allow-all", allowAll), ("deny-privileged", outrankedDeny)], plainRuntime, 0, 0, fun _ => false⟩

lemma guardedCall_lists : Enumerates guardedCall.policies guardedEngine.policies :=
  enumerates_insert (enumerates_singleton "deny-privileged" outrankedDeny) rfl allowAll

def denyFirst (name : String) : Int64 := if name = "deny-privileged" then 1000 else 0

def denyFirstCall : Call :=
  { guardedCall with policies := guardedCall.policies.map fun p => (p.1, { p.2 with priority := denyFirst p.1 }) }

theorem deny_absolute_privileged : ∃ r r', (guardedEngine.evaluate guardedCall privilegedSpec).2 = .ok r ∧
      ((guardedEngine.withPriorities denyFirst).evaluate denyFirstCall privilegedSpec).2 = .ok r' ∧
      (r.allowed = false ∧ r'.allowed = false) ∧ r.allowed = r'.allowed ∧ r.violations.Perm r'.violations := by
  have hn : ∀ e : Engine, e.config.cacheEnabled = false → ∀ now, ¬∃ cached, e.Live now privilegedSpec cached := by
    rintro e he now ⟨cached, hc, -⟩
    rw [he] at hc
    cases hc
  have hl : Enumerates denyFirstCall.policies (guardedEngine.withPriorities denyFirst).policies :=
    enumerates_withPriorities guardedCall_lists
  obtain ⟨hdeny, hr⟩ := deny_absolute guardedCall_lists hl (hn guardedEngine rfl _)
    (hn (guardedEngine.withPriorities denyFirst) rfl _)
    (rfl : (guardedEngine.evaluate guardedCall privilegedSpec).2 = _) rfl
  exact ⟨_, _, rfl, rfl, hdeny "deny-privileged" outrankedDeny _ rfl rfl rfl (by decide) rfl (List.mem_singleton_self _)
    rfl (by decide), hr⟩

end Engine

end Cloudless.Policies
