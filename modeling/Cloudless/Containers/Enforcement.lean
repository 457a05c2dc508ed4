import Cloudless.Containers.Runtime
import Cloudless.Policy.Evaluator

/-! What becomes of a security context when a container is created, against what the policy rules take it to say. -/

namespace Cloudless.Containers

open Foundations FiniteMaps GoStd MapLoops Pipelines LinuxCapabilities
open Policies (Rule Evaluator PolicySecurityContext evaluateRunAsNonRoot evaluateCapabilities)

section Steps

variable {R : Type} {read : OCISpec → R} {host : Host} {context : SecurityContext} {s s' : OCISpec}

lemma wrapError_eq_ok {α : Type} {t : String} {x : Except String α} {a : α} : wrapError t x = .ok a ↔ x = .ok a := by
  cases x <;> simp [wrapError]

def profileSteps (host : Host) (context : SecurityContext) : List (OCISpec → Except String OCISpec) :=
  (securitySteps host context).take 5

lemma keeps_profileSteps (hr : ∀ (s : OCISpec) seccomp apparmor selinux mountLabel readonly, read { s with
        seccomp := seccomp
        apparmorProfile := apparmor
        selinuxLabel := selinux
        mountLabel := mountLabel
        rootReadonly := readonly } = read s) :
    ∀ step ∈ profileSteps host context, Keeps read step := by
  simp only [profileSteps, securitySteps, List.take_succ_cons, List.take_zero, List.forall_mem_cons]
  refine ⟨?seccomp, ?apparmor, ?selinux, ?privileged, ?readonly, List.forall_mem_nil _⟩
  case seccomp =>
    intro s s' hs'
    cases hp : context.linux.bind LinuxSecurityOptions.seccompProfile with
    | none =>
      rw [hp] at hs'
      cases hs'
      rfl
    | some p =>
      rw [hp] at hs'
      replace hs' := wrapError_eq_ok.mp hs'
      rw [applySeccompProfile] at hs'
      split at hs' <;> cases hs'
      · rfl
      · exact hr s _ _ _ _ _
  case apparmor =>
    intro s s' hs'
    cases hp : context.linux.bind LinuxSecurityOptions.appArmorProfile with
    | none =>
      rw [hp] at hs'
      cases hs'
      rfl
    | some p =>
      rw [hp] at hs'
      replace hs' := wrapError_eq_ok.mp hs'
      rw [applyAppArmorProfile] at hs'
      split_ifs at hs'
      · cases hs'
        rfl
      · split at hs'
        · cases hs'
        · split_ifs at hs' <;> cases hs'
          · rfl
          · exact hr s _ _ _ _ _
  case selinux =>
    apply keeps_always
    intro s
    split
    · rfl
    · rw [applySELinuxOptions]
      split_ifs
      · rfl
      · exact hr s _ _ _ _ _
  case privileged =>
    apply keeps_always
    intro s
    split_ifs
    · exact hr s _ _ _ _ _
    · rfl
  case readonly =>
    apply keeps_always
    intro s
    split_ifs
    · exact hr s _ _ _ _ _
    · rfl

lemma keeps_runtimeClass :
    Keeps read fun s => wrapError "failed to apply runtime class spec: " (applyRuntimeClassSpec context.runtimeClassName s) := by
  intro s s' hs'
  replace hs' := wrapError_eq_ok.mp hs'
  rw [applyRuntimeClassSpec] at hs'
  split_ifs at hs'
  cases hs'
  rfl

lemma runAsUser_uid {s : OCISpec} : (runAsUser context s).uid = match context.runAsUser with
      | none => s.uid
      | some u => if s.uid = 0 ∧ u ≠ 0 then uint32 u else s.uid := by
  rw [runAsUser]
  cases context.runAsUser with
  | none => rfl
  | some u =>
    dsimp only
    split_ifs <;> rfl

lemma runAsGroup_keeps {s : OCISpec} :
    (runAsGroup context s).uid = s.uid ∧ (runAsGroup context s).capabilities = s.capabilities := by
  rw [runAsGroup]
  split <;> exact ⟨rfl, rfl⟩

lemma checkNonRoot_eq_ok : checkNonRoot context s = .ok s' ↔ s' = s ∧ ¬(context.runAsNonRoot = some true ∧ s.uid = 0) := by
  rw [checkNonRoot]
  split_ifs with hr
  · simp [hr]
  · simp [hr, eq_comm]

lemma keeps_capabilitySteps (hr : ∀ s, read (applyCapabilities context s) = read s) :
    ∀ step ∈ (securitySteps host context).drop 8, Keeps read step := by
  simp only [securitySteps, List.drop_succ_cons, List.drop_zero, List.forall_mem_cons]
  exact ⟨keeps_always hr, keeps_runtimeClass, List.forall_mem_nil _⟩

lemma securitySteps_uid (h : applyAll (securitySteps host context) s = .ok s') :
    s'.uid = (runAsUser context s).uid ∧ ¬(context.runAsNonRoot = some true ∧ s'.uid = 0) := by
  have hs : securitySteps host context = profileSteps host context ++
    ([always (runAsUser context), always (runAsGroup context), checkNonRoot context] ++
      (securitySteps host context).drop 8) := rfl
  have ha : ∀ step ∈ (securitySteps host context).drop 8, Keeps OCISpec.uid step := by
    apply keeps_capabilitySteps
    intro s
    rw [applyCapabilities]
    split_ifs <;> rfl
  rw [hs] at h
  obtain ⟨t, t', ht, hm, hs'⟩ :=
    applyAll_middle OCISpec.uid h (keeps_profileSteps fun _ _ _ _ _ _ => rfl) ha
  simp only [applyAll_cons_eq_ok, always, Except.ok.injEq, exists_eq_left', checkNonRoot_eq_ok] at hm
  obtain ⟨_, ⟨rfl, hr⟩, hu⟩ := hm
  cases hu
  have huser : (runAsUser context t).uid = (runAsUser context s).uid := by rw [runAsUser_uid, runAsUser_uid, ht]
  rw [(runAsGroup_keeps).1, huser] at hr hs'
  rw [hs']
  exact ⟨rfl, hr⟩

lemma securitySteps_capabilities (h : applyAll (securitySteps host context) s = .ok s') :
    s'.capabilities = (applyCapabilities context s).capabilities := by
  have hs : securitySteps host context = (profileSteps host context ++
    [always (runAsUser context), always (runAsGroup context), checkNonRoot context]) ++
      ([always (applyCapabilities context)] ++ (securitySteps host context).drop 9) := rfl
  have hb : ∀ step ∈ profileSteps host context ++
      [always (runAsUser context), always (runAsGroup context), checkNonRoot context], Keeps OCISpec.capabilities step := by
    rw [List.forall_mem_append]
    refine ⟨keeps_profileSteps fun _ _ _ _ _ _ => rfl, ?_⟩
    simp only [List.forall_mem_cons]
    refine ⟨keeps_always ?_, keeps_always fun s => (runAsGroup_keeps).2, ?_, List.forall_mem_nil _⟩
    · intro s
      rw [runAsUser]
      split
      · rfl
      · split_ifs <;> rfl
    · intro s s' hs'
      rw [(checkNonRoot_eq_ok.mp hs').1]
  have ha : ∀ step ∈ (securitySteps host context).drop 9, Keeps OCISpec.capabilities step := by
    simp only [securitySteps, List.drop_succ_cons, List.drop_zero, List.forall_mem_cons]
    exact ⟨keeps_runtimeClass, List.forall_mem_nil _⟩
  rw [hs] at h
  obtain ⟨t, t', ht, hm, hs'⟩ := applyAll_middle OCISpec.capabilities h hb ha
  cases hm
  rw [hs', applyCapabilities, applyCapabilities]
  split_ifs
  · rw [ht]
  · exact ht

end Steps

section Created

variable {Image : Type} {env : CreateEnv Image} {spec : ContainerSpec} {context : SecurityContext}

lemma keeps_plainOpts {oci : OCIOptions Image} (h : oci.Documented) (order : MapOrder) (spec : ContainerSpec) :
    ∀ opt ∈ plainOpts oci order spec, Keeps Draft.access opt := by
  simp only [plainOpts, List.forall_mem_append, List.forall_mem_map]
  refine ⟨forall_mem_onlyIf (h.withProcessArgs _), forall_mem_onlyIf (h.withEnv _),
    forall_mem_onlyIf (h.withProcessCwd _), forall_mem_onlyIf (h.withCPUCFS _ _), forall_mem_onlyIf (h.withMemoryLimit _),
    ?storage, ?bandwidth, ?gpus, fun mount _ => h.withMounts _⟩
  case storage => exact forall_mem_onlyIf (keeps_always fun _ => rfl)
  case bandwidth => exact forall_mem_onlyIf (keeps_always fun _ => rfl)
  case gpus => exact forall_mem_onlyIf (keeps_always fun _ => rfl)

/-- The user that the image's configuration leaves in the specification. -/
def defaultUID (env : CreateEnv Image) (imageRef : String) : UInt32 :=
  match ContainerdRuntime.findImage env imageRef with
  | .error _ => env.base.uid
  | .ok image =>
    match env.oci.withImageConfig image ⟨∅, env.base⟩ with
    | .error _ => env.base.uid
    | .ok d => d.spec.uid

lemma createContainer_secured (hd : env.Documented) {rt : ContainerdRuntime} {container : Container}
    (hcontext : spec.securityContext = some context) (h : (rt.createContainer env spec).1 = .ok container) :
    ∃ record s, (rt.createContainer env spec).2.containers.lookup spec.id = some record ∧
      s.uid = defaultUID env spec.image ∧ s.capabilities = env.base.capabilities ∧
      applyAll (securitySteps env.host context) s = .ok record.spec := by
  obtain ⟨image, record, d, him, hopts, hspec, hl⟩ := ContainerdRuntime.createContainer_eq_ok hd h
  rw [specOpts, hcontext] at hopts
  obtain ⟨d₁, himage, hopts⟩ := applyAll_cons_eq_ok.mp hopts
  obtain ⟨d₂, hplain, hopts⟩ := applyAll_append_eq_ok.mp hopts
  obtain ⟨d₃, hsecured, hnil⟩ := applyAll_cons_eq_ok.mp hopts
  cases hnil
  obtain ⟨s, hs, rfl⟩ := except_map_eq_ok.mp hsecured
  have haccess := keeps_applyAll (keeps_plainOpts hd.oci env.order spec) d₁ d₂ hplain
  refine ⟨record, d₂.spec, hl, ?_, ?_, hs.trans (congrArg _ hspec)⟩
  · simp only [defaultUID, him, himage]
    exact congrArg Prod.fst haccess
  · exact (congrArg Prod.snd haccess).trans (hd.oci.withImageConfig image _ _ himage)

end Created

section NonRoot

variable {Image : Type} {env : CreateEnv Image} {spec : ContainerSpec} {context : SecurityContext} {rt : ContainerdRuntime}
  {rule : Rule} {workload : Policies.WorkloadSpec} {policyContext : PolicySecurityContext}

lemma evaluateRunAsNonRoot_eq_nil (he : rule.flag "enforce" = true)
    (hw : workload.securityContext = some policyContext) (h : evaluateRunAsNonRoot rule workload = []) :
    policyContext.runAsUser ≠ some 0 ∧ (policyContext.runAsUser = none → policyContext.runAsNonRoot = some true) := by
  simp only [evaluateRunAsNonRoot, he, hw, Bool.not_true, Bool.false_eq_true, if_false] at h
  split_ifs at h with hr hu
  refine ⟨hr, fun hnone => ?_⟩
  simpa [hnone] using hu

theorem nonRoot_enforced_iff {container : Container} (hdocumented : env.Documented) (henforce : rule.flag "enforce" = true)
    (hworkload : workload.securityContext = some policyContext)
    (huser : policyContext.runAsUser = context.runAsUser)
    (hnonRoot : policyContext.runAsNonRoot = context.runAsNonRoot) (hrule : evaluateRunAsNonRoot rule workload = [])
    (hcontext : spec.securityContext = some context) (hok : (rt.createContainer env spec).1 = .ok container) :
    ∃ record, (rt.createContainer env spec).2.containers.lookup spec.id = some record ∧
      ((record.spec.uid ≠ 0 ∧ ∀ user, context.runAsUser = some user → record.spec.uid = uint32 user) ↔
        ∀ user, context.runAsUser = some user →
          uint32 user ≠ 0 ∧ (defaultUID env spec.image = 0 ∨ defaultUID env spec.image = uint32 user)) := by
  obtain ⟨record, s, hl, huid, -, hs⟩ := createContainer_secured hdocumented hcontext hok
  obtain ⟨hr, hch⟩ := securitySteps_uid hs
  obtain ⟨hz, hu⟩ := evaluateRunAsNonRoot_eq_nil henforce hworkload hrule
  refine ⟨record, hl, ?_⟩
  rw [huser] at hz hu
  rw [hnonRoot] at hu
  rw [runAsUser_uid, huid] at hr
  cases hset : context.runAsUser with
  | none =>
    have hroot : record.spec.uid ≠ 0 := fun h0 => hch ⟨hu hset, h0⟩
    simp [hroot]
  | some user =>
    have hne : user ≠ 0 := fun h0 => hz (by rw [hset, h0])
    simp only [hset, hne, ne_eq, not_false_eq_true, and_true] at hr
    simp only [Option.some.injEq, forall_eq']
    -- The user of the context is set only where the default is root.
    split_ifs at hr with hde
    · simp [hr, hde]
    · rw [hr]
      constructor
      · rintro ⟨-, he⟩
        exact ⟨he ▸ hde, .inr he⟩
      · rintro ⟨-, h0 | he⟩
        · exact absurd h0 hde
        · exact ⟨hde, he⟩

def nonRootRule : Rule := ⟨"non-root", .runAsNonRoot, Finmap.singleton "enforce" (.bool true), []⟩

def policyWorkload (user : Int64) : Policies.WorkloadSpec where
  name := "app"
  ns := "default"
  securityContext := some ⟨none, false, some user, none, false, ""⟩

theorem nonRoot_enforced_user :
    ∃ record, (emptyRuntime.createContainer (imageEnv none) (securedSpec { runAsUser := some 1000 })).2.containers.lookup
      "c" = some record ∧ record.spec.uid = 1000 := by
  have hrule : evaluateRunAsNonRoot nonRootRule (policyWorkload 1000) = [] := by decide +kernel
  have ho : (emptyRuntime.createContainer (imageEnv none) (securedSpec { runAsUser := some 1000 })).1 =
      .ok ⟨"c", "", "docker.io/library/app", .created, ∅⟩ := by decide +kernel
  obtain ⟨record, hr, hiff⟩ := nonRoot_enforced_iff documented_imageEnv (by decide +kernel) rfl rfl rfl hrule rfl ho
  have hri := hiff.mpr (by simp; decide +kernel)
  exact ⟨record, hr, hri.2 1000 rfl⟩

theorem nonRoot_not_enforced : (evaluateRunAsNonRoot nonRootRule (policyWorkload 4294967296) = [] ∧
      ((emptyRuntime.createContainer (imageEnv none)
        (securedSpec { runAsUser := some 4294967296 })).2.containers.lookup "c").map (·.spec.uid) = some 0) ∧
    evaluateRunAsNonRoot nonRootRule (policyWorkload 2000) = [] ∧
      ((emptyRuntime.createContainer (imageEnv (some (1000, 1000)))
        (securedSpec { runAsUser := some 2000 })).2.containers.lookup "c").map (·.spec.uid) = some 1000 := by
  decide +kernel

end NonRoot

section Capabilities

variable {context : SecurityContext} {initial : LinuxCapabilities} {x : String}

inductive CapabilitySet
  | bounding
  | effective
  | inheritable
  | permitted
  | ambient
  deriving DecidableEq

def LinuxCapabilities.get (c : LinuxCapabilities) : CapabilitySet → List String
  | .bounding => c.bounding
  | .effective => c.effective
  | .inheritable => c.inheritable
  | .permitted => c.permitted
  | .ambient => c.ambient

variable {c : LinuxCapabilities} {set : CapabilitySet}

@[simp] lemma LinuxCapabilities.get_mapAll {f : List String → List String} : (c.mapAll f).get set = f (c.get set) := by
  cases set <;> rfl

lemma mem_foldl_drop {drop : List String} :
    x ∈ (drop.foldl LinuxCapabilities.drop c).get set ↔ x ∈ c.get set ∧ x ∉ drop := by
  induction drop generalizing c with
  | nil => simp
  | cons cap drop ih => simp [ih, LinuxCapabilities.drop, removeCapability, and_assoc]

lemma mem_foldl_add {add : List String} :
    x ∈ (add.foldl LinuxCapabilities.add c).get set ↔ x ∈ c.get set ∨ x ∈ add ∧ x ∉ c.get .bounding := by
  induction add generalizing c with
  | nil => simp
  | cons cap add ih =>
    rw [List.foldl_cons, ih, LinuxCapabilities.add]
    split_ifs with hcap
    · have hne : x ∉ c.get .bounding → x ≠ cap := fun hx he => hx (he ▸ hcap)
      grind
    · rw [get_mapAll, get_mapAll]
      have hnew : x = cap → x ∉ c.get .bounding := fun he => he ▸ hcap
      grind

/-- A capability is kept unless it is dropped under this very name, and added where the bounding set has not kept it. -/
def Results (context : SecurityContext) (initial : LinuxCapabilities) (set : CapabilitySet) (x : String) : Prop :=
  x ∈ initial.get set ∧ x ∉ context.capabilitiesDrop ∨
    x ∈ context.capabilitiesAdd ∧ ¬(x ∈ initial.bounding ∧ x ∉ context.capabilitiesDrop)

/-- The sets that the two lists are applied to: those given, or the code's own in place of nil. -/
def startOf (context : SecurityContext) (capabilities : Option LinuxCapabilities) : Option LinuxCapabilities :=
  if context.capabilitiesAdd ≠ [] ∨ context.capabilitiesDrop ≠ [] then some (capabilities.getD .initial)
  else capabilities

lemma applyCapabilities_spec {s : OCISpec} (h : startOf context s.capabilities = some initial) :
    ∃ r, (applyCapabilities context s).capabilities = some r ∧
      ∀ set x, x ∈ r.get set ↔ Results context initial set x := by
  rw [applyCapabilities]
  rw [startOf] at h
  split_ifs at h ⊢ with hl
  · cases h
    refine ⟨_, rfl, fun set x => ?_⟩
    rw [mem_foldl_add, mem_foldl_drop, mem_foldl_drop]
    rfl
  · push Not at hl
    refine ⟨initial, h, fun set x => ?_⟩
    simp [Results, hl.1, hl.2]

variable (ev : Evaluator)

def capabilityName (name : String) : List Char :=
  if ev.toLower "CAP_" <+: ev.toLower name then (ev.toLower name).drop 4 else ev.toLower name

def named (names : List String) : Set (List Char) := {c | ∃ name ∈ names, capabilityName ev name = c}

def dropped (names : List String) : Set (List Char) :=
  {c | c ∈ named ev names ∨ capabilityName ev "ALL" ∈ named ev names}

def Exact (context : SecurityContext) (initial result : List String) : Prop :=
  named ev result = (named ev initial \ dropped ev context.capabilitiesDrop) ∪ named ev context.capabilitiesAdd

/-- Of the initial capabilities, those that are dropped under another name are added again, and those that are to be added
but are in the bounding set already are in this set too. -/
structure Settled (ev : Evaluator) (context : SecurityContext) (initial : LinuxCapabilities) (set : CapabilitySet) : Prop where
  drops : ∀ x ∈ initial.get set, x ∉ context.capabilitiesDrop →
    capabilityName ev x ∈ dropped ev context.capabilitiesDrop → capabilityName ev x ∈ named ev context.capabilitiesAdd
  adds : ∀ x ∈ context.capabilitiesAdd, x ∈ initial.bounding → x ∉ context.capabilitiesDrop →
    ∃ y, Results context initial set y ∧ capabilityName ev y = capabilityName ev x

lemma exact_iff {result : List String} (h : ∀ x, x ∈ result ↔ Results context initial set x) :
    Exact ev context (initial.get set) result ↔ Settled ev context initial set := by
  constructor
  · intro he
    constructor
    · intro x hx hk hdr
      have hr : capabilityName ev x ∈ named ev result := ⟨x, (h x).mpr (.inl ⟨hx, hk⟩), rfl⟩
      rw [he] at hr
      exact hr.resolve_left fun hx' => hx'.2 hdr
    · intro x hx _ _
      have hr : capabilityName ev x ∈ named ev result := by
        rw [he]
        exact .inr ⟨x, hx, rfl⟩
      obtain ⟨y, hy, hname⟩ := hr
      exact ⟨y, (h y).mp hy, hname⟩
  · rintro ⟨hdro, ha⟩
    ext c
    constructor
    · rintro ⟨x, hx, rfl⟩
      rcases (h x).mp hx with ⟨hx, hk⟩ | ⟨hx, -⟩
      · by_cases hdr : capabilityName ev x ∈ dropped ev context.capabilitiesDrop
        · exact .inr (hdro x hx hk hdr)
        · exact .inl ⟨⟨x, hx, rfl⟩, hdr⟩
      · exact .inr ⟨x, hx, rfl⟩
    · rintro (⟨⟨x, hx, rfl⟩, hk⟩ | ⟨x, hx, rfl⟩)
      · have hname : x ∉ context.capabilitiesDrop := fun hx' => hk (.inl ⟨x, hx', rfl⟩)
        exact ⟨x, (h x).mpr (.inl ⟨hx, hname⟩), rfl⟩
      · by_cases ho : x ∈ initial.bounding ∧ x ∉ context.capabilitiesDrop
        · obtain ⟨y, hy, hname⟩ := ha x hx ho.1 ho.2
          exact ⟨y, (h y).mpr hy, hname⟩
        · exact ⟨x, (h x).mpr (.inr ⟨hx, ho⟩), rfl⟩

def deniedNames (rule : Rule) : List String := (rule.entries "denied_capabilities").filterMap Policies.Value.asString

lemma evaluateCapabilities_eq_nil {ev : Evaluator} {rule : Rule} {workload : Policies.WorkloadSpec}
    (h : evaluateCapabilities ev rule workload = []) (hx : x ∈ workload.capabilities) {de : String}
    (hde : de ∈ deniedNames rule) : ev.equalFold x de = false := by
  rw [evaluateCapabilities, Policies.ListCheck.run, List.flatMap_eq_nil_iff] at h
  have hitem := (List.append_eq_nil_iff.mp (h x hx)).1
  rw [List.map_eq_nil_iff, List.filter_eq_nil_iff] at hitem
  exact Bool.eq_false_of_not_eq_true (hitem de hde)

theorem capabilities_enforced_iff {Image : Type} {env : CreateEnv Image} {spec : ContainerSpec}
    {rt : ContainerdRuntime} {container : Container} (ev : Evaluator) (hdocumented : env.Documented)
    (hbase : startOf context env.base.capabilities = some initial)
    (hcontext : spec.securityContext = some context) (hok : (rt.createContainer env spec).1 = .ok container) :
    ∃ record result, (rt.createContainer env spec).2.containers.lookup spec.id = some record ∧
      record.spec.capabilities = some result ∧
      (∀ set, Exact ev context (initial.get set) (result.get set) ↔ Settled ev context initial set) ∧
      ∀ rule workload, workload.capabilities = context.capabilitiesAdd → evaluateCapabilities ev rule workload = [] →
        ((∀ set, ∀ x ∈ result.get set, x ∉ initial.get set → capabilityName ev x ∉ named ev (deniedNames rule)) ↔
          ∀ set, ∀ x ∈ context.capabilitiesAdd, x ∉ initial.get set →
            (x ∈ initial.bounding → x ∈ context.capabilitiesDrop) → ∀ denied ∈ deniedNames rule,
              capabilityName ev denied = capabilityName ev x → ev.equalFold x denied = true) := by
  obtain ⟨record, s, hl, -, hcaps, hs⟩ := createContainer_secured hdocumented hcontext hok
  obtain ⟨result, hr, hm⟩ := applyCapabilities_spec (hcaps ▸ hbase)
  refine ⟨record, result, hl, (securitySteps_capabilities hs).trans hr,
    fun set => exact_iff ev (hm set), fun rule workload hw hrule => ?_⟩
  constructor
  · intro hsafe set x hx hnew hf denied hde hname
    have ha : x ∈ result.get set := (hm set x).mpr (.inr ⟨hx, fun ho => ho.2 (hf ho.1)⟩)
    exact absurd ⟨denied, hde, hname⟩ (hsafe set x ha hnew)
  · rintro hseen set x hx hnew ⟨denied, hde, hname⟩
    rcases (hm set x).mp hx with ⟨ho, -⟩ | ⟨hadd, hf⟩
    · exact hnew ho
    · have he := hseen set x hadd hnew (fun ho => by_contra fun hk => hf ⟨ho, hk⟩) denied hde hname
      rw [evaluateCapabilities_eq_nil hrule (hw ▸ hadd) hde] at he
      cases he

def asciiEvaluator : Evaluator := ⟨Char.toLower, fun c d => c.toLower = d.toLower⟩

def timeContext : SecurityContext := { capabilitiesAdd := ["CAP_SYS_TIME"], capabilitiesDrop := ["CAP_NET_RAW"] }

def defaultCapabilities : LinuxCapabilities :=
  ⟨defaultCaps, defaultCaps, [], defaultCaps, []⟩

def sysAdminRule : Rule :=
  ⟨"capabilities", .capabilities, Finmap.singleton "denied_capabilities" (.list [.string "SYS_ADMIN"]), []⟩

def timeWorkload : Policies.WorkloadSpec := { name := "app", ns := "default", capabilities := ["CAP_SYS_TIME"] }

theorem capabilities_enforced_time :
    ∃ record result, (emptyRuntime.createContainer (imageEnv none) (securedSpec timeContext)).2.containers.lookup "c" =
      some record ∧ record.spec.capabilities = some result ∧
      (∀ set, Exact asciiEvaluator timeContext (defaultCapabilities.get set) (result.get set) ↔
        Settled asciiEvaluator timeContext defaultCapabilities set) ∧
      ∀ set, ∀ x ∈ result.get set, x ∉ defaultCapabilities.get set →
        capabilityName asciiEvaluator x ∉ named asciiEvaluator (deniedNames sysAdminRule) := by
  have ho : (emptyRuntime.createContainer (imageEnv none) (securedSpec timeContext)).1 =
      .ok ⟨"c", "", "docker.io/library/app", .created, ∅⟩ := by decide +kernel
  obtain ⟨record, result, hr, hre, hiff, hrule⟩ :=
    capabilities_enforced_iff asciiEvaluator documented_imageEnv rfl rfl ho
  refine ⟨record, result, hr, hre, hiff, (hrule sysAdminRule timeWorkload rfl (by decide +kernel)).mpr ?_⟩
  intro set x hx _ _ denied hdenied hname
  obtain rfl := List.mem_singleton.mp hx
  obtain rfl := List.mem_singleton.mp (show denied ∈ ["SYS_ADMIN"] from hdenied)
  exact absurd hname (by decide +kernel)

def createdCapabilities (context : SecurityContext) : Option LinuxCapabilities :=
  ((emptyRuntime.createContainer (imageEnv none) (securedSpec context)).2.containers.lookup "c").bind (·.spec.capabilities)

theorem capabilities_not_enforced : createdCapabilities { capabilitiesDrop := ["ALL"] } = some defaultCapabilities ∧
    createdCapabilities { capabilitiesDrop := ["net_raw"] } = some defaultCapabilities ∧
    createdCapabilities { capabilitiesAdd := ["CAP_CHOWN"] } = some defaultCapabilities ∧
    (createdCapabilities { capabilitiesAdd := ["CAP_SYS_ADMIN"] }).any (fun c => "CAP_SYS_ADMIN" ∈ c.effective) ∧
    evaluateCapabilities asciiEvaluator sysAdminRule
      { name := "app", ns := "default", capabilities := ["CAP_SYS_ADMIN"] } = [] := by
  decide +kernel

end Capabilities

end Cloudless.Containers
