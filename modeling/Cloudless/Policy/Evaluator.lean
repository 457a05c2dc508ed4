import Cloudless.Policy.Types

namespace Cloudless.Policies

open Foundations FiniteMaps GoStd

namespace Value

def asString : Value → Option String
  | .string s => some s
  | _ => none

def asList : Value → List Value
  | .list vs => vs
  | _ => []

def asBool : Value → Bool
  | .bool b => b
  | _ => false

def asNumber : Value → Float
  | .number x => x
  | _ => 0

def asObject : Value → List (String × Value)
  | .object fields => fields
  | _ => []

end Value

variable (rule : Rule)

namespace Rule

def entry (key : String) : Value := (rule.config.lookup key).getD .nil

def entries (key : String) : List Value := (rule.entry key).asList

def flag (key : String) : Bool := (rule.entry key).asBool

def number (key : String) : Float := (rule.entry key).asNumber

def text (key : String) : String := (rule.entry key).asString.getD ""

def fields (key : String) : List (String × Value) := (rule.entry key).asObject

def violation (message severity field value : String) : Violation where
  policyName := ""
  ruleName := rule.name
  message := message
  severity := severity
  field := field
  value := value

end Rule

/-- Go's Unicode tables: the lower-case form of a character, and equality under simple case folding. -/
structure Evaluator where
  lower : Char → Char
  fold : Char → Char → Bool

def starMatch (rest : List Char → Bool) : List Char → Bool
  | [] => rest []
  | c :: cs => rest (c :: cs) || (c ≠ '\n' && starMatch rest cs)

/-- The regular expression made of a glob: a star is any text in one line, a question mark one character of it. -/
def globMatch : List Char → List Char → Bool
  | [], value => value.isEmpty
  | '*' :: ps, value => starMatch (globMatch ps) value
  | '?' :: ps, c :: cs => c ≠ '\n' && globMatch ps cs
  | p :: ps, c :: cs => p = c && globMatch ps cs
  | _ :: _, [] => false

def extractRegistry (image : String) : String :=
  match splitN2 image '/' with
  | first :: _ :: _ => if '.' ∈ first.toList ∨ ':' ∈ first.toList then first else "docker.io"
  | _ => "docker.io"

variable (ev : Evaluator)

namespace Evaluator

def toLower (s : String) : List Char := s.toList.map ev.lower

def matchesPattern (value pattern : String) : Bool := globMatch (ev.toLower pattern) (ev.toLower value)

def equalFold (s t : String) : Bool :=
  s.toList.length = t.toList.length && (s.toList.zip t.toList).all fun p => ev.fold p.1 p.2

end Evaluator

def listed (pairs : String → String → Bool) (item : String) (entries : List Value) : Bool :=
  (entries.filterMap Value.asString).any (pairs item)

structure ListCheck where
  denied : String → String
  deniedSeverity : String
  missing : String → String
  (missingSeverity field : String)

def ListCheck.run (check : ListCheck) (rule : Rule) (pairs : String → String → Bool) (allowed denied : List Value)
    (items : List String) : List Violation :=
  items.flatMap fun item =>
    ((denied.filterMap Value.asString).filter (pairs item)).map
      (fun _ => rule.violation (check.denied item) check.deniedSeverity check.field item) ++
    if !allowed.isEmpty && !listed pairs item allowed then
      [rule.violation (check.missing item) check.missingSeverity check.field item]
    else []

def imageRegistryViolations (matchesPattern : String → String → Bool) (rule : Rule) (spec : WorkloadSpec) :
    List Violation :=
  let allowedRegistries := rule.entries "allowed_registries"
  let deniedRegistries := rule.entries "denied_registries"
  let registry := extractRegistry spec.image
  if listed matchesPattern registry deniedRegistries then
    [rule.violation ("Image registry '" ++ registry ++ "' is denied by policy") "High" "image" spec.image]
  else if !allowedRegistries.isEmpty && !listed matchesPattern registry allowedRegistries then
    [rule.violation ("Image registry '" ++ registry ++ "' is not in allowed list") "High" "image" spec.image]
  else []

def evaluateImageRegistry : Rule → WorkloadSpec → List Violation :=
  imageRegistryViolations ev.matchesPattern

def evaluateCapabilities (rule : Rule) (spec : WorkloadSpec) : List Violation :=
  ListCheck.run
    { denied := fun cap => "Capability '" ++ cap ++ "' is denied by policy"
      deniedSeverity := "Critical"
      missing := fun cap => "Capability '" ++ cap ++ "' is not in allowed list"
      missingSeverity := "High"
      field := "capabilities" }
    rule ev.equalFold (rule.entries "allowed_capabilities") (rule.entries "denied_capabilities") spec.capabilities

def evaluateEgressDestination (rule : Rule) (spec : WorkloadSpec) : List Violation :=
  ListCheck.run
    { denied := fun domain => "Egress to '" ++ domain ++ "' is denied by policy"
      deniedSeverity := "High"
      missing := fun domain => "Egress to '" ++ domain ++ "' is not in allowed list"
      missingSeverity := "Medium"
      field := "egress_domains" }
    rule ev.matchesPattern (rule.entries "allowed_destinations") (rule.entries "denied_destinations") spec.egressDomains

variable (spec : WorkloadSpec)

def evaluateVolumeType : List Violation :=
  ListCheck.run
    { denied := fun type => "Volume type '" ++ type ++ "' is denied by policy"
      deniedSeverity := "High"
      missing := fun type => "Volume type '" ++ type ++ "' is not in allowed list"
      missingSeverity := "Medium"
      field := "volumes" }
    rule (· == ·) (rule.entries "allowed_types") (rule.entries "denied_types") (spec.volumes.map VolumeSpec.type)

def evaluateResourceLimit : List Violation :=
  let maxCPU := rule.number "max_cpu_millicores"
  let maxMemory := rule.number "max_memory_bytes"
  let requireLimits := rule.flag "require_limits"
  (if maxCPU > 0 ∧ spec.cpuRequest.toFloat > maxCPU then
    [rule.violation ("CPU request " ++ toString spec.cpuRequest ++ "m exceeds maximum " ++
      toString maxCPU.toInt64 ++ "m") "Medium" "resources.cpu_request" (toString spec.cpuRequest)]
  else []) ++
  (if maxMemory > 0 ∧ spec.memoryRequest.toFloat > maxMemory then
    [rule.violation ("Memory request " ++ toString spec.memoryRequest ++ " bytes exceeds maximum " ++
      toString maxMemory.toInt64 ++ " bytes") "Medium" "resources.memory_request" (toString spec.memoryRequest)]
  else []) ++
  (if requireLimits && spec.cpuLimit == 0 then
    [rule.violation "CPU limit is required by policy" "Medium" "resources.cpu_limit" "0"]
  else []) ++
  (if requireLimits && spec.memoryLimit == 0 then
    [rule.violation "Memory limit is required by policy" "Medium" "resources.memory_limit" "0"]
  else [])

def requiredLabel (selector : FMap String String) (label : String × Value) : List Violation :=
  let requiredValue := label.2.asString.getD ""
  match selector.lookup label.1 with
  | none =>
    [rule.violation ("Required node selector label '" ++ label.1 ++ "' is missing") "Medium" "node_selector" ""]
  | some specValue =>
    if requiredValue ≠ "" ∧ specValue ≠ requiredValue then
      [rule.violation ("Node selector label '" ++ label.1 ++ "' has value '" ++ specValue ++ "', expected '" ++
        requiredValue ++ "'") "Medium" "node_selector" specValue]
    else []

def deniedLabel (selector : FMap String String) (label : String × Value) : List Violation :=
  let deniedValue := label.2.asString.getD ""
  match selector.lookup label.1 with
  | none => []
  | some specValue =>
    if deniedValue = "" ∨ specValue = deniedValue then
      [rule.violation ("Node selector label '" ++ label.1 ++ "=" ++ specValue ++ "' is denied by policy") "High"
        "node_selector" specValue]
    else []

def evaluateNodeSelector (rt : Runtime) (rule : Rule) (spec : WorkloadSpec) : List Violation :=
  (rt.rangeOrder (rule.fields "required_labels")).flatMap (requiredLabel rule spec.nodeSelector) ++
    (rt.rangeOrder (rule.fields "denied_labels")).flatMap (deniedLabel rule spec.nodeSelector)

def evaluatePrivilegedMode : List Violation :=
  if spec.privileged && !rule.flag "allow_privileged" then
    [rule.violation "Privileged mode is not allowed by policy" "Critical" "privileged" "true"]
  else []

def evaluateHostNetwork : List Violation :=
  (if spec.hostNetwork && !rule.flag "allow_host_network" then
    [rule.violation "Host network access is not allowed by policy" "Critical" "host_network" "true"]
  else []) ++
  (if spec.hostPID && !rule.flag "allow_host_pid" then
    [rule.violation "Host PID namespace access is not allowed by policy" "Critical" "host_pid" "true"]
  else []) ++
  (if spec.hostIPC && !rule.flag "allow_host_ipc" then
    [rule.violation "Host IPC namespace access is not allowed by policy" "Critical" "host_ipc" "true"]
  else [])

def evaluateSecurityContext : List Violation :=
  match spec.securityContext with
  | none =>
    if rule.flag "require_security_context" then
      [rule.violation "Security context is required by policy but not specified" "High" "security_context" "nil"]
    else []
  | some context =>
    (if rule.flag "forbid_privileged" && context.privileged then
      [rule.violation "Privileged containers are forbidden by security policy" "Critical"
        "security_context.privileged" "true"]
    else []) ++
    (if rule.flag "require_non_root" && context.runAsNonRoot != some true then
      [rule.violation "RunAsNonRoot must be set to true" "High" "security_context.run_as_non_root" "false or unset"]
    else []) ++
    (if rule.flag "require_read_only_root" && !context.readOnlyRootFilesystem then
      [rule.violation "Read-only root filesystem is required by policy" "Medium"
        "security_context.read_only_root_filesystem" "false"]
    else [])

structure ProfileCheck where
  (kind unconfined require field : String)

def ProfileCheck.run (check : ProfileCheck) (rule : Rule) (profileType : Option String) : List Violation :=
  match profileType with
  | none =>
    if rule.flag check.require then
      [rule.violation (check.kind ++ " profile is required by policy but not specified") "High" check.field "nil"]
    else []
  | some type =>
    let allowedTypes := rule.entries "allowed_types"
    (if rule.flag "forbid_unconfined" && type == "Unconfined" then
      [rule.violation ("Unconfined " ++ check.unconfined ++ " profile is not allowed by policy") "Critical"
        (check.field ++ ".type") "Unconfined"]
    else []) ++
    (if !allowedTypes.isEmpty && !listed (· == ·) type allowedTypes then
      [rule.violation (check.kind ++ " profile type '" ++ type ++ "' is not in allowed list") "High"
        (check.field ++ ".type") type]
    else [])

def evaluateSeccompProfile : List Violation :=
  ProfileCheck.run
    { kind := "Seccomp"
      unconfined := "seccomp"
      require := "require_seccomp"
      field := "security_context.linux.seccomp_profile" }
    rule ((spec.securityContext.bind fun context => context.linux.bind fun linux => linux.seccompProfile).map
      PolicySeccompProfile.type)

def evaluateAppArmorProfile : List Violation :=
  ProfileCheck.run
    { kind := "AppArmor"
      unconfined := "AppArmor"
      require := "require_apparmor"
      field := "security_context.linux.apparmor_profile" }
    rule ((spec.securityContext.bind fun context => context.linux.bind fun linux => linux.appArmorProfile).map
      PolicyAppArmorProfile.type)

def evaluateSELinuxOptions : List Violation :=
  let requiredType := rule.text "required_type"
  let requiredLevel := rule.text "required_level"
  let allowedTypes := rule.entries "allowed_types"
  match spec.securityContext.bind fun context => context.linux.bind PolicyLinuxSecurityOptions.seLinuxOptions with
  | none =>
    if rule.flag "require_selinux" then
      [rule.violation "SELinux options are required by policy but not specified" "Medium"
        "security_context.linux.selinux_options" "nil"]
    else []
  | some options =>
    (if !allowedTypes.isEmpty && !listed (· == ·) options.type allowedTypes then
      [rule.violation ("SELinux type '" ++ options.type ++ "' is not in allowed list") "High"
        "security_context.linux.selinux_options.type" options.type]
    else []) ++
    (if requiredType ≠ "" ∧ options.type ≠ requiredType then
      [rule.violation ("SELinux type must be '" ++ requiredType ++ "', got '" ++ options.type ++ "'") "High"
        "security_context.linux.selinux_options.type" options.type]
    else []) ++
    (if requiredLevel ≠ "" ∧ options.level ≠ requiredLevel then
      [rule.violation ("SELinux level must be '" ++ requiredLevel ++ "', got '" ++ options.level ++ "'") "Medium"
        "security_context.linux.selinux_options.level" options.level]
    else [])

def sandboxedRuntimes : List String := ["gvisor", "kata", "firecracker"]

def evaluateRuntimeClass : List Violation :=
  let field := "security_context.runtime_class_name"
  let allowedRuntimeClasses := rule.entries "allowed_runtime_classes"
  let allowedClasses :=
    if allowedRuntimeClasses.isEmpty then rule.entries "allowed_classes" else allowedRuntimeClasses
  let runtimeClass := (spec.securityContext.map PolicySecurityContext.runtimeClassName).getD ""
  if rule.flag "require_runtime_class" && runtimeClass == "" then
    [rule.violation "Runtime class is required by policy but not specified" "Medium" field "empty"]
  else
    (if rule.flag "require_sandboxed" &&
        (runtimeClass == "" || runtimeClass == "runc" || runtimeClass ∉ sandboxedRuntimes) then
      [rule.violation ("Sandboxed runtime required but got '" ++ runtimeClass ++ "'") "High" field runtimeClass]
    else []) ++
    (((rule.entries "forbidden_classes").filterMap Value.asString).filter (runtimeClass == ·)).map (fun _ =>
      rule.violation ("Runtime class '" ++ runtimeClass ++ "' is forbidden by policy") "High" field runtimeClass) ++
    (if !allowedClasses.isEmpty && runtimeClass != "" && !listed (· == ·) runtimeClass allowedClasses then
      [rule.violation ("Runtime class '" ++ runtimeClass ++ "' is not in allowed list") "High" field runtimeClass]
    else [])

def evaluateRunAsNonRoot : List Violation :=
  if !rule.flag "enforce" then []
  else match spec.securityContext with
    | none =>
      [rule.violation "Security context is required to enforce RunAsNonRoot" "High" "security_context" "nil"]
    | some context =>
      let hasRunAsNonRoot := context.runAsNonRoot == some true
      let hasNonRootUser := (context.runAsUser.map fun user => decide (0 < user)).getD false
      if context.runAsUser = some 0 then
        [rule.violation "RunAsUser cannot be 0 (root) when RunAsNonRoot is required" "Critical"
          "security_context.run_as_user" "0"]
      else if !hasRunAsNonRoot && !hasNonRootUser then
        [rule.violation "RunAsNonRoot must be explicitly set to true" "High" "security_context.run_as_non_root"
          "false or unset"]
      else []

def evaluateReadOnlyRootFS : List Violation :=
  if !rule.flag "enforce" then []
  else if listed (· == ·) spec.name (rule.entries "exceptions") then []
  else match spec.securityContext with
    | none =>
      [rule.violation "Security context is required to enforce ReadOnlyRootFilesystem" "Medium" "security_context"
        "nil"]
    | some context =>
      if context.readOnlyRootFilesystem then []
      else [rule.violation "Read-only root filesystem is required by policy" "Medium"
        "security_context.read_only_root_filesystem" "false"]

def evaluateRule (rt : Runtime) (rule : Rule) (spec : WorkloadSpec) : List Violation :=
  match rule.type with
  | .imageRegistry => evaluateImageRegistry ev rule spec
  | .capabilities => evaluateCapabilities ev rule spec
  | .egressDestination => evaluateEgressDestination ev rule spec
  | .resourceLimit => evaluateResourceLimit rule spec
  | .nodeSelector => evaluateNodeSelector rt rule spec
  | .privilegedMode => evaluatePrivilegedMode rule spec
  | .hostNetwork => evaluateHostNetwork rule spec
  | .volumeType => evaluateVolumeType rule spec
  | .securityContext => evaluateSecurityContext rule spec
  | .seccompProfile => evaluateSeccompProfile rule spec
  | .appArmorProfile => evaluateAppArmorProfile rule spec
  | .seLinuxOptions => evaluateSELinuxOptions rule spec
  | .runtimeClass => evaluateRuntimeClass rule spec
  | .runAsNonRoot => evaluateRunAsNonRoot rule spec
  | .readOnlyRootFS => evaluateReadOnlyRootFS rule spec
  | .other _ => []

lemma rangeOrder_perm_rangeOrder {rt rt' : Runtime} {α : Type} {l : List α} :
    (rt.rangeOrder l).Perm (rt'.rangeOrder l) :=
  (rt.rangeOrder_perm l).trans (rt'.rangeOrder_perm l).symm

lemma evaluateRule_perm (rt rt' : Runtime) (r : Rule) (s : WorkloadSpec) :
    (evaluateRule ev rt r s).Perm (evaluateRule ev rt' r s) := by
  rw [evaluateRule, evaluateRule]
  split
  case h_5 =>
    exact (rangeOrder_perm_rangeOrder.flatMap_right _).append
      (rangeOrder_perm_rangeOrder.flatMap_right _)
  all_goals exact List.Perm.refl _

def WorkloadSpec.view : WorkloadSpec :=
  { spec with
    command := []
    args := []
    env := ∅
    annotations := ∅
    volumes := spec.volumes.map fun volume => ⟨"", volume.type, "", "", false⟩
    ports := []
    region := ""
    zone := "" }

lemma evaluateRule_view (rt : Runtime) (rule : Rule) (spec : WorkloadSpec) :
    evaluateRule ev rt rule spec.view = evaluateRule ev rt rule spec := by
  have hv : spec.view.volumes.map VolumeSpec.type = spec.volumes.map VolumeSpec.type := by
    simp [WorkloadSpec.view, Function.comp_def]
  rw [evaluateRule, evaluateRule]
  split
  case h_8 => rw [evaluateVolumeType, evaluateVolumeType, hv]
  all_goals rfl

end Cloudless.Policies
