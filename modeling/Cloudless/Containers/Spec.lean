import Cloudless.Foundations.GoStd
import Cloudless.Foundations.MapLoops
import Cloudless.Foundations.Pipelines

namespace Cloudless.Containers

open Foundations FiniteMaps GoStd MapLoops Pipelines

structure ResourceList where
  cpuMillicores : Int64 := 0
  memoryBytes : Int64 := 0
  storageBytes : Int64 := 0
  gpuCount : Int32 := 0
  deriving DecidableEq

structure Mount where
  (source destination type : String)
  readOnly : Bool
  options : List String := []
  deriving DecidableEq

structure PortMapping where
  (hostPort containerPort : Int32)
  protocol : String
  deriving DecidableEq

structure RestartPolicy where
  name : String
  maximumRetryCount : Int64
  deriving DecidableEq

inductive ProfileType
  | unconfined
  | runtimeDefault
  | localhost
  | other (name : String)
  deriving DecidableEq

structure SecurityProfile where
  type : ProfileType
  localhostProfile : String := ""
  deriving DecidableEq

structure SELinuxOptions where
  (user role type level : String)
  deriving DecidableEq

structure LinuxSecurityOptions where
  seccompProfile : Option SecurityProfile := none
  appArmorProfile : Option SecurityProfile := none
  seLinuxOptions : Option SELinuxOptions := none
  deriving DecidableEq

structure SecurityContext where
  linux : Option LinuxSecurityOptions := none
  privileged : Bool := false
  runAsUser : Option Int64 := none
  runAsGroup : Option Int64 := none
  runAsNonRoot : Option Bool := none
  readOnlyRootFilesystem : Bool := false
  capabilitiesAdd : List String := []
  capabilitiesDrop : List String := []
  runtimeClassName : String := ""
  deriving DecidableEq

structure ContainerSpec where
  (id image name : String)
  (command args : List String)
  env : FMap String String
  workingDir : String := ""
  (labels annotations : FMap String String)
  (requests limits : ResourceList)
  networkMode : String
  ports : List PortMapping
  bandwidthBPS : Int64 := 0
  mounts : List Mount
  restartPolicy : RestartPolicy
  securityContext : Option SecurityContext := none

structure LinuxCapabilities where
  (bounding effective inheritable permitted ambient : List String)
  deriving DecidableEq

structure OCIMount where
  (source destination type : String)
  options : List String
  deriving DecidableEq

structure LinuxDeviceCgroup where
  allow : Bool
  type : String
  (major minor : Option Int64)
  access : String
  deriving DecidableEq

structure LinuxSeccomp where
  defaultAction : String
  syscalls : List (List String × String)
  deriving DecidableEq

/-- An OCI specification. Its process, root and Linux parts are there from the start, so that no option finds them nil. -/
structure OCISpec where
  (args env : List String)
  cwd : String
  (uid gid : UInt32)
  capabilities : Option LinuxCapabilities
  apparmorProfile : String := ""
  selinuxLabel : String := ""
  mountLabel : String := ""
  rootReadonly : Bool := false
  mounts : List OCIMount
  cpuQuota : Option Int64 := none
  cpuPeriod : Option UInt64 := none
  memoryLimit : Option Int64 := none
  blockIOWeight : Option UInt16 := none
  devices : List LinuxDeviceCgroup
  seccomp : Option LinuxSeccomp := none
  deriving DecidableEq

structure Draft where
  labels : FMap String String
  spec : OCISpec

abbrev SpecOpts := Draft → Except String Draft

/-- The options of containerd's `oci` package that the runtime uses. -/
structure OCIOptions (Image : Type) where
  withImageConfig : Image → SpecOpts
  withProcessArgs : List String → SpecOpts
  withEnv : List String → SpecOpts
  withProcessCwd : String → SpecOpts
  withCPUCFS : Int64 → UInt64 → SpecOpts
  withMemoryLimit : UInt64 → SpecOpts
  withMounts : List OCIMount → SpecOpts

def Draft.access (d : Draft) : UInt32 × Option LinuxCapabilities := (d.spec.uid, d.spec.capabilities)

/-- What containerd documents: of these options only the image's configuration sets the user, and none sets the
capabilities. -/
structure OCIOptions.Documented {Image : Type} (oci : OCIOptions Image) : Prop where
  withImageConfig : ∀ image, Keeps (fun d => d.spec.capabilities) (oci.withImageConfig image)
  withProcessArgs : ∀ args, Keeps Draft.access (oci.withProcessArgs args)
  withEnv : ∀ env, Keeps Draft.access (oci.withEnv env)
  withProcessCwd : ∀ cwd, Keeps Draft.access (oci.withProcessCwd cwd)
  withCPUCFS : ∀ quota period, Keeps Draft.access (oci.withCPUCFS quota period)
  withMemoryLimit : ∀ limit, Keeps Draft.access (oci.withMemoryLimit limit)
  withMounts : ∀ mounts, Keeps Draft.access (oci.withMounts mounts)

def withStorageLimit (storageBytes : Int64) : Draft → Draft := fun d =>
  { labels := d.labels.insert "cloudless.storage.limit" (toString storageBytes)
    spec := { d.spec with blockIOWeight := some 500 } }

def withBandwidthLimit (bandwidthBPS : Int64) : Draft → Draft := fun d =>
  { d with labels := d.labels.insert "cloudless.network.bandwidth.limit" (toString bandwidthBPS) }

def driverDevices (major : Int64) : LinuxDeviceCgroup := ⟨true, "c", some major, some (-1), "rwm"⟩

def gpuDevices : List LinuxDeviceCgroup := [driverDevices 195, driverDevices 226]

def withGPUs (gpuCount : Int32) : Draft → Draft := fun d =>
  { labels := d.labels.insert "cloudless.gpu.count" (toString gpuCount)
    spec := { d.spec with devices := d.spec.devices ++ gpuDevices } }

def cpuPeriod : UInt64 := 100000

def cpuQuota (cpuMillicores : Int64) : Int64 := cpuMillicores * cpuPeriod.toInt64 / 1000

def ociMount (mount : Mount) : OCIMount := ⟨mount.source, mount.destination, mount.type, mount.options⟩

def envVars (order : MapOrder) (env : FMap String String) : List String :=
  (order.entries env).map fun e => e.1 ++ "=" ++ e.2

structure Host where
  defaultSeccompProfile : Except String LinuxSeccomp
  seccompProfileFile : String → Except String LinuxSeccomp
  (appArmorAvailable seLinuxAvailable : Bool)

def wrapError {α : Type} (text : String) : Except String α → Except String α
  | .error err => .error (text ++ err)
  | .ok a => .ok a

variable (host : Host)

def loadSeccompProfile (profile : SecurityProfile) : Except String (Option LinuxSeccomp) :=
  match profile.type with
  | .unconfined => .ok none
  | .runtimeDefault => (wrapError "failed to parse default seccomp profile: " host.defaultSeccompProfile).map some
  | .localhost =>
    if profile.localhostProfile = "" then
      .error "localhost profile path is required for SeccompProfileTypeLocalhost"
    else (host.seccompProfileFile profile.localhostProfile).map some
  | .other name => .error ("unknown seccomp profile type: " ++ name)

def applySeccompProfile (profile : SecurityProfile) (s : OCISpec) : Except String OCISpec :=
  match loadSeccompProfile host profile with
  | .error err => .error ("failed to load seccomp profile: " ++ err)
  | .ok none => .ok s
  | .ok (some seccompSpec) => .ok { s with seccomp := some seccompSpec }

def getProfileName (profile : SecurityProfile) : Except String String :=
  match profile.type with
  | .unconfined => .ok "unconfined"
  | .runtimeDefault => .ok "cloudless-default"
  | .localhost =>
    if profile.localhostProfile = "" then
      .error "localhost profile name is required for AppArmorProfileTypeLocalhost"
    else .ok profile.localhostProfile
  | .other name => .error ("unknown AppArmor profile type: " ++ name)

-- A profile that is not loaded is only warned about.
def applyAppArmorProfile (host : Host) (profile : SecurityProfile) (s : OCISpec) : Except String OCISpec :=
  if !host.appArmorAvailable then .ok s
  else
    match getProfileName profile with
    | .error err => .error ("failed to get AppArmor profile name: " ++ err)
    | .ok profileName => if profileName = "" then .ok s else .ok { s with apparmorProfile := profileName }

def buildSELinuxLabel (options : SELinuxOptions) : String :=
  let user := if options.user ≠ "" then options.user else "system_u"
  let role := if options.role ≠ "" then options.role else "system_r"
  let seType := if options.type ≠ "" then options.type else "cloudless_container_t"
  let level := if options.level ≠ "" then options.level else "s0"
  user ++ ":" ++ role ++ ":" ++ seType ++ ":" ++ level

def applySELinuxOptions (options : SELinuxOptions) (s : OCISpec) : OCISpec :=
  if !host.seLinuxAvailable then s
  else { s with selinuxLabel := buildSELinuxLabel options, mountLabel := buildSELinuxLabel options }

def removeCapability (caps : List String) (cap : String) : List String := caps.filter (· ≠ cap)

namespace LinuxCapabilities

def defaultCaps : List String :=
  ["CAP_CHOWN", "CAP_DAC_OVERRIDE", "CAP_FSETID", "CAP_FOWNER", "CAP_MKNOD", "CAP_NET_RAW", "CAP_SETGID", "CAP_SETUID",
    "CAP_SETFCAP", "CAP_SETPCAP", "CAP_NET_BIND_SERVICE", "CAP_SYS_CHROOT", "CAP_KILL", "CAP_AUDIT_WRITE"]

def initial : LinuxCapabilities := ⟨defaultCaps, defaultCaps, defaultCaps, defaultCaps, defaultCaps⟩

def mapAll (f : List String → List String) (c : LinuxCapabilities) : LinuxCapabilities :=
  ⟨f c.bounding, f c.effective, f c.inheritable, f c.permitted, f c.ambient⟩

def drop (c : LinuxCapabilities) (cap : String) : LinuxCapabilities := c.mapAll (removeCapability · cap)

-- Whether a capability is there already is looked up in the bounding set alone.
def add (c : LinuxCapabilities) (cap : String) : LinuxCapabilities :=
  if cap ∈ c.bounding then c else c.mapAll (· ++ [cap])

end LinuxCapabilities

def uint32 (x : Int64) : UInt32 := x.toUInt64.toUInt32

variable (context : SecurityContext)

def runAsUser (s : OCISpec) : OCISpec :=
  match context.runAsUser with
  | none => s
  | some user => if s.uid = 0 ∧ user ≠ 0 then { s with uid := uint32 user } else s

def runAsGroup (s : OCISpec) : OCISpec :=
  match context.runAsGroup with
  | none => s
  | some group => { s with gid := uint32 group }

def checkNonRoot (s : OCISpec) : Except String OCISpec :=
  if context.runAsNonRoot = some true ∧ s.uid = 0 then
    .error "container must not run as root (RunAsNonRoot=true)"
  else .ok s

def applyCapabilities (s : OCISpec) : OCISpec :=
  if context.capabilitiesAdd ≠ [] ∨ context.capabilitiesDrop ≠ [] then
    let dropped := context.capabilitiesDrop.foldl LinuxCapabilities.drop (s.capabilities.getD .initial)
    { s with capabilities := some (context.capabilitiesAdd.foldl LinuxCapabilities.add dropped) }
  else s

def runtimeHandler : String → Option String
  | "runc" => some "io.containerd.runc.v2"
  | "gvisor" => some "io.containerd.runsc.v1"
  | "kata" => some "io.containerd.kata.v2"
  | "firecracker" => some "aws.firecracker"
  | _ => none

def applyRuntimeClassSpec (runtimeClassName : String) (s : OCISpec) : Except String OCISpec :=
  if runtimeClassName ∈ ["", "runc", "gvisor", "kata", "firecracker"] then .ok s
  else .error ("unknown runtime class: " ++ runtimeClassName)

def securitySteps (context : SecurityContext) : List (OCISpec → Except String OCISpec) :=
  [fun s => match context.linux.bind LinuxSecurityOptions.seccompProfile with
    | none => .ok s
    | some profile => wrapError "failed to apply seccomp profile: " (applySeccompProfile host profile s),
  fun s => match context.linux.bind LinuxSecurityOptions.appArmorProfile with
    | none => .ok s
    | some profile => wrapError "failed to apply AppArmor profile: " (applyAppArmorProfile host profile s),
  always fun s => match context.linux.bind LinuxSecurityOptions.seLinuxOptions with
    | none => s
    | some options => applySELinuxOptions host options s,
  always fun s => if context.privileged then { s with seccomp := none } else s,
  always fun s => if context.readOnlyRootFilesystem then { s with rootReadonly := true } else s,
  always (runAsUser context),
  always (runAsGroup context),
  checkNonRoot context,
  always (applyCapabilities context),
  fun s => wrapError "failed to apply runtime class spec: " (applyRuntimeClassSpec context.runtimeClassName s)]

def withSecurityContext (context : SecurityContext) : SpecOpts := fun d =>
  (applyAll (securitySteps host context) d.spec).map fun spec => { d with spec := spec }

variable {Image : Type} (oci : OCIOptions Image)

def plainOpts (order : MapOrder) (spec : ContainerSpec) : List SpecOpts :=
  onlyIf (spec.command ≠ []) (oci.withProcessArgs spec.command) ++
    (onlyIf (spec.env ≠ ∅) (oci.withEnv (envVars order spec.env)) ++
    (onlyIf (spec.workingDir ≠ "") (oci.withProcessCwd spec.workingDir) ++
    (onlyIf (0 < spec.limits.cpuMillicores) (oci.withCPUCFS (cpuQuota spec.limits.cpuMillicores) cpuPeriod) ++
    (onlyIf (0 < spec.limits.memoryBytes) (oci.withMemoryLimit spec.limits.memoryBytes.toUInt64) ++
    (onlyIf (0 < spec.limits.storageBytes) (always (withStorageLimit spec.limits.storageBytes)) ++
    (onlyIf (0 < spec.bandwidthBPS) (always (withBandwidthLimit spec.bandwidthBPS)) ++
    (onlyIf (0 < spec.limits.gpuCount) (always (withGPUs spec.limits.gpuCount)) ++
    spec.mounts.map fun mount => oci.withMounts [ociMount mount])))))))

def specOpts (order : MapOrder) (image : Image) (spec : ContainerSpec) : List SpecOpts :=
  oci.withImageConfig image ::
    (plainOpts oci order spec ++ (spec.securityContext.map (withSecurityContext host)).toList)

end Cloudless.Containers
