import Cloudless.Containers.Spec

namespace Cloudless.Containers

open Foundations FiniteMaps GoStd MapLoops Pipelines

def normalizeImageRef (imageRef : String) : String :=
  match splitN2 imageRef '/' with
  | first :: _ :: _ =>
    if '.' ∈ first.toList ∨ ':' ∈ first.toList then imageRef else "docker.io/" ++ imageRef
  | _ => "docker.io/library/" ++ imageRef

inductive TaskStatus
  | created
  | running
  | stopped
  | paused
  | unknown
  deriving DecidableEq

structure Task where
  status : TaskStatus
  exitStatus : UInt32 := 0
  deriving DecidableEq

structure ContainerRecord where
  image : String
  labels : FMap String String
  spec : OCISpec
  handler : String
  task : Option Task
  deriving DecidableEq

inductive ContainerState
  | created
  | running
  | stopped
  | paused
  | failed
  | unknown
  deriving DecidableEq

structure Container where
  (id name image : String)
  state : ContainerState
  labels : FMap String String
  deriving DecidableEq

structure ContainerdRuntime where
  containers : FMap String ContainerRecord

structure ContainerRequest where
  (id image : String)
  labels : FMap String String
  specOpts : List SpecOpts
  handler : String

/-- What the host and containerd answer in the course of a call. -/
structure CreateEnv (Image : Type) where
  host : Host
  order : MapOrder
  oci : OCIOptions Image
  getImage : String → Except String Image
  pullImage : String → Option String
  pulledImage : String → Except String Image
  base : OCISpec
  newContainer : ContainerRequest → ContainerdRuntime → Except String ContainerRecord × ContainerdRuntime
  info : Option String

/-- What containerd documents: a container it has created is stored under its ID, with the specification that the options
make of the base one. -/
structure CreateEnv.Documented {Image : Type} (env : CreateEnv Image) : Prop where
  oci : env.oci.Documented
  newContainer : ∀ request rt record, (env.newContainer request rt).1 = .ok record →
    (env.newContainer request rt).2.containers.lookup request.id = some record ∧
      (applyAll request.specOpts ⟨∅, env.base⟩).map Draft.spec = .ok record.spec

def containerState (task : Option Task) : ContainerState :=
  match task with
  | none => .created
  | some task =>
    if task.exitStatus ≠ 0 then .failed
    else
      match task.status with
      | .running => .running
      | .created => .created
      | .stopped => .stopped
      | .paused => .paused
      | .unknown => .unknown

def containerToInfo (id : String) (record : ContainerRecord) : Container where
  id := id
  name := (record.labels.lookup "name").getD ""
  image := record.image
  state := containerState record.task
  labels := record.labels

namespace ContainerdRuntime

variable {Image : Type} (env : CreateEnv Image)

def pullImage (imageRef : String) : Option String :=
  (env.pullImage (normalizeImageRef imageRef)).map ("failed to pull image: " ++ ·)

def findImage (imageRef : String) : Except String Image :=
  match env.getImage (normalizeImageRef imageRef) with
  | .ok image => .ok image
  | .error _ =>
    match pullImage env imageRef with
    | some err => .error ("failed to pull image: " ++ err)
    | none => wrapError "failed to get image after pull: " (env.pulledImage (normalizeImageRef imageRef))

def runtimeOf (spec : ContainerSpec) : Except String String :=
  let requested := (spec.securityContext.map SecurityContext.runtimeClassName).getD ""
  let runtimeClassName := if requested ≠ "" then requested else "runc"
  if runtimeClassName ≠ "runc" then
    match runtimeHandler runtimeClassName with
    | none => .error ("failed to get runtime option: runtime class not found: " ++ runtimeClassName)
    | some handler => .ok handler
  else .ok "io.containerd.runc.v2"

def containerRequest (image : Image) (handler : String) (spec : ContainerSpec) : ContainerRequest where
  id := spec.id
  image := normalizeImageRef spec.image
  labels := spec.labels
  specOpts := specOpts env.host env.oci env.order image spec
  handler := handler

def createContainer (spec : ContainerSpec) (rt : ContainerdRuntime) : Except String Container × ContainerdRuntime :=
  match findImage env spec.image with
  | .error err => (.error err, rt)
  | .ok image =>
    match runtimeOf spec with
    | .error err => (.error err, rt)
    | .ok handler =>
      match env.newContainer (containerRequest env image handler spec) rt with
      | (.error err, rt) => (.error ("failed to create container: " ++ err), rt)
      | (.ok record, rt) =>
        match env.info with
        | some err => (.error err, rt)
        | none => (.ok (containerToInfo spec.id record), rt)

variable {env} {spec : ContainerSpec} {rt : ContainerdRuntime}

lemma createContainer_eq_ok (hd : env.Documented) {container : Container}
    (h : (rt.createContainer env spec).1 = .ok container) :
    ∃ image record d, findImage env spec.image = .ok image ∧
      applyAll (specOpts env.host env.oci env.order image spec) ⟨∅, env.base⟩ = .ok d ∧ d.spec = record.spec ∧
      (rt.createContainer env spec).2.containers.lookup spec.id = some record := by
  unfold createContainer at h ⊢
  cases him : findImage env spec.image with
  | error err => simp [him] at h
  | ok image =>
    cases hh : runtimeOf spec with
    | error err => simp [him, hh] at h
    | ok handler =>
      simp only [him, hh] at h ⊢
      rcases hnew : env.newContainer (containerRequest env image handler spec) rt with ⟨err | record, rt'⟩
      · simp [hnew] at h
      · obtain ⟨hl, hs⟩ := hd.newContainer _ _ record (congrArg Prod.fst hnew)
        obtain ⟨d, hopts, hspec⟩ := except_map_eq_ok.mp hs
        rw [hnew] at hl
        refine ⟨image, record, d, rfl, hopts, hspec, ?_⟩
        cases env.info <;> exact hl

end ContainerdRuntime

def defaultSpec : OCISpec where
  args := []
  env := []
  cwd := "/"
  uid := 0
  gid := 0
  capabilities := some ⟨LinuxCapabilities.defaultCaps, LinuxCapabilities.defaultCaps, [], LinuxCapabilities.defaultCaps, []⟩
  mounts := []
  devices := []

def emptyRuntime : ContainerdRuntime := ⟨∅⟩

def plainHost : Host := ⟨.error "no profile", fun _ => .error "no profile", false, false⟩

def plainOptions : OCIOptions (Option (UInt32 × UInt32)) where
  withImageConfig user := always fun d => { d with spec :=
    { d.spec with uid := (user.map Prod.fst).getD d.spec.uid, gid := (user.map Prod.snd).getD d.spec.gid } }
  withProcessArgs args := always fun d => { d with spec := { d.spec with args := args } }
  withEnv env := always fun d => { d with spec := { d.spec with env := d.spec.env ++ env } }
  withProcessCwd cwd := always fun d => { d with spec := { d.spec with cwd := cwd } }
  withCPUCFS quota period := always fun d =>
    { d with spec := { d.spec with cpuQuota := some quota, cpuPeriod := some period } }
  withMemoryLimit limit := always fun d => { d with spec := { d.spec with memoryLimit := some limit.toInt64 } }
  withMounts mounts := always fun d => { d with spec := { d.spec with mounts := d.spec.mounts ++ mounts } }

def plainNewContainer (request : ContainerRequest) (rt : ContainerdRuntime) :
    Except String ContainerRecord × ContainerdRuntime :=
  match (applyAll request.specOpts ⟨∅, defaultSpec⟩).map Draft.spec with
  | .error err => (.error err, rt)
  | .ok spec =>
    let record := ⟨request.image, request.labels, spec, request.handler, none⟩
    (.ok record, ⟨rt.containers.insert request.id record⟩)

/-- A containerd that holds one image, with the user of its configuration. -/
def imageEnv (user : Option (UInt32 × UInt32)) : CreateEnv (Option (UInt32 × UInt32)) where
  host := plainHost
  order := sortedOrder
  oci := plainOptions
  getImage _ := .ok user
  pullImage _ := none
  pulledImage _ := .error "not found"
  base := defaultSpec
  newContainer := plainNewContainer
  info := none

lemma documented_imageEnv {user : Option (UInt32 × UInt32)} : (imageEnv user).Documented where
  oci := by constructor <;> intros <;> exact keeps_always fun _ => rfl
  newContainer := by
    intro request rt record h
    simp only [imageEnv, plainNewContainer] at h ⊢
    split at h
    · cases h
    · next spec hs =>
      cases h
      exact ⟨(lookup_insert_if _ _ _ _).trans (if_pos rfl), hs⟩

def securedSpec (context : SecurityContext) : ContainerSpec where
  id := "c"
  image := "app"
  name := "c"
  command := []
  args := []
  env := ∅
  labels := ∅
  annotations := ∅
  requests := {}
  limits := {}
  networkMode := ""
  ports := []
  mounts := []
  restartPolicy := ⟨"", 0⟩
  securityContext := some context

end Cloudless.Containers
