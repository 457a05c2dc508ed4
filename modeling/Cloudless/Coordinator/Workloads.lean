import Cloudless.Policy.Engine
import Cloudless.Scheduler.Placement

namespace Cloudless.Coordination

open Foundations FiniteMaps GoStd
open Cloudless.Membership (ResourceCapacity NodeInfo Manager)

structure SecurityContext where
  privileged : Bool := false
  hostNetwork : Bool := false
  hostPID : Bool := false
  hostIPC : Bool := false
  deriving DecidableEq

structure ApiResources where
  (requests limits : Option ResourceCapacity)
  deriving DecidableEq

structure ApiPlacement where
  (regions zones : List String)
  nodeSelector : FMap String String
  deriving DecidableEq

inductive RestartKind
  | always
  | onFailure
  | never
  | other (value : Int32)
  deriving DecidableEq

structure ApiRestart where
  policy : RestartKind
  maxRetries : Int32
  deriving DecidableEq

inductive RolloutKind
  | rollingUpdate
  | recreate
  | blueGreen
  | other (value : Int32)
  deriving DecidableEq

structure ApiRollout where
  strategy : RolloutKind
  (maxSurge maxUnavailable : Int32)
  deriving DecidableEq

structure ApiVolume where
  (name source mountPath : String)
  readOnly : Bool
  deriving DecidableEq

structure ApiPort where
  name : String
  (containerPort hostPort : Int32)
  protocol : String
  deriving DecidableEq

structure ApiSpec where
  image : String := ""
  command : List String := []
  args : List String := []
  env : FMap String String := ∅
  resources : Option ApiResources := none
  replicas : Int32 := 0
  placement : Option ApiPlacement := none
  restartPolicy : Option ApiRestart := none
  rollout : Option ApiRollout := none
  volumes : List ApiVolume := []
  ports : List ApiPort := []
  securityContext : Option SecurityContext := none
  deriving DecidableEq

structure Workload where
  id : String := ""
  name : String := ""
  ns : String := ""
  spec : Option ApiSpec := none
  labels : FMap String String := ∅
  annotations : FMap String String := ∅
  deriving DecidableEq

structure WorkloadAssignment where
  fragmentId : String
  workload : Workload
  action : String
  deriving DecidableEq

inductive WorkloadStatus
  | pending
  | scheduling
  | running
  | updating
  | scaling
  | failed
  | completed
  | deleting
  deriving DecidableEq

inductive ReplicaStatus
  | pending
  | scheduled
  | starting
  | running
  | stopping
  | stopped
  | failed
  deriving DecidableEq

structure ReplicaState where
  (id nodeID fragmentID : String)
  status : ReplicaStatus
  ready : Bool := false
  message : String := ""
  startedAt : Option Time := none
  stoppedAt : Option Time := none
  livenessHealthy : Bool := false
  livenessConsecutiveFailures : Int32 := 0
  livenessLastCheckTime : Time := 0
  readinessHealthy : Bool := false
  readinessConsecutiveFailures : Int32 := 0
  readinessLastCheckTime : Time := 0
  containerID : String := ""
  deriving DecidableEq

structure VolumeMount where
  (name mountPath : String)
  readOnly : Bool
  deriving DecidableEq

structure PortMapping where
  name : String
  containerPort : Int32
  protocol : String
  deriving DecidableEq

structure ResourceRequirements where
  (requests limits : Scheduler.ResourceSpec)
  deriving DecidableEq

structure RestartPolicy where
  policy : String
  maxRetries : Int64
  deriving DecidableEq

structure WorkloadState where
  (id name ns image : String)
  (command args : List String)
  env : FMap String String
  volumes : List VolumeMount
  ports : List PortMapping
  resources : ResourceRequirements
  placement : Scheduler.PlacementPolicy
  restart : RestartPolicy
  rollout : Scheduler.RolloutStrategy
  (labels annotations : FMap String String)
  desiredReplicas : Int32
  status : WorkloadStatus
  replicas : List ReplicaState := []
  currentReplicas : Int32 := 0
  readyReplicas : Int32 := 0
  availableReplicas : Int32 := 0
  updatedAt : Time := 0
  deletedAt : Option Time := none

/-- What a write to the replicated store does: it succeeds, or it reports an error and may be applied all the same. -/
inductive SaveOutcome
  | ok
  | error (message : String) (applied : Bool)
  deriving DecidableEq

structure WorkloadStateManager where
  store : FMap String WorkloadState := ∅
  cache : FMap String WorkloadState := ∅
  store_keyed : ∀ id state, store.lookup id = some state → state.id = id := by simp
  cache_keyed : ∀ id state, cache.lookup id = some state → state.id = id := by simp

def newWorkloadStateManager : WorkloadStateManager := {}

lemma insert_keyed {m : FMap String WorkloadState} (h : ∀ id s, m.lookup id = some s → s.id = id)
    {new : WorkloadState} : ∀ id s, (m.insert new.id new).lookup id = some s → s.id = id := by
  intro id s hs
  rw [lookup_insert_if] at hs
  split_ifs at hs with hi
  · cases hs
    exact hi.symm
  · exact h id s hs

def WorkloadState.stamped (now : Time) (state : WorkloadState) : WorkloadState := { state with updatedAt := now }

namespace WorkloadStateManager

variable (m : WorkloadStateManager)

def write (state : WorkloadState) : WorkloadStateManager :=
  { m with store := m.store.insert state.id state, store_keyed := insert_keyed m.store_keyed }

/-- The cache holds a pointer, so it sees every change of the state it points to. -/
def point (state : WorkloadState) : WorkloadStateManager :=
  { m with cache := m.cache.insert state.id state, cache_keyed := insert_keyed m.cache_keyed }

def saveWorkload (now : Time) (outcome : SaveOutcome) (state : WorkloadState) :
    WorkloadStateManager × Except String Unit :=
  match outcome with
  | .ok => ((m.write (state.stamped now)).point (state.stamped now), .ok ())
  | .error message applied =>
    (if applied then m.write (state.stamped now) else m, .error ("failed to write to RAFT: " ++ message))

def saveShared (now : Time) (outcome : SaveOutcome) (state : WorkloadState) :
    WorkloadStateManager × Except String Unit :=
  (m.point (state.stamped now)).saveWorkload now outcome state

def getWorkload (readError : Option String) (workloadID : String) :
    WorkloadStateManager × Except String WorkloadState :=
  match m.cache.lookup workloadID with
  | some cached => (m, .ok cached)
  | none =>
    match readError with
    | some message => (m, .error ("failed to read from RAFT: " ++ message))
    | none =>
      match m.store.lookup workloadID with
      | none => (m, .error ("failed to read from RAFT: key not found: workload:" ++ workloadID))
      | some state => (m.point state, .ok state)

end WorkloadStateManager

inductive Response (α : Type)
  | ok (a : α)
  | error (message : String)
  | panicked

def convertRestartPolicyToString : RestartKind → String
  | .always => "Always"
  | .onFailure => "OnFailure"
  | .never => "Never"
  | .other _ => "Always"

def convertRolloutStrategyToString : RolloutKind → String
  | .rollingUpdate => "RollingUpdate"
  | .recreate => "Recreate"
  | .blueGreen => "BlueGreen"
  | .other _ => "RollingUpdate"

def ApiVolume.mount (v : ApiVolume) : VolumeMount := ⟨v.name, v.mountPath, v.readOnly⟩

def ApiPort.mapping (p : ApiPort) : PortMapping := ⟨p.name, p.containerPort, p.protocol⟩

def copied (r : ResourceCapacity) : Scheduler.ResourceSpec := ⟨r.cpuMillicores, r.memoryBytes, r.storageBytes, 0, 0⟩

/-- Both parts are followed without a nil check. -/
def ApiResources.convert (r : ApiResources) : Option ResourceRequirements :=
  match r.requests, r.limits with
  | some requests, some limits => some ⟨copied requests, copied limits⟩
  | _, _ => none

def ApiPlacement.convert (p : ApiPlacement) : Scheduler.PlacementPolicy where
  regions := p.regions
  zones := p.zones
  nodeSelector := p.nodeSelector

def restartOf : Option ApiRestart → RestartPolicy
  | some r => ⟨convertRestartPolicyToString r.policy, r.maxRetries.toInt64⟩
  | none => ⟨"always", 0⟩

def rolloutOf : Option ApiRollout → Scheduler.RolloutStrategy
  | some r =>
    { strategy := convertRolloutStrategyToString r.strategy
      maxSurge := r.maxSurge.toInt64
      maxUnavailable := r.maxUnavailable.toInt64 }
  | none => { strategy := "rolling", maxSurge := 1, maxUnavailable := 0 }

variable (workload : Workload)

def convertToPolicyWorkloadSpec : Policies.WorkloadSpec :=
  match workload.spec with
  | none => { name := workload.name, ns := workload.ns }
  | some spec =>
    let requests := spec.resources.bind ApiResources.requests
    let limits := spec.resources.bind ApiResources.limits
    { name := workload.name
      ns := workload.ns
      image := spec.image
      command := spec.command
      args := spec.args
      env := spec.env
      labels := workload.labels
      annotations := workload.annotations
      cpuRequest := (requests.map ResourceCapacity.cpuMillicores).getD 0
      memoryRequest := (requests.map ResourceCapacity.memoryBytes).getD 0
      cpuLimit := (limits.map ResourceCapacity.cpuMillicores).getD 0
      memoryLimit := (limits.map ResourceCapacity.memoryBytes).getD 0
      volumes := spec.volumes.map fun v => ⟨v.name, v.source, v.source, v.mountPath, v.readOnly⟩
      ports := spec.ports.map fun p => ⟨p.name, p.containerPort, p.protocol, p.hostPort⟩
      nodeSelector := (spec.placement.map ApiPlacement.nodeSelector).getD ∅
      region := (spec.placement.bind fun p => p.regions.head?).getD ""
      zone := (spec.placement.bind fun p => p.zones.head?).getD "" }

structure Coordinator where
  policyEngine : Option Policies.Engine
  states : WorkloadStateManager := newWorkloadStateManager
  membership : Manager WorkloadAssignment
  scheduler : Scheduler.SchedulerConfig

def statusError (code message : String) : String := "rpc error: code = " ++ code ++ " desc = " ++ message

def violationLines (violations : List Policies.Violation) : String :=
  String.join (violations.mapIdx fun i v =>
    toString (i + 1) ++ ". [" ++ v.severity ++ "] " ++ v.ruleName ++ ": " ++ v.message ++ "\n")

def denial (result : Policies.EvaluationResult) : String :=
  "Workload denied by policy: " ++ result.reason ++ "\n\nViolations:\n" ++ violationLines result.violations

variable (c : Coordinator)

def Coordinator.admitWorkload (call : Policies.Call) (workload : Workload) : Coordinator × Except String Unit :=
  match c.policyEngine with
  | none => (c, .ok ())
  | some engine =>
    let evaluated := engine.evaluate call (convertToPolicyWorkloadSpec workload)
    ({ c with policyEngine := some evaluated.1 },
      match evaluated.2 with
      | .error err => .error (statusError "Internal" ("policy evaluation failed: " ++ err))
      | .ok result => if result.allowed then .ok () else .error (statusError "PermissionDenied" (denial result)))

structure Env where
  isLeader : Bool := true
  leader : String := ""
  admission : Policies.Call
  save : ℕ → SaveOutcome := fun _ => .ok
  savedAt : ℕ → Time := fun _ => 0
  readError : Option String := none
  leadsScheduling : Bool := true
  rt : Runtime
  clock : ℕ → Time
  nodes : List NodeInfo

def workloadID : String :=
  if workload.id = "" then workload.ns ++ "-" ++ workload.name else workload.id

def Workload.identified : Workload := { workload with id := workloadID workload }

variable (env : Env)

def notLeader : String := "not the leader, redirect to: " ++ env.leader

/-- The state a creation saves for an identified request; without requests and limits it panics instead. -/
def newState (spec : ApiSpec) : Option WorkloadState :=
  (spec.resources.bind ApiResources.convert).map fun resources =>
    { id := workload.id
      name := workload.name
      ns := workload.ns
      image := spec.image
      command := spec.command
      args := spec.args
      env := spec.env
      volumes := spec.volumes.map ApiVolume.mount
      ports := spec.ports.map ApiPort.mapping
      resources := resources
      placement := (spec.placement.map ApiPlacement.convert).getD {}
      restart := restartOf spec.restartPolicy
      rollout := rolloutOf spec.rollout
      labels := workload.labels
      annotations := workload.annotations
      desiredReplicas := spec.replicas
      status := .pending }

def schedulerSpec (state : WorkloadState) : Scheduler.WorkloadSpec where
  id := state.id
  name := state.name
  replicas := state.desiredReplicas.toInt64
  requests := state.resources.requests
  placementPolicy := state.placement

def queueAll (assignments : List (String × WorkloadAssignment)) (m : Manager WorkloadAssignment) :
    Manager WorkloadAssignment :=
  assignments.foldl (fun m a => (m.queueAssignment a.1 a.2).2) m

namespace Coordinator

def resave (now : Time) (outcome : SaveOutcome) (state : WorkloadState) : Coordinator :=
  { c with states := (c.states.saveShared now outcome state).1 }

def scheduleDecisions (state : WorkloadState) : List Scheduler.ScheduleDecision :=
  (c.scheduler.schedule env.rt env.clock env.nodes (schedulerSpec state)).decisions

def queueRuns (workload : Workload) (decisions : List Scheduler.ScheduleDecision) : Coordinator :=
  { c with membership := queueAll (decisions.map fun d => (d.nodeID, ⟨d.fragmentID, workload, "run"⟩)) c.membership }

def startWorkload (workload : Workload) (state : WorkloadState) : Coordinator × Response Workload :=
  let saved := c.states.saveWorkload (env.savedAt 0) (env.save 0) state
  match saved.2 with
  | .error err => ({ c with states := saved.1 }, .error ("failed to save workload state: " ++ err))
  | .ok () =>
    let c := ({ c with states := saved.1 } : Coordinator).resave (env.savedAt 1) (env.save 1)
      { state with status := .scheduling }
    if !env.leadsScheduling then
      (c.resave (env.savedAt 2) (env.save 2) { state with status := .failed },
        .error ("failed to schedule workload: " ++ notLeader env))
    else
      let c := c.queueRuns workload (c.scheduleDecisions env state)
      (c.resave (env.savedAt 2) (env.save 2) { state with status := .running }, .ok workload)

def createWorkload (request : Option Workload) : Coordinator × Response Workload :=
  if !env.isLeader then (c, .error (notLeader env))
  else match request with
    | none => (c, .error "workload spec is required")
    | some workload =>
      match workload.spec with
      | none => (c, .error "workload spec is required")
      | some spec =>
        match newState workload.identified spec with
        | none => (c, .panicked)
        | some state =>
          let admitted := c.admitWorkload env.admission workload.identified
          match admitted.2 with
          | .error err => (admitted.1, .error err)
          | .ok () => admitted.1.startWorkload env workload.identified state

end Coordinator

variable (existing : WorkloadState)

def mergeSpec (spec : ApiSpec) : Option WorkloadState :=
  let merged :=
    { existing with
      status := .updating
      image := if spec.image ≠ "" then spec.image else existing.image
      command := if spec.command ≠ [] then spec.command else existing.command
      args := if spec.args ≠ [] then spec.args else existing.args
      env := if spec.env ≠ ∅ then spec.env else existing.env
      volumes := if spec.volumes ≠ [] then spec.volumes.map ApiVolume.mount else existing.volumes
      ports := if spec.ports ≠ [] then spec.ports.map ApiPort.mapping else existing.ports
      desiredReplicas := if 0 < spec.replicas then spec.replicas else existing.desiredReplicas }
  match spec.resources with
  | none => some merged
  | some resources => resources.convert.map fun resources => { merged with resources := resources }

def mergeUpdate (workload : Workload) : Option WorkloadState :=
  ((workload.spec.map (mergeSpec existing)).getD (some existing)).map fun merged =>
    { merged with
      labels := if workload.labels ≠ ∅ then workload.labels else merged.labels
      annotations := if workload.annotations ≠ ∅ then workload.annotations else merged.annotations }

def mergeUntilPanic (workload : Workload) : WorkloadState :=
  (workload.spec.bind fun spec =>
    (mergeSpec existing { spec with resources := none }).map fun merged =>
      { merged with desiredReplicas := existing.desiredReplicas }).getD existing

namespace Coordinator

def queueUpdates (workload : Workload) (state : WorkloadState) : Coordinator :=
  let running := state.replicas.filter fun replica => replica.status = .running
  { c with membership :=
      queueAll (running.map fun replica => (replica.nodeID, ⟨replica.fragmentID, workload, "update"⟩)) c.membership }

def storeUpdate (workload : Workload) (state : WorkloadState) : Coordinator × Response Workload :=
  let saved := c.states.saveShared (env.savedAt 0) (env.save 0) state
  match saved.2 with
  | .error err => ({ c with states := saved.1 }, .error ("failed to save updated workload: " ++ err))
  | .ok () =>
    (({ c with states := saved.1 } : Coordinator).queueUpdates workload state,
      .ok { id := workload.id, name := state.name, ns := state.ns, spec := workload.spec,
            labels := state.labels, annotations := state.annotations })

def updateWorkload (request : Option Workload) : Coordinator × Response Workload :=
  if !env.isLeader then (c, .error (notLeader env))
  else match request with
    | none => (c, .error "workload is required")
    | some workload =>
      if workload.id = "" then (c, .error "workload ID is required")
      else
        let found := c.states.getWorkload env.readError workload.id
        match found.2 with
        | .error err => ({ c with states := found.1 }, .error ("failed to get existing workload: " ++ err))
        | .ok existing =>
          match mergeUpdate existing workload with
          | none => ({ c with states := found.1.point (mergeUntilPanic existing workload) }, .panicked)
          | some state =>
            let admitted :=
              ({ c with states := found.1.point state } : Coordinator).admitWorkload env.admission workload
            match admitted.2 with
            | .error err => (admitted.1, .error ("policy admission failed: " ++ err))
            | .ok () => admitted.1.storeUpdate env workload state

end Coordinator

end Cloudless.Coordination
