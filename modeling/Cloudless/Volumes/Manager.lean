import Cloudless.Foundations.FileSystem
import Cloudless.Foundations.Runs
import Cloudless.Storage.PlacementStrategy

namespace Cloudless.Volumes

open Foundations FileSystem FiniteMaps GoStd MapLoops
open Storage (IOPSClass)

inductive VolumeState
  | created
  | mounted
  | deleted
  | failed
  deriving DecidableEq

structure Volume where
  (id name workloadID nodeID : String)
  path : Path
  (sizeBytes usedBytes : Int64)
  mountPath : Path
  iopsClass : IOPSClass
  state : VolumeState
  (createdAt mountedAt lastUsed : Time)
  (labels annotations : Option (FMap String String))
  deriving DecidableEq

structure CreateVolumeRequest where
  (volumeID name workloadID : String)
  sizeBytes : Int64
  iopsClass : IOPSClass
  (labels annotations : Option (FMap String String))

structure VolumeSnapshot where
  (id volumeID : String)
  sizeBytes : Int64
  path : Path
  createdAt : Time
  workloadID : String
  deriving DecidableEq

inductive VolumeError
  | msg (text : String)
  | access (volumeID callerID ownerID operation : String)
  | wrap (text : String) (inner : VolumeError)
  deriving DecidableEq

inductive Answer
  | error (err : VolumeError)
  | done
  | volume (volume : Volume)
  | volumes (volumes : List Volume)
  | mounted (path : Path)
  | snapshot (snapshot : VolumeSnapshot)
  deriving DecidableEq

structure VolumeEnv where
  now : ℕ → Time
  faults : Faults
  removal : Option (String × (Path → Bool))
  depth : ℕ

structure LoadEnv where
  faults : Faults
  depth : ℕ
  readDir : Option String
  info : String → Except String Time

structure VolumeManager where
  baseDir : Path
  nodeID : String
  volumes : FMap String Volume
  files : Files
  deriving DecidableEq

def addSize (_ : Path) (node : Node) (s : Files × Int64) : (Files × Int64) × Option String :=
  match node with
  | .dir => (s, none)
  | .file data => ((s.1, s.2 + Int64.ofNat data.length), none)

def calculateVolumeUsage (depth : ℕ) (path : Path) (files : Files) : Except String Int64 :=
  match walk Prod.fst addSize depth path (files, 0) with
  | (_, some err) => .error err
  | ((_, totalSize), none) => .ok totalSize

variable (faults : Faults)

def copyFile (src dst : Path) (files : Files) : Files × Option String :=
  match readFile faults src files with
  | .error err => (files, some err)
  | .ok sourceData => writeFile faults dst sourceData files

def copyEntry (src dst : Path) (path : Path) (node : Node) (files : Files) : Files × Option String :=
  let targetPath := dst ++ path.drop src.length
  match node with
  | .dir => mkdirAll faults targetPath files
  | .file _ => copyFile faults path targetPath files

def copyDirectory (depth : ℕ) (src dst : Path) (files : Files) : Files × Option String :=
  walk id (copyEntry faults src dst) depth src files

variable (env : VolumeEnv)

def fillDirectory (dir : Path) (fill : Files → Files × Option String) (makeError fillError : String)
    (files : Files) : Files × Option VolumeError :=
  match mkdirAll env.faults dir files with
  | (files, some err) => (files, some (.wrap makeError (.msg err)))
  | (files, none) =>
    match fill files with
    | (files, some err) => ((removeAll env.removal dir files).1, some (.wrap fillError (.msg err)))
    | (files, none) => (files, none)

def makeDirectories (volumePath mountPath : Path) : Files → Files × Option VolumeError :=
  fillDirectory env volumePath (mkdirAll env.faults mountPath) "failed to create volume directory: "
    "failed to create mount point: "

def copyVolume (mountPath snapshotPath : Path) : Files → Files × Option VolumeError :=
  fillDirectory env snapshotPath (copyDirectory env.faults env.depth mountPath snapshotPath)
    "failed to create snapshot directory: " "failed to copy volume: "

namespace VolumeManager

def getVolumePath (volumeID : String) (vm : VolumeManager) : Path := join vm.baseDir volumeID

def getVolume (volumeID : String) (vm : VolumeManager) : Except VolumeError Volume :=
  match vm.volumes.lookup volumeID with
  | none => .error (.msg ("volume not found: " ++ volumeID))
  | some volume => .ok volume

def validateWorkloadAccess (volumeID callerWorkloadID : String) (vm : VolumeManager) : Option VolumeError :=
  match vm.getVolume volumeID with
  | .error err => some err
  | .ok volume =>
    if volume.workloadID ≠ callerWorkloadID then some (.access volumeID callerWorkloadID volume.workloadID "access")
    else none

-- It is not implemented, and assumes that there is space.
def checkAvailableSpace (_ : Int64) : Option VolumeError := none

def onOwnVolume (volumeID workloadID : String) (act : Volume → Files → Files × Option Volume × Answer)
    (vm : VolumeManager) : VolumeManager × Answer :=
  match vm.validateWorkloadAccess volumeID workloadID, vm.getVolume volumeID with
  | some err, _ => (vm, .error err)
  | none, .error err => (vm, .error err)
  | none, .ok volume =>
    match act volume vm.files with
    | (files, some volume, answer) => ({ vm with files := files, volumes := vm.volumes.insert volumeID volume }, answer)
    | (files, none, answer) => ({ vm with files := files, volumes := vm.volumes.erase volumeID }, answer)

def newVolume (req : CreateVolumeRequest) (nodeID : String) (volumePath mountPath : Path) : Volume :=
  ⟨req.volumeID, req.name, req.workloadID, nodeID, volumePath, req.sizeBytes, 0, mountPath, req.iopsClass, .created,
    env.now 0, 0, env.now 1, req.labels, req.annotations⟩

def createVolume (req : CreateVolumeRequest) (vm : VolumeManager) : VolumeManager × Answer :=
  match vm.volumes.lookup req.volumeID with
  | some _ => (vm, .error (.msg ("volume already exists: " ++ req.volumeID)))
  | none =>
    if req.sizeBytes ≤ 0 then (vm, .error (.msg ("invalid volume size: " ++ toString req.sizeBytes)))
    else
      match checkAvailableSpace req.sizeBytes with
      | some err => (vm, .error (.wrap "insufficient space: " err))
      | none =>
        let volumePath := vm.getVolumePath req.volumeID
        let mountPath := join volumePath "mount"
        match makeDirectories env volumePath mountPath vm.files with
        | (files, some err) => ({ vm with files := files }, .error err)
        | (files, none) =>
          let volume := newVolume env req vm.nodeID volumePath mountPath
          ({ vm with files := files, volumes := vm.volumes.insert req.volumeID volume }, .volume volume)

def mountVolume (volumeID workloadID : String) (vm : VolumeManager) : VolumeManager × Answer :=
  vm.onOwnVolume volumeID workloadID fun volume files =>
    if volume.state = .mounted then (files, some volume, .mounted volume.mountPath)
    else (files, some { volume with state := .mounted, mountedAt := env.now 0, lastUsed := env.now 1 },
      .mounted volume.mountPath)

def unmountVolume (volumeID workloadID : String) (vm : VolumeManager) : VolumeManager × Answer :=
  vm.onOwnVolume volumeID workloadID fun volume files =>
    if volume.state ≠ .mounted then (files, some volume, .error (.msg ("volume not mounted: " ++ volumeID)))
    else (files, some { volume with state := .created, lastUsed := env.now 0 }, .done)

def deleteVolume (volumeID workloadID : String) (vm : VolumeManager) : VolumeManager × Answer :=
  vm.onOwnVolume volumeID workloadID fun volume files =>
    if volume.state = .mounted then (files, some volume, .error (.msg ("cannot delete mounted volume: " ++ volumeID)))
    else
      match removeAll env.removal volume.path files with
      | (files, some err) => (files, some volume, .error (.wrap "failed to delete volume directory: " (.msg err)))
      | (files, none) => (files, none, .done)

def resizeVolume (volumeID workloadID : String) (newSize : Int64) (vm : VolumeManager) : VolumeManager × Answer :=
  vm.onOwnVolume volumeID workloadID fun volume files =>
    if newSize < volume.usedBytes then
      (files, some volume, .error (.msg ("cannot shrink volume below used space: used=" ++ toString volume.usedBytes ++
        ", requested=" ++ toString newSize)))
    else
      match if volume.sizeBytes < newSize then checkAvailableSpace (newSize - volume.sizeBytes) else none with
      | some err => (files, some volume, .error (.wrap "insufficient space for resize: " err))
      | none => (files, some { volume with sizeBytes := newSize, lastUsed := env.now 0 }, .done)

def updateVolumeUsage (volumeID workloadID : String) (vm : VolumeManager) : VolumeManager × Answer :=
  vm.onOwnVolume volumeID workloadID fun volume files =>
    match calculateVolumeUsage env.depth volume.mountPath files with
    | .error err => (files, some volume, .error (.wrap "failed to calculate volume usage: " (.msg err)))
    | .ok usedBytes => (files, some { volume with usedBytes := usedBytes, lastUsed := env.now 0 }, .done)

/-- What a workload does by itself in a volume that it has: it writes a file below the mount point. -/
def useVolume (volumeID workloadID : String) (file : Path) (data : Bytes) (vm : VolumeManager) :
    VolumeManager × Answer :=
  vm.onOwnVolume volumeID workloadID fun volume files =>
    match writeFile env.faults (volume.mountPath ++ file) data files with
    | (files, some err) => (files, some volume, .error (.msg err))
    | (files, none) => (files, some volume, .done)

variable (order : MapOrder)

def listVolumes (vm : VolumeManager) : List Volume := valuesIn order vm.volumes

def listVolumesByWorkload (workloadID : String) (vm : VolumeManager) : List Volume :=
  (valuesIn order vm.volumes).filter fun volume => volume.workloadID = workloadID

def createSnapshot (volumeID snapshotID : String) (vm : VolumeManager) : VolumeManager × Answer :=
  match vm.getVolume volumeID with
  | .error err => (vm, .error err)
  | .ok volume =>
    let snapshotPath := join (join vm.baseDir "snapshots") snapshotID
    match copyVolume env volume.mountPath snapshotPath vm.files with
    | (files, some err) => ({ vm with files := files }, .error err)
    | (files, none) => ({ vm with files := files },
        .snapshot ⟨snapshotID, volumeID, volume.usedBytes, snapshotPath, env.now 0, volume.workloadID⟩)

def cleanupEach (env : String → VolumeEnv) (workloadID : String) : List Volume → VolumeManager → VolumeManager
  | [], vm => vm
  | volume :: volumes, vm =>
    if volume.state = .mounted then
      match vm.unmountVolume (env volume.id) volume.id workloadID with
      | (vm, .error _) => cleanupEach env workloadID volumes vm
      | (vm, _) => cleanupEach env workloadID volumes (vm.deleteVolume (env volume.id) volume.id workloadID).1
    else cleanupEach env workloadID volumes (vm.deleteVolume (env volume.id) volume.id workloadID).1

def cleanupWorkloadVolumes (env : String → VolumeEnv) (workloadID : String) (vm : VolumeManager) :
    VolumeManager × Answer :=
  (cleanupEach env workloadID (vm.listVolumesByWorkload order workloadID) vm, .done)

def loadVolume (env : LoadEnv) (vm : VolumeManager) (volumeID : String) : VolumeManager :=
  if vm.files.lookup (vm.baseDir ++ [volumeID]) ≠ some .dir ∨ volumeID = "snapshots" then vm
  else
    let volumePath := vm.getVolumePath volumeID
    let mountPath := join volumePath "mount"
    match env.info volumeID with
    | .error _ => vm
    | .ok modTime =>
      let usedBytes := (calculateVolumeUsage env.depth mountPath vm.files).toOption.getD 0
      let volume := ⟨volumeID, "", "", vm.nodeID, volumePath, 0, usedBytes, mountPath, .other "", .created, modTime, 0,
        modTime, none, none⟩
      { vm with volumes := vm.volumes.insert volumeID volume }

def loadVolumes (env : LoadEnv) (vm : VolumeManager) : VolumeManager :=
  match env.readDir with
  | some _ => vm
  | none => (readDirNames vm.baseDir vm.files).foldl (loadVolume env) vm

def newVolumeManager (env : LoadEnv) (baseDir : Path) (nodeID : String) (files : Files) :
    Files × Except VolumeError VolumeManager :=
  match mkdirAll env.faults baseDir files with
  | (files, some err) => (files, .error (.wrap "failed to create volumes directory: " (.msg err)))
  | (files, none) => (files, .ok (loadVolumes env ⟨baseDir, nodeID, ∅, files⟩))

end VolumeManager

inductive VolumeCall
  | createVolume (env : VolumeEnv) (req : CreateVolumeRequest)
  | getVolume (workloadID volumeID : String)
  | mountVolume (env : VolumeEnv) (workloadID volumeID : String)
  | unmountVolume (env : VolumeEnv) (workloadID volumeID : String)
  | deleteVolume (env : VolumeEnv) (workloadID volumeID : String)
  | listVolumes (order : MapOrder) (workloadID : String)
  | listVolumesByWorkload (order : MapOrder) (workloadID : String)
  | resizeVolume (env : VolumeEnv) (workloadID volumeID : String) (newSize : Int64)
  | updateVolumeUsage (env : VolumeEnv) (workloadID volumeID : String)
  | createSnapshot (env : VolumeEnv) (workloadID volumeID snapshotID : String)
  | cleanupWorkloadVolumes (order : MapOrder) (env : String → VolumeEnv) (workloadID : String)
  | useVolume (env : VolumeEnv) (workloadID volumeID : String) (file : Path) (data : Bytes)

/-- The workload that a call is made for. `GetVolume`, `ListVolumes` and `CreateSnapshot` are not told. -/
def VolumeCall.workload : VolumeCall → String
  | .createVolume _ req => req.workloadID
  | .getVolume workloadID _ | .mountVolume _ workloadID _ | .unmountVolume _ workloadID _
  | .deleteVolume _ workloadID _ | .listVolumes _ workloadID | .listVolumesByWorkload _ workloadID
  | .resizeVolume _ workloadID _ _ | .updateVolumeUsage _ workloadID _ | .createSnapshot _ workloadID _ _
  | .cleanupWorkloadVolumes _ _ workloadID | .useVolume _ workloadID _ _ _ => workloadID

namespace VolumeManager

def call (vm : VolumeManager) : VolumeCall → VolumeManager × Answer
  | .createVolume env req => vm.createVolume env req
  | .getVolume _ volumeID => (vm, match vm.getVolume volumeID with
    | .error err => .error err
    | .ok volume => .volume volume)
  | .mountVolume env workloadID volumeID => vm.mountVolume env volumeID workloadID
  | .unmountVolume env workloadID volumeID => vm.unmountVolume env volumeID workloadID
  | .deleteVolume env workloadID volumeID => vm.deleteVolume env volumeID workloadID
  | .listVolumes order _ => (vm, .volumes (vm.listVolumes order))
  | .listVolumesByWorkload order workloadID => (vm, .volumes (vm.listVolumesByWorkload order workloadID))
  | .resizeVolume env workloadID volumeID newSize => vm.resizeVolume env volumeID workloadID newSize
  | .updateVolumeUsage env workloadID volumeID => vm.updateVolumeUsage env volumeID workloadID
  | .createSnapshot env _ volumeID snapshotID => vm.createSnapshot env volumeID snapshotID
  | .cleanupWorkloadVolumes order env workloadID => vm.cleanupWorkloadVolumes order env workloadID
  | .useVolume env workloadID volumeID file data => vm.useVolume env volumeID workloadID file data

def after (vm : VolumeManager) (c : VolumeCall) : VolumeManager := (vm.call c).1

end VolumeManager

end Cloudless.Volumes
