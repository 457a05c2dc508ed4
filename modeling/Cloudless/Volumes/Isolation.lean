import Cloudless.Volumes.Manager

/-! Calls for one workload and the volumes of the others: what a call may change, and what its outcome may depend on. -/

namespace Cloudless.Volumes

open Foundations FileSystem FiniteMaps GoStd MapLoops Runs
open Storage (IOPSClass)

namespace VolumeManager

def Region (workloadID : String) (vm : VolumeManager) : Set Path :=
  {p | ∀ id v, vm.volumes.lookup id = some v → v.workloadID ≠ workloadID → ¬vm.getVolumePath id <+: p}

/-- Two managers that differ at most in the contents of volumes of other workloads: in their files, and in their records
apart from the owner. -/
structure SameFor (workloadID : String) (vm vm' : VolumeManager) : Prop where
  baseDir : vm'.baseDir = vm.baseDir
  nodeID : vm'.nodeID = vm.nodeID
  volumes : ∀ id, Option.Rel (fun v v' => v'.workloadID = v.workloadID ∧ (v.workloadID = workloadID → v' = v))
    (vm.volumes.lookup id) (vm'.volumes.lookup id)
  files : SameOn (vm.Region workloadID) vm.files vm'.files

/-- A call for one workload leaves the records and the directories of the others' volumes alone, and neither its answer
nor its effect depends on their contents. -/
structure Isolated (vm : VolumeManager) (c : VolumeCall) : Prop where
  untouched : ∀ id v, vm.volumes.lookup id = some v → v.workloadID ≠ c.workload →
    (vm.call c).1.volumes.lookup id = some v ∧
      ∀ p, vm.getVolumePath id <+: p → (vm.call c).1.files.lookup p = vm.files.lookup p
  unread : ∀ vm', SameFor c.workload vm vm' →
    (vm'.call c).2 = (vm.call c).2 ∧ SameFor c.workload (vm.call c).1 (vm'.call c).1

structure HousedAt (baseDir : Path) (id : String) (v : Volume) : Prop where
  plain : Plain id
  notSnapshots : id ≠ "snapshots"
  path : v.path = baseDir ++ [id]
  mountPath : v.mountPath = baseDir ++ [id, "mount"]

def Housed (vm : VolumeManager) : Prop := ∀ id v, vm.volumes.lookup id = some v → HousedAt vm.baseDir id v

/-- Names of volumes and snapshots are plain, and what is not checked by the manager is asked for by the owner only. -/
def Proper (vm : VolumeManager) : VolumeCall → Prop
  | .createVolume _ req => Plain req.volumeID ∧ req.volumeID ≠ "snapshots"
  | .getVolume workloadID volumeID => ∀ v, vm.volumes.lookup volumeID = some v → v.workloadID = workloadID
  | .listVolumes _ workloadID => ∀ id v, vm.volumes.lookup id = some v → v.workloadID = workloadID
  | .createSnapshot _ workloadID volumeID snapshotID =>
    Plain snapshotID ∧ ∀ v, vm.volumes.lookup volumeID = some v → v.workloadID = workloadID
  | _ => True

lemma SameFor.refl (workloadID : String) (vm : VolumeManager) : SameFor workloadID vm vm := by
  refine ⟨rfl, rfl, ?_, fun _ _ => rfl⟩
  intro id
  cases vm.volumes.lookup id with
  | none => exact .none
  | some v => exact .some ⟨rfl, fun _ => rfl⟩

def Free (workloadID : String) (vm : VolumeManager) (id : String) : Prop :=
  ∀ v, vm.volumes.lookup id = some v → v.workloadID = workloadID

variable {workloadID : String} {vm : VolumeManager} {id : String}

lemma mem_region (h : vm.Housed) (hid : vm.Free workloadID id)
    {p r : Path} (hp : p <+: vm.baseDir ++ id :: r) : p ∈ vm.Region workloadID := by
  intro id' v hv ho hu
  have hpath : vm.getVolumePath id' = vm.baseDir ++ [id'] := join_of_plain _ (h id' v hv).plain
  rw [hpath] at hu
  have hs : id' = id := by
    have hl := (List.prefix_append_right_inj vm.baseDir).mp (hu.trans hp)
    exact (List.cons_prefix_cons.mp hl).1
  subst hs
  exact ho (hid v hv)

lemma mem_region_below (h : vm.Housed)
    (hid : vm.Free workloadID id) {p : Path} (hp : vm.baseDir ++ [id] <+: p) : p ∈ vm.Region workloadID := by
  obtain ⟨r, rfl⟩ := hp
  rw [List.append_assoc, List.singleton_append]
  exact mem_region h hid List.prefix_rfl

def update (id : String) (result : Files × Option (Option Volume) × Answer) (vm : VolumeManager) :
    VolumeManager × Answer :=
  ({ vm with
      files := result.1
      volumes := match result.2.1 with
        | none => vm.volumes
        | some none => vm.volumes.erase id
        | some (some v) => vm.volumes.insert id v }, result.2.2)

lemma lookup_update {r : Files × Option (Option Volume) × Answer} {vm : VolumeManager} {j : String} :
    (vm.update id r).1.volumes.lookup j = match r.2.1 with
      | none => vm.volumes.lookup j
      | some re => if j = id then re else vm.volumes.lookup j := by
  rw [update]
  dsimp only
  rcases r.2.1 with - | - | v
  · rfl
  · exact lookup_erase_if vm.volumes j id
  · exact lookup_insert_if vm.volumes j id v

structure Transparent {α : Type} (workloadID : String) (f : VolumeManager → VolumeManager × α) (vm : VolumeManager) :
    Prop where
  baseDir : (f vm).1.baseDir = vm.baseDir
  housed : (f vm).1.Housed
  untouched : ∀ id v, vm.volumes.lookup id = some v → v.workloadID ≠ workloadID →
    (f vm).1.volumes.lookup id = some v ∧
      ∀ p, vm.getVolumePath id <+: p → (f vm).1.files.lookup p = vm.files.lookup p
  unread : ∀ vm', SameFor workloadID vm vm' → (f vm').2 = (f vm).2 ∧ SameFor workloadID (f vm).1 (f vm').1

lemma Transparent.bind {α β : Type} {f : VolumeManager → VolumeManager × α}
    {g : α → VolumeManager → VolumeManager × β} (hf : Transparent workloadID f vm)
    (hg : Transparent workloadID (g (f vm).2) (f vm).1) :
    Transparent workloadID (fun vm => g (f vm).2 (f vm).1) vm := by
  refine ⟨hg.baseDir.trans hf.baseDir, hg.housed, ?_, ?_⟩
  · intro id v hv ho
    obtain ⟨hv', hfi⟩ := hf.untouched id v hv ho
    obtain ⟨hv'', hf'⟩ := hg.untouched id v hv' ho
    refine ⟨hv'', ?_⟩
    intro p hp
    have hp' : (f vm).1.getVolumePath id <+: p := by
      rwa [getVolumePath, hf.baseDir]
    rw [hf' p hp', hfi p hp]
  · intro vm' hs
    obtain ⟨ha, hs'⟩ := hf.unread vm' hs
    rw [ha]
    exact hg.unread _ hs'

variable {f : VolumeManager → VolumeManager × Answer}

lemma transparent_of_update (h : vm.Housed) (id : String) {g : Files → Files × Option (Option Volume) × Answer}
    (hg : Confined (vm.Region workloadID) g) (hid : ∀ fs, (g fs).2.1 ≠ none → vm.Free workloadID id)
    (hput : ∀ fs v, (g fs).2.1 = some (some v) → v.workloadID = workloadID ∧ HousedAt vm.baseDir id v)
    (hf : ∀ vm', SameFor workloadID vm vm' → f vm' = vm'.update id (g vm'.files)) : Transparent workloadID f vm := by
  have hvm := hf vm (.refl workloadID vm)
  have hu : ∀ j v, vm.volumes.lookup j = some v → v.workloadID ≠ workloadID →
      (f vm).1.volumes.lookup j = some v ∧
        ∀ p, vm.getVolumePath j <+: p → (f vm).1.files.lookup p = vm.files.lookup p := by
    intro j v hv ho
    refine ⟨?_, ?_⟩
    · rw [hvm, lookup_update]
      cases hr : (g vm.files).2.1 with
      | none => exact hv
      | some r =>
        have hfree := hid vm.files (by rw [hr]; exact Option.some_ne_none r)
        have hne : j ≠ id := by
          rintro rfl
          exact ho (hfree v hv)
        exact (if_neg hne).trans hv
    · intro p hp
      rw [hvm]
      exact hg.frame vm.files p fun hm => hm j v hv ho hp
  refine ⟨by rw [hvm]; rfl, ?_, hu, ?_⟩
  · intro j v hv
    rw [hvm] at hv ⊢
    rw [lookup_update] at hv
    cases hr : (g vm.files).2.1 with
    | none =>
      rw [hr] at hv
      exact h j v hv
    | some r =>
      rw [hr] at hv
      dsimp only at hv
      split_ifs at hv with hj
      · rw [hj]
        exact (hput vm.files v (by rw [hr, hv])).2
      · exact h j v hv
  · intro vm' hs
    obtain ⟨hre, hfi⟩ := hg.congr vm.files vm'.files hs.files
    refine ⟨by rw [hvm, hf vm' hs, update, update, hre], ?_⟩
    have hreg : (f vm).1.Region workloadID ⊆ vm.Region workloadID := by
      intro p hp j v hv ho hun
      have hpath : (f vm).1.getVolumePath j = vm.getVolumePath j := by rw [hvm]; rfl
      exact hp j v (hu j v hv ho).1 ho (hpath ▸ hun)
    refine ⟨?_, ?_, ?_, ?_⟩
    · rw [hvm, hf vm' hs]
      exact hs.baseDir
    · rw [hvm, hf vm' hs]
      exact hs.nodeID
    · intro j
      rw [hvm, hf vm' hs, lookup_update, lookup_update, hre]
      cases hr : (g vm'.files).2.1 with
      | none => exact hs.volumes j
      | some r =>
        dsimp only
        split_ifs
        · cases r with
          | none => exact .none
          | some v => exact .some ⟨rfl, fun _ => rfl⟩
        · exact hs.volumes j
    · intro p hp
      have hsa := hfi p (hreg hp)
      rwa [hvm, hf vm' hs]

lemma Transparent.of_eq {α : Type} {f f' : VolumeManager → VolumeManager × α}
    (h : Transparent workloadID f vm) (he : ∀ vm', SameFor workloadID vm vm' → f' vm' = f vm') :
    Transparent workloadID f' vm := by
  have hv := he vm (.refl workloadID vm)
  refine ⟨by rw [hv]; exact h.baseDir, by rw [hv]; exact h.housed, by rw [hv]; exact h.untouched, ?_⟩
  intro vm' hs
  rw [hv, he vm' hs]
  exact h.unread vm' hs

lemma transparent_answer (h : vm.Housed) (a : Answer) (hf : ∀ vm', SameFor workloadID vm vm' → f vm' = (vm', a)) :
    Transparent workloadID f vm := by
  refine transparent_of_update h "" (confined_pure (none, a)) ?_ ?_ hf
  · intro fs hne
    exact absurd rfl hne
  · intro fs v hp
    cases hp

section OwnVolume

variable {vm' : VolumeManager}

lemma SameFor.lookup_none (h : SameFor workloadID vm vm') (hv : vm.volumes.lookup id = none) :
    vm'.volumes.lookup id = none := by
  have hr := h.volumes id
  rw [hv] at hr
  cases hl : vm'.volumes.lookup id with
  | none => rfl
  | some v =>
    rw [hl] at hr
    cases hr

variable {v : Volume}

lemma SameFor.lookup_some (h : SameFor workloadID vm vm') (hv : vm.volumes.lookup id = some v) :
    ∃ v', vm'.volumes.lookup id = some v' ∧ v'.workloadID = v.workloadID ∧ (v.workloadID = workloadID → v' = v) := by
  obtain ⟨v', hv', hr⟩ := rel_lookup (h.volumes id) hv
  exact ⟨v', hv', hr⟩

lemma SameFor.lookup_own (h : SameFor workloadID vm vm')
    (hv : vm.volumes.lookup id = some v) (ho : v.workloadID = workloadID) : vm'.volumes.lookup id = some v := by
  obtain ⟨v', hv', -, hs⟩ := h.lookup_some hv
  rw [hv', hs ho]

variable {act : Volume → Files → Files × Option Volume × Answer}

lemma onOwnVolume_of_none (hv : vm.volumes.lookup id = none) :
    vm.onOwnVolume id workloadID act = (vm, .error (.msg ("volume not found: " ++ id))) := by
  unfold onOwnVolume validateWorkloadAccess getVolume
  rw [hv]

lemma onOwnVolume_of_other (hv : vm.volumes.lookup id = some v) (ho : v.workloadID ≠ workloadID) :
    vm.onOwnVolume id workloadID act = (vm, .error (.access id workloadID v.workloadID "access")) := by
  unfold onOwnVolume validateWorkloadAccess getVolume
  rw [hv]
  dsimp only
  rw [if_pos ho]

lemma onOwnVolume_of_own (hv : vm.volumes.lookup id = some v) (ho : v.workloadID = workloadID) :
    vm.onOwnVolume id workloadID act =
      vm.update id ((act v vm.files).1, some (act v vm.files).2.1, (act v vm.files).2.2) := by
  unfold onOwnVolume validateWorkloadAccess getVolume
  rw [hv]
  dsimp only
  rw [if_neg (not_not.mpr ho)]
  dsimp only
  rcases act v vm.files with ⟨fs, - | v', a⟩
  · rfl
  · rfl

def Keeps (act : Volume → Files → Files × Option Volume × Answer) : Prop :=
  ∀ v fs v', (act v fs).2.1 = some v' → v'.workloadID = v.workloadID ∧ v'.path = v.path ∧ v'.mountPath = v.mountPath

lemma transparent_onOwnVolume (h : vm.Housed) (hk : Keeps act)
    (ha : ∀ v, HousedAt vm.baseDir id v → vm.Free workloadID id → Confined (vm.Region workloadID) (act v)) :
    Transparent workloadID (fun vm => vm.onOwnVolume id workloadID act) vm := by
  cases hv : vm.volumes.lookup id with
  | none => exact transparent_answer h _ fun vm' hs => onOwnVolume_of_none (hs.lookup_none hv)
  | some v =>
    by_cases hown : v.workloadID = workloadID
    · have hf : vm.Free workloadID id := by
        intro w hw
        rw [hv] at hw
        cases hw
        exact hown
      have hco := (ha v (h id v hv) hf).map fun r => (some r.1, r.2)
      refine transparent_of_update h id hco (fun _ _ => hf) ?_ ?_
      · intro fs v' hput
        obtain ⟨ho, hp, hm⟩ := hk v fs v' (Option.some.inj hput)
        have hat := h id v hv
        exact ⟨ho.trans hown, hat.plain, hat.notSnapshots, hp.trans hat.path, hm.trans hat.mountPath⟩
      · intro vm' hs
        exact onOwnVolume_of_own (hs.lookup_own hv hown) hown
    · apply transparent_answer h (.error (.access id workloadID v.workloadID "access"))
      intro vm' hs
      obtain ⟨v', hv', ho, -⟩ := hs.lookup_some hv
      rw [← ho] at hown ⊢
      exact onOwnVolume_of_other hv' hown

end OwnVolume

variable {r : Set Path}

lemma confined_copyFile {f : Faults} {src dst : Path} (hs : src ∈ r)
    (hdst : dst ∈ r) (hpa : dst.dropLast ∈ r) : Confined r (copyFile f src dst) := by
  refine ⟨?_, ?_⟩
  · intro fs p hp
    rw [copyFile]
    split
    · rfl
    · exact (confined_writeFile f hdst hpa _).frame fs p hp
  · intro fs fs' h
    rw [copyFile, copyFile, readFile_congr f hs h]
    split
    · exact ⟨rfl, h⟩
    · exact (confined_writeFile f hdst hpa _).congr fs fs' h

lemma calculateVolumeUsage_congr (d : ℕ) {path : Path}
    (hp : ∀ q, path <+: q → q ∈ r) {fs fs' : Files} (h : SameOn r fs fs') :
    calculateVolumeUsage d path fs = calculateVolumeUsage d path fs' := by
  let same : Files × Int64 → Files × Int64 → Prop := fun s s' => SameOn r s.1 s'.1 ∧ s.2 = s'.2
  have hv : ∀ p node s s', path <+: p → same s s' →
      (addSize p node s).2 = (addSize p node s').2 ∧ same (addSize p node s).1 (addSize p node s').1 := by
    rintro p node ⟨fs, size⟩ ⟨fs', size'⟩ - ⟨hfs, rfl⟩
    cases node with
    | dir | file => exact ⟨rfl, hfs, rfl⟩
  have hwalk := walk_congr same (fun s s' hs q hq => hs.1 q (hp q hq)) hv d path List.prefix_rfl (fs, 0) (fs', 0)
    ⟨h, rfl⟩
  rw [calculateVolumeUsage, calculateVolumeUsage]
  rcases hw : walk Prod.fst addSize d path (fs, 0) with ⟨⟨fs₁, t⟩, err⟩
  rcases hw' : walk Prod.fst addSize d path (fs', 0) with ⟨⟨fs₂, t'⟩, err'⟩
  rw [hw, hw'] at hwalk
  obtain ⟨he, -, ht⟩ := hwalk
  cases he
  cases ht
  cases err with
  | none | some => rfl

section Calls

variable {env : VolumeEnv}

lemma transparent_mountVolume (h : vm.Housed) :
    Transparent workloadID (fun vm => vm.mountVolume env id workloadID) vm := by
  apply transparent_onOwnVolume h
  · intro v fs v' hv'
    dsimp only at hv'
    split_ifs at hv' <;> cases hv' <;> exact ⟨rfl, rfl, rfl⟩
  · intro v _ _
    split_ifs
    · exact confined_pure _
    · exact confined_pure _

lemma transparent_unmountVolume (h : vm.Housed) :
    Transparent workloadID (fun vm => vm.unmountVolume env id workloadID) vm := by
  apply transparent_onOwnVolume h
  · intro v fs v' hv'
    dsimp only at hv'
    split_ifs at hv' <;> cases hv' <;> exact ⟨rfl, rfl, rfl⟩
  · intro v _ _
    split_ifs
    · exact confined_pure _
    · exact confined_pure _

lemma transparent_deleteVolume (h : vm.Housed) :
    Transparent workloadID (fun vm => vm.deleteVolume env id workloadID) vm := by
  apply transparent_onOwnVolume h
  · intro v fs v' hv'
    dsimp only at hv'
    split_ifs at hv'
    · cases hv'
      exact ⟨rfl, rfl, rfl⟩
    · rcases hr : removeAll env.removal v.path fs with ⟨fs', - | err⟩ <;> rw [hr] at hv' <;> cases hv'
      exact ⟨rfl, rfl, rfl⟩
  · intro v ha hf
    split_ifs
    · exact confined_pure _
    · have hb : ∀ q, v.path <+: q → q ∈ vm.Region workloadID := by
        rw [ha.path]
        exact fun q hq => mem_region_below h hf hq
      refine (confined_removeAll env.removal hb).onError
        (fun err => confined_pure (some v, Answer.error (.wrap "failed to delete volume directory: " (.msg err))))
        (confined_pure (none, Answer.done)) ?_
      intro fs
      rcases removeAll env.removal v.path fs with ⟨fs', - | err⟩ <;> rfl

lemma transparent_resizeVolume (h : vm.Housed) {ns : Int64} :
    Transparent workloadID (fun vm => vm.resizeVolume env id workloadID ns) vm := by
  apply transparent_onOwnVolume h
  · intro v fs v' hv'
    dsimp only at hv'
    split_ifs at hv' <;> cases hv' <;> exact ⟨rfl, rfl, rfl⟩
  · intro v _ _
    split_ifs
    · exact confined_pure _
    · exact confined_pure _
    · exact confined_pure _

def usageOutcome (env : VolumeEnv) (v : Volume) : Except String Int64 → Option Volume × Answer
  | .error err => (some v, .error (.wrap "failed to calculate volume usage: " (.msg err)))
  | .ok usedBytes => (some { v with usedBytes := usedBytes, lastUsed := env.now 0 }, .done)

lemma transparent_updateVolumeUsage (h : vm.Housed) :
    Transparent workloadID (fun vm => vm.updateVolumeUsage env id workloadID) vm := by
  apply transparent_onOwnVolume h
  · intro v fs v' hv'
    dsimp only at hv'
    split at hv' <;> cases hv' <;> exact ⟨rfl, rfl, rfl⟩
  · intro v ha hf
    have hb : ∀ q, v.mountPath <+: q → q ∈ vm.Region workloadID := by
      rw [ha.mountPath]
      intro q hq
      exact mem_region_below h hf ((List.prefix_append (vm.baseDir ++ [id]) ["mount"]).trans (by simpa using hq))
    refine (confined_read (fun fs fs' hs => calculateVolumeUsage_congr env.depth hb hs) (usageOutcome env v)).of_eq ?_
    intro fs
    cases calculateVolumeUsage env.depth v.mountPath fs <;> rfl

lemma transparent_useVolume (h : vm.Housed) {f : Path} {d : Bytes} :
    Transparent workloadID (fun vm => vm.useVolume env id workloadID f d) vm := by
  apply transparent_onOwnVolume h
  · intro v fs v' hv'
    dsimp only at hv'
    split at hv' <;> cases hv' <;> exact ⟨rfl, rfl, rfl⟩
  · intro v ha hf
    have hm : ∀ q, q <+: v.mountPath ++ f → q ∈ vm.Region workloadID := by
      rw [ha.mountPath, List.append_assoc]
      exact fun q hq => mem_region h hf hq
    refine (confined_writeFile env.faults (hm _ List.prefix_rfl) (hm _ (List.dropLast_prefix _)) d).onError
      (fun err => confined_pure (some v, Answer.error (.msg err))) (confined_pure (some v, Answer.done)) ?_
    intro fs
    rcases writeFile env.faults (v.mountPath ++ f) d fs with ⟨fs', - | err⟩ <;> rfl

lemma confined_fillDirectory {dir : Path} (hm : ∀ q, q ≠ [] → q <+: dir → q ∈ r)
    (hb : ∀ q, dir <+: q → q ∈ r) {f : Files → Files × Option String} (hfill : Confined r f)
    {me fe : String} : Confined r (fillDirectory env dir f me fe) := by
  have hr := confined_removeAll env.removal hb
  have hf := hfill.onError (fun err => hr.map fun _ => some (VolumeError.wrap fe (.msg err)))
    (confined_pure none) fun _ => rfl
  refine (confined_mkdirAll env.faults hm).onError
    (fun err => confined_pure (some (VolumeError.wrap me (.msg err)))) hf ?_
  intro fs
  rw [fillDirectory]
  rcases mkdirAll env.faults dir fs with ⟨fs', - | err⟩
  · dsimp only
    rcases f fs' with ⟨fs'', - | err⟩ <;> rfl
  · rfl

lemma confined_makeDirectories (env : VolumeEnv) (h : vm.Housed) (hf : vm.Free workloadID id) :
    Confined (vm.Region workloadID) (makeDirectories env (vm.baseDir ++ [id]) (vm.baseDir ++ [id, "mount"])) := by
  apply confined_fillDirectory
  · exact fun q _ hq => mem_region h hf hq
  · exact fun q hq => mem_region_below h hf hq
  · exact confined_mkdirAll env.faults fun q _ hq => mem_region h hf hq

lemma confined_copyDirectory {fs : Faults} {d : ℕ} (h : vm.Housed) (hf : vm.Free workloadID id)
    {si : String} : Confined (vm.Region workloadID)
      (copyDirectory fs d (vm.baseDir ++ [id, "mount"]) (vm.baseDir ++ ["snapshots", si])) := by
  have hf' : vm.Free workloadID "snapshots" := fun v hv => absurd rfl (h _ v hv).notSnapshots
  have ht : ∀ r q, q <+: vm.baseDir ++ ["snapshots", si] ++ r → q ∈ vm.Region workloadID := by
    intro r q hq
    rw [List.append_assoc] at hq
    exact mem_region h hf' hq
  have hs : ∀ q, vm.baseDir ++ [id, "mount"] <+: q → q ∈ vm.Region workloadID := by
    intro q hq
    apply mem_region_below h hf
    exact ((List.prefix_append_right_inj _).mpr (List.cons_prefix_cons.mpr ⟨rfl, List.nil_prefix⟩)).trans hq
  apply confined_walk hs
  intro p n hp
  unfold copyEntry
  cases n with
  | dir => exact confined_mkdirAll fs fun q _ hq => ht _ q hq
  | file da => exact confined_copyFile (hs p hp) (ht _ _ List.prefix_rfl) (ht _ _ (List.dropLast_prefix _))

lemma transparent_createVolume (h : vm.Housed) {req : CreateVolumeRequest} (hp : Plain req.volumeID)
    (hname : req.volumeID ≠ "snapshots") : Transparent req.workloadID (fun vm => vm.createVolume env req) vm := by
  cases hv : vm.volumes.lookup req.volumeID with
  | some v =>
    apply transparent_answer h (.error (.msg ("volume already exists: " ++ req.volumeID)))
    intro vm' hs
    obtain ⟨v', hv', -⟩ := hs.lookup_some hv
    unfold createVolume
    rw [hv']
  | none =>
    by_cases hsize : req.sizeBytes ≤ 0
    · apply transparent_answer h (.error (.msg ("invalid volume size: " ++ toString req.sizeBytes)))
      intro vm' hs
      unfold createVolume
      rw [hs.lookup_none hv, if_pos hsize]
    · have hf : vm.Free req.workloadID req.volumeID := by
        intro v hv'
        rw [hv] at hv'
        cases hv'
      let volume := newVolume env req vm.nodeID (vm.baseDir ++ [req.volumeID]) (vm.baseDir ++ [req.volumeID, "mount"])
      have hco := (confined_makeDirectories env h hf).map fun err : Option VolumeError =>
        (err.elim (some (some volume)) fun _ => none, err.elim (Answer.volume volume) Answer.error)
      refine transparent_of_update h req.volumeID hco (fun _ _ => hf) ?_ ?_
      · intro fs v hput
        dsimp only at hput
        cases he : (makeDirectories env (vm.baseDir ++ [req.volumeID]) (vm.baseDir ++ [req.volumeID, "mount"]) fs).2 with
        | some err =>
          rw [he] at hput
          cases hput
        | none =>
          rw [he] at hput
          cases hput
          exact ⟨rfl, hp, hname, rfl, rfl⟩
      · intro vm' hs
        have hpath : vm'.getVolumePath req.volumeID = vm.baseDir ++ [req.volumeID] := by
          rw [getVolumePath, join_of_plain _ hp, hs.baseDir]
        have hm : join (vm.baseDir ++ [req.volumeID]) "mount" = vm.baseDir ++ [req.volumeID, "mount"] := by
          rw [join_of_plain _ (by decide), List.append_assoc]
          rfl
        have hvo : newVolume env req vm'.nodeID (vm.baseDir ++ [req.volumeID])
            (vm.baseDir ++ [req.volumeID, "mount"]) = volume := by rw [hs.nodeID]
        unfold createVolume
        rw [hs.lookup_none hv, if_neg hsize]
        dsimp only [checkAvailableSpace]
        rw [hpath, hm, hvo]
        rcases makeDirectories env (vm.baseDir ++ [req.volumeID]) (vm.baseDir ++ [req.volumeID, "mount"]) vm'.files with
          ⟨fs, - | err⟩ <;> rfl

lemma transparent_createSnapshot (h : vm.Housed) {snapshotID : String} (hp : Plain snapshotID)
    (hf : vm.Free workloadID id) : Transparent workloadID (fun vm => vm.createSnapshot env id snapshotID) vm := by
  cases hv : vm.volumes.lookup id with
  | none =>
    apply transparent_answer h (.error (.msg ("volume not found: " ++ id)))
    intro vm' hs
    unfold createSnapshot getVolume
    rw [hs.lookup_none hv]
  | some v =>
    have ho : v.workloadID = workloadID := hf v hv
    have hf' : vm.Free workloadID "snapshots" := fun v hv => absurd rfl (h _ v hv).notSnapshots
    have hcopy : Confined (vm.Region workloadID)
        (copyVolume env (vm.baseDir ++ [id, "mount"]) (vm.baseDir ++ ["snapshots", snapshotID])) := by
      apply confined_fillDirectory
      · exact fun q _ hq => mem_region h hf' hq
      · intro q hq
        apply mem_region_below h hf'
        exact ((List.prefix_append_right_inj _).mpr (List.cons_prefix_cons.mpr ⟨rfl, List.nil_prefix⟩)).trans hq
      · exact confined_copyDirectory h hf
    have hco := hcopy.map fun err : Option VolumeError => ((none : Option (Option Volume)),
      err.elim (Answer.snapshot ⟨snapshotID, id, v.usedBytes, vm.baseDir ++ ["snapshots", snapshotID], env.now 0,
        v.workloadID⟩) Answer.error)
    refine transparent_of_update h "" hco (fun _ hne => absurd rfl hne) (fun _ _ hput => by cases hput) ?_
    intro vm' hs
    have hpath : join (join vm'.baseDir "snapshots") snapshotID = vm.baseDir ++ ["snapshots", snapshotID] := by
      rw [join_of_plain _ hp, join_of_plain vm'.baseDir (by decide), hs.baseDir, List.append_assoc]
      rfl
    unfold createSnapshot getVolume
    rw [hs.lookup_own hv ho]
    dsimp only
    rw [hpath, (h id v hv).mountPath]
    rcases copyVolume env (vm.baseDir ++ [id, "mount"]) (vm.baseDir ++ ["snapshots", snapshotID]) vm'.files with
      ⟨fs, - | err⟩ <;> rfl

lemma SameFor.listVolumesByWorkload {vm' : VolumeManager} (h : SameFor workloadID vm vm') (o : MapOrder) :
    vm'.listVolumesByWorkload o workloadID = vm.listVolumesByWorkload o workloadID := by
  rw [VolumeManager.listVolumesByWorkload, VolumeManager.listVolumesByWorkload, ← List.filterMap_eq_filter]
  apply filterMap_valuesIn o
  · intro id
    cases hv : vm.volumes.lookup id with
    | none => rw [h.lookup_none hv]
    | some v =>
      obtain ⟨v', hv', -⟩ := h.lookup_some hv
      rw [hv']
      rfl
  · intro id
    cases hv : vm.volumes.lookup id with
    | none => rw [h.lookup_none hv]
    | some v =>
      obtain ⟨v', hv', ho, hs⟩ := h.lookup_some hv
      rw [hv']
      by_cases hown : v.workloadID = workloadID
      · rw [hs hown]
      · have hoth : v'.workloadID ≠ workloadID := ho ▸ hown
        simp [Option.guard, hown, hoth]

def cleanupRest (env : String → VolumeEnv) (workloadID : String) (volume : Volume) (volumes : List Volume)
    (vm : VolumeManager) : Answer → VolumeManager × Answer
  | .error _ => (vm.cleanupEach env workloadID volumes, .done)
  | _ => ((vm.deleteVolume (env volume.id) volume.id workloadID).1.cleanupEach env workloadID volumes, .done)

lemma transparent_cleanupEach (env : String → VolumeEnv) (volumes : List Volume) (h : vm.Housed) :
    Transparent workloadID (fun vm => (vm.cleanupEach env workloadID volumes, Answer.done)) vm := by
  induction volumes generalizing vm with
  | nil => exact transparent_answer h .done fun _ _ => rfl
  | cons volume volumes ih =>
    have hde : ∀ {vm : VolumeManager}, vm.Housed → Transparent workloadID (fun vm =>
        ((vm.deleteVolume (env volume.id) volume.id workloadID).1.cleanupEach env workloadID volumes, Answer.done)) vm := by
      intro vm h
      have hf : Transparent workloadID (fun vm => vm.deleteVolume (env volume.id) volume.id workloadID) vm :=
        transparent_deleteVolume h
      exact hf.bind (g := fun _ vm => (vm.cleanupEach env workloadID volumes, Answer.done)) (ih hf.housed)
    by_cases hm : volume.state = .mounted
    · have hf : Transparent workloadID (fun vm => vm.unmountVolume (env volume.id) volume.id workloadID) vm :=
        transparent_unmountVolume h
      refine (hf.bind (g := fun answer vm => vm.cleanupRest env workloadID volume volumes answer) ?_).of_eq ?_
      · cases (vm.unmountVolume (env volume.id) volume.id workloadID).2 with
        | error err => exact ih hf.housed
        | done | volume | volumes | mounted | snapshot => exact hde hf.housed
      · intro vm' _
        rw [cleanupEach, if_pos hm]
        rcases vm'.unmountVolume (env volume.id) volume.id workloadID with ⟨vm'', answer⟩
        cases answer <;> rfl
    · refine (hde h).of_eq ?_
      intro vm' _
      rw [cleanupEach, if_neg hm]

lemma transparent_call (h : vm.Housed) {c : VolumeCall} (hc : vm.Proper c) :
    Transparent c.workload (fun vm => vm.call c) vm := by
  cases c with
  | createVolume env req => exact transparent_createVolume h hc.1 hc.2
  | getVolume workloadID vi =>
    cases hv : vm.volumes.lookup vi with
    | none =>
      refine transparent_answer h (.error (.msg ("volume not found: " ++ vi))) ?_
      intro vm' hs
      rw [call, VolumeManager.getVolume, hs.lookup_none hv]
    | some v =>
      refine transparent_answer h (.volume v) ?_
      intro vm' hs
      rw [call, VolumeManager.getVolume, hs.lookup_own hv (hc v hv)]
  | mountVolume env workloadID vi => exact transparent_mountVolume h
  | unmountVolume env workloadID vi => exact transparent_unmountVolume h
  | deleteVolume env workloadID vi => exact transparent_deleteVolume h
  | listVolumes o workloadID =>
    refine transparent_answer h (.volumes (vm.listVolumes o)) ?_
    intro vm' hs
    have hvo : vm'.volumes = vm.volumes := by
      apply Finmap.ext_lookup
      intro id
      cases hv : vm.volumes.lookup id with
      | none => exact hs.lookup_none hv
      | some v => exact hs.lookup_own hv (hc id v hv)
    rw [call, VolumeManager.listVolumes, hvo]
    rfl
  | listVolumesByWorkload o workloadID =>
    refine transparent_answer h (.volumes (vm.listVolumesByWorkload o workloadID)) ?_
    intro vm' hs
    have hl : vm'.listVolumesByWorkload o workloadID = vm.listVolumesByWorkload o workloadID :=
      hs.listVolumesByWorkload o
    rw [call, hl]
  | resizeVolume env workloadID vi ns => exact transparent_resizeVolume h
  | updateVolumeUsage env workloadID vi => exact transparent_updateVolumeUsage h
  | createSnapshot env workloadID vi si =>
    exact transparent_createSnapshot h hc.1 hc.2
  | cleanupWorkloadVolumes o env workloadID =>
    refine (transparent_cleanupEach env (vm.listVolumesByWorkload o workloadID) h).of_eq ?_
    intro vm' hs
    have hl : vm'.listVolumesByWorkload o workloadID = vm.listVolumesByWorkload o workloadID :=
      hs.listVolumesByWorkload o
    rw [call, cleanupWorkloadVolumes, hl]
    rfl
  | useVolume env workloadID vi f d => exact transparent_useVolume h

end Calls

variable {env : LoadEnv}

lemma housed_loadVolume (h : vm.Housed) {n : String} (hname : Plain n) :
    (vm.loadVolume env n).Housed ∧ (vm.loadVolume env n).baseDir = vm.baseDir ∧
      (vm.loadVolume env n).files = vm.files := by
  rw [loadVolume]
  split_ifs with hs
  · exact ⟨h, rfl, rfl⟩
  · dsimp only
    split
    · exact ⟨h, rfl, rfl⟩
    · refine ⟨?_, rfl, rfl⟩
      intro id v hv
      dsimp only at hv
      rw [lookup_insert_if] at hv
      split_ifs at hv with hid
      · cases hv
        subst hid
        refine ⟨hname, fun he => hs (.inr he), join_of_plain _ hname, ?_⟩
        dsimp only
        rw [getVolumePath, join_of_plain _ (by decide), join_of_plain _ hname, List.append_assoc]
        rfl
      · exact h id v hv

lemma housed_new {bd : Path} {ni : String} {fs : Files}
    (hf : ∀ name node, fs.lookup (bd ++ [name]) = some node → Plain name)
    (hnew : (newVolumeManager env bd ni fs).2 = .ok vm) : vm.Housed := by
  rw [newVolumeManager] at hnew
  rcases hm : mkdirAll env.faults bd fs with ⟨fs', - | err⟩
  · rw [hm] at hnew
    cases hnew
    have hs : ∀ name, fs'.lookup (bd ++ [name]) = fs.lookup (bd ++ [name]) := by
      intro name
      have hch := lookup_mkdirAll_child env.faults bd fs name
      rwa [hm] at hch
    rw [loadVolumes]
    split
    · intro id v hv
      cases hv
    · have hna : ∀ name ∈ readDirNames bd fs', Plain name := by
        intro name hname
        obtain ⟨node, hnode⟩ := mem_childNames.mp (mem_sortedNames.mp hname)
        exact hf name node (hs name ▸ hnode)
      change Housed (run (loadVolume env) _ _)
      refine run_preserves Housed (readDirNames bd fs') ?_ ?_
      · intro vm name hname h
        exact (housed_loadVolume h (hna name hname)).1
      · intro id v hv
        cases hv
  · rw [hm] at hnew
    cases hnew

theorem volumes_isolated_of_proper (env : LoadEnv) (baseDir : Path) (nodeID : String) (files : Files) (vm : VolumeManager)
    (hfiles : ∀ name node, files.lookup (baseDir ++ [name]) = some node → Plain name)
    (hnew : (newVolumeManager env baseDir nodeID files).2 = .ok vm) (calls : List VolumeCall)
    (hcalls : Admissible after Proper vm calls) : Admissible after Isolated vm calls := by
  refine admissible_imp Housed ?_ ?_ calls (housed_new hfiles hnew) hcalls
  · intro vm c h hc
    exact (transparent_call h hc).housed
  · intro vm c h hc
    have ht := transparent_call h hc
    exact ⟨ht.untouched, ht.unread⟩

section Sample

def noFaults : Faults := ⟨fun _ => none, fun _ => none, fun _ => none⟩

def calmVolumeEnv : VolumeEnv := ⟨fun _ => unix 10, noFaults, none, 16⟩

def calmLoadEnv : LoadEnv := ⟨noFaults, 16, none, fun _ => .ok (unix 20)⟩

def volumesDir : Path := ["data", "volumes"]

def emptyManager : VolumeManager :=
  ⟨volumesDir, "node", ∅, (mkdirAll noFaults volumesDir ∅).1⟩

def create (workloadID volumeID : String) : VolumeCall :=
  .createVolume calmVolumeEnv ⟨volumeID, "", workloadID, 1000, .high, none, none⟩

def write (workloadID volumeID : String) (data : Bytes) : VolumeCall :=
  .useVolume calmVolumeEnv workloadID volumeID ["f"] data

theorem volumes_isolated_pair : Admissible after Isolated emptyManager
      [create "w" "a", create "x" "b", write "w" "a" [1], .createSnapshot calmVolumeEnv "w" "a" "s",
        .deleteVolume calmVolumeEnv "x" "a", .deleteVolume calmVolumeEnv "x" "b"] := by
  refine volumes_isolated_of_proper calmLoadEnv volumesDir "node" ∅ emptyManager ?_ ?_ _ ?_
  · intro n no hnode
    cases hnode
  · decide +kernel
  · refine ⟨⟨by decide, by decide⟩, ⟨by decide, by decide⟩, trivial, ⟨by decide, ?_⟩, trivial, trivial, trivial⟩
    intro v hv
    have ho : ((run after emptyManager [create "w" "a", create "x" "b", write "w" "a" [1]]).volumes.lookup "a").map
        Volume.workloadID = some "w" := by decide +kernel
    rw [show (run after emptyManager [create "w" "a", create "x" "b", write "w" "a" [1]]).volumes.lookup "a" = some v
      from hv] at ho
    exact Option.some.inj ho

theorem volumes_not_isolated : let path : Path := ["data", "volumes", "a", "mount", "f"]
    let vm := run after emptyManager [create "w" "a", write "w" "a" [1]]
    let deleted := run after vm [create "x" "a/.", .deleteVolume calmVolumeEnv "x" "a/."]
    let copied := run after vm [.createSnapshot calmVolumeEnv "x" "a" "s"]
    let overwritten := run after vm [create "x" "b", write "x" "b" [2], .createSnapshot calmVolumeEnv "x" "b" "../a/mount"]
    (vm.volumes.lookup "a").map Volume.workloadID = some "w" ∧ vm.files.lookup path = some (.file [1]) ∧
      deleted.files.lookup path = none ∧
      copied.files.lookup ["data", "volumes", "snapshots", "s", "f"] = some (.file [1]) ∧
      overwritten.files.lookup path = some (.file [2]) := by
  decide +kernel

end Sample

end VolumeManager

end Cloudless.Volumes
