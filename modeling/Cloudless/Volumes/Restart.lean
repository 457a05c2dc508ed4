import Cloudless.Volumes.Isolation

namespace Cloudless.Volumes

open Foundations FileSystem FiniteMaps GoStd Runs

namespace VolumeManager

def reloaded (env : LoadEnv) (vm : VolumeManager) (volumeID : String) : Option Volume :=
  if vm.files.lookup (vm.baseDir ++ [volumeID]) ≠ some .dir ∨ volumeID = "snapshots" then none
  else
    match env.info volumeID with
    | .error _ => none
    | .ok modTime =>
      let volumePath := vm.getVolumePath volumeID
      let mountPath := join volumePath "mount"
      some ⟨volumeID, "", "", vm.nodeID, volumePath, 0,
        (calculateVolumeUsage env.depth mountPath vm.files).toOption.getD 0, mountPath, .other "", .created, modTime, 0,
        modTime, none, none⟩

variable {volumeID : String} {vm : VolumeManager} {env : LoadEnv}

lemma loadVolume_eq : vm.loadVolume env volumeID = match vm.reloaded env volumeID with
      | none => vm
      | some v => { vm with volumes := vm.volumes.insert volumeID v } := by
  rw [loadVolume, reloaded]
  split_ifs with hs
  · rfl
  · cases env.info volumeID with
    | error | ok => rfl

lemma reloaded_isSome_iff :
    (vm.reloaded env volumeID).isSome ↔ vm.files.lookup (vm.baseDir ++ [volumeID]) = some .dir ∧
      volumeID ≠ "snapshots" ∧ (env.info volumeID).isOk := by
  rw [reloaded]
  split_ifs with hs
  · have hnot : ¬(vm.files.lookup (vm.baseDir ++ [volumeID]) = some .dir ∧ volumeID ≠ "snapshots") := by
      rintro ⟨hdir, hname⟩
      exact hs.elim (fun h => h hdir) hname
    simp only [Option.isSome_none, Bool.false_eq_true, false_iff]
    rintro ⟨hdir, hname, -⟩
    exact hnot ⟨hdir, hname⟩
  · rw [not_or, not_not] at hs
    cases env.info volumeID with
    | error err => simp [Except.isOk, Except.toBool]
    | ok mt => simp [Except.isOk, Except.toBool, hs.1, hs.2]

lemma reloaded_anonymous {v : Volume} (h : vm.reloaded env volumeID = some v) :
    v.workloadID = "" ∧ v.sizeBytes = 0 ∧ v.labels = none := by
  rw [reloaded] at h
  split_ifs at h
  cases hinfo : env.info volumeID with
  | error err =>
    rw [hinfo] at h
    cases h
  | ok mt =>
    rw [hinfo] at h
    cases h
    exact ⟨rfl, rfl, rfl⟩

lemma lookup_foldl_loadVolume {ns : List String} : (ns.foldl (loadVolume env) vm).volumes.lookup volumeID =
      if volumeID ∈ ns ∧ (vm.reloaded env volumeID).isSome then vm.reloaded env volumeID
      else vm.volumes.lookup volumeID := by
  induction ns generalizing vm with
  | nil => simp
  | cons n ns ih =>
    have hr : (vm.loadVolume env n).reloaded env volumeID = vm.reloaded env volumeID := by
      rw [loadVolume_eq]
      cases vm.reloaded env n with
      | none | some => rfl
    rw [List.foldl_cons, ih, hr]
    by_cases hm : volumeID ∈ ns ∧ (vm.reloaded env volumeID).isSome
    · rw [if_pos hm, if_pos ⟨List.mem_cons_of_mem n hm.1, hm.2⟩]
    · rw [if_neg hm, loadVolume_eq]
      cases hname : vm.reloaded env n with
      | none =>
        rw [if_neg]
        rintro ⟨hin, hs⟩
        rcases List.mem_cons.mp hin with rfl | hin
        · rw [hname] at hs
          cases hs
        · exact hm ⟨hin, hs⟩
      | some v =>
        dsimp only
        rw [lookup_insert_if]
        by_cases hid : volumeID = n
        · subst hid
          rw [if_pos rfl, if_pos ⟨List.mem_cons_self .., by rw [hname]; rfl⟩, hname]
        · rw [if_neg hid, if_neg]
          rintro ⟨hin, hs⟩
          exact hm ⟨(List.mem_cons.mp hin).resolve_left hid, hs⟩

lemma lookup_new {bd : Path} {ni : String} {fs : Files}
    (hnew : (newVolumeManager env bd ni fs).2 = .ok vm) (volumeID : String) : vm.volumes.lookup volumeID =
      if env.readDir = none then (⟨bd, ni, ∅, (mkdirAll env.faults bd fs).1⟩ : VolumeManager).reloaded env volumeID
      else none := by
  rw [newVolumeManager] at hnew
  rcases hm : mkdirAll env.faults bd fs with ⟨fs', - | err⟩
  · rw [hm] at hnew
    cases hnew
    rw [loadVolumes]
    cases hr : env.readDir with
    | some err => rfl
    | none =>
      rw [if_pos rfl]
      dsimp only
      rw [lookup_foldl_loadVolume]
      split_ifs with hl
      · rfl
      · rw [Finmap.lookup_empty]
        symm
        rw [← Option.not_isSome_iff_eq_none]
        intro hs
        have hdir := (reloaded_isSome_iff.mp hs).1
        exact hl ⟨mem_sortedNames.mpr (mem_childNames.mpr ⟨_, hdir⟩), hs⟩
  · rw [hm] at hnew
    cases hnew

lemma validateWorkloadAccess_eq_none {v : Volume} (h : vm.volumes.lookup volumeID = some v) {c : String} :
    vm.validateWorkloadAccess volumeID c = none ↔ c = v.workloadID := by
  rw [validateWorkloadAccess, getVolume, h]
  dsimp only
  split_ifs with ho
  · simp only [false_iff]
    exact fun he => ho he.symm
  · rw [not_not] at ho
    simp only [ho]

/-- A volume comes back with its owner, its limit and its labels, and lets in its owner and nobody else. -/
structure Survives (vm : VolumeManager) (volumeID : String) (volume : Volume) : Prop where
  record : ∃ volume', vm.volumes.lookup volumeID = some volume' ∧ volume'.workloadID = volume.workloadID ∧
    volume'.sizeBytes = volume.sizeBytes ∧ volume'.labels.getD ∅ = volume.labels.getD ∅
  access : ∀ caller, vm.validateWorkloadAccess volumeID caller = none ↔ caller = volume.workloadID

def Findable (env : LoadEnv) (vm : VolumeManager) (volumeID : String) : Prop :=
  env.readDir = none ∧ vm.files.lookup (vm.baseDir ++ [volumeID]) = some .dir ∧ volumeID ≠ "snapshots" ∧
    (env.info volumeID).isOk

def Bare (volume : Volume) : Prop :=
  volume.workloadID = "" ∧ volume.sizeBytes = 0 ∧ volume.labels.getD ∅ = ∅

variable {vm' : VolumeManager}

lemma lookup_new_isSome_iff (hnew : (newVolumeManager env vm.baseDir vm.nodeID vm.files).2 = .ok vm') :
    (vm'.volumes.lookup volumeID).isSome ↔ vm.Findable env volumeID := by
  rw [lookup_new hnew, Findable]
  split_ifs with hr
  · rw [reloaded_isSome_iff, lookup_mkdirAll_child]
    exact (and_iff_right hr).symm
  · simp [hr]

lemma survives_iff (hnew : (newVolumeManager env vm.baseDir vm.nodeID vm.files).2 = .ok vm')
    {volume : Volume} : vm'.Survives volumeID volume ↔ vm.Findable env volumeID ∧ Bare volume := by
  rw [← lookup_new_isSome_iff hnew]
  cases hl : vm'.volumes.lookup volumeID with
  | none =>
    constructor
    · rintro ⟨⟨volume', hv', -⟩, -⟩
      rw [hl] at hv'
      cases hv'
    · rintro ⟨hsome, -⟩
      cases hsome
  | some volume' =>
    have hlo := lookup_new hnew volumeID
    rw [hl] at hlo
    split_ifs at hlo
    obtain ⟨ho, hs, hla⟩ := reloaded_anonymous hlo.symm
    constructor
    · rintro ⟨⟨volume'', hvolume'', hr⟩, -⟩
      rw [hl] at hvolume''
      cases hvolume''
      rw [ho, hs, hla] at hr
      exact ⟨rfl, hr.1.symm, hr.2.1.symm, hr.2.2.symm⟩
    · rintro ⟨-, hb⟩
      refine ⟨⟨volume', hl, ?_, ?_, ?_⟩, ?_⟩
      · rw [ho, hb.1]
      · rw [hs, hb.2.1]
      · rw [hla, hb.2.2]
        rfl
      · intro caller
        rw [validateWorkloadAccess_eq_none hl, ho, hb.1]

theorem volumes_survive_restart_iff (vm vm' : VolumeManager) (calls : List VolumeCall) (env : LoadEnv)
    (hnew : (newVolumeManager env (run after vm calls).baseDir (run after vm calls).nodeID
      (run after vm calls).files).2 = .ok vm') :
    (∀ volumeID volume, (run after vm calls).volumes.lookup volumeID = some volume → vm'.Survives volumeID volume) ↔
      ∀ volumeID volume, (run after vm calls).volumes.lookup volumeID = some volume →
        (run after vm calls).Findable env volumeID ∧ Bare volume := by
  constructor
  · intro h volumeID volume hv
    exact (survives_iff hnew).mp (h volumeID volume hv)
  · intro h volumeID volume hv
    exact (survives_iff hnew).mpr (h volumeID volume hv)

section Sample

def createBare (volumeID : String) : List VolumeCall :=
  [create "" volumeID, write "" volumeID [1], .resizeVolume calmVolumeEnv "" volumeID 0]

def bareVolume (volumeID : String) : Volume :=
  ⟨volumeID, "", "", "node", volumesDir ++ [volumeID], 0, 0, volumesDir ++ [volumeID, "mount"], .high, .created, unix 10, 0,
    unix 10, none, none⟩

theorem volumes_survive_restart_bare :
    ∃ vm', (newVolumeManager calmLoadEnv volumesDir "node" (run after emptyManager (createBare "a")).files).2 = .ok vm' ∧
      ∀ volumeID volume, (run after emptyManager (createBare "a")).volumes.lookup volumeID = some volume →
        vm'.Survives volumeID volume := by
  refine ⟨_, rfl, (volumes_survive_restart_iff emptyManager _ (createBare "a") calmLoadEnv rfl).mpr ?_⟩
  have hvo : (run after emptyManager (createBare "a")).volumes =
      (∅ : FMap String Volume).insert "a" (bareVolume "a") := by decide +kernel
  intro volumeID volume hv
  rw [hvo, lookup_insert_if] at hv
  split_ifs at hv with hid
  · cases hv
    subst hid
    exact ⟨⟨rfl, by decide +kernel, by decide, rfl⟩, rfl, rfl, rfl⟩
  · cases hv

theorem restart_forgets_owner : let labels : FMap String String := (∅ : FMap String String).insert "tier" "gold"
    let vm := run after emptyManager [.createVolume calmVolumeEnv ⟨"a", "", "w", 1000, .high, some labels, none⟩]
    let restarted := (newVolumeManager calmLoadEnv vm.baseDir vm.nodeID vm.files).2.toOption
    vm.validateWorkloadAccess "a" "w" = none ∧ vm.validateWorkloadAccess "a" "" ≠ none ∧
      restarted.map (validateWorkloadAccess "a" "w") = some (some (.access "a" "w" "" "access")) ∧
      restarted.map (validateWorkloadAccess "a" "") = some none ∧
      (restarted.bind fun vm => vm.volumes.lookup "a").map (fun v => (v.workloadID, v.sizeBytes, v.labels)) =
        some ("", 0, none) := by
  decide +kernel

end Sample

end VolumeManager

end Cloudless.Volumes
