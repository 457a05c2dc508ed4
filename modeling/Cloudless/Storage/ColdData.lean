import Cloudless.Foundations.MapLoops
import Cloudless.Storage.CacheAgreement

namespace Cloudless.Storage

open Foundations FiniteMaps GoStd MapLoops Runs MetadataStore

variable {V : Type}

structure BucketMetadata where
  name : String
  storageClass : StorageClass
  usedBytes : Int64
  objectCount : ℕ
  createdAt : Time

structure ObjectMetadata where
  key : String
  size : Int64
  checksum : String
  storageClass : StorageClass
  (createdAt updatedAt : Time)

def toBucketMetadata (objects : FMap String Object) (bucket : Bucket) : BucketMetadata :=
  ⟨bucket.name, bucket.storageClass, bucket.usedBytes,
    size (filterMap (fun _ object => if object.bucket = bucket.name then some object else none) objects),
    bucket.createdAt⟩

def toObjectMetadata (obj : Object) : ObjectMetadata :=
  ⟨obj.key, obj.size, obj.checksum, obj.storageClass, obj.createdAt, obj.updatedAt⟩

def passedOver (bucket keyPrefix : String) (opts : ReadOptions) (now : Time) (obj : Object) : Bool :=
  obj.bucket ≠ bucket ∨ keyPrefix ≠ "" ∧ ¬hasPrefix obj.key keyPrefix ∨
    opts.consistency = .bounded ∧ opts.maxStaleness < now - obj.updatedAt

def collectObjects (bucket keyPrefix : String) (maxKeys : ℤ) (opts : ReadOptions) (now : Time) :
    ℕ → List Object → List ObjectMetadata
  | _, [] => []
  | count, obj :: objects =>
    if passedOver bucket keyPrefix opts now obj then collectObjects bucket keyPrefix maxKeys opts now count objects
    else if 0 < maxKeys ∧ maxKeys ≤ count + 1 then [toObjectMetadata obj]
    else toObjectMetadata obj :: collectObjects bucket keyPrefix maxKeys opts now (count + 1) objects

namespace MetadataStore

variable (order : MapOrder)

def listBuckets (ms : MetadataStore V) : List BucketMetadata :=
  (valuesIn order ms.buckets).map (toBucketMetadata ms.objects)

def listObjectsWithOptions (now : Time) (bucket keyPrefix : String) (maxKeys : ℤ) (opts : ReadOptions)
    (ms : MetadataStore V) : Except Err (List ObjectMetadata) :=
  match ms.leaderCheck opts "list_objects" with
  | some err => .error err
  | none =>
    match ms.getBucketWithOptions now bucket opts with
    | .error err => .error err
    | .ok _ => .ok (collectObjects bucket keyPrefix maxKeys opts now 0 (valuesIn order ms.objects))

def listObjects (now : Time) (bucket keyPrefix : String) (maxKeys : ℤ) (ms : MetadataStore V) :
    Except Err (List ObjectMetadata) :=
  ms.listObjectsWithOptions order now bucket keyPrefix maxKeys defaultReadOptions

end MetadataStore

def isObjectCold (now : Time) (object : Object) (coldThreshold : ℤ) : Bool :=
  if object.ecEnabled then true
  else if object.storageClass = .cold then true
  else if object.accessedAt = 0 then coldThreshold < now - object.createdAt
  else coldThreshold < now - object.accessedAt

structure ScanEnv where
  bucketOrder : MapOrder
  order : String → MapOrder
  listed : String → Time
  (accessed checked : String → String → Time)
  accessed_ne_zero : ∀ bucket key, accessed bucket key ≠ 0

section Search

variable (env : ScanEnv) (threshold : ℤ)

def scanObjects (bucket : String) : List ObjectMetadata → MetadataStore V → MetadataStore V × List Object
  | [], ms => (ms, [])
  | objMeta :: rest, ms =>
    match ms.getObject (env.accessed bucket objMeta.key) bucket objMeta.key with
    | (ms, .error _) => scanObjects bucket rest ms
    | (ms, .ok obj) =>
      let found := scanObjects bucket rest ms
      if obj.ecEnabled then found
      else if isObjectCold (env.checked bucket objMeta.key) obj threshold then (found.1, obj :: found.2)
      else found

def scanBuckets : List BucketMetadata → MetadataStore V → MetadataStore V × List Object
  | [], ms => (ms, [])
  | bucket :: rest, ms =>
    match ms.listObjects (env.order bucket.name) (env.listed bucket.name) bucket.name "" 1000 with
    | .error _ => scanBuckets rest ms
    | .ok objectMetadata =>
      let scanned := scanObjects env threshold bucket.name objectMetadata ms
      let found := scanBuckets rest scanned.1
      (found.1, scanned.2 ++ found.2)

def identifyColdObjects (ms : MetadataStore V) : MetadataStore V × List Object :=
  scanBuckets env threshold (ms.listBuckets env.bucketOrder) ms

end Search

structure Alike (ms ms' : MetadataStore V) : Prop where
  buckets : ms'.buckets = ms.buckets
  raftStore : ms'.raftStore = ms.raftStore
  objects : ∀ k, (ms'.objects.lookup k).map Object.sansAccess = (ms.objects.lookup k).map Object.sansAccess

namespace Alike

variable {ms ms' : MetadataStore V}

lemma refl (ms : MetadataStore V) : Alike ms ms := ⟨rfl, rfl, fun _ => rfl⟩

lemma trans {ms'' : MetadataStore V} (h : Alike ms ms') (h' : Alike ms' ms'') : Alike ms ms'' :=
  ⟨h'.buckets.trans h.buckets, h'.raftStore.trans h.raftStore, fun k => (h'.objects k).trans (h.objects k)⟩

lemma leads (h : Alike ms ms') : ms'.leads = ms.leads := by
  rw [MetadataStore.leads, MetadataStore.leads, h.raftStore]

lemma getObject (now : Time) (b key : String) (ms : MetadataStore V) : Alike ms (ms.getObject now b key).1 := by
  rcases ms.getObject_cases now b key with ⟨err, he⟩ | ⟨o, ho, -, he⟩
  · rw [he]
    exact refl ms
  · rw [he]
    refine ⟨rfl, rfl, ?_⟩
    intro k
    dsimp only
    rw [lookup_insert_if]
    split_ifs with hk
    · rw [hk, ho]
      rfl
    · rfl

end Alike

variable {objects : List Object} {opts : ReadOptions} {maxKeys : ℤ}

lemma collectObjects_sansAccess {bucket keyPrefix : String} {now : Time} {count : ℕ} :
    collectObjects bucket keyPrefix maxKeys opts now count (objects.map Object.sansAccess) =
      collectObjects bucket keyPrefix maxKeys opts now count objects := by
  induction objects generalizing count with
  | nil => rfl
  | cons obj objects ih =>
    have hp : passedOver bucket keyPrefix opts now obj.sansAccess = passedOver bucket keyPrefix opts now obj := rfl
    rw [List.map_cons, collectObjects, collectObjects, hp, ih, ih]
    rfl

lemma Alike.listObjects {ms ms' : MetadataStore V} (h : Alike ms ms') (order : MapOrder) (now : Time)
    (bucket keyPrefix : String) (maxKeys : ℤ) :
    ms'.listObjects order now bucket keyPrefix maxKeys = ms.listObjects order now bucket keyPrefix maxKeys := by
  have hco : ∀ opts, collectObjects bucket keyPrefix maxKeys opts now 0 (valuesIn order ms'.objects) =
      collectObjects bucket keyPrefix maxKeys opts now 0 (valuesIn order ms.objects) := by
    intro opts
    rw [← collectObjects_sansAccess, map_valuesIn order _ h.objects, collectObjects_sansAccess]
  have hl : ∀ opts operation, ms'.leaderCheck opts operation = ms.leaderCheck opts operation := by
    intro opts operation
    rw [leaderCheck, leaderCheck, h.raftStore]
  have hb : ∀ opts, ms'.getBucketWithOptions now bucket opts = ms.getBucketWithOptions now bucket opts := by
    intro opts
    rw [getBucketWithOptions, getBucketWithOptions, hl, h.buckets]
  unfold MetadataStore.listObjects MetadataStore.listObjectsWithOptions
  rw [hl, hb, hco]

section Found

variable (env : ScanEnv) (threshold : ℤ)

def judge (bucket key : String) (obj : Object) : Option Object :=
  if obj.ecEnabled then none
  else if isObjectCold (env.checked bucket key) obj threshold then some obj
  else none

variable (ms : MetadataStore V)

def verdict (bucket key : String) : Option Object :=
  if ms.leads then
    ((ms.objects.lookup (getObjectKey bucket key)).map Object.sansAccess).bind fun o =>
      judge env threshold bucket key { o with accessedAt := env.accessed bucket key }
  else none

def listing (bucket : String) : List ObjectMetadata :=
  (ms.listObjects (env.order bucket) (env.listed bucket) bucket "" 1000).toOption.getD []

lemma Alike.verdict {ms ms' : MetadataStore V} (h : Alike ms ms') (b key : String) :
    verdict env threshold ms' b key = verdict env threshold ms b key := by
  rw [Storage.verdict, Storage.verdict, h.leads, h.objects]

lemma Alike.listing {ms ms' : MetadataStore V} (h : Alike ms ms') (bucket : String) :
    listing env ms' bucket = listing env ms bucket := by
  rw [Storage.listing, Storage.listing, h.listObjects]

lemma verdict_eq (b key : String) : verdict env threshold ms b key =
      match (ms.getObject (env.accessed b key) b key).2 with
      | .error _ => none
      | .ok obj => judge env threshold b key obj := by
  rcases ms.getObject_cases (env.accessed b key) b key with ⟨err, he⟩ | ⟨o, ho, hl, he⟩
  · rw [he, verdict]
    split_ifs with hl
    · cases ho : ms.objects.lookup (getObjectKey b key) with
      | none => rfl
      | some o =>
        rw [getObject_of_leads hl _ ho] at he
        cases (Prod.mk.inj he).2
    · rfl
  · rw [he, verdict, if_pos hl, ho]
    rfl

lemma scanObjects_spec (b : String) (me : List ObjectMetadata) (ms : MetadataStore V) :
    Alike ms (scanObjects env threshold b me ms).1 ∧ (scanObjects env threshold b me ms).2 =
      me.filterMap fun om => verdict env threshold ms b om.key := by
  induction me generalizing ms with
  | nil => exact ⟨.refl ms, rfl⟩
  | cons om r ih =>
    have ha := Alike.getObject (env.accessed b om.key) b om.key ms
    have hv := verdict_eq env threshold ms b om.key
    rw [scanObjects, List.filterMap_cons]
    cases hg : ms.getObject (env.accessed b om.key) b om.key with
    | mk ms' a =>
      rw [hg] at ha hv
      obtain ⟨hr, hf⟩ := ih ms'
      have hs : (fun om : ObjectMetadata => verdict env threshold ms' b om.key) =
          fun om => verdict env threshold ms b om.key := by
        funext m
        exact ha.verdict env threshold b m.key
      rw [hs] at hf
      cases a with
      | error err =>
        rw [hv]
        exact ⟨ha.trans hr, hf⟩
      | ok obj =>
        dsimp only at hv ⊢
        rw [hv, judge]
        split_ifs
        · exact ⟨ha.trans hr, hf⟩
        · exact ⟨ha.trans hr, congrArg (List.cons obj) hf⟩
        · exact ⟨ha.trans hr, hf⟩

lemma scanBuckets_spec (buckets : List BucketMetadata) (ms : MetadataStore V) :
    Alike ms (scanBuckets env threshold buckets ms).1 ∧ (scanBuckets env threshold buckets ms).2 =
      buckets.flatMap fun bucket => (listing env ms bucket.name).filterMap fun objMeta =>
        verdict env threshold ms bucket.name objMeta.key := by
  induction buckets generalizing ms with
  | nil => exact ⟨.refl ms, rfl⟩
  | cons bucket rest ih =>
    rw [scanBuckets, List.flatMap_cons]
    cases hl : ms.listObjects (env.order bucket.name) (env.listed bucket.name) bucket.name "" 1000 with
    | error err =>
      have hnone : listing env ms bucket.name = [] := by rw [listing, hl]; rfl
      rw [hnone]
      exact ih ms
    | ok metas =>
      have hm : listing env ms bucket.name = metas := by rw [listing, hl]; rfl
      obtain ⟨hs, ho⟩ := scanObjects_spec env threshold bucket.name metas ms
      obtain ⟨hr, hf⟩ := ih (scanObjects env threshold bucket.name metas ms).1
      refine ⟨hs.trans hr, ?_⟩
      dsimp only
      rw [ho, hf, hm]
      congr 2
      funext b
      rw [hs.listing]
      congr 1
      funext m
      exact hs.verdict env threshold b.name m.key

lemma mem_identifyColdObjects {ms : MetadataStore V} {o : Object} :
    o ∈ (identifyColdObjects env threshold ms).2 ↔ ∃ b ∈ ms.listBuckets env.bucketOrder,
      ∃ om ∈ listing env ms b.name, verdict env threshold ms b.name om.key = some o := by
  rw [identifyColdObjects, (scanBuckets_spec env threshold _ ms).2]
  simp only [List.mem_flatMap, List.mem_filterMap]

end Found

structure Catalogued (ms : MetadataStore V) : Prop where
  buckets : ∀ name b, ms.buckets.lookup name = some b → b.name = name
  objects : ∀ k o, ms.objects.lookup k = some o → getObjectKey o.bucket o.key = k

lemma exists_of_map_eq {α β : Type} {f : α → β} {x y : Option α} (h : x.map f = y.map f) {a : α} (ha : x = some a) :
    ∃ b, y = some b ∧ f a = f b := by
  rw [ha] at h
  cases y with
  | none => cases h
  | some b => exact ⟨b, rfl, Option.some.inj h⟩

lemma Catalogued.alike {ms ms' : MetadataStore V} (h : Catalogued ms) (ha : Alike ms ms') : Catalogued ms' := by
  refine ⟨?_, ?_⟩
  · rw [ha.buckets]
    exact h.buckets
  · intro k o' ho'
    obtain ⟨o, ho, hs⟩ := exists_of_map_eq (ha.objects k) ho'
    have hb : o'.sansAccess.bucket = o.sansAccess.bucket := congrArg Object.bucket hs
    have hk : o'.sansAccess.key = o.sansAccess.key := congrArg Object.key hs
    change o'.bucket = o.bucket at hb
    change o'.key = o.key at hk
    rw [hb, hk]
    exact h.objects k o ho

lemma mem_collectObjects {bucket keyPrefix : String} {now : Time} {count : ℕ} {objMeta : ObjectMetadata}
    (h : objMeta ∈ collectObjects bucket keyPrefix maxKeys opts now count objects) :
    ∃ o ∈ objects, o.bucket = bucket ∧ objMeta = toObjectMetadata o := by
  induction objects generalizing count with
  | nil => cases h
  | cons obj objects ih =>
    rw [collectObjects] at h
    split_ifs at h with hp hf
    · obtain ⟨o, ho, hr⟩ := ih h
      exact ⟨o, List.mem_cons_of_mem _ ho, hr⟩
    all_goals
      have hb : obj.bucket = bucket := by
        simp only [passedOver, decide_eq_true_eq, not_or] at hp
        exact not_not.mp hp.1
    · exact ⟨obj, List.mem_cons_self .., hb, List.mem_singleton.mp h⟩
    · rcases List.mem_cons.mp h with rfl | h
      · exact ⟨obj, List.mem_cons_self .., hb, rfl⟩
      · obtain ⟨o, ho, hr⟩ := ih h
        exact ⟨o, List.mem_cons_of_mem _ ho, hr⟩

section Exactness

variable (env : ScanEnv) (threshold : ℤ)

def Listed (ms : MetadataStore V) (o : Object) : Prop := ∃ objMeta ∈ listing env ms o.bucket, objMeta.key = o.key

def Reported (ms : MetadataStore V) (o : Object) : Prop :=
  Listed env ms o ∧ (o.storageClass = .cold ∨ threshold < env.checked o.bucket o.key - env.accessed o.bucket o.key)

lemma judge_eq_some {b key : String} {o o' : Object} :
    judge env threshold b key { o with accessedAt := env.accessed b key } = some o' ↔
      (o.ecEnabled = false ∧ (o.storageClass = .cold ∨ threshold < env.checked b key - env.accessed b key)) ∧
        o' = { o with accessedAt := env.accessed b key } := by
  rw [judge, isObjectCold]
  dsimp only
  rw [if_neg (env.accessed_ne_zero b key)]
  cases o.ecEnabled with
  | true => simp
  | false =>
    by_cases hcold : o.storageClass = .cold
    · simp [hcold, eq_comm]
    · simp [hcold, eq_comm]

variable {ms : MetadataStore V}

lemma verdict_eq_some {b key : String} {o' : Object} :
    verdict env threshold ms b key = some o' ↔ ms.leads ∧ ∃ o, ms.objects.lookup (getObjectKey b key) = some o ∧
      (o.ecEnabled = false ∧ (o.storageClass = .cold ∨ threshold < env.checked b key - env.accessed b key)) ∧
        o' = { o with accessedAt := env.accessed b key } := by
  rw [verdict]
  split_ifs with hl
  · cases ho : ms.objects.lookup (getObjectKey b key) with
    | none => simp
    | some o =>
      simp only [Option.map_some, Option.bind_some, hl, true_and, Option.some.injEq, exists_eq_left']
      exact judge_eq_some env threshold
  · simp [hl]

lemma mem_listing {bucket : String} {om : ObjectMetadata}
    (h : om ∈ listing env ms bucket) : ms.leads ∧ (∃ b, ms.buckets.lookup bucket = some b) ∧
      ∃ k o, ms.objects.lookup k = some o ∧ o.bucket = bucket ∧ o.key = om.key := by
  rw [listing, listObjects] at h
  unfold listObjectsWithOptions at h
  cases hl : ms.leaderCheck defaultReadOptions "list_objects" with
  | some err =>
    rw [hl] at h
    cases h
  | none =>
    rw [hl] at h
    cases hbu : ms.getBucketWithOptions (env.listed bucket) bucket defaultReadOptions with
    | error err =>
      rw [hbu] at h
      cases h
    | ok b =>
      rw [hbu] at h
      obtain ⟨o, ho, hb, rfl⟩ := mem_collectObjects h
      obtain ⟨k, hk⟩ := (mem_valuesIn _).mp ho
      exact ⟨(leaderCheck_none_iff _ ms).mp hl, ⟨b, getBucket_ok hbu⟩, k, o, hk, hb, rfl⟩

lemma found_iff (hms : Catalogued ms) {k : String} {o : Object} (ho : ms.objects.lookup k = some o) :
    (∃ o' ∈ (identifyColdObjects env threshold ms).2, o'.bucket = o.bucket ∧ o'.key = o.key) ↔
      o.ecEnabled = false ∧ Reported env threshold ms o := by
  have hk : getObjectKey o.bucket o.key = k := hms.objects k o ho
  constructor
  · rintro ⟨o', hm, hbu, hkey⟩
    obtain ⟨bucket, -, om, hli, hv⟩ := (mem_identifyColdObjects env threshold).mp hm
    obtain ⟨-, o₂, ho₂, hcold, rfl⟩ := (verdict_eq_some env threshold).mp hv
    obtain ⟨-, -, k₁, o₁, ho₁, hbucket₁, hkey₁⟩ := mem_listing env hli
    have hk₁ : k₁ = getObjectKey bucket.name om.key := by
      rw [← hms.objects k₁ o₁ ho₁, hbucket₁, hkey₁]
    have hs : o₁ = o₂ := by
      rw [hk₁, ho₂] at ho₁
      exact (Option.some.inj ho₁).symm
    have hs' : o₂ = o := by
      have hl := ho₂
      rw [← hms.objects _ o₂ ho₂, hbu, hkey, hk, ho] at hl
      exact (Option.some.inj hl).symm
    subst hs hs'
    rw [← hbucket₁, ← hkey₁] at hcold
    rw [← hbucket₁] at hli
    exact ⟨hcold.1, ⟨om, hli, hkey₁.symm⟩, hcold.2⟩
  · rintro ⟨he, ⟨om, hli, hkey⟩, hcold⟩
    obtain ⟨hl, ⟨b, hb⟩, -⟩ := mem_listing env hli
    refine ⟨{ o with accessedAt := env.accessed o.bucket o.key }, ?_, rfl, rfl⟩
    refine (mem_identifyColdObjects env threshold).mpr ⟨toBucketMetadata ms.objects b, ?_, om, ?_, ?_⟩
    · exact List.mem_map_of_mem ((mem_valuesIn _).mpr ⟨o.bucket, hb⟩)
    · change om ∈ listing env ms b.name
      rwa [hms.buckets _ b hb]
    · change verdict env threshold ms b.name om.key = _
      rw [hms.buckets _ b hb, hkey]
      exact (verdict_eq_some env threshold).mpr ⟨hl, o, hk ▸ ho, ⟨he, hcold⟩, rfl⟩

end Exactness

structure Watched (V : Type) where
  store : MetadataStore V
  lastAccess : String → Time

inductive ColdStep
  | read (now : Time) (bucket key : String)
  | identify (env : ScanEnv) (threshold : ℤ)

namespace Watched

def start (ms : MetadataStore V) : Watched V where
  store := ms
  lastAccess k := match ms.objects.lookup k with
    | some o => if o.accessedAt = 0 then o.createdAt else o.accessedAt
    | none => 0

def step (w : Watched V) : ColdStep → Watched V
  | .read now bucket key =>
    match w.store.getObject now bucket key with
    | (ms, .error _) => ⟨ms, w.lastAccess⟩
    | (ms, .ok _) => ⟨ms, Function.update w.lastAccess (getObjectKey bucket key) now⟩
  | .identify env threshold => ⟨(identifyColdObjects env threshold w.store).1, w.lastAccess⟩

/-- The search returns stored objects, and of these exactly those that are not erasure coded and that no client has
accessed within the threshold. -/
structure Exact (w : Watched V) (env : ScanEnv) (threshold : ℤ) : Prop where
  stored : ∀ o' ∈ (identifyColdObjects env threshold w.store).2,
    ∃ k o, w.store.objects.lookup k = some o ∧ o' = { o with accessedAt := o'.accessedAt }
  cold : ∀ k o, w.store.objects.lookup k = some o →
    ((∃ o' ∈ (identifyColdObjects env threshold w.store).2, o'.bucket = o.bucket ∧ o'.key = o.key) ↔
      o.ecEnabled = false ∧ threshold < env.checked o.bucket o.key - w.lastAccess k)

lemma alike_step (w : Watched V) (c : ColdStep) : Alike w.store (w.step c).store := by
  cases c with
  | read now b key =>
    have ha := Alike.getObject now b key w.store
    rw [step]
    cases hg : w.store.getObject now b key with
    | mk ms a =>
      rw [hg] at ha
      cases a with
      | error | ok => exact ha
  | identify env threshold => exact (scanBuckets_spec env threshold _ w.store).1

theorem cold_detection_exact_iff (ms : MetadataStore V) (hms : Catalogued ms) (steps : List ColdStep) (env : ScanEnv)
    (threshold : ℤ) : (run step (start ms) steps).Exact env threshold ↔
      ∀ k o, (run step (start ms) steps).store.objects.lookup k = some o → o.ecEnabled = false →
        (Reported env threshold (run step (start ms) steps).store o ↔
          threshold < env.checked o.bucket o.key - (run step (start ms) steps).lastAccess k) := by
  have hcat : Catalogued (run step (start ms) steps).store :=
    run_preserves (fun w : Watched V => Catalogued w.store) steps (fun w c _ h => h.alike (w.alike_step c)) hms
  constructor
  · intro h k o ho he
    have hcold := h.cold k o ho
    rw [found_iff env threshold hcat ho] at hcold
    simpa only [he, true_and] using hcold
  · intro h
    refine ⟨?_, ?_⟩
    · intro o' hm
      obtain ⟨bucket, -, om, -, hv⟩ := (mem_identifyColdObjects env threshold).mp hm
      obtain ⟨-, o, ho, -, rfl⟩ := (verdict_eq_some env threshold).mp hv
      exact ⟨_, o, ho, rfl⟩
    · intro k o ho
      rw [found_iff env threshold hcat ho]
      exact and_congr_right (h k o ho)

def hour : ℤ := 3600 * 1000000000

def scanAt (now : Time) (h : now ≠ 0) : ScanEnv :=
  ⟨sortedOrder, fun _ => sortedOrder, fun _ => now, fun _ _ => now, fun _ _ => now, fun _ _ => h⟩

def hotAndCold (hotAccess coldAccess : Time) : MetadataStore (Bucket ⊕ Object) where
  buckets := (∅ : FMap String Bucket).insert "b" (plainBucket "b")
  objects := ((∅ : FMap String Object).insert (getObjectKey "b" "hot")
      { emptyObject "b" "hot" with accessedAt := hotAccess }).insert (getObjectKey "b" "cold")
    { emptyObject "b" "cold" with accessedAt := coldAccess, storageClass := .cold }
  raftStore := none

lemma catalogued_hotAndCold (hotAt ca : Time) : Catalogued (hotAndCold hotAt ca) := by
  refine ⟨?_, ?_⟩
  · intro n b hb
    rw [hotAndCold, lookup_insert_if] at hb
    split_ifs at hb with hname
    · cases hb
      exact hname.symm
    · cases hb
  · intro k o ho
    rw [hotAndCold, lookup_insert_if, lookup_insert_if] at ho
    split_ifs at ho with hcold hh
    · cases ho
      exact hcold.symm
    · cases ho
      exact hh.symm
    · cases ho

theorem cold_detection_exact_old : (run step (start (hotAndCold (unix 99000) (unix 0)))
      [.identify (scanAt (unix 100000) (by decide)) hour]).Exact (scanAt (unix 100001) (by decide)) hour := by
  refine (cold_detection_exact_iff _ (catalogued_hotAndCold _ _) _ _ _).mpr ?_
  intro k o ho he
  have hob : (run step (start (hotAndCold (unix 99000) (unix 0)))
      [.identify (scanAt (unix 100000) (by decide)) hour]).store.objects =
        (hotAndCold (unix 100000) (unix 100000)).objects := by decide +kernel
  rw [hob, hotAndCold, lookup_insert_if, lookup_insert_if] at ho
  split_ifs at ho with hcold hh
  · cases ho
    rw [hcold, Reported, Listed]
    decide +kernel
  · cases ho
    rw [hh, Reported, Listed]
    decide +kernel
  · cases ho

theorem cold_objects_missed :
    let w := start (hotAndCold (unix 0) (unix 99999))
    let first := scanAt (unix 100000) (by decide)
    let second := scanAt (unix 200000) (by decide)
    (identifyColdObjects first hour w.store).2.map Object.key = ["cold"] ∧
      hour < unix 100000 - w.lastAccess "b:hot" ∧ ¬hour < unix 100000 - w.lastAccess "b:cold" ∧
      (identifyColdObjects second hour (w.step (.identify first hour)).store).2.map Object.key = ["cold"] := by
  decide +kernel

end Watched

end Cloudless.Storage
