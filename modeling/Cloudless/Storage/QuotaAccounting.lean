import Cloudless.Storage.CacheAgreement

namespace Cloudless.Storage

open Foundations FiniteMaps GoStd Runs Raft MetadataStore

variable {V : Type}

def bytesIn (name : String) (o : Object) : ℤ := if o.bucket = name then o.size.toInt else 0

namespace MetadataStore

def stored (ms : MetadataStore V) (name : String) : ℤ := total (fun _ => bytesIn name) ms.objects

def bytesAt (ms : MetadataStore V) (name k : String) : ℤ := (ms.objects.lookup k).elim 0 (bytesIn name)

def Balances (ms : MetadataStore V) (b : Bucket) : Prop :=
  b.usedBytes.toInt = ms.stored b.name ∧ (0 < b.quotaBytes → b.usedBytes ≤ b.quotaBytes)

def Accounted (ms : MetadataStore V) : Prop :=
  ∀ name b, ms.buckets.lookup name = some b → b.name = name ∧ ms.Balances b

lemma stored_insert (ms : MetadataStore V) (k : String) (o : Object) (n : String) :
    ({ ms with objects := ms.objects.insert k o } : MetadataStore V).stored n =
      ms.stored n - ms.bytesAt n k + bytesIn n o := by
  have ht := total_eq_erase (fun _ => bytesIn n) ms.objects k
  simp only [stored, total_insert, bytesAt]
  omega

lemma stored_erase (ms : MetadataStore V) (k n : String) :
    ({ ms with objects := ms.objects.erase k } : MetadataStore V).stored n = ms.stored n - ms.bytesAt n k := by
  have ht := total_eq_erase (fun _ => bytesIn n) ms.objects k
  simp only [stored, bytesAt]
  omega

variable {ms : MetadataStore V} {bucket : String} {ms' : MetadataStore V}

lemma bytesAt_of_bucket {k : String} (h : ∀ o, ms.objects.lookup k = some o → o.bucket = bucket) {n : String} :
    ms.bytesAt n k = if bucket = n then (oldSize (ms.objects.lookup k)).toInt else 0 := by
  rw [bytesAt, oldSize]
  cases ho : ms.objects.lookup k with
  | none => simp
  | some o => simp [bytesIn, h o ho]

variable {o : Object}

lemma stored_overwrite (ms : MetadataStore V) {k : String} (hb : o.bucket = bucket)
    (h : ∀ old, ms.objects.lookup k = some old → old.bucket = bucket) (n : String) :
    ({ ms with objects := ms.objects.insert k o } : MetadataStore V).stored n =
      ms.stored n + if bucket = n then o.size.toInt - (oldSize (ms.objects.lookup k)).toInt else 0 := by
  rw [stored_insert, bytesAt_of_bucket h, bytesIn, hb]
  split_ifs <;> omega

lemma toInt_charge {u old s : Int64} (h : FitsInt64 (u.toInt - old.toInt + s.toInt)) :
    (u - old + s).toInt = u.toInt - old.toInt + s.toInt := by
  rw [Int64.toInt_add, Int64.toInt_sub, Int.bmod_add_bmod]
  exact int64_of_fits h

variable {env : Env}

lemma TurnedDown.accounted {d : LogData V} (ht : TurnedDown env d ms ms') (ha : ms.Accounted) : ms'.Accounted := by
  rcases ht.2 with rfl | ⟨rfl, -⟩
  · exact ha
  · exact ha

lemma Accounted.edit (ha : ms.Accounted)
    (h : ∀ n b, ms'.buckets.lookup n = some b → ms.buckets.lookup n = some b ∧ ms'.stored n = ms.stored n ∨
      b.name = n ∧ ms'.Balances b) : ms'.Accounted := by
  intro n b hb
  rcases h n b hb with ⟨hl, hs⟩ | hn
  · obtain ⟨hn, hu, hq⟩ := ha n b hl
    refine ⟨hn, ?_, hq⟩
    rwa [hn, hs, ← hn]
  · exact hn

lemma Accounted.insertBucket (ha : ms.Accounted) (b : Bucket) (hb : ms.Balances b) :
    ({ ms with buckets := ms.buckets.insert b.name b } : MetadataStore V).Accounted := by
  apply ha.edit
  intro n b' hl
  rw [lookup_insert_if] at hl
  split_ifs at hl with hn
  · cases hl
    exact .inr ⟨hn.symm, hb⟩
  · exact .inl ⟨hl, rfl⟩

lemma Accounted.eraseBucket (ha : ms.Accounted) (n : String) :
    ({ ms with buckets := ms.buckets.erase n } : MetadataStore V).Accounted := by
  apply ha.edit
  intro na b hl
  rw [lookup_erase_if] at hl
  split_ifs at hl with hn
  exact .inl ⟨hl, rfl⟩

lemma Accounted.insertObject (ha : ms.Accounted) (k : String) (o : Object)
    (hb : ∀ n b, ms.buckets.lookup n = some b → bytesIn n o = ms.bytesAt n k) :
    ({ ms with objects := ms.objects.insert k o } : MetadataStore V).Accounted := by
  apply ha.edit
  intro n b hl
  have hs := ms.stored_insert k o n
  have hh := hb n b hl
  exact .inl ⟨hl, by omega⟩

lemma Accounted.eraseObject (ha : ms.Accounted) (k : String)
    (hb : ∀ n b, ms.buckets.lookup n = some b → ms.bytesAt n k = 0) :
    ({ ms with objects := ms.objects.erase k } : MetadataStore V).Accounted := by
  apply ha.edit
  intro n b hl
  have hs := ms.stored_erase k n
  have hh := hb n b hl
  exact .inl ⟨hl, by omega⟩

def KeepsOp (json : MetadataJSON V) (ms : MetadataStore V) (op : BatchOperation V) : Prop :=
  (op.type = "create_bucket" → ∀ b, json.bucket.unmarshal op.value = .ok b → ms.Balances b) ∧
  (op.type = "put_object_meta" → ∀ o, json.object.unmarshal op.value = .ok o →
    ∀ name b, ms.buckets.lookup name = some b → bytesIn name o = ms.bytesAt name (getObjectKey o.bucket o.key)) ∧
  (op.type = "delete_object_meta" →
    ∀ name b, ms.buckets.lookup name = some b → ms.bytesAt name (getObjectKey op.bucket op.key) = 0)

def Fits (b : Bucket) (used : ℤ) : Prop := FitsInt64 used ∧ (0 < b.quotaBytes → used ≤ b.quotaBytes.toInt)

instance (b : Bucket) (used : ℤ) : Decidable (Fits b used) := inferInstanceAs (Decidable (_ ∧ _))

/-- The counter does not move, or the call goes through within the quota and within `int64`. -/
def KeepsPut (json : MetadataJSON V) (env : Env) (ms : MetadataStore V) (o : Object) (b : Bucket) : Prop :=
  let old := oldSize (ms.objects.lookup (getObjectKey o.bucket o.key))
  o.size = old ∨ Fits b (b.usedBytes.toInt - old.toInt + o.size.toInt) ∧
    ∃ value, json.object.marshal (ms.stamped env.now o) = .ok value ∧ ms.Accepts env (putObjectCmd o value)

def KeepsAccounts [Inhabited V] (json : MetadataJSON V) (ms : MetadataStore V) : Call V → Prop
  | .createBucket _ b => ms.buckets.lookup b.name = none → ms.Balances b
  | .updateBucket _ b => ms.Balances b
  | .deleteBucket _ _ => True
  | .putObject env o => ∀ b, ms.getBucket env.now o.bucket = .ok b →
      (∀ old, ms.objects.lookup (getObjectKey o.bucket o.key) = some old → old.bucket = o.bucket) ∧
        KeepsPut json env ms o b
  | .deleteObject env bucket key => ∀ o, ms.objects.lookup (getObjectKey bucket key) = some o →
      ms.Accepts env (deleteObjectCmd bucket key) → o.bucket = bucket ∧
        ∀ b, ms.buckets.lookup bucket = some b → Fits b (b.usedBytes.toInt - o.size.toInt)
  | .executeBatch env ops => ms.Accepts env (batchCmd ops) → Admissible (editCache json) (KeepsOp json) ms ops
  | .getObject _ _ _ _ => True

lemma Accounted.createBucket (ha : ms.Accounted) (j : MetadataJSON V) (env : Env)
    (b : Bucket) (hk : ms.buckets.lookup b.name = none → ms.Balances b) : (ms.createBucket j env b).1.Accounted := by
  rcases ms.createBucket_cases j env b with ⟨ms', err, he, rfl | ⟨v, ht⟩⟩ | ⟨v, hl, -, -, he⟩
  · rwa [he]
  · rw [he]
    exact ht.accounted ha
  · rw [he]
    exact ha.insertBucket (stampBucket env.now b) (hk hl)

lemma Accounted.updateBucket (ha : ms.Accounted) (env : Env) (b : Bucket)
    (hk : ms.Balances b) : (ms.updateBucket env b).1.Accounted := by
  rw [MetadataStore.updateBucket]
  cases ms.buckets.lookup b.name with
  | none => exact ha
  | some _ => exact ha.insertBucket { b with updatedAt := env.now } hk

lemma Accounted.deleteBucket [Inhabited V] (ha : ms.Accounted) (env : Env) (n : String) :
    (ms.deleteBucket env n).1.Accounted := by
  rcases ms.deleteBucket_cases env n with ⟨ms', err, he, rfl | ht⟩ | ⟨-, he⟩
  · rwa [he]
  · rw [he]
    exact ht.accounted ha
  · rw [he]
    exact ha.eraseBucket n

variable {j : MetadataJSON V}

lemma KeepsPut.used {b : Bucket} (hk : KeepsPut j env ms o b) : (ms.charged o b).usedBytes.toInt = b.usedBytes.toInt -
      (oldSize (ms.objects.lookup (getObjectKey o.bucket o.key))).toInt + o.size.toInt := by
  rcases hk with hz | ⟨⟨hf, -⟩, -⟩
  · rw [charged_eq b hz, ← hz]
    omega
  · exact toInt_charge hf

lemma KeepsPut.size_of_failed {b : Bucket} (hk : KeepsPut j env ms o b)
    (hc : (ms' = ms.charge o b ∧ (overQuota (ms.charged o b) ∨
      ∃ e, j.object.marshal (ms.stamped env.now o) = .error e)) ∨
      ∃ v, j.object.marshal (ms.stamped env.now o) = .ok v ∧ TurnedDown env (putObjectCmd o v) (ms.charge o b) ms') :
    o.size = oldSize (ms.objects.lookup (getObjectKey o.bucket o.key)) := by
  rcases hk with hz | ⟨⟨hf, hle⟩, v, hm, ha⟩
  · exact hz
  · exfalso
    rcases hc with ⟨-, ⟨hpos, hl⟩ | ⟨e, hm'⟩⟩ | ⟨v', hm', ht⟩
    · have hle := hle hpos
      rw [Int64.lt_iff_toInt_lt] at hl
      simp only [charged, chargeBucket] at hl
      rw [toInt_charge hf] at hl
      omega
    · rw [hm] at hm'
      cases hm'
    · rw [hm] at hm'
      cases hm'
      exact ht.1 ha

section

variable (ha : ms.Accounted)

include ha

lemma Accounted.putObject (j : MetadataJSON V) (env : Env) (o : Object)
    (hk : ∀ b, ms.getBucket env.now o.bucket = .ok b →
      (∀ old, ms.objects.lookup (getObjectKey o.bucket o.key) = some old → old.bucket = o.bucket) ∧
        KeepsPut j env ms o b) : (ms.putObject j env o).1.Accounted := by
  rcases ms.putObject_cases j env o with ⟨err, he⟩ | ⟨b, hb, hc⟩
  · rwa [he]
  obtain ⟨hold, hkeep⟩ := hk b hb
  have hl := getBucket_ok hb
  obtain ⟨hn, hu, hq⟩ := ha _ b hl
  rcases hc with ⟨ms', err, he, hc⟩ | ⟨v, ho, -, -, he⟩
  · rw [he]
    have hz := hkeep.size_of_failed hc
    rw [charge_eq hl hz] at hc
    rcases hc with ⟨rfl, -⟩ | ⟨v, -, ht⟩
    · exact ha
    · exact ht.accounted ha
  · rw [he]
    have hst := ms.stored_overwrite (ms.stamped_bucket env.now o) hold
    simp only [stamped_size] at hst
    apply ha.edit
    intro n b' hl'
    simp only [charge, lookup_insert_if, hn] at hl'
    split_ifs at hl' with hnn
    · cases hl'
      refine .inr ⟨hnn ▸ hn, ?_, ?_⟩
      · have hs := hst o.bucket
        rw [if_pos rfl] at hs
        rw [hn] at hu
        rw [charged_name, hn, hkeep.used, hu]
        refine Eq.trans ?_ hs.symm
        omega
      · intro hpos
        exact Int64.not_lt.mp (fun hlt => ho ⟨hpos, hlt⟩)
    · refine .inl ⟨hl', ?_⟩
      have hs := hst n
      rwa [if_neg (Ne.symm hnn), add_zero] at hs

lemma Accounted.release {key : String} (ho : ms.objects.lookup (getObjectKey bucket key) = some o)
    (hb : o.bucket = bucket) (hf : ∀ b, ms.buckets.lookup bucket = some b → Fits b (b.usedBytes.toInt - o.size.toInt)) :
    ({ ms with objects := ms.objects.erase (getObjectKey bucket key) }.releaseBytes bucket o).Accounted := by
  have hs := ms.stored_erase (getObjectKey bucket key)
  simp only [bytesAt, ho, Option.elim_some, bytesIn, hb] at hs
  rw [releaseBytes]
  cases hl : ms.buckets.lookup bucket with
  | none =>
    apply ha.edit
    intro name b hlb
    have hne : bucket ≠ name := by
      rintro rfl
      rw [hl] at hlb
      cases hlb
    have hs := hs name
    rw [if_neg hne, sub_zero] at hs
    exact .inl ⟨hlb, hs⟩
  | some bkt =>
    obtain ⟨hn, hu, hq⟩ := ha bucket bkt hl
    apply ha.edit
    intro name b hlb
    rw [lookup_insert_if] at hlb
    split_ifs at hlb with hnn
    · cases hlb
      refine .inr ⟨hn.trans hnn.symm, ?_, ?_⟩
      · have hs := hs bucket
        rw [if_pos rfl] at hs
        rw [hn] at hu
        rw [toInt_sub_of_fits (hf bkt hl).1, hn, hu]
        exact hs.symm
      · intro hpos
        rw [Int64.le_iff_toInt_le, toInt_sub_of_fits (hf bkt hl).1]
        exact (hf bkt hl).2 hpos
    · have hs := hs name
      rw [if_neg (Ne.symm hnn), sub_zero] at hs
      exact .inl ⟨hlb, hs⟩

lemma Accounted.deleteObject [Inhabited V] (env : Env) (bucket key : String)
    (hk : ∀ o, ms.objects.lookup (getObjectKey bucket key) = some o → ms.Accepts env (deleteObjectCmd bucket key) →
      o.bucket = bucket ∧ ∀ b, ms.buckets.lookup bucket = some b → Fits b (b.usedBytes.toInt - o.size.toInt)) :
    (ms.deleteObject env bucket key).1.Accounted := by
  rcases ms.deleteObject_cases env bucket key with ⟨ms', err, he, rfl | ht⟩ | ⟨o, ho, hacc, he⟩
  · rwa [he]
  · rw [he]
    exact ht.accounted ha
  · obtain ⟨hb, hf⟩ := hk o ho hacc
    have hr : (ms.record env (deleteObjectCmd bucket key)).Accounted := ha
    rw [he]
    exact hr.release ho hb hf

lemma Accounted.editCache (j : MetadataJSON V) (op : BatchOperation V)
    (hk : KeepsOp j ms op) : (ms.editCache j op).Accounted := by
  rw [MetadataStore.editCache, applyToCache]
  split_ifs with hc hd hp he
  · cases hu : j.bucket.unmarshal op.value with
    | error err => exact ha
    | ok b => exact ha.insertBucket b (hk.1 hc b hu)
  · exact ha.eraseBucket op.bucket
  · cases hu : j.object.unmarshal op.value with
    | error err => exact ha
    | ok o => exact ha.insertObject _ o (hk.2.1 hp o hu)
  · exact ha.eraseObject _ (hk.2.2 he)
  · exact ha

lemma Accounted.executeBatch [Inhabited V] (j : MetadataJSON V) (env : Env) (ops : List (BatchOperation V))
    (hk : ms.Accepts env (batchCmd ops) → Admissible (MetadataStore.editCache j) (KeepsOp j) ms ops) :
    (ms.executeBatch j env ops).1.Accounted := by
  rcases ms.executeBatch_cases j env ops with ⟨ms', err, he, ht⟩ | ⟨-, r, he⟩ | ⟨-, hacc, r, he⟩
  · rw [he]
    exact ht.accounted ha
  · rwa [he]
  · have hr := run_invariant Accounted (fun s op hs ho => hs.editCache j op ho) ops ha (hk hacc)
    rwa [he, record, run_editCache_withRaft]

lemma Accounted.getObject (now : Time) (bucket key : String)
    (opt : ReadOptions) : (ms.getObjectWithOptions now bucket key opt).1.Accounted := by
  rw [getObjectWithOptions]
  split
  · exact ha
  · exact ha
  · next o _ ho =>
    split
    · exact ha
    · apply ha.insertObject
      intro n b hl
      rw [bytesAt, ho]
      rfl

lemma Accounted.call [Inhabited V] (j : MetadataJSON V) (c : Call V)
    (hk : KeepsAccounts j ms c) : (ms.after j c).Accounted := by
  cases c with
  | createBucket env b => exact ha.createBucket j env b hk
  | updateBucket env b => exact ha.updateBucket env b hk
  | deleteBucket env n => exact ha.deleteBucket env n
  | putObject env o => exact ha.putObject j env o hk
  | deleteObject env bucket key => exact ha.deleteObject env bucket key hk
  | executeBatch env ops => exact ha.executeBatch j env ops hk
  | getObject now bucket key opt => exact ha.getObject now bucket key opt

end

end MetadataStore

theorem used_bytes_accounted [Inhabited V] (json : MetadataJSON V) (raftStore : Option (RaftStore V))
    (calls : List (Call V)) (hc : Admissible (after json) (MetadataStore.KeepsAccounts json)
      (newMetadataStore json raftStore []) calls) :
    (run (after json) (newMetadataStore json raftStore []) calls).Accounted := by
  have hs : (newMetadataStore json raftStore []).Accounted := by
    intro n b hb
    cases raftStore <;> cases hb
  exact run_invariant MetadataStore.Accounted (fun ms c ha hk => ha.call json c hk) calls hs hc

def smallQuota : Bucket := { plainBucket "b" with quotaBytes := 10 }

def sizedObject (size : Int64) : Object := { emptyObject "b" "k" with size := size }

theorem used_bytes_accounted_overwrite : (run (after recordJSON) (newMetadataStore recordJSON (some loneRaft) [])
      [.createBucket calmEnv smallQuota, .putObject calmEnv (sizedObject 7),
        .putObject calmEnv (sizedObject 3), .deleteObject calmEnv "b" "k"]).Accounted := by
  refine used_bytes_accounted recordJSON (some loneRaft) _ ⟨?_, ?_, ?_, ?_, trivial⟩
  · intro _
    exact ⟨by decide, by decide⟩
  · intro b hb
    cases hb
    refine ⟨by decide, .inr ⟨by decide, _, rfl, ?_⟩⟩
    intro r hr
    cases hr
    exact ⟨rfl, rfl, by decide⟩
  · intro b hb
    cases hb
    refine ⟨by decide, .inr ⟨by decide, _, rfl, ?_⟩⟩
    intro r hr
    cases hr
    exact ⟨rfl, rfl, by decide⟩
  · intro o ho _
    cases ho
    refine ⟨rfl, ?_⟩
    intro b hb
    cases hb
    decide

theorem used_bytes_not_accounted : ¬ (run (after recordJSON) (newMetadataStore recordJSON (some loneRaft) [])
      [.createBucket calmEnv smallQuota, .putObject calmEnv (sizedObject 20)]).Accounted := by
  intro ha
  have hb := (ha "b" _ rfl).2.1
  revert hb
  decide

end Cloudless.Storage
