import Cloudless.Storage.ChunkReferences

namespace Cloudless.Storage

open Foundations FiniteMaps Runs MetadataStore

variable {V : Type} {P : Primitives} {json : MetadataJSON V}

namespace ObjectStore

variable {s : ObjectStore V} {bucket key : String}

def find (bucket key : String) (s : ObjectStore V) : Option Object :=
  s.metadataStore.objects.lookup (getObjectKey bucket key)

def writes (s : ObjectStore V) : StoreCall → Option (String × String)
  | .putObject _ req => some (req.bucket, req.key)
  | .putObjectStream _ req => some (req.bucket, req.key)
  | .completeMultipartUpload _ uploadID => (s.multipartUploads.lookup uploadID).map fun u => (u.bucket, u.key)
  | _ => none

-- Every write builds its record anew, with version zero.
def Wrote (bucket key : String) (s s' : ObjectStore V) : Prop :=
  ∃ new, s'.find bucket key = some new ∧ new.version = if 0 < oldSize (s.find bucket key) then 1 else 0

lemma wrote_of_putObject {env : Env} {o : Object} (ho : (o.bucket, o.key, o.version) = (bucket, key, 0))
    {s' : ObjectStore V} (h : succeeded (s.metadataStore.putObject json env o).2 = true)
    (hs : s'.metadataStore = (s.metadataStore.putObject json env o).1) : Wrote bucket key s s' := by
  simp only [Prod.mk.injEq] at ho
  obtain ⟨rfl, rfl, ho⟩ := ho
  rcases s.metadataStore.putObject_objects json env o with ⟨ms, err, he, -⟩ | ⟨ms, he, -, -, hob⟩
  · rw [he] at h
    cases h
  · refine ⟨_, by rw [find, hs, he, hob, Finmap.lookup_insert], ?_⟩
    rw [stamped, stampObject, ho]
    rfl

lemma wrote_of_storeObject {env : StoreEnv} {o : Object} (ho : (o.bucket, o.key, o.version) = (bucket, key, 0))
    (h : succeeded (s.storeObject P json env o).2 = true) : Wrote bucket key s (s.storeObject P json env o).1 := by
  rw [storeObject] at h ⊢
  split at h
  · cases h
  · rcases hp : s.metadataStore.putObject json env.toEnv o with ⟨ms, err | _⟩
    · rw [hp] at h
      cases h
    · exact wrote_of_putObject ho (by rw [hp]; rfl) (by rw [hp])

lemma wrote_of_call [Inhabited V] {c : StoreCall} (hc : s.writes c = some (bucket, key))
    (h : (s.call P json c).2 = true) : Wrote bucket key s (s.after P json c) := by
  rw [after]
  cases c with
  | putObject env req =>
    cases hc
    simp only [call, putObject] at h ⊢
    split at h
    · cases h
    · split_ifs at h ⊢
      · cases h
      · split at h
        · cases h
        · exact wrote_of_storeObject (s := { s with chunkStore := _ }) rfl h
  | putObjectStream env req =>
    cases hc
    simp only [call, putObjectStream] at h ⊢
    split at h
    · cases h
    · split at h
      · cases h
      · split at h
        · cases h
        · split_ifs at h ⊢
          · cases h
          · exact wrote_of_storeObject (s := { s with chunkStore := _ }) rfl h
  | completeMultipartUpload env ui =>
    obtain ⟨u, hu, hk⟩ := Option.map_eq_some_iff.mp hc
    cases hk
    simp only [call, completeMultipartUpload, hu] at h ⊢
    split at h
    · cases h
    · split_ifs at h ⊢
      · cases h
      · split at h
        · cases h
        · split at h
          · cases h
          · rename_i hp
            exact wrote_of_putObject rfl (by rw [hp]; rfl) (congrArg Prod.fst hp).symm
  | _ => cases hc

def Replaces [Inhabited V] (P : Primitives) (json : MetadataJSON V) (s : ObjectStore V) (c : StoreCall)
    (bucket key : String) (old : Object) : Prop :=
  s.writes c = some (bucket, key) ∧ (s.call P json c).2 = true ∧ s.find bucket key = some old

def RaisesVersion [Inhabited V] (P : Primitives) (json : MetadataJSON V) (s : ObjectStore V) (c : StoreCall) : Prop :=
  ∀ bucket key old, s.Replaces P json c bucket key old →
    ∃ new, (s.after P json c).find bucket key = some new ∧ old.version < new.version

def ReplacesFirst [Inhabited V] (P : Primitives) (json : MetadataJSON V) (s : ObjectStore V) (c : StoreCall) : Prop :=
  ∀ bucket key old, s.Replaces P json c bucket key old → old.version = 0 ∧ 0 < old.size

lemma raisesVersion_iff [Inhabited V] {c : StoreCall} : s.RaisesVersion P json c ↔ s.ReplacesFirst P json c := by
  refine forall_congr' fun bucket => forall_congr' fun key => forall_congr' fun old => imp_congr_right ?_
  rintro ⟨hc, hok, ho⟩
  obtain ⟨new, hnew, hv⟩ := wrote_of_call hc hok
  have hs : oldSize (some old) = old.size := rfl
  simp only [hnew, Option.some.injEq, exists_eq_left', hv, ho, hs]
  split_ifs with h <;> simp [h]

theorem versions_increase_iff [Inhabited V] (P : Primitives) (json : MetadataJSON V) (s : ObjectStore V)
    (calls : List StoreCall) :
    Admissible (after P json) (RaisesVersion P json) s calls ↔ Admissible (after P json) (ReplacesFirst P json) s calls :=
  admissible_iff (fun _ => True) (fun _ _ _ _ _ => trivial)
    (fun _ _ _ _ => raisesVersion_iff) calls trivial (admissible_of_forall (fun _ => True) calls (fun _ _ => trivial) s)

theorem version_repeated :
    let versions := fun calls => ((sampleRun (plainCreate "b" :: calls)).find "b" "k").map Object.version
    versions [plainPut "b" "k" [1]] = some 0 ∧ versions [plainPut "b" "k" [1], plainPut "b" "k" [2]] = some 1 ∧
    versions [plainPut "b" "k" [1], plainPut "b" "k" [2], plainPut "b" "k" [3]] = some 1 := by
  decide +kernel

end ObjectStore

end Cloudless.Storage
