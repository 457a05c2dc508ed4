import Cloudless.Secrets.Reading

namespace Cloudless.Secrets

open Foundations FiniteMaps GoStd MapLoops RaftSecretStore

section Values

variable (gcm : GCM) (oldKey newKey : MasterKey) (order : MapOrder) (entropy : String → Entropy) (secret : Secret)

def rotatedValue (key : String) (value : Bytes) : Except String Envelope :=
  rotatedEnvelope gcm oldKey newKey (entropy key) key (secret.annotations.lookup ("nonce." ++ key))
    (secret.annotations.lookup ("edk." ++ key)) value

lemma rotateValues_read (key : String) :
    (metadataOf (rotateValues gcm oldKey newKey order entropy secret).annotations key,
      (rotateValues gcm oldKey newKey order entropy secret).reencryptedData.lookup key) =
    (secret.data.lookup key).elim (metadataOf secret.annotations key, none) fun value =>
      match rotatedValue gcm oldKey newKey entropy secret key value with
      | .error _ => (metadataOf secret.annotations key, none)
      | .ok e => (e.metadata, some e.encryptedData) := by
  rw [rotateValues]
  refine foldl_read (rotateValue gcm oldKey newKey entropy)
    (fun (r : ValueRotation) key => (metadataOf r.annotations key, r.reencryptedData.lookup key))
    (fun key value b =>
      match rotatedEnvelope gcm oldKey newKey (entropy key) key b.1.1 b.1.2 value with
      | .error _ => b
      | .ok e => (e.metadata, some e.encryptedData)) (order.enumerates secret.data) ?_ ?_ _ key
  · intro r key value _
    simp only [rotateValue, metadataOf]
    cases rotatedEnvelope gcm oldKey newKey (entropy key) key (r.annotations.lookup ("nonce." ++ key))
        (r.annotations.lookup ("edk." ++ key)) value with
    | error err => rfl
    | ok e =>
      rw [Prod.mk.injEq]
      exact ⟨metadataOf_annotate_self _ _ _, Finmap.lookup_insert _⟩
  · intro r key value j _ hj
    simp only [rotateValue]
    cases rotatedEnvelope gcm oldKey newKey (entropy key) key (r.annotations.lookup ("nonce." ++ key))
        (r.annotations.lookup ("edk." ++ key)) value with
    | error err => rfl
    | ok e =>
      rw [Prod.mk.injEq]
      exact ⟨metadataOf_annotate_of_ne _ hj _, Finmap.lookup_insert_of_ne _ hj⟩

variable {gcm oldKey newKey order entropy secret}

variable {key : String} {value : Bytes}

lemma rotatedValue_eq_ok {e' : Envelope} (h : rotatedValue gcm oldKey newKey entropy secret key value = .ok e') :
    ∃ p e, secret.envelope key value = .ok e ∧ e.Holds gcm oldKey.key p ∧
      e'.Holds gcm newKey.key p ∧ 0 < p.length ∧ p.length ≤ maxSecretSize := by
  rw [rotatedValue] at h
  cases hn : secret.annotations.lookup ("nonce." ++ key) with
  | none =>
    rw [hn, rotatedEnvelope] at h
    cases h
  | some nh =>
    rw [hn, rotatedEnvelope] at h
    cases hdn : Hex.decodeString nh with
    | error err =>
      rw [hdn] at h
      cases h
    | ok n =>
      simp only [hdn] at h
      split_ifs at h with hlen
      cases he : secret.annotations.lookup ("edk." ++ key) with
      | none =>
        rw [he] at h
        cases h
      | some eh =>
        simp only [he] at h
        obtain ⟨edk, hde, h⟩ := except_bind_eq_ok.mp h
        rw [wrapError_eq_ok] at h hde
        obtain ⟨p, ho, hnew, hpos, hm⟩ := reEncryptWithNewKey_eq_ok h
        refine ⟨p, _, ?_, ho, hnew, hpos, hm⟩
        have hno : nh ≠ "" := by
          rintro rfl
          cases hdn
          exact ho.nonce_ne_nil rfl
        have hedk : eh ≠ "" := by
          rintro rfl
          cases hde
          exact ho.encryptedDataKey_ne_nil rfl
        rw [Secret.envelope, hn, he]
        simp only [Option.getD_some, ne_eq, hedk, hno, not_false_eq_true, and_self, if_true, hde, hdn]
        rfl

lemma rotateValues_of_ok {e : Envelope} (hv : secret.data.lookup key = some value)
    (h : rotatedValue gcm oldKey newKey entropy secret key value = .ok e) :
    metadataOf (rotateValues gcm oldKey newKey order entropy secret).annotations key = e.metadata ∧
      (rotateValues gcm oldKey newKey order entropy secret).reencryptedData.lookup key = some e.encryptedData := by
  have hr := rotateValues_read gcm oldKey newKey order entropy secret key
  rw [hv, Option.elim_some, h] at hr
  exact Prod.mk.inj hr

lemma rotateValues_of_not_ok
    (h : ∀ value e, secret.data.lookup key = some value → rotatedValue gcm oldKey newKey entropy secret key value ≠ .ok e) :
    metadataOf (rotateValues gcm oldKey newKey order entropy secret).annotations key =
        metadataOf secret.annotations key ∧
      (rotateValues gcm oldKey newKey order entropy secret).reencryptedData.lookup key = none := by
  have hr := rotateValues_read gcm oldKey newKey order entropy secret key
  cases hv : secret.data.lookup key with
  | none =>
    rw [hv] at hr
    exact Prod.mk.inj hr
  | some value =>
    rw [hv, Option.elim_some] at hr
    cases ho : rotatedValue gcm oldKey newKey entropy secret key value with
    | error err =>
      rw [ho] at hr
      exact Prod.mk.inj hr
    | ok e => exact absurd ho (h value e hv)

lemma rotateValue_spec {r : ValueRotation} :
    (rotateValue gcm oldKey newKey entropy r key value).annotations.lookup "nonce" = r.annotations.lookup "nonce" ∧
    (∀ j, (r.reencryptedData.lookup j).isSome →
      ((rotateValue gcm oldKey newKey entropy r key value).reencryptedData.lookup j).isSome) ∧
    ((rotateValue gcm oldKey newKey entropy r key value).failure = none → r.failure = none ∧
      ((rotateValue gcm oldKey newKey entropy r key value).reencryptedData.lookup key).isSome) := by
  rw [rotateValue]
  split
  · refine ⟨rfl, fun j hj => hj, ?_⟩
    intro hf
    cases hf
  · next e _ =>
    refine ⟨legacy_annotate _ _ _, ?_, fun hf => ⟨hf, ?_⟩⟩
    · intro j hj
      rw [lookup_insert_if]
      split_ifs
      · rfl
      · exact hj
    · rw [lookup_insert_if, if_pos rfl]
      rfl

lemma foldl_rotateValue {l : List (String × Bytes)} (r : ValueRotation) :
    (l.foldl (fun r e => rotateValue gcm oldKey newKey entropy r e.1 e.2) r).annotations.lookup "nonce" =
      r.annotations.lookup "nonce" ∧ (∀ j, (r.reencryptedData.lookup j).isSome →
      ((l.foldl (fun r e => rotateValue gcm oldKey newKey entropy r e.1 e.2) r).reencryptedData.lookup j).isSome) ∧
    ((l.foldl (fun r e => rotateValue gcm oldKey newKey entropy r e.1 e.2) r).failure = none →
      r.failure = none ∧ ∀ e ∈ l,
        ((l.foldl (fun r e => rotateValue gcm oldKey newKey entropy r e.1 e.2) r).reencryptedData.lookup e.1).isSome) := by
  induction l generalizing r with
  | nil => exact ⟨rfl, fun j hj => hj, fun hf => ⟨hf, fun e he => absurd he List.not_mem_nil⟩⟩
  | cons e l ih =>
    obtain ⟨hn, hm, hf⟩ := rotateValue_spec
    obtain ⟨ihn, ihm, ihf⟩ := ih (rotateValue gcm oldKey newKey entropy r e.1 e.2)
    rw [List.foldl_cons]
    refine ⟨ihn.trans hn, fun j hj => ihm j (hm j hj), ?_⟩
    intro hnone
    obtain ⟨hstep, hr⟩ := ihf hnone
    obtain ⟨hs, ho⟩ := hf hstep
    refine ⟨hs, ?_⟩
    intro e' he'
    rcases List.mem_cons.mp he' with rfl | he'
    · exact ihm _ ho
    · exact hr e' he'

lemma legacy_rotateValues : (rotateValues gcm oldKey newKey order entropy secret).annotations.lookup "nonce" =
    secret.annotations.lookup "nonce" :=
  (foldl_rotateValue { annotations := secret.annotations }).1

lemma size_rotateValues :
    size (rotateValues gcm oldKey newKey order entropy secret).reencryptedData = size secret.data ↔
      ∀ key value, secret.data.lookup key = some value →
        ∃ envelope, rotatedValue gcm oldKey newKey entropy secret key value = .ok envelope := by
  have hsub : ∀ key, ((rotateValues gcm oldKey newKey order entropy secret).reencryptedData.lookup key).isSome →
      ∃ value envelope, secret.data.lookup key = some value ∧
        rotatedValue gcm oldKey newKey entropy secret key value = .ok envelope := by
    intro key hk
    by_contra hn
    push Not at hn
    rw [(rotateValues_of_not_ok fun value envelope hv => hn value envelope hv).2] at hk
    cases hk
  constructor
  · intro hs key value hv
    obtain ⟨value', envelope, hv', ho⟩ := hsub key (isSome_of_size_eq (fun j hj => by
      obtain ⟨value, envelope, hv, -⟩ := hsub j hj
      rw [hv]
      rfl) hs (by rw [hv]; rfl))
    rw [hv] at hv'
    cases hv'
    exact ⟨envelope, ho⟩
  · intro ha
    apply size_eq
    intro key
    cases hv : secret.data.lookup key with
    | none =>
      rw [Option.isSome_none, Bool.eq_false_iff]
      intro hk
      obtain ⟨value, envelope, hv', -⟩ := hsub key hk
      rw [hv] at hv'
      cases hv'
    | some value =>
      obtain ⟨envelope, ho⟩ := ha key value hv
      rw [(rotateValues_of_ok hv ho).2]
      rfl

lemma rotatedValue_of_no_failure (h : (rotateValues gcm oldKey newKey order entropy secret).failure = none) :
    ∀ key value, secret.data.lookup key = some value →
      ∃ envelope, rotatedValue gcm oldKey newKey entropy secret key value = .ok envelope := by
  intro key value hv
  by_contra hn
  push Not at hn
  have hs := ((foldl_rotateValue { annotations := secret.annotations }).2.2 h).2
    (key, value) ((order.enumerates _).mem.mpr hv)
  rw [← rotateValues, (rotateValues_of_not_ok fun value' envelope hv' => by
    rw [hv] at hv'
    cases hv'
    exact hn envelope).2] at hs
  cases hs

end Values

section Secrets

variable (gcm : GCM) (oldKey newKey : MasterKey) (rotation : KeyRotation) (now : Time)

def rotatedSecret (secret : Secret) : Secret :=
  let values := rotateValues gcm oldKey newKey rotation.order (rotation.entropy secret.key) secret
  if secret.deletedAt.isSome then secret
  else if size values.reencryptedData = size secret.data then
    { secret with
      annotations := values.annotations
      data := values.reencryptedData
      keyID := newKey.id
      rotatedAt := some now
      updatedAt := now }
  else { secret with annotations := values.annotations }

def Touched (secret : Secret) : Prop :=
  secret.deletedAt = none ∧ ∃ key value envelope, secret.data.lookup key = some value ∧
    rotatedValue gcm oldKey newKey (rotation.entropy secret.key) secret key value = .ok envelope

variable (secret : Secret)

lemma rotatedSecret_metadata : (rotatedSecret gcm oldKey newKey rotation now secret).name = secret.name ∧
    (rotatedSecret gcm oldKey newKey rotation now secret).ns = secret.ns ∧
    (rotatedSecret gcm oldKey newKey rotation now secret).version = secret.version ∧
    (rotatedSecret gcm oldKey newKey rotation now secret).expiresAt = secret.expiresAt ∧
    (rotatedSecret gcm oldKey newKey rotation now secret).deletedAt = secret.deletedAt := by
  rw [rotatedSecret]
  split_ifs <;> exact ⟨rfl, rfl, rfl, rfl, rfl⟩

lemma rotatedSecret_key : (rotatedSecret gcm oldKey newKey rotation now secret).key = secret.key := by
  obtain ⟨hname, hns, -⟩ := rotatedSecret_metadata gcm oldKey newKey rotation now secret
  rw [Secret.key, hname, hns, Secret.key]

variable {secret}

lemma rotatedSecret_annotations (hd : secret.deletedAt = none) :
    (rotatedSecret gcm oldKey newKey rotation now secret).annotations =
        (rotateValues gcm oldKey newKey rotation.order (rotation.entropy secret.key) secret).annotations ∧
      (rotatedSecret gcm oldKey newKey rotation now secret).encryptedDataKey = secret.encryptedDataKey := by
  rw [rotatedSecret, hd]
  split_ifs with hn hs
  · cases hn
  · exact ⟨rfl, rfl⟩
  · exact ⟨rfl, rfl⟩

variable {gcm oldKey newKey rotation now}

lemma rotatedSecret_envelope {key : String} {value : Bytes} {e : Envelope} (hd : secret.deletedAt = none)
    (hv : secret.data.lookup key = some value)
    (ho : rotatedValue gcm oldKey newKey (rotation.entropy secret.key) secret key value = .ok e) {v' : Bytes} :
    (rotatedSecret gcm oldKey newKey rotation now secret).envelope key v' = .ok { e with encryptedData := v' } := by
  obtain ⟨p, -, -, -, hnew, -⟩ := rotatedValue_eq_ok ho
  apply Secret.envelope_of_metadata _ hnew.nonce_ne_nil hnew.encryptedDataKey_ne_nil
  rw [(rotatedSecret_annotations gcm oldKey newKey rotation now hd).1]
  exact (rotateValues_of_ok hv ho).1

variable {plain : FMap String Bytes}

lemma rotatedSecret_plain (hd : secret.deletedAt = none) (ha : ∀ key value, secret.data.lookup key = some value →
    ∃ envelope, rotatedValue gcm oldKey newKey (rotation.entropy secret.key) secret key value = .ok envelope)
    (hp : secret.Plain gcm oldKey.key plain) :
    (rotatedSecret gcm oldKey newKey rotation now secret).Plain gcm newKey.key plain := by
  have hdata : (rotatedSecret gcm oldKey newKey rotation now secret).data =
      (rotateValues gcm oldKey newKey rotation.order (rotation.entropy secret.key) secret).reencryptedData := by
    rw [rotatedSecret, hd]
    simp only [Option.isSome_none, Bool.false_eq_true, if_false]
    rw [if_pos (size_rotateValues.mpr ha)]
  constructor
  · intro key value' hv'
    rw [hdata] at hv'
    cases hv : secret.data.lookup key with
    | none =>
      rw [(rotateValues_of_not_ok fun value envelope hs => by
        rw [hv] at hs
        cases hs).2] at hv'
      cases hv'
    | some value =>
      obtain ⟨envelope', ho⟩ := ha key value hv
      rw [(rotateValues_of_ok hv ho).2] at hv'
      cases hv'
      obtain ⟨p, envelope, hpl, he, hh⟩ := hp.opens hv
      obtain ⟨p', envelope₀, he₀, hold, hnew, -⟩ := rotatedValue_eq_ok ho
      rw [he] at he₀
      cases he₀
      rw [hold.plaintext_unique hh] at hnew
      exact ⟨p, envelope', hpl, rotatedSecret_envelope hd hv ho, hnew⟩
  · intro key hv'
    apply hp.absent
    rw [hdata] at hv'
    cases hv : secret.data.lookup key with
    | none => rfl
    | some value =>
      obtain ⟨envelope', ho⟩ := ha key value hv
      rw [(rotateValues_of_ok hv ho).2] at hv'
      cases hv'

lemma rotatedSecret_untouched {key : Key}
    (hn : ¬Touched gcm oldKey newKey rotation secret) (hp : secret.Plain gcm key plain) :
    (rotatedSecret gcm oldKey newKey rotation now secret).Plain gcm key plain := by
  by_cases hd : secret.deletedAt = none
  · have hva : ∀ k value envelope, secret.data.lookup k = some value →
        rotatedValue gcm oldKey newKey (rotation.entropy secret.key) secret k value ≠ .ok envelope := by
      intro k value envelope hv ho
      exact hn ⟨hd, k, value, envelope, hv, ho⟩
    have hdata : (rotatedSecret gcm oldKey newKey rotation now secret).data = secret.data := by
      rw [rotatedSecret, hd]
      simp only [Option.isSome_none, Bool.false_eq_true, if_false]
      split_ifs with hs
      · -- a secret without values passes the loop, and has no values after it
        apply Finmap.ext_lookup
        intro k
        cases hv : secret.data.lookup k with
        | none => exact (rotateValues_of_not_ok fun value envelope hv => hva k value envelope hv).2
        | some value =>
          obtain ⟨envelope, ho⟩ := size_rotateValues.mp hs k value hv
          exact absurd ho (hva k value envelope hv)
      · rfl
    obtain ⟨ha, he⟩ := rotatedSecret_annotations gcm oldKey newKey rotation now hd
    have henv : ∀ k value, (rotatedSecret gcm oldKey newKey rotation now secret).envelope k value =
        secret.envelope k value := by
      intro k value
      apply Secret.envelope_congr _ _ he
      · rw [ha]
        exact (rotateValues_of_not_ok fun value envelope hv => hva k value envelope hv).1
      · rw [ha]
        exact legacy_rotateValues
    refine ⟨?_, ?_⟩
    · intro k value hv
      rw [hdata] at hv
      rw [henv]
      exact hp.opens hv
    · intro k hv
      rw [hdata] at hv
      exact hp.absent hv
  · rwa [rotatedSecret, if_pos (Option.isSome_iff_ne_none.mpr hd)]

lemma rotatedSecret_touched (hne : newKey.key ≠ oldKey.key) (ht : Touched gcm oldKey newKey rotation secret) :
    ¬(rotatedSecret gcm oldKey newKey rotation now secret).Plain gcm oldKey.key plain := by
  obtain ⟨hd, k, value, envelope, hv, ho⟩ := ht
  intro hp
  obtain ⟨p, -, -, -, hnew, -⟩ := rotatedValue_eq_ok ho
  have hdata : ∃ value', (rotatedSecret gcm oldKey newKey rotation now secret).data.lookup k = some value' := by
    rw [rotatedSecret, hd]
    simp only [Option.isSome_none, Bool.false_eq_true, if_false]
    split_ifs
    · exact ⟨_, (rotateValues_of_ok hv ho).2⟩
    · exact ⟨value, hv⟩
  obtain ⟨value', hv'⟩ := hdata
  obtain ⟨p', envelope', -, he, hold⟩ := hp.opens hv'
  rw [rotatedSecret_envelope hd hv ho] at he
  cases he
  exact hne (hnew.key_unique hold rfl)

end Secrets

section Loop

variable {V : Type} {codec : Codec Secret V} {gcm : GCM} {oldKey newKey : MasterKey} {rotation : KeyRotation} {now : Time}

lemma size_insert_ne_zero {W : Type} {m : FMap String W} {k : String} {w : W} : size (m.insert k w) ≠ 0 := by
  have hl : (m.insert k w).lookup k = some w := Finmap.lookup_insert _
  rw [size_of_lookup _ hl]
  omega

variable (s : RaftSecretStore codec) (env : Raft.RaftEnv) (secret : Secret)

lemma save_mutate_cache (key : String) : ((s.mutate secret).save env secret).1.cache.lookup key =
      if key = secret.key then some secret else s.cache.lookup key := by
  rcases (s.mutate secret).save_cases env secret with ⟨-, hc, -⟩ | ⟨-, hc, -⟩
  · rw [hc, mutate_cache]
    split_ifs <;> rfl
  · rw [hc, mutate_cache]

lemma save_stored_of_ne {key : String} (hk : key ≠ secret.key) : (s.save env secret).1.stored key = s.stored key := by
  rcases s.save_cases env secret with ⟨-, -, hs⟩ | ⟨-, -, hs | hs⟩
  · rw [hs, if_neg hk]
  · rw [hs]
  · rw [hs, if_neg hk]

lemma save_mutate_stored : (∀ key, key ≠ secret.key → ((s.mutate secret).save env secret).1.stored key = s.stored key) ∧
    (((s.mutate secret).save env secret).1.stored secret.key = some secret ∨
      ((s.mutate secret).save env secret).1.stored secret.key = s.stored secret.key ∧
        ((s.mutate secret).save env secret).2 ≠ none) := by
  constructor
  · intro key hk
    rw [save_stored_of_ne _ _ _ hk, mutate_stored]
  · rcases (s.mutate secret).save_cases env secret with ⟨-, -, hs⟩ | ⟨⟨err, he⟩, -, hs | hs⟩
    · exact .inl ((hs secret.key).trans (if_pos rfl))
    · refine .inr ⟨?_, ?_⟩
      · rw [hs, mutate_stored]
      · rw [he]
        exact Option.some_ne_none err
    · exact .inl ((hs secret.key).trans (if_pos rfl))

lemma size_failures {fa : FMap String String} {f : Option String} {ref : String} (h : size (match f with
    | some err => fa.insert ref err
    | none => fa) = 0) : size fa = 0 ∧ f = none := by
  cases f with
  | none => exact ⟨h, rfl⟩
  | some err => exact absurd h size_insert_ne_zero

lemma rotateSecret_spec {r : Rotating codec} {secret : Secret} :
    (∀ key, (rotateSecret gcm oldKey newKey rotation now r secret).store.cache.lookup key =
      if key = secret.key ∧ secret.deletedAt = none then some (rotatedSecret gcm oldKey newKey rotation now secret)
      else r.store.cache.lookup key) ∧
    (∀ key, key ≠ secret.key → (rotateSecret gcm oldKey newKey rotation now r secret).store.stored key =
      r.store.stored key) ∧
    ((rotateSecret gcm oldKey newKey rotation now r secret).store.stored secret.key = r.store.stored secret.key ∨
      (rotateSecret gcm oldKey newKey rotation now r secret).store.stored secret.key =
        some (rotatedSecret gcm oldKey newKey rotation now secret)) ∧
    (size (rotateSecret gcm oldKey newKey rotation now r secret).failedSecrets = 0 → size r.failedSecrets = 0 ∧
      (secret.deletedAt = none →
        (rotateValues gcm oldKey newKey rotation.order (rotation.entropy secret.key) secret).failure = none ∧
        (rotateSecret gcm oldKey newKey rotation now r secret).store.stored secret.key =
          some (rotatedSecret gcm oldKey newKey rotation now secret))) := by
  by_cases hd : secret.deletedAt = none
  swap
  · rw [rotateSecret, if_pos (Option.isSome_iff_ne_none.mpr hd)]
    simp [hd]
  have hl : ¬secret.deletedAt.isSome = true := by simp [hd]
  have ha : ∀ key, (key = secret.key ∧ secret.deletedAt = none) ↔ key = secret.key := fun key => and_iff_left hd
  rw [rotateSecret, if_neg hl]
  simp only [ha]
  split_ifs with hs
  · have hr : rotatedSecret gcm oldKey newKey rotation now secret =
        { secret with
          annotations := (rotateValues gcm oldKey newKey rotation.order (rotation.entropy secret.key) secret).annotations
          data := (rotateValues gcm oldKey newKey rotation.order (rotation.entropy secret.key) secret).reencryptedData
          keyID := newKey.id
          rotatedAt := some now
          updatedAt := now } := by
      simp only [rotatedSecret]
      rw [if_neg hl, if_pos hs]
    rw [← hr]
    have hk : (rotatedSecret gcm oldKey newKey rotation now secret).key = secret.key :=
      rotatedSecret_key gcm oldKey newKey rotation now secret
    have hca := save_mutate_cache r.store (rotation.raft (rotatedSecret gcm oldKey newKey rotation now secret).key)
      (rotatedSecret gcm oldKey newKey rotation now secret)
    obtain ⟨ho, hown⟩ := save_mutate_stored r.store
      (rotation.raft (rotatedSecret gcm oldKey newKey rotation now secret).key)
      (rotatedSecret gcm oldKey newKey rotation now secret)
    split
    · next st err hsave =>
      rw [hsave] at hca ho hown
      rw [hk] at hca ho hown
      refine ⟨hca, ho, ?_, fun h => absurd h size_insert_ne_zero⟩
      exact (hown.imp_right And.left).symm
    · next st hsave =>
      rw [hsave] at hca ho hown
      rw [hk] at hca ho hown
      have hs := hown.resolve_right fun hf => hf.2 rfl
      exact ⟨hca, ho, .inr hs, fun h => ⟨(size_failures h).1, fun _ => ⟨(size_failures h).2, hs⟩⟩⟩
  · have hr : rotatedSecret gcm oldKey newKey rotation now secret =
        { secret with
          annotations :=
            (rotateValues gcm oldKey newKey rotation.order (rotation.entropy secret.key) secret).annotations } := by
      simp only [rotatedSecret]
      rw [if_neg hl, if_neg hs]
    rw [← hr]
    refine ⟨?_, fun key _ => rfl, .inl rfl, fun h => ⟨(size_failures h).1, fun _ => ?_⟩⟩
    · intro key
      rw [mutate_cache, rotatedSecret_key]
    · -- a value that was left out of the new data has also left a failure behind
      exact absurd (size_rotateValues.mpr (rotatedValue_of_no_failure (size_failures h).2)) hs

lemma foldl_rotateSecret_of_no_failure {l : List Secret} (hl : (l.map Secret.key).Nodup) (r : Rotating codec)
    (h : size (l.foldl (rotateSecret gcm oldKey newKey rotation now) r).failedSecrets = 0) : size r.failedSecrets = 0 ∧
    (∀ key, (∀ secret ∈ l, key ≠ secret.key) →
      (l.foldl (rotateSecret gcm oldKey newKey rotation now) r).store.stored key = r.store.stored key) ∧
    ∀ secret ∈ l, secret.deletedAt = none →
      (rotateValues gcm oldKey newKey rotation.order (rotation.entropy secret.key) secret).failure = none ∧
      (l.foldl (rotateSecret gcm oldKey newKey rotation now) r).store.stored secret.key =
        some (rotatedSecret gcm oldKey newKey rotation now secret) := by
  induction l generalizing r with
  | nil => exact ⟨h, fun key _ => rfl, fun secret hs => absurd hs List.not_mem_nil⟩
  | cons secret l ih =>
    rw [List.map_cons, List.nodup_cons] at hl
    obtain ⟨hstep, hf, hr⟩ := ih hl.2 _ h
    obtain ⟨-, ho, -, hown⟩ := rotateSecret_spec
    obtain ⟨hst, hown⟩ := hown hstep
    refine ⟨hst, ?_, ?_⟩
    · intro key hk
      exact (hf key fun s hs => hk s (List.mem_cons_of_mem _ hs)).trans
        (ho key (hk secret (List.mem_cons_self ..)))
    · intro s' hs hd
      rcases List.mem_cons.mp hs with rfl | hs
      · refine ⟨(hown hd).1, (hf _ ?_).trans (hown hd).2⟩
        intro s hs he
        exact hl.1 (List.mem_map.mpr ⟨s, hs, he.symm⟩)
      · exact hr s' hs hd

lemma list_all (order : MapOrder) : s.list order {} = (order.entries s.cache).map Prod.snd := by
  have hm : ∀ secret, matchesFilter {} secret = true := fun _ => rfl
  simp [list, hm]

lemma nodup_list_keys (order : MapOrder) : ((s.list order {}).map Secret.key).Nodup := by
  have hk : ((order.entries s.cache).map Prod.snd).map Secret.key = (order.entries s.cache).map Prod.fst := by
    rw [List.map_map]
    apply List.map_congr_left
    intro e he
    exact s.cached ((order.enumerates s.cache).mem.mp he)
  rw [list_all, hk]
  exact (order.enumerates s.cache).1

end Loop

namespace Manager

variable {V : Type} {codec : Codec Secret V} {gcm : GCM}

def retiredKey (m : Manager codec) (rotation : KeyRotation) : MasterKey :=
  { m.masterKey with active := false, rotatedAt := rotation.clock 1 }

def freshKey (rotation : KeyRotation) (id : String) (key : Key) : MasterKey := ⟨id, key, true, rotation.clock 0, 0⟩

variable {rotation : KeyRotation}

variable (m : Manager codec) {id : String} {key : Key}

variable (gcm) in
lemma rotateMasterKey_store (hn : rotation.newKey = .ok (id, key)) :
    (∀ k, (m.rotateMasterKey gcm rotation).1.store.cache.lookup k = (m.store.cache.lookup k).map
      (rotatedSecret gcm (m.retiredKey rotation) (freshKey rotation id key) rotation (rotation.clock 2))) ∧
    (∀ k, m.store.cache.lookup k = none → (m.rotateMasterKey gcm rotation).1.store.stored k = m.store.stored k) ∧
    (∀ k secret, m.store.cache.lookup k = some secret →
      (m.rotateMasterKey gcm rotation).1.store.stored k = m.store.stored k ∨
      (m.rotateMasterKey gcm rotation).1.store.stored k = some
        (rotatedSecret gcm (m.retiredKey rotation) (freshKey rotation id key) rotation (rotation.clock 2) secret)) := by
  let step := fun (r : Rotating codec) (_ : String) (secret : Secret) =>
    rotateSecret gcm (m.retiredKey rotation) (freshKey rotation id key) rotation (rotation.clock 2) r secret
  have hs : (m.rotateMasterKey gcm rotation).1.store = ((rotation.order.entries m.store.cache).foldl
      (fun r e => step r e.1 e.2) { store := m.store, audit := m.audit }).store := by
    rw [rotateMasterKey, hn]
    simp only [list_all, List.foldl_map]
    split_ifs <;> rfl
  rw [hs]
  refine ⟨?_, ?_, ?_⟩
  · intro k
    refine (foldl_read step (fun (r : Rotating codec) k => r.store.cache.lookup k)
      (fun _ (secret : Secret) b => if secret.deletedAt = none then
        some (rotatedSecret gcm (m.retiredKey rotation) (freshKey rotation id key) rotation (rotation.clock 2) secret)
        else b) (rotation.order.enumerates m.store.cache) ?_ ?_ _ k).trans ?_
    · intro r k secret hk
      rw [(rotateSecret_spec).1, m.store.cached hk]
      simp
    · intro r k secret j hk hj
      rw [(rotateSecret_spec).1, m.store.cached hk, if_neg fun h => hj h.1]
    · cases hk : m.store.cache.lookup k with
      | none => rfl
      | some secret =>
        simp only [Option.elim_some, Option.map_some]
        split_ifs with hd
        · rfl
        · rw [rotatedSecret, if_pos (Option.isSome_iff_ne_none.mpr hd)]
  · intro k hk
    refine foldl_frame step (fun (r : Rotating codec) k => r.store.stored k) (rotation.order.enumerates m.store.cache) ?_ _ hk
    intro r k secret j hk hj
    apply (rotateSecret_spec).2.1
    rwa [m.store.cached hk]
  · intro k secret hk
    refine (forEntries_read (fun (r : Rotating codec) k => r.store.stored k) (fun _ secret b a =>
      a = b ∨ a = some
        (rotatedSecret gcm (m.retiredKey rotation) (freshKey rotation id key) rotation (rotation.clock 2) secret)) ?_
      (rotation.order.enumerates m.store.cache).1 (forEntries_pure (E := Unit) step _ _)).1 k secret
        ((rotation.order.enumerates _).mem.mpr hk)
    intro r k secret r' hm hr
    cases hr
    have hkey := m.store.cached ((rotation.order.enumerates _).mem.mp hm)
    obtain ⟨-, ho, hown, -⟩ := rotateSecret_spec
    rw [hkey] at hown ho
    exact ⟨hown, ho⟩

variable (gcm) in
lemma rotateMasterKey_key (hn : rotation.newKey = .ok (id, key)) :
    ((m.rotateMasterKey gcm rotation).2 = none → (m.rotateMasterKey gcm rotation).1.masterKey.key = key ∧
      ∀ k secret, m.store.cache.lookup k = some secret → secret.deletedAt = none →
        (∀ k' value, secret.data.lookup k' = some value → ∃ e,
          rotatedValue gcm (m.retiredKey rotation) (freshKey rotation id key) (rotation.entropy secret.key) secret k' value =
            .ok e) ∧ (m.rotateMasterKey gcm rotation).1.store.stored k = some
          (rotatedSecret gcm (m.retiredKey rotation) (freshKey rotation id key) rotation (rotation.clock 2) secret)) ∧
    ((m.rotateMasterKey gcm rotation).2 ≠ none →
      (m.rotateMasterKey gcm rotation).1.masterKey.key = m.masterKey.key) := by
  rw [rotateMasterKey, hn]
  dsimp only
  split_ifs with hs
  · refine ⟨fun h => ?_, fun _ => rfl⟩
    cases h
  · refine ⟨fun _ => ⟨rfl, ?_⟩, fun h => absurd rfl h⟩
    intro k secret hk hd
    rw [not_not] at hs
    have hm : secret ∈ m.store.list rotation.order {} := by
      rw [list_all]
      exact List.mem_map.mpr ⟨(k, secret), (rotation.order.enumerates _).mem.mpr hk, rfl⟩
    obtain ⟨hf, hst⟩ :=
      (foldl_rotateSecret_of_no_failure (nodup_list_keys m.store rotation.order) _ hs).2.2 secret hm hd
    rw [m.store.cached hk] at hst
    exact ⟨rotatedValue_of_no_failure hf, hst⟩

variable (gcm) in
lemma rotateMasterKey_current (hn : rotation.newKey = .ok (id, key)) (k : String) :
    (m.rotateMasterKey gcm rotation).1.store.current k = match m.store.cache.lookup k with
      | some secret =>
        some (rotatedSecret gcm (m.retiredKey rotation) (freshKey rotation id key) rotation (rotation.clock 2) secret)
      | none => m.store.current k := by
  obtain ⟨hc, hs, -⟩ := m.rotateMasterKey_store gcm hn
  rw [current, hc]
  cases hk : m.store.cache.lookup k with
  | some secret => rfl
  | none => rw [hs k hk, current, hk, Option.map_none]

/-- After a rotation that succeeds, every readable secret is in the cache or has no values; after one that fails, no
value of a readable secret in the cache has been given a new envelope. -/
def KeepsData (gcm : GCM) (m : Manager codec) (rotation : KeyRotation) : Prop :=
  ∀ id key, rotation.newKey = .ok (id, key) →
    ((m.rotateMasterKey gcm rotation).2 = none → ∀ ns name now resp, m.Reads gcm ns name now resp →
      m.store.cache.lookup (getKey ns name) = none → resp.data = ∅) ∧
    ((m.rotateMasterKey gcm rotation).2 ≠ none → ∀ ns name now resp secret, m.Reads gcm ns name now resp →
      m.store.cache.lookup (getKey ns name) = some secret →
      ¬Touched gcm (m.retiredKey rotation) (freshKey rotation id key) rotation secret)

lemma reads_of_keepsData {m : Manager codec} (h : m.KeepsData gcm rotation) {ns name : String}
    {now : Time} {resp : SecretAccessResponse} (hr : m.Reads gcm ns name now resp) :
    (m.rotateMasterKey gcm rotation).1.Reads gcm ns name now resp := by
  cases hn : rotation.newKey with
  | error err =>
    have hm : (m.rotateMasterKey gcm rotation).1 = m := by rw [rotateMasterKey, hn]
    rwa [hm]
  | ok new =>
    obtain ⟨hsucc, hf⟩ := m.rotateMasterKey_key gcm hn
    obtain ⟨hsk, hfk⟩ := h _ _ hn
    have hc' := m.rotateMasterKey_current gcm hn (getKey ns name)
    have hr' := hr
    obtain ⟨hns, hname, secret, plain, hcur, hd, he, hp, rfl⟩ := hr
    cases hc : m.store.cache.lookup (getKey ns name) with
    | none =>
      rw [hc, hcur] at hc'
      refine ⟨hns, hname, secret, plain, hc', hd, he, ?_, rfl⟩
      by_cases hs : (m.rotateMasterKey gcm rotation).2 = none
      · obtain rfl : plain = ∅ := hsk hs ns name now _ hr' hc
        exact hp.of_empty _
      · rwa [hf hs]
    | some c =>
      obtain rfl : c = secret := by
        rw [current, hc, Option.some_or] at hcur
        exact Option.some.inj hcur
      rw [hc] at hc'
      obtain ⟨hname', hn', hv', he', hd'⟩ := rotatedSecret_metadata gcm (m.retiredKey rotation)
        (freshKey rotation new.1 new.2) rotation (rotation.clock 2) c
      refine ⟨hns, hname, _, plain, hc', hd'.trans hd, ?_, ?_, ?_⟩
      · rwa [he']
      · by_cases hs : (m.rotateMasterKey gcm rotation).2 = none
        · rw [(hsucc hs).1]
          exact rotatedSecret_plain hd ((hsucc hs).2 _ c hc hd).1 hp
        · rw [hf hs]
          exact rotatedSecret_untouched (hfk hs ns name now _ c hr' hc) hp
      · rw [hname', hn', hv', he']

lemma keepsData_of_readable {m : Manager codec}
    (hfr : ∀ id key, rotation.newKey = .ok (id, key) → key ≠ m.masterKey.key)
    (h : ∀ ns n now r, m.Reads gcm ns n now r →
      ∃ r', (m.rotateMasterKey gcm rotation).1.Reads gcm ns n now r') : m.KeepsData gcm rotation := by
  intro id key hn
  have hne := hfr id key hn
  obtain ⟨hsucc, hfail⟩ := m.rotateMasterKey_key gcm hn
  have hcu := m.rotateMasterKey_current gcm hn
  refine ⟨?_, ?_⟩
  · intro hs ns n now r hr hc
    obtain ⟨-, -, -, s', p', hc', -, -, hp', -⟩ := h ns n now r hr
    obtain ⟨-, -, secret, plain, hcur, -, -, hp, rfl⟩ := hr
    rw [hcu, hc, hcur] at hc'
    cases hc'
    rw [(hsucc hs).1] at hp'
    exact hp.key_unique hp' hne.symm
  · intro hf ns n now r secret hr hc ht
    obtain ⟨-, -, -, s', p', hc', -, -, hp', -⟩ := h ns n now r hr
    rw [hcu, hc] at hc'
    cases hc'
    rw [hfail hf] at hp'
    exact rotatedSecret_touched hne ht hp'

theorem rotation_keeps_data_iff {m : Manager codec} {rotation : KeyRotation}
    (hfresh : ∀ id key, rotation.newKey = .ok (id, key) → key ≠ m.masterKey.key) :
    (∀ tokens jwt clock order req resp, ({ m with tokens := tokens }.getSecret gcm jwt clock order req).2 = .ok resp →
      ({ (m.rotateMasterKey gcm rotation).1 with tokens := tokens }.getSecret gcm jwt clock order req).2 = .ok resp) ↔
    m.KeepsData gcm rotation := by
  rw [getSecret_mono_iff]
  refine ⟨?_, fun h ns n now resp hr => reads_of_keepsData h hr⟩
  intro h
  apply keepsData_of_readable hfresh
  intro ns n now resp hr
  exact ⟨resp, h ns n now resp hr⟩

def guardedManager : Manager plainCodec := (freshManager.createSecret plainGCM steadyCall "default" "db" passwordData []).1

def unsavedRotation : KeyRotation where
  clock := fun _ => 0
  order := sortedOrder
  newKey := .ok ("next", constantKey 7)
  entropy := fun _ _ => constantEntropy 2
  raft := fun _ => ⟨.failed "leadership lost", fun _ => 0⟩

def readerClaims : SecretTokenClaims := ⟨"default/db", "api", "id", 1000000000, 0⟩

def readerTokens : TokenManager :=
  ⟨(∅ : FMap String SecretAccessToken).insert "id" ⟨"id", "default/db", "api", 0, 1000000000, "token", -1, 0⟩⟩

def readerRequest : SecretAccessRequest := ⟨"db", "default", "api", "token"⟩

theorem rotation_keeps_data_unsaved : constantKey 7 ≠ guardedManager.masterKey.key ∧
    ((∀ tokens jwt clock order req resp,
        ({ guardedManager with tokens := tokens }.getSecret plainGCM jwt clock order req).2 = .ok resp →
        ({ (guardedManager.rotateMasterKey plainGCM unsavedRotation).1 with tokens := tokens }.getSecret plainGCM jwt clock
          order req).2 = .ok resp) ↔ guardedManager.KeepsData plainGCM unsavedRotation) := by
  have hne : constantKey 7 ≠ guardedManager.masterKey.key := by decide +kernel
  refine ⟨hne, rotation_keeps_data_iff ?_⟩
  intro id key h
  cases h
  exact hne

theorem unsaved_rotation_loses_secret : (guardedManager.rotateMasterKey plainGCM unsavedRotation).2 =
      some "failed to rotate 1 out of 1 secrets (see logs for details)" ∧
    (({ guardedManager with tokens := readerTokens }.getSecret plainGCM (singleSigner readerClaims) (fun _ => 0)
      sortedOrder readerRequest).2.map SecretAccessResponse.data) = .ok passwordData ∧
    (({ (guardedManager.rotateMasterKey plainGCM unsavedRotation).1 with tokens := readerTokens }.getSecret plainGCM
      (singleSigner readerClaims) (fun _ => 0) sortedOrder readerRequest).2.map SecretAccessResponse.data) =
        .error ("failed to decrypt secret value for key password: failed to decrypt data key: " ++
          "decryption failed: cipher: message authentication failed") := by
  decide +kernel

end Manager

end Cloudless.Secrets
