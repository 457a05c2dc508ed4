import Cloudless.Secrets.Isolation

namespace Cloudless.Secrets

open Foundations FiniteMaps GoStd MapLoops Runs Raft

structure KeysValid (data : FMap String Bytes) : Prop where
  nonempty : 1 ≤ size data
  bounded : size data ≤ maxSecretKeys
  named : data.lookup "" = none

structure DataValid (data : FMap String Bytes) : Prop extends KeysValid data where
  values : ∀ {key value}, data.lookup key = some value → 1 ≤ value.length ∧ value.length ≤ maxSecretSize

variable {gcm : GCM} {data : FMap String Bytes}

lemma KeysValid.congr {data' : FMap String Bytes} (h : ∀ key, (data.lookup key).isSome = (data'.lookup key).isSome)
    (hv : KeysValid data) : KeysValid data' := by
  have hs := size_eq h
  refine ⟨hs ▸ hv.nonempty, hs ▸ hv.bounded, ?_⟩
  have hn := h ""
  rw [hv.named] at hn
  exact Option.isSome_eq_false_iff.mp hn.symm |> Option.isNone_iff_eq_none.mp

lemma dataValid_of_validateSecretData {o : MapOrder} (h : validateSecretData o data = none) : DataValid data := by
  rw [validateSecretData] at h
  split_ifs at h with hem hm
  rw [List.findSome?_eq_none_iff] at h
  have hen : ∀ {key v}, data.lookup key = some v → key ≠ "" ∧ v.length ≠ 0 ∧
      ¬maxSecretSize < v.length := by
    intro key v hl
    have he := h (key, v) ((o.enumerates data).mem.mpr hl)
    dsimp only at he
    split_ifs at he with hk hz hla
    exact ⟨hk, hz, hla⟩
  refine ⟨⟨Nat.one_le_iff_ne_zero.mpr hem, not_lt.mp hm, ?_⟩, ?_⟩
  · cases hl : data.lookup "" with
    | none => rfl
    | some v => exact absurd rfl (hen hl).1
  · intro key v hl
    exact ⟨Nat.one_le_iff_ne_zero.mpr (hen hl).2.1, not_lt.mp (hen hl).2.2⟩

variable {ma : MasterKey} {es : FMap String Envelope}

lemma KeysValid.dataValid {o : MapOrder} {e : String → Entropy}
    (hk : KeysValid data) (h : encryptValues gcm ma o e data = .ok es) : DataValid data := by
  refine ⟨hk, ?_⟩
  intro key v hl
  have hr := encryptValues_spec h key
  rw [hl] at hr
  generalize es.lookup key = envelope at hr
  cases hr with
  | some hh => exact hh.2

structure Secret.Valid (gcm : GCM) (masterKey : MasterKey) (secret : Secret) : Prop extends KeysValid secret.data where
  values : ∀ {key value}, secret.data.lookup key = some value → ∃ plaintext,
    decryptValue gcm masterKey secret key value = .ok plaintext ∧ 1 ≤ plaintext.length ∧
      plaintext.length ≤ maxSecretSize

lemma Secret.valid_iff {secret : Secret} :
    secret.Valid gcm ma ↔ ∃ plain, secret.Plain gcm ma.key plain ∧ DataValid plain := by
  constructor
  · intro h
    obtain ⟨plain, hd⟩ : ∃ plain, decryptSecret gcm ma sortedOrder secret = .ok plain := by
      apply forEntries_isOk
      intro acc key value hm
      obtain ⟨plaintext, hp, -⟩ := h.values ((sortedOrder.enumerates _).mem.mp hm)
      rw [hp]
      exact ⟨_, rfl⟩
    have hp := decryptSecret_plain hd
    refine ⟨plain, hp, h.toKeysValid.congr hp.isSome_eq, ?_⟩
    intro key plaintext hl
    have hs := hp.isSome_eq key
    rw [hl, Option.isSome_some, Option.isSome_iff_exists] at hs
    obtain ⟨value, hv⟩ := hs
    obtain ⟨p, envelope, hlp, he, hh⟩ := hp.opens hv
    obtain ⟨plaintext', hdec, hlen⟩ := h.values hv
    rw [decryptValue_eq_ok.mpr ⟨envelope, he, hh⟩] at hdec
    rw [hl] at hlp
    cases hlp
    cases hdec
    exact hlen
  · rintro ⟨plain, hp, hd⟩
    refine ⟨hd.toKeysValid.congr fun key => (hp.isSome_eq key).symm, ?_⟩
    intro key value hv
    obtain ⟨p, envelope, hl, he, hh⟩ := hp.opens hv
    exact ⟨p, decryptValue_eq_ok.mpr ⟨envelope, he, hh⟩, hd.values hl⟩

variable {s : Secret}

lemma Secret.Valid.annotations_ne (h : s.Valid gcm ma) : size s.annotations ≠ 0 := by
  intro hz
  obtain ⟨key, v, hv⟩ := exists_lookup_of_size_pos h.nonempty
  obtain ⟨p, hd, -⟩ := h.values hv
  obtain ⟨e, he, -⟩ := decryptValue_eq_ok.mp hd
  have hnone := lookup_of_size_eq_zero hz
  rw [Secret.envelope, hnone, hnone, hnone] at he
  cases hk : s.encryptedDataKey <;> simp [hk] at he

namespace Manager

variable {V : Type} {codec : Codec Secret V} {gcm : GCM} {jwt : Signer}

def AllValid (gcm : GCM) (m : Manager codec) : Prop :=
  ∀ ns name secret, ns ≠ "" → name ≠ "" → m.store.current (getKey ns name) = some secret → secret.deletedAt = none →
    secret.Valid gcm m.masterKey

def Rewriting (m : Manager codec) : Op → Prop
  | .create .. => True
  | .update .. => True
  | .rotate rotation => ∀ id key, rotation.newKey = .ok (id, key) → key ≠ m.masterKey.key
  | _ => False

/-- An update that changes a secret has keys within the bounds, and a rotation keeps what can be read. -/
def KeepsValid (gcm : GCM) (m : Manager codec) : Op → Prop
  | .update call ns name data =>
    (m.updateSecret gcm call ns name data).1.store.current ≠ m.store.current → KeysValid data
  | .rotate rotation => m.KeepsData gcm rotation
  | _ => True

lemma AllValid.of_current {m m' : Manager codec} (hm : m.AllValid gcm) (hc : m'.store.current = m.store.current)
    (hk : m'.masterKey = m.masterKey) : m'.AllValid gcm := by
  intro ns name s hns hname hs hd
  rw [hc] at hs
  rw [hk]
  exact hm ns name s hns hname hs hd

variable {m : Manager codec} {call : Call} {ns name : String} {data : FMap String Bytes}

lemma valid_of_encryptValues {a : FMap String String}
    (henc : encryptValues gcm m.masterKey call.order call.entropy data = .ok es)
    (hd : s.data = encryptedData es) (ha : s.annotations = annotateAll call.order es a) (hv : DataValid data) :
    s.Valid gcm m.masterKey :=
  Secret.valid_iff.mpr ⟨data, plain_of_encryptValues henc hd ha, hv⟩

lemma createSecret_allValid (hm : m.AllValid gcm) {opts : List SecretOption} :
    (m.createSecret gcm call ns name data opts).1.AllValid gcm := by
  rcases createSecret_cases (Prod.mk.eta (p := m.createSecret gcm call ns name data opts)).symm with
    ⟨hr, -⟩ | ⟨envelopes, err, -, hdata, henc, -, -, hw, -⟩
  · exact hm.of_current hr.current hr.2.1
  · intro ns' name' secret hns hname hs hd
    rw [hw.masterKey]
    rw [hw.store] at hs
    rcases save_current_cases _ call.raft (newSecret call ns name m.masterKey opts envelopes) (getKey ns' name')
      with hc | hc
    · rw [hc, RaftSecretStore.get_current] at hs
      exact hm ns' name' secret hns hname hs hd
    · rw [hc] at hs
      cases hs
      exact valid_of_encryptValues henc (newSecret_frame ..).2.2.1 rfl (dataValid_of_validateSecretData hdata)

lemma updateSecret_allValid_iff (hm : m.AllValid gcm) : (m.updateSecret gcm call ns name data).1.AllValid gcm ↔
      ((m.updateSecret gcm call ns name data).1.store.current ≠ m.store.current → KeysValid data) := by
  rcases updateSecret_cases (Prod.mk.eta (p := m.updateSecret gcm call ns name data)).symm with
    ⟨hr, -⟩ | ⟨secret, envelopes, hns, hname, hcur, -, hd, henc, ⟨ha, -⟩ | ⟨err, hw, -⟩⟩
  · refine ⟨fun _ h => absurd hr.current h, fun _ => hm.of_current hr.current hr.2.1⟩
  · exact absurd ha (hm ns name secret hns hname hcur hd).annotations_ne
  · have hkey : (secret.updated call envelopes).key = getKey ns name := by
      have hk : secret.key = getKey ns name := RaftSecretStore.current_key hcur
      exact hk
    have hcu : ∀ key, (m.updateSecret gcm call ns name data).1.store.current key =
        if key = getKey ns name then some (secret.updated call envelopes) else m.store.current key := by
      intro key
      rw [hw.store, save_mutate_current, hkey, RaftSecretStore.get_current]
    have hkeys : ∀ key, (data.lookup key).isSome = ((secret.updated call envelopes).data.lookup key).isSome := by
      intro key
      exact ((plain_of_encryptValues henc rfl rfl : (secret.updated call envelopes).Plain gcm _ data).isSome_eq key).symm
    constructor
    · intro h _
      have hv := h ns name _ hns hname ((hcu _).trans (if_pos rfl)) hd
      exact hv.toKeysValid.congr fun key => (hkeys key).symm
    · intro h ns' n' s' hn' hname' hs hd'
      rw [hw.masterKey]
      by_cases hk : getKey ns' n' = getKey ns name
      · rw [hcu, if_pos hk] at hs
        cases hs
        by_cases hch : (m.updateSecret gcm call ns name data).1.store.current = m.store.current
        · apply hm ns name _ hns hname _ hd'
          rw [← hch, hcu, if_pos rfl]
        · exact valid_of_encryptValues henc rfl rfl ((h hch).dataValid henc)
      · rw [hcu, if_neg hk] at hs
        exact hm ns' n' s' hn' hname' hs hd'

lemma exists_reads {p : FMap String Bytes} (hns : ns ≠ "") (hname : name ≠ "")
    (hc : m.store.current (getKey ns name) = some s) (hd : s.deletedAt = none) (hp : s.Plain gcm m.masterKey.key p) :
    ∃ now, m.Reads gcm ns name now ⟨s.name, s.ns, p, s.version, s.expiresAt⟩ := by
  cases he : s.expiresAt with
  | none =>
    refine ⟨0, hns, hname, s, p, hc, hd, ?_, hp, by rw [he]⟩
    intro t ht
    rw [he] at ht
    cases ht
  | some ea =>
    refine ⟨ea, hns, hname, s, p, hc, hd, ?_, hp, by rw [he]⟩
    intro t ht
    rw [he] at ht
    cases ht
    exact le_rfl

variable (gcm) in
lemma rotateMasterKey_current_metadata (m : Manager codec) (r : KeyRotation) (key : String) :
    ((m.rotateMasterKey gcm r).1.store.current key).map (fun s => (s.deletedAt, s.expiresAt)) =
      (m.store.current key).map fun s => (s.deletedAt, s.expiresAt) := by
  cases hn : r.newKey with
  | error err => rw [rotateMasterKey, hn]
  | ok new =>
    rw [m.rotateMasterKey_current gcm hn]
    cases hc : m.store.cache.lookup key with
    | none => rfl
    | some c =>
      rw [RaftSecretStore.current, hc, Option.some_or, Option.map_some, Option.map_some]
      obtain ⟨-, -, -, he, hd⟩ := rotatedSecret_metadata gcm (m.retiredKey r) (freshKey r new.1 new.2)
        r (r.clock 2) c
      rw [he, hd]

lemma rotateMasterKey_allValid_iff (hm : m.AllValid gcm) {rotation : KeyRotation}
    (hfr : ∀ id key, rotation.newKey = .ok (id, key) → key ≠ m.masterKey.key) :
    (m.rotateMasterKey gcm rotation).1.AllValid gcm ↔ m.KeepsData gcm rotation := by
  constructor
  · intro h
    apply keepsData_of_readable hfr
    rintro ns name now resp ⟨hns, hname, secret, plain, hc, hd, hexp, -, -⟩
    have hmeta := m.rotateMasterKey_current_metadata gcm rotation (getKey ns name)
    rw [hc, Option.map_some, Option.map_eq_some_iff] at hmeta
    obtain ⟨secret', hc', he'⟩ := hmeta
    obtain ⟨hd', hexp'⟩ := Prod.mk.inj he'
    obtain ⟨plain', hp', -⟩ := Secret.valid_iff.mp (h ns name secret' hns hname hc' (hd'.trans hd))
    exact ⟨_, hns, hname, secret', plain', hc', hd'.trans hd, hexp' ▸ hexp, hp', rfl⟩
  · intro h ns name secret' hns hname hc' hd'
    have hmeta := m.rotateMasterKey_current_metadata gcm rotation (getKey ns name)
    rw [hc', Option.map_some, eq_comm, Option.map_eq_some_iff] at hmeta
    obtain ⟨secret, hc, he⟩ := hmeta
    have hd : secret.deletedAt = none := (Prod.mk.inj he).1.trans hd'
    obtain ⟨plain, hp, hv⟩ := Secret.valid_iff.mp (hm ns name secret hns hname hc hd)
    obtain ⟨now, hr⟩ := exists_reads hns hname hc hd hp
    obtain ⟨-, -, found, plain', hf, -, -, hp', hresp⟩ := reads_of_keepsData h hr
    rw [hc'] at hf
    cases hf
    have hpl : plain = plain' := congrArg SecretAccessResponse.data hresp
    exact Secret.valid_iff.mpr ⟨plain', hp', hpl ▸ hv⟩

lemma step_allValid_iff {op : Op} (hm : m.AllValid gcm) (ho : m.Rewriting op) :
    (step gcm jwt m op).AllValid gcm ↔ m.KeepsValid gcm op := by
  cases op with
  | create call ns name data o => exact iff_of_true (createSecret_allValid hm) trivial
  | update call ns name data => exact updateSecret_allValid_iff hm
  | rotate r => exact rotateMasterKey_allValid_iff hm ho
  | _ => cases ho

theorem live_secrets_valid_iff {m : Manager codec} (hb : m.Blank) (ops : List Op)
    (hops : Admissible (step gcm jwt) Rewriting m ops) :
    (∀ n, (run (step gcm jwt) m (ops.take n)).AllValid gcm) ↔ Admissible (step gcm jwt) (KeepsValid gcm) m ops := by
  apply property_take_iff (fun m : Manager codec => m.AllValid gcm) (fun m => m.AllValid gcm) (fun _ hm => hm) _ _ ops _
    hops
  · intro m op hm ho
    exact (step_allValid_iff hm ho).mpr
  · intro m op hm ho
    exact (step_allValid_iff hm ho).mp
  · intro ns name s _ _ hc
    exact absurd (copy_of_current hc) (hb ns name s)

theorem live_secrets_valid_unsaved : freshManager.Blank ∧
    Admissible (step plainGCM (singleSigner readerClaims)) Rewriting freshManager [createDb, .rotate unsavedRotation] ∧
    ((∀ n, (run (step plainGCM (singleSigner readerClaims)) freshManager
        ([createDb, .rotate unsavedRotation].take n)).AllValid plainGCM) ↔
      Admissible (step plainGCM (singleSigner readerClaims)) (KeepsValid plainGCM) freshManager
        [createDb, .rotate unsavedRotation]) := by
  have ho : Admissible (step plainGCM (singleSigner readerClaims)) Rewriting freshManager
      [createDb, .rotate unsavedRotation] := by
    refine ⟨trivial, ?_, trivial⟩
    intro id key hn
    cases hn
    have hne : constantKey 7 ≠ guardedManager.masterKey.key := by decide +kernel
    exact hne
  exact ⟨blank_freshManager, ho, live_secrets_valid_iff blank_freshManager _ ho⟩

theorem update_empties_secret : (guardedManager.updateSecret plainGCM steadyCall "default" "db" ∅).2.isOk = true ∧
    ((run (step plainGCM (singleSigner readerClaims)) freshManager
        [createDb, .update steadyCall "default" "db" ∅]).store.current (getKey "default" "db")).map
      (fun secret => (size secret.data, secret.deletedAt)) = some (0, none) := by
  decide +kernel

end Manager

end Cloudless.Secrets
