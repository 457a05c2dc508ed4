import Cloudless.Foundations.Runs
import Cloudless.Secrets.Rotation

/-! The operations of the secrets manager as steps of a run, and what each of them can write. -/

namespace Cloudless.Secrets

open Foundations FiniteMaps GoStd MapLoops Raft RaftSecretStore

variable {o : List SecretOption}

lemma applyOptions_frame (secret : Secret) : (o.foldl (fun secret opt => opt.apply secret) secret).ns = secret.ns ∧
    (o.foldl (fun secret opt => opt.apply secret) secret).name = secret.name ∧
    (o.foldl (fun secret opt => opt.apply secret) secret).data = secret.data ∧
    (o.foldl (fun secret opt => opt.apply secret) secret).deletedAt = secret.deletedAt := by
  induction o generalizing secret with
  | nil => exact ⟨rfl, rfl, rfl, rfl⟩
  | cons opt o ih =>
    obtain ⟨hns, hname, hdata, hdel⟩ := ih (opt.apply secret)
    cases opt <;> exact ⟨hns, hname, hdata, hdel⟩

lemma newSecret_frame (c : Call) (ns name : String) (mk : MasterKey) (o : List SecretOption)
    (es : FMap String Envelope) : (newSecret c ns name mk o es).ns = ns ∧ (newSecret c ns name mk o es).name = name ∧
    (newSecret c ns name mk o es).data = encryptedData es ∧ (newSecret c ns name mk o es).deletedAt = none :=
  applyOptions_frame _

namespace Manager

variable {V : Type} {codec : Codec Secret V} {gcm : GCM}

def Refreshed (m m' : Manager codec) (now : Time) (ns name : String) : Prop :=
  m'.tokens = m.tokens ∧ m'.masterKey = m.masterKey ∧ m'.config = m.config ∧
    (m'.store = m.store ∨ m'.store = (m.store.get now ns name).1)

structure Written (m m' : Manager codec) (env : RaftEnv) (before : RaftSecretStore codec) (secret : Secret)
    (err : Option String) : Prop where
  masterKey : m'.masterKey = m.masterKey
  config : m'.config = m.config
  store : m'.store = (before.save env secret).1
  answer : (before.save env secret).2 = err

variable {ns name : String}

lemma ne_empty_of_validateSecretName (h : validateSecretName ns name = none) :
    ns ≠ "" ∧ name ≠ "" ∧ '/' ∉ name.toList := by
  rw [validateSecretName] at h
  split_ifs at h with hns hname hlen hs
  exact ⟨hns, hname, hs⟩

variable {m m' : Manager codec}

lemma createSecret_cases {c : Call} {d : FMap String Bytes} {r : Except String Secret}
    (h : m.createSecret gcm c ns name d o = (m', r)) : m.Refreshed m' (c.clock 0) ns name ∧ (∃ err, r = .error err) ∨
    ∃ es err, validateSecretName ns name = none ∧ validateSecretData c.order d = none ∧
      encryptValues gcm m.masterKey c.order c.entropy d = .ok es ∧
      (∀ secret, m.store.current (getKey ns name) = some secret → secret.deletedAt ≠ none) ∧
      m'.tokens = m.tokens ∧ m.Written m' c.raft (m.store.get (c.clock 0) ns name).1
        (newSecret c ns name m.masterKey o es) err ∧ (r = .ok (newSecret c ns name m.masterKey o es) ∧ err = none ∨
        (∃ t, r = .error t) ∧ err ≠ none) := by
  rw [createSecret] at h
  split at h
  · cases h
    exact .inl ⟨⟨rfl, rfl, rfl, .inl rfl⟩, _, rfl⟩
  · next hname =>
    split at h
    · cases h
      exact .inl ⟨⟨rfl, rfl, rfl, .inl rfl⟩, _, rfl⟩
    · next hdata =>
      dsimp only at h
      split_ifs at h with hl
      · cases h
        exact .inl ⟨⟨rfl, rfl, rfl, .inr rfl⟩, _, rfl⟩
      · split at h
        · cases h
          exact .inl ⟨⟨rfl, rfl, rfl, .inr rfl⟩, _, rfl⟩
        · next es henc =>
          have hg : ∀ secret, m.store.current (getKey ns name) = some secret → secret.deletedAt ≠ none := by
            intro secret hc hd
            obtain ⟨hns, hn, -⟩ := ne_empty_of_validateSecretName hname
            rw [get_eq_ok.mpr ⟨hns, hn, hc⟩] at hl
            apply hl
            simp [Except.toOption, hd]
          split at h
          · next st err hs =>
            cases h
            refine .inr ⟨es, some err, hname, hdata, henc, hg, rfl, ⟨rfl, rfl, ?_, ?_⟩, .inr ⟨⟨_, rfl⟩, ?_⟩⟩
            · rw [hs]
            · rw [hs]
            · exact Option.some_ne_none _
          · next st hs =>
            cases h
            refine .inr ⟨es, none, hname, hdata, henc, hg, rfl, ⟨rfl, rfl, ?_, ?_⟩, .inl ⟨rfl, rfl⟩⟩
            · rw [hs]
              rfl
            · rw [hs]

lemma updateSecret_cases {call : Call} {data : FMap String Bytes}
    {result : Except String Secret} (h : m.updateSecret gcm call ns name data = (m', result)) :
    m.Refreshed m' (call.clock 0) ns name ∧ (∃ err, result = .error err) ∨
    ∃ secret envelopes, ns ≠ "" ∧ name ≠ "" ∧ m.store.current (getKey ns name) = some secret ∧
      secret.immutable = false ∧ secret.deletedAt = none ∧
      encryptValues gcm m.masterKey call.order call.entropy data = .ok envelopes ∧
      (size secret.annotations = 0 ∧ size envelopes ≠ 0 ∧ (∃ err, result = .error err) ∧ m'.tokens = m.tokens ∧
          m'.masterKey = m.masterKey ∧ m'.config = m.config ∧ m'.store = (m.store.get (call.clock 0) ns name).1.mutate
            { secret with data := encryptedData envelopes, encryptedDataKey := none } ∨
        ∃ err, m.Written m' call.raft ((m.store.get (call.clock 0) ns name).1.mutate (secret.updated call envelopes))
            (secret.updated call envelopes) err ∧ (result = .ok (secret.updated call envelopes) ∧ err = none ∧
              m'.tokens = (m.tokens.revokeTokensForSecret (secretRef ns name)).1 ∨
            (∃ text, result = .error text) ∧ err ≠ none ∧ m'.tokens = m.tokens)) := by
  rw [updateSecret] at h
  split at h
  · next store err hg =>
    cases h
    refine .inl ⟨⟨rfl, rfl, rfl, .inr ?_⟩, _, rfl⟩
    rw [hg]
  · next store secret hg =>
    have hst : (m.store.get (call.clock 0) ns name).1 = store := by rw [hg]
    obtain ⟨hns, hname, hc⟩ := get_eq_ok.mp
      (show (m.store.get (call.clock 0) ns name).2 = .ok secret by rw [hg])
    split_ifs at h with himm hdel
    · cases h
      exact .inl ⟨⟨rfl, rfl, rfl, .inr hst.symm⟩, _, rfl⟩
    · cases h
      exact .inl ⟨⟨rfl, rfl, rfl, .inr hst.symm⟩, _, rfl⟩
    · rw [Bool.not_eq_true, Option.isSome_eq_false_iff, Option.isNone_iff_eq_none] at hdel
      rw [Bool.not_eq_true] at himm
      dsimp only at h
      split at h
      · cases h
        exact .inl ⟨⟨rfl, rfl, rfl, .inr hst.symm⟩, _, rfl⟩
      · next envelopes henc =>
        refine .inr ⟨secret, envelopes, hns, hname, hc, himm, hdel, henc, ?_⟩
        rw [hst]
        split_ifs at h with hnil
        · cases h
          exact .inl ⟨hnil.1, hnil.2, ⟨_, rfl⟩, rfl, rfl, rfl, rfl⟩
        · refine .inr ?_
          split at h
          · next store' err hs =>
            cases h
            refine ⟨some err, ⟨rfl, rfl, ?_, ?_⟩, .inr ⟨⟨_, rfl⟩, Option.some_ne_none _, rfl⟩⟩
            · rw [hs]
            · rw [hs]
          · next store' hs =>
            cases h
            refine ⟨none, ⟨rfl, rfl, ?_, ?_⟩, .inl ⟨rfl, rfl, rfl⟩⟩
            · rw [hs]
              rfl
            · rw [hs]

def Secret.deletedBy (call : Call) (secret : Secret) : Secret := { secret with deletedAt := some (call.clock 1) }

lemma deleteSecret_cases {call : Call} {result : Option String} (h : m.deleteSecret call ns name = (m', result)) :
    m.Refreshed m' (call.clock 0) ns name ∧ (∃ err, result = some err) ∧
      (ns = "" ∨ name = "" ∨ m.store.current (getKey ns name) = none) ∨
    ∃ secret err, ns ≠ "" ∧ name ≠ "" ∧ m.store.current (getKey ns name) = some secret ∧
      m'.tokens = (m.tokens.revokeTokensForSecret (secretRef ns name)).1 ∧
      m.Written m' call.raft ((m.store.get (call.clock 0) ns name).1.mutate (Secret.deletedBy call secret))
        (Secret.deletedBy call secret) err ∧ (result = none ∧ err = none ∨ (∃ text, result = some text) ∧ err ≠ none) := by
  rw [deleteSecret] at h
  split at h
  · next store err hg =>
    cases h
    refine .inl ⟨⟨rfl, rfl, rfl, .inr ?_⟩, ⟨_, rfl⟩, ?_⟩
    · rw [hg]
    · rcases (m.store.get_spec (call.clock 0) ns name).2 with ⟨hn, -⟩ | ⟨-, -, secret, -, hok, -⟩
      · exact hn
      · rw [hg] at hok
        cases hok
  · next store secret hg =>
    have hst : (m.store.get (call.clock 0) ns name).1 = store := by rw [hg]
    obtain ⟨hns, hname, hc⟩ := get_eq_ok.mp
      (show (m.store.get (call.clock 0) ns name).2 = .ok secret by rw [hg])
    rw [hst]
    dsimp only at h
    split at h
    · next store' err hs =>
      cases h
      refine .inr ⟨secret, some err, hns, hname, hc, rfl, ⟨rfl, rfl, ?_, ?_⟩, .inr ⟨⟨_, rfl⟩, Option.some_ne_none _⟩⟩
      · exact (congrArg Prod.fst hs).symm
      · exact congrArg Prod.snd hs
    · next store' hs =>
      cases h
      refine .inr ⟨secret, none, hns, hname, hc, rfl, ⟨rfl, rfl, ?_, ?_⟩, .inl ⟨rfl, rfl⟩⟩
      · exact (congrArg Prod.fst hs).symm
      · exact congrArg Prod.snd hs

lemma generateAccessToken_cases {jwt : Signer} {u : String} {c : ℕ → Time}
    {ns name a : String} {ttl maxUses : ℤ} {r : Except String SecretAccessToken}
    (h : m.generateAccessToken jwt u c ns name a ttl maxUses = (m', r)) :
    (m'.masterKey = m.masterKey ∧ m'.config = m.config ∧ m'.store = (m.store.get (c 0) ns name).1) ∧
    ((∃ err, r = .error err) ∧ m'.tokens = m.tokens ∨
      ∃ secret t ttl', ns ≠ "" ∧ name ≠ "" ∧ m.store.current (getKey ns name) = some secret ∧
        secret.deletedAt = none ∧ audienceAllowed secret.audiences a = true ∧ r = .ok t ∧
        m.tokens.generateToken jwt u (c 1) (secretRef ns name) a ttl' maxUses = (m'.tokens, .ok t)) := by
  rw [generateAccessToken] at h
  split at h
  · next st err hg =>
    cases h
    refine ⟨⟨rfl, rfl, ?_⟩, .inl ⟨⟨_, rfl⟩, rfl⟩⟩
    rw [hg]
  · next st secret hg =>
    have hs : st = (m.store.get (c 0) ns name).1 := by rw [hg]
    obtain ⟨hns, hname, hc⟩ := get_eq_ok.mp
      (show (m.store.get (c 0) ns name).2 = .ok secret by rw [hg])
    split_ifs at h with hdel ha
    · cases h
      exact ⟨⟨rfl, rfl, hs⟩, .inl ⟨⟨_, rfl⟩, rfl⟩⟩
    · cases h
      exact ⟨⟨rfl, rfl, hs⟩, .inl ⟨⟨_, rfl⟩, rfl⟩⟩
    · rw [Bool.not_eq_true, Option.isSome_eq_false_iff, Option.isNone_iff_eq_none] at hdel
      dsimp only at h
      split at h
      · next ts err ht =>
        cases h
        refine ⟨⟨rfl, rfl, hs⟩, .inl ⟨⟨_, rfl⟩, ?_⟩⟩
        rcases TokenManager.generateToken_cases ht with ⟨hsame, -⟩ | ⟨_, _, _, _, _, _, ho⟩
        · exact hsame
        · cases ho
      · next ts t ht =>
        cases h
        exact ⟨⟨rfl, rfl, hs⟩, .inr ⟨secret, t, _, hns, hname, hc, hdel, by simpa using ha, rfl, ht⟩⟩

def restart (now : Time) (m : Manager codec) : Manager codec :=
  newManager m.config (newRaftSecretStore m.store.raftStore m.store.recorded) now

end Manager

inductive Op
  | create (call : Call) (ns name : String) (data : FMap String Bytes) (opts : List SecretOption)
  | update (call : Call) (ns name : String) (data : FMap String Bytes)
  | delete (call : Call) (ns name : String)
  | rotate (rotation : KeyRotation)
  | get (clock : ℕ → Time) (order : MapOrder) (req : SecretAccessRequest)
  | issue (uuid : String) (clock : ℕ → Time) (ns name audience : String) (ttl maxUses : ℤ)
  | revoke (tokenID : String)
  | cleanup (now : Time)
  | restart (now : Time)

namespace Manager

variable {V : Type} {codec : Codec Secret V}

def step (gcm : GCM) (jwt : Signer) (m : Manager codec) : Op → Manager codec
  | .create call ns name data opts => (m.createSecret gcm call ns name data opts).1
  | .update call ns name data => (m.updateSecret gcm call ns name data).1
  | .delete call ns name => (m.deleteSecret call ns name).1
  | .rotate rotation => (m.rotateMasterKey gcm rotation).1
  | .get clock order req => (m.getSecret gcm jwt clock order req).1
  | .issue uuid clock ns name audience ttl maxUses =>
    (m.generateAccessToken jwt uuid clock ns name audience ttl maxUses).1
  | .revoke tokenID => (m.revokeToken tokenID).1
  | .cleanup now => (m.cleanupExpiredTokens now).1
  | .restart now => m.restart now

def Copy (m : Manager codec) (key : String) (secret : Secret) : Prop :=
  m.store.cache.lookup key = some secret ∨ m.store.stored key = some secret

variable {m : Manager codec} {key : String} {secret : Secret}

lemma copy_of_current (h : m.store.current key = some secret) : m.Copy key secret := by
  rw [current, Option.or_eq_some_iff] at h
  exact h.imp id fun h => h.2

lemma copy_of_cache (h : m.store.cache.lookup key = some secret) : m.Copy (getKey secret.ns secret.name) secret := by
  have hk : getKey secret.ns secret.name = key := m.store.cached h
  rw [hk]
  exact .inl h

variable (s : RaftSecretStore codec) (env : RaftEnv) {now : Time} {ns name : String}

lemma copy_of_get {m m' : Manager codec} {key : String}
    (hs : m'.store = m.store ∨ m'.store = (m.store.get now ns name).1) (h : m'.Copy key secret) :
    m.Copy key secret := by
  rcases hs with hs | hs
  · rwa [Copy, hs] at h
  · rw [Copy, hs, get_stored] at h
    rcases h with h | h
    · rcases (m.store.get_spec now ns name).2 with ⟨-, hg, -⟩ | ⟨-, -, f, hc, -, hl⟩
      · rw [hg] at h
        exact .inl h
      · rw [hl] at h
        split_ifs at h with hk
        · cases h
          rw [hk]
          exact copy_of_current hc
        · exact .inl h
    · exact .inr h

lemma copy_of_save {b : RaftSecretStore codec} {env : RaftEnv}
    {o : Secret} (hm : m.store = (b.save env secret).1) (h : m.Copy key o) :
    (b.cache.lookup key = some o ∨ b.stored key = some o) ∨ key = secret.key ∧ o = secret := by
  rw [Copy, hm] at h
  have hw : ∀ {old : Option Secret}, (if key = secret.key then some secret else old) = some o →
      old = some o ∨ key = secret.key ∧ o = secret := by
    intro old hif
    split_ifs at hif with hk
    · cases hif
      exact .inr ⟨hk, rfl⟩
    · exact .inl hif
  rcases b.save_cases env secret with ⟨-, hc, hs⟩ | ⟨-, hc, hs⟩
  · rw [hc, hs] at h
    rcases h with h | h
    · exact (hw h).imp .inl id
    · exact (hw h).imp .inr id
  · rw [hc] at h
    rcases h with h | h
    · exact .inl (.inl h)
    · rcases hs with hs | hs
      · rw [hs] at h
        exact .inl (.inr h)
      · rw [hs] at h
        exact (hw h).imp .inr id

lemma save_current_of_ne (secret : Secret) (hk : key ≠ secret.key) :
    (s.save env secret).1.current key = s.current key := by
  rw [current, save_stored_of_ne s env secret hk, current]
  rcases s.save_cases env secret with ⟨-, hc, -⟩ | ⟨-, hc, -⟩
  · rw [hc, if_neg hk]
  · rw [hc]

lemma save_current_cases (secret : Secret) (key : String) :
    (s.save env secret).1.current key = s.current key ∨ (s.save env secret).1.current key = some secret := by
  by_cases hk : key = secret.key
  · rw [current, current]
    rcases s.save_cases env secret with ⟨-, hc, -⟩ | ⟨-, hc, hs | hs⟩
    · rw [hc, if_pos hk, Option.some_or]
      exact .inr rfl
    · rw [hc, hs]
      exact .inl rfl
    · rw [hc, hs, if_pos hk]
      cases s.cache.lookup key with
      | none => exact .inr rfl
      | some c => exact .inl rfl
  · exact .inl (save_current_of_ne s env secret hk)

lemma save_mutate_current (secret : Secret) (key : String) :
    ((s.mutate secret).save env secret).1.current key = if key = secret.key then some secret else s.current key := by
  split_ifs with hk
  · rw [current, save_mutate_cache, if_pos hk, Option.some_or]
  · rw [save_current_of_ne _ _ _ hk, mutate_current, if_neg hk]

lemma Refreshed.current {m m' : Manager codec} (h : m.Refreshed m' now ns name) :
    m'.store.current = m.store.current := by
  rcases h.2.2.2 with hs | hs
  · rw [hs]
  · rw [hs, get_current]

inductive Rewrites (gcm : GCM) (m : Manager codec) : Op → Secret → Prop
  | created {call ns name data opts envelopes} (hname : validateSecretName ns name = none)
      (hdata : validateSecretData call.order data = none)
      (henc : encryptValues gcm m.masterKey call.order call.entropy data = .ok envelopes) :
      Rewrites gcm m (.create call ns name data opts) (newSecret call ns name m.masterKey opts envelopes)
  | updated {call ns name data secret envelopes} (hc : m.store.current (getKey ns name) = some secret)
      (hd : secret.deletedAt = none)
      (henc : encryptValues gcm m.masterKey call.order call.entropy data = .ok envelopes) :
      Rewrites gcm m (.update call ns name data) (secret.updated call envelopes)
  | interrupted {call ns name data secret envelopes} (hc : m.store.current (getKey ns name) = some secret)
      (hd : secret.deletedAt = none)
      (henc : encryptValues gcm m.masterKey call.order call.entropy data = .ok envelopes)
      (hnil : size secret.annotations = 0 ∧ size envelopes ≠ 0) :
      Rewrites gcm m (.update call ns name data) { secret with data := encryptedData envelopes, encryptedDataKey := none }
  | deleted {call ns name secret} (hc : m.store.current (getKey ns name) = some secret) :
      Rewrites gcm m (.delete call ns name) (Secret.deletedBy call secret)
  | rotated {rotation id key k secret} (hn : rotation.newKey = .ok (id, key))
      (hc : m.store.cache.lookup k = some secret) : Rewrites gcm m (.rotate rotation)
        (rotatedSecret gcm (m.retiredKey rotation) (freshKey rotation id key) rotation (rotation.clock 2) secret)

lemma copy_of_mutate {s before : RaftSecretStore codec} {secret other : Secret}
    (hb : before = (m.store.get now ns name).1) (hs : s = before.mutate secret)
    (h : s.cache.lookup key = some other ∨ s.stored key = some other) : m.Copy key other ∨ other = secret := by
  have hg : before.cache.lookup key = some other ∨ before.stored key = some other → m.Copy key other := by
    intro h
    exact copy_of_get (.inr hb) (show Copy { m with store := before } key other from h)
  rw [hs, mutate_cache, mutate_stored] at h
  rcases h with h | h
  · split_ifs at h
    · cases h
      exact .inr rfl
    · exact .inl (hg (.inl h))
  · exact .inl (hg (.inr h))

lemma step_copy {gcm : GCM} {jwt : Signer} {op : Op}
    (h : (step gcm jwt m op).Copy key secret) : m.Copy key secret ∨ Rewrites gcm m op secret := by
  cases op with
  | create call ns name data opts =>
    rcases createSecret_cases (Prod.mk.eta (p := m.createSecret gcm call ns name data opts)).symm with
      ⟨⟨-, -, -, hs⟩, -⟩ | ⟨envelopes, err, hname, hdata, henc, -, -, hw, -⟩
    · exact .inl (copy_of_get hs h)
    · rcases copy_of_save hw.store h with h | ⟨-, rfl⟩
      · exact .inl (copy_of_get (.inr rfl)
          (show Copy { m with store := (m.store.get (call.clock 0) ns name).1 } key secret from h))
      · exact .inr (.created hname hdata henc)
  | update call ns name data =>
    rcases updateSecret_cases (Prod.mk.eta (p := m.updateSecret gcm call ns name data)).symm with
      ⟨⟨-, -, -, hs⟩, -⟩ | ⟨old, envelopes, -, -, hc, -, hd, henc, ⟨ha, he, -, -, -, -, hs⟩ | ⟨err, hw, -⟩⟩
    · exact .inl (copy_of_get hs h)
    · rcases copy_of_mutate rfl hs h with h | rfl
      · exact .inl h
      · exact .inr (.interrupted hc hd henc ⟨ha, he⟩)
    · rcases copy_of_save hw.store h with h | ⟨-, rfl⟩
      · rcases copy_of_mutate rfl rfl h with h | rfl
        · exact .inl h
        · exact .inr (.updated hc hd henc)
      · exact .inr (.updated hc hd henc)
  | delete call ns name =>
    rcases deleteSecret_cases (Prod.mk.eta (p := m.deleteSecret call ns name)).symm with
      ⟨⟨-, -, -, hs⟩, -⟩ | ⟨old, err, -, -, hc, -, hw, -⟩
    · exact .inl (copy_of_get hs h)
    · rcases copy_of_save hw.store h with h | ⟨-, rfl⟩
      · rcases copy_of_mutate rfl rfl h with h | rfl
        · exact .inl h
        · exact .inr (.deleted hc)
      · exact .inr (.deleted hc)
  | rotate rotation =>
    cases hn : rotation.newKey with
    | error err =>
      have hm : step gcm jwt m (.rotate rotation) = m := by
        rw [step, rotateMasterKey, hn]
      rw [hm] at h
      exact .inl h
    | ok new =>
      obtain ⟨hca, ho, hin⟩ := m.rotateMasterKey_store gcm hn
      rcases h with h | h
      · rw [step, hca, Option.map_eq_some_iff] at h
        obtain ⟨old, hc, rfl⟩ := h
        exact .inr (.rotated hn hc)
      · rw [step] at h
        cases hc : m.store.cache.lookup key with
        | none =>
          rw [ho key hc] at h
          exact .inl (.inr h)
        | some old =>
          rcases hin key old hc with hsame | hnew
          · rw [hsame] at h
            exact .inl (.inr h)
          · rw [hnew] at h
            cases h
            exact .inr (.rotated hn hc)
  | get clock order req => exact .inl (copy_of_get (m.getSecret_state jwt clock order req).2.1 h)
  | issue uuid clock ns name audience ttl maxUses =>
    exact .inl (copy_of_get (.inr (generateAccessToken_cases
      (Prod.mk.eta (p := m.generateAccessToken jwt uuid clock ns name audience ttl maxUses)).symm).1.2.2) h)
  | revoke | cleanup => exact .inl h
  | restart now =>
    rcases h with h | h
    · cases h
    · exact .inl (.inr h)

def createDb : Op := .create steadyCall "default" "db" passwordData []

end Manager

end Cloudless.Secrets
