import Cloudless.Foundations.MapLoops
import Cloudless.Raft.Store

namespace Cloudless.Secrets

open Foundations FiniteMaps GoStd MapLoops Raft

structure Secret where
  (name ns : String)
  labels : FMap String String := ∅
  annotations : FMap String String := ∅
  data : FMap String Bytes
  encryptedDataKey : Option Bytes := none
  keyID : String
  audiences : List String := []
  ttl : Int64 := 0
  version : UInt64 := 1
  immutable : Bool := false
  (createdAt updatedAt : Time)
  rotatedAt : Option Time := none
  expiresAt : Option Time := none
  deletedAt : Option Time := none
  deriving DecidableEq

structure SecretFilter where
  ns : String := ""
  labels : FMap String String := ∅
  name : String := ""
  namePrefix : String := ""
  limit : ℤ := 0
  offset : ℤ := 0

def getKey (ns name : String) : String := "secret/" ++ ns ++ "/" ++ name

def Secret.key (secret : Secret) : String := getKey secret.ns secret.name

variable {V : Type}

structure Recorded (codec : Codec Secret V) (raftStore : RaftStore V) : Prop where
  permanent : ∀ {key entry}, hasPrefix key "secret/" = true → raftStore.fsm.data.lookup key = some entry →
    entry.expiresAt = 0
  keyed : ∀ {key entry secret}, hasPrefix key "secret/" = true → raftStore.fsm.data.lookup key = some entry →
    codec.unmarshal entry.value = .ok secret → secret.key = key

structure RaftSecretStore (codec : Codec Secret V) where
  raftStore : RaftStore V
  cache : FMap String Secret
  recorded : Recorded codec raftStore
  cached : ∀ {key secret}, cache.lookup key = some secret → secret.key = key

lemma hasPrefix_getKey {ns name : String} : hasPrefix (getKey ns name) "secret/" = true := by
  rw [getKey, String.append_assoc, String.append_assoc]
  exact hasPrefix_append _ _

lemma Recorded.set {codec : Codec Secret V} {rs : RaftStore V} (h : Recorded codec rs) (env : RaftEnv)
    {secret : Secret} {d : V} (hm : codec.marshal secret = .ok d) : Recorded codec (rs.set env secret.key d).1 := by
  rcases (rs.set_cases env secret.key d).2 with ⟨hs, -⟩ | ⟨ca, ua, hs⟩
  · refine ⟨?_, ?_⟩ <;> rw [hs]
    · exact h.permanent
    · exact h.keyed
  · refine ⟨?_, ?_⟩ <;> rw [hs]
    · intro key e hp hl
      rw [lookup_insert_if] at hl
      split_ifs at hl with hk
      · cases hl
        rfl
      · exact h.permanent hp hl
    · intro key e o hp hl hu
      rw [lookup_insert_if] at hl
      split_ifs at hl with hk
      · cases hl
        rw [codec.unmarshal_marshal hm] at hu
        cases hu
        exact hk.symm
      · exact h.keyed hp hl hu

def newRaftSecretStore {codec : Codec Secret V} (raftStore : RaftStore V) (h : Recorded codec raftStore) :
    RaftSecretStore codec where
  raftStore := raftStore
  cache := ∅
  recorded := h
  cached hl := by cases hl

namespace RaftSecretStore

variable {codec : Codec Secret V}

/-- The cache holds pointers, so a change to a secret that was read from the store shows there. -/
def mutate (secret : Secret) (s : RaftSecretStore codec) : RaftSecretStore codec :=
  { s with
    cache := s.cache.insert secret.key secret
    cached := by
      intro key other hl
      rw [lookup_insert_if] at hl
      split_ifs at hl with hk
      · cases hl
        exact hk.symm
      · exact s.cached hl }

def save (env : RaftEnv) (secret : Secret) (s : RaftSecretStore codec) : RaftSecretStore codec × Option String :=
  match hm : codec.marshal secret with
  | .error err => (s, some ("failed to serialize secret: " ++ err))
  | .ok data =>
    let written : RaftSecretStore codec :=
      { s with raftStore := (s.raftStore.set env secret.key data).1, recorded := s.recorded.set env hm }
    match (s.raftStore.set env secret.key data).2 with
    | some err => (written, some ("failed to store secret in RAFT: " ++ err))
    | none => (written.mutate secret, none)

variable {ns name : String} {secret : Secret} (s : RaftSecretStore codec) (now : Time)

lemma key_of_get {now : Time} {d : V} (hd : s.raftStore.fsm.get now (getKey ns name) = .ok d)
    (hu : codec.unmarshal d = .ok secret) : secret.key = getKey ns name := by
  rw [FSM.get] at hd
  split at hd
  · cases hd
  · next e hl =>
    split_ifs at hd
    cases hd
    exact s.recorded.keyed hasPrefix_getKey hl hu

def get (now : Time) (ns name : String) (s : RaftSecretStore codec) : RaftSecretStore codec × Except String Secret :=
  if ns = "" ∨ name = "" then (s, .error "namespace and name are required")
  else
    match s.cache.lookup (getKey ns name) with
    | some secret => (s, .ok secret)
    | none =>
      match hd : s.raftStore.fsm.get now (getKey ns name) with
      | .error err => (s, .error ("failed to get secret from RAFT: " ++ err))
      | .ok data =>
        match hu : codec.unmarshal data with
        | .error err => (s, .error ("failed to deserialize secret: " ++ err))
        | .ok secret =>
          ({ s with
            cache := s.cache.insert (getKey ns name) secret
            cached := s.key_of_get hd hu ▸ (s.mutate secret).cached }, .ok secret)

def matchesFilter (filter : SecretFilter) (secret : Secret) : Bool :=
  (filter.ns = "" || secret.ns = filter.ns) && (filter.name = "" || secret.name = filter.name) &&
    (filter.namePrefix = "" || hasPrefix secret.name filter.namePrefix) &&
    !hasEntry (fun key value => (secret.labels.lookup key).getD "" ≠ value) filter.labels

def list (order : MapOrder) (filter : SecretFilter) (s : RaftSecretStore codec) : List Secret :=
  let secrets := ((order.entries s.cache).map Prod.snd).filter (matchesFilter filter)
  let secrets := if 0 < filter.offset ∧ filter.offset < secrets.length then secrets.drop filter.offset.toNat else secrets
  if 0 < filter.limit ∧ filter.limit < secrets.length then secrets.take filter.limit.toNat else secrets

def stored (s : RaftSecretStore codec) (key : String) : Option Secret :=
  (s.raftStore.fsm.data.lookup key).bind fun entry => (codec.unmarshal entry.value).toOption

def current (s : RaftSecretStore codec) (key : String) : Option Secret := (s.cache.lookup key).or (s.stored key)

variable {s : RaftSecretStore codec}

lemma current_key (h : s.current (getKey ns name) = some secret) : secret.key = getKey ns name := by
  rw [current, Option.or_eq_some_iff] at h
  rcases h with h | ⟨-, h⟩
  · exact s.cached h
  · rw [stored, Option.bind_eq_some_iff] at h
    obtain ⟨e, hl, hu⟩ := h
    cases hu' : codec.unmarshal e.value with
    | error err =>
      rw [hu'] at hu
      cases hu
    | ok o =>
      rw [hu'] at hu
      cases hu
      exact s.recorded.keyed hasPrefix_getKey hl hu'

lemma fsm_get (ns name : String) :
    (∃ err, s.raftStore.fsm.get now (getKey ns name) = .error err) ∧ s.stored (getKey ns name) = none ∨
      ∃ d, s.raftStore.fsm.get now (getKey ns name) = .ok d ∧
        s.stored (getKey ns name) = (codec.unmarshal d).toOption := by
  rw [FSM.get, stored]
  cases hl : s.raftStore.fsm.data.lookup (getKey ns name) with
  | none => exact .inl ⟨⟨_, rfl⟩, rfl⟩
  | some e =>
    have he : expired e.expiresAt now = false := by
      rw [s.recorded.permanent hasPrefix_getKey hl]
      simp [expired]
    refine .inr ⟨e.value, ?_, rfl⟩
    simp only [he, Bool.false_eq_true, if_false]

lemma get_spec (ns name : String) : (s.get now ns name).1.raftStore = s.raftStore ∧
    ((ns = "" ∨ name = "" ∨ s.current (getKey ns name) = none) ∧ (s.get now ns name).1 = s ∧
        (∃ err, (s.get now ns name).2 = .error err) ∨
      ns ≠ "" ∧ name ≠ "" ∧ ∃ secret, s.current (getKey ns name) = some secret ∧ (s.get now ns name).2 = .ok secret ∧
        ∀ key, (s.get now ns name).1.cache.lookup key =
          if key = getKey ns name then some secret else s.cache.lookup key) := by
  rw [get]
  split_ifs with he
  · refine ⟨rfl, .inl ⟨?_, rfl, _, rfl⟩⟩
    tauto
  rw [not_or] at he
  rw [current]
  cases hc : s.cache.lookup (getKey ns name) with
  | some secret =>
    refine ⟨rfl, .inr ⟨he.1, he.2, secret, rfl, rfl, ?_⟩⟩
    intro key
    split_ifs with hk
    · rw [hk, hc]
    · rfl
  | none =>
    simp only [Option.none_or]
    split
    · next err hd =>
      refine ⟨rfl, .inl ⟨.inr (.inr ?_), rfl, _, rfl⟩⟩
      rcases s.fsm_get now ns name with ⟨-, hn⟩ | ⟨d, hd', -⟩
      · exact hn
      · rw [hd] at hd'
        cases hd'
    · next d hd =>
      have hs : s.stored (getKey ns name) = (codec.unmarshal d).toOption := by
        rcases s.fsm_get now ns name with ⟨⟨err, hd'⟩, -⟩ | ⟨d', hd', hs⟩
        · rw [hd] at hd'
          cases hd'
        · rw [hd] at hd'
          cases hd'
          exact hs
      split
      · next err hu =>
        rw [hu] at hs
        exact ⟨rfl, .inl ⟨.inr (.inr hs), rfl, _, rfl⟩⟩
      · next secret hu =>
        rw [hu] at hs
        exact ⟨rfl, .inr ⟨he.1, he.2, secret, hs, rfl, fun key => lookup_insert_if _ _ _ _⟩⟩

lemma stored_of_raftStore {t : RaftSecretStore codec} (h : t.raftStore = s.raftStore) : t.stored = s.stored := by
  funext key
  rw [stored, stored, h]

@[simp] lemma get_stored (ns name : String) :
    (s.get now ns name).1.stored = s.stored := stored_of_raftStore (s.get_spec now ns name).1

@[simp] lemma get_current (ns name : String) : (s.get now ns name).1.current = s.current := by
  funext key
  rcases (s.get_spec now ns name).2 with ⟨-, hs, -⟩ | ⟨-, -, secret, hc, -, hl⟩
  · rw [hs]
  · rw [current, get_stored, hl]
    split_ifs with hk
    · rw [hk, hc, Option.some_or]
    · rfl

lemma get_eq_ok {now : Time} :
    (s.get now ns name).2 = .ok secret ↔ ns ≠ "" ∧ name ≠ "" ∧ s.current (getKey ns name) = some secret := by
  rcases (s.get_spec now ns name).2 with ⟨hn, -, err, he⟩ | ⟨hns, hname, o, hc, ho, -⟩
  · rw [he]
    constructor
    · intro h
      cases h
    · rintro ⟨hns, hname, hc⟩
      rcases hn with hn | hn | hn
      · exact absurd hn hns
      · exact absurd hn hname
      · rw [hn] at hc
        cases hc
  · rw [ho, hc]
    simp [hns, hname]

@[simp] lemma mutate_stored (secret : Secret) : (s.mutate secret).stored = s.stored := rfl

@[simp] lemma mutate_cache (secret : Secret) (key : String) :
    (s.mutate secret).cache.lookup key = if key = secret.key then some secret else s.cache.lookup key :=
  lookup_insert_if _ _ _ _

@[simp] lemma mutate_current (secret : Secret) (key : String) :
    (s.mutate secret).current key = if key = secret.key then some secret else s.current key := by
  rw [current, mutate_cache, mutate_stored]
  split_ifs <;> rfl

lemma save_cases (env : RaftEnv) (secret : Secret) : ((s.save env secret).2 = none ∧
      (∀ key, (s.save env secret).1.cache.lookup key = if key = secret.key then some secret else s.cache.lookup key) ∧
      ∀ key, (s.save env secret).1.stored key = if key = secret.key then some secret else s.stored key) ∨
    (∃ err, (s.save env secret).2 = some err) ∧ (s.save env secret).1.cache = s.cache ∧
      ((s.save env secret).1.stored = s.stored ∨
        ∀ key, (s.save env secret).1.stored key = if key = secret.key then some secret else s.stored key) := by
  rw [save]
  split
  · exact .inr ⟨⟨_, rfl⟩, rfl, .inl rfl⟩
  · next d hm =>
    have hw : ∀ ca ua,
        (s.raftStore.set env secret.key d).1.fsm.data =
          s.raftStore.fsm.data.insert secret.key ⟨d, 0, ca, ua⟩ →
        ∀ key, (((s.raftStore.set env secret.key d).1.fsm.data.lookup key).bind fun e =>
          (codec.unmarshal e.value).toOption) = if key = secret.key then some secret else s.stored key := by
      intro ca ua hd key
      rw [hd, lookup_insert_if]
      split_ifs
      · rw [Option.bind_some, codec.unmarshal_marshal hm]
        rfl
      · rfl
    rcases (s.raftStore.set_cases env secret.key d).2 with ⟨hs, err, he⟩ | ⟨ca, ua, hd⟩
    · rw [he]
      refine .inr ⟨⟨_, rfl⟩, rfl, .inl ?_⟩
      funext key
      rw [stored, hs]
      rfl
    · cases he : (s.raftStore.set env secret.key d).2 with
      | none => exact .inl ⟨rfl, fun key => lookup_insert_if _ _ _ _, hw ca ua hd⟩
      | some err => exact .inr ⟨⟨_, rfl⟩, rfl, .inr (hw ca ua hd)⟩

end RaftSecretStore

end Cloudless.Secrets
