import Cloudless.Secrets.Isolation

/-! What reads and listings return after writes, rotations and restarts, against a ledger of the successful writes. -/

namespace Cloudless.Secrets

open Foundations FiniteMaps GoStd MapLoops Runs Raft RaftSecretStore

abbrev Ledger := String → Option (FMap String Bytes)

def Shows (gcm : GCM) (key : Key) : Option (FMap String Bytes) → Option Secret → Prop
  | some data, some secret => secret.deletedAt = none ∧ secret.Plain gcm key data
  | some _, none => False
  | none, some secret => secret.deletedAt ≠ none
  | none, none => True

variable {e : Option (FMap String Bytes)} {gcm : GCM} {key : Key}

lemma shows_of_live {s : Secret} (h : Shows gcm key e (some s)) (hd : s.deletedAt = none) :
    ∃ data, e = some data ∧ s.Plain gcm key data := by
  cases e with
  | none => exact absurd hd h
  | some data => exact ⟨data, rfl, h.2⟩

lemma exists_of_shows {data : FMap String Bytes} {r : Option Secret} (h : Shows gcm key (some data) r) :
    ∃ s, r = some s ∧ s.deletedAt = none ∧ s.Plain gcm key data := by
  cases r with
  | none => exact h.elim
  | some s => exact ⟨s, rfl, h⟩

lemma Shows.of_none {record : Option Secret} (h : Shows gcm key none record) {key' : Key} :
    Shows gcm key' none record := by
  cases record <;> exact h

variable {env : RaftEnv}

lemma save_of_ok {V : Type} {codec : Codec Secret V} {s : RaftSecretStore codec} {se : Secret}
    (h : (s.save env se).2 = none) (key : String) :
    (s.save env se).1.stored key = (if key = se.key then some se else s.stored key) ∧
    (s.save env se).1.current key = if key = se.key then some se else s.current key := by
  rcases s.save_cases env se with ⟨-, hc, hs⟩ | ⟨⟨err, he⟩, -⟩
  · refine ⟨hs key, ?_⟩
    rw [current, hc, hs, current]
    split_ifs <;> rfl
  · rw [h] at he
    cases he

namespace Manager

variable {V : Type} {codec : Codec Secret V} {gcm : GCM} {jwt : Signer}

/-- The records that are replicated and the ones that are read agree with each other and with the ledger. -/
structure Agrees (gcm : GCM) (m : Manager codec) (ledger : Ledger) : Prop where
  coherent : ∀ ns name, m.store.current (getKey ns name) = m.store.stored (getKey ns name)
  shows : ∀ ns name, Shows gcm m.masterKey.key (ledger (getKey ns name)) (m.store.stored (getKey ns name))

def Untraced (m m' : Manager codec) : Prop :=
  m'.store.stored = m.store.stored ∧ m'.store.current = m.store.current

variable {ledger : Ledger} {m' : Manager codec} {call : Call} {m : Manager codec}

lemma Agrees.of_untraced (h : m.Agrees gcm ledger) (hu : m.Untraced m')
    (hk : m'.masterKey.key = m.masterKey.key) : m'.Agrees gcm ledger := by
  refine ⟨?_, ?_⟩
  · intro ns name
    rw [hu.1, hu.2]
    exact h.coherent ns name
  · intro ns name
    rw [hu.1, hk]
    exact h.shows ns name

variable {ns name : String}

lemma untraced_of_get {now : Time} (h : m'.store = m.store ∨ m'.store = (m.store.get now ns name).1) :
    m.Untraced m' := by
  rcases h with hs | hs
  · rw [Untraced, hs]
    exact ⟨rfl, rfl⟩
  · rw [Untraced, hs, get_stored, get_current]
    exact ⟨rfl, rfl⟩

lemma Agrees.write (h : m.Agrees gcm ledger) {b : RaftSecretStore codec}
    {s : Secret} (hw : m.Written m' env b s none) (hs : b.stored = m.store.stored)
    (hc : ∀ key, key ≠ s.key → b.current key = m.store.current key) (he : Shows gcm m.masterKey.key e (some s)) :
    m'.Agrees gcm (Function.update ledger s.key e) := by
  have hst := fun key => (save_of_ok hw.answer key).1
  have hcu := fun key => (save_of_ok hw.answer key).2
  rw [← hw.store] at hst hcu
  refine ⟨?_, ?_⟩
  · intro ns name
    rw [hst, hcu]
    split_ifs with hk
    · rfl
    · rw [hs, hc _ hk]
      exact h.coherent ns name
  · intro ns name
    rw [hst, hw.masterKey]
    by_cases hk : getKey ns name = s.key
    · rwa [hk, Function.update_self, if_pos rfl]
    · rw [Function.update_of_ne hk, if_neg hk, hs]
      exact h.shows ns name

def AllCached (m : Manager codec) : Prop :=
  ∀ ns name secret, m.store.current (getKey ns name) = some secret → secret.deletedAt = none →
    (m.store.cache.lookup (getKey ns name)).isSome

section Rotation

variable {m : Manager codec} {ledger : Ledger} {rotation : KeyRotation} {new : String × Key} {ns name : String}

def RotatedTo (gcm : GCM) (m : Manager codec) (rotation : KeyRotation) (masterKey : Key) (ledger : Ledger) (key : String) :
    Prop :=
  (m.rotateMasterKey gcm rotation).1.store.current key = (m.rotateMasterKey gcm rotation).1.store.stored key ∧
    Shows gcm masterKey (ledger key) ((m.rotateMasterKey gcm rotation).1.store.stored key)

lemma Agrees.rotate_uncached (h : m.Agrees gcm ledger) (hall : m.AllCached) (hn : rotation.newKey = .ok new)
    (hc : m.store.cache.lookup (getKey ns name) = none) : RotatedTo gcm m rotation new.2 ledger (getKey ns name) := by
  have hsh := h.shows ns name
  have hco := h.coherent ns name
  have ha := m.rotateMasterKey_current gcm hn (getKey ns name)
  rw [hc] at ha
  rw [RotatedTo, ha, (m.rotateMasterKey_store gcm hn).2.1 _ hc]
  refine ⟨hco, ?_⟩
  cases hl : ledger (getKey ns name) with
  | none =>
    rw [hl] at hsh
    exact hsh.of_none
  | some data =>
    rw [hl] at hsh
    obtain ⟨s, hs, hd, -⟩ := exists_of_shows hsh
    have hca := hall ns name s (hco.trans hs) hd
    rw [hc] at hca
    cases hca

lemma Agrees.rotate_cached (h : m.Agrees gcm ledger) (hr : (m.rotateMasterKey gcm rotation).2 = none)
    (hn : rotation.newKey = .ok new) {secret : Secret} (hc : m.store.cache.lookup (getKey ns name) = some secret) :
    RotatedTo gcm m rotation new.2 ledger (getKey ns name) := by
  have hsh := h.shows ns name
  have ha := m.rotateMasterKey_current gcm hn (getKey ns name)
  have hs : m.store.stored (getKey ns name) = some secret := by
    rw [← h.coherent, current, hc, Option.some_or]
  rw [hc] at ha
  dsimp only at ha
  rw [hs] at hsh
  rw [RotatedTo]
  by_cases hd : secret.deletedAt = none
  · obtain ⟨hv, hsto⟩ := ((m.rotateMasterKey_key gcm hn).1 hr).2 _ secret hc hd
    obtain ⟨data, hl, hp⟩ := shows_of_live hsh hd
    rw [ha, hsto, hl]
    exact ⟨rfl, (rotatedSecret_metadata ..).2.2.2.2.trans hd, rotatedSecret_plain hd hv hp⟩
  · -- a deleted secret is passed over
    have hsame : rotatedSecret gcm (m.retiredKey rotation) (freshKey rotation new.1 new.2) rotation
        (rotation.clock 2) secret = secret := by
      rw [rotatedSecret, if_pos (Option.isSome_iff_ne_none.mpr hd)]
    have hsto : (m.rotateMasterKey gcm rotation).1.store.stored (getKey ns name) = some secret := by
      rcases (m.rotateMasterKey_store gcm hn).2.2 _ secret hc with hst | hst
      · rw [hst, hs]
      · rw [hst, hsame]
    rw [ha, hsto, hsame]
    refine ⟨rfl, ?_⟩
    cases hl : ledger (getKey ns name) with
    | none => exact hd
    | some data =>
      rw [hl] at hsh
      exact absurd hsh.1 hd

lemma Agrees.rotate (h : m.Agrees gcm ledger) (hr : (m.rotateMasterKey gcm rotation).2 = none) (ha : m.AllCached) :
    (m.rotateMasterKey gcm rotation).1.Agrees gcm ledger := by
  cases hn : rotation.newKey with
  | error err =>
    rw [rotateMasterKey, hn] at hr
    cases hr
  | ok new =>
    have hk := ((m.rotateMasterKey_key gcm hn).1 hr).1
    have ho : ∀ ns name, RotatedTo gcm m rotation new.2 ledger (getKey ns name) := by
      intro ns name
      cases hc : m.store.cache.lookup (getKey ns name) with
      | none => exact h.rotate_uncached ha hn hc
      | some s => exact h.rotate_cached hr hn hc
    exact ⟨fun ns name => (ho ns name).1, fun ns name => hk ▸ (ho ns name).2⟩

end Rotation

def record (gcm : GCM) (m : Manager codec) (ledger : Ledger) : Op → Ledger
  | .create call ns name data opts =>
    match (m.createSecret gcm call ns name data opts).2 with
    | .ok _ => Function.update ledger (getKey ns name) (some data)
    | .error _ => ledger
  | .update call ns name data =>
    match (m.updateSecret gcm call ns name data).2 with
    | .ok _ => Function.update ledger (getKey ns name) (some data)
    | .error _ => ledger
  | .delete call ns name =>
    match (m.deleteSecret call ns name).2 with
    | none => Function.update ledger (getKey ns name) none
    | some _ => ledger
  | _ => ledger

def recordedStep (gcm : GCM) (jwt : Signer) (s : Manager codec × Ledger) (op : Op) : Manager codec × Ledger :=
  (step gcm jwt s.1 op, record gcm s.1 s.2 op)

/-- A call that fails leaves no trace, a rotation runs while every live secret is in the cache, and a restart while the
configured master key is the current one. -/
def Durable (gcm : GCM) (m : Manager codec) : Op → Prop
  | .create call ns name data opts =>
    ∀ err, (m.createSecret gcm call ns name data opts).2 = .error err →
      m.Untraced (m.createSecret gcm call ns name data opts).1
  | .update call ns name data =>
    ∀ err, (m.updateSecret gcm call ns name data).2 = .error err → m.Untraced (m.updateSecret gcm call ns name data).1
  | .delete call ns name =>
    ∀ err, (m.deleteSecret call ns name).2 = some err → m.Untraced (m.deleteSecret call ns name).1
  | .rotate rotation => ((m.rotateMasterKey gcm rotation).2 = none → m.AllCached) ∧
    ((m.rotateMasterKey gcm rotation).2 ≠ none → m.Untraced (m.rotateMasterKey gcm rotation).1)
  | .restart _ => m.masterKey.key = m.config.masterKey
  | _ => True

variable {m : Manager codec} {d : FMap String Bytes}

lemma createSecret_agrees (h : m.Agrees gcm ledger) {o : List SecretOption}
    (hd : m.Durable gcm (.create call ns name d o)) : (m.createSecret gcm call ns name d o).1.Agrees gcm
      (record gcm m ledger (.create call ns name d o)) := by
  rw [record]
  rcases createSecret_cases (Prod.mk.eta (p := m.createSecret gcm call ns name d o)).symm with
    ⟨hr, err, he⟩ | ⟨envelopes, err, -, -, henc, -, -, hw, ⟨ho, rfl⟩ | ⟨⟨text, he⟩, -⟩⟩
  · rw [he]
    exact h.of_untraced (untraced_of_get hr.2.2.2) (by rw [hr.2.1])
  · obtain ⟨hns, hname, hdata, hl⟩ := newSecret_frame call ns name m.masterKey o envelopes
    have hk : (newSecret call ns name m.masterKey o envelopes).key = getKey ns name := by
      rw [Secret.key, hns, hname]
    rw [ho, ← hk]
    apply h.write hw
    · rw [get_stored]
    · intro key _
      rw [get_current]
    · exact ⟨hl, plain_of_encryptValues henc hdata rfl⟩
  · rw [he]
    exact h.of_untraced (hd text he) (by rw [hw.masterKey])

lemma updateSecret_agrees (h : m.Agrees gcm ledger) (hd : m.Durable gcm (.update call ns name d)) :
    (m.updateSecret gcm call ns name d).1.Agrees gcm (record gcm m ledger (.update call ns name d)) := by
  rw [record]
  rcases updateSecret_cases (Prod.mk.eta (p := m.updateSecret gcm call ns name d)).symm with
    ⟨hr, err, he⟩ | ⟨old, envelopes, -, -, ho, -, hl, henc,
      ⟨-, -, ⟨text, he⟩, -, hk, -⟩ | ⟨err, hw, ⟨hok, rfl, -⟩ | ⟨⟨text, he⟩, -⟩⟩⟩
  · rw [he]
    exact h.of_untraced (untraced_of_get hr.2.2.2) (by rw [hr.2.1])
  · rw [he]
    exact h.of_untraced (hd text he) (by rw [hk])
  · have hk : old.key = getKey ns name := current_key ho
    rw [hok, ← hk]
    apply h.write hw
    · rw [mutate_stored, get_stored]
    · intro key hne
      rw [mutate_current, if_neg hne, get_current]
    · exact ⟨hl, plain_of_encryptValues henc rfl rfl⟩
  · rw [he]
    exact h.of_untraced (hd text he) (by rw [hw.masterKey])

lemma deleteSecret_agrees (h : m.Agrees gcm ledger) (hd : m.Durable gcm (.delete call ns name)) :
    (m.deleteSecret call ns name).1.Agrees gcm (record gcm m ledger (.delete call ns name)) := by
  rw [record]
  rcases deleteSecret_cases (Prod.mk.eta (p := m.deleteSecret call ns name)).symm with
    ⟨hr, ⟨err, he⟩, -⟩ | ⟨old, err, -, -, ho, -, hw, ⟨hok, rfl⟩ | ⟨⟨text, he⟩, -⟩⟩
  · rw [he]
    exact h.of_untraced (untraced_of_get hr.2.2.2) (by rw [hr.2.1])
  · have hk : old.key = getKey ns name := current_key ho
    rw [hok, ← hk]
    apply h.write hw
    · rw [mutate_stored, get_stored]
    · intro key hne
      rw [mutate_current, if_neg hne, get_current]
    · exact Option.some_ne_none _
  · rw [he]
    exact h.of_untraced (hd text he) (by rw [hw.masterKey])

lemma step_agrees {s : Manager codec × Ledger} {op : Op} (h : s.1.Agrees gcm s.2) (hd : s.1.Durable gcm op) :
    (recordedStep gcm jwt s op).1.Agrees gcm (recordedStep gcm jwt s op).2 := by
  cases op with
  | create call ns name data opts => exact createSecret_agrees h hd
  | update call ns name data => exact updateSecret_agrees h hd
  | delete call ns name => exact deleteSecret_agrees h hd
  | rotate rotation =>
    by_cases hr : (s.1.rotateMasterKey gcm rotation).2 = none
    · exact h.rotate hr (hd.1 hr)
    · refine h.of_untraced (hd.2 hr) ?_
      cases hn : rotation.newKey with
      | error err =>
        have hsame : (s.1.rotateMasterKey gcm rotation).1 = s.1 := by rw [rotateMasterKey, hn]
        exact congrArg (fun m => m.masterKey.key) hsame
      | ok new => exact (s.1.rotateMasterKey_key gcm hn).2 hr
  | get clock order req =>
    obtain ⟨-, hs, hk⟩ := s.1.getSecret_state jwt clock order req
    exact h.of_untraced (untraced_of_get hs) (congrArg MasterKey.key hk)
  | issue uuid clock ns name audience ttl maxUses =>
    obtain ⟨⟨hk, -, hs⟩, -⟩ := generateAccessToken_cases
      (Prod.mk.eta (p := s.1.generateAccessToken jwt uuid clock ns name audience ttl maxUses)).symm
    exact h.of_untraced (untraced_of_get (.inr hs)) (congrArg MasterKey.key hk)
  | revoke | cleanup => exact h.of_untraced ⟨rfl, rfl⟩ rfl
  | restart now =>
    refine ⟨fun ns name => rfl, ?_⟩
    intro ns name
    have hsh := h.shows ns name
    rwa [hd] at hsh

structure Serves (gcm : GCM) (m : Manager codec) (ledger : Ledger) : Prop where
  live : ∀ {ns name data}, ns ≠ "" → name ≠ "" → ledger (getKey ns name) = some data →
    ∀ {tokens : TokenManager} {jwt clock audience accessToken claims},
      (tokens.validateToken jwt clock accessToken (secretRef ns name) audience).2 = .ok claims →
      (∀ secret t, m.store.current (getKey ns name) = some secret → secret.expiresAt = some t → clock 4 ≤ t) →
      ∀ order, ∃ resp, ({ m with tokens := tokens }.getSecret gcm jwt clock order ⟨name, ns, audience, accessToken⟩).2 =
        .ok resp ∧ resp.data = data
  gone : ∀ {ns name}, ledger (getKey ns name) = none → ∀ tokens jwt clock order audience accessToken resp,
    ({ m with tokens := tokens }.getSecret gcm jwt clock order ⟨name, ns, audience, accessToken⟩).2 ≠ .ok resp

def Lists (m : Manager codec) (ledger : Ledger) : Prop :=
  ∀ order, ((m.listSecrets order {}).map fun metadata => getKey metadata.ns metadata.name).Nodup ∧
    ∀ ns name, getKey ns name ∈ (m.listSecrets order {}).map (fun metadata => getKey metadata.ns metadata.name) ↔
      (ledger (getKey ns name)).isSome

lemma Agrees.serves (h : m.Agrees gcm ledger) : m.Serves gcm ledger := by
  refine ⟨?_, ?_⟩
  · intro ns name data hns hname hl tokens jwt clock audience accessToken claims hv he order
    have hsh := h.shows ns name
    rw [hl] at hsh
    obtain ⟨secret, hs, hd, hp⟩ := exists_of_shows hsh
    have hc : m.store.current (getKey ns name) = some secret := (h.coherent ns name).trans hs
    refine ⟨⟨secret.name, secret.ns, data, secret.version, secret.expiresAt⟩, getSecret_eq_ok.mpr ⟨⟨claims, hv⟩, ?_⟩, rfl⟩
    exact ⟨hns, hname, secret, data, hc, hd, fun t ht => he secret t hc ht, hp, rfl⟩
  · intro ns name hl tokens jwt clock order audience accessToken resp hok
    obtain ⟨-, -, -, secret, plain, hc, hd, -⟩ := getSecret_eq_ok.mp hok
    have hc : m.store.current (getKey ns name) = some secret := hc
    have hsh := h.shows ns name
    rw [hl, ← h.coherent, hc] at hsh
    exact hsh hd

lemma mem_listSecrets {or : MapOrder} : getKey ns name ∈ (m.listSecrets or {}).map (fun me => getKey me.ns me.name) ↔
      ∃ s, m.store.cache.lookup (getKey ns name) = some s ∧ s.deletedAt = none := by
  rw [listSecrets, list_all, List.map_map, List.mem_map]
  constructor
  · rintro ⟨s, hm, hk⟩
    rw [List.mem_filter, List.mem_map] at hm
    obtain ⟨⟨⟨key, o⟩, he, rfl⟩, hd⟩ := hm
    rw [(or.enumerates _).mem] at he
    have hkey : o.key = key := m.store.cached he
    have hk : o.key = getKey ns name := hk
    rw [← hk, hkey]
    exact ⟨o, he, by simpa using hd⟩
  · rintro ⟨s, hl, hd⟩
    refine ⟨s, ?_, m.store.cached hl⟩
    rw [List.mem_filter, List.mem_map]
    exact ⟨⟨(getKey ns name, s), (or.enumerates _).mem.mpr hl, rfl⟩, by simp [hd]⟩

lemma nodup_listSecrets (m : Manager codec) (o : MapOrder) :
    ((m.listSecrets o {}).map fun me => getKey me.ns me.name).Nodup := by
  rw [listSecrets, List.map_map]
  exact (nodup_list_keys m.store o).sublist (List.filter_sublist.map Secret.key)

lemma Agrees.lists_iff (h : m.Agrees gcm ledger) : m.Lists ledger ↔ m.AllCached := by
  constructor
  · intro hli ns name secret hc hd
    have hsh := h.shows ns name
    rw [← h.coherent, hc] at hsh
    obtain ⟨data, hl, -⟩ := shows_of_live hsh hd
    obtain ⟨cached, hca, -⟩ := mem_listSecrets.mp (((hli sortedOrder).2 ns name).mpr (by rw [hl]; rfl))
    rw [hca]
    rfl
  · intro ha order
    refine ⟨m.nodup_listSecrets order, ?_⟩
    intro ns name
    have hsh := h.shows ns name
    rw [mem_listSecrets]
    constructor
    · rintro ⟨secret, hca, hd⟩
      rw [← h.coherent, current, hca, Option.some_or] at hsh
      obtain ⟨data, hl, -⟩ := shows_of_live hsh hd
      rw [hl]
      rfl
    · intro hl
      obtain ⟨data, hl⟩ := Option.isSome_iff_exists.mp hl
      rw [hl] at hsh
      obtain ⟨secret, hs, hd, -⟩ := exists_of_shows hsh
      have hc : m.store.current (getKey ns name) = some secret := (h.coherent ns name).trans hs
      obtain ⟨cached, hca⟩ := Option.isSome_iff_exists.mp (ha ns name secret hc hd)
      rw [current, hca, Option.some_or] at hc
      cases hc
      exact ⟨_, hca, hd⟩

lemma Blank.agrees (h : m.Blank) : m.Agrees gcm fun _ => none := by
  have hst : ∀ ns name, m.store.stored (getKey ns name) = none := fun ns name =>
    Option.eq_none_iff_forall_ne_some.mpr fun s hs => h ns name s (.inr hs)
  have hcu : ∀ ns name, m.store.current (getKey ns name) = none := fun ns name =>
    Option.eq_none_iff_forall_ne_some.mpr fun s hs => h ns name s (copy_of_current hs)
  refine ⟨fun ns name => ?_, fun ns name => ?_⟩
  · rw [hst, hcu]
  · rw [hst]
    trivial

theorem secrets_survive_restarts {m : Manager codec} (hb : m.Blank) (ops : List Op)
    (hops : Admissible (recordedStep gcm jwt) (fun s op => s.1.Durable gcm op) (m, fun _ => none) ops) :
    (run (recordedStep gcm jwt) (m, fun _ => none) ops).1.Serves gcm
      (run (recordedStep gcm jwt) (m, fun _ => none) ops).2 ∧
    ((run (recordedStep gcm jwt) (m, fun _ => none) ops).1.Lists
        (run (recordedStep gcm jwt) (m, fun _ => none) ops).2 ↔
      (run (recordedStep gcm jwt) (m, fun _ => none) ops).1.AllCached) := by
  have ha := run_invariant (fun s : Manager codec × Ledger => s.1.Agrees gcm s.2) (fun s op h hd => step_agrees h hd)
    ops hb.agrees hops
  exact ⟨ha.serves, ha.lists_iff⟩

def restartedRun : List Op := [createDb, .restart 0]

def savedRotation : KeyRotation := { unsavedRotation with raft := fun _ => ⟨.committed, fun _ => 0⟩ }

theorem restarted_run_durable : freshManager.Blank ∧
    Admissible (recordedStep plainGCM (singleSigner readerClaims)) (fun s op => s.1.Durable plainGCM op)
      (freshManager, fun _ => none) restartedRun ∧
    (run (recordedStep plainGCM (singleSigner readerClaims)) (freshManager, fun _ => none) restartedRun).1.Serves plainGCM
      (run (recordedStep plainGCM (singleSigner readerClaims)) (freshManager, fun _ => none) restartedRun).2 ∧
    ((run (recordedStep plainGCM (singleSigner readerClaims)) (freshManager, fun _ => none) restartedRun).1.Lists
        (run (recordedStep plainGCM (singleSigner readerClaims)) (freshManager, fun _ => none) restartedRun).2 ↔
      (run (recordedStep plainGCM (singleSigner readerClaims)) (freshManager, fun _ => none) restartedRun).1.AllCached) := by
  have ho : Admissible (recordedStep plainGCM (singleSigner readerClaims)) (fun s op => s.1.Durable plainGCM op)
      (freshManager, fun _ => none) restartedRun := by
    refine ⟨?_, ?_, trivial⟩
    · intro err he
      have hok : (freshManager.createSecret plainGCM steadyCall "default" "db" passwordData []).2.isOk = true := by
        decide +kernel
      rw [he] at hok
      cases hok
    · have hk : guardedManager.masterKey.key = guardedManager.config.masterKey := by decide +kernel
      exact hk
  exact ⟨blank_freshManager, ho, secrets_survive_restarts blank_freshManager restartedRun ho⟩

theorem restart_loses_secret :
    (run (recordedStep plainGCM (singleSigner readerClaims)) (freshManager, fun _ => none) restartedRun).2
      (getKey "default" "db") = some passwordData ∧
    (run (recordedStep plainGCM (singleSigner readerClaims)) (freshManager, fun _ => none)
      restartedRun).1.listSecrets sortedOrder {} = [] ∧
    (guardedManager.rotateMasterKey plainGCM savedRotation).2 = none ∧
    (run (recordedStep plainGCM (singleSigner readerClaims)) (freshManager, fun _ => none)
      [createDb, .rotate savedRotation, .restart 0]).2 (getKey "default" "db") = some passwordData ∧
    ({ (run (recordedStep plainGCM (singleSigner readerClaims)) (freshManager, fun _ => none)
        [createDb, .rotate savedRotation, .restart 0]).1 with tokens := readerTokens }.getSecret plainGCM
      (singleSigner readerClaims) (fun _ => 0) sortedOrder readerRequest).2 =
        .error ("failed to decrypt secret value for key password: failed to decrypt data key: " ++
          "decryption failed: cipher: message authentication failed") := by
  decide +kernel

end Manager

end Cloudless.Secrets
