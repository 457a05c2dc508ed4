import Cloudless.Secrets.Manager

namespace Cloudless.Secrets

open Foundations FiniteMaps GoStd MapLoops

variable {es : FMap String Envelope} {annotations : FMap String String} {o : MapOrder}

section Annotations

lemma edk_ne_nonce {j k : String} : "edk." ++ j ≠ "nonce." ++ k := by
  intro h
  have hh := congrArg (fun s : String => s.toList.head?) h
  simp [String.toList_append] at hh

lemma nonce_ne_legacy {k : String} : "nonce." ++ k ≠ "nonce" := by
  intro h
  have hh := congrArg (fun s : String => s.toList.length) h
  simp [String.toList_append] at hh

lemma edk_ne_legacy (k : String) : "edk." ++ k ≠ "nonce" := by
  intro h
  have hh := congrArg (fun s : String => s.toList.head?) h
  simp [String.toList_append] at hh

def metadataOf (annotations : FMap String String) (key : String) : Option String × Option String :=
  (annotations.lookup ("nonce." ++ key), annotations.lookup ("edk." ++ key))

def Envelope.metadata (envelope : Envelope) : Option String × Option String :=
  (some (Hex.encodeToString envelope.nonce), some (Hex.encodeToString envelope.encryptedDataKey))

variable (annotations : FMap String String)

lemma metadataOf_annotate_self (key : String) (e : Envelope) :
    metadataOf (annotate annotations key e) key = e.metadata := by
  rw [metadataOf, annotate, lookup_insert_if, if_pos rfl, lookup_insert_if, if_neg edk_ne_nonce,
    lookup_insert_if, if_pos rfl, Envelope.metadata]

lemma metadataOf_annotate_of_ne {j key : String} (h : j ≠ key) (e : Envelope) :
    metadataOf (annotate annotations key e) j = metadataOf annotations j := by
  have hn : "nonce." ++ j ≠ "nonce." ++ key := (append_right_injective "nonce.").ne h
  have he : "edk." ++ j ≠ "edk." ++ key := (append_right_injective "edk.").ne h
  rw [metadataOf, annotate, lookup_insert_if, if_neg hn, lookup_insert_if, if_neg edk_ne_nonce.symm,
    lookup_insert_if, if_neg edk_ne_nonce, lookup_insert_if, if_neg he, metadataOf]

lemma legacy_annotate (key : String) (e : Envelope) :
    (annotate annotations key e).lookup "nonce" = annotations.lookup "nonce" := by
  rw [annotate, lookup_insert_if, if_neg nonce_ne_legacy.symm, lookup_insert_if, if_neg (edk_ne_legacy key).symm]

lemma metadataOf_annotateAll {key : String} : metadataOf (annotateAll o es annotations) key =
      (es.lookup key).elim (metadataOf annotations key) Envelope.metadata := by
  rw [annotateAll]
  exact foldl_read annotate metadataOf (fun _ (e : Envelope) _ => e.metadata) (o.enumerates es)
    (fun annotations key e _ => metadataOf_annotate_self annotations key e)
    (fun annotations _ e _ _ hj => metadataOf_annotate_of_ne annotations hj e) annotations key

end Annotations

variable {data : FMap String Bytes}

namespace Secret

variable {gcm : GCM} {key : String}

lemma envelope_congr {secret secret' : Secret}
    (hm : metadataOf secret'.annotations key = metadataOf secret.annotations key)
    (hl : secret'.annotations.lookup "nonce" = secret.annotations.lookup "nonce")
    (hk : secret'.encryptedDataKey = secret.encryptedDataKey) (value : Bytes) :
    secret'.envelope key value = secret.envelope key value := by
  obtain ⟨hn, he⟩ := Prod.mk.inj hm
  rw [envelope, envelope, hn, he, hl, hk]

variable {secret : Secret}

lemma envelope_of_metadata {e : Envelope} (hm : metadataOf secret.annotations key = e.metadata) (hn : e.nonce ≠ [])
    (he : e.encryptedDataKey ≠ []) (v : Bytes) : secret.envelope key v = .ok { e with encryptedData := v } := by
  obtain ⟨hno, hedk⟩ := Prod.mk.inj hm
  have hn' : Hex.encodeToString e.nonce ≠ "" := Hex.encodeToString_eq_empty.not.mpr hn
  have he' : Hex.encodeToString e.encryptedDataKey ≠ "" := Hex.encodeToString_eq_empty.not.mpr he
  rw [Secret.envelope, hno, hedk]
  simp only [Option.getD_some, ne_eq, hn', he', not_false_eq_true, and_self, if_true, Hex.decodeString_encodeToString]
  rfl

structure Plain (gcm : GCM) (secret : Secret) (key : Key) (plain : FMap String Bytes) : Prop where
  opens : ∀ {k value}, secret.data.lookup k = some value →
    ∃ p envelope, plain.lookup k = some p ∧ secret.envelope k value = .ok envelope ∧ envelope.Holds gcm key p
  absent : ∀ {k}, secret.data.lookup k = none → plain.lookup k = none

variable {key : Key}

lemma Plain.unique {plain plain' : FMap String Bytes}
    (h : secret.Plain gcm key plain) (h' : secret.Plain gcm key plain') : plain = plain' := by
  apply Finmap.ext_lookup
  intro k
  cases hv : secret.data.lookup k with
  | none => rw [h.absent hv, h'.absent hv]
  | some value =>
    obtain ⟨p, envelope, hp, he, hh⟩ := h.opens hv
    obtain ⟨p', envelope', hp', he', hh'⟩ := h'.opens hv
    rw [he] at he'
    cases he'
    rw [hp, hp', hh.plaintext_unique hh']

lemma Plain.key_unique {key key' : Key} {plain pl' : FMap String Bytes}
    (h : secret.Plain gcm key plain) (h' : secret.Plain gcm key' pl') (hne : key ≠ key') : plain = ∅ := by
  apply Finmap.ext_lookup
  intro k
  cases hv : secret.data.lookup k with
  | none => rw [h.absent hv, Finmap.lookup_empty]
  | some v =>
    obtain ⟨p, e, -, he, hh⟩ := h.opens hv
    obtain ⟨p', e', -, he', hh'⟩ := h'.opens hv
    rw [he] at he'
    cases he'
    exact absurd (hh.key_unique hh' rfl) hne

lemma Plain.of_empty (h : secret.Plain gcm key ∅) (key' : Key) : secret.Plain gcm key' ∅ := by
  refine ⟨?_, fun _ => Finmap.lookup_empty _⟩
  intro k v hv
  obtain ⟨p, e, hp, -⟩ := h.opens hv
  rw [Finmap.lookup_empty] at hp
  cases hp

variable {masterKey : MasterKey}

lemma decryptValue_eq_ok {key : String} {v p : Bytes} : decryptValue gcm masterKey secret key v = .ok p ↔
      ∃ e, secret.envelope key v = .ok e ∧ e.Holds gcm masterKey.key p := by
  rw [decryptValue, except_bind_eq_ok]
  simp only [wrapError_eq_ok, decrypt_eq_ok]

variable {plain : FMap String Bytes}

lemma decryptSecret_plain
    (h : decryptSecret gcm masterKey o secret = .ok plain) : secret.Plain gcm masterKey.key plain := by
  obtain ⟨hin, ho⟩ := forEntries_read (fun (plain : FMap String Bytes) key => plain.lookup key)
    (fun key v _ a => ∃ p, a = some p ∧ decryptValue gcm masterKey secret key v = .ok p) (by
      intro acc key v acc' _ hb
      cases hd : decryptValue gcm masterKey secret key v with
      | error err =>
        rw [hd] at hb
        cases hb
      | ok p =>
        rw [hd] at hb
        cases hb
        refine ⟨⟨p, ?_, rfl⟩, ?_⟩
        · exact Finmap.lookup_insert _
        · intro j hj
          exact Finmap.lookup_insert_of_ne _ hj) (o.enumerates secret.data).1 h
  constructor
  · intro k v hv
    obtain ⟨p, hp, hd⟩ := hin k v ((o.enumerates _).mem.mpr hv)
    obtain ⟨e, he, hh⟩ := decryptValue_eq_ok.mp hd
    exact ⟨p, e, hp, he, hh⟩
  · intro k hv
    rw [ho k]
    · rfl
    · intro v hm
      rw [(o.enumerates _).mem, hv] at hm
      cases hm

lemma decryptSecret_eq_ok {order : MapOrder} :
    decryptSecret gcm masterKey order secret = .ok plain ↔ secret.Plain gcm masterKey.key plain := by
  refine ⟨decryptSecret_plain, ?_⟩
  intro h
  obtain ⟨plain', hd⟩ : ∃ plain', decryptSecret gcm masterKey order secret = .ok plain' := by
    apply forEntries_isOk
    intro acc key value hm
    obtain ⟨p, envelope, -, he, hh⟩ := h.opens ((order.enumerates _).mem.mp hm)
    rw [decryptValue_eq_ok.mpr ⟨envelope, he, hh⟩]
    exact ⟨_, rfl⟩
  rw [hd, h.unique (decryptSecret_plain hd)]

lemma Plain.isSome_eq (h : secret.Plain gcm key plain)
    (k : String) : (secret.data.lookup k).isSome = (plain.lookup k).isSome := by
  cases hv : secret.data.lookup k with
  | none => rw [h.absent hv]
  | some v =>
    obtain ⟨p, e, hp, -⟩ := h.opens hv
    rw [hp]
    rfl

lemma Plain.of_envelopes (hd : secret.data = encryptedData es)
    (hm : ∀ k e, es.lookup k = some e → metadataOf secret.annotations k = e.metadata)
    (he : ∀ k, Option.Rel (fun v (e : Envelope) => e.Holds gcm key v) (data.lookup k)
      (es.lookup k)) : secret.Plain gcm key data := by
  have hlo : ∀ k, secret.data.lookup k = (es.lookup k).map Envelope.encryptedData := by
    intro k
    rw [hd, encryptedData, lookup_filterMap]
    cases es.lookup k <;> rfl
  constructor
  · intro k v hv
    rw [hlo, Option.map_eq_some_iff] at hv
    obtain ⟨e, hl, rfl⟩ := hv
    have hk := he k
    rw [hl] at hk
    generalize hp : data.lookup k = p at hk
    cases hk with
    | some hh =>
      refine ⟨_, e, rfl, ?_, hh⟩
      exact envelope_of_metadata (hm k e hl) hh.nonce_ne_nil hh.encryptedDataKey_ne_nil _
  · intro k hv
    rw [hlo, Option.map_eq_none_iff] at hv
    have hk := he k
    rw [hv] at hk
    generalize data.lookup k = p at hk
    cases hk
    rfl

end Secret

variable {en : String → Entropy} {masterKey : MasterKey}

lemma encryptValues_spec {gcm : GCM} {d : FMap String Bytes}
    (h : encryptValues gcm masterKey o en d = .ok es) (k : String) :
    Option.Rel (fun v (e : Envelope) => e.Holds gcm masterKey.key v ∧ 0 < v.length ∧
      v.length ≤ maxSecretSize) (d.lookup k) (es.lookup k) := by
  obtain ⟨hin, ho⟩ := forEntries_read (fun (es : FMap String Envelope) key => es.lookup key)
    (fun key v _ a => ∃ e, a = some e ∧
      encrypt gcm masterKey (en key) v = .ok e) (by
      intro acc key v acc' _ hb
      cases hd : encrypt gcm masterKey (en key) v with
      | error err =>
        rw [hd] at hb
        cases hb
      | ok e =>
        rw [hd] at hb
        cases hb
        refine ⟨⟨e, ?_, rfl⟩, ?_⟩
        · exact Finmap.lookup_insert _
        · intro j hj
          exact Finmap.lookup_insert_of_ne _ hj) (o.enumerates d).1 h
  cases hv : d.lookup k with
  | none =>
    have hn : es.lookup k = none := by
      rw [ho k]
      · rfl
      · intro v hm
        rw [(o.enumerates _).mem, hv] at hm
        cases hm
    rw [hn]
    exact .none
  | some v =>
    obtain ⟨e, he, henc⟩ := hin k v ((o.enumerates _).mem.mpr hv)
    obtain ⟨hpos, hmax, hh⟩ := encrypt_eq_ok henc
    rw [he]
    exact .some ⟨hh, hpos, hmax⟩

lemma plain_of_encryptValues {gcm : GCM} {secret : Secret}
    (h : encryptValues gcm masterKey o en data = .ok es) (hd : secret.data = encryptedData es)
    (ha : secret.annotations = annotateAll o es annotations) : secret.Plain gcm masterKey.key data := by
  apply Secret.Plain.of_envelopes hd
  · intro k envelope hl
    rw [ha, metadataOf_annotateAll, hl, Option.elim_some]
  · intro k
    have hk := encryptValues_spec h k
    generalize data.lookup k = p at hk
    generalize es.lookup k = e at hk
    cases hk with
    | none => exact .none
    | some hh => exact .some hh.1

namespace Manager

variable {V : Type} {codec : Codec Secret V} {gcm : GCM}

/-- What a read with a valid token returns at the instant at which the expiry of the secret is checked. -/
def Reads (gcm : GCM) (m : Manager codec) (ns name : String) (now : Time) (resp : SecretAccessResponse) : Prop :=
  ns ≠ "" ∧ name ≠ "" ∧ ∃ secret plain, m.store.current (getKey ns name) = some secret ∧ secret.deletedAt = none ∧
    (∀ expiresAt, secret.expiresAt = some expiresAt → now ≤ expiresAt) ∧ secret.Plain gcm m.masterKey.key plain ∧
    resp = ⟨secret.name, secret.ns, plain, secret.version, secret.expiresAt⟩

lemma not_expired_iff {ea : Option Time} {now : Time} : ea.any (· < now) = false ↔ ∀ t, ea = some t → now ≤ t := by
  cases ea <;> simp

lemma getSecret_eq_ok {m : Manager codec} {jwt : Signer} {clock : ℕ → Time} {order : MapOrder}
    {req : SecretAccessRequest} {resp : SecretAccessResponse} : (m.getSecret gcm jwt clock order req).2 = .ok resp ↔
      (∃ claims, (m.tokens.validateToken jwt clock req.accessToken (secretRef req.ns req.secretName) req.audience).2 =
        .ok claims) ∧ m.Reads gcm req.ns req.secretName (clock 4) resp := by
  rw [getSecret]
  split
  · next tokens err hv =>
    rw [hv]
    simp
  · next tokens claims hv =>
    rw [hv]
    simp only [Except.ok.injEq, exists_eq', true_and, readSecret]
    split
    · next store err hg =>
      constructor
      · intro h
        cases h
      · rintro ⟨hns, hname, secret, plain, hc, -⟩
        have hok : (m.store.get (clock 3) req.ns req.secretName).2 = .ok secret :=
          RaftSecretStore.get_eq_ok.mpr ⟨hns, hname, hc⟩
        rw [hg] at hok
        cases hok
    · next store secret hg =>
      have hok : (m.store.get (clock 3) req.ns req.secretName).2 = .ok secret := by rw [hg]
      obtain ⟨hns, hname, hc⟩ := RaftSecretStore.get_eq_ok.mp hok
      have hre : m.Reads gcm req.ns req.secretName (clock 4) resp ↔ secret.deletedAt = none ∧
          (∀ t, secret.expiresAt = some t → clock 4 ≤ t) ∧ ∃ plain, secret.Plain gcm m.masterKey.key plain ∧
            resp = ⟨secret.name, secret.ns, plain, secret.version, secret.expiresAt⟩ := by
        constructor
        · rintro ⟨-, -, secret', plain, hc', hr⟩
          rw [hc] at hc'
          cases hc'
          exact ⟨hr.1, hr.2.1, plain, hr.2.2⟩
        · rintro ⟨hd, he, plain, hr⟩
          exact ⟨hns, hname, secret, plain, hc, hd, he, hr⟩
      rw [hre]
      split_ifs with hd he
      · simp [Option.isSome_iff_ne_none.mp hd]
      · rw [← not_expired_iff, he]
        simp
      · rw [Bool.not_eq_true, Option.isSome_eq_false_iff, Option.isNone_iff_eq_none] at hd
        rw [Bool.not_eq_true, not_expired_iff] at he
        cases hdec : decryptSecret gcm m.masterKey order secret with
        | error err =>
          constructor
          · intro h
            cases h
          · rintro ⟨-, -, plain, hp, -⟩
            rw [Secret.decryptSecret_eq_ok.mpr hp] at hdec
            cases hdec
        | ok plain =>
          have hp := Secret.decryptSecret_plain hdec
          constructor
          · intro h
            exact ⟨hd, he, plain, hp, (Except.ok.inj h).symm⟩
          · rintro ⟨-, -, plain', hp', hresp⟩
            rw [hresp, hp'.unique hp]

lemma getSecret_state (m : Manager codec) (jwt : Signer) (c : ℕ → Time) (o : MapOrder) (req : SecretAccessRequest) :
    (m.getSecret gcm jwt c o req).1.tokens =
        (m.tokens.validateToken jwt c req.accessToken (secretRef req.ns req.secretName) req.audience).1 ∧
      ((m.getSecret gcm jwt c o req).1.store = m.store ∨
        (m.getSecret gcm jwt c o req).1.store = (m.store.get (c 3) req.ns req.secretName).1) ∧
      (m.getSecret gcm jwt c o req).1.masterKey = m.masterKey := by
  rw [getSecret]
  split
  · next ts err hv =>
    rw [hv]
    exact ⟨rfl, .inl rfl, rfl⟩
  · next ts cs hv =>
    rw [hv, readSecret]
    split
    · next s err hg =>
      rw [hg]
      exact ⟨rfl, .inr rfl, rfl⟩
    · next s secret hg =>
      rw [hg]
      split_ifs
      · exact ⟨rfl, .inr rfl, rfl⟩
      · exact ⟨rfl, .inr rfl, rfl⟩
      · dsimp only
        cases decryptSecret gcm m.masterKey o secret <;> exact ⟨rfl, .inr rfl, rfl⟩

lemma exists_token (ref audience : String) (now : Time) : ∃ (jwt : Signer) (tokens : TokenManager) (tokenString : String)
    (claims : SecretTokenClaims), (tokens.validateToken jwt (fun _ => now) tokenString ref audience).2 = .ok claims := by
  let claims : SecretTokenClaims := ⟨ref, audience, "id", now + 1, now⟩
  let token : SecretAccessToken := ⟨"id", ref, audience, now, now + 1, "token", -1, 0⟩
  refine ⟨singleSigner claims, ⟨(∅ : FMap String SecretAccessToken).insert "id" token⟩, "token", claims, ?_⟩
  have hp : (singleSigner claims).parseWithClaims now "token" = .ok claims := by
    simp [singleSigner, claims]
  have hl : ((∅ : FMap String SecretAccessToken).insert "id" token).lookup claims.tokenID = some token :=
    Finmap.lookup_insert _
  rw [TokenManager.validateToken, if_neg (by decide), hp]
  simp [claims, hl, token]

lemma getSecret_mono_iff {m m' : Manager codec} :
    (∀ ts jwt c o req resp, ({ m with tokens := ts }.getSecret gcm jwt c o req).2 = .ok resp →
      ({ m' with tokens := ts }.getSecret gcm jwt c o req).2 = .ok resp) ↔
    ∀ ns name now resp, m.Reads gcm ns name now resp → m'.Reads gcm ns name now resp := by
  constructor
  · intro h ns name now resp hr
    obtain ⟨jwt, ts, tok, cs, hv⟩ := exists_token (secretRef ns name) "" now
    let req : SecretAccessRequest := ⟨name, ns, "", tok⟩
    have ha := h ts jwt (fun _ => now) sortedOrder req resp
      (getSecret_eq_ok.mpr ⟨⟨cs, hv⟩, hr⟩)
    exact (getSecret_eq_ok.mp ha).2
  · intro h ts jwt c o req resp hr
    obtain ⟨hv, hr⟩ := getSecret_eq_ok.mp hr
    exact getSecret_eq_ok.mpr ⟨hv, h _ _ _ _ hr⟩

end Manager

end Cloudless.Secrets
