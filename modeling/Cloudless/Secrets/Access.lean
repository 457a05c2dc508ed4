import Cloudless.Secrets.Operations

/-! What must have happened before a read of a secret succeeds, along runs of calls that do not overlap. -/

namespace Cloudless.Secrets

open Foundations FiniteMaps GoStd MapLoops Runs Raft

lemma Manager.audienceAllowed_iff {audiences : List String} {audience : String} :
    audienceAllowed audiences audience = true ↔ audiences = [] ∨ audience ∈ audiences ∨ "*" ∈ audiences := by
  have ha : (∃ aud ∈ audiences, aud = audience ∨ aud = "*") ↔ audience ∈ audiences ∨ "*" ∈ audiences := by
    constructor
    · rintro ⟨aud, hm, rfl | rfl⟩
      · exact .inl hm
      · exact .inr hm
    · rintro (hm | hm)
      · exact ⟨_, hm, .inl rfl⟩
      · exact ⟨_, hm, .inr rfl⟩
  simp [audienceAllowed, ← ha]

def Op.uuid : Op → Option String
  | .issue uuid .. => some uuid
  | _ => none

structure Issue where
  uuid : String
  clock : ℕ → Time
  (ns name audience : String)
  (ttl maxUses : ℤ)

namespace Issue

def op (issue : Issue) : Op :=
  .issue issue.uuid issue.clock issue.ns issue.name issue.audience issue.ttl issue.maxUses

variable {V : Type} {codec : Codec Secret V}

def answer (jwt : Signer) (issue : Issue) (m : Manager codec) : Except String SecretAccessToken :=
  (m.generateAccessToken jwt issue.uuid issue.clock issue.ns issue.name issue.audience issue.ttl issue.maxUses).2

lemma answer_eq_ok (gcm : GCM) {jwt : Signer} {i : Issue} {m : Manager codec} {token : SecretAccessToken}
    (h : i.answer jwt m = .ok token) : (∃ s, m.store.current (getKey i.ns i.name) = some s ∧
      Manager.audienceAllowed s.audiences i.audience = true) ∧
    jwt.unmarshal token.token = .ok ⟨secretRef i.ns i.name, i.audience, i.uuid,
      jwt.numericDate token.expiresAt, jwt.numericDate token.issuedAt⟩ ∧
    (Manager.step gcm jwt m i.op).tokens.tokens.lookup i.uuid = some token ∧
    token.secretRef = secretRef i.ns i.name ∧ token.usesRemaining = i.maxUses := by
  rcases (Manager.generateAccessToken_cases (Prod.mk.eta (p := m.generateAccessToken jwt i.uuid i.clock i.ns
    i.name i.audience i.ttl i.maxUses)).symm).2 with
    ⟨⟨err, he⟩, -⟩ | ⟨s, token', ttl', -, -, hc, -, ha, ho, ht⟩
  · rw [answer, he] at h
    cases h
  · rw [answer, ho] at h
    cases h
    rcases TokenManager.generateToken_cases ht with ⟨-, err, he⟩ | ⟨ttl'', tokenString, -, -, hm, hins, hr⟩
    · cases he
    · cases hr
      refine ⟨⟨s, hc, ha⟩, jwt.unmarshal_marshal hm, ?_, rfl, rfl⟩
      rw [op, Manager.step, hins, Finmap.lookup_insert]

end Issue

namespace Manager

variable {V : Type} {codec : Codec Secret V} {gcm : GCM} {jwt : Signer}

/-- The operation neither revokes the token nor rewrites or deletes the secret it is for. -/
def Spares (gcm : GCM) (id ref : String) (m : Manager codec) : Op → Prop
  | .update call ns name data => secretRef ns name = ref → ∃ err, (m.updateSecret gcm call ns name data).2 = .error err
  | .delete call ns name => secretRef ns name = ref → (m.deleteSecret call ns name).2 ≠ none
  | .revoke tokenID => tokenID = id → (m.revokeToken tokenID).2 ≠ none
  | _ => True

def usesToken (gcm : GCM) (jwt : Signer) (tokenString : String) (m : Manager codec) : Op → Bool
  | .get clock order req => req.accessToken = tokenString && (m.getSecret gcm jwt clock order req).2.isOk
  | _ => false

def countUses (gcm : GCM) (jwt : Signer) (tokenString : String) : Manager codec → List Op → ℕ
  | _, [] => 0
  | m, op :: ops =>
    (if m.usesToken gcm jwt tokenString op then 1 else 0) + countUses gcm jwt tokenString (step gcm jwt m op) ops

structure Outlives (gcm : GCM) (jwt : Signer) (tokenString id : String) (m : Manager codec) (ops : List Op)
    (before after : SecretAccessToken) : Prop where
  secretRef : after.secretRef = before.secretRef
  expiresAt : after.expiresAt = before.expiresAt
  spared : Admissible (step gcm jwt) (Spares gcm id before.secretRef) m ops
  limited : 0 ≤ before.usesRemaining → 0 ≤ after.usesRemaining ∧
    after.usesRemaining + countUses gcm jwt tokenString m ops ≤ before.usesRemaining

variable {tokenString : String} {m : Manager codec}

lemma countUses_singleton {op : Op} :
    countUses gcm jwt tokenString m [op] = if m.usesToken gcm jwt tokenString op then 1 else 0 := rfl

variable {token : SecretAccessToken} {op : Op} {id : String}

lemma outlives_of_spares (hs : m.Spares gcm id token.secretRef op)
    (hu : 0 ≤ token.usesRemaining → m.usesToken gcm jwt tokenString op = false) :
    Outlives gcm jwt tokenString id m [op] token token := by
  refine ⟨rfl, rfl, ⟨hs, trivial⟩, fun h => ⟨h, ?_⟩⟩
  rw [countUses_singleton, hu h]
  simp

variable {ops : List Op}

lemma Outlives.cons {be b after : SecretAccessToken} (h : Outlives gcm jwt tokenString id m [op] be b)
    (hs : Outlives gcm jwt tokenString id (step gcm jwt m op) ops b after) :
    Outlives gcm jwt tokenString id m (op :: ops) be after := by
  refine ⟨hs.secretRef.trans h.secretRef, hs.expiresAt.trans h.expiresAt, ⟨h.spared.1, ?_⟩, ?_⟩
  · rw [← h.secretRef]
    exact hs.spared
  · intro hpos
    obtain ⟨hm, ho⟩ := h.limited hpos
    obtain ⟨he, hr⟩ := hs.limited hm
    rw [countUses_singleton] at ho
    rw [countUses]
    push_cast at ho hr ⊢
    exact ⟨he, by omega⟩

lemma rotateMasterKey_tokens {r : KeyRotation} : (m.rotateMasterKey gcm r).1.tokens = m.tokens := by
  rw [rotateMasterKey]
  split
  · rfl
  · dsimp only
    split_ifs <;> rfl

variable {claims : SecretTokenClaims} {clock : ℕ → Time}

variable {req : SecretAccessRequest} {order : MapOrder}

lemma usesToken_eq_true (h : m.usesToken gcm jwt tokenString (.get clock order req) = true) :
    req.accessToken = tokenString ∧ ∃ parsed, (m.tokens.validateToken jwt clock req.accessToken
      (Secrets.secretRef req.ns req.secretName) req.audience).2 = .ok parsed := by
  rw [usesToken, Bool.and_eq_true, decide_eq_true_iff] at h
  cases hr : (m.getSecret gcm jwt clock order req).2 with
  | error err =>
    rw [hr] at h
    cases h.2
  | ok resp => exact ⟨h.1, (getSecret_eq_ok.mp hr).1⟩

variable {after : SecretAccessToken}

lemma getSecret_outlives (hc : jwt.unmarshal tokenString = .ok claims)
    (h : (m.getSecret gcm jwt clock order req).1.tokens.tokens.lookup claims.tokenID = some after) :
    ∃ before, m.tokens.tokens.lookup claims.tokenID = some before ∧
      Outlives gcm jwt tokenString claims.tokenID m [.get clock order req] before after := by
  rw [(m.getSecret_state jwt clock order req).1] at h
  rcases TokenManager.validateToken_cases (Prod.mk.eta (p := m.tokens.validateToken jwt clock req.accessToken
      (Secrets.secretRef req.ns req.secretName) req.audience)).symm with
    ⟨hs, err, he⟩ | ⟨parsed, tracked, hok, hp, -, -, -, hl, -, hr⟩
  · rw [hs] at h
    refine ⟨after, h, outlives_of_spares trivial fun _ => ?_⟩
    rw [Bool.eq_false_iff]
    intro hu
    obtain ⟨-, parsed, hv⟩ := usesToken_eq_true hu
    rw [he] at hv
    cases hv
  · have hself : m.usesToken gcm jwt tokenString (.get clock order req) = true → parsed = claims := by
      intro hu
      rw [(usesToken_eq_true hu).1, hc] at hp
      exact (Except.ok.inj hp).symm
    rcases hr with ⟨hpos, hins⟩ | ⟨hneg, hs⟩
    · rw [hins, lookup_insert_if] at h
      split_ifs at h with hid
      · cases h
        rw [hid]
        refine ⟨tracked, hl, rfl, rfl, ⟨trivial, trivial⟩, fun _ => ⟨?_, ?_⟩⟩
        · dsimp only
          omega
        · rw [countUses_singleton]
          dsimp only
          split_ifs <;> push_cast <;> omega
      · refine ⟨after, h, outlives_of_spares trivial fun _ => ?_⟩
        rw [Bool.eq_false_iff]
        intro hu
        exact hid (congrArg SecretTokenClaims.tokenID (hself hu).symm)
    · rw [hs] at h
      refine ⟨after, h, outlives_of_spares trivial fun hlim => ?_⟩
      rw [Bool.eq_false_iff]
      intro hu
      rw [hself hu, h] at hl
      cases hl
      omega

variable {tm : TokenManager}

lemma lookup_of_deleteWhere {c : SecretAccessToken → Bool} (h : (tm.deleteWhere c).1.tokens.lookup id = some token) :
    tm.tokens.lookup id = some token ∧ ¬c token = true := by
  rw [TokenManager.lookup_deleteWhere, Option.bind_eq_some_iff] at h
  obtain ⟨t, hl, hif⟩ := h
  split_ifs at hif with hco
  cases hif
  exact ⟨hl, hco⟩

lemma lookup_revokeTokensForSecret {ref : String} (h : (tm.revokeTokensForSecret ref).1.tokens.lookup id = some token) :
    tm.tokens.lookup id = some token ∧ token.secretRef ≠ ref := by
  obtain ⟨hl, hne⟩ := lookup_of_deleteWhere h
  exact ⟨hl, by simpa using hne⟩

lemma lookup_revokeToken {ti : String} (h : (tm.revokeToken ti).1.tokens.lookup id = some token) :
    tm.tokens.lookup id = some token ∧ (id = ti → (tm.revokeToken ti).2 ≠ none) := by
  rw [TokenManager.revokeToken] at h ⊢
  split_ifs at h ⊢ with hem hm
  · exact ⟨h, fun _ => Option.some_ne_none _⟩
  · exact ⟨h, fun _ => Option.some_ne_none _⟩
  · rw [lookup_erase_if] at h
    split_ifs at h with hid
    exact ⟨h, fun he => absurd he hid⟩

lemma lookup_generateAccessToken_of_ne {u : String} {ns n a : String} {ttl maxUses : ℤ} (hne : id ≠ u) :
    (m.generateAccessToken jwt u clock ns n a ttl maxUses).1.tokens.tokens.lookup id = m.tokens.tokens.lookup id := by
  rcases (generateAccessToken_cases (Prod.mk.eta
    (p := m.generateAccessToken jwt u clock ns n a ttl maxUses)).symm).2 with
    ⟨-, ht⟩ | ⟨secret, token, ttl', -, -, -, -, -, -, ht⟩
  · rw [ht]
  · rcases TokenManager.generateToken_cases ht with ⟨hs, -⟩ | ⟨_, _, _, _, _, hins, -⟩
    · rw [hs]
    · rw [hins, Finmap.lookup_insert_of_ne _ hne]

lemma createSecret_tokens {c : Call} {ns n : String} {d : FMap String Bytes}
    {o : List SecretOption} : (m.createSecret gcm c ns n d o).1.tokens = m.tokens := by
  rcases createSecret_cases (Prod.mk.eta (p := m.createSecret gcm c ns n d o)).symm with
    ⟨hr, -⟩ | ⟨envelopes, err, -, -, -, -, ht, -⟩
  · exact hr.1
  · exact ht

lemma step_outlives (hc : jwt.unmarshal tokenString = .ok claims) (hop : op.uuid ≠ some claims.tokenID)
    (h : (step gcm jwt m op).tokens.tokens.lookup claims.tokenID = some after) :
    ∃ b, m.tokens.tokens.lookup claims.tokenID = some b ∧
      Outlives gcm jwt tokenString claims.tokenID m [op] b after := by
  cases op with
  | get clock o req => exact getSecret_outlives hc h
  | create call ns name data opts =>
    rw [step, createSecret_tokens] at h
    exact ⟨after, h, outlives_of_spares trivial fun _ => rfl⟩
  | update call ns name data =>
    rw [step] at h
    rcases updateSecret_cases (Prod.mk.eta (p := m.updateSecret gcm call ns name data)).symm with
      ⟨hr, herr⟩ | ⟨old, envelopes, -, -, -, -, -, -, ⟨-, -, herr, ht, -⟩ | ⟨err, -, ⟨-, -, ht⟩ | ⟨herr, -, ht⟩⟩⟩
    · rw [hr.1] at h
      exact ⟨after, h, outlives_of_spares (fun _ => herr) fun _ => rfl⟩
    · rw [ht] at h
      exact ⟨after, h, outlives_of_spares (fun _ => herr) fun _ => rfl⟩
    · rw [ht] at h
      obtain ⟨hl, hne⟩ := lookup_revokeTokensForSecret h
      exact ⟨after, hl, outlives_of_spares (fun href => absurd href.symm hne) fun _ => rfl⟩
    · rw [ht] at h
      exact ⟨after, h, outlives_of_spares (fun _ => herr) fun _ => rfl⟩
  | delete call ns name =>
    rw [step] at h
    rcases deleteSecret_cases (Prod.mk.eta (p := m.deleteSecret call ns name)).symm with
      ⟨hr, ⟨err, herr⟩, -⟩ | ⟨old, err, -, -, -, ht, -⟩
    · rw [hr.1] at h
      refine ⟨after, h, outlives_of_spares (fun _ => ?_) fun _ => rfl⟩
      rw [herr]
      exact Option.some_ne_none _
    · rw [ht] at h
      obtain ⟨hl, hne⟩ := lookup_revokeTokensForSecret h
      exact ⟨after, hl, outlives_of_spares (fun href => absurd href.symm hne) fun _ => rfl⟩
  | rotate r =>
    rw [step, rotateMasterKey_tokens] at h
    exact ⟨after, h, outlives_of_spares trivial fun _ => rfl⟩
  | issue uuid clock ns name a ttl maxUses =>
    have hne : claims.tokenID ≠ uuid := fun he => hop (congrArg some he.symm)
    rw [step, lookup_generateAccessToken_of_ne hne] at h
    exact ⟨after, h, outlives_of_spares trivial fun _ => rfl⟩
  | revoke ti =>
    obtain ⟨hl, herr⟩ := lookup_revokeToken h
    exact ⟨after, hl, outlives_of_spares (fun he => herr he.symm) fun _ => rfl⟩
  | cleanup now =>
    have hl := lookup_of_deleteWhere h
    exact ⟨after, hl.1, outlives_of_spares trivial fun _ => rfl⟩
  | restart now =>
    rw [step, restart, newManager, Finmap.lookup_empty] at h
    cases h

lemma run_outlives (hc : jwt.unmarshal tokenString = .ok claims) (ho : ∀ op ∈ ops, op.uuid ≠ some claims.tokenID)
    (h : (run (step gcm jwt) m ops).tokens.tokens.lookup claims.tokenID = some after) :
    ∃ b, m.tokens.tokens.lookup claims.tokenID = some b ∧
      Outlives gcm jwt tokenString claims.tokenID m ops b after := by
  induction ops generalizing m with
  | nil =>
    refine ⟨after, h, rfl, rfl, trivial, fun hpos => ⟨hpos, ?_⟩⟩
    rw [countUses]
    simp
  | cons op ops ih =>
    rw [run_cons] at h
    obtain ⟨be, hl, hr⟩ := ih (fun op hop => ho op (List.mem_cons_of_mem _ hop)) h
    obtain ⟨b, hl, hone⟩ := step_outlives hc (ho op (List.mem_cons_self ..)) hl
    exact ⟨b, hl, hone.cons hr⟩

def Issued (gcm : GCM) (jwt : Signer) (m : Manager codec) (ops : List Op) (tokenString : String) : Prop :=
  ∃ (before : List Op) (issue : Issue) (since : List Op) (token : SecretAccessToken),
    ops = before ++ issue.op :: since ∧ issue.answer jwt (run (step gcm jwt) m before) = .ok token ∧
    token.token = tokenString

/-- The token that a request presents entitles its bearer to the secret. -/
structure Entitles (gcm : GCM) (jwt : Signer) (m : Manager codec) (issue : Issue) (since : List Op)
    (token : SecretAccessToken) (clock : ℕ → Time) (req : SecretAccessRequest) : Prop where
  issued : issue.answer jwt m = .ok token
  presented : token.token = req.accessToken
  reference : Secrets.secretRef issue.ns issue.name = Secrets.secretRef req.ns req.secretName
  audience : issue.audience = req.audience
  allowed : ∃ secret, m.store.current (getKey issue.ns issue.name) = some secret ∧
    (secret.audiences = [] ∨ issue.audience ∈ secret.audiences ∨ "*" ∈ secret.audiences)
  unexpired : clock 0 < token.expiresAt ∧ clock 1 ≤ token.expiresAt
  spared : Admissible (step gcm jwt) (Spares gcm issue.uuid (Secrets.secretRef issue.ns issue.name))
    (step gcm jwt m issue.op) since
  remaining : issue.maxUses ≠ 0 ∧
    (0 < issue.maxUses → countUses gcm jwt req.accessToken (step gcm jwt m issue.op) since < issue.maxUses)

theorem access_entitled {m : Manager codec} {ops : List Op} (hfresh : (ops.filterMap Op.uuid).Nodup) {clock : ℕ → Time}
    {order : MapOrder} {req : SecretAccessRequest} {resp : SecretAccessResponse}
    (hunforged : ∀ claims, jwt.unmarshal req.accessToken = .ok claims → Issued gcm jwt m ops req.accessToken)
    (hget : ((run (step gcm jwt) m ops).getSecret gcm jwt clock order req).2 = .ok resp) :
    ∃ before issue since token, ops = before ++ issue.op :: since ∧
      Entitles gcm jwt (run (step gcm jwt) m before) issue since token clock req := by
  obtain ⟨⟨claims, hv⟩, -⟩ := getSecret_eq_ok.mp hget
  rcases TokenManager.validateToken_cases (Prod.mk.eta (p := (run (step gcm jwt) m ops).tokens.validateToken jwt clock
      req.accessToken (Secrets.secretRef req.ns req.secretName) req.audience)).symm with
    ⟨-, err, he⟩ | ⟨parsed, tracked, -, hp, hexp, hr, haud, hl, htr, huses⟩
  · rw [he] at hv
    cases hv
  · obtain ⟨before, issue, since, token, rfl, hans, ht⟩ := hunforged parsed hp
    obtain ⟨⟨s, hc, ha⟩, hcl, his, htref, htu⟩ := Issue.answer_eq_ok gcm hans
    rw [ht, hp] at hcl
    cases hcl
    have hs : ∀ op ∈ since, op.uuid ≠ some issue.uuid := by
      intro op hop huuid
      have hu : (issue.op :: since).filterMap Op.uuid = issue.uuid :: since.filterMap Op.uuid := rfl
      rw [List.filterMap_append, hu, List.nodup_append] at hfresh
      exact (List.nodup_cons.mp hfresh.2.1).1 (List.mem_filterMap.mpr ⟨op, hop, huuid⟩)
    rw [run_append, run_cons] at hl
    obtain ⟨t', hl', ho⟩ := run_outlives hp hs hl
    rw [his] at hl'
    cases hl'
    refine ⟨before, issue, since, token, rfl, hans, ht, hr, haud, ⟨s, hc, audienceAllowed_iff.mp ha⟩, ?_, ?_,
      ?_⟩
    · refine ⟨lt_of_lt_of_le hexp (jwt.numericDate_le _), ?_⟩
      rwa [← ho.expiresAt]
    · rw [← htref]
      exact ho.spared
    · rw [← htu]
      have hlim := ho.limited
      constructor
      · intro hz
        have := hlim hz.ge
        omega
      · intro hpos
        have := hlim hpos.le
        omega

def issueReader : Issue := ⟨"id", fun _ => 0, "default", "db", "api", 1000000000, 1⟩

def readerRun : List Op := [createDb, issueReader.op]

theorem access_entitled_reader : ∃ resp, (readerRun.filterMap Op.uuid).Nodup ∧
    Issued plainGCM (singleSigner readerClaims) freshManager readerRun readerRequest.accessToken ∧
    ((run (step plainGCM (singleSigner readerClaims)) freshManager readerRun).getSecret plainGCM (singleSigner readerClaims)
      (fun _ => 0) sortedOrder readerRequest).2 = .ok resp ∧
    ∃ before issue since token, readerRun = before ++ issue.op :: since ∧
      Entitles plainGCM (singleSigner readerClaims) (run (step plainGCM (singleSigner readerClaims)) freshManager before)
        issue since token (fun _ => 0) readerRequest := by
  have his : Issued plainGCM (singleSigner readerClaims) freshManager readerRun readerRequest.accessToken := by
    refine ⟨[_], issueReader, [], ⟨"id", "default/db", "api", 0, 1000000000, "token", 1, 0⟩, rfl, ?_, rfl⟩
    decide +kernel
  have ho : ((run (step plainGCM (singleSigner readerClaims)) freshManager readerRun).getSecret plainGCM
      (singleSigner readerClaims) (fun _ => 0) sortedOrder readerRequest).2.isOk = true := by
    decide +kernel
  cases hg : ((run (step plainGCM (singleSigner readerClaims)) freshManager readerRun).getSecret plainGCM
      (singleSigner readerClaims) (fun _ => 0) sortedOrder readerRequest).2 with
  | error err =>
    rw [hg] at ho
    cases ho
  | ok resp =>
    have hf : (readerRun.filterMap Op.uuid).Nodup := by decide
    exact ⟨resp, hf, his, rfl, access_entitled hf (fun _ _ => his) hg⟩

end Manager

end Cloudless.Secrets
