import Cloudless.Foundations.Interleaving
import Cloudless.Secrets.Access

/-! Reads that share the manager's read lock: each one checks the remaining uses of its token and counts itself in
separate steps. -/

namespace Cloudless.Secrets

open Foundations GoStd MapLoops Runs Interleaving
open Raft

namespace TokenManager

def checkToken (jwt : Signer) (clock : ℕ → Time) (tokenString secretRef audience : String) (tm : TokenManager) :
    Except String SecretTokenClaims :=
  if tokenString = "" then .error "token is required"
  else
    match jwt.parseWithClaims (clock 0) tokenString with
    | .error err => .error ("token validation failed: " ++ err)
    | .ok claims =>
      if claims.secretRef ≠ secretRef then
        .error ("token secret reference mismatch: expected " ++ secretRef ++ ", got " ++ claims.secretRef)
      else if claims.audience ≠ audience then
        .error ("token audience mismatch: expected " ++ audience ++ ", got " ++ claims.audience)
      else
        match tm.tokens.lookup claims.tokenID with
        | none => .error "token not found in tracking system"
        | some trackedToken =>
          if trackedToken.expiresAt < clock 1 then .error "token has expired"
          else if trackedToken.usesRemaining = 0 then .error "token has no remaining uses"
          else .ok claims

def usesRemaining (id : String) (tm : TokenManager) : ℤ :=
  ((tm.tokens.lookup id).map SecretAccessToken.usesRemaining).getD 0

def setUsesRemaining (id : String) (uses : ℤ) (now : Time) (tm : TokenManager) : TokenManager :=
  match tm.tokens.lookup id with
  | none => tm
  | some trackedToken => ⟨tm.tokens.insert id { trackedToken with usesRemaining := uses, lastUsedAt := now }⟩

variable {tm : TokenManager}

lemma checkToken_eq_ok {jwt : Signer} {c : ℕ → Time} {ts sr a : String}
    {cs : SecretTokenClaims} (h : tm.checkToken jwt c ts sr a = .ok cs) :
    jwt.unmarshal ts = .ok cs ∧ tm.usesRemaining cs.tokenID ≠ 0 := by
  rw [checkToken] at h
  split_ifs at h
  split at h
  · cases h
  · next pa hp =>
    split_ifs at h
    split at h
    · cases h
    · next t hl =>
      split_ifs at h with _ hz
      cases h
      refine ⟨(jwt.parseWithClaims_eq_ok.mp hp).1, ?_⟩
      rwa [usesRemaining, hl]

lemma usesRemaining_set_self {id : String} (h : tm.usesRemaining id ≠ 0) {uses : ℤ} {now : Time} :
    (tm.setUsesRemaining id uses now).usesRemaining id = uses := by
  rw [setUsesRemaining]
  cases hl : tm.tokens.lookup id with
  | none =>
    rw [usesRemaining, hl] at h
    exact absurd rfl h
  | some t =>
    rw [usesRemaining, Finmap.lookup_insert]
    rfl

lemma usesRemaining_set_of_ne {id id' : String} (hne : id' ≠ id) {u : ℤ} {now : Time} :
    (tm.setUsesRemaining id u now).usesRemaining id' = tm.usesRemaining id' := by
  rw [setUsesRemaining]
  cases tm.tokens.lookup id with
  | none => rfl
  | some t => rw [usesRemaining, Finmap.lookup_insert_of_ne _ hne, usesRemaining]

end TokenManager

structure GetCall where
  clock : ℕ → Time
  order : MapOrder
  req : SecretAccessRequest

inductive Phase
  | start
  | checked (tokenID : String)
  | counting (tokenID : String)
  | loaded (tokenID : String) (uses : ℤ)
  | validated
  | returned (result : Except String SecretAccessResponse)
  deriving DecidableEq

namespace Manager

variable {V : Type} {codec : Codec Secret V} {gcm : GCM} {jwt : Signer}

def getStep (gcm : GCM) (jwt : Signer) (call : GetCall) (m : Manager codec) : Phase → Option (Manager codec × Phase)
  | .start =>
    let ref := secretRef call.req.ns call.req.secretName
    match m.tokens.checkToken jwt call.clock call.req.accessToken ref call.req.audience with
    | .error err =>
      some (addAuditEntry
        { timestamp := call.clock 3
          action := .access
          secretRef := ref
          actor := call.req.audience
          success := false
          reason := "token validation failed: " ++ err } m, .returned (.error ("access denied: " ++ err)))
    | .ok claims => some (m, .checked claims.tokenID)
  | .checked id => some (m, if 0 < m.tokens.usesRemaining id then .counting id else .validated)
  | .counting id => some (m, .loaded id (m.tokens.usesRemaining id))
  | .loaded id uses => some ({ m with tokens := m.tokens.setUsesRemaining id (uses - 1) (call.clock 2) }, .validated)
  | .validated =>
    let (m, result) := m.readSecret gcm call.clock call.order call.req
    some (m, .returned result)
  | .returned _ => none

variable {ι : Type} [DecidableEq ι]

def getBody (gcm : GCM) (jwt : Signer) (calls : ι → GetCall) : Body ι (Manager codec) Phase :=
  fun i m phase => m.getStep gcm jwt (calls i) phase

lemma readSecret_tokens {m : Manager codec} {c : ℕ → Time} {o : MapOrder} {req : SecretAccessRequest} :
    (m.readSecret gcm c o req).1.tokens = m.tokens := by
  rw [readSecret]
  split
  · rfl
  · dsimp only
    split_ifs
    · rfl
    · rfl
    · split <;> rfl

def Presents (jwt : Signer) (id : String) (call : GetCall) : Prop :=
  (jwt.unmarshal call.req.accessToken).toOption.map SecretTokenClaims.tokenID = some id

instance decidablePresents (jwt : Signer) (id : String) (call : GetCall) : Decidable (Presents jwt id call) :=
  inferInstanceAs (Decidable (_ = _))

lemma presents_of_unmarshal {call : GetCall} {cs : SecretTokenClaims}
    (h : jwt.unmarshal call.req.accessToken = .ok cs) : Presents jwt cs.tokenID call := by
  rw [Presents, h]
  rfl

lemma Presents.unique {id id' : String} {c : GetCall} (h : Presents jwt id c) (h' : Presents jwt id' c) :
    id = id' := Option.some.inj (h.symm.trans h')

end Manager

namespace Phase

def Pending (id : String) : Phase → Prop
  | .checked tokenID => tokenID = id
  | .counting tokenID => tokenID = id
  | .loaded tokenID _ => tokenID = id
  | _ => False

instance decidablePending (id : String) : DecidablePred (Pending id)
  | .checked tokenID => inferInstanceAs (Decidable (tokenID = id))
  | .counting tokenID => inferInstanceAs (Decidable (tokenID = id))
  | .loaded tokenID _ => inferInstanceAs (Decidable (tokenID = id))
  | .start => isFalse not_false
  | .validated => isFalse not_false
  | .returned _ => isFalse not_false

def Admitted : Phase → Prop
  | .validated => True
  | .returned (.ok _) => True
  | _ => False

end Phase

namespace Manager

open Phase

variable {V : Type} {codec : Codec Secret V} {gcm : GCM} {jwt : Signer} {ι : Type} [DecidableEq ι] {calls : ι → GetCall}
  {id : String} {n : ℤ}

structure Counted (jwt : Signer) (calls : ι → GetCall) (id : String) (n : ℤ) (p : Pool ι (Manager codec) Phase) :
    Prop where
  presents : ∀ i id', Pending id' (p.locals i) → Presents jwt id' (calls i)
  pending : ∀ i, Pending id (p.locals i) →
    0 < p.shared.tokens.usesRemaining id ∧ ∀ j, Pending id (p.locals j) → j = i
  loaded : ∀ i uses, p.locals i = .loaded id uses → uses = p.shared.tokens.usesRemaining id
  nonneg : 0 ≤ p.shared.tokens.usesRemaining id
  admitted : ∀ T : Finset ι, (∀ i ∈ T, Presents jwt id (calls i) ∧ Admitted (p.locals i)) →
    T.card + p.shared.tokens.usesRemaining id ≤ n

variable {p : Pool ι (Manager codec) Phase} {m : Manager codec} {i : ι}

lemma Counted.update (h : Counted jwt calls id n p)
    {ph : Phase} (hm : m.tokens.usesRemaining id = p.shared.tokens.usesRemaining id)
    (hpr : ∀ id', Pending id' ph → Presents jwt id' (calls i))
    (hpe : Pending id ph → 0 < p.shared.tokens.usesRemaining id ∧ ∀ j, Pending id (p.locals j) → j = i)
    (hl : ∀ u, ph = .loaded id u → u = p.shared.tokens.usesRemaining id)
    (had : Presents jwt id (calls i) → Admitted ph → Admitted (p.locals i)) :
    Counted jwt calls id n ⟨m, Function.update p.locals i ph⟩ := by
  refine ⟨?_, ?_, ?_, ?_, ?_⟩
  · exact (Function.forall_update_iff p.locals fun j ph => ∀ id', Pending id' ph → Presents jwt id' (calls j)).mpr
      ⟨hpr, fun j _ => h.presents j⟩
  · dsimp only
    rw [hm]
    intro j hp
    by_cases hj : j = i
    · rw [hj, Function.update_self] at hp
      rw [hj]
      refine ⟨(hpe hp).1, ?_⟩
      exact (Function.forall_update_iff p.locals fun k ph => Pending id ph → k = i).mpr
        ⟨fun _ => rfl, fun k _ => (hpe hp).2 k⟩
    · rw [Function.update_of_ne hj] at hp
      refine ⟨(h.pending j hp).1, ?_⟩
      refine (Function.forall_update_iff p.locals fun k ph => Pending id ph → k = j).mpr
        ⟨fun hq => ?_, fun k _ => (h.pending j hp).2 k⟩
      exact absurd ((hpe hq).2 j hp) hj
  · dsimp only
    rw [hm]
    exact (Function.forall_update_iff p.locals fun _ ph => ∀ u, ph = .loaded id u → u = _).mpr
      ⟨hl, fun j _ => h.loaded j⟩
  · dsimp only
    rw [hm]
    exact h.nonneg
  · intro T hT
    dsimp only
    rw [hm]
    apply h.admitted T
    intro j hj
    obtain ⟨hp, ha⟩ := hT j hj
    refine ⟨hp, ?_⟩
    dsimp only at ha
    by_cases hji : j = i
    · rw [hji, Function.update_self] at ha
      rw [hji] at hp ⊢
      exact had hp ha
    · rwa [Function.update_of_ne hji] at ha

lemma Counted.store (h : Counted jwt calls id n p) {uses : ℤ} (hi : p.locals i = .loaded id uses) (now : Time) :
    Counted jwt calls id n ⟨{ p.shared with tokens := p.shared.tokens.setUsesRemaining id (uses - 1) now },
      Function.update p.locals i .validated⟩ := by
  obtain ⟨hpos, ho⟩ := h.pending i (by rw [hi]; rfl)
  have haf : (p.shared.tokens.setUsesRemaining id (uses - 1) now).usesRemaining id =
      p.shared.tokens.usesRemaining id - 1 := by
    rw [TokenManager.usesRemaining_set_self hpos.ne', h.loaded i uses hi]
  have hnone : ∀ j, ¬Pending id (Function.update p.locals i Phase.validated j) :=
    (Function.forall_update_iff p.locals fun _ ph => ¬Pending id ph).mpr
      ⟨not_false, fun j hj hp => hj (ho j hp)⟩
  refine ⟨?_, fun j hp => absurd hp (hnone j), ?_, ?_, ?_⟩
  · exact (Function.forall_update_iff p.locals fun j ph => ∀ id', Pending id' ph → Presents jwt id' (calls j)).mpr
      ⟨fun _ hp => hp.elim, fun j _ => h.presents j⟩
  · intro j uses' hj
    refine absurd ?_ (hnone j)
    dsimp only at hj
    rw [hj]
    rfl
  · dsimp only
    omega
  · intro T hT
    dsimp only at hT ⊢
    have he := h.admitted (T.erase i) (by
      intro j hj
      obtain ⟨hp, ha⟩ := hT j (Finset.mem_of_mem_erase hj)
      rw [Function.update_of_ne (Finset.ne_of_mem_erase hj)] at ha
      exact ⟨hp, ha⟩)
    have hcard : T.card - 1 ≤ (T.erase i).card := Finset.pred_card_le_card_erase
    omega

/-- A call does not check the token while another one is between its check and its store. -/
def Exclusive (jwt : Signer) (calls : ι → GetCall) (id : String) (p : Pool ι (Manager codec) Phase) (i : ι) : Prop :=
  p.locals i = .start → Presents jwt id (calls i) → ∀ j, ¬Pending id (p.locals j)

instance decidableExclusive [Fintype ι] (p : Pool ι (Manager codec) Phase) (i : ι) :
    Decidable (Exclusive jwt calls id p i) :=
  inferInstanceAs (Decidable (p.locals i = .start → Presents jwt id (calls i) → ∀ j, ¬Pending id (p.locals j)))

lemma counted_advance (h : Counted jwt calls id n p)
    (hex : Exclusive jwt calls id p i) : Counted jwt calls id n (p.advance (getBody gcm jwt calls) i) := by
  cases hi : p.locals i with
  | start =>
    cases hc : p.shared.tokens.checkToken jwt (calls i).clock (calls i).req.accessToken
        (secretRef (calls i).req.ns (calls i).req.secretName) (calls i).req.audience with
    | error err =>
      rw [Pool.advance_of_some (by rw [getBody, hi, getStep, hc])]
      refine h.update rfl (fun _ hp => hp.elim) (fun hp => hp.elim) (fun _ he => ?_) (fun _ ha => ha.elim)
      cases he
    | ok cs =>
      obtain ⟨hpa, hne⟩ := TokenManager.checkToken_eq_ok hc
      rw [Pool.advance_of_some (by rw [getBody, hi, getStep, hc])]
      refine h.update rfl ?_ ?_ ?_ (fun _ ha => ha.elim)
      · rintro id' rfl
        exact presents_of_unmarshal hpa
      · rintro rfl
        refine ⟨lt_of_le_of_ne h.nonneg hne.symm, fun j hj => ?_⟩
        exact absurd hj (hex hi (presents_of_unmarshal hpa) j)
      · intro u he
        cases he
  | checked id' =>
    have hpr : Presents jwt id' (calls i) := h.presents i id' (by rw [hi]; rfl)
    rw [Pool.advance_of_some (by rw [getBody, hi, getStep])]
    split_ifs with hpos
    · refine h.update rfl ?_ ?_ ?_ (fun _ ha => ha.elim)
      · rintro _ rfl
        exact hpr
      · rintro rfl
        exact h.pending i (by rw [hi]; rfl)
      · intro u he
        cases he
    · refine h.update rfl (fun _ hp => hp.elim) (fun hp => hp.elim) (fun _ he => ?_) (fun hp _ => ?_)
      · cases he
      · -- the token of the call still has uses, so it is another one
        obtain rfl := hp.unique hpr
        exact absurd (h.pending i (by rw [hi]; rfl)).1 hpos
  | counting id' =>
    have hpr : Presents jwt id' (calls i) := h.presents i id' (by rw [hi]; rfl)
    rw [Pool.advance_of_some (by rw [getBody, hi, getStep])]
    refine h.update rfl ?_ ?_ ?_ (fun _ ha => ha.elim)
    · rintro _ rfl
      exact hpr
    · rintro rfl
      exact h.pending i (by rw [hi]; rfl)
    · intro u he
      cases he
      rfl
  | loaded id' u =>
    have hpr : Presents jwt id' (calls i) := h.presents i id' (by rw [hi]; rfl)
    rw [Pool.advance_of_some (by rw [getBody, hi, getStep])]
    by_cases hid : id' = id
    · rw [hid] at hi ⊢
      exact h.store hi _
    · refine h.update ?_ (fun _ hp => hp.elim) (fun hp => hp.elim) (fun _ he => ?_) (fun hp _ => ?_)
      · exact TokenManager.usesRemaining_set_of_ne (Ne.symm hid) ..
      · cases he
      · exact absurd (hpr.unique hp) hid
  | validated =>
    rw [Pool.advance_of_some (by rw [getBody, hi, getStep])]
    refine h.update ?_ (fun _ hp => hp.elim) (fun hp => hp.elim) (fun _ he => ?_) (fun _ _ => ?_)
    · rw [readSecret_tokens]
    · cases he
    · rw [hi]
      trivial
  | returned r =>
    rwa [Pool.advance_of_none (by rw [getBody, hi, getStep])]

def concurrentReads (m : Manager codec) : Pool ι (Manager codec) Phase := ⟨m, fun _ => .start⟩

omit [DecidableEq ι] in
lemma counted_concurrentReads (h : 0 ≤ m.tokens.usesRemaining id) :
    Counted jwt calls id (m.tokens.usesRemaining id) (concurrentReads m) := by
  refine ⟨fun _ _ hp => hp.elim, fun _ hp => hp.elim, fun _ _ he => ?_, h, ?_⟩
  · cases he
  · intro T hT
    have hem : T = ∅ := Finset.eq_empty_of_forall_notMem fun i hi => (hT i hi).2
    rw [hem, Finset.card_empty]
    simp [concurrentReads]

theorem limited_uses {m : Manager codec} {issue : Issue} {token : SecretAccessToken}
    (hissue : issue.answer jwt m = .ok token) (hlimited : 0 < issue.maxUses) (calls : ι → GetCall) (schedule : List ι)
    (hexclusive : Admissible (Pool.advance (getBody gcm jwt calls)) (Exclusive jwt calls issue.uuid)
      (concurrentReads (step gcm jwt m issue.op)) schedule) (succeeded : Finset ι)
    (hsucceeded : ∀ i ∈ succeeded, (calls i).req.accessToken = token.token ∧ ∃ resp,
      (run (Pool.advance (getBody gcm jwt calls)) (concurrentReads (step gcm jwt m issue.op)) schedule).locals i =
        .returned (.ok resp)) : succeeded.card ≤ issue.maxUses := by
  obtain ⟨-, hcl, hl, -, hu⟩ := Issue.answer_eq_ok gcm hissue
  have hs : (step gcm jwt m issue.op).tokens.usesRemaining issue.uuid = issue.maxUses := by
    rw [TokenManager.usesRemaining, hl, ← hu]
    rfl
  have hco := run_invariant (Counted jwt calls issue.uuid issue.maxUses) (fun _ _ h he => counted_advance h he)
    schedule (hs ▸ counted_concurrentReads (by rw [hs]; exact hlimited.le)) hexclusive
  have hcard := hco.admitted succeeded (by
    intro i hi
    obtain ⟨hp, resp, hr⟩ := hsucceeded i hi
    refine ⟨?_, ?_⟩
    · rw [← hp] at hcl
      exact presents_of_unmarshal hcl
    · rw [hr]
      trivial)
  have hno := hco.nonneg
  omega

def onceToken : SecretAccessToken := ⟨"id", "default/db", "api", 0, 1000000000, "token", 1, 0⟩

def readerSigner : Signer := singleSigner readerClaims

def readerCalls : Bool → GetCall := fun _ => ⟨fun _ => 0, sortedOrder, readerRequest⟩

def dbResponse : SecretAccessResponse := ⟨"db", "default", passwordData, 1, none⟩

def oneByOne : List Bool := List.replicate 5 false ++ List.replicate 5 true

theorem limited_uses_sequential : issueReader.answer readerSigner guardedManager = .ok onceToken ∧
    Admissible (Pool.advance (getBody plainGCM readerSigner readerCalls)) (Exclusive readerSigner readerCalls "id")
      (concurrentReads (step plainGCM readerSigner guardedManager issueReader.op)) oneByOne ∧
    (run (Pool.advance (getBody plainGCM readerSigner readerCalls))
      (concurrentReads (step plainGCM readerSigner guardedManager issueReader.op)) oneByOne).locals false =
        .returned (.ok dbResponse) ∧ (({false} : Finset Bool).card : ℤ) ≤ 1 := by
  have his : issueReader.answer readerSigner guardedManager = .ok onceToken := by
    decide +kernel
  have he : Admissible (Pool.advance (getBody plainGCM readerSigner readerCalls))
      (Exclusive readerSigner readerCalls "id")
      (concurrentReads (step plainGCM readerSigner guardedManager issueReader.op)) oneByOne := by
    decide +kernel
  have ho : (run (Pool.advance (getBody plainGCM readerSigner readerCalls))
      (concurrentReads (step plainGCM readerSigner guardedManager issueReader.op)) oneByOne).locals false =
        .returned (.ok dbResponse) := by
    decide +kernel
  refine ⟨his, he, ho, limited_uses his (by decide) readerCalls oneByOne he {false} ?_⟩
  intro i hi
  rw [Finset.mem_singleton] at hi
  rw [hi]
  exact ⟨rfl, dbResponse, ho⟩

theorem overlapping_reads_exceed_limit :
    issueReader.maxUses = 1 ∧ issueReader.answer readerSigner guardedManager = .ok onceToken ∧
    ∀ i, (run (Pool.advance (getBody plainGCM readerSigner readerCalls))
      (concurrentReads (step plainGCM readerSigner guardedManager issueReader.op))
      [false, true, false, false, false, false, true, true]).locals i = .returned (.ok dbResponse) := by
  decide +kernel

end Manager

end Cloudless.Secrets
