import Cloudless.Foundations.Interleaving
import Cloudless.Membership.Enrollment

/-! Enrollments, revocations and cleanups that take turns: how often a bootstrap token lets a node in. -/

namespace Cloudless.Membership.TokenUse

open Foundations GoStd Runs URLs Interleaving Mtls Raft TokenManager

variable {V A ι : Type} {codec : Codec NodeInfo V}

structure EnrollCall where
  token : String
  req : EnrollNodeRequest
  issue : IssueEnv
  raft : RaftEnv
  throughCoordinator : Bool

inductive Call
  | enroll (call : EnrollCall)
  | revoke (tokenID : String)
  | cleanup
  | wait (duration : ℕ)

structure Site (codec : Codec NodeInfo V) (A : Type) where
  enrollment : Enrollment codec A
  locked : Bool := false
  clock : Time
  revoked : Finset String := ∅

inductive EnrollPhase
  | idle
  | started
  | waiting
  | locked
  | validated (token : BootstrapToken)
  | registered (token : BootstrapToken) (node : NodeInfo) (cert : Certificate)
  | marked (node : NodeInfo) (cert : Certificate)
  | returned (result : Except String EnrollNodeResponse)
  | done

structure Thread where
  phase : EnrollPhase := .idle
  since : Time := 0
  revoked : Finset String := ∅

def Thread.moved (thread : Thread) (s : Site codec A) (phase : EnrollPhase) : Thread :=
  match thread.phase with
  | .idle => ⟨phase, s.clock, s.revoked⟩
  | _ => { thread with phase := phase }

namespace Site

def validate (jwt : TokenSigner) (call : EnrollCall) (s : Site codec A) : Except String BootstrapToken :=
  s.enrollment.tokens.validateToken jwt (fun _ => s.clock) call.token

variable (authorities : Authorities)

def enrollStep (jwt : TokenSigner) (call : EnrollCall) (s : Site codec A) :
    EnrollPhase → Option (Site codec A × EnrollPhase)
  | .idle => some (s, .started)
  | .started =>
    if call.throughCoordinator then
      match s.validate jwt call with
      | .error err => some (s, .returned (.error ("invalid enrollment token: " ++ err)))
      | .ok _ => some (s, .waiting)
    else some (s, .waiting)
  | .waiting => if s.locked then none else some ({ s with locked := true }, .locked)
  | .locked =>
    match s.validate jwt call with
    | .error err => some ({ s with locked := false }, .returned (.error ("invalid token: " ++ err)))
    | .ok token => some (s, .validated token)
  | .validated token =>
    match s.enrollment.registerNode authorities call.issue s.clock token call.req with
    | (.error err, enrollment) =>
      some ({ s with enrollment := enrollment, locked := false }, .returned (.error err))
    | (.ok (node, cert), enrollment) => some ({ s with enrollment := enrollment }, .registered token node cert)
  | .registered token node cert =>
    some ({ s with enrollment := s.enrollment.useToken s.clock token node }, .marked node cert)
  | .marked node cert =>
    let enrollment := s.enrollment.saveNode call.raft node
    some ({ s with enrollment := enrollment, locked := false }, .returned (.ok (enrollment.response node cert)))
  | .returned _ => none
  | .done => none

def tokenStep (change : Site codec A → Site codec A) (s : Site codec A) : EnrollPhase → Option (Site codec A × EnrollPhase)
  | .idle => some (change s, .done)
  | _ => none

def withTokens (tokens : TokenManager) (s : Site codec A) : Site codec A :=
  { s with enrollment := { s.enrollment with tokens := tokens } }

def revokeToken (tokenID : String) (s : Site codec A) : Site codec A :=
  match s.enrollment.tokens.revokeToken tokenID with
  | (some _, tokens) => s.withTokens tokens
  | (none, tokens) => { s.withTokens tokens with revoked := insert tokenID s.revoked }

def cleanup (s : Site codec A) : Site codec A := s.withTokens (s.enrollment.tokens.cleanupExpiredTokens s.clock).2

def wait (duration : ℕ) (s : Site codec A) : Site codec A := { s with clock := s.clock + duration }

def callStep (jwt : TokenSigner) (s : Site codec A) : Call → EnrollPhase → Option (Site codec A × EnrollPhase)
  | .enroll call => s.enrollStep authorities jwt call
  | .revoke tokenID => s.tokenStep (revokeToken tokenID)
  | .cleanup => s.tokenStep cleanup
  | .wait duration => s.tokenStep (wait duration)

def body (jwt : TokenSigner) (calls : ι → Call) : Body ι (Site codec A) Thread :=
  fun i s thread =>
    (s.callStep authorities jwt (calls i) thread.phase).map fun (s', phase) => (s', thread.moved s phase)

end Site

variable {token : BootstrapToken}

namespace EnrollPhase

def inside : EnrollPhase → Bool
  | .locked => true
  | .validated _ => true
  | .registered .. => true
  | .marked .. => true
  | _ => false

def held : EnrollPhase → Option BootstrapToken
  | .validated token => some token
  | .registered token _ _ => some token
  | _ => none

def admitted : EnrollPhase → Bool
  | .validated _ => true
  | .registered .. => true
  | .marked .. => true
  | .returned (.ok _) => true
  | _ => false

lemma inside_of_held {phase : EnrollPhase} (h : phase.held = some token) : phase.inside = true := by
  cases phase with
  | validated | registered => rfl
  | _ => cases h

end EnrollPhase

inductive Effect (jwt : TokenSigner) (s : Site codec A) : Call → EnrollPhase → Site codec A → EnrollPhase → Prop
  | quiet {call phase s' phase'} (tokens : s'.enrollment.tokens = s.enrollment.tokens) (clock : s'.clock = s.clock)
      (revoked : s'.revoked = s.revoked) (held : phase'.held = phase.held)
      (admitted : phase'.admitted = true → phase.admitted = true) : Effect jwt s call phase s' phase'
  | letIn (call : EnrollCall) (token : BootstrapToken) (h : s.validate jwt call = .ok token) :
      Effect jwt s (.enroll call) .locked s (.validated token)
  | refuse {call} (token : BootstrapToken) (err : String) {s' : Site codec A}
      (tokens : s'.enrollment.tokens = s.enrollment.tokens) (clock : s'.clock = s.clock) (revoked : s'.revoked = s.revoked) :
      Effect jwt s call (.validated token) s' (.returned (.error err))
  | mark {call} (token : BootstrapToken) (node : NodeInfo) (cert : Certificate) :
      Effect jwt s call (.registered token node cert)
        { s with enrollment := s.enrollment.useToken s.clock token node } (.marked node cert)
  | revoke {call} (tokenID : String) : Effect jwt s call .idle (s.revokeToken tokenID) .done
  | cleanup {call} : Effect jwt s call .idle s.cleanup .done
  | wait {call} (duration : ℕ) : Effect jwt s call .idle (s.wait duration) .done

variable {s : Site codec A} {id : String} {c : EnrollCall}

section Steps

variable {authorities : Authorities} {jwt : TokenSigner} {s s' : Site codec A} {call : Call} {phase phase' : EnrollPhase}

def Locks (s : Site codec A) (phase : EnrollPhase) (s' : Site codec A) (phase' : EnrollPhase) : Prop :=
  (phase.inside = false → phase'.inside = true → s.locked = false ∧ s'.locked = true) ∧
    (phase'.inside = phase.inside → s'.locked = s.locked)

lemma Locks.of_eq (hin : phase'.inside = phase.inside) (hl : s'.locked = s.locked) : Locks s phase s' phase' :=
  ⟨fun h h' => absurd (hin.symm.trans h') (by simp [h]), fun _ => hl⟩

lemma Locks.of_leaves (hin : phase.inside = true) (ho : phase'.inside = false) : Locks s phase s' phase' :=
  ⟨fun h => absurd hin (by simp [h]), fun h => absurd (h.symm.trans ho) (by simp [hin])⟩

lemma enrollStep_cases (h : s.enrollStep authorities jwt c phase = some (s', phase')) :
    Effect jwt s (.enroll c) phase s' phase' ∧ Locks s phase s' phase' := by
  cases phase with
  | idle =>
    cases h
    exact ⟨.quiet rfl rfl rfl rfl id, .of_eq rfl rfl⟩
  | started =>
    rw [Site.enrollStep] at h
    split_ifs at h
    · split at h
      · cases h
        exact ⟨.quiet rfl rfl rfl rfl id, .of_eq rfl rfl⟩
      · cases h
        exact ⟨.quiet rfl rfl rfl rfl id, .of_eq rfl rfl⟩
    · cases h
      exact ⟨.quiet rfl rfl rfl rfl id, .of_eq rfl rfl⟩
  | waiting =>
    rw [Site.enrollStep] at h
    split_ifs at h with hl
    cases h
    exact ⟨.quiet rfl rfl rfl rfl id, fun _ _ => ⟨by simpa using hl, rfl⟩, fun hn => (nomatch hn)⟩
  | locked =>
    rw [Site.enrollStep] at h
    split at h
    · cases h
      exact ⟨.quiet rfl rfl rfl rfl id, .of_leaves rfl rfl⟩
    · next token hv =>
      cases h
      exact ⟨.letIn c token hv, .of_eq rfl rfl⟩
  | validated token =>
    rw [Site.enrollStep] at h
    split at h
    · next err e hr =>
      cases h
      exact ⟨.refuse token err (Enrollment.registerNode_cases hr).1 rfl rfl, .of_leaves rfl rfl⟩
    · next node cert e hr =>
      cases h
      exact ⟨.quiet (Enrollment.registerNode_cases hr).1 rfl rfl rfl id, .of_eq rfl rfl⟩
  | registered token node cert =>
    cases h
    exact ⟨.mark token node cert, .of_eq rfl rfl⟩
  | marked node cert =>
    cases h
    exact ⟨.quiet rfl rfl rfl rfl id, .of_leaves rfl rfl⟩
  | returned | done => cases h

lemma tokenStep_eq_some {change : Site codec A → Site codec A} (h : s.tokenStep change phase = some (s', phase')) :
    phase = .idle ∧ s' = change s ∧ phase' = .done := by
  cases phase with
  | idle =>
    cases h
    exact ⟨rfl, rfl, rfl⟩
  | _ => cases h

lemma locked_revokeToken {ti : String} : (s.revokeToken ti).locked = s.locked := by
  rw [Site.revokeToken]
  split <;> rfl

lemma callStep_cases (h : s.callStep authorities jwt call phase = some (s', phase')) :
    Effect jwt s call phase s' phase' ∧ Locks s phase s' phase' := by
  cases call with
  | enroll c => exact enrollStep_cases h
  | revoke ti =>
    obtain ⟨rfl, rfl, rfl⟩ := tokenStep_eq_some h
    exact ⟨.revoke ti, .of_eq rfl locked_revokeToken⟩
  | cleanup =>
    obtain ⟨rfl, rfl, rfl⟩ := tokenStep_eq_some h
    exact ⟨.cleanup, .of_eq rfl rfl⟩
  | wait d =>
    obtain ⟨rfl, rfl, rfl⟩ := tokenStep_eq_some h
    exact ⟨.wait d, .of_eq rfl rfl⟩

section

variable (h : Effect jwt s call phase s' phase')

include h

lemma Effect.clock_le : s.clock ≤ s'.clock := by
  cases h with
  | quiet _ cl _ _ _ => exact cl.ge
  | letIn | mark => exact le_refl _
  | refuse _ _ _ cl _ => exact cl.ge
  | revoke ti =>
    rw [Site.revokeToken]
    split <;> exact le_refl _
  | cleanup => exact le_refl _
  | wait d => exact le_add_of_nonneg_right (Int.natCast_nonneg d)

lemma Effect.tokens_cases : s'.enrollment.tokens = s.enrollment.tokens ∧ s'.revoked = s.revoked ∨
    (∃ token n ce, phase = .registered token n ce ∧ phase' = .marked n ce ∧ s'.revoked = s.revoked ∧
      s'.enrollment.tokens = (s.enrollment.tokens.useToken s.clock token.id n.id).2) ∨
    (∃ ti, s'.enrollment.tokens = (s.enrollment.tokens.revokeToken ti).2 ∧ s.revoked ⊆ s'.revoked ∧
      s'.revoked ⊆ insert ti s.revoked) ∨
    s'.enrollment.tokens = (s.enrollment.tokens.cleanupExpiredTokens s.clock).2 ∧ s'.revoked = s.revoked := by
  cases h with
  | quiet ts _ r _ _ => exact .inl ⟨ts, r⟩
  | letIn _ _ _ => exact .inl ⟨rfl, rfl⟩
  | refuse _ _ ts _ r => exact .inl ⟨ts, r⟩
  | mark token n ce => exact .inr (.inl ⟨token, n, ce, rfl, rfl, rfl, rfl⟩)
  | revoke ti =>
    refine .inr (.inr (.inl ⟨ti, ?_⟩))
    rw [Site.revokeToken]
    split
    · next err ts hr =>
      rw [hr]
      exact ⟨rfl, Finset.Subset.refl _, Finset.subset_insert _ _⟩
    · next ts hr =>
      rw [hr]
      exact ⟨rfl, Finset.subset_insert _ _, Finset.Subset.refl _⟩
  | cleanup => exact .inr (.inr (.inr ⟨rfl, rfl⟩))
  | wait d => exact .inl ⟨rfl, rfl⟩

lemma Effect.revoked_subset : s.revoked ⊆ s'.revoked := by
  rcases h.tokens_cases with ⟨-, he⟩ | ⟨_, _, _, -, -, he, -⟩ | ⟨_, -, hs, -⟩ | ⟨-, he⟩
  · exact he.ge
  · exact he.ge
  · exact hs
  · exact he.ge

lemma Effect.keeps
    (hk : TokenManager.Keeps token s.enrollment.tokens) : TokenManager.Keeps token s'.enrollment.tokens := by
  rcases h.tokens_cases with ⟨he, -⟩ | ⟨_, _, _, -, -, -, he⟩ | ⟨_, he, -⟩ | ⟨he, -⟩
  · rwa [he]
  · rw [he]
    exact hk.useToken _ _ _
  · rw [he]
    exact hk.revokeToken _
  · rw [he]
    exact hk.cleanupExpiredTokens _

lemma Effect.remaining_le (hn : 0 ≤ s.enrollment.tokens.remaining id) :
    0 ≤ s'.enrollment.tokens.remaining id ∧ s'.enrollment.tokens.remaining id ≤ s.enrollment.tokens.remaining id := by
  rcases h.tokens_cases with ⟨he, -⟩ | ⟨_, _, _, -, -, -, he⟩ | ⟨_, he, -⟩ | ⟨he, -⟩
  · rw [he]
    exact ⟨hn, le_refl _⟩
  · rw [he, remaining_useToken]
    split_ifs with hpos
    · rw [hpos.1] at hn ⊢
      omega
    · exact ⟨hn, le_refl _⟩
  · rw [he, remaining_revokeToken]
    split_ifs
    · exact ⟨le_refl _, hn⟩
    · exact ⟨hn, le_refl _⟩
  · rw [he]
    rcases remaining_cleanupExpiredTokens s.clock s.enrollment.tokens id with hr | hr
    · rw [hr]
      exact ⟨le_refl _, hn⟩
    · rw [hr]
      exact ⟨hn, le_refl _⟩

lemma Effect.admitted (ha : phase'.admitted = true) :
    phase.admitted = true ∨ ∃ c token, call = .enroll c ∧ phase = .locked ∧ phase' = .validated token ∧ s' = s ∧
      s.validate jwt c = .ok token := by
  cases h with
  | quiet _ _ _ _ admitted => exact .inl (admitted ha)
  | letIn c token hv => exact .inr ⟨c, token, rfl, rfl, rfl, rfl, hv⟩
  | refuse | revoke | cleanup | wait => cases ha
  | mark _ _ _ => exact .inl rfl

end

end Steps

def Presents (jwt : TokenSigner) (id : String) : Call → Prop
  | .enroll call => ∃ claims, jwt.unmarshal call.token = .ok claims ∧ claims.tokenID = id
  | _ => False

variable {jwt : TokenSigner}

lemma Presents.unique {id' : String} {call : Call} (h : Presents jwt id call)
    (h' : Presents jwt id' call) : id = id' := by
  cases call with
  | enroll c =>
    obtain ⟨cs, hc, rfl⟩ := h
    obtain ⟨cs', hc', rfl⟩ := h'
    rw [hc] at hc'
    cases hc'
    rfl
  | _ => exact h.elim

lemma Site.validate_eq_ok (h : s.validate jwt c = .ok token) : Presents jwt token.id (.enroll c) ∧
    ∃ st, s.enrollment.tokens.tokens.lookup token.id = some st ∧ s.clock ≤ st.expiresAt ∧
      0 < s.enrollment.tokens.remaining token.id := by
  obtain ⟨cs, st, hcl, hl, he, hu, rfl⟩ := validateToken_eq_ok h
  have hid : st.id = cs.tokenID := s.enrollment.tokens.keyed _ _ hl
  refine ⟨⟨cs, hcl, hid.symm⟩, st, ?_, he, ?_⟩
  · dsimp only
    rwa [hid]
  · dsimp only
    rw [hid, remaining, hl]
    exact Int.sub_pos_of_lt hu

section Runs

variable [DecidableEq ι] {authorities : Authorities} {jwt : TokenSigner} {calls : ι → Call} {token : BootstrapToken}
  {p : Pool ι (Site codec A) Thread}

lemma advance_cases {authorities : Authorities} (calls : ι → Call)
    {p : Pool ι (Site codec A) Thread} {i : ι} : p.advance (Site.body authorities jwt calls) i = p ∨
    ∃ s' phase', p.shared.callStep authorities jwt (calls i) (p.locals i).phase = some (s', phase') ∧
      p.advance (Site.body authorities jwt calls) i =
        ⟨s', Function.update p.locals i ((p.locals i).moved p.shared phase')⟩ := by
  cases hc : p.shared.callStep authorities jwt (calls i) (p.locals i).phase with
  | none => exact .inl (Pool.advance_of_none (by rw [Site.body, hc]; rfl))
  | some out => exact .inr ⟨out.1, out.2, rfl, Pool.advance_of_some (by rw [Site.body, hc]; rfl)⟩

variable {i : ι} {c : EnrollCall} {phase : EnrollPhase}

@[simp] lemma phase_moved {t : Thread} : (t.moved s phase).phase = phase := by
  rw [Thread.moved]
  split <;> rfl

structure Guarded (p : Pool ι (Site codec A) Thread) : Prop where
  locked : ∀ i, (p.locals i).phase.inside = true → p.shared.locked = true
  exclusive : ∀ i j, (p.locals i).phase.inside = true → (p.locals j).phase.inside = true → j = i

lemma phase_update (i j : ι) (s' : Site codec A) (phase' : EnrollPhase) :
    (Function.update p.locals i ((p.locals i).moved s' phase') j).phase = if j = i then phase' else (p.locals j).phase := by
  by_cases hj : j = i
  · rw [hj, Function.update_self, phase_moved, if_pos rfl]
  · rw [Function.update_of_ne hj, if_neg hj]

lemma Guarded.advance (h : Guarded p) (i : ι) : Guarded (p.advance (Site.body authorities jwt calls) i) := by
  rcases advance_cases calls with he | ⟨s', phase', hstep, he⟩
  · rwa [he]
  rw [he]
  obtain ⟨hen, hs⟩ := (callStep_cases hstep).2
  have hph := fun j => phase_update (p := p) i j p.shared phase'
  have ho : phase'.inside = true ∨ (p.locals i).phase.inside = true →
      ∀ j, j ≠ i → (p.locals j).phase.inside = false := by
    intro hin j hj
    by_contra hjin
    rw [Bool.not_eq_false] at hjin
    cases hi : (p.locals i).phase.inside with
    | true => exact hj (h.exclusive i j hi hjin)
    | false =>
      have hf := (hen hi (hin.resolve_right (by rw [hi]; decide))).1
      rw [h.locked j hjin] at hf
      cases hf
  constructor
  · intro j hj
    dsimp only at hj ⊢
    rw [hph] at hj
    split_ifs at hj with hji
    · cases hi : (p.locals i).phase.inside with
      | true => rw [hs (hj.trans hi.symm), h.locked i hi]
      | false => exact (hen hi hj).2
    · cases hi : (p.locals i).phase.inside with
      | true =>
        rw [ho (.inr hi) j hji] at hj
        cases hj
      | false =>
        cases hp : phase'.inside with
        | true =>
          rw [ho (.inl hp) j hji] at hj
          cases hj
        | false => rw [hs (hp.trans hi.symm), h.locked j hj]
  · intro j k hj hk
    dsimp only at hj hk
    rw [hph] at hj hk
    split_ifs at hj hk with hji hki hki
    · rw [hji, hki]
    · rw [ho (.inl hj) k hki] at hk
      cases hk
    · rw [ho (.inl hk) j hji] at hj
      cases hj
    · exact h.exclusive j k hj hk

structure Timely (jwt : TokenSigner) (calls : ι → Call) (token : BootstrapToken) (p : Pool ι (Site codec A) Thread) :
    Prop where
  keeps : TokenManager.Keeps token p.shared.enrollment.tokens
  nonneg : 0 ≤ p.shared.enrollment.tokens.remaining token.id
  since : ∀ i, (p.locals i).phase ≠ .idle → (p.locals i).since ≤ p.shared.clock
  revoked : ∀ i, (p.locals i).phase ≠ .idle → (p.locals i).revoked ⊆ p.shared.revoked
  spent : token.id ∈ p.shared.revoked → p.shared.enrollment.tokens.remaining token.id = 0
  late : ∀ i, Presents jwt token.id (calls i) →
    token.expiresAt < (p.locals i).since ∨ token.id ∈ (p.locals i).revoked → (p.locals i).phase.admitted = false

lemma moved_cases {t : Thread} :
    t.phase = .idle ∧ (t.moved s phase).since = s.clock ∧ (t.moved s phase).revoked = s.revoked ∨
    t.phase ≠ .idle ∧ (t.moved s phase).since = t.since ∧ (t.moved s phase).revoked = t.revoked := by
  rw [Thread.moved]
  split
  · next hp => exact .inl ⟨hp, rfl, rfl⟩
  · next hp => exact .inr ⟨hp, rfl, rfl⟩

variable {valid : BootstrapToken}

omit [DecidableEq ι] in
lemma Timely.not_late (h : Timely jwt calls token p)
    (hcall : calls i = .enroll c) (hph : (p.locals i).phase = .locked) (hv : p.shared.validate jwt c = .ok valid)
    (hp : Presents jwt token.id (calls i)) :
    ¬(token.expiresAt < (p.locals i).since ∨ token.id ∈ (p.locals i).revoked) := by
  obtain ⟨hpr, st, hl, he, hpos⟩ := Site.validate_eq_ok hv
  rw [← hcall] at hpr
  rw [← hp.unique hpr] at hl hpos
  have hidle : (p.locals i).phase ≠ .idle := by
    rw [hph]
    exact fun hn => nomatch hn
  have hend : st.expiresAt = token.expiresAt := (h.keeps st hl).2.2.2.2.2
  rintro (hlate | hr)
  · have hs := h.since i hidle
    rw [hend] at he
    exact absurd (lt_of_lt_of_le hlate hs) (not_lt.mpr he)
  · rw [h.spent (h.revoked i hidle hr)] at hpos
    exact absurd hpos (lt_irrefl _)

lemma begun_le {β : Type} [Preorder β] {n : Thread → β} {l : Site codec A → β} {s' : Site codec A} {t : Thread}
    (ht : n t = l p.shared ∨ (p.locals i).phase ≠ .idle ∧ n t = n (p.locals i))
    (h : ∀ j, (p.locals j).phase ≠ .idle → n (p.locals j) ≤ l p.shared) (hl : l p.shared ≤ l s')
    (j : ι) (hj : (Function.update p.locals i t j).phase ≠ .idle) : n (Function.update p.locals i t j) ≤ l s' := by
  by_cases hji : j = i
  · subst hji
    rw [Function.update_self]
    rcases ht with he | ⟨hidle, he⟩
    · exact he.trans_le hl
    · exact he.trans_le ((h j hidle).trans hl)
  · rw [Function.update_of_ne hji] at hj ⊢
    exact (h j hj).trans hl

lemma Timely.advance (h : Timely jwt calls token p) (i : ι) :
    Timely jwt calls token (p.advance (Site.body authorities jwt calls) i) := by
  rcases advance_cases calls with he | ⟨s', phase', hstep, he⟩
  · rwa [he]
  rw [he]
  have hef := (callStep_cases hstep).1
  obtain ⟨hno, hle⟩ := hef.remaining_le h.nonneg
  refine ⟨hef.keeps h.keeps, hno, ?_, ?_, ?_, ?_⟩
  · apply begun_le _ h.since hef.clock_le
    exact moved_cases.imp (fun hm => hm.2.1) fun hm => ⟨hm.1, hm.2.1⟩
  · apply begun_le _ h.revoked hef.revoked_subset
    exact moved_cases.imp (fun hm => hm.2.2) fun hm => ⟨hm.1, hm.2.2⟩
  · intro hrev
    dsimp only at hrev ⊢
    have hsp : token.id ∈ p.shared.revoked → s'.enrollment.tokens.remaining token.id = 0 := by
      intro hmem
      rw [h.spent hmem] at hle
      exact le_antisymm hle hno
    rcases hef.tokens_cases with ⟨-, hsame⟩ | ⟨_, _, _, -, -, hsame, -⟩ | ⟨ti, ht, -, hsub⟩ | ⟨-, hsame⟩
    · exact hsp (hsame ▸ hrev)
    · exact hsp (hsame ▸ hrev)
    · rcases Finset.mem_insert.mp (hsub hrev) with hid | hmem
      · rw [ht, remaining_revokeToken, if_pos hid]
      · exact hsp hmem
    · exact hsp (hsame ▸ hrev)
  · intro j hp hl
    by_cases hj : j = i
    · subst hj
      dsimp only at hl ⊢
      rw [Function.update_self] at hl ⊢
      rw [phase_moved]
      by_contra hadm
      rw [Bool.not_eq_false] at hadm
      rcases moved_cases with ⟨hidle, -, -⟩ | ⟨-, hs, hr⟩
      · -- the first step of a thread does not let it in
        rcases hef.admitted hadm with ha | ⟨c, valid, -, hph, -⟩
        · rw [hidle] at ha
          cases ha
        · rw [hidle] at hph
          cases hph
      · rw [hs, hr] at hl
        rcases hef.admitted hadm with ha | ⟨c, valid, hcall, hph, -, -, hv⟩
        · rw [h.late j hp hl] at ha
          cases ha
        · exact h.not_late hcall hph hv hp hl
    · dsimp only at hl ⊢
      rw [Function.update_of_ne hj] at hl ⊢
      exact h.late j hp hl

def Let (jwt : TokenSigner) (calls : ι → Call) (id : String) (locals : ι → Thread) (T : Finset ι) : Prop :=
  ∀ i ∈ T, Presents jwt id (calls i) ∧ (locals i).phase.admitted = true

def Settled (id : String) (locals : ι → Thread) : Prop := ∀ i token, (locals i).phase.held = some token → token.id ≠ id

structure Counted (jwt : TokenSigner) (calls : ι → Call) (token : BootstrapToken) (p : Pool ι (Site codec A) Thread) :
    Prop where
  held : ∀ i valid, (p.locals i).phase.held = some valid → Presents jwt valid.id (calls i)
  bounded : ∀ T, Let jwt calls token.id p.locals T → T.card ≤ token.maxUses
  pending : ∀ T, Let jwt calls token.id p.locals T →
    T.card + p.shared.enrollment.tokens.remaining token.id ≤ token.maxUses + 1
  settled : ∀ T, Let jwt calls token.id p.locals T → Settled token.id p.locals →
    T.card + p.shared.enrollment.tokens.remaining token.id ≤ token.maxUses

variable {s' : Site codec A} {phase' : EnrollPhase}

lemma Let.of_update {T : Finset ι}
    (hT : Let jwt calls id (Function.update p.locals i ((p.locals i).moved p.shared phase')) T)
    (h : i ∈ T → phase'.admitted = true → (p.locals i).phase.admitted = true) : Let jwt calls id p.locals T := by
  intro j hj
  obtain ⟨hp, ha⟩ := hT j hj
  refine ⟨hp, ?_⟩
  rw [phase_update] at ha
  split_ifs at ha with hji
  · subst hji
    exact h hj ha
  · exact ha

lemma Counted.held_update (h : Counted jwt calls token p)
    (hi : ∀ valid, phase'.held = some valid → Presents jwt valid.id (calls i)) (j : ι) {valid : BootstrapToken}
    (hj : (Function.update p.locals i ((p.locals i).moved p.shared phase') j).phase.held = some valid) :
    Presents jwt valid.id (calls j) := by
  rw [phase_update] at hj
  split_ifs at hj with hji
  · rw [hji]
    exact hi valid hj
  · exact h.held j valid hj

lemma Counted.shrink (h : Counted jwt calls token p)
    (hl : s'.enrollment.tokens.remaining token.id ≤ p.shared.enrollment.tokens.remaining token.id)
    (hh : phase'.held = (p.locals i).phase.held) (ha : phase'.admitted = true → (p.locals i).phase.admitted = true) :
    Counted jwt calls token ⟨s', Function.update p.locals i ((p.locals i).moved p.shared phase')⟩ := by
  have hsame : ∀ j, (Function.update p.locals i ((p.locals i).moved p.shared phase') j).phase.held =
      (p.locals j).phase.held := by
    intro j
    rw [phase_update]
    split_ifs with hji
    · rw [hh, hji]
    · rfl
  constructor
  · exact h.held_update fun valid hv => h.held i valid (hh ▸ hv)
  · exact fun T hT => h.bounded T (hT.of_update fun _ => ha)
  · intro T hT
    have hco := h.pending T (hT.of_update fun _ => ha)
    dsimp only
    omega
  · intro T hT hs
    have hco := h.settled T (hT.of_update fun _ => ha) fun j valid hj => hs j valid (by rw [hsame]; exact hj)
    dsimp only
    omega

lemma settled_of_update (hh : (p.locals i).phase.held = some valid) (hid : valid.id ≠ id)
    (h : Settled id (Function.update p.locals i ((p.locals i).moved p.shared phase'))) : Settled id p.locals := by
  intro j v' hj
  by_cases hji : j = i
  · rw [hji, hh] at hj
    cases hj
    exact hid
  · apply h j v'
    rwa [phase_update, if_neg hji]

section

variable (h : Counted jwt calls token p)

include h

lemma Counted.letIn (hg : Guarded p) (hn : 0 ≤ p.shared.enrollment.tokens.remaining token.id)
    (hcall : calls i = .enroll c) (hph : (p.locals i).phase = .locked) (hv : p.shared.validate jwt c = .ok valid) :
    Counted jwt calls token ⟨p.shared, Function.update p.locals i ((p.locals i).moved p.shared (.validated valid))⟩ := by
  obtain ⟨hp, -, -, -, hpos⟩ := Site.validate_eq_ok hv
  rw [← hcall] at hp
  have hs : Settled token.id p.locals := by
    intro j v' hj
    have hji := hg.exclusive i j (by rw [hph]; rfl) (EnrollPhase.inside_of_held hj)
    rw [hji, hph] at hj
    cases hj
  have he : ∀ T, Let jwt calls token.id (Function.update p.locals i ((p.locals i).moved p.shared (.validated valid))) T →
      Let jwt calls token.id p.locals (T.erase i) := fun T hT =>
    Let.of_update (fun j hj => hT j (Finset.mem_of_mem_erase hj)) fun hi => absurd hi (Finset.notMem_erase i T)
  have hco : ∀ T, Let jwt calls token.id (Function.update p.locals i ((p.locals i).moved p.shared (.validated valid))) T →
      T.card + p.shared.enrollment.tokens.remaining token.id ≤ token.maxUses ∨
        valid.id = token.id ∧ T.card + p.shared.enrollment.tokens.remaining token.id ≤ token.maxUses + 1 := by
    intro T hT
    have ho := h.settled _ (he T hT) hs
    by_cases hi : i ∈ T
    · have hcard := Finset.card_erase_add_one hi
      exact .inr ⟨hp.unique (hT i hi).1, by omega⟩
    · rw [Finset.erase_eq_of_notMem hi] at ho
      exact .inl ho
  constructor
  · refine h.held_update fun v' hv => ?_
    cases hv
    exact hp
  · intro T hT
    rcases hco T hT with hl | ⟨hid, hl⟩
    · omega
    · rw [hid] at hpos
      omega
  · intro T hT
    rcases hco T hT with hl | ⟨-, hl⟩
    · dsimp only
      omega
    · exact hl
  · intro T hT hnew
    rcases hco T hT with hl | ⟨hid, -⟩
    · exact hl
    · refine absurd hid (hnew i valid ?_)
      rw [phase_update, if_pos rfl]
      rfl

lemma Counted.refuse {err : String}
    (hp : (p.locals i).phase = .validated valid) (ht : s'.enrollment.tokens = p.shared.enrollment.tokens) :
    Counted jwt calls token
      ⟨s', Function.update p.locals i ((p.locals i).moved p.shared (.returned (.error err)))⟩ := by
  have ho : ∀ T, Let jwt calls token.id
      (Function.update p.locals i ((p.locals i).moved p.shared (.returned (.error err)))) T →
      i ∉ T ∧ Let jwt calls token.id p.locals T := by
    intro T hT
    have hi : i ∉ T := by
      intro hi
      have ha := (hT i hi).2
      rw [phase_update, if_pos rfl] at ha
      cases ha
    exact ⟨hi, hT.of_update fun hm => absurd hm hi⟩
  constructor
  · exact h.held_update fun _ hv => nomatch hv
  · exact fun T hT => h.bounded T (ho T hT).2
  · intro T hT
    dsimp only
    rw [ht]
    exact h.pending T (ho T hT).2
  · intro T hT hnew
    obtain ⟨hi, hold⟩ := ho T hT
    have hh : (p.locals i).phase.held = some valid := by
      rw [hp]
      rfl
    dsimp only
    rw [ht]
    by_cases hid : valid.id = token.id
    · -- the thread itself was counted among those let in
      have hw : Let jwt calls token.id p.locals (insert i T) := by
        intro j hj
        rcases Finset.mem_insert.mp hj with rfl | hj
        · exact ⟨hid ▸ h.held j valid hh, by rw [hp]; rfl⟩
        · exact hold j hj
      have hco := h.pending _ hw
      rw [Finset.card_insert_of_notMem hi] at hco
      push_cast at hco
      omega
    · exact h.settled T hold (settled_of_update hh hid hnew)

lemma Counted.mark (hn : 0 ≤ p.shared.enrollment.tokens.remaining token.id) {n : NodeInfo} {ce : Certificate}
    (hp : (p.locals i).phase = .registered valid n ce)
    (ht : s'.enrollment.tokens = (p.shared.enrollment.tokens.useToken p.shared.clock valid.id n.id).2) :
    Counted jwt calls token ⟨s', Function.update p.locals i ((p.locals i).moved p.shared (.marked n ce))⟩ := by
  have hh : (p.locals i).phase.held = some valid := by
    rw [hp]
    rfl
  have ho : ∀ T, Let jwt calls token.id
      (Function.update p.locals i ((p.locals i).moved p.shared (.marked n ce))) T →
      Let jwt calls token.id p.locals T :=
    fun T hT => hT.of_update fun _ _ => by rw [hp]; rfl
  have hr := remaining_useToken p.shared.clock valid.id n.id p.shared.enrollment.tokens token.id
  rw [← ht] at hr
  constructor
  · exact h.held_update fun _ hv => nomatch hv
  · exact fun T hT => h.bounded T (ho T hT)
  · intro T hT
    have hco := h.pending T (ho T hT)
    dsimp only
    rw [hr]
    split_ifs
    · omega
    · exact hco
  · intro T hT hnew
    have hco := h.pending T (ho T hT)
    have hbo := h.bounded T (ho T hT)
    dsimp only
    rw [hr]
    by_cases hid : valid.id = token.id
    · rw [hid]
      split_ifs with hpos
      · omega
      · have hz : ¬0 < p.shared.enrollment.tokens.remaining token.id := fun hl => hpos ⟨rfl, hl⟩
        omega
    · rw [if_neg fun hb => hid hb.1.symm]
      exact h.settled T (ho T hT) (settled_of_update hh hid hnew)

lemma Counted.advance (hg : Guarded p) (ht : Timely jwt calls token p) (i : ι) :
    Counted jwt calls token (p.advance (Site.body authorities jwt calls) i) := by
  rcases advance_cases calls with he | ⟨s', phase', hs, he⟩
  · rwa [he]
  rw [he]
  have hef := (callStep_cases hs).1
  have hle := (hef.remaining_le ht.nonneg).2
  generalize hcall : calls i = call at hef
  generalize hp : (p.locals i).phase = phase at hef
  cases hef with
  | quiet tokens _ _ held admitted =>
    subst hp
    exact h.shrink hle held admitted
  | letIn c valid hv => exact h.letIn hg ht.nonneg hcall hp hv
  | refuse valid err tokens _ _ => exact h.refuse hp tokens
  | mark valid node cert => exact h.mark ht.nonneg hp rfl
  | revoke | cleanup | wait => exact h.shrink hle (by rw [hp]; rfl) (fun hn => nomatch hn)

end

def atRest (enrollment : Enrollment codec A) (clock : Time) : Pool ι (Site codec A) Thread :=
  ⟨{ enrollment := enrollment, clock := clock }, fun _ => {}⟩

theorem bootstrap_token_bounded {tm tm' : TokenManager} {uuid : String} {now : Time}
    {nodeID nodeName region zone : String} {validityDuration maxUses : ℤ} {token : BootstrapToken}
    (hgen : tm.generateToken jwt uuid now nodeID nodeName region zone validityDuration maxUses = (.ok token, tm'))
    {enrollment : Enrollment codec A} (htokens : enrollment.tokens = tm') (clock : Time) (calls : ι → Call)
    (schedule : List ι) :
    (∀ succeeded : Finset ι, (∀ i ∈ succeeded, (∃ c, calls i = .enroll c ∧ c.token = token.token) ∧
        ∃ resp, ((run (Pool.advance (Site.body authorities jwt calls)) (atRest enrollment clock) schedule).locals i).phase =
          .returned (.ok resp)) → succeeded.card ≤ max maxUses 1) ∧
    ∀ i c, calls i = .enroll c → c.token = token.token → (token.expiresAt <
          ((run (Pool.advance (Site.body authorities jwt calls)) (atRest enrollment clock) schedule).locals i).since ∨
        token.id ∈
          ((run (Pool.advance (Site.body authorities jwt calls)) (atRest enrollment clock) schedule).locals i).revoked) →
      ∀ resp, ((run (Pool.advance (Site.body authorities jwt calls)) (atRest enrollment clock) schedule).locals i).phase ≠
        .returned (.ok resp) := by
  obtain ⟨hid, -, -, -, -, hm, hcou, ⟨cs, hcla, hcl⟩, hput⟩ := generateToken_eq_ok hgen
  have hk : TokenManager.Keeps token enrollment.tokens := by
    rw [htokens]
    exact keeps_of_generateToken hgen
  have hrem : enrollment.tokens.remaining token.id = token.maxUses := by
    rw [htokens, hput, remaining_put, if_pos rfl, hcou, sub_zero]
  have hp : ∀ c : EnrollCall, c.token = token.token → Presents jwt token.id (.enroll c) := by
    intro c hc
    refine ⟨cs, ?_, hcl.trans hid.symm⟩
    rwa [hc]
  have he : ∀ T : Finset ι, Let jwt calls token.id (fun _ => {}) T → T = ∅ := by
    intro T hT
    refine Finset.eq_empty_of_forall_notMem fun i hi => ?_
    have ha := (hT i hi).2
    cases ha
  have hst : Guarded (atRest enrollment clock : Pool ι (Site codec A) Thread) ∧
      Timely jwt calls token (atRest enrollment clock) ∧ Counted jwt calls token (atRest enrollment clock) := by
    have hpos : 0 ≤ token.maxUses := hm ▸ le_max_of_le_right zero_le_one
    refine ⟨⟨?_, ?_⟩, ⟨hk, hrem.symm ▸ hpos, fun _ hn => absurd rfl hn, fun _ hn => absurd rfl hn,
      fun hn => absurd hn (Finset.notMem_empty _), fun _ _ _ => rfl⟩, ⟨?_, ?_, ?_, ?_⟩⟩
    · intro i hi
      cases hi
    · intro i j hi
      cases hi
    · intro i valid hi
      cases hi
    · intro T hT
      rwa [he T hT]
    · intro T hT
      dsimp only [atRest]
      rw [he T hT, hrem, Finset.card_empty]
      omega
    · intro T hT _
      dsimp only [atRest]
      rw [he T hT, hrem, Finset.card_empty]
      omega
  obtain ⟨-, hti, hco⟩ : Guarded _ ∧ Timely jwt calls token _ ∧ Counted jwt calls token
      (run (Pool.advance (Site.body authorities jwt calls)) (atRest enrollment clock) schedule) :=
    run_preserves (fun p : Pool ι (Site codec A) Thread =>
      Guarded p ∧ Timely jwt calls token p ∧ Counted jwt calls token p) schedule
        (fun p i _ h => ⟨h.1.advance i, h.2.1.advance i, h.2.2.advance h.1 h.2.1 i⟩) hst
  refine ⟨?_, ?_⟩
  · intro succeeded hs
    rw [← hm]
    apply hco.bounded
    intro i hi
    obtain ⟨⟨c, hc, ht⟩, resp, hr⟩ := hs i hi
    refine ⟨?_, ?_⟩
    · rw [hc]
      exact hp c ht
    · rw [hr]
      rfl
  · intro i c hc ht hl resp hr
    have hnot := hti.late i (by rw [hc]; exact hp c ht) hl
    rw [hr] at hnot
    cases hnot

end Runs

def edgeCalls (_ : Bool) : Call :=
  .enroll ⟨edgeToken.token, enrollRequest "edge" "eu", { now := 0 }, Registry.committed, false⟩

def edgeSchedule : List Bool := [false, true, false, true, true, false, true, true, true, true, false, false]

theorem bootstrap_token_bounded_edge :
    ({} : TokenManager).generateToken (soleSigner edgeClaims) "id" 0 "" "edge" "eu" "" 0 0 =
      (.ok edgeToken, edgeEnrollment.tokens) ∧
    ((run (Pool.advance (Site.body plainAuthorities (soleSigner edgeClaims) edgeCalls)) (atRest edgeEnrollment 0)
      edgeSchedule).locals true).phase.admitted = true ∧
    ∀ succeeded : Finset Bool, (∀ i ∈ succeeded, (∃ c, edgeCalls i = .enroll c ∧ c.token = edgeToken.token) ∧
      ∃ resp, ((run (Pool.advance (Site.body plainAuthorities (soleSigner edgeClaims) edgeCalls)) (atRest edgeEnrollment 0)
        edgeSchedule).locals i).phase = .returned (.ok resp)) → (succeeded.card : ℤ) ≤ max 0 1 :=
  ⟨edgeToken_generated, by decide +kernel,
    (bootstrap_token_bounded edgeToken_generated rfl 0 edgeCalls edgeSchedule).1⟩

end Cloudless.Membership.TokenUse
