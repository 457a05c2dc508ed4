import Cloudless.Foundations.FiniteMaps
import Cloudless.Foundations.GoStd

namespace Cloudless.Secrets

open Foundations FiniteMaps GoStd

def defaultTokenTTL : ℤ := 15 * 60 * 1000000000

def maxTokenTTL : ℤ := 24 * 60 * 60 * 1000000000

structure SecretTokenClaims where
  (secretRef audience tokenID : String)
  (expiresAt notBefore : Time)
  deriving DecidableEq

structure SecretAccessToken where
  (id secretRef audience : String)
  (issuedAt expiresAt : Time)
  token : String
  usesRemaining : ℤ
  lastUsedAt : Time := 0
  deriving DecidableEq

structure TokenManager where
  tokens : FMap String SecretAccessToken := ∅

/-- The JWT library with a signing key, and what it documents of `jwt.NewNumericDate` and `jwt.ParseWithClaims`. -/
structure Signer extends Codec SecretTokenClaims String where
  numericDate : Time → Time
  numericDate_le : ∀ t, numericDate t ≤ t
  parseWithClaims : Time → String → Except String SecretTokenClaims
  parseWithClaims_eq_ok : ∀ {now tokenString claims}, parseWithClaims now tokenString = .ok claims ↔
    unmarshal tokenString = .ok claims ∧ now < claims.expiresAt ∧ claims.notBefore ≤ now

def singleSigner (claims : SecretTokenClaims) : Signer where
  marshal c := if c = claims then .ok "token" else .error "unexpected claims"
  unmarshal s := if s = "token" then .ok claims else .error "token is malformed"
  unmarshal_marshal := by
    intro c s h
    split_ifs at h with hc
    cases h
    rw [if_pos rfl, hc]
  numericDate t := t / 1000000000 * 1000000000
  numericDate_le t := Int.ediv_mul_le t (by decide)
  parseWithClaims now s :=
    if s = "token" ∧ now < claims.expiresAt ∧ claims.notBefore ≤ now then .ok claims
    else .error "token has invalid claims"
  parseWithClaims_eq_ok := by
    intro now s c
    split_ifs with h hs hs
    · constructor
      · intro hc
        cases hc
        exact ⟨rfl, h.2⟩
      · exact And.left
    · exact absurd h.1 hs
    · refine iff_of_false nofun ?_
      rintro ⟨hc, hv⟩
      cases hc
      exact h ⟨hs, hv⟩
    · exact iff_of_false nofun fun hc => nomatch hc.1

namespace TokenManager

def generateToken (jwt : Signer) (uuid : String) (now : Time) (secretRef audience : String) (ttl maxUses : ℤ)
    (tm : TokenManager) : TokenManager × Except String SecretAccessToken :=
  if secretRef = "" then (tm, .error "secret reference is required")
  else if audience = "" then (tm, .error "audience is required")
  else
    let ttl := if ttl ≤ 0 then defaultTokenTTL else ttl
    if maxTokenTTL < ttl then (tm, .error "TTL cannot exceed 24h0m0s")
    else
      let expiresAt := now + ttl
      match jwt.marshal ⟨secretRef, audience, uuid, jwt.numericDate expiresAt, jwt.numericDate now⟩ with
      | .error err => (tm, .error ("failed to sign token: " ++ err))
      | .ok tokenString =>
        let accessToken : SecretAccessToken :=
          { id := uuid
            secretRef := secretRef
            audience := audience
            issuedAt := now
            expiresAt := expiresAt
            token := tokenString
            usesRemaining := maxUses }
        (⟨tm.tokens.insert uuid accessToken⟩, .ok accessToken)

-- The clock is read by the parser, for the tracked expiry and for the time of use, in this order.
def validateToken (jwt : Signer) (clock : ℕ → Time) (tokenString secretRef audience : String) (tm : TokenManager) :
    TokenManager × Except String SecretTokenClaims :=
  if tokenString = "" then (tm, .error "token is required")
  else
    match jwt.parseWithClaims (clock 0) tokenString with
    | .error err => (tm, .error ("token validation failed: " ++ err))
    | .ok claims =>
      if claims.secretRef ≠ secretRef then
        (tm, .error ("token secret reference mismatch: expected " ++ secretRef ++ ", got " ++ claims.secretRef))
      else if claims.audience ≠ audience then
        (tm, .error ("token audience mismatch: expected " ++ audience ++ ", got " ++ claims.audience))
      else
        match tm.tokens.lookup claims.tokenID with
        | none => (tm, .error "token not found in tracking system")
        | some trackedToken =>
          if trackedToken.expiresAt < clock 1 then (tm, .error "token has expired")
          else if trackedToken.usesRemaining = 0 then (tm, .error "token has no remaining uses")
          else if 0 < trackedToken.usesRemaining then
            let used := { trackedToken with usesRemaining := trackedToken.usesRemaining - 1, lastUsedAt := clock 2 }
            (⟨tm.tokens.insert claims.tokenID used⟩, .ok claims)
          else (tm, .ok claims)

def revokeToken (tokenID : String) (tm : TokenManager) : TokenManager × Option String :=
  if tokenID = "" then (tm, some "token ID is required")
  else if (tm.tokens.lookup tokenID).isNone then (tm, some ("token not found: " ++ tokenID))
  else (⟨tm.tokens.erase tokenID⟩, none)

def deleteWhere (condition : SecretAccessToken → Bool) (tm : TokenManager) : TokenManager × ℕ :=
  (⟨filterMap (fun _ token => if condition token then none else some token) tm.tokens⟩,
    size (filterMap (fun _ token => if condition token then some token else none) tm.tokens))

def revokeTokensForSecret (secretRef : String) (tm : TokenManager) : TokenManager × ℕ :=
  tm.deleteWhere fun token => token.secretRef = secretRef

def cleanupExpiredTokens (now : Time) (tm : TokenManager) : TokenManager × ℕ :=
  tm.deleteWhere fun token => token.expiresAt < now || token.usesRemaining = 0

variable {jwt : Signer}

lemma generateToken_cases {u : String} {now : Time} {sr a : String} {ttl maxUses : ℤ}
    {tm tm' : TokenManager} {r : Except String SecretAccessToken}
    (h : tm.generateToken jwt u now sr a ttl maxUses = (tm', r)) : tm' = tm ∧ (∃ err, r = .error err) ∨
    ∃ ttl' ts, 0 < ttl' ∧ ttl' ≤ maxTokenTTL ∧
      jwt.marshal ⟨sr, a, u, jwt.numericDate (now + ttl'), jwt.numericDate now⟩ = .ok ts ∧
      tm'.tokens = tm.tokens.insert u ⟨u, sr, a, now, now + ttl', ts, maxUses, 0⟩ ∧
      r = .ok ⟨u, sr, a, now, now + ttl', ts, maxUses, 0⟩ := by
  rw [generateToken] at h
  have hpos : 0 < if ttl ≤ 0 then defaultTokenTTL else ttl := by
    split_ifs
    · decide
    · omega
  dsimp only at h
  generalize (if ttl ≤ 0 then defaultTokenTTL else ttl) = ttl' at h hpos
  split_ifs at h with hr ha hmax
  · cases h
    exact .inl ⟨rfl, _, rfl⟩
  · cases h
    exact .inl ⟨rfl, _, rfl⟩
  · cases h
    exact .inl ⟨rfl, _, rfl⟩
  · split at h
    · cases h
      exact .inl ⟨rfl, _, rfl⟩
    · next ts hm =>
      cases h
      exact .inr ⟨ttl', ts, hpos, not_lt.mp hmax, hm, rfl, rfl⟩

lemma validateToken_cases {c : ℕ → Time} {ts sr a : String}
    {tm tm' : TokenManager} {r : Except String SecretTokenClaims} (h : tm.validateToken jwt c ts sr a = (tm', r)) :
    tm' = tm ∧ (∃ err, r = .error err) ∨ ∃ cs t, r = .ok cs ∧ jwt.unmarshal ts = .ok cs ∧ c 0 < cs.expiresAt ∧
      cs.secretRef = sr ∧ cs.audience = a ∧ tm.tokens.lookup cs.tokenID = some t ∧ c 1 ≤ t.expiresAt ∧
      (0 < t.usesRemaining ∧ tm'.tokens = tm.tokens.insert cs.tokenID
          { t with usesRemaining := t.usesRemaining - 1, lastUsedAt := c 2 } ∨
        t.usesRemaining < 0 ∧ tm' = tm) := by
  rw [validateToken] at h
  split_ifs at h with he
  · cases h
    exact .inl ⟨rfl, _, rfl⟩
  · split at h
    · cases h
      exact .inl ⟨rfl, _, rfl⟩
    · next cs hp =>
      rw [jwt.parseWithClaims_eq_ok] at hp
      split_ifs at h with hr ha
      · cases h
        exact .inl ⟨rfl, _, rfl⟩
      · cases h
        exact .inl ⟨rfl, _, rfl⟩
      · split at h
        · cases h
          exact .inl ⟨rfl, _, rfl⟩
        · next t hl =>
          split_ifs at h with hexp hz hpos
          · cases h
            exact .inl ⟨rfl, _, rfl⟩
          · cases h
            exact .inl ⟨rfl, _, rfl⟩
          · cases h
            exact .inr ⟨cs, t, rfl, hp.1, hp.2.1, not_not.mp hr, not_not.mp ha, hl, not_lt.mp hexp,
              .inl ⟨hpos, rfl⟩⟩
          · cases h
            exact .inr ⟨cs, t, rfl, hp.1, hp.2.1, not_not.mp hr, not_not.mp ha, hl, not_lt.mp hexp,
              .inr ⟨by omega, rfl⟩⟩

lemma lookup_deleteWhere (condition : SecretAccessToken → Bool) (tm : TokenManager) (id : String) :
    (tm.deleteWhere condition).1.tokens.lookup id =
      (tm.tokens.lookup id).bind fun token => if condition token then none else some token := by
  rw [deleteWhere, lookup_filterMap]

end TokenManager

end Cloudless.Secrets
