import Cloudless.Foundations.FiniteMaps
import Cloudless.Foundations.GoStd

namespace Cloudless.Mtls

open Foundations FiniteMaps GoStd

structure TokenClaims where
  (tokenID nodeID nodeName region zone : String)
  maxUses : ℤ
  (issuedAt expiresAt : Time)
  deriving DecidableEq

structure BootstrapToken where
  id : String
  token : String := ""
  (nodeID nodeName region zone : String)
  (createdAt expiresAt : Time)
  used : Bool := false
  usedAt : Time := 0
  usedBy : String := ""
  maxUses : ℤ
  useCount : ℤ := 0
  deriving DecidableEq

/-- The JWT library with a signing key, and what it documents of `jwt.ParseWithClaims`. -/
structure TokenSigner extends Codec TokenClaims String where
  parseClaims : Time → String → Except String TokenClaims
  parseClaims_eq_ok : ∀ {now tokenString claims}, parseClaims now tokenString = .ok claims ↔
    unmarshal tokenString = .ok claims ∧ now < claims.expiresAt

def soleSigner (claims : TokenClaims) : TokenSigner where
  marshal c := if c = claims then .ok "token" else .error "unexpected claims"
  unmarshal s := if s = "token" then .ok claims else .error "token is malformed"
  unmarshal_marshal := by
    intro c s h
    split_ifs at h with hc
    cases h
    rw [if_pos rfl, hc]
  parseClaims now s :=
    if s = "token" ∧ now < claims.expiresAt then .ok claims else .error "token has invalid claims"
  parseClaims_eq_ok := by
    intro now s c
    split_ifs with h hs hs
    · constructor
      · intro hc
        cases hc
        exact ⟨rfl, h.2⟩
      · exact And.left
    · exact absurd h.1 hs
    · refine iff_of_false nofun ?_
      rintro ⟨hc, hv⟩
      cases hc
      exact h ⟨hs, hv⟩
    · exact iff_of_false nofun fun hc => nomatch hc.1

structure TokenManager where
  tokens : FMap String BootstrapToken := ∅
  keyed : ∀ id token, tokens.lookup id = some token → token.id = id := by
    intro id token h
    cases h

def defaultValidity : ℤ := 24 * 60 * 60 * 1000000000

namespace TokenManager

def put (token : BootstrapToken) (tm : TokenManager) : TokenManager where
  tokens := tm.tokens.insert token.id token
  keyed id token' h := by
    rw [lookup_insert_if] at h
    split_ifs at h with hid
    · cases h
      exact hid.symm
    · exact tm.keyed id token' h

def generateToken (jwt : TokenSigner) (uuid : String) (now : Time) (nodeID nodeName region zone : String)
    (validityDuration maxUses : ℤ) (tm : TokenManager) : Except String BootstrapToken × TokenManager :=
  let validityDuration := if validityDuration ≤ 0 then defaultValidity else validityDuration
  let maxUses := if maxUses ≤ 0 then 1 else maxUses
  let expiresAt := now + validityDuration
  match jwt.marshal ⟨uuid, nodeID, nodeName, region, zone, maxUses, wholeSeconds now, wholeSeconds expiresAt⟩ with
  | .error err => (.error ("failed to sign token: " ++ err), tm)
  | .ok tokenString =>
    let token : BootstrapToken :=
      { id := uuid
        token := tokenString
        nodeID := nodeID
        nodeName := nodeName
        region := region
        zone := zone
        createdAt := now
        expiresAt := expiresAt
        maxUses := maxUses }
    (.ok token, tm.put { token with token := "" })

-- The clock is read by the parser and then for the stored expiry.
def validateToken (jwt : TokenSigner) (clock : ℕ → Time) (tokenString : String) (tm : TokenManager) :
    Except String BootstrapToken :=
  match jwt.parseClaims (clock 0) tokenString with
  | .error err => .error ("failed to parse token: " ++ err)
  | .ok claims =>
    match tm.tokens.lookup claims.tokenID with
    | none => .error "token not found"
    | some storedToken =>
      if storedToken.expiresAt < clock 1 then .error "token has expired"
      else if storedToken.maxUses ≤ storedToken.useCount then
        .error ("token has reached maximum uses (" ++ toString storedToken.useCount ++ "/" ++
          toString storedToken.maxUses ++ ")")
      else .ok { storedToken with token := tokenString }

def useToken (now : Time) (tokenID usedBy : String) (tm : TokenManager) : Option String × TokenManager :=
  match tm.tokens.lookup tokenID with
  | none => (some ("token not found: " ++ tokenID), tm)
  | some token =>
    if token.maxUses ≤ token.useCount then (some "token has reached maximum uses", tm)
    else
      (none, tm.put
        { token with
          useCount := token.useCount + 1
          usedAt := now
          usedBy := usedBy
          used := token.used || token.maxUses ≤ token.useCount + 1 })

def revokeToken (tokenID : String) (tm : TokenManager) : Option String × TokenManager :=
  match tm.tokens.lookup tokenID with
  | none => (some ("token not found: " ++ tokenID), tm)
  | some token => (none, tm.put { token with used := true, useCount := token.maxUses })

def Removable (now : Time) (token : BootstrapToken) : Prop :=
  token.expiresAt < now ∨ token.used = true ∧ token.maxUses ≤ token.useCount

instance (now : Time) (token : BootstrapToken) : Decidable (Removable now token) :=
  inferInstanceAs (Decidable (_ ∨ _))

def cleanupExpiredTokens (now : Time) (tm : TokenManager) : ℕ × TokenManager :=
  (size (filterMap (fun _ token => if Removable now token then some token else none) tm.tokens),
    { tokens := filterMap (fun _ token => if Removable now token then none else some token) tm.tokens
      keyed := by
        intro id token h
        rw [lookup_filterMap, Option.bind_eq_some_iff] at h
        obtain ⟨token', hl, ht⟩ := h
        split_ifs at ht
        cases ht
        exact tm.keyed id token hl })

def remaining (id : String) (tm : TokenManager) : ℤ := (tm.tokens.lookup id).elim 0 fun token => token.maxUses - token.useCount

variable {jwt : TokenSigner} {tm : TokenManager} {id : String}

variable {uuid : String} {ni nn re zone : String} {vd maxUses : ℤ} {token : BootstrapToken}

variable {now : Time} {tm' : TokenManager}

lemma generateToken_eq_ok (h : tm.generateToken jwt uuid now ni nn re zone vd maxUses = (.ok token, tm')) :
    token.id = uuid ∧ token.nodeID = ni ∧ token.nodeName = nn ∧ token.region = re ∧ token.zone = zone ∧
      token.maxUses = max maxUses 1 ∧ token.useCount = 0 ∧
      (∃ cs, jwt.unmarshal token.token = .ok cs ∧ cs.tokenID = uuid) ∧ tm' = tm.put { token with token := "" } := by
  have hmax : (if maxUses ≤ 0 then 1 else maxUses) = max maxUses 1 := by
    split_ifs with hl
    · rw [max_eq_right (by omega)]
    · rw [max_eq_left (by omega)]
  rw [generateToken] at h
  dsimp only at h
  split at h
  · cases h
  · next ts hm =>
    cases h
    exact ⟨rfl, rfl, rfl, rfl, rfl, hmax, rfl, ⟨_, jwt.unmarshal_marshal hm, rfl⟩, rfl⟩

lemma generateToken_eq (h : (tm.generateToken jwt uuid now ni nn re zone vd maxUses).1 = .ok token) :
    tm.generateToken jwt uuid now ni nn re zone vd maxUses = (.ok token, tm.put { token with token := "" }) := by
  cases hg : tm.generateToken jwt uuid now ni nn re zone vd maxUses with
  | mk r tm' =>
    rw [hg] at h
    cases h
    obtain ⟨-, -, -, -, -, -, -, -, rfl⟩ := generateToken_eq_ok hg
    rfl

lemma validateToken_eq_ok {clock : ℕ → Time} {tokenString : String}
    (h : tm.validateToken jwt clock tokenString = .ok token) :
    ∃ claims stored, jwt.unmarshal tokenString = .ok claims ∧ tm.tokens.lookup claims.tokenID = some stored ∧
      clock 1 ≤ stored.expiresAt ∧ stored.useCount < stored.maxUses ∧ token = { stored with token := tokenString } := by
  rw [validateToken] at h
  split at h
  · cases h
  · next claims hp =>
    have hcl := (jwt.parseClaims_eq_ok.mp hp).1
    split at h
    · cases h
    · next stored hl =>
      split_ifs at h with he huses
      cases h
      exact ⟨claims, stored, hcl, hl, not_lt.mp he, not_le.mp huses, rfl⟩

@[simp] lemma lookup_put {token : BootstrapToken} {id : String} :
    (tm.put token).tokens.lookup id = if id = token.id then some token else tm.tokens.lookup id :=
  lookup_insert_if ..

lemma lookup_cleanupExpiredTokens {id : String} :
    (tm.cleanupExpiredTokens now).2.tokens.lookup id = (tm.tokens.lookup id).filter fun token => ¬Removable now token := by
  rw [cleanupExpiredTokens, lookup_filterMap]
  cases tm.tokens.lookup id with
  | none => rfl
  | some token =>
    rw [Option.bind_some, Option.filter_some]
    by_cases h : Removable now token <;> simp [h]

def Keeps (token : BootstrapToken) (tm : TokenManager) : Prop :=
  ∀ stored, tm.tokens.lookup token.id = some stored →
    stored.nodeID = token.nodeID ∧ stored.nodeName = token.nodeName ∧ stored.region = token.region ∧
      stored.zone = token.zone ∧ stored.maxUses = token.maxUses ∧ stored.expiresAt = token.expiresAt

lemma keeps_of_generateToken (h : tm.generateToken jwt uuid now ni nn re zone vd maxUses = (.ok token, tm')) :
    Keeps token tm' := by
  obtain ⟨-, -, -, -, -, -, -, -, rfl⟩ := generateToken_eq_ok h
  intro s hl
  rw [lookup_put, if_pos rfl] at hl
  cases hl
  exact ⟨rfl, rfl, rfl, rfl, rfl, rfl⟩

lemma Keeps.put {token u : BootstrapToken} (h : Keeps token tm) (hnew : u.id = token.id →
    u.nodeID = token.nodeID ∧ u.nodeName = token.nodeName ∧ u.region = token.region ∧
      u.zone = token.zone ∧ u.maxUses = token.maxUses ∧ u.expiresAt = token.expiresAt) : Keeps token (tm.put u) := by
  intro s hl
  rw [lookup_put] at hl
  split_ifs at hl with hid
  · cases hl
    exact hnew hid.symm
  · exact h s hl

lemma Keeps.update {token s u : BootstrapToken} {tokenID : String} (h : Keeps token tm)
    (hl : tm.tokens.lookup tokenID = some s) (hid : u.id = s.id)
    (hu : u.nodeID = s.nodeID ∧ u.nodeName = s.nodeName ∧ u.region = s.region ∧
      u.zone = s.zone ∧ u.maxUses = s.maxUses ∧ u.expiresAt = s.expiresAt) : Keeps token (tm.put u) := by
  apply h.put
  intro he
  have ht : tokenID = token.id := by
    rw [← he, hid, tm.keyed tokenID s hl]
  rw [ht] at hl
  obtain ⟨h₁, h₂, h₃, h₄, h₅, h₆⟩ := h s hl
  obtain ⟨u₁, u₂, u₃, u₄, u₅, u₆⟩ := hu
  exact ⟨u₁.trans h₁, u₂.trans h₂, u₃.trans h₃, u₄.trans h₄, u₅.trans h₅, u₆.trans h₆⟩

lemma Keeps.useToken (h : Keeps token tm) (now : Time) (tokenID usedBy : String) :
    Keeps token (tm.useToken now tokenID usedBy).2 := by
  rw [TokenManager.useToken]
  split
  · exact h
  · next s hl =>
    split_ifs
    · exact h
    · exact h.update hl rfl ⟨rfl, rfl, rfl, rfl, rfl, rfl⟩

lemma Keeps.revokeToken (h : Keeps token tm) (tokenID : String) : Keeps token (tm.revokeToken tokenID).2 := by
  rw [TokenManager.revokeToken]
  split
  · exact h
  · next s hl => exact h.update hl rfl ⟨rfl, rfl, rfl, rfl, rfl, rfl⟩

lemma Keeps.cleanupExpiredTokens (h : Keeps token tm) (now : Time) : Keeps token (tm.cleanupExpiredTokens now).2 := by
  intro s hl
  rw [lookup_cleanupExpiredTokens] at hl
  exact h s (Option.filter_eq_some_iff.mp hl).1

lemma Keeps.generateToken (h : Keeps token tm) (hf : uuid ≠ token.id)
    (now : Time) (ni nn re zone : String) (vd maxUses : ℤ) :
    Keeps token (tm.generateToken jwt uuid now ni nn re zone vd maxUses).2 := by
  rw [TokenManager.generateToken]
  dsimp only
  split
  · exact h
  · exact h.put fun he => absurd he hf

lemma remaining_put (token : BootstrapToken) (tm : TokenManager) (id : String) :
    (tm.put token).remaining id = if id = token.id then token.maxUses - token.useCount else tm.remaining id := by
  rw [remaining, lookup_put, remaining]
  split_ifs <;> rfl

lemma remaining_useToken (now : Time) (tokenID usedBy : String) (tm : TokenManager) (id : String) :
    (tm.useToken now tokenID usedBy).2.remaining id =
      if id = tokenID ∧ 0 < tm.remaining tokenID then tm.remaining id - 1 else tm.remaining id := by
  rw [useToken]
  cases hl : tm.tokens.lookup tokenID with
  | none =>
    have hz : tm.remaining tokenID = 0 := by
      rw [remaining, hl]
      rfl
    rw [if_neg fun hn => by omega]
  | some token =>
    have hr : tm.remaining tokenID = token.maxUses - token.useCount := by
      rw [remaining, hl]
      rfl
    have hid := tm.keyed tokenID token hl
    dsimp only
    split_ifs with hu hb hb
    · omega
    · rfl
    · rw [remaining_put]
      dsimp only
      rw [if_pos (hb.1.trans hid.symm), hb.1, hr]
      ring
    · rw [remaining_put]
      dsimp only
      rw [if_neg]
      intro he
      exact hb ⟨he.trans hid, by omega⟩

lemma remaining_revokeToken (tokenID : String) (tm : TokenManager) (id : String) :
    (tm.revokeToken tokenID).2.remaining id = if id = tokenID then 0 else tm.remaining id := by
  rw [revokeToken]
  cases hl : tm.tokens.lookup tokenID with
  | none =>
    split_ifs with hid
    · rw [hid, remaining, hl]
      rfl
    · rfl
  | some token =>
    dsimp only
    rw [remaining_put, tm.keyed tokenID token hl]
    dsimp only
    split_ifs
    · ring
    · rfl

lemma remaining_cleanupExpiredTokens (now : Time) (tm : TokenManager) (id : String) :
    (tm.cleanupExpiredTokens now).2.remaining id = 0 ∨ (tm.cleanupExpiredTokens now).2.remaining id = tm.remaining id := by
  rw [remaining, remaining, lookup_cleanupExpiredTokens]
  cases tm.tokens.lookup id with
  | none => exact .inl rfl
  | some token =>
    rw [Option.filter_some]
    split_ifs
    · exact .inr rfl
    · exact .inl rfl

end TokenManager

end Cloudless.Mtls
