import Mathlib.Tactic

namespace Cloudless.Overlay

/-- A parsed network: its IPv4 address if it has one, and the number of bits its mask leaves to the hosts. -/
structure IPNet where
  ip4 : Option UInt32
  hostBits : ℕ
  masked : ∀ n, ip4 = some n → hostBits ≤ 32 ∧ n.toNat % 2 ^ hostBits = 0

def uint32ToIP (n : UInt32) : String :=
  toString (n >>> 24).toUInt8.toNat ++ "." ++ toString (n >>> 16).toUInt8.toNat ++ "." ++
    toString (n >>> 8).toUInt8.toNat ++ "." ++ toString n.toUInt8.toNat

lemma dot_mem_uint32ToIP (n : UInt32) : '.' ∈ (uint32ToIP n).toList := by simp [uint32ToIP]

lemma uint32ToIP_ne_empty {n : UInt32} : uint32ToIP n ≠ "" := by
  intro h
  have hd := dot_mem_uint32ToIP n
  rw [h] at hd
  cases hd

namespace IPNet

def totalAddresses (network : IPNet) : UInt32 := UInt32.ofNat (2 ^ network.hostBits)

variable (network : IPNet)

def startOffset : UInt32 := if network.hostBits = 1 then 0 else 1

def endOffset : UInt32 :=
  if network.hostBits = 1 then network.totalAddresses else network.totalAddresses - 1

def maxHosts : UInt32 := network.endOffset - network.startOffset

def Offers (ip : String) : Prop :=
  ∃ networkUint host, network.ip4 = some networkUint ∧ host < network.maxHosts ∧
    ip = uint32ToIP (networkUint + (network.startOffset + host))

end IPNet

structure IPPool where
  network : IPNet
  allocated : Finset String
  nextOffset : UInt32

def newIPPool (parseCIDR : String → Except String IPNet) (cidr : String) : Except String IPPool :=
  match parseCIDR (if cidr = "" then "10.96.0.0/12" else cidr) with
  | .error err => .error ("invalid CIDR: " ++ err)
  | .ok network => .ok ⟨network, ∅, network.startOffset⟩

lemma newIPPool_eq_ok {pc : String → Except String IPNet} {c : String} {p : IPPool}
    (h : newIPPool pc c = .ok p) : p.allocated = ∅ := by
  rw [newIPPool] at h
  split at h
  · cases h
  · cases h
    rfl

namespace IPPool

def offset (pool : IPPool) (i : UInt32) : UInt32 :=
  pool.network.startOffset + (pool.nextOffset - pool.network.startOffset + i) % pool.network.maxHosts

def search (pool : IPPool) (networkUint : UInt32) : ℕ → UInt32 → Option UInt32
  | 0, _ => none
  | rounds + 1, i =>
    if uint32ToIP (networkUint + pool.offset i) ∈ pool.allocated then search pool networkUint rounds (i + 1)
    else some (pool.offset i)

def allocate (pool : IPPool) : Except String String × IPPool :=
  match pool.network.ip4 with
  | none => (.error "only IPv4 is supported", pool)
  | some networkUint =>
    match pool.search networkUint pool.network.maxHosts.toNat 0 with
    | none => (.error "IP pool exhausted", pool)
    | some offset =>
      (.ok (uint32ToIP (networkUint + offset)),
        { pool with
          allocated := insert (uint32ToIP (networkUint + offset)) pool.allocated
          nextOffset := pool.network.startOffset + (offset - pool.network.startOffset + 1) % pool.network.maxHosts })

def release (ip : String) (pool : IPPool) : IPPool := { pool with allocated := pool.allocated.erase ip }

lemma release_eq_self {pool : IPPool} {ip : String} (h : ip ∉ pool.allocated) : pool.release ip = pool := by
  rw [release, Finset.erase_eq_of_notMem h]

lemma search_eq_some {p : IPPool} {nu o : UInt32} {rs : ℕ} {i : UInt32} (h : p.search nu rs i = some o) :
    uint32ToIP (nu + o) ∉ p.allocated ∧ ∃ i, o = p.offset i := by
  induction rs generalizing i with
  | zero => cases h
  | succ rs ih =>
    rw [search] at h
    split_ifs at h with hm
    · exact ih h
    · cases h
      exact ⟨hm, i, rfl⟩

lemma allocate_cases (p : IPPool) : (∃ err, p.allocate = (.error err, p)) ∨
    ∃ ip p', p.allocate = (.ok ip, p') ∧ p.network.Offers ip ∧ ip ∉ p.allocated ∧ ip ≠ "" ∧
      p'.network = p.network ∧ p'.allocated = insert ip p.allocated := by
  rw [allocate]
  cases hnet : p.network.ip4 with
  | none => exact .inl ⟨_, rfl⟩
  | some nu =>
    dsimp only
    cases hs : p.search nu p.network.maxHosts.toNat 0 with
    | none => exact .inl ⟨_, rfl⟩
    | some o =>
      obtain ⟨hf, i, rfl⟩ := search_eq_some hs
      have hpos : p.network.maxHosts ≠ 0 := by
        intro hz
        rw [hz] at hs
        cases hs
      refine .inr ⟨_, _, rfl, ⟨nu, _, hnet, ?_, rfl⟩, hf, uint32ToIP_ne_empty, rfl, rfl⟩
      exact UInt32.mod_lt _ (UInt32.pos_iff_ne_zero.mpr hpos)

end IPPool

end Cloudless.Overlay
