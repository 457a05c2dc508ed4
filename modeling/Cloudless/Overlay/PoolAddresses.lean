import Cloudless.Foundations.Runs
import Cloudless.Overlay.IPPool

namespace Cloudless.Overlay

open Foundations.Runs

/-- The addresses of the network that a host may have: all but the first and the last, and both of them in a pair. -/
def IPNet.Usable (network : IPNet) (ip : String) : Prop :=
  ∃ networkUint k, network.ip4 = some networkUint ∧ k < 2 ^ network.hostBits ∧
    (network.hostBits ≠ 1 → 0 < k ∧ k + 1 < 2 ^ network.hostBits) ∧ ip = uint32ToIP (networkUint + UInt32.ofNat k)

section Offers

variable {network : IPNet} (h : 1 ≤ network.hostBits) (hs : network.hostBits ≤ 31)

include h hs

lemma IPNet.toNat_maxHosts : 0 < network.maxHosts.toNat ∧ network.maxHosts.toNat ≤ 2 ^ 31 ∧
    if network.hostBits = 1 then network.startOffset.toNat = 0 ∧ network.maxHosts.toNat = 2 ^ network.hostBits
    else network.startOffset.toNat = 1 ∧ network.maxHosts.toNat + 2 = 2 ^ network.hostBits := by
  have ht : network.totalAddresses.toNat = 2 ^ network.hostBits := by
    rw [totalAddresses, UInt32.toNat_ofNat']
    exact Nat.mod_eq_of_lt (Nat.pow_lt_pow_right one_lt_two (by omega))
  have hle : 2 ^ network.hostBits ≤ 2 ^ 31 := Nat.pow_le_pow_right two_pos hs
  rw [maxHosts, endOffset, startOffset]
  split_ifs with he
  · rw [UInt32.toNat_sub, ht, he]
    decide
  · have hge : 2 ^ 2 ≤ 2 ^ network.hostBits := Nat.pow_le_pow_right two_pos (by omega)
    rw [UInt32.toNat_sub, UInt32.toNat_sub, ht, UInt32.toNat_one]
    omega

lemma IPNet.usable_iff {ip : String} : network.Usable ip ↔ network.Offers ip := by
  have hm := network.toNat_maxHosts h hs
  have hp : 2 ^ network.hostBits ≤ 2 ^ 31 := Nat.pow_le_pow_right two_pos hs
  constructor
  · rintro ⟨nu, k, hn, hk, hin, rfl⟩
    have hlt : network.startOffset.toNat ≤ k ∧ k - network.startOffset.toNat < network.maxHosts.toNat := by
      split_ifs at hm <;> omega
    refine ⟨nu, UInt32.ofNat (k - network.startOffset.toNat), hn, ?_, ?_⟩
    · rw [UInt32.lt_iff_toNat_lt, UInt32.toNat_ofNat', Nat.mod_eq_of_lt (by omega)]
      exact hlt.2
    · congr 2
      apply UInt32.toNat_inj.mp
      rw [UInt32.toNat_add, UInt32.toNat_ofNat', UInt32.toNat_ofNat']
      omega
  · rintro ⟨nu, host, hn, hlt, rfl⟩
    rw [UInt32.lt_iff_toNat_lt] at hlt
    refine ⟨nu, network.startOffset.toNat + host.toNat, hn, ?_, ?_, ?_⟩
    · split_ifs at hm <;> omega
    · split_ifs at hm <;> omega
    · rw [UInt32.ofNat_add, UInt32.ofNat_toNat, UInt32.ofNat_toNat]

end Offers

namespace IPPool

variable {pool : IPPool} {network : IPNet}

lemma search_eq_none {nu i : UInt32} {rs : ℕ} (h : pool.search nu rs i = none) {j : ℕ}
    (hj : j < rs) : uint32ToIP (nu + pool.offset (i + UInt32.ofNat j)) ∈ pool.allocated := by
  induction rs generalizing i j with
  | zero => omega
  | succ rs ih =>
    rw [search] at h
    split_ifs at h with hm
    cases j with
    | zero => simpa using hm
    | succ j =>
      have hi := ih h (j := j) (by omega)
      rwa [UInt32.add_assoc, UInt32.add_comm 1, ← UInt32.ofNat_one, ← UInt32.ofNat_add] at hi

def Placed (network : IPNet) (pool : IPPool) : Prop :=
  pool.network = network ∧ pool.nextOffset - network.startOffset < network.maxHosts

lemma Placed.covers (h : Placed network pool) (hm : network.maxHosts.toNat ≤ 2 ^ 31) {host : UInt32}
    (hh : host < network.maxHosts) :
    ∃ j < network.maxHosts.toNat, pool.offset (0 + UInt32.ofNat j) = network.startOffset + host := by
  obtain ⟨rfl, ha⟩ := h
  rw [UInt32.lt_iff_toNat_lt] at ha hh
  have ho : ∀ j < pool.network.maxHosts.toNat,
      ((pool.nextOffset - pool.network.startOffset).toNat + j) % pool.network.maxHosts.toNat = host.toNat →
      pool.offset (0 + UInt32.ofNat j) = pool.network.startOffset + host := by
    intro j hj he
    rw [offset, UInt32.zero_add]
    congr 1
    apply UInt32.toNat_inj.mp
    rw [UInt32.toNat_mod, UInt32.toNat_add, UInt32.toNat_ofNat', Nat.add_mod_mod,
      @Nat.mod_eq_of_lt _ (2 ^ 32) (by omega), he]
  rcases le_or_gt (pool.nextOffset - pool.network.startOffset).toNat host.toNat with hle | hlt
  · refine ⟨host.toNat - (pool.nextOffset - pool.network.startOffset).toNat, by omega, ho _ (by omega) ?_⟩
    rw [Nat.add_sub_cancel' hle, Nat.mod_eq_of_lt hh]
  · refine ⟨pool.network.maxHosts.toNat - (pool.nextOffset - pool.network.startOffset).toNat + host.toNat, by omega,
      ho _ (by omega) ?_⟩
    rw [← Nat.add_assoc, Nat.add_sub_cancel' ha.le, Nat.add_mod_left, Nat.mod_eq_of_lt hh]

def step (pool : IPPool) : Option String → IPPool
  | none => pool.allocate.2
  | some ip => pool.release ip

lemma Placed.step (h : Placed network pool) (call : Option String) : Placed network (pool.step call) := by
  obtain ⟨rfl, ha⟩ := h
  cases call with
  | some ip => exact ⟨rfl, ha⟩
  | none =>
    rw [IPPool.step, allocate]
    split
    · exact ⟨rfl, ha⟩
    · split
      · exact ⟨rfl, ha⟩
      · refine ⟨rfl, ?_⟩
        simp only [UInt32.add_comm pool.network.startOffset, UInt32.add_sub_cancel]
        exact UInt32.mod_lt _ (UInt32.lt_of_le_of_lt UInt32.zero_le ha)

theorem pool_addresses_exact {parseCIDR : String → Except String IPNet} {cidr : String}
    (hnew : newIPPool parseCIDR cidr = .ok pool) (h4 : pool.network.ip4.isSome) (h : 1 ≤ pool.network.hostBits)
    (hs : pool.network.hostBits ≤ 31) (calls : List (Option String)) :
    (∀ ip pool', (run step pool calls).allocate = (.ok ip, pool') →
        pool.network.Usable ip ∧ ip ∉ (run step pool calls).allocated) ∧
      ((∃ err, (run step pool calls).allocate.1 = .error err) ↔
        ∀ ip, pool.network.Usable ip → ip ∈ (run step pool calls).allocated) := by
  obtain ⟨hpos, hm, -⟩ := pool.network.toNat_maxHosts h hs
  have hst : Placed pool.network pool := by
    rw [newIPPool] at hnew
    split at hnew
    · cases hnew
    · cases hnew
      exact ⟨rfl, by simpa [UInt32.lt_iff_toNat_lt] using hpos⟩
  have hp : Placed pool.network (run step pool calls) := run_preserves _ calls (fun _ call _ hp => hp.step call) hst
  simp only [pool.network.usable_iff h hs]
  generalize run step pool calls = p at hp ⊢
  rcases p.allocate_cases with ⟨err, hc⟩ | ⟨ip, p', hc, ho, hf, -⟩
  · refine ⟨?_, iff_of_true ⟨err, by rw [hc]⟩ ?_⟩
    · intro ip pool' he
      rw [hc] at he
      cases he
    rintro ip ⟨nu', host, hn', hlt, rfl⟩
    have hse : p.search nu' p.network.maxHosts.toNat 0 = none := by
      rw [allocate, hp.1, hn'] at hc
      dsimp only at hc
      split at hc
      · next hse => rwa [hp.1]
      · cases hc
    rw [hp.1] at hse
    obtain ⟨j, hj, he⟩ := hp.covers hm hlt
    exact he ▸ search_eq_none hse hj
  · rw [hp.1] at ho
    refine ⟨fun ip' pool' he => ?_, iff_of_false ?_ fun ha => hf (ha ip ho)⟩
    · rw [hc] at he
      cases he
      exact ⟨ho, hf⟩
    · rintro ⟨err, he⟩
      rw [hc] at he
      cases he

def pairNet : IPNet := ⟨some 0x0a000000, 1, by rintro n ⟨⟩; decide⟩

theorem pool_addresses_exact_pair : (∃ err, (run step ⟨pairNet, ∅, 0⟩ [none, none]).allocate.1 = .error err) ↔
      ∀ ip, pairNet.Usable ip → ip ∈ (run step ⟨pairNet, ∅, 0⟩ [none, none]).allocated :=
  (@pool_addresses_exact ⟨pairNet, ∅, 0⟩ (fun _ => .ok pairNet) "" rfl rfl (by decide) (by decide) [none, none]).2

def singleNet : IPNet := ⟨some 0x0a000000, 0, by rintro n ⟨⟩; decide⟩

theorem address_outside_single : ((IPPool.mk singleNet ∅ 1).allocate.1 = .ok "10.0.0.1") ∧ ¬singleNet.Usable "10.0.0.1" := by
  refine ⟨by decide +kernel, ?_⟩
  rintro ⟨nu, k, -, hk, hin, -⟩
  have hi := hin (by decide)
  exact absurd hk (not_lt.mpr hi.1)

end IPPool

end Cloudless.Overlay
