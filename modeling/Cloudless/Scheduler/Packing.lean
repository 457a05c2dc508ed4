import Cloudless.Scheduler.Placement
import Mathlib.Data.ENat.Lattice
import Mathlib.Order.CompletePartialOrder

namespace Cloudless.Scheduler

open Foundations.GoStd Cloudless.Membership

inductive Dimension
  | cpu
  | memory
  | storage
  | bandwidth
  | gpu
  deriving DecidableEq

instance {p : Dimension → Prop} [DecidablePred p] : Decidable (∀ d, p d) :=
  decidable_of_iff (p .cpu ∧ p .memory ∧ p .storage ∧ p .bandwidth ∧ p .gpu)
    ⟨fun h d => by cases d <;> simp [h], fun h => ⟨h _, h _, h _, h _, h _⟩⟩

/-- The dimensions by which the scheduler admits a node. -/
def Dimension.Checked : Dimension → Prop
  | .cpu | .memory | .storage => True
  | .bandwidth | .gpu => False

variable (r : ResourceSpec)

def amount : Dimension → ℤ
  | .cpu => r.cpuMillicores.toInt
  | .memory => r.memoryBytes.toInt
  | .storage => r.storageBytes.toInt
  | .bandwidth => r.bandwidthBPS.toInt
  | .gpu => r.gpuCount.toInt

def free (node : NodeInfo) (d : Dimension) : ℤ := amount node.capacity d - amount node.usage d

def packWith (place : Item → List Bin → Option (Placement × List Bin)) : List Item → List Bin → List Placement
  | [], _ => []
  | item :: items, bins =>
    match place item bins with
    | none => packWith place items bins
    | some (placement, bins) => placement :: packWith place items bins

lemma packItems_eq {items : List Item} (bins : List Bin) : packItems items bins = packWith placeItem items bins := by
  induction items generalizing bins with
  | nil => rfl
  | cons item items ih =>
    rw [packItems, packWith]
    cases placeItem item bins with
    | none => exact ih bins
    | some r => exact congrArg _ (ih r.2)

variable (item : Item)

def calculateWaste (bin : Bin) : Int64 :=
  let cpuWaste := bin.availableCPU - item.requiredCPU
  let memoryWaste := (bin.availableMemory - item.requiredMemory) / 1000000
  let storageWaste := (bin.availableStorage - item.requiredStorage) / 1000000000
  cpuWaste + memoryWaste + storageWaste

def lessWaste (best : Option ℕ × Int64) (b : Bin × ℕ) : Option ℕ × Int64 :=
  if fits item b.1 ∧ calculateWaste item b.1 < best.2 then (some b.2, calculateWaste item b.1) else best

def bestBin (bins : List Bin) : Option ℕ :=
  (bins.zipIdx.foldl (lessWaste item) (none, Int64.maxValue)).1

def placeBest (bins : List Bin) : Option (Placement × List Bin) :=
  match bestBin item bins with
  | none => none
  | some j => bins[j]?.map fun bin => (⟨bin.nodeID, bin.nodeName, item.id, bin.score⟩, bins.set j (bin.charge item))

def packBestFit (nodes : List ScoredNode) (resources : ResourceSpec) (replicas : Int64) : List Placement :=
  packWith placeBest (createItems resources replicas) (createBins nodes)

section Bins

def Item.need : Dimension → Int64
  | .cpu => item.requiredCPU
  | .memory => item.requiredMemory
  | .storage => item.requiredStorage
  | _ => 0

def Bin.left (bin : Bin) : Dimension → Int64
  | .cpu => bin.availableCPU
  | .memory => bin.availableMemory
  | .storage => bin.availableStorage
  | _ => 0

variable {item} {bin : Bin} {d : Dimension}

lemma fits_iff : fits item bin = true ↔ ∀ d, item.need d ≤ bin.left d := by
  simp only [fits, Bool.and_eq_true, decide_eq_true_eq]
  constructor
  · rintro ⟨⟨hc, hm⟩, hs⟩ d
    cases d with
    | cpu => exact hc
    | memory => exact hm
    | storage => exact hs
    | bandwidth | gpu => exact Int64.le_refl 0
  · intro h
    exact ⟨⟨h .cpu, h .memory⟩, h .storage⟩

lemma charge_left {bin : Bin} {item : Item} {d : Dimension} : (bin.charge item).left d = bin.left d - item.need d := by
  cases d with
  | cpu | memory | storage => rfl
  | bandwidth | gpu => exact (Int64.sub_self 0).symm

lemma toInt_charge_left (hf : fits item bin = true) (hn : 0 ≤ (item.need d).toInt) :
    ((bin.charge item).left d).toInt = (bin.left d).toInt - (item.need d).toInt := by
  have hl := Int64.le_iff_toInt_le.mp (fits_iff.mp hf d)
  have hlt := (bin.left d).toInt_lt
  rw [charge_left]
  exact toInt_sub_of_fits ⟨by omega, by omega⟩

noncomputable def Bin.room (need : Dimension → Int64) (bin : Bin) : ℕ∞ :=
  ⨆ k : {k : ℕ // ∀ d, k * (need d).toInt ≤ (bin.left d).toInt}, (k : ℕ)

lemma room_of_fits (hneed : ∀ d, 0 ≤ (item.need d).toInt) (hf : fits item bin = true) :
    bin.room item.need = (bin.charge item).room item.need + 1 := by
  have hch : ∀ (k : ℕ) d, k * (item.need d).toInt ≤ ((bin.charge item).left d).toInt ↔
      (k + 1 : ℕ) * (item.need d).toInt ≤ (bin.left d).toInt := by
    intro k d
    rw [toInt_charge_left hf (hneed d), Nat.cast_succ, add_mul, one_mul, le_sub_iff_add_le]
  have hz : ∀ d, (0 : ℕ) * (item.need d).toInt ≤ ((bin.charge item).left d).toInt := by
    intro d
    rw [hch, zero_add, Nat.cast_one, one_mul]
    exact Int64.le_iff_toInt_le.mp (fits_iff.mp hf d)
  have : Nonempty {k : ℕ // ∀ d, k * (item.need d).toInt ≤ ((bin.charge item).left d).toInt} := ⟨0, hz⟩
  rw [Bin.room, Bin.room, ENat.iSup_add]
  apply le_antisymm
  · apply iSup_le
    rintro ⟨k, hk⟩
    cases k with
    | zero => exact bot_le
    | succ k => exact le_iSup_of_le ⟨k, fun d => (hch k d).mpr (hk d)⟩ le_rfl
  · apply iSup_le
    rintro ⟨k, hk⟩
    exact le_iSup_of_le ⟨k + 1, fun d => (hch k d).mp (hk d)⟩ le_rfl

lemma room_of_not_fits (hneed : ∀ d, 0 ≤ (item.need d).toInt) (hf : fits item bin = false) :
    bin.room item.need = 0 := by
  rw [Bin.room, ← bot_eq_zero, iSup_eq_bot]
  rintro ⟨k, hk⟩
  by_contra hne
  have hpos : (1 : ℤ) ≤ k := by exact_mod_cast Nat.one_le_iff_ne_zero.mpr fun h0 => hne (by simp [h0])
  have hfits : fits item bin = true := by
    rw [fits_iff]
    intro d
    rw [Int64.le_iff_toInt_le]
    exact (le_mul_of_one_le_left (hneed d) hpos).trans (hk d)
  rw [hf] at hfits
  cases hfits

end Bins

section Selection

variable {need : Dimension → Int64} {good ok : Bin → Prop}
  {place : Item → List Bin → Option (Placement × List Bin)} {items : List Item} {bins : List Bin}

structure Selects (need : Dimension → Int64) (good ok : Bin → Prop)
    (place : Item → List Bin → Option (Placement × List Bin)) : Prop where
  charge : ∀ {item bin}, item.need = need → good bin → fits item bin = true →
    good (bin.charge item) ∧ (ok bin → ok (bin.charge item))
  placed : ∀ {item bins p bins'}, item.need = need → (∀ bin ∈ bins, good bin) → place item bins = some (p, bins') →
    ∃ pre bin post, bins = pre ++ bin :: post ∧ ok bin ∧ fits item bin = true ∧
      p = ⟨bin.nodeID, bin.nodeName, item.id, bin.score⟩ ∧ bins' = pre ++ bin.charge item :: post
  refused : ∀ {item bins}, item.need = need → (∀ bin ∈ bins, good bin) → place item bins = none →
    ∀ bin ∈ bins, ok bin → fits item bin = false

noncomputable def totalRoom (need : Dimension → Int64) (ok : Bin → Prop) [DecidablePred ok] (bins : List Bin) : ℕ∞ :=
  ((bins.filter fun b => ok b).map (Bin.room need)).sum

lemma Selects.good_placed (h : Selects need good ok place) {item : Item} (hitem : item.need = need) {pre p : List Bin}
    {bin : Bin} (hg : ∀ b ∈ pre ++ bin :: p, good b) (hf : fits item bin = true) :
    ∀ b ∈ pre ++ bin.charge item :: p, good b := by
  simp only [List.forall_mem_append, List.forall_mem_cons] at hg ⊢
  exact ⟨hg.1, (h.charge hitem hg.2.1 hf).1, hg.2.2⟩

lemma length_packWith [DecidablePred ok] (h : Selects need good ok place) (hneed : ∀ d, 0 ≤ (need d).toInt)
    (hit : ∀ item ∈ items, item.need = need) (hg : ∀ bin ∈ bins, good bin) :
    ((packWith place items bins).length : ℕ∞) = min (items.length : ℕ∞) (totalRoom need ok bins) := by
  induction items generalizing bins with
  | nil => simp [packWith]
  | cons item items ih =>
    obtain ⟨hitem, hit⟩ := List.forall_mem_cons.mp hit
    rw [packWith]
    cases hp : place item bins with
    | none =>
      have hz : totalRoom need ok bins = 0 := by
        rw [totalRoom, List.sum_eq_zero_iff]
        intro x hx
        obtain ⟨bin, hb, rfl⟩ := List.mem_map.mp hx
        rw [List.mem_filter, decide_eq_true_eq] at hb
        rw [← hitem] at hneed ⊢
        exact room_of_not_fits hneed (h.refused hitem hg hp bin hb.1 hb.2)
      dsimp only
      rw [ih hit hg, hz]
      simp
    | some r =>
      obtain ⟨pre, bin, p, rfl, ho, hf, -, hr⟩ := h.placed hitem hg hp
      have hroom : totalRoom need ok (pre ++ bin :: p) = totalRoom need ok r.2 + 1 := by
        have hch : ok (bin.charge item) := (h.charge hitem (hg bin (by simp)) hf).2 ho
        rw [hr]
        simp only [totalRoom, List.filter_append, List.filter_cons, ho, hch, decide_true, if_true, List.map_append,
          List.map_cons, List.sum_append, List.sum_cons]
        rw [← hitem] at hneed ⊢
        rw [room_of_fits hneed hf]
        ring
      have hg' : ∀ b ∈ r.2, good b := hr ▸ h.good_placed hitem hg hf
      dsimp only
      rw [List.length_cons, List.length_cons, Nat.cast_succ, Nat.cast_succ, ih hit hg', hroom, min_add_add_right]

structure Shares (need : Dimension → Int64) (bins : List Bin) (placements : List Placement) (shares : List (Bin × ℕ)) :
    Prop where
  bins : shares.map Prod.fst = bins
  within : ∀ s ∈ shares, 0 < s.2 → ∀ d, 0 ≤ (need d).toInt → s.2 * (need d).toInt ≤ (s.1.left d).toInt
  placements : (placements.map Placement.nodeID).Perm (shares.flatMap fun s => List.replicate s.2 s.1.nodeID)

lemma exists_shares (h : Selects need good ok place) (hit : ∀ item ∈ items, item.need = need)
    (hg : ∀ bin ∈ bins, good bin) : ∃ shares, Shares need bins (packWith place items bins) shares := by
  induction items generalizing bins with
  | nil =>
    refine ⟨bins.map fun b => (b, 0), by simp [Function.comp_def], ?_, by simp [packWith]⟩
    intro s hs hpos
    obtain ⟨b, -, rfl⟩ := List.mem_map.mp hs
    cases hpos
  | cons item items ih =>
    obtain ⟨hitem, hit⟩ := List.forall_mem_cons.mp hit
    rw [packWith]
    cases hpl : place item bins with
    | none => exact ih hit hg
    | some r =>
      obtain ⟨pre, bin, post, rfl, -, hf, hp, hr⟩ := h.placed hitem hg hpl
      obtain ⟨shares, hb, hw, hperm⟩ := ih hit (hr ▸ h.good_placed hitem hg hf)
      rw [hr] at hb
      obtain ⟨front, rest, rfl, hfr, hrest⟩ := List.map_eq_append_iff.mp hb
      obtain ⟨⟨_, k⟩, back, rfl, rfl, hback⟩ := List.map_eq_cons_iff.mp hrest
      refine ⟨front ++ (bin, k + 1) :: back, by simp [hfr, hback], ?_, ?_⟩
      · simp only [List.forall_mem_append, List.forall_mem_cons] at hw ⊢
        refine ⟨hw.1, fun _ d hn => ?_, hw.2.2⟩
        have hle := Int64.le_iff_toInt_le.mp (fits_iff.mp hf d)
        have hk := fun h0 => hw.2.1 h0 d hn
        rw [← hitem] at hn hk ⊢
        rw [toInt_charge_left hf hn] at hk
        push_cast
        rw [add_mul, one_mul]
        rcases Nat.eq_zero_or_pos k with h0 | h0
        · rw [h0, Nat.cast_zero, zero_mul]
          omega
        · have := hk h0
          omega
      · simp only [List.map_cons, List.flatMap_append, List.flatMap_cons, hp, List.replicate_succ, List.cons_append] at hperm ⊢
        exact (hperm.cons _).trans List.perm_middle.symm

lemma count_replicates {ss : List (Bin × ℕ)} (hn : (ss.map fun s => s.1.nodeID).Nodup) {s : Bin × ℕ}
    (hs : s ∈ ss) : (ss.flatMap fun s => List.replicate s.2 s.1.nodeID).count s.1.nodeID = s.2 := by
  induction ss with
  | nil => cases hs
  | cons t ss ih =>
    rw [List.map_cons, List.nodup_cons] at hn
    rw [List.flatMap_cons, List.count_append, List.count_replicate]
    rcases List.mem_cons.mp hs with rfl | hs
    · have hr : s.1.nodeID ∉ ss.flatMap fun s => List.replicate s.2 s.1.nodeID := by
        intro hm
        obtain ⟨t, ht, hid⟩ := List.mem_flatMap.mp hm
        exact hn.1 ((List.eq_of_mem_replicate hid) ▸ List.mem_map_of_mem (f := fun s => s.1.nodeID) ht)
      simp [List.count_eq_zero.mpr hr]
    · have hne : t.1.nodeID ≠ s.1.nodeID := fun he => hn.1 (he ▸ List.mem_map_of_mem (f := fun s => s.1.nodeID) hs)
      simp [ih hn.2 hs, hne]

end Selection

section Strategies

variable {need : Dimension → Int64} {item} {bin : Bin}

lemma placeItem_none {bins : List Bin} (h : placeItem item bins = none) : ∀ bin ∈ bins, fits item bin = false := by
  induction bins with
  | nil => exact List.forall_mem_nil _
  | cons bin bins ih =>
    rw [placeItem] at h
    split_ifs at h with hf
    exact List.forall_mem_cons.mpr ⟨Bool.eq_false_of_not_eq_true hf, ih (Option.map_eq_none_iff.mp h)⟩

lemma selects_placeItem : Selects need (fun _ => True) (fun _ => True) placeItem where
  charge _ _ _ := ⟨trivial, fun _ => trivial⟩
  placed _ _ h := by simpa using placeItem_some h
  refused _ _ h bin hb _ := placeItem_none h bin hb

def waste (need : Dimension → Int64) (bin : Bin) : ℤ :=
  ((bin.left .cpu).toInt - (need .cpu).toInt) + ((bin.left .memory).toInt - (need .memory).toInt) / 1000000 +
    ((bin.left .storage).toInt - (need .storage).toInt) / 1000000000

def WasteFits (need : Dimension → Int64) (bin : Bin) : Prop := (∀ d, need d ≤ bin.left d) → waste need bin < 2 ^ 63

def Saturated (need : Dimension → Int64) (bin : Bin) : Prop :=
  (∀ d, need d ≤ bin.left d) ∧ waste need bin = 2 ^ 63 - 1

instance : DecidablePred fun bin => ¬Saturated need bin :=
  fun bin => inferInstanceAs (Decidable ¬((∀ d, need d ≤ bin.left d) ∧ waste need bin = 2 ^ 63 - 1))

lemma toInt_calculateWaste (hneed : ∀ d, 0 ≤ (item.need d).toInt) (hf : fits item bin = true)
    (hfits : WasteFits item.need bin) : (calculateWaste item bin).toInt = waste item.need bin := by
  have hr := fits_iff.mp hf
  have hlt := hfits hr
  have hl : ∀ d, 0 ≤ (bin.left d).toInt - (item.need d).toInt ∧
      (bin.left d - item.need d).toInt = (bin.left d).toInt - (item.need d).toInt := by
    intro d
    have hle := Int64.le_iff_toInt_le.mp (hr d)
    have h63 := (bin.left d).toInt_lt
    have h0 := hneed d
    exact ⟨by omega, toInt_sub_of_fits ⟨by omega, by omega⟩⟩
  obtain ⟨hc, hc'⟩ := hl .cpu
  obtain ⟨hm, hm'⟩ := hl .memory
  obtain ⟨hs, hs'⟩ := hl .storage
  have hm'' : ((bin.left .memory - item.need .memory) / 1000000).toInt =
      ((bin.left .memory).toInt - (item.need .memory).toInt) / 1000000 :=
    (toInt_div_of_nonneg (hm' ▸ hm) (by decide)).trans (by rw [hm']; rfl)
  have hs'' : ((bin.left .storage - item.need .storage) / 1000000000).toInt =
      ((bin.left .storage).toInt - (item.need .storage).toInt) / 1000000000 :=
    (toInt_div_of_nonneg (hs' ▸ hs) (by decide)).trans (by rw [hs']; rfl)
  rw [waste] at hlt ⊢
  have hcm : (bin.left .cpu - item.need .cpu + (bin.left .memory - item.need .memory) / 1000000).toInt = _ :=
    toInt_add_of_fits (by rw [hc', hm'']; exact ⟨by omega, by omega⟩)
  rw [hc', hm''] at hcm
  change (bin.left .cpu - item.need .cpu + (bin.left .memory - item.need .memory) / 1000000 +
    (bin.left .storage - item.need .storage) / 1000000000).toInt = _
  rw [toInt_add_of_fits (by rw [hcm, hs'']; exact ⟨by omega, by omega⟩), hcm, hs'']

lemma waste_charge_le (hneed : ∀ d, 0 ≤ (item.need d).toInt) (hf : fits item bin = true) :
    waste item.need (bin.charge item) ≤ waste item.need bin := by
  have hc := hneed .cpu
  have hm := hneed .memory
  have hs := hneed .storage
  simp only [waste, toInt_charge_left hf (hneed _)]
  omega

lemma foldl_lessWaste {item : Item} {l : List (Bin × ℕ)} (be : Option ℕ × Int64) :
    (l.foldl (lessWaste item) be = be ∧ ∀ b ∈ l, fits item b.1 = true → ¬calculateWaste item b.1 < be.2) ∨
      ∃ b ∈ l, fits item b.1 = true ∧ calculateWaste item b.1 < be.2 ∧
        l.foldl (lessWaste item) be = (some b.2, calculateWaste item b.1) := by
  induction l generalizing be with
  | nil => exact .inl ⟨rfl, List.forall_mem_nil _⟩
  | cons b l ih =>
    rw [List.foldl_cons, lessWaste]
    split_ifs with hb
    · right
      rcases ih (some b.2, calculateWaste item b.1) with ⟨he, -⟩ | ⟨b', hb', hf, hl, he⟩
      · exact ⟨b, List.mem_cons_self .., hb.1, hb.2, he⟩
      · exact ⟨b', List.mem_cons_of_mem _ hb', hf, Int64.lt_trans hl hb.2, he⟩
    · rcases ih be with ⟨he, hnone⟩ | ⟨b', hb', hf, hl, he⟩
      · exact .inl ⟨he, List.forall_mem_cons.mpr ⟨fun hf hl => hb ⟨hf, hl⟩, hnone⟩⟩
      · exact .inr ⟨b', List.mem_cons_of_mem _ hb', hf, hl, he⟩

lemma waste_lt_iff (hneed : ∀ d, 0 ≤ (item.need d).toInt) (hf : fits item bin = true)
    (hfits : WasteFits item.need bin) : calculateWaste item bin < Int64.maxValue ↔ ¬Saturated item.need bin := by
  have hlt := hfits (fits_iff.mp hf)
  have hm : Int64.maxValue.toInt = 2 ^ 63 - 1 := by decide
  rw [Int64.lt_iff_toInt_lt, toInt_calculateWaste hneed hf hfits, hm, Saturated]
  constructor
  · intro hl hs
    omega
  · intro hs
    have hne : waste item.need bin ≠ 2 ^ 63 - 1 := fun he => hs ⟨fits_iff.mp hf, he⟩
    omega

lemma selects_placeBest (hneed : ∀ d, 0 ≤ (need d).toInt) :
    Selects need (WasteFits need) (fun bin => ¬Saturated need bin) placeBest where
  charge := by
    intro item bin hitem hfits hf
    subst hitem
    have hle := waste_charge_le hneed hf
    have hl := hfits (fits_iff.mp hf)
    refine ⟨fun _ => by omega, fun hs hs' => ?_⟩
    have he : waste item.need bin = 2 ^ 63 - 1 := by have := hs'.2; omega
    exact hs ⟨fits_iff.mp hf, he⟩
  placed := by
    intro item bins p b' hitem hfits hp
    subst hitem
    rw [placeBest, bestBin] at hp
    rcases foldl_lessWaste (none, Int64.maxValue) with ⟨he, -⟩ | ⟨b, hb, hf, hl, he⟩
    · rw [he] at hp
      cases hp
    · rw [he] at hp
      have hj := List.mem_zipIdx_iff_getElem?.mp hb
      obtain ⟨hl', hg⟩ := List.getElem?_eq_some_iff.mp hj
      simp only [hj, Option.map_some, Option.some.injEq, Prod.mk.injEq] at hp
      have hset : ∀ x, bins.set b.2 x = bins.take b.2 ++ x :: bins.drop (b.2 + 1) := by
        intro x
        rw [List.set_eq_take_append_cons_drop, if_pos hl']
      have hbins := hset b.1
      rw [← hg, List.set_getElem_self, hg] at hbins
      refine ⟨_, b.1, _, hbins, ?_, hf, hp.1.symm, by rw [← hp.2, hset]⟩
      exact (waste_lt_iff hneed hf (hfits b.1 (List.mem_of_getElem? hj))).mp hl
  refused := by
    intro item bins hitem hfits hp bin hbin hs
    subst hitem
    rw [placeBest, bestBin] at hp
    rcases foldl_lessWaste (none, Int64.maxValue) with ⟨-, hnone⟩ | ⟨b, hb, -, -, he⟩
    · obtain ⟨j, hj⟩ := List.mem_iff_getElem?.mp hbin
      rw [← Bool.not_eq_true]
      intro hf
      exact hnone (bin, j) (List.mem_zipIdx_iff_getElem?.mpr hj) hf ((waste_lt_iff hneed hf (hfits bin hbin)).mpr hs)
    · rw [he] at hp
      simp [List.mem_zipIdx_iff_getElem?.mp hb] at hp

end Strategies

section Nodes

variable {requests : ResourceSpec} {nodes : List ScoredNode}

def needOf : Dimension → Int64
  | .cpu => r.cpuMillicores
  | .memory => r.memoryBytes
  | .storage => r.storageBytes
  | _ => 0

lemma createItems_need {rs : Int64} {item : Item} (h : item ∈ createItems requests rs) :
    item.need = needOf requests := by
  obtain ⟨i, -, rfl⟩ := List.mem_map.mp h
  funext d
  cases d <;> rfl

lemma toInt_needOf {d : Dimension} (hd : d.Checked) : (needOf r d).toInt = amount r d := by
  cases d with
  | cpu | memory | storage => rfl
  | bandwidth | gpu => cases hd

lemma toInt_needOf_nonneg (hr : ∀ d : Dimension, d.Checked → 0 ≤ amount requests d) (d : Dimension) :
    0 ≤ (needOf requests d).toInt := by
  cases d with
  | cpu => exact hr .cpu trivial
  | memory => exact hr .memory trivial
  | storage => exact hr .storage trivial
  | bandwidth | gpu => exact le_refl 0

lemma toInt_bin_left {n : ScoredNode} {d : Dimension} (hd : d.Checked) (hf : FitsInt64 (free n.node d)) :
    (n.bin.left d).toInt = free n.node d := by
  cases d with
  | cpu | memory | storage => exact toInt_sub_of_fits hf
  | bandwidth | gpu => cases hd

noncomputable def fitCount (requests : ResourceSpec) (node : NodeInfo) : ℕ∞ :=
  ⨆ k : {k : ℕ // ∀ d : Dimension, d.Checked → k * amount requests d ≤ free node d}, (k : ℕ)

lemma room_bin {n : ScoredNode} (hf : ∀ d : Dimension, d.Checked → FitsInt64 (free n.node d)) :
    n.bin.room (needOf requests) = fitCount requests n.node := by
  have hiff : ∀ k : ℕ, (∀ d, k * (needOf requests d).toInt ≤ (n.bin.left d).toInt) ↔
      ∀ d : Dimension, d.Checked → k * amount requests d ≤ free n.node d := by
    intro k
    constructor
    · intro h d hd
      rw [← toInt_needOf requests hd, ← toInt_bin_left hd (hf d hd)]
      exact h d
    · intro h d
      by_cases hd : d.Checked
      · rw [toInt_needOf requests hd, toInt_bin_left hd (hf d hd)]
        exact h d hd
      · cases d with
        | cpu | memory | storage => exact absurd trivial hd
        | bandwidth | gpu => simp [needOf, Bin.left]
  exact (Equiv.subtypeEquivRight hiff).iSup_congr fun _ => rfl

lemma length_createItems {requests : ResourceSpec} {rs : Int64} :
    (createItems requests rs).length = rs.toInt.toNat := by
  rw [createItems, List.length_map, List.length_range]

lemma length_pack_eq (nodes : List ScoredNode) (rt : Runtime) (rs : Int64)
    (hq : ∀ d : Dimension, d.Checked → 0 ≤ amount requests d) : ((pack rt nodes requests rs).length : ℕ∞) =
      min (rs.toInt.toNat : ℕ∞) (nodes.map fun n => n.bin.room (needOf requests)).sum := by
  have hit := rt.sortSlice_perm (fun a b => a.size > b.size) (createItems requests rs)
  have hb := rt.sortSlice_perm (fun a b => a.score > b.score) (createBins nodes)
  rw [pack, packItems_eq, length_packWith selects_placeItem (toInt_needOf_nonneg hq)
    (fun item h => createItems_need (hit.mem_iff.mp h)) (fun _ _ => trivial), hit.length_eq, length_createItems]
  congr 1
  simp only [totalRoom, decide_true, List.filter_true]
  rw [(hb.map _).sum_eq, createBins, List.map_map]
  rfl

/-- The placements are shared out among the nodes such that none of them has to give more than it has free. -/
def NotOvercommitted (requests : ResourceSpec) (nodes : List ScoredNode) (placements : List Placement) : Prop :=
  ∃ shares : List (Bin × ℕ), (shares.map Prod.fst).Perm (createBins nodes) ∧
    (placements.map Placement.nodeID).Perm (shares.flatMap fun s => List.replicate s.2 s.1.nodeID) ∧
    ∀ s ∈ shares, 0 < s.2 → ∀ n ∈ nodes, n.bin = s.1 → ∀ d : Dimension, d.Checked →
      s.2 * amount requests d ≤ free n.node d

lemma Shares.notOvercommitted {bins : List Bin} {placements : List Placement} {shares : List (Bin × ℕ)}
    (h : Shares (needOf requests) bins placements shares) (hb : bins.Perm (createBins nodes))
    (hq : ∀ d : Dimension, d.Checked → 0 ≤ amount requests d)
    (hf : ∀ n ∈ nodes, ∀ d : Dimension, d.Checked → FitsInt64 (free n.node d)) :
    NotOvercommitted requests nodes placements := by
  refine ⟨shares, h.bins ▸ hb, h.placements, ?_⟩
  intro s hs hpos n hn hbin d hd
  have hw := h.within s hs hpos d (toInt_needOf_nonneg hq d)
  rwa [← hbin, toInt_needOf requests hd, toInt_bin_left hd (hf n hn d hd)] at hw

lemma pack_shares (rt : Runtime) (nodes : List ScoredNode) (requests : ResourceSpec) (replicas : Int64) :
    ∃ bins shares, bins.Perm (createBins nodes) ∧
      Shares (needOf requests) bins (pack rt nodes requests replicas) shares := by
  have hit := rt.sortSlice_perm (fun a b => a.size > b.size) (createItems requests replicas)
  rw [pack, packItems_eq]
  exact ⟨_, _, rt.sortSlice_perm _ _, (exists_shares selects_placeItem
    (fun item h => createItems_need (hit.mem_iff.mp h)) (fun _ _ => trivial)).choose_spec⟩

theorem packing_maximal_iff (rt : Runtime) (replicas : Int64)
    (hq : ∀ d : Dimension, d.Checked → 0 ≤ amount requests d)
    (hfree : ∀ n ∈ nodes, ∀ d : Dimension, d.Checked → FitsInt64 (free n.node d))
    (hwaste : ∀ n ∈ nodes, WasteFits (needOf requests) n.bin) : ((pack rt nodes requests replicas).length : ℕ∞) =
      min (replicas.toInt.toNat : ℕ∞) (nodes.map fun n => fitCount requests n.node).sum ∧
    NotOvercommitted requests nodes (pack rt nodes requests replicas) ∧
    NotOvercommitted requests nodes (packBestFit nodes requests replicas) ∧
    (((packBestFit nodes requests replicas).length : ℕ∞) =
        min (replicas.toInt.toNat : ℕ∞) (nodes.map fun n => fitCount requests n.node).sum ↔
      min (replicas.toInt.toNat : ℕ∞)
          ((nodes.filter fun n => ¬Saturated (needOf requests) n.bin).map fun n => fitCount requests n.node).sum =
        min (replicas.toInt.toNat : ℕ∞) (nodes.map fun n => fitCount requests n.node).sum) := by
  have hco : ∀ {l : List ScoredNode}, (∀ n ∈ l, n ∈ nodes) →
      (l.map fun n => n.bin.room (needOf requests)) = l.map fun n => fitCount requests n.node :=
    fun hl => List.map_congr_left fun n hn => room_bin (hfree n (hl n hn))
  have hg : ∀ bin ∈ createBins nodes, WasteFits (needOf requests) bin := List.forall_mem_map.mpr hwaste
  have hne : ∀ item ∈ createItems requests replicas, item.need = needOf requests := fun _ h => createItems_need h
  have hse := selects_placeBest (toInt_needOf_nonneg hq)
  refine ⟨?_, ?_, ?_, ?_⟩
  · rw [length_pack_eq nodes rt replicas hq, hco fun _ hn => hn]
  · obtain ⟨bins, ss, hb, hs⟩ := pack_shares rt nodes requests replicas
    exact hs.notOvercommitted hb hq hfree
  · obtain ⟨ss, hs⟩ := exists_shares hse hne hg
    exact hs.notOvercommitted (List.Perm.refl _) hq hfree
  · have hle := length_packWith hse (toInt_needOf_nonneg hq) hne hg
    rw [packBestFit, hle, length_createItems, totalRoom, createBins, List.filter_map, List.map_map,
      ← hco fun n hn => List.mem_of_mem_filter hn]
    rfl

def plainScored (node : NodeInfo) : ScoredNode := ⟨node, 0, ⟨0, 0, 0, 0, 0⟩⟩

theorem packing_maximal_idle : ((packBestFit [plainScored idleNode] ⟨400, 100, 0, 0, 0⟩ 3).length : ℕ∞) =
      min 3 (fitCount ⟨400, 100, 0, 0, 0⟩ idleNode) := by
  have hq : ∀ d, 0 ≤ amount ⟨400, 100, 0, 0, 0⟩ d := by decide
  have hf : ∀ d, FitsInt64 (free (plainScored idleNode).node d) := by decide
  have hb := (packing_maximal_iff plainRuntime 3 (fun d _ => hq d) (List.forall_mem_singleton.mpr fun d _ => hf d)
    (List.forall_mem_singleton.mpr fun _ => by decide)).2.2.2
  have hs : [plainScored idleNode].filter (fun n => ¬Saturated (needOf ⟨400, 100, 0, 0, 0⟩) n.bin) =
      [plainScored idleNode] := by
    rw [List.filter_eq_self, List.forall_mem_singleton]
    decide
  rw [hs] at hb
  simpa [plainScored] using hb.mpr rfl

def hugeNode : NodeInfo := { id := "n1", name := "node-1", state := .ready, capacity := ⟨9223372036854775807, 0, 0, 0, 0⟩ }

theorem bestFit_passes_over_node : (pack plainRuntime [plainScored hugeNode] ⟨0, 0, 0, 0, 0⟩ 1).length = 1 ∧
      (packBestFit [plainScored hugeNode] ⟨0, 0, 0, 0, 0⟩ 1).length = 0 ∧
      hasEnoughResources hugeNode ⟨0, 0, 0, 0, 0⟩ = true := by
  decide +kernel

end Nodes

end Cloudless.Scheduler
