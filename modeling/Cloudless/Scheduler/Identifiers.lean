import Cloudless.Foundations.Delimited
import Cloudless.Foundations.JSON
import Cloudless.Scheduler.Placement

namespace Cloudless.Scheduler

open Foundations Delimited GoStd Cloudless.Membership

structure ScheduleCall where
  rt : Runtime
  clock : ℕ → Time
  nodes : List NodeInfo
  workload : WorkloadSpec

lemma toList_toString_int (i : ℤ) : (toString i).toList = JSON.integer i := by
  cases i with
  | ofNat n => exact Nat.toList_repr
  | negSucc n =>
    have ht : toString (Int.negSucc n) = "-" ++ Nat.repr (n + 1) := rfl
    rw [ht, String.toList_append, Nat.toList_repr]
    rfl

lemma toString_int_injective : Function.Injective (toString : ℤ → String) := by
  intro i j h
  have hl := congrArg (fun s => JSON.parseInt s.toList) h
  simpa only [toList_toString_int, JSON.parseInt_integer, Option.some.injEq] using hl

def fragmentName (reading : ℤ × ℤ) : String := "fragment-" ++ toString reading.1 ++ "-" ++ toString reading.2

lemma fragmentName_inj {p q : ℤ × ℤ} (hp : 0 ≤ p.2) (hq : 0 ≤ q.2) (h : fragmentName p = fragmentName q) : p = q := by
  have hd : ∀ i : ℤ, 0 ≤ i → '-' ∉ (toString i).toList := by
    intro i hi hm
    obtain ⟨n, rfl⟩ := Int.eq_ofNat_of_zero_le hi
    rw [toList_toString_int] at hm
    exact absurd (JSON.all_toDigits n '-' hm) (by decide)
  have hl := congrArg String.toList h
  simp only [fragmentName, String.toList_append, List.append_assoc, List.append_cancel_left_eq] at hl
  obtain ⟨h₁, h₂⟩ := right_injective hl (hd _ hp) (hd _ hq)
  exact Prod.ext (toString_int_injective (String.toList_injective h₁)) (toString_int_injective (String.toList_injective h₂))

namespace SchedulerConfig

variable (s : SchedulerConfig) (id : String)

variable (call : ScheduleCall)

def handedOutBy : List ScheduleDecision :=
  (s.schedule call.rt call.clock call.nodes { call.workload with id := id }).decisions

def handedOut (calls : List ScheduleCall) : List ScheduleDecision := calls.flatMap (s.handedOutBy id)

def readings : List (ℤ × ℤ) :=
  (List.range (s.handedOutBy id call).length).map fun n =>
    (unixSeconds (call.clock (2 * n)), call.clock (2 * n + 1) % 1000000000)

lemma handedOutBy_ids : (s.handedOutBy id call).map ScheduleDecision.replicaID =
      (List.range (s.handedOutBy id call).length).map (fun n => id ++ "-" ++ toString n) ∧
    (s.handedOutBy id call).map ScheduleDecision.fragmentID = (s.readings id call).map fragmentName := by
  obtain ⟨choices, hc⟩ : ∃ choices, s.handedOutBy id call =
      decisions call.clock { call.workload with id := id } choices := by
    rw [handedOutBy, schedule]
    split_ifs
    · exact ⟨[], rfl⟩
    · exact ⟨_, rfl⟩
  rw [readings, hc]
  constructor
  · apply List.ext_getElem <;> simp [decisions, Choice.decision]
  · apply List.ext_getElem <;> simp [decisions, Choice.decision, fragmentName, generateFragmentID]

theorem identifiers_unique_iff (s : SchedulerConfig) (id : String) (calls : List ScheduleCall) :
    (((s.handedOut id calls).map ScheduleDecision.replicaID).Nodup ↔
      calls.Pairwise fun call call' => s.handedOutBy id call = [] ∨ s.handedOutBy id call' = []) ∧
    (((s.handedOut id calls).map ScheduleDecision.fragmentID).Nodup ↔ (calls.flatMap (s.readings id)).Nodup) := by
  have hi : Function.Injective fun n : ℕ => id ++ "-" ++ toString n := by
    intro m n h
    have hmn : toString (m : ℤ) = toString (n : ℤ) := append_right_injective _ h
    exact Int.ofNat_inj.mp (toString_int_injective hmn)
  constructor
  · rw [handedOut, List.map_flatMap, List.nodup_flatMap]
    constructor
    · rintro ⟨-, h⟩
      refine h.imp ?_
      intro call call' hd
      by_contra hne
      rw [not_or] at hne
      have h0 : ∀ call : ScheduleCall, s.handedOutBy id call ≠ [] →
          id ++ "-" ++ toString 0 ∈ (s.handedOutBy id call).map ScheduleDecision.replicaID := by
        intro call hc
        rw [(s.handedOutBy_ids id call).1]
        exact List.mem_map.mpr ⟨0, List.mem_range.mpr (List.length_pos_iff.mpr hc), rfl⟩
      exact hd (h0 call hne.1) (h0 call' hne.2)
    · intro h
      refine ⟨?_, h.imp ?_⟩
      · intro call _
        rw [(s.handedOutBy_ids id call).1]
        exact List.nodup_range.map hi
      · rintro call call' (he | he) <;> simp [Function.onFun, he]
  · have hf : (s.handedOut id calls).map ScheduleDecision.fragmentID =
        (calls.flatMap (s.readings id)).map fragmentName := by
      rw [handedOut, List.map_flatMap, List.map_flatMap]
      exact List.flatMap_congr fun call _ => (s.handedOutBy_ids id call).2
    rw [hf]
    refine ⟨List.Nodup.of_map _, fun h => h.map_on ?_⟩
    have hn : ∀ p ∈ calls.flatMap (s.readings id), 0 ≤ p.2 := by
      intro p hp
      obtain ⟨call, -, hp⟩ := List.mem_flatMap.mp hp
      obtain ⟨n, -, rfl⟩ := List.mem_map.mp hp
      exact Int.emod_nonneg _ (by decide)
    exact fun p hp q hq hpq => fragmentName_inj (hn p hp) (hn q hq) hpq

end SchedulerConfig

def tick (n : ℕ) : ℤ :=
  unixToInternal * 1000000000 + match n with | 0 => 4 | 1 => 5 | 2 => 999999999 | n + 3 => 1000000005 + n

def tickingCall (n : ℕ) : ScheduleCall :=
  ⟨plainRuntime, fun i => tick (n + i), [idleNode], smallWorkload 1 ⟨400, 100, 0, 0, 0⟩⟩

theorem identifiers_repeated : StrictMono tick ∧
    (binpackConfig.handedOut "w" [tickingCall 0, tickingCall 2]).map ScheduleDecision.replicaID = ["w-0", "w-0"] ∧
    (binpackConfig.handedOut "w" [tickingCall 0, tickingCall 2]).map ScheduleDecision.fragmentID =
      ["fragment-0-5", "fragment-0-5"] := by
  refine ⟨strictMono_nat_of_lt_succ ?_, by decide +kernel, by decide +kernel⟩
  rintro (_ | _ | _ | n) <;> simp [tick]

end Cloudless.Scheduler
