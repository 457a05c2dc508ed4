import Cloudless.Foundations.FiniteMaps

namespace Cloudless.Foundations.MapLoops

open FiniteMaps

structure MapOrder where
  entries : ∀ {V : Type}, FMap String V → List (String × V)
  enumerates : ∀ {V : Type} (m : FMap String V), Enumerates (entries m) m

lemma MapOrder.mem_values {V : Type} (order : MapOrder) {m : FMap String V} {key : V → String}
    (hk : ∀ k v, m.lookup k = some v → key v = k) {v : V} :
    v ∈ (order.entries m).map Prod.snd ↔ m.lookup (key v) = some v := by
  rw [List.mem_map]
  constructor
  · rintro ⟨⟨k, w⟩, hm, rfl⟩
    have hl := (order.enumerates m).mem.mp hm
    rwa [hk k w hl]
  · intro hl
    exact ⟨(key v, v), (order.enumerates m).mem.mpr hl, rfl⟩

section Sorted

variable {V : Type} {m : FMap String V}

def sortedKeys (m : FMap String V) : List String := sortedNames m.keys

lemma mem_sortedKeys {k : String} : k ∈ sortedKeys m ↔ ∃ v, m.lookup k = some v := by
  rw [sortedKeys, mem_sortedNames, Finmap.mem_keys, Finmap.mem_iff]

def sortedEntries (m : FMap String V) : List (String × V) :=
  (sortedKeys m).filterMap fun k => (m.lookup k).map (Prod.mk k)

lemma keys_sortedEntries {l : List String} (hl : ∀ k ∈ l, ∃ v, m.lookup k = some v) :
    (l.filterMap fun k => (m.lookup k).map (Prod.mk k)).map Prod.fst = l := by
  induction l with
  | nil => rfl
  | cons k l ih =>
    obtain ⟨v, hv⟩ := hl k (List.mem_cons_self ..)
    rw [List.filterMap_cons, hv]
    simp only [Option.map_some, List.map_cons]
    rw [ih fun j hj => hl j (List.mem_cons_of_mem _ hj)]

lemma enumerates_sortedEntries (m : FMap String V) : Enumerates (sortedEntries m) m := by
  constructor
  · rw [sortedEntries, keys_sortedEntries fun k hk => mem_sortedKeys.mp hk, ← Multiset.coe_nodup, sortedKeys,
      coe_sortedNames]
    exact m.keys.nodup
  · intro k v
    rw [sortedEntries, List.mem_filterMap]
    constructor
    · rintro ⟨j, -, hj⟩
      obtain ⟨w, hw, he⟩ := Option.map_eq_some_iff.mp hj
      cases he
      exact hw
    · intro hv
      exact ⟨k, mem_sortedKeys.mpr ⟨v, hv⟩, by rw [hv, Option.map_some]⟩

end Sorted

def sortedOrder : MapOrder := ⟨sortedEntries, enumerates_sortedEntries⟩

def frontOrder (key : String) : MapOrder where
  entries m :=
    match m.lookup key with
    | none => sortedEntries m
    | some v => (key, v) :: sortedEntries (m.erase key)
  enumerates m := by
    cases hl : m.lookup key with
    | none => exact enumerates_sortedEntries m
    | some v =>
      have h := enumerates_insert (enumerates_sortedEntries (m.erase key)) (Finmap.lookup_erase key m) v
      rwa [insert_erase_self m hl] at h

section Ranges

variable {W : Type} (order : MapOrder)

def keysIn (m : FMap String W) : List String :=
  (order.entries (filterMap (fun _ _ => some ()) m)).map Prod.fst

def valuesIn (m : FMap String W) : List W := (keysIn order m).filterMap fun k => m.lookup k

lemma mem_keysIn {m : FMap String W} {k : String} : k ∈ keysIn order m ↔ ∃ v, m.lookup k = some v := by
  rw [keysIn, List.mem_map]
  constructor
  · rintro ⟨⟨j, u⟩, hm, rfl⟩
    have hl := (order.enumerates _).mem.mp hm
    rw [lookup_filterMap] at hl
    cases hv : m.lookup j with
    | none => rw [hv] at hl; cases hl
    | some v => exact ⟨v, rfl⟩
  · rintro ⟨v, hv⟩
    refine ⟨(k, ()), (order.enumerates _).mem.mpr ?_, rfl⟩
    rw [lookup_filterMap, hv]
    rfl

lemma mem_valuesIn {m : FMap String W} {v : W} : v ∈ valuesIn order m ↔ ∃ k, m.lookup k = some v := by
  rw [valuesIn, List.mem_filterMap]
  constructor
  · rintro ⟨k, -, hk⟩
    exact ⟨k, hk⟩
  · rintro ⟨k, hk⟩
    exact ⟨k, (mem_keysIn order).mpr ⟨v, hk⟩, hk⟩

variable {m m' : FMap String W}

lemma keysIn_congr (h : ∀ k, (m'.lookup k).isSome = (m.lookup k).isSome) : keysIn order m' = keysIn order m := by
  have hs : filterMap (fun _ _ => some ()) m' = filterMap (fun _ _ => some ()) m := by
    apply Finmap.ext_lookup
    intro k
    have hk := h k
    rw [lookup_filterMap, lookup_filterMap]
    cases hm : m.lookup k with
    | none =>
      rw [hm, Option.isSome_none, Option.isSome_eq_false_iff, Option.isNone_iff_eq_none] at hk
      rw [hk]
    | some w =>
      rw [hm, Option.isSome_some, Option.isSome_iff_exists] at hk
      obtain ⟨v, hv⟩ := hk
      rw [hv]
      rfl
  rw [keysIn, hs, keysIn]

lemma filterMap_valuesIn {X : Type} (hk : ∀ k, (m'.lookup k).isSome = (m.lookup k).isSome)
    (f : W → Option X) (h : ∀ k, (m'.lookup k).bind f = (m.lookup k).bind f) :
    (valuesIn order m').filterMap f = (valuesIn order m).filterMap f := by
  rw [valuesIn, valuesIn, keysIn_congr order hk, List.filterMap_filterMap, List.filterMap_filterMap]
  congr 1
  funext k
  exact h k

lemma map_valuesIn {X : Type} (f : W → X)
    (h : ∀ k, (m'.lookup k).map f = (m.lookup k).map f) : (valuesIn order m').map f = (valuesIn order m).map f := by
  have hk : ∀ k, (m'.lookup k).isSome = (m.lookup k).isSome := by
    intro k
    rw [← Option.isSome_map, h, Option.isSome_map]
  rw [← List.filterMap_eq_map]
  apply filterMap_valuesIn order hk
  intro k
  rw [← Option.map_eq_bind, ← Option.map_eq_bind, h]

end Ranges

section Loops

variable {S V R E : Type}

def forEntries (body : S → String → V → Except E S) : List (String × V) → S → Except E S
  | [], s => .ok s
  | (k, v) :: rest, s =>
    match body s k v with
    | .error err => .error err
    | .ok s' => forEntries body rest s'

lemma nodup_cons_keys {k : String} {v : V} {r : List (String × V)}
    (hn : (((k, v) :: r).map Prod.fst).Nodup) : (∀ w, (k, w) ∉ r) ∧ (r.map Prod.fst).Nodup := by
  rw [List.map_cons, List.nodup_cons] at hn
  refine ⟨?_, hn.2⟩
  intro w hw
  exact hn.1 (List.mem_map.mpr ⟨(k, w), hw, rfl⟩)

variable {l : List (String × V)} (step : S → String → V → S) (read : S → String → R) {b : S → String → V → Except E S}

lemma forEntries_read (P : String → V → R → R → Prop)
    (hb : ∀ s k v s', (k, v) ∈ l → b s k v = .ok s' → P k v (read s k) (read s' k) ∧ ∀ j, j ≠ k → read s' j = read s j)
    (hn : (l.map Prod.fst).Nodup) {s s' : S} (h : forEntries b l s = .ok s') :
    (∀ k v, (k, v) ∈ l → P k v (read s k) (read s' k)) ∧ ∀ k, (∀ v, (k, v) ∉ l) → read s' k = read s k := by
  induction l generalizing s with
  | nil =>
    cases h
    exact ⟨fun k v hk => absurd hk List.not_mem_nil, fun k _ => rfl⟩
  | cons e r ih =>
    obtain ⟨k, v⟩ := e
    obtain ⟨hf, hr⟩ := nodup_cons_keys hn
    rw [forEntries] at h
    split at h
    · cases h
    · next s₁ hs =>
      obtain ⟨ho, hfr⟩ := hb s k v s₁ (List.mem_cons_self ..) hs
      obtain ⟨ihm, ihf⟩ := ih (fun s k v s' hk => hb s k v s' (List.mem_cons_of_mem _ hk)) hr h
      refine ⟨?_, ?_⟩
      · intro j u hj
        rcases List.mem_cons.mp hj with he | hm
        · cases he
          rwa [ihf k hf]
        · have hne : j ≠ k := by
            rintro rfl
            exact hf u hm
          have ho' := ihm j u hm
          rwa [hfr j hne] at ho'
      · intro j hj
        have hne : j ≠ k := by
          rintro rfl
          exact hj v (List.mem_cons_self ..)
        rw [ihf j fun u hu => hj u (List.mem_cons_of_mem _ hu), hfr j hne]

lemma forEntries_isOk
    (hb : ∀ s k v, (k, v) ∈ l → ∃ s', b s k v = .ok s') (s : S) : ∃ s', forEntries b l s = .ok s' := by
  induction l generalizing s with
  | nil => exact ⟨s, rfl⟩
  | cons e r ih =>
    obtain ⟨s₁, hs⟩ := hb s e.1 e.2 (List.mem_cons_self ..)
    obtain ⟨s', hs'⟩ := ih (fun s k v hk => hb s k v (List.mem_cons_of_mem _ hk)) s₁
    refine ⟨s', ?_⟩
    rwa [forEntries, hs]

lemma forEntries_pure (l : List (String × V)) (s : S) :
    forEntries (E := E) (fun s k v => .ok (step s k v)) l s = .ok (l.foldl (fun s e => step s e.1 e.2) s) := by
  induction l generalizing s with
  | nil => rfl
  | cons e r ih => exact ih (step s e.1 e.2)

lemma foldl_frame {m : FMap String V} (hl : Enumerates l m)
    (hf : ∀ s k v j, m.lookup k = some v → j ≠ k → read (step s k v) j = read s j) (s : S) {k : String}
    (hk : m.lookup k = none) : read (l.foldl (fun s e => step s e.1 e.2) s) k = read s k := by
  apply (forEntries_read read (fun _ _ _ _ => True) _ hl.1 (forEntries_pure (E := Unit) step l s)).2
  · intro v hv
    rw [hl.mem, hk] at hv
    cases hv
  · intro s k v s' hm hs
    cases hs
    exact ⟨trivial, fun j => hf s k v j (hl.mem.mp hm)⟩

lemma foldl_read (f : String → V → R → R) {m : FMap String V} (hl : Enumerates l m)
    (ho : ∀ s k v, m.lookup k = some v → read (step s k v) k = f k v (read s k))
    (hf : ∀ s k v j, m.lookup k = some v → j ≠ k → read (step s k v) j = read s j) (s : S) (k : String) :
    read (l.foldl (fun s e => step s e.1 e.2) s) k = (m.lookup k).elim (read s k) fun v => f k v (read s k) := by
  cases hk : m.lookup k with
  | none => exact foldl_frame step read hl hf s hk
  | some v =>
    refine (forEntries_read read (fun k v r r' => r' = f k v r) ?_ hl.1 (forEntries_pure (E := Unit) step l s)).1 k v
      (hl.mem.mpr hk)
    intro s k v s' hm hs
    cases hs
    exact ⟨ho s k v (hl.mem.mp hm), fun j => hf s k v j (hl.mem.mp hm)⟩

end Loops

end Cloudless.Foundations.MapLoops
