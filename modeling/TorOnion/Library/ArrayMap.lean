import Mathlib.Data.List.Perm.Basic
import Mathlib.Data.List.Nodup
import Mathlib.Tactic

/-!
# Maps in insertion order

A hash map that keeps its entries in an array: a new key goes to the end, and removing an entry
fills its place with the last one.  Here it is the list of its entries.

Two loops over such an array come with it.  `sweep` removes every entry with a property while it
walks over the array, and looks at a place again when it has just been filled.  `firstMin` finds
the first entry with the least measure, and starts from an upper bound of the measures.
-/

namespace TorOnion

namespace ArrayMap

open scoped List

/-! ## Entries by key -/

section Keys

variable {κ ν : Type*} [DecidableEq κ]

/-- Sets the value of a key. -/
def put (k : κ) (v : ν) : List (κ × ν) → List (κ × ν)
  | [] => [(k, v)]
  | e :: es => if e.1 = k then (k, v) :: es else e :: put k v es

/-- Changes the value of a key, if there is one. -/
def modify (k : κ) (f : ν → ν) (es : List (κ × ν)) : List (κ × ν) :=
  es.map fun e => if e.1 = k then (e.1, f e.2) else e

lemma put_of_not_mem {k : κ} {v : ν} {es : List (κ × ν)} (h : k ∉ es.map Prod.fst) :
    put k v es = es ++ [(k, v)] := by
  induction es with
  | nil => rfl
  | cons e es ih =>
      rw [List.map_cons, List.mem_cons, not_or] at h
      rw [put, if_neg fun heq => h.1 heq.symm, ih h.2, List.cons_append]

lemma map_fst_modify (k : κ) (f : ν → ν) (es : List (κ × ν)) :
    (modify k f es).map Prod.fst = es.map Prod.fst := by
  rw [modify, List.map_map]
  refine List.map_congr_left fun e _ => ?_
  by_cases h : e.1 = k <;> simp [h]

lemma length_modify (k : κ) (f : ν → ν) (es : List (κ × ν)) :
    (modify k f es).length = es.length :=
  List.length_map _

end Keys

section Lookup

variable {κ ν : Type*} [BEq κ] [LawfulBEq κ] {es kept : List (κ × ν)} {k : κ} {v : ν}

lemma mem_of_lookup (h : es.lookup k = some v) : (k, v) ∈ es := by
  obtain ⟨front, back, hsplit, -⟩ := List.lookup_eq_some_iff.mp h
  rw [hsplit]
  exact List.mem_append_right _ List.mem_cons_self

lemma not_mem_of_lookup (h : es.lookup k = none) : k ∉ es.map Prod.fst := by
  intro hmem
  obtain ⟨e, he, rfl⟩ := List.mem_map.mp hmem
  simpa using List.lookup_eq_none_iff.mp h e he

lemma lookup_of_not_mem (h : k ∉ es.map Prod.fst) : es.lookup k = none := by
  rw [List.lookup_eq_none_iff]
  intro e he
  rw [bne_iff_ne]
  rintro rfl
  exact h (List.mem_map_of_mem he)

/-- With distinct keys every entry is found. -/
lemma lookup_eq_some_iff_mem (hkeys : (es.map Prod.fst).Nodup) :
    es.lookup k = some v ↔ (k, v) ∈ es := by
  refine ⟨mem_of_lookup, fun hmem => ?_⟩
  cases h : es.lookup k with
  | none => exact absurd (List.mem_map.mpr ⟨_, hmem, rfl⟩) (not_mem_of_lookup h)
  | some w =>
      have heq := List.inj_on_of_nodup_map hkeys hmem (mem_of_lookup h) rfl
      rw [(Prod.mk.inj heq).2]

/-- The entries with a property keep their keys, in whatever order they stand. -/
lemma lookup_of_perm_filter {q : ν → Bool} (hkeys : (es.map Prod.fst).Nodup)
    (h : kept.Perm (es.filter fun e => q e.2)) (k : κ) :
    kept.lookup k = (es.lookup k).filter q := by
  have hkept : (kept.map Prod.fst).Nodup := by
    rw [(h.map Prod.fst).nodup_iff]
    exact hkeys.sublist (List.filter_sublist.map Prod.fst)
  refine Option.ext fun v => ?_
  rw [lookup_eq_some_iff_mem hkept, h.mem_iff, List.mem_filter, Option.filter_eq_some_iff,
    lookup_eq_some_iff_mem hkeys]

end Lookup

/-! ## Removing an entry -/

section Remove

variable {α : Type*} {l : List α} {i : ℕ}

/-- Removes the entry at a place and fills the place with the last entry. -/
def swapRemove (l : List α) (i : ℕ) : List α :=
  match l.getLast? with
  | none => []
  | some last => (l.set i last).dropLast

lemma swapRemove_concat (l : List α) (last : α) (i : ℕ) :
    swapRemove (l ++ [last]) i = ((l ++ [last]).set i last).dropLast := by
  simp [swapRemove]

/-- What is removed and what is left make up the array. -/
lemma perm_swapRemove (h : i < l.length) : (l[i] :: swapRemove l i).Perm l := by
  rcases List.eq_nil_or_concat l with rfl | ⟨front, last, rfl⟩
  · simp at h
  · rw [List.concat_eq_append] at h
    simp only [List.concat_eq_append]
    rw [swapRemove_concat]
    by_cases hi : i < front.length
    · rw [List.set_append_left _ _ hi, List.dropLast_concat, List.getElem_append_left hi]
      have hset : (front[i] :: front.set i last).Perm (last :: front) := by
        have hsplit := List.set_eq_take_append_cons_drop (l := front) (i := i) (a := last)
        rw [if_pos hi] at hsplit
        have hfront : front = front.take i ++ front[i] :: front.drop (i + 1) := by
          rw [List.getElem_cons_drop, List.take_append_drop]
        calc front[i] :: front.set i last
            = front[i] :: (front.take i ++ last :: front.drop (i + 1)) := by rw [hsplit]
          _ ~ front[i] :: last :: (front.take i ++ front.drop (i + 1)) :=
              List.Perm.cons _ List.perm_middle
          _ ~ last :: front[i] :: (front.take i ++ front.drop (i + 1)) := List.Perm.swap ..
          _ ~ last :: (front.take i ++ front[i] :: front.drop (i + 1)) :=
              List.Perm.cons _ List.perm_middle.symm
          _ = last :: front := by rw [← hfront]
      exact hset.trans (List.perm_append_singleton last front).symm
    · have hi' : i = front.length := by
        rw [List.length_append, List.length_singleton] at h
        omega
      subst hi'
      rw [List.set_append_right _ _ le_rfl, Nat.sub_self]
      simp only [List.set_cons_zero, List.dropLast_concat, List.getElem_concat_length]
      exact (List.perm_append_singleton last front).symm

/-- The places before the one that is filled keep their entries. -/
lemma take_swapRemove (h : i < l.length) : (swapRemove l i).take i = l.take i := by
  rcases List.eq_nil_or_concat l with rfl | ⟨front, last, rfl⟩
  · simp at h
  · rw [List.concat_eq_append] at h
    simp only [List.concat_eq_append]
    rw [swapRemove_concat, List.dropLast_eq_take, List.take_take, List.length_set,
      List.length_append, List.length_singleton, Nat.add_sub_cancel]
    rw [List.length_append, List.length_singleton] at h
    rw [min_eq_left (by omega), List.take_set_of_le le_rfl]

lemma length_swapRemove (h : i < l.length) : (swapRemove l i).length + 1 = l.length := by
  have := (perm_swapRemove h).length_eq
  rwa [List.length_cons] at this

end Remove

/-! ## Sweeping -/

section Sweep

variable {α : Type*} {p : α → Bool} {l : List α} {n i : ℕ}

/-- Walks from a place on and removes the entries with a property, for a number of rounds.  The
entries that are kept, and those that are removed, in order. -/
def sweep (p : α → Bool) : ℕ → ℕ → List α → List α × List α
  | 0, _, l => (l, [])
  | n + 1, i, l =>
      match l[i]? with
      | none => (l, [])
      | some e =>
          if p e then
            let swept := sweep p n i (swapRemove l i)
            (swept.1, e :: swept.2)
          else sweep p n (i + 1) l

/-- Nothing is left to remove when every entry was looked at. -/
lemma perm_filter_of_forall (h : ∀ e ∈ l, p e = false) :
    l.Perm (l.filter fun e => !p e) ∧ [].Perm (l.filter p) := by
  rw [List.filter_eq_self.mpr (by simpa using h), List.filter_eq_nil_iff.mpr (by simpa using h)]
  exact ⟨.rfl, .rfl⟩

/-- **A sweep removes exactly the entries with the property.**  As many rounds as there are places
to look at are enough, since each round leaves one place less. -/
lemma sweep_spec (hbefore : ∀ e ∈ l.take i, p e = false) (hn : l.length ≤ i + n) :
    (sweep p n i l).1.Perm (l.filter fun e => !p e) ∧ (sweep p n i l).2.Perm (l.filter p) := by
  induction n generalizing i l with
  | zero =>
      rw [List.take_of_length_le (Nat.add_zero i ▸ hn)] at hbefore
      exact perm_filter_of_forall hbefore
  | succ n ih =>
      rw [sweep]
      by_cases hi : i < l.length
      · rw [List.getElem?_eq_getElem hi]
        simp only
        by_cases hp : p l[i] = true
        · -- the place is looked at again
          have hperm := perm_swapRemove hi
          have hlen := length_swapRemove hi
          rw [if_pos hp]
          obtain ⟨hkept, hremoved⟩ := ih (by rwa [take_swapRemove hi]) (by omega)
          refine ⟨hkept.trans ?_, (hremoved.cons _).trans ?_⟩
          · have := hperm.filter fun e => !p e
            rwa [List.filter_cons_of_neg (by simp [hp])] at this
          · have := hperm.filter p
            rwa [List.filter_cons_of_pos hp] at this
        · rw [if_neg hp]
          refine ih (fun e he => ?_) (by omega)
          rw [List.take_add_one, List.getElem?_eq_getElem hi, Option.toList_some,
            List.mem_append, List.mem_singleton] at he
          rcases he with he | rfl
          · exact hbefore e he
          · exact Bool.not_eq_true _ ▸ hp
      · rw [List.getElem?_eq_none (by omega)]
        rw [List.take_of_length_le (by omega)] at hbefore
        exact perm_filter_of_forall hbefore

end Sweep

/-! ## Searching the minimum -/

section FirstMin

variable {α : Type*} {f : α → ℕ} {l rest : List α} {top : ℕ}

/-- Walks over entries from a place on, with the best place and measure so far; an entry is better
only if its measure is less. -/
def firstMinFrom (f : α → ℕ) : List α → ℕ → ℕ × ℕ → ℕ × ℕ
  | [], _, best => best
  | e :: es, i, best => firstMinFrom f es (i + 1) (if f e < best.2 then (i, f e) else best)

/-- The place of the first entry with the least measure. -/
def firstMin (f : α → ℕ) (top : ℕ) (l : List α) : ℕ := (firstMinFrom f l 0 (0, top)).1

/-- The best of the entries up to a place: nothing was below the bound, or the first least one. -/
def BestOf (f : α → ℕ) (top : ℕ) (l : List α) (i : ℕ) (best : ℕ × ℕ) : Prop :=
  (∀ e ∈ l.take i, best.2 ≤ f e) ∧
    (best = (0, top) ∨ ∃ h : best.1 < l.length, best.1 < i ∧ f l[best.1] = best.2 ∧
      ∀ e ∈ l.take best.1, best.2 < f e)

lemma bestOf_firstMinFrom {i : ℕ} {best : ℕ × ℕ} (hrest : l.drop i = rest)
    (h : BestOf f top l i best) :
    BestOf f top l l.length (firstMinFrom f rest i best) := by
  induction rest generalizing i best with
  | nil =>
      have hlen : l.length ≤ i := List.drop_eq_nil_iff.mp hrest
      obtain ⟨hmin, hbest⟩ := h
      refine ⟨?_, hbest.imp_right ?_⟩
      · rwa [List.take_of_length_le hlen, ← List.take_length (l := l)] at hmin
      · rintro ⟨hlt, -, heq⟩
        exact ⟨hlt, hlt, heq⟩
  | cons e rest ih =>
      have hi : i < l.length := by
        by_contra hle
        rw [List.drop_eq_nil_of_le (by omega)] at hrest
        cases hrest
      rw [List.drop_eq_getElem_cons hi] at hrest
      obtain ⟨rfl, hnext⟩ := List.cons.inj hrest
      obtain ⟨hmin, hbest⟩ := h
      have htake : ∀ e ∈ l.take (i + 1), e ∈ l.take i ∨ e = l[i] := by
        intro e he
        rwa [List.take_add_one, List.getElem?_eq_getElem hi, Option.toList_some,
          List.mem_append, List.mem_singleton] at he
      rw [firstMinFrom]
      refine ih hnext ?_
      split_ifs with hless
      · refine ⟨fun e he => ?_, .inr ⟨hi, Nat.lt_succ_self i, rfl, fun e he => ?_⟩⟩
        · rcases htake e he with he | rfl
          · exact hless.le.trans (hmin e he)
          · exact le_rfl
        · exact hless.trans_le (hmin e he)
      · refine ⟨fun e he => ?_, hbest.imp_right ?_⟩
        · rcases htake e he with he | rfl
          · exact hmin e he
          · exact not_lt.mp hless
        · rintro ⟨hlt, hi', heq⟩
          exact ⟨hlt, by omega, heq⟩

/-- **The search finds the first entry with the least measure**, if all measures are within the
bound. -/
lemma firstMin_spec (hne : l ≠ []) (htop : ∀ e ∈ l, f e ≤ top) :
    ∃ h : firstMin f top l < l.length, (∀ e ∈ l, f l[firstMin f top l] ≤ f e) ∧
      ∀ e ∈ l.take (firstMin f top l), f l[firstMin f top l] < f e := by
  have hpos := List.length_pos_iff.mpr hne
  have hstart : BestOf f top l 0 (0, top) := ⟨by simp, .inl rfl⟩
  obtain ⟨hmin, hbest⟩ := bestOf_firstMinFrom rfl hstart
  rw [List.take_length] at hmin
  rcases hbest with heq | ⟨hlt, -, heq, hfirst⟩
  · have hzero : firstMin f top l = 0 := congrArg Prod.fst heq
    simp only [hzero]
    rw [heq] at hmin
    exact ⟨hpos, fun e he => (htop _ (List.getElem_mem hpos)).trans (hmin e he), by simp⟩
  · have heq' : f l[firstMin f top l] = _ := heq
    exact ⟨hlt, fun e he => heq' ▸ hmin e he, fun e he => heq' ▸ hfirst e he⟩

end FirstMin

end ArrayMap

end TorOnion
