import Mathlib

/-!
# Sorted maps

`std::map`: a finite map whose entries are kept in the order of their keys, so that the
neighbours of a key can be asked for.  `SortedMap` carries the order of its entries as a field.

The specifications are by membership: what is in the map after `insert` and `erase`, and that
`upperBound` and `lastUpTo` are the nearest entries above a key and up to it.
-/

namespace TorOnion

/-- A finite map with its entries in the order of their keys. -/
structure SortedMap (K V : Type*) [LinearOrder K] where
  entries : List (K × V)
  sorted : entries.Pairwise fun a b => a.1 < b.1

namespace SortedMap

variable {K V : Type*} [LinearOrder K]

instance : Membership (K × V) (SortedMap K V) := ⟨fun m e => e ∈ m.entries⟩

lemma mem_def {m : SortedMap K V} {e : K × V} : e ∈ m ↔ e ∈ m.entries := Iff.rfl

/-! ## The operations -/

def empty : SortedMap K V := ⟨[], .nil⟩

/-- The entries with one more in its place, unless its key is present. -/
def insertEntry (k : K) (v : V) : List (K × V) → List (K × V)
  | [] => [(k, v)]
  | e :: es =>
      if k < e.1 then (k, v) :: e :: es
      else if k = e.1 then e :: es
      else e :: insertEntry k v es

lemma mem_insertEntry {k : K} {v : V} {es : List (K × V)}
    (hsorted : es.Pairwise fun a b => a.1 < b.1) {e : K × V} :
    e ∈ insertEntry k v es ↔ e ∈ es ∨ (e = (k, v) ∧ ∀ e' ∈ es, e'.1 ≠ k) := by
  induction es with
  | nil => simp [insertEntry]
  | cons d es ih =>
      obtain ⟨hd, htail⟩ := List.pairwise_cons.mp hsorted
      rw [insertEntry]
      by_cases hlt : k < d.1
      · have hnew : ∀ e' ∈ d :: es, e'.1 ≠ k := by
          intro e' he'
          rcases List.mem_cons.mp he' with rfl | he'
          · exact hlt.ne'
          · exact (hlt.trans (hd e' he')).ne'
        rw [if_pos hlt, List.mem_cons]
        exact ⟨fun h => h.symm.imp_right fun h => ⟨h, hnew⟩,
          fun h => (h.imp_right And.left).symm⟩
      · by_cases heq : k = d.1
        · rw [if_neg hlt, if_pos heq]
          refine ⟨.inl, ?_⟩
          rintro (h | ⟨-, hnew⟩)
          · exact h
          · exact absurd heq.symm (hnew d List.mem_cons_self)
        · rw [if_neg hlt, if_neg heq, List.mem_cons, ih htail, List.mem_cons, or_assoc]
          have hiff : (∀ e' ∈ d :: es, e'.1 ≠ k) ↔ ∀ e' ∈ es, e'.1 ≠ k := by
            rw [List.forall_mem_cons]
            exact ⟨And.right, fun h => ⟨fun h' => heq h'.symm, h⟩⟩
          rw [hiff]

lemma insertEntry_sorted {k : K} {v : V} {es : List (K × V)}
    (hsorted : es.Pairwise fun a b => a.1 < b.1) :
    (insertEntry k v es).Pairwise fun a b => a.1 < b.1 := by
  induction es with
  | nil => simp [insertEntry]
  | cons d es ih =>
      obtain ⟨hd, htail⟩ := List.pairwise_cons.mp hsorted
      rw [insertEntry]
      by_cases hlt : k < d.1
      · rw [if_pos hlt]
        refine List.pairwise_cons.mpr ⟨fun e he => ?_, hsorted⟩
        rcases List.mem_cons.mp he with rfl | he
        · exact hlt
        · exact hlt.trans (hd e he)
      · by_cases heq : k = d.1
        · rw [if_neg hlt, if_pos heq]
          exact hsorted
        · rw [if_neg hlt, if_neg heq]
          refine List.pairwise_cons.mpr ⟨fun e he => ?_, ih htail⟩
          rcases (mem_insertEntry htail).mp he with he | ⟨rfl, -⟩
          · exact hd e he
          · exact lt_of_le_of_ne (not_lt.mp hlt) (Ne.symm heq)

/-- `insert`: a key that is present keeps its value. -/
def insert (m : SortedMap K V) (k : K) (v : V) : SortedMap K V :=
  ⟨insertEntry k v m.entries, insertEntry_sorted m.sorted⟩

/-- `erase` of a key. -/
def erase (m : SortedMap K V) (k : K) : SortedMap K V :=
  ⟨m.entries.filter fun e => e.1 ≠ k, m.sorted.filter _⟩

/-- `upper_bound`: the first entry above a key. -/
def upperBound (m : SortedMap K V) (k : K) : Option (K × V) := m.entries.find? fun e => k < e.1

/-- The entry before `upper_bound`: the last one up to a key. -/
def lastUpTo (m : SortedMap K V) (k : K) : Option (K × V) :=
  (m.entries.takeWhile fun e => e.1 ≤ k).getLast?

/-! ## What they do -/

variable {m : SortedMap K V} {k : K} {v : V} {e : K × V}

@[simp] lemma not_mem_empty : e ∉ (empty : SortedMap K V) := List.not_mem_nil

lemma mem_insert : e ∈ m.insert k v ↔ e ∈ m ∨ (e = (k, v) ∧ ∀ e' ∈ m, e'.1 ≠ k) :=
  mem_insertEntry m.sorted

@[simp] lemma mem_erase : e ∈ m.erase k ↔ e ∈ m ∧ e.1 ≠ k := by
  simp [erase, mem_def]

/-- The keys before and after an entry. -/
lemma lt_of_split {pre post : List (K × V)} (h : m.entries = pre ++ e :: post) :
    (∀ x ∈ pre, x.1 < e.1) ∧ ∀ x ∈ post, e.1 < x.1 := by
  have hsorted := m.sorted
  rw [h, List.pairwise_append] at hsorted
  obtain ⟨-, hpost, hcross⟩ := hsorted
  exact ⟨fun x hx => hcross x hx e List.mem_cons_self, (List.pairwise_cons.mp hpost).1⟩

/-- A key has one value. -/
lemma eq_of_mem {e' : K × V} (h : e ∈ m) (h' : e' ∈ m) (hkey : e.1 = e'.1) : e = e' := by
  obtain ⟨pre, post, hsplit⟩ := List.append_of_mem h
  obtain ⟨hpre, hpost⟩ := lt_of_split hsplit
  rw [mem_def, hsplit, List.mem_append, List.mem_cons] at h'
  rcases h' with h' | rfl | h'
  · exact absurd hkey (hpre e' h').ne'
  · rfl
  · exact absurd hkey (hpost e' h').ne

lemma upperBound_spec (h : m.upperBound k = some e) :
    e ∈ m ∧ k < e.1 ∧ ∀ e' ∈ m, k < e'.1 → e.1 ≤ e'.1 := by
  obtain ⟨hk, pre, post, hsplit, hpre⟩ := List.find?_eq_some_iff_append.mp h
  obtain ⟨-, hpost⟩ := lt_of_split hsplit
  refine ⟨List.mem_of_find?_eq_some h, by simpa using hk, fun e' he' hlt => ?_⟩
  rw [mem_def, hsplit, List.mem_append, List.mem_cons] at he'
  rcases he' with he' | rfl | he'
  · exact absurd hlt (by simpa using hpre e' he')
  · exact le_rfl
  · exact (hpost e' he').le

lemma upperBound_none (h : m.upperBound k = none) : ∀ e ∈ m, e.1 ≤ k := by
  intro e he
  have hnot := List.find?_eq_none.mp h e he
  simpa using hnot

/-- The entries are those up to a key and those above it. -/
lemma mem_takeWhile_or_lt (he : e ∈ m) :
    e ∈ m.entries.takeWhile (fun e => e.1 ≤ k) ∨ k < e.1 := by
  have hsplit := List.takeWhile_append_dropWhile (p := fun e : K × V => e.1 ≤ k) (l := m.entries)
  rw [mem_def, ← hsplit, List.mem_append] at he
  refine he.imp_right fun hdrop => ?_
  cases hrest : m.entries.dropWhile (fun e => e.1 ≤ k) with
  | nil => simp [hrest] at hdrop
  | cons d rest =>
      have hd : k < d.1 := by
        have := List.head?_dropWhile_not (fun e : K × V => e.1 ≤ k) m.entries
        simpa [hrest] using this
      rw [hrest] at hdrop hsplit
      rcases List.mem_cons.mp hdrop with rfl | hmem
      · exact hd
      · exact hd.trans ((lt_of_split hsplit.symm).2 e hmem)

lemma lastUpTo_spec (h : m.lastUpTo k = some e) :
    e ∈ m ∧ e.1 ≤ k ∧ ∀ e' ∈ m, e'.1 ≤ k → e'.1 ≤ e.1 := by
  obtain ⟨pre, hpre⟩ := List.getLast?_eq_some_iff.mp h
  have hmem : e ∈ m.entries.takeWhile (fun e => e.1 ≤ k) := List.mem_of_getLast? h
  refine ⟨List.takeWhile_subset _ hmem, by simpa using List.mem_takeWhile_imp hmem,
    fun e' he' hle => ?_⟩
  rcases mem_takeWhile_or_lt (k := k) he' with htake | hlt
  · have hsplit : m.entries = pre ++ e :: m.entries.dropWhile (fun e => e.1 ≤ k) := by
      rw [List.append_cons, ← hpre, List.takeWhile_append_dropWhile]
    rw [hpre, List.mem_append, List.mem_singleton] at htake
    rcases htake with hbefore | rfl
    · exact ((lt_of_split hsplit).1 e' hbefore).le
    · exact le_rfl
  · exact absurd hle (not_le.mpr hlt)

lemma lastUpTo_none (h : m.lastUpTo k = none) : ∀ e ∈ m, k < e.1 := by
  intro e he
  have hnil : m.entries.takeWhile (fun e => e.1 ≤ k) = [] := List.getLast?_eq_none_iff.mp h
  rcases mem_takeWhile_or_lt (k := k) he with htake | hlt
  · simp [hnil] at htake
  · exact hlt

end SortedMap

/-! ## Strings as keys -/

section Prefixes

variable {α : Type*} [LinearOrder α]

lemma cons_le_cons_iff {a b : α} {k x : List α} :
    a :: k ≤ b :: x ↔ a < b ∨ (a = b ∧ k ≤ x) := by
  rw [le_iff_lt_or_eq, List.cons_lt_cons_iff, le_iff_lt_or_eq, List.cons.injEq]
  tauto

lemma nil_le (p : List α) : [] ≤ p := not_lt.mp (List.not_lt_nil p)

/-- The extensions of a list form an interval: what lies between a list and one of its
extensions extends it, too. -/
lemma prefix_of_between {k x p : List α} (h : k <+: p) (hkx : k ≤ x) (hxp : x ≤ p) : k <+: x := by
  induction k generalizing x p with
  | nil => exact List.nil_prefix
  | cons a k ih =>
      obtain ⟨t, rfl⟩ := h
      cases x with
      | nil => exact absurd (le_antisymm hkx (nil_le _)) (by simp)
      | cons b x =>
          rw [List.cons_append, cons_le_cons_iff] at hxp
          rw [cons_le_cons_iff] at hkx
          rcases hkx with hlt | ⟨rfl, hkx⟩
          · rcases hxp with hgt | ⟨rfl, -⟩
            · exact absurd (hlt.trans hgt) (lt_irrefl a)
            · exact absurd hlt (lt_irrefl _)
          · rcases hxp with hgt | ⟨-, hxp⟩
            · exact absurd hgt (lt_irrefl a)
            · exact List.cons_prefix_cons.mpr ⟨rfl, ih ⟨t, rfl⟩ hkx hxp⟩

/-- A list comes before its extensions. -/
lemma le_of_extends {k p : List α} (h : k <+: p) : k ≤ p := by
  induction k generalizing p with
  | nil => exact nil_le p
  | cons a k ih =>
      obtain ⟨t, rfl⟩ := h
      rw [List.cons_append, cons_le_cons_iff]
      exact .inr ⟨rfl, ih ⟨t, rfl⟩⟩

end Prefixes

end TorOnion
