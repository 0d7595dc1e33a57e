import Mathlib.Data.List.Sigma

/-!
# Lists that are searched by key

A list in which an entry is found by its key: the first entry with the key counts, and an entry
behind another one with its key is never found.  `modifyFound` changes the entry found under one
key, `mapFound` the entries found under every key at once.  Changing the entries found one after
the other is changing them all at once (`mapFound_comp`), so the order in which different keys are
served does not matter (`foldl_modifyFound_entries`).
-/

namespace TorOnion

variable {κ α β : Type*} [DecidableEq κ] (key : α → κ)

/-- The entry found under a key is changed. -/
def modifyFound (k : κ) (h : α → α) : List α → List α
  | [] => []
  | a :: l => if key a = k then h a :: l else a :: modifyFound k h l

/-- The entries found under all keys are changed, each by the change for its key. -/
def mapFound (f : κ → α → α) : List α → List α
  | [] => []
  | a :: l => f (key a) a :: mapFound (Function.update f (key a) id) l

variable {key} {k : κ} {f g : κ → α → α} {l : List α}

lemma mapFound_congr (h : ∀ a ∈ l, f (key a) = g (key a)) :
    mapFound key f l = mapFound key g l := by
  induction l generalizing f g with
  | nil => rfl
  | cons a l ih =>
      rw [mapFound, mapFound, h a List.mem_cons_self]
      congr 1
      refine ih fun b hb => ?_
      rcases eq_or_ne (key b) (key a) with heq | hne
      · rw [heq, Function.update_self, Function.update_self]
      · rw [Function.update_of_ne hne, Function.update_of_ne hne]
        exact h b (List.mem_cons_of_mem _ hb)

@[simp]
lemma mapFound_id : mapFound key (fun _ => id) l = l := by
  induction l with
  | nil => rfl
  | cons a l ih => rw [mapFound, Function.update_eq_self_iff.mpr rfl, ih, id]

lemma mapFound_eq_self (h : ∀ a ∈ l, f (key a) = id) : mapFound key f l = l :=
  (mapFound_congr h).trans mapFound_id

/-- One change is the changes of all keys, the others being no changes. -/
lemma modifyFound_eq_mapFound (h : α → α) :
    modifyFound key k h l = mapFound key (Function.update (fun _ => id) k h) l := by
  induction l with
  | nil => rfl
  | cons a l ih =>
      rw [modifyFound, mapFound]
      split
      next heq =>
        rw [heq, Function.update_self, Function.update_idem, Function.update_eq_self_iff.mpr rfl,
          mapFound_id]
      next hne =>
        have hkept : Function.update (Function.update (fun _ => id) k h) (key a) id =
            Function.update (fun _ => id) k h :=
          Function.update_eq_self_iff.mpr (Function.update_of_ne hne h fun _ => id).symm
        rw [hkept, Function.update_of_ne hne, ih, id]

/-- The keys stay. -/
lemma map_key_mapFound (hf : ∀ k a, key (f k a) = key a) :
    (mapFound key f l).map key = l.map key := by
  induction l generalizing f with
  | nil => rfl
  | cons a l ih =>
      rw [mapFound, List.map_cons, List.map_cons, hf, ih]
      intro k b
      rcases eq_or_ne k (key a) with rfl | hne
      · rw [Function.update_self, id]
      · rw [Function.update_of_ne hne, hf]

lemma mapFound_comp (hg : ∀ k a, key (g k a) = key a) :
    mapFound key f (mapFound key g l) = mapFound key (fun k => f k ∘ g k) l := by
  induction l generalizing f g with
  | nil => rfl
  | cons a l ih =>
      rw [mapFound, mapFound, mapFound, hg, ih, Function.comp_apply]
      · congr 2
        funext j
        rcases eq_or_ne j (key a) with rfl | hne
        · simp only [Function.update_self, Function.comp_id]
        · simp only [Function.update_of_ne hne]
      · intro j b
        rcases eq_or_ne j (key a) with rfl | hne
        · rw [Function.update_self, id]
        · rw [Function.update_of_ne hne, hg]

/-- Where no key stands twice, every entry is found. -/
lemma mapFound_of_nodup (h : (l.map key).Nodup) :
    mapFound key f l = l.map fun a => f (key a) a := by
  induction l generalizing f with
  | nil => rfl
  | cons a l ih =>
      obtain ⟨hnew, htail⟩ := List.nodup_cons.mp h
      rw [mapFound, List.map_cons, ih htail]
      congr 1
      refine List.map_congr_left fun b hb => ?_
      have hne : key b ≠ key a := fun heq => hnew (heq ▸ List.mem_map_of_mem hb)
      rw [Function.update_of_ne hne]

/-- Serving the entries of a map makes the change of each entry. -/
lemma foldl_modifyFound_entries {h : β → α → α} (hh : ∀ b a, key (h b a) = key a)
    {entries : List (Sigma fun _ : κ => β)} (hkeys : entries.NodupKeys) :
    entries.foldl (fun l e => modifyFound key e.1 (h e.2) l) l =
      mapFound key (fun k => (entries.dlookup k).elim id h) l := by
  induction entries generalizing l with
  | nil => exact mapFound_id.symm
  | cons e entries ih =>
      obtain ⟨hnew, htail⟩ := List.nodupKeys_cons.mp hkeys
      rw [List.foldl_cons, ih htail, modifyFound_eq_mapFound, mapFound_comp]
      · congr 1
        funext k
        rcases eq_or_ne k e.1 with rfl | hne
        · rw [Function.update_self, List.dlookup_cons_eq, List.dlookup_eq_none.mpr hnew]
          rfl
        · rw [Function.update_of_ne hne, List.dlookup_cons_ne _ _ hne, Function.comp_id]
      · intro k a
        rcases eq_or_ne k e.1 with rfl | hne
        · rw [Function.update_self, hh]
        · rw [Function.update_of_ne hne, id]

end TorOnion
