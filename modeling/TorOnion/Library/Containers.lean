import Mathlib

/-!
# Queues and tables

* `Fifo` is a first-in first-out queue together with what has left it.  `log` is all that was ever
  pushed, oldest first: `push` extends it at its end and `pop` leaves it as it is (`log_push`,
  `log_pop`).  So whatever mixture of the two a program performs, what has left the queue is an
  initial part of what was pushed, and what waits is the rest: nothing is lost, duplicated or
  reordered.  A program is shown to deliver in order by exhibiting its steps as pushes and pops of
  such a queue.
* `MemoOf f m` says that every entry of a finite map `m` is the value of `f` at its key.  It holds
  of the empty table, and remembering one more answer keeps it (`MemoOf.insert`); an entry found is
  then as good as the value computed (`MemoOf.eq_of_lookup`).  Nothing is said of which answers a
  table keeps, so a table may drop entries, or all of them, at any time.
* `collect` builds a map by inserting pairs one after the other: of the pairs with one key, the last
  one stays.  The maps of two lists of pairs combine with the later one in front
  (`lookup_collect_append`), and a lookup finds the last piece of the list that has the key
  (`lookup_collect_flatMap_iff`).
-/

namespace TorOnion

/-! ## Queues with a history -/

/-- A queue and its history, oldest first. -/
@[ext]
structure Fifo (α : Type*) where
  gone : List α
  waiting : List α

namespace Fifo

variable {α : Type*} (q : Fifo α)

/-- All that was ever pushed. -/
def log : List α := q.gone ++ q.waiting

/-- New elements join the queue at its end. -/
def push (new : List α) : Fifo α := ⟨q.gone, q.waiting ++ new⟩

/-- The oldest `n` elements leave the queue. -/
def pop (n : ℕ) : Fifo α := ⟨q.gone ++ q.waiting.take n, q.waiting.drop n⟩

@[simp] lemma log_push (new : List α) : (q.push new).log = q.log ++ new := by
  rw [log, log, push, List.append_assoc]

@[simp] lemma log_pop (n : ℕ) : (q.pop n).log = q.log := by
  rw [log, log, pop, List.append_assoc, List.take_append_drop]

@[simp] lemma pop_zero : q.pop 0 = q := by
  rw [pop, List.take_zero, List.append_nil, List.drop_zero]

/-- When nothing waits, all that was pushed has left. -/
lemma gone_eq_log (h : q.waiting = []) : q.gone = q.log := by
  rw [log, h, List.append_nil]

end Fifo

/-! ## Memo tables -/

section Memo

variable {κ ν : Type*} [DecidableEq κ] {f : κ → ν} {m : AList fun _ : κ => ν} {k : κ}

/-- Every entry is the value of `f` at its key. -/
def MemoOf (f : κ → ν) (m : AList fun _ : κ => ν) : Prop :=
  ∀ k v, m.lookup k = some v → v = f k

lemma memoOf_empty : MemoOf f (∅ : AList fun _ : κ => ν) := by
  intro k v h
  rw [AList.lookup_empty] at h
  cases h

lemma MemoOf.eq_of_lookup {v : ν} (h : MemoOf f m) (hget : m.lookup k = some v) : v = f k :=
  h k v hget

lemma MemoOf.insert (h : MemoOf f m) : MemoOf f (m.insert k (f k)) := by
  intro k' v hget
  by_cases hk : k' = k
  · subst hk
    rw [AList.lookup_insert] at hget
    exact (Option.some.inj hget).symm
  · rw [AList.lookup_insert_ne hk] at hget
    exact h k' v hget

/-- The number of entries. -/
def memoSize (m : AList fun _ : κ => ν) : ℕ := m.entries.length

lemma memoSize_insert_le (v : ν) : memoSize (m.insert k v) ≤ memoSize m + 1 := by
  rw [memoSize, AList.entries_insert, List.length_cons]
  exact Nat.succ_le_succ (List.kerase_sublist k m.entries).length_le

end Memo

/-! ## Collecting pairs -/

section Collect

variable {κ ν β : Type} [DecidableEq κ] {k : κ} {v : ν}

/-- The pairs inserted from the left. -/
def collect (entries : List (κ × ν)) : AList fun _ : κ => ν :=
  entries.foldl (fun table entry => table.insert entry.1 entry.2) ∅

@[simp] lemma lookup_collect_nil : (collect ([] : List (κ × ν))).lookup k = none := rfl

lemma lookup_collect_concat (entries : List (κ × ν)) (entry : κ × ν) :
    (collect (entries ++ [entry])).lookup k =
      if k = entry.1 then some entry.2 else (collect entries).lookup k := by
  rw [collect, List.foldl_append]
  by_cases h : k = entry.1
  · subst h
    simp
  · simp [h, AList.lookup_insert_ne, collect]

/-- The later pairs are looked up first. -/
theorem lookup_collect_append (xs ys : List (κ × ν)) :
    (collect (xs ++ ys)).lookup k = ((collect ys).lookup k).or ((collect xs).lookup k) := by
  induction ys using List.reverseRecOn with
  | nil => simp
  | append_singleton ys entry ih =>
      rw [← List.append_assoc, lookup_collect_concat, lookup_collect_concat, ih]
      split <;> simp

/-- Keys with a common value. -/
lemma lookup_collect_map_const (keys : List κ) :
    (collect (keys.map fun key => (key, v))).lookup k = if k ∈ keys then some v else none := by
  induction keys using List.reverseRecOn with
  | nil => simp
  | append_singleton keys key ih =>
      rw [List.map_append, List.map_singleton, lookup_collect_concat, ih]
      by_cases hkey : k = key
      · simp [hkey]
      · simp [hkey]

/-- **The last piece with the key decides.** -/
theorem lookup_collect_flatMap_iff (pieces : List β) (f : β → List (κ × ν)) :
    (collect (pieces.flatMap f)).lookup k = some v ↔
      ∃ before piece after, pieces = before ++ piece :: after ∧
        (collect (f piece)).lookup k = some v ∧
        ∀ later ∈ after, (collect (f later)).lookup k = none := by
  induction pieces using List.reverseRecOn with
  | nil => simp
  | append_singleton pieces last ih =>
      rw [List.flatMap_append, List.flatMap_singleton, lookup_collect_append]
      constructor
      · intro h
        rcases Option.or_eq_some_iff.mp h with hlast | ⟨hnone, hprev⟩
        · exact ⟨pieces, last, [], rfl, hlast, by simp⟩
        · obtain ⟨before, piece, after, rfl, hpiece, hafter⟩ := ih.mp hprev
          refine ⟨before, piece, after ++ [last], by simp, hpiece, fun later hlater => ?_⟩
          rcases List.mem_append.mp hlater with hmem | hmem
          · exact hafter later hmem
          · obtain rfl := List.mem_singleton.mp hmem
            exact hnone
      · rintro ⟨before, piece, after, heq, hpiece, hafter⟩
        rcases List.eq_nil_or_concat after with rfl | ⟨after, last', rfl⟩
        · obtain ⟨rfl, hcons⟩ := List.append_inj' heq rfl
          obtain rfl := List.singleton_inj.mp hcons
          simp [hpiece]
        · rw [List.concat_eq_append, ← List.cons_append, ← List.append_assoc] at heq
          obtain ⟨rfl, hlast⟩ := List.append_inj' heq rfl
          obtain rfl := List.singleton_inj.mp hlast
          rw [hafter last (by simp), Option.none_or]
          exact ih.mpr ⟨before, piece, after, rfl, hpiece, fun later hlater =>
            hafter later (by simp [hlater])⟩

end Collect

end TorOnion
