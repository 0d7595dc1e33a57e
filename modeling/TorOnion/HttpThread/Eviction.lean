import Mathlib.Computability.StateTransition
import TorOnion.HttpThread.SslContexts

/-!
# The loop that evicts stale contexts

`evict_stale_ssl_contexts` removes entries from the cache while it walks over it.  The place of a
removed entry is taken by the last one, which has not been looked at, so the index stays and the
bound is read again.  Here is the loop round by round, with a record of the entries that it has
released; `HttpThread.evictStaleSslContexts` is where it stops (`sweep_mem_eval`).
-/

namespace TorOnion

namespace HttpThread

open StateTransition (eval)

/-- Where the loop stands. -/
structure Eviction where
  i : ℕ
  map : List (ℕ × SslContextCacheEntry)
  /-- The entries on which `release` has been called, oldest first. -/
  released : List (ℕ × SslContextCacheEntry)

/-- One round of the loop, unless the condition of the loop fails. -/
def evictRound (now : ℕ) (e : Eviction) : Option Eviction :=
  if h : e.i < e.map.length then
    let entryLastUsed := e.map[e.i].2.lastUsedNs
    if now - entryLastUsed > sslContextCacheTtlNs then
      some { e with
        map := ArrayMap.swapRemove e.map e.i
        released := e.released ++ [e.map[e.i]] }
    else some { e with i := e.i + 1 }
  else none

variable {now : ℕ} {e : Eviction} {s : HttpThread}

lemma evictRound_eq_none (h : e.map.length ≤ e.i) : evictRound now e = none :=
  dif_neg (Nat.not_lt.mpr h)

lemma evictRound_of_stale (h : e.i < e.map.length) (hstale : isStale now e.map[e.i] = true) :
    evictRound now e = some { e with
      map := ArrayMap.swapRemove e.map e.i
      released := e.released ++ [e.map[e.i]] } := by
  rw [evictRound, dif_pos h]
  exact if_pos (of_decide_eq_true hstale)

lemma evictRound_of_fresh (h : e.i < e.map.length) (hfresh : isStale now e.map[e.i] = false) :
    evictRound now e = some { e with i := e.i + 1 } := by
  rw [evictRound, dif_pos h]
  exact if_neg (of_decide_eq_false hfresh)

/-- The loop stops where the sweep ends: every round leaves one place less to look at. -/
lemma sweep_mem_eval {n : ℕ} (hn : e.map.length ≤ e.i + n) :
    ∃ stop ∈ eval (evictRound now) e,
      stop.map = (ArrayMap.sweep (isStale now) n e.i e.map).1 ∧
        stop.released = e.released ++ (ArrayMap.sweep (isStale now) n e.i e.map).2 := by
  induction n generalizing e with
  | zero =>
      have hstop : e ∈ eval (evictRound now) e :=
        StateTransition.mem_eval.mpr ⟨.refl, evictRound_eq_none hn⟩
      exact ⟨e, hstop, rfl, (List.append_nil _).symm⟩
  | succ n ih =>
      rw [ArrayMap.sweep]
      by_cases hi : e.i < e.map.length
      · rw [List.getElem?_eq_getElem hi]
        simp only
        by_cases hstale : isStale now e.map[e.i] = true
        · have hround := evictRound_of_stale hi hstale
          have hlen := ArrayMap.length_swapRemove hi
          rw [if_pos hstale, StateTransition.reaches_eval (.single hround)]
          obtain ⟨stop, hstop, hmap, hreleased⟩ := ih (e := { e with
            map := ArrayMap.swapRemove e.map e.i
            released := e.released ++ [e.map[e.i]] }) (by simp only; omega)
          exact ⟨stop, hstop, hmap, hreleased.trans (List.append_assoc ..)⟩
        · have hround := evictRound_of_fresh hi (Bool.eq_false_iff.mpr hstale)
          rw [if_neg hstale, StateTransition.reaches_eval (.single hround)]
          exact ih (by simp only; omega)
      · have hstop : e ∈ eval (evictRound now) e :=
          StateTransition.mem_eval.mpr ⟨.refl, evictRound_eq_none (Nat.not_lt.mp hi)⟩
        rw [List.getElem?_eq_none (Nat.not_lt.mp hi)]
        exact ⟨e, hstop, rfl, (List.append_nil _).symm⟩

/-- **Stale contexts are evicted wherever they stand.**  The loop stops, and `evictStaleSslContexts`
is what it has done by then: the entries whose age is at most the time to live are left, under the
keys that they had, and every other entry has been released once. -/
theorem evictStaleSslContexts_exact (now : ℕ) (s : HttpThread) :
    ∃ stop ∈ eval (evictRound now) ⟨0, s.customSslContextMap, []⟩,
      s.evictStaleSslContexts now = { s with
        customSslContextMap := stop.map
        released := s.released ++ stop.released.map fun entry => entry.2.ctx
        timer := now } ∧
      stop.map.Perm (s.customSslContextMap.filter fun entry =>
        now - entry.2.lastUsedNs ≤ sslContextCacheTtlNs) ∧
      stop.released.Perm (s.customSslContextMap.filter fun entry =>
        sslContextCacheTtlNs < now - entry.2.lastUsedNs) ∧
      ((s.customSslContextMap.map Prod.fst).Nodup → ∀ key,
        stop.map.lookup key = (s.customSslContextMap.lookup key).filter fun entry =>
          now - entry.lastUsedNs ≤ sslContextCacheTtlNs) := by
  obtain ⟨stop, hstop, hmap, hreleased⟩ := @sweep_mem_eval now ⟨0, s.customSslContextMap, []⟩
    s.customSslContextMap.length (by simp)
  obtain ⟨hkept, hremoved⟩ := ArrayMap.sweep_spec (p := isStale now)
    (l := s.customSslContextMap) (i := 0) (n := s.customSslContextMap.length) (by simp) (by simp)
  rw [List.nil_append] at hreleased
  have hfresh : stop.map.Perm (s.customSslContextMap.filter fun entry =>
      now - entry.2.lastUsedNs ≤ sslContextCacheTtlNs) := by
    rw [hmap]
    refine hkept.trans (.of_eq (List.filter_congr fun entry _ => ?_))
    rw [isStale, ← decide_not, decide_eq_decide]
    exact Nat.not_lt
  refine ⟨stop, hstop, ?_, hfresh, ?_, fun hkeys => ArrayMap.lookup_of_perm_filter hkeys hfresh⟩
  · rw [hmap, hreleased]
    rfl
  · rw [hreleased]
    exact hremoved

/-! ## Two stale entries at the end -/

/-- The entry in the middle is removed, and the one that takes its place is, too. -/
def staleAtEnd : HttpThread :=
  { customSslContextMap := [(10, ⟨0, 9, 10⟩), (11, ⟨1, 5, 11⟩), (12, ⟨2, 8, 12⟩)]
    nextContext := 3 }

theorem evictStaleSslContexts_exact_staleAtEnd :
    ∃ stop ∈ eval (evictRound (sslContextCacheTtlNs + 9)) ⟨0, staleAtEnd.customSslContextMap, []⟩,
      (staleAtEnd.evictStaleSslContexts (sslContextCacheTtlNs + 9)).released = [1, 2] ∧
        stop.map.lookup 10 = some ⟨0, 9, 10⟩ ∧ stop.map.lookup 12 = none := by
  obtain ⟨stop, hstop, -, -, -, hlookup⟩ :=
    evictStaleSslContexts_exact (sslContextCacheTtlNs + 9) staleAtEnd
  have hkeys : (staleAtEnd.customSslContextMap.map Prod.fst).Nodup := by decide
  exact ⟨stop, hstop, by decide, (hlookup hkeys 10).trans (by decide),
    (hlookup hkeys 12).trans (by decide)⟩

end HttpThread

end TorOnion
