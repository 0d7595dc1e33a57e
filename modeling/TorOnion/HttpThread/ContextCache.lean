import TorOnion.HttpThread.SslContexts

/-!
# The cache of TLS contexts

What evictions and insertions do to the cache, and the invariant `CacheKept` of a thread whose
timer does not go back: the cache has at most 60 entries, one for each configuration, and every
context that was created is either referred to by one entry or has been released once.

A new context is not released by the eviction it causes (`CacheKept.mem_evictOldest`): its entry is
the last of the array and not older than any other, and the search takes the first oldest entry.
What a call of `connect` releases is known entry by entry (`Evicts`).

A client that waits in a context keeps the context alive when its entry is evicted, but a shutdown
message is only taken to the contexts of the cache, so the abort is lost
(`abort_lost_to_eviction`).  In runs where no context with a waiting client is evicted every abort
reaches its client (`abortReaches_of_run`).
-/

namespace TorOnion

namespace HttpThread

open Relation (ReflTransGen)

variable {s s' : HttpThread} {now config : ℕ} {client : HttpClient} {answers : ConnectAnswers}
  {isSsl : Bool} {id : UInt32}

/-- The contexts that the cache refers to. -/
def cachedContexts (s : HttpThread) : List ℕ := s.customSslContextMap.map fun entry => entry.2.ctx

/-! ## Evictions -/

/-- **Stale entries go, the others stay.** -/
lemma evictStaleSslContexts_spec (now : ℕ) (s : HttpThread) :
    (s.evictStaleSslContexts now).customSslContextMap.Perm
        (s.customSslContextMap.filter fun entry => !isStale now entry) ∧
      ∃ removed : List (ℕ × SslContextCacheEntry),
        (s.evictStaleSslContexts now).released =
            s.released ++ removed.map (fun entry => entry.2.ctx) ∧
          removed.Perm (s.customSslContextMap.filter (isStale now)) := by
  obtain ⟨hkept, hremoved⟩ := ArrayMap.sweep_spec (p := isStale now)
    (l := s.customSslContextMap) (i := 0) (n := s.customSslContextMap.length) (by simp) (by simp)
  exact ⟨hkept, _, rfl, hremoved⟩

/-- **The oldest entry goes.**  It is the first of those that were used least recently. -/
lemma evictOldestSslContext_spec (hne : s.customSslContextMap ≠ [])
    (htimes : ∀ entry ∈ s.customSslContextMap, entry.2.lastUsedNs ≤ 2 ^ 64 - 1) :
    ∃ i, ∃ h : i < s.customSslContextMap.length,
      s.evictOldestSslContext = { s with
        customSslContextMap := ArrayMap.swapRemove s.customSslContextMap i
        released := s.released ++ [s.customSslContextMap[i].2.ctx] } ∧
      (∀ entry ∈ s.customSslContextMap,
        s.customSslContextMap[i].2.lastUsedNs ≤ entry.2.lastUsedNs) ∧
      ∀ entry ∈ s.customSslContextMap.take i,
        s.customSslContextMap[i].2.lastUsedNs < entry.2.lastUsedNs := by
  obtain ⟨h, hmin, hfirst⟩ := ArrayMap.firstMin_spec hne htimes
  refine ⟨_, h, ?_, hmin, hfirst⟩
  unfold evictOldestSslContext
  simp only
  rw [List.getElem?_eq_getElem h]

/-! ## The invariant -/

/-- The cache in a thread whose timer does not go back, but for its size. -/
structure CacheShape (s : HttpThread) : Prop where
  keys : (s.customSslContextMap.map Prod.fst).Nodup
  times : ∀ entry ∈ s.customSslContextMap, entry.2.lastUsedNs ≤ s.timer
  timer : s.timer < 2 ^ 64
  references : (s.cachedContexts ++ s.released).Perm (List.range s.nextContext)

/-- The cache between the calls of `connect`. -/
structure CacheKept (s : HttpThread) : Prop extends CacheShape s where
  size : s.customSslContextMap.length ≤ sslContextCacheMaxSize

lemma cacheKept_init : CacheKept {} := by
  refine ⟨⟨?_, ?_, ?_, ?_⟩, ?_⟩ <;> simp [cachedContexts]

/-- Entries that are taken out of the cache are released. -/
lemma perm_references {kept taken released : List ℕ} :
    (kept ++ (released ++ taken)).Perm (taken ++ kept ++ released) := by
  rw [← List.append_assoc]
  exact List.perm_append_comm.trans (by rw [List.append_assoc])

lemma CacheKept.evictStale (h : CacheKept s) (hnow : s.timer ≤ now) (hlt : now < 2 ^ 64) :
    CacheKept (s.evictStaleSslContexts now) := by
  obtain ⟨hkept, removed, hreleased, hremoved⟩ := evictStaleSslContexts_spec now s
  have hsub : (s.evictStaleSslContexts now).customSslContextMap ⊆ s.customSslContextMap :=
    fun e he => (List.mem_filter.mp (hkept.subset he)).1
  refine ⟨⟨?_, fun e he => (h.times e (hsub he)).trans hnow, hlt, ?_⟩, ?_⟩
  · rw [(hkept.map Prod.fst).nodup_iff]
    exact h.keys.sublist (List.filter_sublist.map Prod.fst)
  · refine List.Perm.trans ?_ h.references
    rw [hreleased]
    refine perm_references.trans (List.Perm.append_right _ ?_)
    refine ((hremoved.map _).append (hkept.map _)).trans ?_
    rw [← List.map_append]
    exact (List.filter_append_perm _ _).map _
  · rw [hkept.length_eq]
    exact (List.length_filter_le _ _).trans h.size

/-- The oldest entry that `evict_oldest_ssl_context` takes out. -/
lemma CacheShape.evictOldest (h : CacheShape s) (hne : s.customSslContextMap ≠ []) :
    ∃ oldest ∈ s.customSslContextMap,
      (oldest :: s.evictOldestSslContext.customSslContextMap).Perm s.customSslContextMap ∧
      s.evictOldestSslContext.released = s.released ++ [oldest.2.ctx] ∧
      (∀ entry ∈ s.customSslContextMap, oldest.2.lastUsedNs ≤ entry.2.lastUsedNs) ∧
      CacheShape s.evictOldestSslContext := by
  have htop : ∀ entry ∈ s.customSslContextMap, entry.2.lastUsedNs ≤ 2 ^ 64 - 1 :=
    fun e he => (h.times e he).trans (Nat.le_pred_of_lt h.timer)
  obtain ⟨i, hi, heq, hmin, -⟩ := evictOldestSslContext_spec hne htop
  have hperm := ArrayMap.perm_swapRemove hi
  rw [heq]
  refine ⟨_, List.getElem_mem hi, hperm, rfl, hmin, ?_, fun e he => ?_, h.timer, ?_⟩
  · have hkeys := (hperm.map Prod.fst).nodup_iff.mpr h.keys
    rw [List.map_cons] at hkeys
    exact hkeys.of_cons
  · exact h.times e (hperm.subset (List.mem_cons_of_mem _ he))
  · refine List.Perm.trans ?_ h.references
    exact perm_references.trans ((hperm.map fun entry => entry.2.ctx).append_right _)

/-- The new entry is the last one. -/
lemma insertContext_map (now : ℕ) (h : config ∉ s.customSslContextMap.map Prod.fst) :
    (s.insertContext config now).customSslContextMap =
      s.customSslContextMap ++ [(config, ⟨s.nextContext, now, config⟩)] :=
  ArrayMap.put_of_not_mem h

lemma CacheShape.insertContext (h : CacheShape s) (hnow : s.timer ≤ now) (hlt : now < 2 ^ 64)
    (hconfig : config ∉ s.customSslContextMap.map Prod.fst) :
    CacheShape (s.insertContext config now) := by
  have hmap := insertContext_map now hconfig
  refine ⟨?_, fun e he => ?_, hlt, ?_⟩
  · rw [hmap, List.map_append, List.nodup_append]
    refine ⟨h.keys, List.nodup_singleton _, fun a ha b hb => ?_⟩
    rintro rfl
    have heq : a = config := List.mem_singleton.mp hb
    exact hconfig (heq ▸ ha)
  · rw [hmap] at he
    rcases List.mem_append.mp he with he | he
    · exact (h.times e he).trans hnow
    · rw [List.mem_singleton.mp he]
      exact le_rfl
  · rw [cachedContexts, hmap, List.map_append]
    change (_ ++ [s.nextContext] ++ s.released).Perm (List.range (s.nextContext + 1))
    rw [List.range_succ, List.append_assoc]
    refine (List.Perm.append_left _ List.perm_append_comm).trans ?_
    rw [← List.append_assoc]
    exact h.references.append_right _

/-- **The new context stays.**  Its entry is the last one and no older than the others, and the
search takes the first oldest entry. -/
lemma CacheKept.mem_evictOldest (h : CacheKept s) (hnow : s.timer ≤ now) (hlt : now < 2 ^ 64)
    (hconfig : config ∉ s.customSslContextMap.map Prod.fst)
    (hfull : (s.insertContext config now).customSslContextMap.length > sslContextCacheMaxSize) :
    s.nextContext ∈ (s.insertContext config now).evictOldestSslContext.cachedContexts := by
  have hshape := h.toCacheShape.insertContext hnow hlt hconfig
  have hmap := insertContext_map now hconfig
  set t := s.insertContext config now
  have hne : t.customSslContextMap ≠ [] := by
    rw [hmap]
    exact List.append_ne_nil_of_right_ne_nil _ (List.cons_ne_nil _ _)
  have htop : ∀ entry ∈ t.customSslContextMap, entry.2.lastUsedNs ≤ 2 ^ 64 - 1 :=
    fun e he => (hshape.times e he).trans (Nat.le_pred_of_lt hshape.timer)
  obtain ⟨i, hi, heq, -, hfirst⟩ := evictOldestSslContext_spec hne htop
  have hold : i < s.customSslContextMap.length := by
    by_contra hlast
    have hlen : t.customSslContextMap.length = s.customSslContextMap.length + 1 := by
      rw [hmap, List.length_append, List.length_singleton]
    have hi' : i = s.customSslContextMap.length := by omega
    obtain ⟨e, he⟩ := List.exists_mem_of_length_pos
      (show 0 < s.customSslContextMap.length by
        have : sslContextCacheMaxSize = 60 := rfl
        omega)
    have hlater := hfirst e (by rw [hi', hmap, List.take_left']; exacts [he, rfl])
    have hnew : t.customSslContextMap[i].2.lastUsedNs = now := by
      simp [hmap, hi']
    have := h.times e he
    omega
  have hperm := ArrayMap.perm_swapRemove hi
  have hmem : (config, (⟨s.nextContext, now, config⟩ : SslContextCacheEntry)) ∈
      t.customSslContextMap[i] :: ArrayMap.swapRemove t.customSslContextMap i := by
    refine hperm.symm.subset ?_
    rw [hmap]
    exact List.mem_append_right _ List.mem_cons_self
  rw [heq]
  refine List.mem_map.mpr ⟨_, (List.mem_cons.mp hmem).resolve_left fun hsame => ?_, rfl⟩
  have hget : t.customSslContextMap[i] = s.customSslContextMap[i] := by
    simp only [hmap]
    exact List.getElem_append_left hold
  rw [hget] at hsame
  exact hconfig (List.mem_map.mpr ⟨_, List.getElem_mem hold, congrArg Prod.fst hsame.symm⟩)

/-- The cache after a new context was put into it. -/
lemma CacheKept.insert_evict (h : CacheKept s) (hnow : s.timer ≤ now) (hlt : now < 2 ^ 64)
    (hconfig : config ∉ s.customSslContextMap.map Prod.fst) :
    CacheKept (if (s.insertContext config now).customSslContextMap.length >
        sslContextCacheMaxSize then (s.insertContext config now).evictOldestSslContext
      else s.insertContext config now) ∧
    s.nextContext ∈ (if (s.insertContext config now).customSslContextMap.length >
        sslContextCacheMaxSize then (s.insertContext config now).evictOldestSslContext
      else s.insertContext config now).cachedContexts := by
  have hshape := h.toCacheShape.insertContext hnow hlt hconfig
  have hmap := insertContext_map now hconfig
  split_ifs with hfull
  · refine ⟨?_, h.mem_evictOldest hnow hlt hconfig hfull⟩
    have hne : (s.insertContext config now).customSslContextMap ≠ [] := by
      rw [hmap]
      exact List.append_ne_nil_of_right_ne_nil _ (List.cons_ne_nil _ _)
    obtain ⟨oldest, -, hperm, -, -, hevicted⟩ := hshape.evictOldest hne
    refine ⟨hevicted, ?_⟩
    have hlen := hperm.length_eq
    rw [hmap, List.length_cons, List.length_append, List.length_singleton] at hlen
    have := h.size
    omega
  · refine ⟨⟨hshape, not_lt.mp hfull⟩,
      List.mem_map.mpr ⟨(config, ⟨s.nextContext, now, config⟩), ?_, rfl⟩⟩
    rw [hmap]
    exact List.mem_append_right _ List.mem_cons_self

/-! ## A call of `connect` -/

/-- What a call of `connect` leaves: a cache in order that holds the context it connects to. -/
def CallKept (r : HttpThread × Except ConnectError Connection) : Prop :=
  CacheKept r.1 ∧ ∀ ctx hostname port, r.2 = .ok (.host (.custom ctx) hostname port) →
    ctx ∈ r.1.cachedContexts

/-- Whether a client waits does not concern the cache. -/
lemma CallKept.contextConnect (h : CacheKept s) {ctx : ContextRef} (hostname : List UInt8)
    (port : UInt16) (hctx : ∀ n, ctx = .custom n → n ∈ s.cachedContexts) :
    CallKept (s.contextConnect ctx client hostname port answers) := by
  unfold HttpThread.contextConnect
  refine ⟨?_, fun n hostname' port' heq => ?_⟩
  · split_ifs
    · exact ⟨⟨h.keys, h.times, h.timer, h.references⟩, h.size⟩
    · exact h
  · obtain ⟨hn, -⟩ := Connection.host.inj (Except.ok.inj heq)
    split_ifs
    · exact hctx n hn
    · exact hctx n hn

lemma CallKept.error (h : CacheKept s) (e : ConnectError) : CallKept (s, .error e) :=
  ⟨h, fun _ _ _ heq => nomatch heq⟩

/-- The entry that is used gets a new time. -/
lemma CacheKept.modify (h : CacheKept s) (config : ℕ) (hnow : s.timer ≤ now) (hlt : now < 2 ^ 64) :
    CacheKept { s with
      customSslContextMap := ArrayMap.modify config
        (fun entry => { entry with lastUsedNs := now }) s.customSslContextMap
      timer := now } ∧
    ({ s with
      customSslContextMap := ArrayMap.modify config
        (fun entry => { entry with lastUsedNs := now }) s.customSslContextMap
      timer := now } : HttpThread).cachedContexts = s.cachedContexts := by
  have hcontexts : (ArrayMap.modify config
      (fun entry : SslContextCacheEntry => { entry with lastUsedNs := now })
        s.customSslContextMap).map (fun entry => entry.2.ctx) = s.cachedContexts := by
    rw [ArrayMap.modify, List.map_map]
    refine List.map_congr_left fun e _ => ?_
    by_cases heq : e.1 = config <;> simp [heq]
  refine ⟨⟨⟨?_, fun e he => ?_, hlt, ?_⟩, ?_⟩, hcontexts⟩
  · rw [ArrayMap.map_fst_modify]
    exact h.keys
  · obtain ⟨e', he', rfl⟩ := List.mem_map.mp he
    split_ifs
    · exact le_rfl
    · exact (h.times e' he').trans hnow
  · rw [cachedContexts, hcontexts]
    exact h.references
  · rw [ArrayMap.length_modify]
    exact h.size

lemma CacheKept.connectCached (h : CacheKept s) {entry : SslContextCacheEntry}
    (hnow : s.timer ≤ answers.useNow) (hlt : answers.useNow < 2 ^ 64)
    (hentry : (config, entry) ∈ s.customSslContextMap) :
    CallKept (s.connectCached config entry client answers) := by
  obtain ⟨hkept, hcontexts⟩ := h.modify config hnow hlt
  have hmem : entry.ctx ∈ s.cachedContexts := List.mem_map.mpr ⟨_, hentry, rfl⟩
  unfold HttpThread.connectCached
  cases client.httpProxy with
  | none =>
      refine CallKept.contextConnect hkept _ _ fun n hn => ?_
      rw [hcontexts, ← ContextRef.custom.inj hn]
      exact hmem
  | some url =>
      refine CallKept.contextConnect hkept _ _ fun n hn => ?_
      rw [hcontexts, ← ContextRef.custom.inj hn]
      exact hmem

lemma CacheKept.connectCreated (h : CacheKept s) (hnow : s.timer ≤ answers.useNow)
    (hlt : answers.useNow < 2 ^ 64) (hconfig : config ∉ s.customSslContextMap.map Prod.fst) :
    CallKept (s.connectCreated config client answers) := by
  unfold HttpThread.connectCreated
  split_ifs
  · exact CallKept.error h _
  · obtain ⟨hkept, hmem⟩ := h.insert_evict hnow hlt hconfig
    have hctx : ∀ n, ContextRef.custom s.nextContext = .custom n → n ∈ _ :=
      fun n hn => ContextRef.custom.inj hn ▸ hmem
    cases client.httpProxy with
    | none => exact CallKept.contextConnect hkept _ _ hctx
    | some url =>
        simp only
        by_cases hprotocol : supportsProtocol url = true
        · rw [if_pos hprotocol]
          exact CallKept.contextConnect hkept _ _ hctx
        · rw [if_neg hprotocol]
          exact CallKept.error hkept _

lemma CacheKept.connectDefault (h : CacheKept s) :
    CallKept (s.connectDefault (context isSsl) client answers) := by
  have hctx : ∀ n, context isSsl = .custom n → n ∈ s.cachedContexts := by
    intro n hn
    cases isSsl <;> cases hn
  unfold HttpThread.connectDefault
  split
  · split_ifs
    · exact CallKept.contextConnect h _ _ hctx
    · exact CallKept.error h _
    · exact CallKept.contextConnect h _ _ hctx
  · exact CallKept.contextConnect h _ _ hctx

/-- A call of `connect` keeps the cache in order. -/
lemma CacheKept.connect (h : CacheKept s) (hevict : s.timer ≤ answers.evictNow)
    (huse : answers.evictNow ≤ answers.useNow) (hlt : answers.useNow < 2 ^ 64) :
    CallKept (s.connect isSsl client answers) := by
  unfold HttpThread.connect
  by_cases hunix : client.unixSocketPath ≠ []
  · rw [if_pos hunix]
    exact ⟨h, fun _ _ _ heq => nomatch heq⟩
  · rw [if_neg hunix]
    split
    · next config _ =>
        have hevicted := h.evictStale hevict (huse.trans_lt hlt)
        simp only
        cases hlookup : (s.evictStaleSslContexts answers.evictNow).customSslContextMap.lookup
            config with
        | none => exact hevicted.connectCreated huse hlt (ArrayMap.not_mem_of_lookup hlookup)
        | some entry => exact hevicted.connectCached huse hlt (ArrayMap.mem_of_lookup hlookup)
    · exact h.connectDefault

/-! ## What a call releases -/

/-- Between two states, the stale entries of the first were released, if any, and for the size of
the cache at most one entry, which was used least recently; the cache is then full. -/
def Evicts (now : ℕ) (s s' : HttpThread) : Prop :=
  ∃ stale forSize : List (ℕ × SslContextCacheEntry),
    s'.released = s.released ++ (stale ++ forSize).map (fun entry => entry.2.ctx) ∧
      (stale = [] ∨ stale.Perm (s.customSslContextMap.filter (isStale now))) ∧
      forSize.length ≤ 1 ∧
      ∀ oldest ∈ forSize, s'.customSslContextMap.length = sslContextCacheMaxSize ∧
        ∀ entry ∈ s'.customSslContextMap, oldest.2.lastUsedNs ≤ entry.2.lastUsedNs

lemma evicts_of_released (h : s'.released = s.released) : Evicts now s s' :=
  ⟨[], [], by rw [h]; simp, .inl rfl, Nat.zero_le _, fun _ hnil => absurd hnil List.not_mem_nil⟩

@[simp] lemma contextConnect_map (ctx : ContextRef) (hostname : List UInt8) (port : UInt16) :
    (s.contextConnect ctx client hostname port answers).1.customSslContextMap =
      s.customSslContextMap := by
  simp only [HttpThread.contextConnect]
  split_ifs <;> rfl

@[simp] lemma contextConnect_released (ctx : ContextRef) (hostname : List UInt8) (port : UInt16) :
    (s.contextConnect ctx client hostname port answers).1.released = s.released := by
  simp only [HttpThread.contextConnect]
  split_ifs <;> rfl

lemma connectDefault_released (ctx : ContextRef) :
    (s.connectDefault ctx client answers).1.released = s.released := by
  unfold HttpThread.connectDefault
  cases client.httpProxy with
  | none => exact contextConnect_released _ _ _
  | some url =>
      simp only
      split_ifs
      · exact contextConnect_released _ _ _
      · rfl
      · exact contextConnect_released _ _ _

lemma connectCached_released (entry : SslContextCacheEntry) :
    (s.connectCached config entry client answers).1.released = s.released := by
  unfold HttpThread.connectCached
  cases client.httpProxy with
  | none => exact contextConnect_released _ _ _
  | some url => exact contextConnect_released _ _ _

/-- What becomes of the cache when a context is created does not depend on the proxy. -/
lemma connectCreated_cache (s : HttpThread) (config : ℕ) (client : HttpClient)
    (hinit : answers.initFails = false) :
    let inserted := s.insertContext config answers.useNow
    let t := if inserted.customSslContextMap.length > sslContextCacheMaxSize then
      inserted.evictOldestSslContext else inserted
    (s.connectCreated config client answers).1.customSslContextMap = t.customSslContextMap ∧
      (s.connectCreated config client answers).1.released = t.released := by
  intro inserted t
  unfold HttpThread.connectCreated
  rw [if_neg (Bool.eq_false_iff.mp hinit)]
  cases client.httpProxy with
  | none => exact ⟨contextConnect_map _ _ _, contextConnect_released _ _ _⟩
  | some url =>
      simp only
      by_cases hprotocol : supportsProtocol url = true
      · rw [if_pos hprotocol]
        exact ⟨contextConnect_map _ _ _, contextConnect_released _ _ _⟩
      · rw [if_neg hprotocol]
        exact ⟨rfl, rfl⟩

/-- **The entry that is evicted for the size of the cache was used least recently.** -/
lemma CacheKept.connectCreated_full (h : CacheKept s) (hnow : s.timer ≤ answers.useNow)
    (hlt : answers.useNow < 2 ^ 64) (hconfig : config ∉ s.customSslContextMap.map Prod.fst)
    (hinit : answers.initFails = false)
    (hfull : s.customSslContextMap.length = sslContextCacheMaxSize) :
    ∃ oldest, (oldest :: (s.connectCreated config client answers).1.customSslContextMap).Perm
        (s.customSslContextMap ++ [(config, ⟨s.nextContext, answers.useNow, config⟩)]) ∧
      (s.connectCreated config client answers).1.released = s.released ++ [oldest.2.ctx] ∧
      ∀ entry ∈ s.customSslContextMap ++ [(config, ⟨s.nextContext, answers.useNow, config⟩)],
        oldest.2.lastUsedNs ≤ entry.2.lastUsedNs := by
  have hmap := insertContext_map answers.useNow hconfig
  have hlarge : (s.insertContext config answers.useNow).customSslContextMap.length >
      sslContextCacheMaxSize := by
    rw [hmap, List.length_append, hfull]
    exact Nat.lt_succ_self _
  have hne : (s.insertContext config answers.useNow).customSslContextMap ≠ [] := by
    rw [hmap]
    exact List.append_ne_nil_of_right_ne_nil _ (List.cons_ne_nil _ _)
  obtain ⟨oldest, -, hperm, hreleased, hmin, -⟩ :=
    (h.toCacheShape.insertContext hnow hlt hconfig).evictOldest hne
  obtain ⟨hmap', hreleased'⟩ := connectCreated_cache s config client hinit
  rw [if_pos hlarge] at hmap' hreleased'
  rw [hmap] at hperm hmin
  rw [hmap', hreleased']
  exact ⟨oldest, hperm, hreleased, hmin⟩

lemma CacheKept.evicts_connectCreated (h : CacheKept s) (client : HttpClient)
    (hnow : s.timer ≤ answers.useNow) (hlt : answers.useNow < 2 ^ 64)
    (hconfig : config ∉ s.customSslContextMap.map Prod.fst) :
    ∃ forSize : List (ℕ × SslContextCacheEntry),
      (s.connectCreated config client answers).1.released =
          s.released ++ forSize.map (fun entry => entry.2.ctx) ∧
        forSize.length ≤ 1 ∧ ∀ oldest ∈ forSize,
          (s.connectCreated config client answers).1.customSslContextMap.length =
              sslContextCacheMaxSize ∧
            ∀ entry ∈ (s.connectCreated config client answers).1.customSslContextMap,
              oldest.2.lastUsedNs ≤ entry.2.lastUsedNs := by
  by_cases hinit : answers.initFails = true
  · refine ⟨[], ?_, Nat.zero_le _, fun _ hnil => absurd hnil List.not_mem_nil⟩
    rw [HttpThread.connectCreated, if_pos hinit]
    exact (List.append_nil _).symm
  rw [Bool.not_eq_true] at hinit
  by_cases hfull : s.customSslContextMap.length = sslContextCacheMaxSize
  · obtain ⟨oldest, hperm, hreleased, hmin⟩ := h.connectCreated_full hnow hlt hconfig hinit hfull
    refine ⟨[oldest], hreleased, le_rfl, fun oldest' hmem => ?_⟩
    obtain rfl := List.mem_singleton.mp hmem
    refine ⟨?_, fun entry hentry => hmin entry (hperm.subset (List.mem_cons_of_mem _ hentry))⟩
    have hlen := hperm.length_eq
    rw [List.length_cons, List.length_append, List.length_singleton, hfull] at hlen
    exact Nat.succ.inj hlen
  · have hsize := lt_of_le_of_ne h.size hfull
    have hsmall : ¬(s.insertContext config answers.useNow).customSslContextMap.length >
        sslContextCacheMaxSize := by
      rw [insertContext_map _ hconfig, List.length_append, List.length_singleton]
      exact Nat.not_lt.mpr hsize
    have hreleased := (connectCreated_cache s config client hinit).2
    rw [if_neg hsmall] at hreleased
    refine ⟨[], ?_, Nat.zero_le _, fun _ hnil => absurd hnil List.not_mem_nil⟩
    rw [hreleased]
    exact (List.append_nil _).symm

/-- A call of `connect` releases stale entries, and at most one oldest entry. -/
lemma CacheKept.evicts_connect (h : CacheKept s) (hevict : s.timer ≤ answers.evictNow)
    (huse : answers.evictNow ≤ answers.useNow) (hlt : answers.useNow < 2 ^ 64) :
    Evicts answers.evictNow s (s.connect isSsl client answers).1 := by
  unfold HttpThread.connect
  by_cases hunix : client.unixSocketPath ≠ []
  · rw [if_pos hunix]
    exact evicts_of_released rfl
  rw [if_neg hunix]
  split
  · next config _ =>
      obtain ⟨-, removed, hreleased, hremoved⟩ := evictStaleSslContexts_spec answers.evictNow s
      have hevicted := h.evictStale hevict (huse.trans_lt hlt)
      simp only
      cases hlookup : (s.evictStaleSslContexts answers.evictNow).customSslContextMap.lookup
          config with
      | none =>
          obtain ⟨forSize, hreleased', hone, hmin⟩ := hevicted.evicts_connectCreated
            client huse hlt (ArrayMap.not_mem_of_lookup hlookup)
          refine ⟨removed, forSize, ?_, .inr hremoved, hone, hmin⟩
          rw [hreleased', hreleased, List.map_append, List.append_assoc]
      | some entry =>
          refine ⟨removed, [], ?_, .inr hremoved, Nat.zero_le _,
            fun _ hnil => absurd hnil List.not_mem_nil⟩
          rw [connectCached_released, hreleased, List.append_nil]
  · exact evicts_of_released (connectDefault_released _)

/-- A call of `connect` that puts one entry too many into the cache. -/
lemma CacheKept.connect_full (h : CacheKept s) (hevict : s.timer ≤ answers.evictNow)
    (huse : answers.evictNow ≤ answers.useNow) (hlt : answers.useNow < 2 ^ 64)
    (hunix : client.unixSocketPath = [])
    (hcustom : (if isSsl then customConfig client else none) = some config)
    (hinit : answers.initFails = false)
    (hconfig : config ∉ (s.evictStaleSslContexts answers.evictNow).customSslContextMap.map Prod.fst)
    (hfull : (s.evictStaleSslContexts answers.evictNow).customSslContextMap.length =
      sslContextCacheMaxSize) :
    ∃ oldest, (oldest :: (s.connect isSsl client answers).1.customSslContextMap).Perm
        ((s.evictStaleSslContexts answers.evictNow).customSslContextMap ++
          [(config, ⟨s.nextContext, answers.useNow, config⟩)]) ∧
      (s.connect isSsl client answers).1.released =
        (s.evictStaleSslContexts answers.evictNow).released ++ [oldest.2.ctx] ∧
      ∀ entry ∈ (s.evictStaleSslContexts answers.evictNow).customSslContextMap ++
          [(config, ⟨s.nextContext, answers.useNow, config⟩)],
        oldest.2.lastUsedNs ≤ entry.2.lastUsedNs := by
  have hlookup : (s.evictStaleSslContexts answers.evictNow).customSslContextMap.lookup config =
      none := ArrayMap.lookup_of_not_mem hconfig
  have hevicted := h.evictStale hevict (huse.trans_lt hlt)
  unfold HttpThread.connect
  rw [if_neg (not_not.mpr hunix), hcustom]
  simp only [hlookup]
  exact hevicted.connectCreated_full huse hlt hconfig hinit hfull

/-! ## Runs -/

lemma CacheKept.setPending (h : CacheKept s) (ctx : ContextRef) (ids : List UInt32) :
    CacheKept (s.setPending ctx ids) :=
  ⟨⟨h.keys, h.times, h.timer, h.references⟩, h.size⟩

lemma CacheKept.abortPendingH2Waiter (h : CacheKept s) :
    CacheKept (s.abortPendingH2Waiter id).2 := by
  unfold HttpThread.abortPendingH2Waiter
  simp only
  split
  · exact h.setPending _ _
  · exact h

lemma CacheKept.step (h : CacheKept s) {label : Label} (hstep : s.step label = some s') :
    CacheKept s' := by
  cases label with
  | connect isSsl client answers =>
      simp only [HttpThread.step] at hstep
      split_ifs at hstep with htimer
      obtain rfl := Option.some.inj hstep
      exact (h.connect htimer.1 htimer.2.1 htimer.2.2).1
  | resolveWaiter ctx id =>
      obtain rfl := Option.some.inj hstep
      exact h.setPending _ _
  | drainShutdown id =>
      obtain rfl := Option.some.inj hstep
      exact h.abortPendingH2Waiter

lemma cacheKept_of_reachable (h : Reachable s) : CacheKept s :=
  invariant_of_run (fun _ _ h ⟨_, hstep⟩ => h.step hstep) h cacheKept_init

/-- **The cache keeps its invariants.**  In every thread that is reached, and after every further
call of `connect` with a timer that does not go back:

* the cache holds at most 60 entries with distinct configurations;
* a custom context that the call connects to is in the cache;
* every context that was created is referred to by one entry or has been released, once;
* what the call releases are entries that were stale and, for the size of the cache, at most one,
  which was used least recently of all;
* a call that makes a new entry while 60 are fresh releases such an entry, and only this entry is
  gone. -/
theorem sslContextCache_kept (h : Reachable s) :
    (s.customSslContextMap.length ≤ sslContextCacheMaxSize ∧
        (s.customSslContextMap.map Prod.fst).Nodup ∧
        (s.cachedContexts ++ s.released).Perm (List.range s.nextContext)) ∧
      ∀ isSsl client answers s', s.step (.connect isSsl client answers) = some s' →
        (s'.customSslContextMap.length ≤ sslContextCacheMaxSize ∧
          (s'.customSslContextMap.map Prod.fst).Nodup ∧
          (s'.cachedContexts ++ s'.released).Perm (List.range s'.nextContext)) ∧
        (∀ ctx hostname port,
          (s.connect isSsl client answers).2 = .ok (.host (.custom ctx) hostname port) →
            ctx ∈ s'.cachedContexts) ∧
        Evicts answers.evictNow s s' ∧
        ∀ config, client.unixSocketPath = [] →
          (if isSsl then customConfig client else none) = some config →
          answers.initFails = false →
          let fresh := (s.evictStaleSslContexts answers.evictNow).customSslContextMap
          config ∉ fresh.map Prod.fst → fresh.length = sslContextCacheMaxSize →
            let full := fresh ++ [(config, ⟨s.nextContext, answers.useNow, config⟩)]
            ∃ oldest, (oldest :: s'.customSslContextMap).Perm full ∧
              s'.released =
                (s.evictStaleSslContexts answers.evictNow).released ++ [oldest.2.ctx] ∧
              ∀ entry ∈ full, oldest.2.lastUsedNs ≤ entry.2.lastUsedNs := by
  have hkept := cacheKept_of_reachable h
  refine ⟨⟨hkept.size, hkept.keys, hkept.references⟩, fun isSsl client answers s' hstep => ?_⟩
  simp only [step] at hstep
  split_ifs at hstep with htimer
  obtain rfl := Option.some.inj hstep
  obtain ⟨hevict, huse, hlt⟩ := htimer
  have hcall : CallKept (s.connect isSsl client answers) := hkept.connect hevict huse hlt
  obtain ⟨hkept', hctx⟩ := hcall
  refine ⟨⟨hkept'.size, hkept'.keys, hkept'.references⟩, hctx,
    hkept.evicts_connect hevict huse hlt, ?_⟩
  intro config hunix hcustom hinit fresh hconfig hfull full
  exact hkept.connect_full hevict huse hlt hunix hcustom hinit hconfig hfull

/-- A client with the TLS configuration at an address. -/
def tlsClient (id : UInt32) (address : ℕ) : HttpClient :=
  { asyncHttpId := id, tlsProps := some ⟨address, true⟩, url := ⟨[], [], ascii "host", 443⟩ }

/-- Calls with 60 configurations, one a nanosecond, and another one with the first. -/
def sixtyConfigs : List Label :=
  (List.range 60).map (fun n => .connect true (tlsClient 1 n) ⟨n, n, false, false⟩) ++
    [.connect true (tlsClient 1 0) ⟨60, 60, false, false⟩]

/-- The entries after these calls. -/
def sixtyEntries : List (ℕ × SslContextCacheEntry) :=
  (List.range 60).map fun n => (n, ⟨n, if n = 0 then 60 else n, n⟩)

/-- One configuration more: the second entry is the oldest one, and it is released. -/
theorem sslContextCache_kept_sixtyOne : ∃ s s' : HttpThread,
    s.customSslContextMap = sixtyEntries ∧
      s.step (.connect true (tlsClient 1 60) ⟨61, 61, false, false⟩) = some s' ∧
      ((1, ⟨1, 1, 1⟩) :: s'.customSslContextMap).Perm (sixtyEntries ++ [(60, ⟨60, 61, 60⟩)]) ∧
      s'.released = [1] := by
  have hruns : (sixtyConfigs.foldlM step {}).map (fun s : HttpThread =>
      (s.customSslContextMap, s.released, s.timer, s.nextContext)) =
      some (sixtyEntries, [], 60, 60) := by
    decide +kernel
  obtain ⟨s, hrun, hs⟩ := Option.map_eq_some_iff.mp hruns
  simp only [Prod.mk.injEq] at hs
  obtain ⟨hmap, hreleased, htimer, hnext⟩ := hs
  have hsweep : ArrayMap.sweep (isStale 61) sixtyEntries.length 0 sixtyEntries =
      (sixtyEntries, []) := by
    decide +kernel
  have hfresh : (s.evictStaleSslContexts 61).customSslContextMap = sixtyEntries := by
    rw [evictStaleSslContexts, hmap, hsweep]
  have hnone : (s.evictStaleSslContexts 61).released = [] := by
    rw [evictStaleSslContexts, hmap, hsweep, hreleased]
    rfl
  have hstep : s.step (.connect true (tlsClient 1 60) ⟨61, 61, false, false⟩) =
      some (s.connect true (tlsClient 1 60) ⟨61, 61, false, false⟩).1 := by
    simp [step, htimer]
  have hfull := ((sslContextCache_kept (run_of_foldlM sixtyConfigs hrun)).2 _ _ _ _ hstep).2.2.2
    60 rfl rfl rfl
  rw [hfresh, hnone, hnext] at hfull
  obtain ⟨oldest, hperm, hlast, hmin⟩ := hfull (by decide) rfl
  have hsecond : ∀ entry ∈ sixtyEntries ++ [(60, ⟨60, 61, 60⟩)],
      entry.2.lastUsedNs ≤ 1 → entry = (1, ⟨1, 1, 1⟩) := by
    decide
  obtain rfl := hsecond oldest (hperm.subset List.mem_cons_self) (hmin (1, ⟨1, 1, 1⟩) (by decide))
  exact ⟨s, _, hmap, hstep, hperm, hlast⟩

/-! ## Aborts -/

/-- A shutdown message reaches every client that waits in a TLS context. -/
def AbortReaches (s : HttpThread) : Prop :=
  ∀ id ctx, ctx ≠ .http → id ∈ s.pendingH2Connects ctx → (s.abortPendingH2Waiter id).1 = true

/-- A step evicts no context that a client waits in: a call of `connect` that looks into the cache
finds its entry fresh, and if it makes the cache too large, another entry is the oldest one. -/
def SparesWaiters (s : HttpThread) : Label → Prop
  | .connect isSsl client answers =>
      client.unixSocketPath = [] → ∀ config,
        (if isSsl then customConfig client else none) = some config →
          ∀ entry ∈ s.customSslContextMap, s.pendingH2Connects (.custom entry.2.ctx) ≠ [] →
            isStale answers.evictNow entry = false ∧
              let full := ((s.evictStaleSslContexts answers.evictNow).insertContext config
                answers.useNow).customSslContextMap
              (answers.initFails = false → full.length > sslContextCacheMaxSize →
                full[ArrayMap.firstMin (fun entry => entry.2.lastUsedNs) (2 ^ 64 - 1) full]? ≠
                  some entry)
  | _ => True

/-- Clients wait in contexts of the cache only. -/
def WaitersCached (s : HttpThread) : Prop :=
  ∀ ctx, s.pendingH2Connects (.custom ctx) ≠ [] → ctx ∈ s.cachedContexts

lemma abortPendingH2Waiter_iff : (s.abortPendingH2Waiter id).1 = true ↔
    id ∈ s.pendingH2Connects .https ∨
      ∃ ctx ∈ s.cachedContexts, id ∈ s.pendingH2Connects (.custom ctx) := by
  have hfind : (s.abortPendingH2Waiter id).1 = true ↔ ∃ ctx ∈ ContextRef.https ::
      s.customSslContextMap.map (fun entry => ContextRef.custom entry.2.ctx),
      id ∈ s.pendingH2Connects ctx := by
    unfold abortPendingH2Waiter
    simp only
    split
    · next ctx hfind =>
        have hwaits := List.find?_some hfind
        exact iff_of_true rfl ⟨ctx, List.mem_of_find?_eq_some hfind, of_decide_eq_true hwaits⟩
    · next hfind =>
        refine iff_of_false Bool.false_ne_true ?_
        rintro ⟨ctx, hmem, hwaits⟩
        exact List.find?_eq_none.mp hfind ctx hmem (decide_eq_true hwaits)
  rw [hfind]
  simp [cachedContexts]

lemma WaitersCached.abortReaches (h : WaitersCached s) : AbortReaches s := by
  intro id ctx hctx hwaits
  refine abortPendingH2Waiter_iff.mpr ?_
  cases ctx with
  | http => exact absurd rfl hctx
  | https => exact .inl hwaits
  | custom n => exact .inr ⟨n, h n (List.ne_nil_of_mem hwaits), hwaits⟩

@[simp] lemma pending_setPending_self (ctx : ContextRef) (ids : List UInt32) :
    (s.setPending ctx ids).pendingH2Connects ctx = ids :=
  Function.update_self ..

lemma pending_setPending_of_ne {ctx ctx' : ContextRef} (h : ctx' ≠ ctx) (ids : List UInt32) :
    (s.setPending ctx ids).pendingH2Connects ctx' = s.pendingH2Connects ctx' :=
  Function.update_of_ne h ..

/-- A client that is taken out leaves at most those that waited. -/
lemma setPending_erase_ne_nil {ctx ctx' : ContextRef}
    (h : (s.setPending ctx ((s.pendingH2Connects ctx).erase id)).pendingH2Connects ctx' ≠ []) :
    s.pendingH2Connects ctx' ≠ [] := by
  by_cases heq : ctx' = ctx
  · subst heq
    rw [pending_setPending_self] at h
    exact fun hnil => h (by rw [hnil]; rfl)
  · rwa [pending_setPending_of_ne heq] at h

lemma WaitersCached.setPending_erase (h : WaitersCached s) (ctx : ContextRef) (id : UInt32) :
    WaitersCached (s.setPending ctx ((s.pendingH2Connects ctx).erase id)) :=
  fun n hn => h n (setPending_erase_ne_nil hn)

/-- A client waits where it connects to, if it has to. -/
lemma WaitersCached.contextConnect (h : WaitersCached s) {ctx : ContextRef}
    (hostname : List UInt8) (port : UInt16) (hctx : ∀ n, ctx = .custom n → n ∈ s.cachedContexts) :
    WaitersCached (s.contextConnect ctx client hostname port answers).1 := by
  unfold HttpThread.contextConnect
  simp only
  split_ifs
  · intro n hn
    by_cases heq : ContextRef.custom n = ctx
    · exact hctx n heq.symm
    · rw [pending_setPending_of_ne heq] at hn
      exact h n hn
  · exact h

/-! ## Spared contexts -/

lemma WaitersCached.evictStale (h : WaitersCached s)
    (hspares : ∀ entry ∈ s.customSslContextMap, s.pendingH2Connects (.custom entry.2.ctx) ≠ [] →
      isStale now entry = false) : WaitersCached (s.evictStaleSslContexts now) := by
  intro n hn
  obtain ⟨entry, hmem, rfl⟩ := List.mem_map.mp (h n hn)
  refine List.mem_map.mpr ⟨entry, ?_, rfl⟩
  refine (evictStaleSslContexts_spec now s).1.symm.subset (List.mem_filter.mpr ⟨hmem, ?_⟩)
  rw [hspares entry hmem hn]
  rfl

lemma WaitersCached.modify (h : WaitersCached s) (hkept : CacheKept s) (config : ℕ)
    (hnow : s.timer ≤ now) (hlt : now < 2 ^ 64) : WaitersCached { s with
      customSslContextMap := ArrayMap.modify config
        (fun entry => { entry with lastUsedNs := now }) s.customSslContextMap
      timer := now } := by
  intro n hn
  rw [(hkept.modify config hnow hlt).2]
  exact h n hn

/-- An entry that is not the first oldest one stays. -/
lemma mem_evictOldest_of_ne {entry : ℕ × SslContextCacheEntry}
    (hmem : entry ∈ s.customSslContextMap)
    (hne : s.customSslContextMap[ArrayMap.firstMin (fun entry => entry.2.lastUsedNs) (2 ^ 64 - 1)
      s.customSslContextMap]? ≠ some entry) :
    entry ∈ s.evictOldestSslContext.customSslContextMap := by
  unfold evictOldestSslContext
  simp only
  split
  · exact hmem
  · next oldest hget =>
      obtain ⟨hi, rfl⟩ := List.getElem?_eq_some_iff.mp hget
      refine (List.mem_cons.mp ((ArrayMap.perm_swapRemove hi).symm.subset hmem)).resolve_left ?_
      rintro rfl
      exact hne hget

lemma pending_evictOldest : s.evictOldestSslContext.pendingH2Connects = s.pendingH2Connects := by
  unfold evictOldestSslContext
  simp only
  split <;> rfl

/-- The insertion of a context and the eviction it causes spare the contexts with clients. -/
lemma WaitersCached.insert_evict (h : WaitersCached s)
    (hconfig : config ∉ s.customSslContextMap.map Prod.fst)
    (hspares : ∀ entry ∈ s.customSslContextMap, s.pendingH2Connects (.custom entry.2.ctx) ≠ [] →
      let full := (s.insertContext config now).customSslContextMap
      full.length > sslContextCacheMaxSize →
        full[ArrayMap.firstMin (fun entry => entry.2.lastUsedNs) (2 ^ 64 - 1) full]? ≠
          some entry) :
    WaitersCached (if (s.insertContext config now).customSslContextMap.length >
        sslContextCacheMaxSize then (s.insertContext config now).evictOldestSslContext
      else s.insertContext config now) := by
  have hinsert : ∀ entry ∈ s.customSslContextMap,
      entry ∈ (s.insertContext config now).customSslContextMap := by
    intro entry hentry
    rw [insertContext_map now hconfig]
    exact List.mem_append_left _ hentry
  split_ifs with hfull
  · intro n hn
    rw [pending_evictOldest] at hn
    obtain ⟨entry, hmem, rfl⟩ := List.mem_map.mp (h n hn)
    exact List.mem_map.mpr ⟨entry,
      mem_evictOldest_of_ne (hinsert entry hmem) (hspares entry hmem hn hfull), rfl⟩
  · intro n hn
    obtain ⟨entry, hmem, rfl⟩ := List.mem_map.mp (h n hn)
    exact List.mem_map.mpr ⟨entry, hinsert entry hmem, rfl⟩

lemma WaitersCached.connectCached (h : WaitersCached s) (hkept : CacheKept s)
    {entry : SslContextCacheEntry} (hnow : s.timer ≤ answers.useNow)
    (hlt : answers.useNow < 2 ^ 64) (hentry : (config, entry) ∈ s.customSslContextMap) :
    WaitersCached (s.connectCached config entry client answers).1 := by
  have hwaiters := h.modify hkept config hnow hlt
  have hcontexts := (hkept.modify config hnow hlt).2
  have hctx : ∀ n, ContextRef.custom entry.ctx = .custom n → n ∈ s.cachedContexts :=
    fun n hn => ContextRef.custom.inj hn ▸ List.mem_map.mpr ⟨_, hentry, rfl⟩
  unfold HttpThread.connectCached
  cases client.httpProxy with
  | none => exact hwaiters.contextConnect _ _ (hcontexts ▸ hctx)
  | some url => exact hwaiters.contextConnect _ _ (hcontexts ▸ hctx)

lemma WaitersCached.connectCreated (h : WaitersCached s) (hkept : CacheKept s)
    (hnow : s.timer ≤ answers.useNow) (hlt : answers.useNow < 2 ^ 64)
    (hconfig : config ∉ s.customSslContextMap.map Prod.fst)
    (hspares : ∀ entry ∈ s.customSslContextMap, s.pendingH2Connects (.custom entry.2.ctx) ≠ [] →
      let full := (s.insertContext config answers.useNow).customSslContextMap
      answers.initFails = false → full.length > sslContextCacheMaxSize →
        full[ArrayMap.firstMin (fun entry => entry.2.lastUsedNs) (2 ^ 64 - 1) full]? ≠
          some entry) :
    WaitersCached (s.connectCreated config client answers).1 := by
  unfold HttpThread.connectCreated
  split_ifs with hinit
  · exact h
  · have hwaiters := h.insert_evict hconfig fun entry hentry hwaits =>
      hspares entry hentry hwaits (Bool.eq_false_of_not_eq_true hinit)
    have hmem := (hkept.insert_evict hnow hlt hconfig).2
    have hctx : ∀ n, ContextRef.custom s.nextContext = .custom n → n ∈ _ :=
      fun n hn => ContextRef.custom.inj hn ▸ hmem
    cases client.httpProxy with
    | none => exact hwaiters.contextConnect _ _ hctx
    | some url =>
        simp only
        by_cases hprotocol : supportsProtocol url = true
        · rw [if_pos hprotocol]
          exact hwaiters.contextConnect _ _ hctx
        · rw [if_neg hprotocol]
          exact hwaiters

lemma WaitersCached.connectDefault (h : WaitersCached s) :
    WaitersCached (s.connectDefault (context isSsl) client answers).1 := by
  have hctx : ∀ n, context isSsl = .custom n → n ∈ s.cachedContexts := by
    intro n hn
    cases isSsl <;> cases hn
  unfold HttpThread.connectDefault
  split
  · split_ifs
    · exact h.contextConnect _ _ hctx
    · exact h
    · exact h.contextConnect _ _ hctx
  · exact h.contextConnect _ _ hctx

/-- A call of `connect` that evicts no context with clients leaves none behind. -/
lemma WaitersCached.connect (h : WaitersCached s) (hkept : CacheKept s)
    (hevict : s.timer ≤ answers.evictNow) (huse : answers.evictNow ≤ answers.useNow)
    (hlt : answers.useNow < 2 ^ 64) (hspares : SparesWaiters s (.connect isSsl client answers)) :
    WaitersCached (s.connect isSsl client answers).1 := by
  unfold HttpThread.connect
  by_cases hunix : client.unixSocketPath = []
  · rw [if_neg (not_not.mpr hunix)]
    split
    · next config hconfig =>
        have hkept' := hkept.evictStale hevict (huse.trans_lt hlt)
        have hspared := hspares hunix config hconfig
        have hwaiters := h.evictStale fun entry hentry hwaits => (hspared entry hentry hwaits).1
        simp only
        cases hlookup : (s.evictStaleSslContexts answers.evictNow).customSslContextMap.lookup
            config with
        | none =>
            refine hwaiters.connectCreated hkept' huse hlt (ArrayMap.not_mem_of_lookup hlookup) ?_
            intro entry hentry hwaits
            have hmem := (evictStaleSslContexts_spec answers.evictNow s).1.subset hentry
            exact (hspared entry (List.mem_filter.mp hmem).1 hwaits).2
        | some entry =>
            exact hwaiters.connectCached hkept' huse hlt (ArrayMap.mem_of_lookup hlookup)
    · exact h.connectDefault
  · rw [if_pos hunix]
    exact h

lemma WaitersCached.step (h : WaitersCached s) (hkept : CacheKept s) {label : Label}
    (hspares : SparesWaiters s label) (hstep : s.step label = some s') : WaitersCached s' := by
  cases label with
  | connect isSsl client answers =>
      simp only [HttpThread.step] at hstep
      split_ifs at hstep with htimer
      obtain rfl := Option.some.inj hstep
      exact h.connect hkept htimer.1 htimer.2.1 htimer.2.2 hspares
  | resolveWaiter ctx id =>
      obtain rfl := Option.some.inj hstep
      exact h.setPending_erase ctx id
  | drainShutdown id =>
      obtain rfl := Option.some.inj hstep
      unfold HttpThread.abortPendingH2Waiter
      simp only
      split
      · exact h.setPending_erase _ id
      · exact h

/-- **Aborts reach their clients where no context with clients is evicted.** -/
theorem abortReaches_of_run (hrun : ReflTransGen
    (fun s s' => ∃ label, SparesWaiters s label ∧ step s label = some s') {} s) :
    AbortReaches s := by
  have hstart : CacheKept {} ∧ WaitersCached {} := ⟨cacheKept_init, fun ctx hne => absurd rfl hne⟩
  have hstep : ∀ s s', CacheKept s ∧ WaitersCached s →
      (∃ label, SparesWaiters s label ∧ step s label = some s') →
        CacheKept s' ∧ WaitersCached s' := by
    rintro s s' ⟨hkept, hwaiters⟩ ⟨label, hspares, hnext⟩
    exact ⟨hkept.step hnext, hwaiters.step hkept hspares hnext⟩
  exact (invariant_of_run hstep hrun hstart).2.abortReaches

/-- The first context is evicted, and the client that waits in the second is found there. -/
theorem abortReaches_spared : ∃ s : HttpThread,
    s.released = [0] ∧ s.pendingH2Connects (.custom 1) = [7] ∧ AbortReaches s := by
  refine ⟨_, ?_, ?_, abortReaches_of_run (((ReflTransGen.single
    ⟨.connect true (tlsClient 6 0) ⟨0, 0, false, false⟩, ?_, rfl⟩).tail
      ⟨.connect true (tlsClient 7 1) ⟨1, 1, false, true⟩, ?_, rfl⟩).tail
        ⟨.connect true (tlsClient 8 2) ⟨sslContextCacheTtlNs + 1, sslContextCacheTtlNs + 1, false,
          false⟩, ?_, rfl⟩)⟩
  · rfl
  · rfl
  · exact fun _ _ _ _ hmem => absurd hmem List.not_mem_nil
  · intro _ config _ entry hmem hwaits
    exact absurd rfl hwaits
  · intro _ config hcustom entry hmem hwaits
    obtain rfl : 2 = config := Option.some.inj hcustom
    have htwo : entry ∈ [(0, (⟨0, 0, 0⟩ : SslContextCacheEntry)), (1, ⟨1, 1, 1⟩)] := hmem
    rcases List.mem_pair.mp htwo with rfl | rfl
    · exact absurd rfl hwaits
    · exact ⟨by decide, fun _ hfull => absurd hfull (by decide)⟩

/-- A client waits in a context that is evicted half an hour later, and its abort is lost. -/
theorem abort_lost_to_eviction : ¬ ∀ s : HttpThread, Reachable s → AbortReaches s := by
  intro h
  have hlost := h _ (run_of_foldlM [.connect true (tlsClient 7 0) ⟨0, 0, false, true⟩,
    .connect true (tlsClient 8 1) ⟨sslContextCacheTtlNs + 1, sslContextCacheTtlNs + 1, false,
      false⟩] rfl) 7 (.custom 0) (fun heq => nomatch heq) (by decide)
  exact absurd hlost (by decide)

end HttpThread

end TorOnion
