import Mathlib.Data.List.InsertIdx
import Mathlib.Data.List.Perm.Basic
import Mathlib.Order.Nat
import Mathlib.Tactic.Common
import TorOnion.BucketHost.Host
import TorOnion.Library.Runs

/-!
# Callbacks of bucket hosts

A callback that has come in is waiting for the quota manager, waiting for the file system, or has
been run; `held` counts where it is.  A method runs its callback, or binds it, or passes it on, with
one exception: `GetDirectory` and `GetDirectoryForDevtools` return without it when the context of
the receiver is gone (`Drops`).  A reply moves one callback from where it waits to the runs.  So,
when nothing waits any more, every callback has been run once exactly when no call has dropped its
callback (`runOnce_iff`).
-/

namespace TorOnion

namespace BucketHost

variable {s t : BucketHost} {null : NullBucketInfo} {id place : ℕ}

/-- How often a callback waits or has been run. -/
def held (s : BucketHost) (id : ℕ) : ℕ :=
  (s.runs.map Prod.fst).count id + (s.quota.map Prod.fst).count id + s.directories.count id

/-- A call that returns without its callback. -/
def Drops (s : BucketHost) : BucketEvent → Prop
  | .call receiver .getDirectory => s.currentContext receiver = none
  | .call receiver (.getDirectoryForDevtools _) => s.currentContext receiver = none
  | _ => False

/-! ## One event -/

/-- What an event does to the callbacks: nothing, or one more comes in and is held, or one more
comes in and is dropped. -/
inductive Moves (s : BucketHost) (drops : Prop) (t : BucketHost) : Prop
  | none (hdrops : ¬ drops) (hissued : t.issued = s.issued) (hheld : ∀ id, held t id = held s id)
  | kept (hdrops : ¬ drops) (hissued : t.issued = s.issued + 1)
      (hheld : ∀ id, held t id = held s id + if id = s.issued then 1 else 0)
  | dropped (hdrops : drops) (hissued : t.issued = s.issued + 1)
      (hheld : ∀ id, held t id = held s id)

lemma held_answer (reply : BucketReply) (id : ℕ) :
    held (answer reply s) id = held s id + if id = s.issued then 1 else 0 := by
  simp only [held, answer, List.map_append, List.map_singleton, List.count_append,
    List.count_singleton, beq_iff_eq, eq_comm (a := id)]
  omega

lemma held_ask (request : BucketRequest) (callback : QuotaCallback) (id : ℕ) :
    held (ask request callback s) id = held s id + if id = s.issued then 1 else 0 := by
  simp only [held, ask, List.map_append, List.map_singleton, List.count_append,
    List.count_singleton, beq_iff_eq, eq_comm (a := id)]
  omega

lemma held_askDirectory (request : BucketRequest) (id : ℕ) :
    held (askDirectory request s) id = held s id + if id = s.issued then 1 else 0 := by
  simp only [held, askDirectory, List.count_append, List.count_singleton, beq_iff_eq,
    eq_comm (a := id)]
  omega

lemma moves_answer (reply : BucketReply) {drops : Prop} (hdrops : ¬ drops) :
    Moves s drops (answer reply s) :=
  .kept hdrops rfl (held_answer reply)

lemma moves_ask (request : BucketRequest) (callback : QuotaCallback) {drops : Prop}
    (hdrops : ¬ drops) : Moves s drops (ask request callback s) :=
  .kept hdrops rfl (held_ask request callback)

/-- One case for each method. -/
lemma moves_perform (receiver : ℕ) (op : BucketOp) :
    Moves s (Drops s (.call receiver op)) (perform receiver op s) := by
  cases op with
  | persist granted =>
      simp only [perform, persist]
      split_ifs
      · exact moves_answer _ id
      · exact moves_answer _ id
      · exact moves_ask _ _ id
      · exact moves_answer _ id
  | persisted =>
      simp only [perform, persisted]
      split_ifs
      · exact moves_answer _ id
      · exact moves_ask _ _ id
  | estimate =>
      simp only [perform, estimate]
      split_ifs
      · exact moves_answer _ id
      · exact moves_ask _ _ id
  | durability =>
      simp only [perform, durability]
      split_ifs
      · exact moves_answer _ id
      · exact moves_ask _ _ id
  | setExpires t => exact moves_ask _ _ id
  | expires =>
      simp only [perform, expires]
      split_ifs
      · exact moves_answer _ id
      · exact moves_ask _ _ id
  | getIdbFactory stateChecker =>
      simp only [perform, getIdbFactory]
      split
      · exact .none id rfl fun _ => rfl
      · split_ifs
        · exact .none id rfl fun _ => rfl
        · exact .none id rfl fun _ => rfl
  | getCaches =>
      simp only [perform, getCaches]
      split
      · exact .none id rfl fun _ => rfl
      · exact .none id rfl fun _ => rfl
  | getDirectory =>
      simp only [perform, getDirectory]
      split
      next hnone => exact .dropped hnone rfl fun _ => rfl
      next context hsome =>
        exact .kept (fun hnone => nomatch hsome.symm.trans hnone) rfl (held_askDirectory _)
  | getDirectoryForDevtools components =>
      simp only [perform, getDirectoryForDevtools]
      split
      next hnone => exact .dropped hnone rfl fun _ => rfl
      next context hsome =>
        exact .kept (fun hnone => nomatch hsome.symm.trans hnone) rfl (held_askDirectory _)
  | getLockManager => exact .none id rfl fun _ => rfl

/-- A reply takes one callback out of a list. -/
lemma count_eraseIdx {l : List ℕ} {callback : ℕ} (h : l[place]? = some callback) (id : ℕ) :
    (l.eraseIdx place).count id + (if id = callback then 1 else 0) = l.count id := by
  obtain ⟨hplace, rfl⟩ := List.getElem?_eq_some_iff.mp h
  rw [← (List.getElem_cons_eraseIdx_perm hplace).count_eq id, List.count_cons]
  simp only [beq_iff_eq, eq_comm (a := id)]

/-- What waited for the quota manager is run. -/
lemma held_run_takeQuota {callback : ℕ} {waiting : QuotaCallback}
    (h : s.quota[place]? = some (callback, waiting)) (hruns : t.runs.map Prod.fst =
      s.runs.map Prod.fst ++ [callback]) (hquota : t.quota = s.quota.eraseIdx place)
    (hdirectories : t.directories = s.directories) (id : ℕ) : held t id = held s id := by
  have hfst : (s.quota.map Prod.fst)[place]? = some callback := by
    rw [List.getElem?_map, h]
    rfl
  have hcount := count_eraseIdx hfst id
  rw [held, held, hruns, hquota, hdirectories, ← List.eraseIdx_map, List.count_append,
    List.count_singleton, ← hcount]
  simp only [beq_iff_eq, eq_comm (a := id)]
  omega

lemma held_run_takeDirectory {callback : ℕ} (reply : BucketReply)
    (h : s.directories[place]? = some callback) (id : ℕ) :
    held (run callback reply (takeDirectory place s)) id = held s id := by
  have hcount := count_eraseIdx h id
  simp only [held, run, takeDirectory, List.map_append, List.map_singleton, List.count_append,
    List.count_singleton, ← hcount, beq_iff_eq, eq_comm (a := id)]
  omega

lemma moves_step {event : BucketEvent} (h : step null s event = some t) :
    Moves s (Drops s event) t := by
  cases event with
  | passStorageBucketBinding context =>
      obtain ⟨-, ht⟩ := Option.ite_none_left_eq_some.mp h
      obtain rfl := Option.some.inj ht
      exact .none id rfl fun _ => rfl
  | invalidate context =>
      obtain rfl := Option.some.inj h
      exact .none id rfl fun _ => rfl
  | call receiver op =>
      obtain ⟨-, ht⟩ := Option.ite_none_right_eq_some.mp h
      exact Option.some.inj ht ▸ moves_perform receiver op
  | bucketReply place bucketInfo =>
      rw [step] at h
      split at h
      next callback after hwaiting =>
        obtain rfl := Option.some.inj h
        refine .none id ?_ ?_
        · cases after <;> rfl
        · apply held_run_takeQuota hwaiting
          · cases after <;> simp [didGetBucket, didValidateForPersist, didValidateForDurability,
              didValidateForExpires, run, takeQuota]
          · cases after <;> rfl
          · cases after <;> rfl
      next => cases h
  | usageReply place code usage quota =>
      rw [step] at h
      split at h
      next callback hwaiting =>
        obtain rfl := Option.some.inj h
        refine .none id ?_ ?_
        · rw [didGetUsageAndQuota]
          split_ifs <;> rfl
        · apply held_run_takeQuota hwaiting
          · rw [didGetUsageAndQuota]
            split_ifs <;> simp [run, takeQuota]
          · rw [didGetUsageAndQuota]
            split_ifs <;> rfl
          · rw [didGetUsageAndQuota]
            split_ifs <;> rfl
      next => cases h
  | directoryReply place success =>
      rw [step] at h
      split at h
      next callback hwaiting =>
        obtain rfl := Option.some.inj h
        exact .none id rfl (held_run_takeDirectory _ hwaiting)
      next => cases h

/-! ## Runs -/

/-- A run: the callbacks that were there are held as before, and those that came in are held once
exactly when none was dropped. -/
lemma held_of_run {events : List BucketEvent} (hnew : ∀ id, s.issued ≤ id → held s id = 0)
    (h : events.foldlM (step null) s = some t) :
    s.issued ≤ t.issued ∧ (∀ id < s.issued, held t id = held s id) ∧
      ((∀ id, s.issued ≤ id → id < t.issued → held t id = 1) ↔
        Along (step null) (fun s event _ => ¬ Drops s event) s events) := by
  induction events generalizing s with
  | nil =>
      obtain rfl := Option.some.inj h
      exact ⟨le_rfl, fun _ _ => rfl, iff_of_true (fun id hle hlt => by omega) trivial⟩
  | cons event events ih =>
      rw [List.foldlM_cons] at h
      obtain ⟨mid, hstep, hrest⟩ := Option.bind_eq_some_iff.mp h
      rw [along_cons hstep]
      cases moves_step hstep with
      | none hdrops hissued hheld =>
          obtain ⟨hle, hold, hiff⟩ := ih (fun id hid => by rw [hheld, hnew id (by omega)]) hrest
          rw [hissued] at hle hold hiff
          refine ⟨hle, fun id hid => (hold id hid).trans (hheld id), ?_⟩
          rw [hiff]
          exact (and_iff_right hdrops).symm
      | kept hdrops hissued hheld =>
          obtain ⟨hle, hold, hiff⟩ := ih (fun id hid => by
            rw [hheld, hnew id (by omega), if_neg (by omega)]) hrest
          refine ⟨by omega, fun id hid => ?_, ?_⟩
          · rw [hold id (by omega), hheld, if_neg hid.ne]
            rfl
          · have hfirst : held t s.issued = 1 := by
              rw [hold _ (by omega), hheld, if_pos rfl, hnew _ le_rfl]
            rw [and_iff_right hdrops, ← hiff]
            refine ⟨fun hall id hid => hall id (by omega), fun hall id hid hlt => ?_⟩
            rcases hid.eq_or_lt with rfl | hlater
            · exact hfirst
            · exact hall id (by omega) hlt
      | dropped hdrops hissued hheld =>
          obtain ⟨hle, hold, -⟩ := ih (fun id hid => by rw [hheld, hnew id (by omega)]) hrest
          refine ⟨by omega, fun id hid => (hold id (by omega)).trans (hheld id), ?_⟩
          refine iff_of_false (fun hall => ?_) fun hnone => hnone.1 hdrops
          have hfirst : held t s.issued = 0 := by
            rw [hold _ (by omega), hheld, hnew _ le_rfl]
          have hone := hall s.issued le_rfl (by omega)
          omega

/-- At the end of every run of a host after which nothing waits for a reply, every callback that has
come in has been run exactly once exactly when no call of `GetDirectory` or
`GetDirectoryForDevtools` has come from a receiver whose context was gone. -/
theorem runOnce_iff (null : NullBucketInfo) (info : BucketInfo) (events : List BucketEvent)
    (t : BucketHost) (hrun : events.foldlM (step null) (new info) = some t)
    (hquota : t.quota = []) (hdirectories : t.directories = []) :
    (∀ id < t.issued, (t.runs.map Prod.fst).count id = 1) ↔
      Along (step null) (fun s event _ => ¬ Drops s event) (new info) events := by
  obtain ⟨-, -, hiff⟩ := held_of_run (s := new info) (fun _ _ => rfl) hrun
  rw [← hiff]
  have hheld : ∀ id, held t id = (t.runs.map Prod.fst).count id := by
    intro id
    rw [held, hquota, hdirectories]
    rfl
  simp only [hheld]
  exact ⟨fun hall id _ hlt => hall id hlt, fun hall id hlt => hall id (Nat.zero_le id) hlt⟩

/-- A page sets an expiration and asks for a directory, and both are answered. -/
def answeredEvents : List BucketEvent :=
  [.passStorageBucketBinding 4, .call 0 (.setExpires 5), .call 0 .getDirectory, .invalidate 4,
    .directoryReply 0 true, .bucketReply 0 (some ⟨1, false, .strict, 5⟩)]

theorem runOnce_iff_answered :
    ∃ t, answeredEvents.foldlM (step ⟨⟨0, false, .relaxed, 0⟩, rfl⟩)
        (new ⟨1, false, .strict, 0⟩) = some t ∧
      ((∀ id < t.issued, (t.runs.map Prod.fst).count id = 1) ↔
        Along (step ⟨⟨0, false, .relaxed, 0⟩, rfl⟩) (fun s event _ => ¬ Drops s event)
          (new ⟨1, false, .strict, 0⟩) answeredEvents) :=
  ⟨_, rfl, runOnce_iff _ _ answeredEvents _ rfl rfl rfl⟩

/-- The context of a receiver goes before a page asks for the directory, and nothing is ever
answered. -/
theorem runOnce_fails_getDirectory :
    ¬ ∀ (null : NullBucketInfo) (info : BucketInfo) (events : List BucketEvent) (t : BucketHost),
      events.foldlM (step null) (new info) = some t → t.quota = [] → t.directories = [] →
        ∀ id < t.issued, (t.runs.map Prod.fst).count id = 1 := by
  intro h
  have hone := h ⟨⟨0, false, .relaxed, 0⟩, rfl⟩ ⟨1, false, .strict, 0⟩
    [.passStorageBucketBinding 4, .invalidate 4, .call 0 .getDirectory] _ rfl rfl rfl 0 (by decide)
  revert hone
  decide

end BucketHost

end TorOnion
