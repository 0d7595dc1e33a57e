import Mathlib.Tactic.Common
import TorOnion.BucketHost.Host
import TorOnion.Library.Runs

/-!
# Buckets that are known to be gone

While `bucket_info_` is null, a call should be refused or report a failure.  `Persist`, `Persisted`,
`Estimate`, `Durability` and `Expires` look at it and do.  `SetExpires` and `GetLockManager` do not
look at anything, and `GetIdbFactory`, `GetCaches`, `GetDirectory` and `GetDirectoryForDevtools`
look at the context of the receiver only.  So a run uses a null bucket exactly when it calls one of
these while the bucket is null (`usesNoBucket_iff`).
-/

namespace TorOnion

/-- A request that is for the bucket; the lock manager goes by the id alone. -/
def BucketRequest.UsesBucket : BucketRequest → Prop
  | .bindLockManager _ => False
  | _ => True

namespace BucketHost

variable {s t : BucketHost} {receiver : ℕ} {op : BucketOp}

/-- What a call has started. -/
def started (s t : BucketHost) : List BucketRequest := t.requests.drop s.requests.length

/-- What a call has answered. -/
def answered (s t : BucketHost) : List (ℕ × BucketReply) := t.runs.drop s.runs.length

/-- A call starts no request of the quota manager and binds no store and no directory. -/
def UsesNoBucket (s t : BucketHost) : Prop := ∀ request ∈ started s t, ¬ request.UsesBucket

/-- A call starts nothing, and what it answers is a failure. -/
def RefusedOrFails (s t : BucketHost) : Prop :=
  started s t = [] ∧ ∀ run ∈ answered s t, run.2.success = false

/-- A call that goes through although the bucket is null. -/
def Unguarded (s : BucketHost) (receiver : ℕ) : BucketOp → Prop
  | .setExpires _ => True
  | .getIdbFactory stateChecker => s.currentContext receiver ≠ none ∧ stateChecker
  | .getCaches => s.currentContext receiver ≠ none
  | .getDirectory => s.currentContext receiver ≠ none
  | .getDirectoryForDevtools _ => s.currentContext receiver ≠ none
  | _ => False

/-- Every call of a run that comes while the bucket is null satisfies `P`. -/
def WhileNull (null : NullBucketInfo) (P : BucketHost → ℕ → BucketOp → BucketHost → Prop) :
    BucketHost → List BucketEvent → Prop :=
  Along (step null) fun s event t => ∀ receiver op, event = .call receiver op →
    s.bucketInfo.isNull → P s receiver op t

/-! ## One call -/

@[simp]
lemma started_request (request : BucketRequest) :
    started s (BucketHost.request request s) = [request] :=
  List.drop_left

lemma refusedOrFails_self : RefusedOrFails s s := by
  simp [RefusedOrFails, started, answered]

lemma refusedOrFails_drop : RefusedOrFails s (drop s) := refusedOrFails_self

lemma refusedOrFails_answer {reply : BucketReply} (h : reply.success = false) :
    RefusedOrFails s (answer reply s) := by
  simp [RefusedOrFails, started, answered, answer, h]

lemma RefusedOrFails.usesNoBucket (h : RefusedOrFails s t) : UsesNoBucket s t := by
  simp [UsesNoBucket, h.1]

/-- A call that starts a request for the bucket is neither. -/
lemma not_usesNoBucket {request : BucketRequest} (h : started s t = [request])
    (huses : request.UsesBucket) : ¬ UsesNoBucket s t := by
  intro hnone
  exact hnone request (by simp [h]) huses

/-- A call that comes while the bucket is null is refused or fails, binds the lock manager, or
starts something for the null bucket. -/
lemma perform_null_cases (hnull : s.bucketInfo.isNull) (receiver : ℕ) (op : BucketOp) :
    (¬ Unguarded s receiver op ∧ op ≠ .getLockManager ∧ RefusedOrFails s (perform receiver op s)) ∨
      (op = .getLockManager ∧
        started s (perform receiver op s) = [.bindLockManager s.bucketId]) ∨
      Unguarded s receiver op ∧
        ∃ request : BucketRequest, started s (perform receiver op s) = [request] ∧
          request.UsesBucket := by
  cases op with
  | persist granted =>
      have hfails : perform receiver (.persist granted) s = answer (.persisted false false) s :=
        if_pos (.inl hnull)
      exact .inl ⟨id, nofun, hfails ▸ refusedOrFails_answer rfl⟩
  | persisted =>
      have hfails : perform receiver .persisted s = answer (.persisted false false) s :=
        if_pos hnull
      exact .inl ⟨id, nofun, hfails ▸ refusedOrFails_answer rfl⟩
  | estimate =>
      have hfails : perform receiver .estimate s = answer (.estimate 0 0 false) s := if_pos hnull
      exact .inl ⟨id, nofun, hfails ▸ refusedOrFails_answer rfl⟩
  | durability =>
      have hfails : perform receiver .durability s = answer (.durability none false) s :=
        if_pos hnull
      exact .inl ⟨id, nofun, hfails ▸ refusedOrFails_answer rfl⟩
  | expires =>
      have hfails : perform receiver .expires s = answer (.expires none false) s := if_pos hnull
      exact .inl ⟨id, nofun, hfails ▸ refusedOrFails_answer rfl⟩
  | setExpires t => exact .inr (.inr ⟨trivial, _, List.drop_left, trivial⟩)
  | getIdbFactory stateChecker =>
      simp only [perform, getIdbFactory, Unguarded]
      cases s.currentContext receiver with
      | none => exact .inl ⟨fun h => h.1 rfl, nofun, refusedOrFails_self⟩
      | some context =>
          cases stateChecker with
          | false => exact .inl ⟨fun h => Bool.false_ne_true h.2, nofun, refusedOrFails_self⟩
          | true => exact .inr (.inr ⟨⟨nofun, rfl⟩, _, started_request _, trivial⟩)
  | getCaches =>
      simp only [perform, getCaches, Unguarded]
      cases s.currentContext receiver with
      | none => exact .inl ⟨fun h => h rfl, nofun, refusedOrFails_self⟩
      | some context => exact .inr (.inr ⟨nofun, _, started_request _, trivial⟩)
  | getDirectory =>
      simp only [perform, getDirectory, Unguarded]
      cases s.currentContext receiver with
      | none => exact .inl ⟨fun h => h rfl, nofun, refusedOrFails_drop⟩
      | some context => exact .inr (.inr ⟨nofun, _, List.drop_left, trivial⟩)
  | getDirectoryForDevtools components =>
      simp only [perform, getDirectoryForDevtools, Unguarded]
      cases s.currentContext receiver with
      | none => exact .inl ⟨fun h => h rfl, nofun, refusedOrFails_drop⟩
      | some context => exact .inr (.inr ⟨nofun, _, List.drop_left, trivial⟩)
  | getLockManager => exact .inr (.inl ⟨rfl, started_request _⟩)

lemma usesNoBucket_perform_iff (hnull : s.bucketInfo.isNull) :
    UsesNoBucket s (perform receiver op s) ↔ ¬ Unguarded s receiver op := by
  obtain ⟨hguarded, -, hrefused⟩ | ⟨rfl, hstarted⟩ | ⟨hunguarded, request, hstarted, huses⟩ :=
    perform_null_cases hnull receiver op
  · exact iff_of_true hrefused.usesNoBucket hguarded
  · refine iff_of_true (fun request hmem => ?_) id
    rw [hstarted, List.mem_singleton] at hmem
    exact hmem ▸ id
  · exact iff_of_false (not_usesNoBucket hstarted huses) (not_not.mpr hunguarded)

lemma refusedOrFails_perform_iff (hnull : s.bucketInfo.isNull) :
    RefusedOrFails s (perform receiver op s) ↔
      ¬ Unguarded s receiver op ∧ op ≠ .getLockManager := by
  obtain ⟨hguarded, hlock, hrefused⟩ | ⟨rfl, hstarted⟩ | ⟨hunguarded, request, hstarted, -⟩ :=
    perform_null_cases hnull receiver op
  · exact iff_of_true hrefused ⟨hguarded, hlock⟩
  · refine iff_of_false (fun h => ?_) fun h => h.2 rfl
    cases hstarted.symm.trans h.1
  · refine iff_of_false (fun h => ?_) fun h => h.1 hunguarded
    cases hstarted.symm.trans h.1

/-! ## Runs -/

lemma whileNull_congr {null : NullBucketInfo} {P Q : BucketHost → ℕ → BucketOp → BucketHost → Prop}
    {events : List BucketEvent}
    (h : ∀ s receiver op, s.bucketInfo.isNull →
      (P s receiver op (perform receiver op s) ↔ Q s receiver op (perform receiver op s))) :
    WhileNull null P s events ↔ WhileNull null Q s events := by
  refine along_congr fun s event t hstep => forall₂_congr fun receiver op => ?_
  refine forall_congr' fun hcall => forall_congr' fun hnull => ?_
  subst hcall
  obtain ⟨-, ht⟩ := Option.ite_none_right_eq_some.mp hstep
  exact Option.some.inj ht ▸ h s receiver op hnull

/-- In every run of a host, no call that comes while the bucket is null starts a request of the
quota manager or binds a store or a directory exactly when none of the unguarded calls comes then;
and every such call is refused or reports a failure exactly when, besides, the lock manager is not
asked for then. -/
theorem usesNoBucket_iff (null : NullBucketInfo) (s : BucketHost) (events : List BucketEvent) :
    (WhileNull null (fun s _ _ t => UsesNoBucket s t) s events ↔
        WhileNull null (fun s receiver op _ => ¬ Unguarded s receiver op) s events) ∧
      (WhileNull null (fun s _ _ t => RefusedOrFails s t) s events ↔
        WhileNull null (fun s receiver op _ => ¬ Unguarded s receiver op ∧ op ≠ .getLockManager)
          s events) :=
  ⟨whileNull_congr fun _ _ _ hnull => usesNoBucket_perform_iff hnull,
    whileNull_congr fun _ _ _ hnull => refusedOrFails_perform_iff hnull⟩

/-- The bucket is found to be gone, and its expiration is set all the same. -/
theorem usesNoBucket_fails_setExpires :
    ¬ ∀ (null : NullBucketInfo) (info : BucketInfo) (events : List BucketEvent),
      ¬ info.isNull → WhileNull null (fun s _ _ t => UsesNoBucket s t) (new info) events := by
  intro h
  have hrun := h ⟨⟨0, false, .relaxed, 0⟩, rfl⟩ ⟨1, false, .strict, 0⟩
    [.passStorageBucketBinding 0, .call 0 .persisted, .bucketReply 0 none, .call 0 (.setExpires 5)]
    (by decide)
  rw [WhileNull, along_cons rfl, along_cons rfl, along_cons rfl, along_cons rfl] at hrun
  exact hrun.2.2.2.1 0 (.setExpires 5) rfl rfl _ List.mem_cons_self trivial

end BucketHost

end TorOnion
