import Mathlib.Tactic
import TorOnion.AlertSockets.WakeUps

/-!
# What a system call leaves alone

A system call touches the objects that its descriptor names, and nothing else (`Touches`).  Opening
adds descriptors and objects that are new (`Grows`), changing their flags adds nothing, and closing
takes them away again.
-/

namespace TorOnion

/-- The objects that a descriptor names. -/
def FileKind.objects : FileKind → List ℕ
  | .eventfd object => [object]
  | .pipeRead queue => [queue]
  | .pipeWrite queue => [queue]
  | .socket receives sends => [receives, sends]

namespace Kernel

/-- The objects that a descriptor of a kernel names. -/
def objects (k : Kernel) (fd : ℤ) : List ℕ :=
  match k.files fd with
  | none => []
  | some file => file.kind.objects

variable {names : Errnos} {k k' k'' : Kernel} {fd : ℤ} {touched : List ℕ}

/-! ## What a call touches -/

/-- Only these objects change, and `errno`. -/
structure Touches (touched : List ℕ) (k k' : Kernel) : Prop where
  files : k'.files = k.files
  nextObject : k'.nextObject = k.nextObject
  counters : ∀ object ∉ touched, k'.counters object = k.counters object
  queues : ∀ object ∉ touched, k'.queues object = k.queues object

lemma Touches.refl (touched : List ℕ) (k : Kernel) : Touches touched k k :=
  ⟨rfl, rfl, fun _ _ => rfl, fun _ _ => rfl⟩

lemma Touches.trans (h : Touches touched k k') (h' : Touches touched k' k'') :
    Touches touched k k'' where
  files := h'.files.trans h.files
  nextObject := h'.nextObject.trans h.nextObject
  counters object hobject := (h'.counters object hobject).trans (h.counters object hobject)
  queues object hobject := (h'.queues object hobject).trans (h.queues object hobject)

lemma touches_failWith (errno : ℤ) : Touches touched k (failWith errno k).2 :=
  ⟨rfl, rfl, fun _ _ => rfl, fun _ _ => rfl⟩

lemma touches_setBytes {queue : ℕ} (hqueue : queue ∈ touched) (bytes : List UInt8) :
    Touches touched k (setBytes queue bytes k) := by
  refine ⟨rfl, rfl, fun _ _ => rfl, fun object hobject => ?_⟩
  exact Function.update_of_ne (fun heq : object = queue => hobject (heq ▸ hqueue)) _ _

lemma touches_setCounter {object : ℕ} (hobject : object ∈ touched) (counter : ℕ) :
    Touches touched k (setCounter object counter k) := by
  refine ⟨rfl, rfl, fun other hother => ?_, fun _ _ => rfl⟩
  exact Function.update_of_ne (fun heq : other = object => hother (heq ▸ hobject)) _ _

lemma touches_proceedOr {file : OpenFile} {again r : ℤ} {result : Option (ℤ × Kernel)}
    (hresult : ∀ r k', result = some (r, k') → Touches touched k k')
    (h : proceedOr file again k result = some (r, k')) : Touches touched k k' := by
  unfold proceedOr at h
  split at h
  · exact hresult r k' h
  · split_ifs at h
    cases h
    exact touches_failWith again

lemma touches_push {queue n : ℕ} {buf : List UInt8} (hqueue : queue ∈ touched) (r : ℤ)
    (k' : Kernel) (h : push queue buf n k = some (r, k')) : Touches touched k k' := by
  simp only [push] at h
  split_ifs at h
  cases h
  exact touches_setBytes hqueue _

lemma touches_pop {queue size n : ℕ} (hqueue : queue ∈ touched) (r : ℤ) (k' : Kernel)
    (h : pop queue size n k = some (r, k')) : Touches touched k k' := by
  simp only [pop] at h
  split_ifs at h
  · cases h
    exact .refl touched _
  · cases h
    exact touches_setBytes hqueue _

/-- A `write` touches the objects of its descriptor. -/
lemma touches_write {buf : List UInt8} {event : KernelEvent names} {r : ℤ}
    (h : write names fd buf event k = some (r, k')) : Touches (k.objects fd) k k' := by
  unfold objects
  cases event with
  | interrupt =>
      cases h
      exact touches_failWith _
  | fail errno hother =>
      cases h
      exact touches_failWith _
  | proceed n =>
      simp only [write] at h
      cases hfile : k.files fd with
      | none =>
          rw [hfile] at h
          cases h
          exact touches_failWith _
      | some file =>
          obtain ⟨kind, nonblocking, closeOnExec⟩ := file
          rw [hfile] at h
          cases kind with
          | eventfd object =>
              simp only at h
              split_ifs at h
              · cases h
                exact touches_failWith _
              · refine touches_proceedOr (fun r k' hresult => ?_) h
                cases hresult
                exact touches_setCounter List.mem_cons_self _
              · exact touches_proceedOr (fun _ _ hresult => by cases hresult) h
          | pipeRead queue =>
              cases h
              exact touches_failWith _
          | pipeWrite queue => exact touches_proceedOr (touches_push List.mem_cons_self) h
          | socket receives sends =>
              refine touches_proceedOr (touches_push ?_) h
              exact List.mem_cons_of_mem _ List.mem_cons_self

/-- A `read` touches the objects of its descriptor. -/
lemma touches_read {size : ℕ} {event : KernelEvent names} {r : ℤ}
    (h : Kernel.read names fd size event k = some (r, k')) : Touches (k.objects fd) k k' := by
  unfold objects
  cases event with
  | interrupt =>
      cases h
      exact touches_failWith _
  | fail errno hother =>
      cases h
      exact touches_failWith _
  | proceed n =>
      simp only [Kernel.read] at h
      cases hfile : k.files fd with
      | none =>
          rw [hfile] at h
          cases h
          exact touches_failWith _
      | some file =>
          obtain ⟨kind, nonblocking, closeOnExec⟩ := file
          rw [hfile] at h
          cases kind with
          | eventfd object =>
              simp only at h
              split_ifs at h
              · cases h
                exact touches_failWith _
              · exact touches_proceedOr (fun _ _ hresult => by cases hresult) h
              · refine touches_proceedOr (fun r k' hresult => ?_) h
                cases hresult
                exact touches_setCounter List.mem_cons_self _
          | pipeRead queue => exact touches_proceedOr (touches_pop List.mem_cons_self) h
          | pipeWrite queue =>
              cases h
              exact touches_failWith _
          | socket receives sends => exact touches_proceedOr (touches_pop List.mem_cons_self) h

/-- The objects of a descriptor are those of before, when the descriptors are. -/
lemma Touches.objects (h : Touches touched k k') (fd : ℤ) : k'.objects fd = k.objects fd := by
  rw [Kernel.objects, h.files, Kernel.objects]

/-! ## What a kernel grows by -/

/-- New objects take numbers that were not in use. -/
def Fresh (k : Kernel) : Prop := ∀ fd, ∀ object ∈ k.objects fd, object < k.nextObject

/-- The open descriptors are those of before and the new ones, which were free and name new objects;
the objects of before are as they were. -/
structure Grows (new : List ℤ) (k k' : Kernel) : Prop where
  nextObject : k.nextObject ≤ k'.nextObject
  old : ∀ fd ∉ new, k'.files fd = k.files fd
  new : ∀ fd ∈ new, k.files fd = none ∧ (k'.files fd).isSome ∧
    ∀ object ∈ k'.objects fd, k.nextObject ≤ object ∧ object < k'.nextObject
  counters : ∀ object < k.nextObject, k'.counters object = k.counters object
  queues : ∀ object < k.nextObject, k'.queues object = k.queues object

variable {new : List ℤ}

lemma Grows.refl (k : Kernel) : Grows [] k k :=
  ⟨le_rfl, fun _ _ => rfl, fun _ h => absurd h List.not_mem_nil, fun _ _ => rfl, fun _ _ => rfl⟩

lemma Grows.fresh (h : Grows new k k') (hk : k.Fresh) : k'.Fresh := by
  intro fd object hobject
  by_cases hmem : fd ∈ new
  · exact ((h.new fd hmem).2.2 object hobject).2
  · rw [Kernel.objects, h.old fd hmem] at hobject
    exact (hk fd object hobject).trans_le h.nextObject

/-- Descriptors that are changed stay open and name what they named. -/
lemma Grows.setFiles (h : Grows new k k') {change : OpenFile → OpenFile}
    (hchange : ∀ file, (change file).kind = file.kind) (fds : List ℤ)
    (hfds : ∀ fd ∈ fds, fd ∈ new) : Grows new k (setFiles fds change k') := by
  induction fds generalizing k' with
  | nil => exact h
  | cons fd fds ih =>
      refine ih ?_ fun fd' hfd' => hfds fd' (List.mem_cons_of_mem _ hfd')
      have hmem := hfds fd List.mem_cons_self
      have hfile : ∀ fd', ((setFile fd change k').files fd').isSome = (k'.files fd').isSome ∧
          (setFile fd change k').objects fd' = k'.objects fd' := by
        intro fd'
        have hset : (setFile fd change k').files =
            Function.update k'.files fd ((k'.files fd).map change) := rfl
        unfold Kernel.objects
        rw [hset]
        by_cases heq : fd' = fd
        · subst heq
          rw [Function.update_self]
          cases k'.files fd' with
          | none => exact ⟨rfl, rfl⟩
          | some file => exact ⟨rfl, congrArg FileKind.objects (hchange file)⟩
        · rw [Function.update_of_ne heq]
          exact ⟨rfl, rfl⟩
      refine ⟨h.nextObject, fun fd' hfd' => ?_, fun fd' hfd' => ?_, h.counters, h.queues⟩
      · rw [← h.old fd' hfd']
        exact Function.update_of_ne (fun heq : fd' = fd => hfd' (heq ▸ hmem)) _ _
      · rw [(hfile fd').1, (hfile fd').2]
        exact h.new fd' hfd'

lemma files_close (fd : ℤ) (k : Kernel) :
    (close fd k).files = Function.update k.files fd none := rfl

/-- Closing touches the objects of the descriptor. -/
lemma queues_close {object : ℕ} (h : object ∉ k.objects fd) :
    (close fd k).queues object = k.queues object := by
  unfold Kernel.objects at h
  simp only [close]
  cases hfile : k.files fd with
  | none => rfl
  | some file =>
      obtain ⟨kind, nonblocking, closeOnExec⟩ := file
      rw [hfile] at h
      cases kind with
      | eventfd object => rfl
      | pipeRead queue => rfl
      | pipeWrite queue =>
          have hne : object ≠ queue := fun heq => h (List.mem_singleton.mpr heq)
          exact Function.update_of_ne hne _ _
      | socket receives sends =>
          have hne : object ≠ sends := fun heq =>
            h (List.mem_cons_of_mem _ (List.mem_singleton.mpr heq))
          exact Function.update_of_ne hne _ _

lemma objects_close_of_ne {fd fd' : ℤ} (h : fd' ≠ fd) :
    (close fd k).objects fd' = k.objects fd' := by
  unfold Kernel.objects
  rw [files_close, Function.update_of_ne h]

/-- Closing takes a new descriptor away again. -/
lemma Grows.close (h : Grows new k k') (hfd : fd ∈ new) :
    Grows (new.filter (· ≠ fd)) k (close fd k') := by
  refine ⟨h.nextObject, fun fd' hfd' => ?_, fun fd' hfd' => ?_, h.counters,
    fun object hobject => ?_⟩
  · rw [files_close]
    by_cases heq : fd' = fd
    · subst heq
      rw [Function.update_self, (h.new fd' hfd).1]
    · rw [Function.update_of_ne heq]
      refine h.old fd' fun hmem => hfd' ?_
      exact List.mem_filter.mpr ⟨hmem, decide_eq_true heq⟩
  · obtain ⟨hmem, hne⟩ := List.mem_filter.mp hfd'
    have hne : fd' ≠ fd := of_decide_eq_true hne
    rw [files_close, Function.update_of_ne hne, objects_close_of_ne hne]
    exact h.new fd' hmem
  · rw [queues_close fun hmem => ?_]
    · exact h.queues object hobject
    · have := ((h.new fd hfd).2.2 object hmem).1
      omega

lemma grows_newEventfd (nonblocking closeOnExec : Bool) :
    Grows [(newEventfd nonblocking closeOnExec k).1] k
      (newEventfd nonblocking closeOnExec k).2 := by
  refine ⟨Nat.le_succ _, fun fd hfd => ?_, fun fd hfd => ?_, fun object hobject => ?_,
    fun _ _ => rfl⟩
  · exact Function.update_of_ne (fun heq => hfd (List.mem_singleton.mpr heq)) _ _
  · obtain rfl := List.mem_singleton.mp hfd
    have hfile := AlertSockets.files_newEventfd nonblocking closeOnExec k
    refine ⟨files_lowestFree k, by rw [hfile]; rfl, fun object hobject => ?_⟩
    rw [Kernel.objects, hfile] at hobject
    obtain rfl := List.mem_singleton.mp hobject
    exact ⟨le_rfl, Nat.lt_succ_self _⟩
  · exact Function.update_of_ne (Nat.ne_of_lt hobject) _ _

lemma grows_newPipe (setup : Setup) (nonblocking closeOnExec : Bool) :
    let made := newPipe setup nonblocking closeOnExec k
    Grows [made.1.1, made.1.2] k made.2 := by
  intro made
  obtain ⟨hread, hwrite, -⟩ := AlertSockets.files_newPipe setup k nonblocking closeOnExec
  obtain ⟨⟨-, hfree, hfree'⟩, -, -, hother⟩ :=
    openFile_twice ⟨.pipeRead k.nextObject, nonblocking, closeOnExec⟩
      ⟨.pipeWrite k.nextObject, nonblocking, closeOnExec⟩ k
  refine ⟨Nat.le_succ _, fun fd hfd => ?_, fun fd hfd => ?_, fun _ _ => rfl,
    fun object hobject => ?_⟩
  · simp only [List.mem_cons, List.not_mem_nil, or_false, not_or] at hfd
    exact hother fd hfd.1 hfd.2
  · simp only [List.mem_cons, List.not_mem_nil, or_false] at hfd
    rcases hfd with rfl | rfl
    · rw [Kernel.objects, hread]
      refine ⟨hfree, rfl, fun object hobject => ?_⟩
      obtain rfl := List.mem_singleton.mp hobject
      exact ⟨le_rfl, Nat.lt_succ_self _⟩
    · rw [Kernel.objects, hwrite]
      refine ⟨hfree', rfl, fun object hobject => ?_⟩
      obtain rfl := List.mem_singleton.mp hobject
      exact ⟨le_rfl, Nat.lt_succ_self _⟩
  · exact Function.update_of_ne (Nat.ne_of_lt hobject) _ _

lemma grows_newSocketpair (setup : Setup) (closeOnExec : Bool) :
    let made := newSocketpair setup closeOnExec k
    Grows [made.1.1, made.1.2] k made.2 := by
  intro made
  obtain ⟨hread, hwrite, -⟩ := AlertSockets.files_newSocketpair setup k closeOnExec
  obtain ⟨⟨-, hfree, hfree'⟩, -, -, hother⟩ :=
    openFile_twice ⟨.socket k.nextObject (k.nextObject + 1), false, closeOnExec⟩
      ⟨.socket (k.nextObject + 1) k.nextObject, false, closeOnExec⟩ k
  have hnext : made.2.nextObject = k.nextObject + 2 := rfl
  have hnew : ∀ object, object = k.nextObject ∨ object = k.nextObject + 1 →
      k.nextObject ≤ object ∧ object < made.2.nextObject := by
    intro object hobject
    omega
  refine ⟨by omega, fun fd hfd => ?_, fun fd hfd => ?_, fun _ _ => rfl, fun object hobject => ?_⟩
  · simp only [List.mem_cons, List.not_mem_nil, or_false, not_or] at hfd
    exact hother fd hfd.1 hfd.2
  · simp only [List.mem_cons, List.not_mem_nil, or_false] at hfd
    rcases hfd with rfl | rfl
    · rw [Kernel.objects, hread]
      refine ⟨hfree, rfl, fun object hobject => hnew object ?_⟩
      simpa [FileKind.objects] using hobject
    · rw [Kernel.objects, hwrite]
      refine ⟨hfree', rfl, fun object hobject => hnew object ?_⟩
      simpa [FileKind.objects, or_comm] using hobject
  · refine (Function.update_of_ne (by omega) _ _).trans (Function.update_of_ne ?_ _ _)
    exact Nat.ne_of_lt hobject

lemma Grows.congr {new' : List ℤ} (h : Grows new k k') (hnew : ∀ fd, fd ∈ new' ↔ fd ∈ new) :
    Grows new' k k' :=
  ⟨h.nextObject, fun fd hfd => h.old fd ((hnew fd).not.mp hfd),
    fun fd hfd => h.new fd ((hnew fd).mp hfd), h.counters, h.queues⟩

lemma Grows.trans {new' : List ℤ} (h : Grows new k k') (h' : Grows new' k' k'') :
    Grows (new ++ new') k k'' := by
  have hnextObject := h.nextObject
  have hnextObject' := h'.nextObject
  refine ⟨by omega, fun fd hfd => ?_, fun fd hfd => ?_, fun object hobject => ?_,
    fun object hobject => ?_⟩
  · rw [List.mem_append, not_or] at hfd
    exact (h'.old fd hfd.2).trans (h.old fd hfd.1)
  · by_cases hmem : fd ∈ new'
    · obtain ⟨hfree, hopen, hobjects⟩ := h'.new fd hmem
      refine ⟨?_, hopen, fun object hobject => ?_⟩
      · -- a descriptor that was free after the first step is none of the first new ones
        rw [← h.old fd fun hold => ?_, hfree]
        have hopen' := (h.new fd hold).2.1
        rw [hfree] at hopen'
        cases hopen'
      · have := hobjects object hobject
        omega
    · obtain ⟨hfree, hopen, hobjects⟩ :=
        h.new fd ((List.mem_append.mp hfd).resolve_right hmem)
      rw [Kernel.objects, h'.old fd hmem]
      refine ⟨hfree, hopen, fun object hobject => ?_⟩
      have := hobjects object hobject
      omega
  · exact (h'.counters object (by omega)).trans (h.counters object hobject)
  · exact (h'.queues object (by omega)).trans (h.queues object hobject)

/-- A call that touches new objects only leaves a kernel that has grown as much. -/
lemma Grows.touches (h : Grows new k k') (htouches : Touches touched k' k'')
    (hnew : ∀ object ∈ touched, k.nextObject ≤ object) : Grows new k k'' := by
  have hold : ∀ object < k.nextObject, object ∉ touched := by
    intro object hobject hmem
    have := hnew object hmem
    omega
  refine ⟨htouches.nextObject ▸ h.nextObject, fun fd hfd => ?_, fun fd hfd => ?_,
    fun object hobject => ?_, fun object hobject => ?_⟩
  · rw [htouches.files]
    exact h.old fd hfd
  · rw [htouches.files, htouches.objects, htouches.nextObject]
    exact h.new fd hfd
  · rw [htouches.counters object (hold object hobject)]
    exact h.counters object hobject
  · rw [htouches.queues object (hold object hobject)]
    exact h.queues object hobject

/-- New descriptors are closed, each once. -/
lemma Grows.closes (h : Grows new k k') (fds : List ℤ) (hnodup : fds.Nodup)
    (hfds : ∀ fd ∈ fds, fd ∈ new) :
    Grows (new.filter (· ∉ fds)) k (fds.foldl (fun k fd => Kernel.close fd k) k') := by
  induction fds generalizing new k' with
  | nil => exact h.congr fun fd => by simp
  | cons fd fds ih =>
      obtain ⟨hnot, hnodup⟩ := List.nodup_cons.mp hnodup
      have hrest := ih (h.close (hfds fd List.mem_cons_self)) hnodup fun fd' hfd' =>
        List.mem_filter.mpr ⟨hfds fd' (List.mem_cons_of_mem _ hfd'),
          decide_eq_true fun heq => hnot (heq ▸ hfd')⟩
      refine hrest.congr fun fd' => ?_
      simp only [List.mem_filter, List.mem_cons, decide_eq_true_eq, not_or]
      tauto

end Kernel

end TorOnion
