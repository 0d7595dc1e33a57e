import TorOnion.AlertSockets.AlertSock

/-!
# What the backends of alert sockets do

Two facts about a backend matter.  A write makes the object readable, or says that it is readable,
or fails (`Rings`); a read that says that there is nothing says so of an object that is not readable
(`Empties`).  The loops around the system calls pass these facts on, and turn the errors into
negative results.  The ends of a queue, of pipes and of stream sockets alike, and eventfds have both
properties.
-/

namespace TorOnion

/-- The kernel lets the call fail. -/
def KernelEvent.Fails {names : Errnos} : KernelEvent names → Prop
  | .fail _ _ => True
  | _ => False

namespace AlertSockets

open Kernel

variable {names : Errnos} {call : KernelEvent names → Kernel → Option (ℤ × Kernel)}
  {events events' : List (KernelEvent names)} {k k' : Kernel} {r : ℤ}

/-! ## Rules for the loops -/

/-- The loop that repeats interrupted calls: what an interrupted call keeps holds before the call
that is not interrupted. -/
lemma again_spec {I : Kernel → Prop} {P : ℤ → Kernel → Prop}
    (hstep : ∀ event ∈ events, ∀ k r k', I k → call event k = some (r, k') →
      (0 ≤ r → P r k') ∧ (r < 0 → if k'.errno = names.eintr then I k' else P (-k'.errno) k'))
    (hk : I k) (h : again names call events k = some (r, events', k')) : P r k' := by
  induction events generalizing k with
  | nil => cases h
  | cons event events ih =>
      obtain ⟨⟨r₀, k₀⟩, hcall, hrest⟩ := Option.bind_eq_some_iff.mp h
      obtain ⟨hpos, hneg⟩ := hstep event List.mem_cons_self k r₀ k₀ hk hcall
      simp only at hrest
      split at hrest
      next hr =>
        have hpost := hneg hr
        split at hrest
        next heintr =>
          rw [if_pos heintr] at hpost
          exact ih (fun e he => hstep e (List.mem_cons_of_mem _ he)) hpost hrest
        next herror =>
          rw [if_neg herror] at hpost
          cases hrest
          exact hpost
      next hr =>
        cases hrest
        exact hpos (Int.not_lt.mp hr)

/-- The loop that reads until nothing is read. -/
lemma drainLoop_spec {read : List (KernelEvent names) → Kernel → Option (Returned names)}
    {I : Kernel → Prop} {P : ℤ → Kernel → Prop}
    (hstep : ∀ events k r events' k', I k → read events k = some (r, events', k') →
      if r > 0 then I k' else P r k')
    {rounds : ℕ} (hk : I k) (h : drainLoop names read rounds events k = some (r, events', k')) :
    P r k' := by
  induction rounds generalizing events k with
  | zero => cases h
  | succ rounds ih =>
      obtain ⟨⟨r₀, events₀, k₀⟩, hread, hrest⟩ := Option.bind_eq_some_iff.mp h
      have hpost := hstep events k r₀ events₀ k₀ hk hread
      simp only at hrest
      split at hrest
      next hr =>
        rw [if_pos hr] at hpost
        exact ih hpost hrest
      next hr =>
        rw [if_neg hr] at hpost
        cases hrest
        exact hpost

/-! ## What a backend does -/

/-- A write makes the object readable, says that it is, is interrupted, or fails. -/
def Rings (names : Errnos) (again : ℤ) (Inv readable : Kernel → Prop)
    (call : KernelEvent names → Kernel → Option (ℤ × Kernel)) : Prop :=
  ∀ event k r k', Inv k → call event k = some (r, k') →
    Inv k' ∧ (readable k → readable k') ∧
      (0 < r ∧ readable k' ∨
        r < 0 ∧ (k'.errno = again ∧ readable k' ∨ k'.errno = names.eintr ∨
          names.IsOther k'.errno ∧ event.Fails))

/-- A read takes something out (everything, where it does so at once), says that there is nothing,
is interrupted, or fails. -/
def Empties (names : Errnos) (atOnce : Prop) (again : ℤ) (Inv readable : Kernel → Prop)
    (call : KernelEvent names → Kernel → Option (ℤ × Kernel)) : Prop :=
  ∀ event k r k', Inv k → call event k = some (r, k') →
    Inv k' ∧ (0 < r ∧ (atOnce → ¬ readable k') ∨
      r < 0 ∧ (k'.errno = again ∧ ¬ readable k' ∨ k'.errno = names.eintr ∨
        names.IsOther k'.errno))

variable {error : ℤ} {atOnce : Prop} {Inv readable : Kernel → Prop}

/-- What is left of a write that is not interrupted. -/
lemma Rings.again_spec (hrings : Rings names error Inv readable call) (herror : error ≠ names.eintr)
    (hk : Inv k) (h : again names call events k = some (r, events', k')) :
    Inv k' ∧ (readable k → readable k') ∧
      (0 < r ∧ readable k' ∨ r = -error ∧ readable k' ∨
        names.IsOther (-r) ∧ ∃ event ∈ events, event.Fails) := by
  refine AlertSockets.again_spec (I := fun k₁ => Inv k₁ ∧ (readable k → readable k₁))
    (P := fun r k₁ => Inv k₁ ∧ (readable k → readable k₁) ∧
      (0 < r ∧ readable k₁ ∨ r = -error ∧ readable k₁ ∨
        names.IsOther (-r) ∧ ∃ event ∈ events, event.Fails)) ?_ ⟨hk, id⟩ h
  intro event hevent k₁ r₁ k₂ ⟨hinv, hkept⟩ hcall
  obtain ⟨hinv', hkept', hcases⟩ := hrings event k₁ r₁ k₂ hinv hcall
  have hkept₂ : readable k → readable k₂ := fun hr => hkept' (hkept hr)
  refine ⟨fun hr => ?_, fun hr => ?_⟩
  · obtain hdone | ⟨hneg, -⟩ := hcases
    · exact ⟨hinv', hkept₂, .inl hdone⟩
    · omega
  · obtain ⟨hpos, -⟩ | ⟨-, ⟨hagain, hready⟩ | heintr | ⟨hother, hfails⟩⟩ := hcases
    · omega
    · rw [if_neg (hagain ▸ herror)]
      exact ⟨hinv', hkept₂, .inr (.inl ⟨by rw [hagain], hready⟩)⟩
    · rw [if_pos heintr]
      exact ⟨hinv', hkept₂⟩
    · rw [if_neg hother.2.1]
      exact ⟨hinv', hkept₂, .inr (.inr ⟨by rwa [Int.neg_neg], event, hevent, hfails⟩)⟩

/-- What is left of a read that is not interrupted, with the error that it leaves in `errno`. -/
lemma Empties.again_spec (hempties : Empties names atOnce error Inv readable call)
    (herror : error ≠ names.eintr) (hk : Inv k)
    (h : again names call events k = some (r, events', k')) :
    Inv k' ∧ (0 < r ∧ (atOnce → ¬ readable k') ∨
      r = -k'.errno ∧ (r = -error ∧ ¬ readable k' ∨ names.IsOther (-r))) := by
  refine AlertSockets.again_spec (I := Inv)
    (P := fun r k₁ => Inv k₁ ∧
      (0 < r ∧ (atOnce → ¬ readable k₁) ∨
        r = -k₁.errno ∧ (r = -error ∧ ¬ readable k₁ ∨ names.IsOther (-r)))) ?_ hk h
  intro event hevent k₁ r₁ k₂ hinv hcall
  obtain ⟨hinv', hcases⟩ := hempties event k₁ r₁ k₂ hinv hcall
  refine ⟨fun hr => ?_, fun hr => ?_⟩
  · obtain hpos | ⟨hneg, -⟩ := hcases
    · exact ⟨hinv', .inl hpos⟩
    · omega
  · obtain ⟨hpos, -⟩ | ⟨-, ⟨hagain, hnot⟩ | heintr | hother⟩ := hcases
    · omega
    · rw [if_neg (hagain ▸ herror)]
      exact ⟨hinv', .inr ⟨rfl, .inl ⟨by rw [hagain], hnot⟩⟩⟩
    · rw [if_pos heintr]
      exact hinv'
    · rw [if_neg hother.2.1]
      exact ⟨hinv', .inr ⟨rfl, .inr (by rwa [Int.neg_neg])⟩⟩

/-- A loop that reads until nothing is read ends with an object that is not readable, or fails. -/
lemma Empties.drainLoop_spec (hempties : Empties names atOnce error Inv readable call)
    (herror : error ≠ names.eintr) {rounds : ℕ} (hk : Inv k)
    (h : drainLoop names (again names call) rounds events k = some (r, events', k')) :
    Inv k' ∧ r = -k'.errno ∧ (r = -error ∧ ¬ readable k' ∨ names.IsOther (-r)) := by
  refine AlertSockets.drainLoop_spec (I := Inv) (P := fun r k₁ => Inv k₁ ∧ r = -k₁.errno ∧
    (r = -error ∧ ¬ readable k₁ ∨ names.IsOther (-r))) ?_ hk h
  intro events k₁ r₁ events₁ k₂ hinv hread
  obtain ⟨hinv', hcases⟩ := hempties.again_spec herror hinv hread
  split
  next => exact hinv'
  next hr =>
    obtain ⟨hpos, -⟩ | hstop := hcases
    · exact absurd hpos hr
    · exact ⟨hinv', hstop⟩

/-! ## Queues and counters -/

section Backends

/-- The queue that a descriptor receives from. -/
def receives : FileKind → Option ℕ
  | .pipeRead queue => some queue
  | .socket queue _ => some queue
  | _ => none

/-- The queue that a descriptor sends into. -/
def sends : FileKind → Option ℕ
  | .pipeWrite queue => some queue
  | .socket _ queue => some queue
  | _ => none

/-- What a queue that is not ready fails with. -/
def notReady (names : Errnos) : FileKind → ℤ
  | .socket _ _ => names.socketAgain
  | _ => names.eagain

variable {fd readFd writeFd : ℤ} {file : OpenFile} {queue object size n : ℕ} {buf : List UInt8}

lemma write_of_sends (hfile : k.files fd = some file) (hsends : sends file.kind = some queue) :
    write names fd buf (.proceed n) k =
      proceedOr file (notReady names file.kind) k (push queue buf n k) := by
  obtain ⟨kind, nonblocking, closeOnExec⟩ := file
  rw [write, hfile]
  cases kind <;> cases hsends <;> rfl

lemma read_of_receives (hfile : k.files fd = some file)
    (hreceives : receives file.kind = some queue) :
    Kernel.read names fd size (.proceed n) k =
      proceedOr file (notReady names file.kind) k (pop queue size n k) := by
  obtain ⟨kind, nonblocking, closeOnExec⟩ := file
  rw [Kernel.read, hfile]
  cases kind <;> cases hreceives <;> rfl

/-- Two non-blocking ends of a queue that has room for a byte and is not hung up. -/
structure Streams (names : Errnos) (readFd writeFd : ℤ) (queue : ℕ) (error : ℤ) (k : Kernel) :
    Prop where
  reads : ∃ file, k.files readFd = some file ∧ file.nonblocking = true ∧
    receives file.kind = some queue ∧ notReady names file.kind = error
  writes : ∃ file, k.files writeFd = some file ∧ file.nonblocking = true ∧
    sends file.kind = some queue ∧ notReady names file.kind = error
  capacity : 0 < (k.queues queue).capacity
  connected : (k.queues queue).hungUp = false

/-- A non-blocking eventfd. -/
def Counts (fd : ℤ) (object : ℕ) (k : Kernel) : Prop :=
  ∃ file, k.files fd = some file ∧ file.nonblocking = true ∧ file.kind = .eventfd object

lemma Streams.readable_iff (h : Streams names readFd writeFd queue error k) :
    Readable readFd k ↔ (k.queues queue).bytes ≠ [] := by
  obtain ⟨⟨kind, nonblocking, closeOnExec⟩, hfile, -, hreceives, -⟩ := h.reads
  have hconnected := h.connected
  rw [Readable, hfile]
  cases kind <;> cases hreceives <;> simp [hconnected]

lemma Counts.readable_iff (h : Counts fd object k) : Readable fd k ↔ k.counters object ≠ 0 := by
  obtain ⟨file, hfile, -, hkind⟩ := h
  rw [Readable, hfile]
  simp [hkind]

lemma Streams.setErrno (h : Streams names readFd writeFd queue error k) (errno : ℤ) :
    Streams names readFd writeFd queue error { k with errno := errno } :=
  ⟨h.reads, h.writes, h.capacity, h.connected⟩

lemma Streams.setBytes (h : Streams names readFd writeFd queue error k) (bytes : List UInt8) :
    Streams names readFd writeFd queue error (setBytes queue bytes k) where
  reads := h.reads
  writes := h.writes
  capacity := by simpa [Kernel.setBytes] using h.capacity
  connected := by simpa [Kernel.setBytes] using h.connected

lemma Streams.readable_setBytes (h : Streams names readFd writeFd queue error k)
    (bytes : List UInt8) : Readable readFd (Kernel.setBytes queue bytes k) ↔ bytes ≠ [] := by
  rw [(h.setBytes bytes).readable_iff]
  simp [Kernel.setBytes]

/-- A byte goes into the queue, unless the queue is full. -/
lemma Streams.push_alertByte (h : Streams names readFd writeFd queue error k) (n : ℕ) :
    ((k.queues queue).bytes ≠ [] ∧ push queue alertByte n k = none) ∨
      push queue alertByte n k =
        some (1, Kernel.setBytes queue ((k.queues queue).bytes ++ alertByte) k) := by
  have hcapacity := h.capacity
  have hlength : alertByte.length = 1 := rfl
  by_cases hroom : (k.queues queue).bytes.length < (k.queues queue).capacity
  · have hmin : min (n + 1)
        (min ((k.queues queue).capacity - (k.queues queue).bytes.length) alertByte.length) = 1 := by
      omega
    right
    simp only [push, hmin]
    rfl
  · have hmin : min (n + 1)
        (min ((k.queues queue).capacity - (k.queues queue).bytes.length) alertByte.length) = 0 := by
      omega
    refine .inl ⟨fun hempty => ?_, ?_⟩
    · rw [hempty, List.length_nil] at hroom
      exact hroom hcapacity
    · simp only [push, hmin]
      exact if_pos ⟨trivial, List.cons_ne_nil _ _⟩

/-- Bytes come out of the queue, unless it is empty. -/
lemma Streams.pop (h : Streams names readFd writeFd queue error k) (hsize : 0 < size) (n : ℕ) :
    ((k.queues queue).bytes = [] ∧ pop queue size n k = none) ∨
      ∃ m > 0, ∃ bytes, pop queue size n k = some (m, Kernel.setBytes queue bytes k) := by
  by_cases hempty : (k.queues queue).bytes = []
  · refine .inl ⟨hempty, ?_⟩
    rw [Kernel.pop, if_pos hempty, h.connected]
    rfl
  · have hlength := List.length_pos_iff.mpr hempty
    exact .inr ⟨_, by omega, _, if_neg hempty⟩

/-- A write that is carried out does not wait: it makes the object readable, or says that it is. -/
def RingsAtOnce (names : Errnos) (again : ℤ) (Inv readable : Kernel → Prop)
    (call : KernelEvent names → Kernel → Option (ℤ × Kernel)) : Prop :=
  ∀ n k, Inv k → ∃ r k', call (.proceed n) k = some (r, k') ∧ Inv k' ∧ readable k' ∧
    (0 < r ∨ r < 0 ∧ k'.errno = again)

/-- A write rings if it does when it is carried out: interrupted or failed, it changes `errno`
alone. -/
lemma rings_of_proceed (herrno : ∀ k errno, Inv k → Inv { k with errno := errno })
    (hproceed : RingsAtOnce names error Inv (Readable readFd) (write names writeFd buf)) :
    Rings names error Inv (Readable readFd) (write names writeFd buf) := by
  intro event k r k' hk hcall
  cases event with
  | interrupt =>
      cases hcall
      exact ⟨herrno k _ hk, id, .inr ⟨by decide, .inr (.inl rfl)⟩⟩
  | fail errno hother =>
      cases hcall
      exact ⟨herrno k _ hk, id, .inr ⟨by decide, .inr (.inr ⟨hother, trivial⟩)⟩⟩
  | proceed n =>
      obtain ⟨r₁, k₁, hcall', hk', hready, hresult⟩ := hproceed n k hk
      obtain ⟨rfl, rfl⟩ := Prod.mk.inj (Option.some.inj (hcall'.symm.trans hcall))
      refine ⟨hk', fun _ => hready, ?_⟩
      exact hresult.imp (fun hpos => ⟨hpos, hready⟩) fun hneg => ⟨hneg.1, .inl ⟨hneg.2, hready⟩⟩

/-- An interrupted write is made again. -/
lemma again_interrupt :
    again names (write names writeFd buf) (.interrupt :: events) k =
      again names (write names writeFd buf) events { k with errno := names.eintr } := by
  simp [again, write, failWith]

/-- A write that is interrupted any number of times and is then carried out comes back, and takes
no more events. -/
lemma RingsAtOnce.again_eq
    (h : RingsAtOnce names error Inv (Readable readFd) (write names writeFd buf))
    (herrno : ∀ k errno, Inv k → Inv { k with errno := errno }) (herror : error ≠ names.eintr)
    (hk : Inv k) (interrupts n : ℕ) (rest : List (KernelEvent names)) :
    ∃ r k', again names (write names writeFd buf)
        (List.replicate interrupts .interrupt ++ .proceed n :: rest) k = some (r, rest, k') ∧
      Readable readFd k' ∧ (0 < r ∨ r = -error) := by
  induction interrupts generalizing k with
  | zero =>
      obtain ⟨r, k', hcall, -, hready, hresult⟩ := h n k hk
      rw [List.replicate_zero, List.nil_append, again, hcall]
      rcases hresult with hpos | ⟨hneg, hagain⟩
      · exact ⟨r, k', if_neg (Int.not_lt.mpr (Int.le_of_lt hpos)), hready, .inl hpos⟩
      · refine ⟨-error, k', ?_, hready, .inr rfl⟩
        show (if r < 0 then _ else _) = _
        rw [if_pos hneg, hagain, if_neg herror]
  | succ interrupts ih =>
      rw [List.replicate_succ, List.cons_append, again_interrupt]
      exact ih (herrno k names.eintr hk)

/-- A read empties if it does when it is carried out. -/
lemma empties_of_proceed (herrno : ∀ k errno, Inv k → Inv { k with errno := errno })
    (hproceed : ∀ n k r k', Inv k → Kernel.read names readFd size (.proceed n) k = some (r, k') →
      Inv k' ∧ (0 < r ∧ (atOnce → ¬ Readable readFd k') ∨
        r < 0 ∧ k'.errno = error ∧ ¬ Readable readFd k')) :
    Empties names atOnce error Inv (Readable readFd) (Kernel.read names readFd size) := by
  intro event k r k' hk hcall
  cases event with
  | interrupt =>
      cases hcall
      exact ⟨herrno k _ hk, .inr ⟨by decide, .inr (.inl rfl)⟩⟩
  | fail errno hother =>
      cases hcall
      exact ⟨herrno k _ hk, .inr ⟨by decide, .inr (.inr hother)⟩⟩
  | proceed n =>
      obtain ⟨hk', hresult⟩ := hproceed n k r k' hk hcall
      exact ⟨hk', hresult.imp_right fun hneg => ⟨hneg.1, .inl hneg.2⟩⟩

lemma Streams.ringsAtOnce : RingsAtOnce names error (Streams names readFd writeFd queue error)
    (Readable readFd) (write names writeFd alertByte) := by
  intro n k hk
  obtain ⟨file, hfile, hnonblocking, hsends, herror⟩ := hk.writes
  rw [write_of_sends hfile hsends, herror]
  obtain ⟨hfull, hpush⟩ | hpush := hk.push_alertByte n
  · rw [hpush, proceedOr, if_pos hnonblocking]
    have hready : Readable readFd { k with errno := error } :=
      (hk.setErrno _).readable_iff.mpr hfull
    exact ⟨-1, _, rfl, hk.setErrno _, hready, .inr ⟨by decide, rfl⟩⟩
  · rw [hpush, proceedOr]
    have hready : Readable readFd
        (Kernel.setBytes queue ((k.queues queue).bytes ++ alertByte) k) :=
      (hk.readable_setBytes _).mpr (List.append_ne_nil_of_right_ne_nil _ (List.cons_ne_nil _ _))
    exact ⟨1, _, rfl, hk.setBytes _, hready, .inl (by decide)⟩

lemma Streams.rings : Rings names error (Streams names readFd writeFd queue error)
    (Readable readFd) (write names writeFd alertByte) :=
  rings_of_proceed (fun _ _ hk => hk.setErrno _) Streams.ringsAtOnce

lemma Streams.empties (hsize : 0 < size) :
    Empties names False error (Streams names readFd writeFd queue error)
      (Readable readFd) (Kernel.read names readFd size) := by
  refine empties_of_proceed (fun _ _ hk => hk.setErrno _) fun n k r k' hk hcall => ?_
  obtain ⟨file, hfile, hnonblocking, hreceives, herror⟩ := hk.reads
  rw [read_of_receives hfile hreceives, herror] at hcall
  obtain ⟨hempty, hpop⟩ | ⟨m, hm, bytes, hpop⟩ := hk.pop hsize n
  · rw [hpop, proceedOr, if_pos hnonblocking] at hcall
    cases hcall
    have hnot : ¬ Readable readFd { k with errno := error } := fun hready =>
      (hk.setErrno _).readable_iff.mp hready hempty
    exact ⟨hk.setErrno _, .inr ⟨by decide, rfl, hnot⟩⟩
  · rw [hpop, proceedOr] at hcall
    cases hcall
    exact ⟨hk.setBytes _, .inl ⟨by omega, False.elim⟩⟩

lemma Counts.write (h : Counts fd object k) (n : ℕ) :
    Kernel.write names fd (uint64Bytes 1) (.proceed n) k =
      if k.counters object + 1 ≤ eventfdMax then
        some (8, setCounter object (k.counters object + 1) k)
      else some (failWith names.eagain k) := by
  obtain ⟨⟨kind, nonblocking, closeOnExec⟩, hfile, rfl, rfl⟩ := h
  have hone : ofBytes ((uint64Bytes 1).take 8) = 1 := by decide
  rw [Kernel.write, hfile]
  simp only
  rw [if_neg (by decide), hone]
  split
  · rfl
  · rfl

lemma Counts.read (h : Counts fd object k) (n : ℕ) :
    Kernel.read names fd 8 (.proceed n) k =
      if k.counters object = 0 then some (failWith names.eagain k)
      else some (8, setCounter object 0 k) := by
  obtain ⟨⟨kind, nonblocking, closeOnExec⟩, hfile, rfl, rfl⟩ := h
  rw [Kernel.read, hfile]
  simp only
  rw [if_neg (by decide)]
  split
  · rfl
  · rfl

/-- An eventfd takes the number 1, unless it is saturated. -/
lemma Counts.ringsAtOnce : RingsAtOnce names names.eagain (Counts fd object) (Readable fd)
    (Kernel.write names fd (uint64Bytes 1)) := by
  intro n k hk
  rw [hk.write]
  split
  next =>
    have hk' : Counts fd object (setCounter object (k.counters object + 1) k) := hk
    exact ⟨8, _, rfl, hk', hk'.readable_iff.mpr (by simp [setCounter]), .inl (by decide)⟩
  next hfull =>
    have hk' : Counts fd object { k with errno := names.eagain } := hk
    have hready : Readable fd { k with errno := names.eagain } :=
      hk'.readable_iff.mpr fun hzero => hfull <| by
        rw [show k.counters object = 0 from hzero]
        decide
    exact ⟨-1, _, rfl, hk', hready, .inr ⟨by decide, rfl⟩⟩

lemma Counts.rings : Rings names names.eagain (Counts fd object) (Readable fd)
    (Kernel.write names fd (uint64Bytes 1)) :=
  rings_of_proceed (fun _ _ hk => hk) Counts.ringsAtOnce

/-- Reading an eventfd sets it to 0, so one read drains it. -/
lemma Counts.empties : Empties names True names.eagain
    (Counts fd object) (Readable fd) (Kernel.read names fd 8) := by
  refine empties_of_proceed (fun _ _ hk => hk) fun n k r k' hk hcall => ?_
  rw [hk.read] at hcall
  split at hcall
  next hzero =>
    cases hcall
    have hk' : Counts fd object { k with errno := names.eagain } := hk
    exact ⟨hk', .inr ⟨by decide, rfl, fun hready => hk'.readable_iff.mp hready hzero⟩⟩
  next =>
    cases hcall
    have hk' : Counts fd object (setCounter object 0 k) := hk
    refine ⟨hk', .inl ⟨by decide, fun _ hready => hk'.readable_iff.mp hready ?_⟩⟩
    exact Function.update_self object 0 k.counters

end Backends

end AlertSockets

end TorOnion
