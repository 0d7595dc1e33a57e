import TorOnion.AlertSockets.Backends

/-!
# No wake-up is lost

An alert that finds the object full takes it as alerted already, and a drain that finds it empty
takes it as drained.  Every alert and every drain keeps what the three backends have in common
(`Armed`), which `alert_sockets_create` sets up; so every sequence of complete calls does.
-/

namespace TorOnion

namespace AlertSockets

open Kernel

variable {names : Errnos} {events events' : List (KernelEvent names)} {k k' : Kernel} {r error : ℤ}
  {readable : Kernel → Prop}

/-! ## Alerts and drains -/

/-- What `alert_sockets_create` sets up, for each backend. -/
inductive Armed (names : Errnos) (socks : AlertSockets) (k : Kernel) : Prop
  | eventfd (object : ℕ) (hfns : socks.alertFn = .eventfdAlert ∧ socks.drainFn = .eventfdDrain)
      (hfds : socks.writeFd = socks.readFd) (h : Counts socks.readFd object k)
  | pipe (queue : ℕ) (hfns : socks.alertFn = .pipeAlert ∧ socks.drainFn = .pipeDrain)
      (h : Streams names socks.readFd socks.writeFd queue names.eagain k)
  | sock (queue : ℕ) (hfns : socks.alertFn = .sockAlert ∧ socks.drainFn = .sockDrain)
      (h : Streams names socks.readFd socks.writeFd queue names.socketAgain k)

variable {socks : AlertSockets}

lemma eagain_ne_eintr : names.eagain ≠ names.eintr := names.eintr_ne_eagain.symm

lemma socketAgain_ne_eintr : names.socketAgain ≠ names.eintr := by
  obtain h | h := names.socketAgain_eq
  · exact h ▸ eagain_ne_eintr
  · exact h ▸ names.eintr_ne_ewouldblock.symm

/-- The end of an alert: the error that says that the object is full counts as success. -/
lemma alert_result {fails : Prop} (again : ℤ → Prop) [DecidablePred again] {k₀ : Kernel}
    {events₀ : List (KernelEvent names)} {r₀ failure : ℤ} (hagain : again error)
    (hother : ∀ e, names.IsOther e → ¬ again e) (hfailure : r₀ < 0 → failure ≠ 0)
    (hcases : 0 < r₀ ∧ readable k₀ ∨ r₀ = -error ∧ readable k₀ ∨ names.IsOther (-r₀) ∧ fails)
    (h : (if r₀ < 0 ∧ ¬ again (-r₀) then some (failure, events₀, k₀) else some (0, events₀, k₀)) =
      some (r, events', k')) :
    k₀ = k' ∧ (r = 0 → readable k') ∧ (r = 0 ∨ fails) := by
  split at h
  next hneg =>
    cases h
    obtain ⟨hpos, -⟩ | ⟨hr, -⟩ | ⟨-, hfails⟩ := hcases
    · omega
    · exact absurd (by rwa [hr, Int.neg_neg]) hneg.2
    · exact ⟨rfl, fun hzero => absurd hzero (hfailure hneg.1), .inr hfails⟩
  next hok =>
    cases h
    obtain ⟨-, hready⟩ | ⟨-, hready⟩ | ⟨hfailed, -⟩ := hcases
    · exact ⟨rfl, fun _ => hready, .inl rfl⟩
    · exact ⟨rfl, fun _ => hready, .inl rfl⟩
    · have hpos := hfailed.1
      exact absurd ⟨by omega, hother _ hfailed⟩ hok

/-- The end of a drain: the error that says that the object is empty counts as success. -/
lemma drain_result (again : ℤ → Prop) [DecidablePred again] {k₀ : Kernel}
    {events₀ : List (KernelEvent names)} {r₀ failure : ℤ}
    (hother : ∀ e, names.IsOther e → ¬ again e) (hfailure : r₀ < 0 → failure ≠ 0)
    (hcases : 0 < r₀ ∧ ¬ readable k₀ ∨ r₀ = -error ∧ ¬ readable k₀ ∨ names.IsOther (-r₀))
    (h : (if r₀ < 0 ∧ ¬ again (-r₀) then some (failure, events₀, k₀) else some (0, events₀, k₀)) =
      some (r, events', k')) :
    k₀ = k' ∧ (r = 0 → ¬ readable k') := by
  split at h
  next hneg =>
    cases h
    exact ⟨rfl, fun hzero => absurd hzero (hfailure hneg.1)⟩
  next hok =>
    cases h
    obtain ⟨-, hnot⟩ | ⟨-, hnot⟩ | hfailed := hcases
    · exact ⟨rfl, fun _ => hnot⟩
    · exact ⟨rfl, fun _ => hnot⟩
    · have hpos := hfailed.1
      exact absurd ⟨by omega, hother _ hfailed⟩ hok

lemma errnoIsEagain_socketAgain : errnoIsEagain names names.socketAgain := names.socketAgain_eq

lemma not_errnoIsEagain_of_isOther {e : ℤ} (h : names.IsOther e) : ¬ errnoIsEagain names e :=
  fun hagain => hagain.elim h.2.2.1 h.2.2.2

/-- An alert keeps what is set up, and what is readable; one that returns 0 leaves a readable
descriptor; and it returns 0 unless the kernel lets a call fail. -/
lemma Armed.alert (hk : Armed names socks k)
    (h : alert names socks events k = some (r, events', k')) :
    Armed names socks k' ∧ (Readable socks.readFd k → Readable socks.readFd k') ∧
      (r = 0 → Readable socks.readFd k') ∧ (r = 0 ∨ ∃ event ∈ events, event.Fails) := by
  cases hk with
  | eventfd object hfns hfds hcounts =>
      rw [AlertSockets.alert, hfns.1, hfds] at h
      obtain ⟨⟨r₀, events₀, k₀⟩, hwrite, hrest⟩ := Option.bind_eq_some_iff.mp h
      obtain ⟨hcounts', hkept, hcases⟩ := Counts.rings.again_spec eagain_ne_eintr hcounts hwrite
      obtain ⟨rfl, hresult⟩ := alert_result (· = names.eagain) rfl
        (fun e he => he.2.2.1) (fun _ => by decide) hcases hrest
      exact ⟨.eventfd object hfns hfds hcounts', hkept, hresult⟩
  | pipe queue hfns hstreams =>
      rw [AlertSockets.alert, hfns.1] at h
      obtain ⟨⟨r₀, events₀, k₀⟩, hwrite, hrest⟩ := Option.bind_eq_some_iff.mp h
      obtain ⟨hstreams', hkept, hcases⟩ := Streams.rings.again_spec eagain_ne_eintr hstreams hwrite
      obtain ⟨rfl, hresult⟩ := alert_result (· = names.eagain) rfl
        (fun e he => he.2.2.1) Int.ne_of_lt hcases hrest
      exact ⟨.pipe queue hfns hstreams', hkept, hresult⟩
  | sock queue hfns hstreams =>
      rw [AlertSockets.alert, hfns.1] at h
      obtain ⟨⟨r₀, events₀, k₀⟩, hwrite, hrest⟩ := Option.bind_eq_some_iff.mp h
      obtain ⟨hstreams', hkept, hcases⟩ :=
        Streams.rings.again_spec socketAgain_ne_eintr hstreams hwrite
      obtain ⟨rfl, hresult⟩ := alert_result (errnoIsEagain names)
        errnoIsEagain_socketAgain (fun e he => not_errnoIsEagain_of_isOther he)
        Int.ne_of_lt hcases hrest
      exact ⟨.sock queue hfns hstreams', hkept, hresult⟩

/-- **An alert that is interrupted any number of times and then carried out returns 0**, whether or
not the object is full, and leaves a readable descriptor. -/
lemma Armed.alert_eq (hk : Armed names socks k) (interrupts n : ℕ)
    (rest : List (KernelEvent names)) :
    ∃ k', AlertSockets.alert names socks
        (List.replicate interrupts .interrupt ++ .proceed n :: rest) k = some (0, rest, k') ∧
      Readable socks.readFd k' := by
  cases hk with
  | eventfd object hfns hfds hcounts =>
      obtain ⟨r, k', hwrite, hready, hr⟩ := Counts.ringsAtOnce.again_eq (fun _ _ hk => hk)
        eagain_ne_eintr hcounts interrupts n rest
      refine ⟨k', ?_, hready⟩
      rw [AlertSockets.alert, hfns.1, hfds]
      refine Option.bind_eq_some_iff.mpr ⟨_, hwrite, if_neg fun h => ?_⟩
      omega
  | pipe queue hfns hstreams =>
      obtain ⟨r, k', hwrite, hready, hr⟩ := Streams.ringsAtOnce.again_eq
        (fun _ _ hk => hk.setErrno _) eagain_ne_eintr hstreams interrupts n rest
      refine ⟨k', ?_, hready⟩
      rw [AlertSockets.alert, hfns.1]
      refine Option.bind_eq_some_iff.mpr ⟨_, hwrite, if_neg fun h => ?_⟩
      omega
  | sock queue hfns hstreams =>
      obtain ⟨r, k', hwrite, hready, hr⟩ := Streams.ringsAtOnce.again_eq
        (fun _ _ hk => hk.setErrno _) socketAgain_ne_eintr hstreams interrupts n rest
      refine ⟨k', ?_, hready⟩
      rw [AlertSockets.alert, hfns.1]
      refine Option.bind_eq_some_iff.mpr ⟨_, hwrite, if_neg fun h => ?_⟩
      rcases hr with hpos | rfl
      · exact absurd h.1 (Int.not_lt.mpr (Int.le_of_lt hpos))
      · exact h.2 (by rw [Int.neg_neg]; exact errnoIsEagain_socketAgain)

/-- A drain keeps what is set up, and one that returns 0 leaves a descriptor that is not
readable. -/
lemma Armed.drain (hk : Armed names socks k)
    (h : drain names socks events k = some (r, events', k')) :
    Armed names socks k' ∧ (r = 0 → ¬ Readable socks.readFd k') := by
  cases hk with
  | eventfd object hfns hfds hcounts =>
      rw [AlertSockets.drain, hfns.2] at h
      obtain ⟨⟨r₀, events₀, k₀⟩, hread, hrest⟩ := Option.bind_eq_some_iff.mp h
      obtain ⟨hcounts', hcases⟩ := Counts.empties.again_spec eagain_ne_eintr hcounts hread
      have hcases' : 0 < r₀ ∧ ¬ Readable socks.readFd k₀ ∨
          r₀ = -names.eagain ∧ ¬ Readable socks.readFd k₀ ∨ names.IsOther (-r₀) :=
        hcases.imp (fun hdone => ⟨hdone.1, hdone.2 trivial⟩) And.right
      obtain ⟨rfl, hresult⟩ := drain_result (· = names.eagain)
        (fun e he => he.2.2.1) Int.ne_of_lt hcases' hrest
      exact ⟨.eventfd object hfns hfds hcounts', hresult⟩
  | pipe queue hfns hstreams =>
      rw [AlertSockets.drain, hfns.2] at h
      obtain ⟨⟨r₀, events₀, k₀⟩, hread, hrest⟩ := Option.bind_eq_some_iff.mp h
      obtain ⟨hstreams', herrno, hcases⟩ :=
        (Streams.empties (by decide)).drainLoop_spec eagain_ne_eintr hstreams hread
      -- `pipe_drain` looks at `errno`, which the last read has left
      have hsame : k₀.errno = -r₀ := by omega
      simp only [hsame, Int.neg_neg] at hrest
      obtain ⟨rfl, hresult⟩ := drain_result (· = names.eagain)
        (fun e he => he.2.2.1) Int.ne_of_lt (.inr hcases) hrest
      exact ⟨.pipe queue hfns hstreams', hresult⟩
  | sock queue hfns hstreams =>
      rw [AlertSockets.drain, hfns.2] at h
      obtain ⟨⟨r₀, events₀, k₀⟩, hread, hrest⟩ := Option.bind_eq_some_iff.mp h
      obtain ⟨hstreams', -, hcases⟩ :=
        (Streams.empties (by decide)).drainLoop_spec socketAgain_ne_eintr hstreams hread
      obtain ⟨rfl, hresult⟩ := drain_result (errnoIsEagain names)
        (fun e he => not_errnoIsEagain_of_isOther he)
        Int.ne_of_lt (.inr hcases) hrest
      exact ⟨.sock queue hfns hstreams', hresult⟩

/-! ## Creating -/

variable {config : AlertConfig} {setup : Setup} {flags : UInt32}

/-- Descriptors that are made non-blocking name what they named. -/
lemma files_setFiles (change : OpenFile → OpenFile)
    (hchange : ∀ file, (change file).kind = file.kind ∧ (change file).nonblocking = true)
    (fds : List ℤ) {fd : ℤ} {file : OpenFile} (hfile : k.files fd = some file) :
    ∃ file', (setFiles fds change k).files fd = some file' ∧ file'.kind = file.kind ∧
      (fd ∈ fds ∨ file.nonblocking = true → file'.nonblocking = true) := by
  induction fds generalizing k file with
  | nil => exact ⟨file, hfile, rfl, fun h => h.resolve_left List.not_mem_nil⟩
  | cons other fds ih =>
      rcases eq_or_ne fd other with rfl | hne
      · have hset : (setFile fd change k).files fd = some (change file) :=
          (Function.update_self ..).trans (congrArg (Option.map change) hfile)
        obtain ⟨file', hfile', hkind, hnonblocking⟩ := ih hset
        exact ⟨file', hfile', hkind.trans (hchange file).1,
          fun _ => hnonblocking (.inr (hchange file).2)⟩
      · have hset : (setFile other change k).files fd = some file :=
          (Function.update_of_ne hne _ _).trans hfile
        obtain ⟨file', hfile', hkind, hnonblocking⟩ := ih hset
        refine ⟨file', hfile', hkind, fun h => hnonblocking (h.imp_left fun hmem => ?_)⟩
        exact (List.mem_cons.mp hmem).resolve_left hne

lemma queues_setFiles {change : OpenFile → OpenFile} (fds : List ℤ) :
    (setFiles fds change k).queues = k.queues := by
  induction fds generalizing k with
  | nil => rfl
  | cons fd fds ih => exact ih

lemma armed_of_newEventfd {fd : ℤ} {file : OpenFile} {object : ℕ} (hfile : k.files fd = some file)
    (hnonblocking : file.nonblocking = true) (hkind : file.kind = .eventfd object) :
    Armed names ⟨fd, fd, .eventfdAlert, .eventfdDrain⟩ k :=
  .eventfd object ⟨rfl, rfl⟩ rfl ⟨file, hfile, hnonblocking, hkind⟩

lemma files_newEventfd (nonblocking closeOnExec : Bool) (k : Kernel) :
    (newEventfd nonblocking closeOnExec k).2.files (newEventfd nonblocking closeOnExec k).1 =
      some ⟨.eventfd k.nextObject, nonblocking, closeOnExec⟩ :=
  Function.update_self ..

lemma armed_of_tryEventfd (h : tryEventfd config setup flags k = .error (r, some socks, k')) :
    Armed names socks k' := by
  rw [tryEventfd] at h
  split at h
  next =>
    split at h
    next =>
      cases h
      exact armed_of_newEventfd (files_newEventfd true true k) rfl rfl
    next =>
      split at h
      next =>
        simp only [prepare] at h
        split at h
        next => cases h
        next k₁ hprepared =>
          cases h
          split at hprepared
          next =>
            obtain rfl := Option.some.inj hprepared
            obtain ⟨file, hfile, hkind, hnonblocking⟩ := files_setFiles
              (fun file => { file with closeOnExec := true, nonblocking := true })
              (fun _ => ⟨rfl, rfl⟩) [(newEventfd false false k).1]
              (files_newEventfd false false k)
            exact armed_of_newEventfd hfile (hnonblocking (.inl List.mem_cons_self)) hkind
          next => cases hprepared
      next => cases h
  next => cases h

lemma files_newPipe (setup : Setup) (k : Kernel) (nonblocking closeOnExec : Bool) :
    let made := newPipe setup nonblocking closeOnExec k
    made.2.files made.1.1 = some ⟨.pipeRead k.nextObject, nonblocking, closeOnExec⟩ ∧
      made.2.files made.1.2 = some ⟨.pipeWrite k.nextObject, nonblocking, closeOnExec⟩ ∧
      made.2.queues k.nextObject = ⟨[], setup.capacity, false⟩ := by
  intro made
  obtain ⟨-, hread, hwrite, -⟩ := openFile_twice ⟨.pipeRead k.nextObject, nonblocking, closeOnExec⟩
    ⟨.pipeWrite k.nextObject, nonblocking, closeOnExec⟩ k
  exact ⟨hread, hwrite, Function.update_self ..⟩

lemma files_newSocketpair (setup : Setup) (k : Kernel) (closeOnExec : Bool) :
    let made := newSocketpair setup closeOnExec k
    made.2.files made.1.1 =
        some ⟨.socket k.nextObject (k.nextObject + 1), false, closeOnExec⟩ ∧
      made.2.files made.1.2 =
        some ⟨.socket (k.nextObject + 1) k.nextObject, false, closeOnExec⟩ ∧
      made.2.queues k.nextObject = ⟨[], setup.capacity, false⟩ := by
  intro made
  have hqueue : k.nextObject ≠ k.nextObject + 1 := by omega
  obtain ⟨-, hread, hwrite, -⟩ := openFile_twice
    ⟨.socket k.nextObject (k.nextObject + 1), false, closeOnExec⟩
    ⟨.socket (k.nextObject + 1) k.nextObject, false, closeOnExec⟩ k
  exact ⟨hread, hwrite, (Function.update_of_ne hqueue _ _).trans (Function.update_self ..)⟩

/-- Two ends of a new queue that have been made non-blocking. -/
lemma streams_setFiles {change : OpenFile → OpenFile} {readFd writeFd : ℤ} {queue : ℕ}
    {fileRead fileWrite : OpenFile}
    (hchange : ∀ file, (change file).kind = file.kind ∧ (change file).nonblocking = true)
    (hread : k.files readFd = some fileRead) (hwrite : k.files writeFd = some fileWrite)
    (hreceives : receives fileRead.kind = some queue ∧ notReady names fileRead.kind = error)
    (hsends : sends fileWrite.kind = some queue ∧ notReady names fileWrite.kind = error)
    (hqueue : k.queues queue = ⟨[], setup.capacity, false⟩) :
    Streams names readFd writeFd queue error (setFiles [readFd, writeFd] change k) := by
  obtain ⟨file, hfile, hkind, hnonblocking⟩ := files_setFiles change hchange [readFd, writeFd] hread
  obtain ⟨file', hfile', hkind', hnonblocking'⟩ :=
    files_setFiles change hchange [readFd, writeFd] hwrite
  refine ⟨⟨file, hfile, hnonblocking (.inl (by simp)), hkind ▸ hreceives⟩,
    ⟨file', hfile', hnonblocking' (.inl (by simp)), hkind' ▸ hsends⟩, ?_, ?_⟩
  · rw [queues_setFiles, hqueue]
    exact setup.capacity_pos
  · rw [queues_setFiles, hqueue]

lemma armed_of_tryPipe2 (h : tryPipe2 config setup flags k = .error (r, some socks, k')) :
    Armed names socks k' := by
  rw [tryPipe2] at h
  split at h
  next =>
    cases h
    obtain ⟨hread, hwrite, hqueue⟩ := files_newPipe setup k true true
    refine .pipe k.nextObject ⟨rfl, rfl⟩
      ⟨⟨_, hread, rfl, rfl, rfl⟩, ⟨_, hwrite, rfl, rfl, rfl⟩, ?_, ?_⟩
    · exact Nat.lt_of_lt_of_eq setup.capacity_pos (congrArg ByteQueue.capacity hqueue).symm
    · exact congrArg ByteQueue.hungUp hqueue
  next => cases h

lemma armed_of_tryPipe (h : tryPipe config setup flags k = .error (r, some socks, k')) :
    Armed names socks k' := by
  rw [tryPipe] at h
  split at h
  next =>
    simp only [prepare] at h
    split at h
    next => cases h
    next k₁ hprepared =>
      cases h
      split at hprepared
      next =>
        obtain rfl := Option.some.inj hprepared
        obtain ⟨hread, hwrite, hqueue⟩ := files_newPipe setup k false false
        exact .pipe k.nextObject ⟨rfl, rfl⟩ (streams_setFiles (fun _ => ⟨rfl, rfl⟩) hread hwrite
          ⟨rfl, rfl⟩ ⟨rfl, rfl⟩ hqueue)
      next => cases hprepared
  next => cases h

lemma armed_of_trySocketpair
    (h : trySocketpair config setup flags k = .error (r, some socks, k')) :
    Armed names socks k' := by
  rw [trySocketpair] at h
  split at h
  next =>
    simp only at h
    split at h
    next =>
      cases h
      obtain ⟨hread, hwrite, hqueue⟩ := files_newSocketpair setup k config.socketpairCloseOnExec
      exact .sock k.nextObject ⟨rfl, rfl⟩ (streams_setFiles (fun _ => ⟨rfl, rfl⟩) hread hwrite
        ⟨rfl, rfl⟩ ⟨rfl, rfl⟩ hqueue)
    next => cases h
  next => cases h

lemma armed_of_create (h : alertSocketsCreate config setup flags k = (r, some socks, k')) :
    Armed names socks k' := by
  rw [alertSocketsCreate] at h
  cases heventfd : tryEventfd config setup flags k with
  | error created =>
      rw [heventfd] at h
      exact armed_of_tryEventfd (heventfd.trans (congrArg _ h))
  | ok k₁ =>
      rw [heventfd] at h
      cases hpipe2 : tryPipe2 config setup flags k₁ with
      | error created =>
          simp only [bind, Except.bind, hpipe2] at h
          exact armed_of_tryPipe2 (hpipe2.trans (congrArg _ h))
      | ok k₂ =>
          cases hpipe : tryPipe config setup flags k₂ with
          | error created =>
              simp only [bind, Except.bind, hpipe2, hpipe] at h
              exact armed_of_tryPipe (hpipe.trans (congrArg _ h))
          | ok k₃ =>
              simp only [bind, Except.bind, hpipe2, hpipe] at h
              cases hsocketpair : trySocketpair config setup flags k₃ with
              | error created =>
                  rw [hsocketpair] at h
                  exact armed_of_trySocketpair (hsocketpair.trans (congrArg _ h))
              | ok k₄ =>
                  rw [hsocketpair] at h
                  cases h

/-! ## Runs -/

/-- An alert has returned 0 since the last drain. -/
def alertedSinceDrain (results : List (AlertCall × ℤ)) : Bool :=
  results.foldl (fun alerted result =>
    match result with
    | (.alert, r) => alerted || r == 0
    | (.drain, _) => false) false

/-- What holds after every complete call. -/
structure Kept (socks : AlertSockets) (run : AlertRun names) : Prop where
  armed : Armed names socks run.kernel
  alerted : alertedSinceDrain run.results → Readable socks.readFd run.kernel
  drained : run.results.getLast? = some (.drain, 0) → ¬ Readable socks.readFd run.kernel

lemma Armed.kept (h : Armed names socks k) : Kept socks ⟨[], events, k⟩ where
  armed := h
  alerted := fun halerted => absurd (show false = true from halerted) Bool.false_ne_true
  drained := fun hlast => absurd hlast (by simp)

lemma kept_step {run run' : AlertRun names} {call : AlertCall} (hkept : Kept socks run)
    (h : callStep names socks run call = some run') : Kept socks run' := by
  obtain ⟨⟨r, events, kernel⟩, hcall, hrun⟩ := Option.bind_eq_some_iff.mp h
  obtain rfl := Option.some.inj hrun
  cases call with
  | alert =>
      obtain ⟨harmed, hreadable, hzero, -⟩ := hkept.armed.alert hcall
      refine ⟨harmed, fun halerted => ?_, fun hlast => ?_⟩
      · rw [alertedSinceDrain, List.foldl_append] at halerted
        obtain hbefore | hnow := Bool.or_eq_true_iff.mp halerted
        · exact hreadable (hkept.alerted hbefore)
        · exact hzero (by simpa using hnow)
      · simp at hlast
  | drain =>
      obtain ⟨harmed, hzero⟩ := hkept.armed.drain hcall
      refine ⟨harmed, fun halerted => ?_, fun hlast => ?_⟩
      · rw [alertedSinceDrain, List.foldl_append] at halerted
        cases halerted
      · exact hzero (by simpa using hlast)

lemma kept_run {calls : List AlertCall} {run run' : AlertRun names} (hkept : Kept socks run)
    (h : calls.foldlM (callStep names socks) run = some run') : Kept socks run' := by
  induction calls generalizing run with
  | nil =>
      obtain rfl := Option.some.inj h
      exact hkept
  | cons call calls ih =>
      rw [List.foldlM_cons] at h
      obtain ⟨mid, hstep, hrest⟩ := Option.bind_eq_some_iff.mp h
      exact ih (kept_step hkept hstep) hrest

/-- However alert sockets have been created, after every sequence of complete calls: when an alert
has returned 0 since the last drain, the descriptor is readable; right after a drain that returns 0
it is not; an alert that is interrupted any number of times and then carried out returns 0, whether
or not the object is full; and an alert that the kernel lets not fail returns 0 and leaves the
descriptor readable. -/
theorem wakeUps_kept (names : Errnos) (config : AlertConfig) (setup : Setup) (flags : UInt32)
    (k k₁ : Kernel) (socks : AlertSockets)
    (hcreate : alertSocketsCreate config setup flags k = (0, some socks, k₁))
    (calls : List AlertCall) (events : List (KernelEvent names)) (run : AlertRun names)
    (hrun : calls.foldlM (callStep names socks) ⟨[], events, k₁⟩ = some run) :
    (alertedSinceDrain run.results → Readable socks.readFd run.kernel) ∧
      (run.results.getLast? = some (.drain, 0) → ¬ Readable socks.readFd run.kernel) ∧
      (∀ interrupts n rest, ∃ k',
        alert names socks (List.replicate interrupts .interrupt ++ .proceed n :: rest) run.kernel =
            some (0, rest, k') ∧ Readable socks.readFd k') ∧
      ∀ events r events' k', alert names socks events run.kernel = some (r, events', k') →
        (∀ event ∈ events, ¬ event.Fails) → r = 0 ∧ Readable socks.readFd k' := by
  have hkept : Kept socks run := kept_run (armed_of_create hcreate).kept hrun
  refine ⟨hkept.alerted, hkept.drained, hkept.armed.alert_eq,
    fun events r events' k' halert hfails => ?_⟩
  obtain ⟨-, -, hzero, hr⟩ := hkept.armed.alert halert
  have hreturned : r = 0 := hr.resolve_right fun ⟨event, hmem, hfail⟩ => hfails event hmem hfail
  exact ⟨hreturned, hzero hreturned⟩

/-! ## Small objects -/

/-- The errors of Linux. -/
def linuxErrnos : Errnos where
  eintr := 4
  eagain := 11
  ewouldblock := 11
  einval := 22
  ebadf := 9
  socketAgain := 11
  eintr_pos := by decide
  eagain_pos := by decide
  ewouldblock_pos := by decide
  eintr_ne_eagain := by decide
  eintr_ne_ewouldblock := by decide
  socketAgain_eq := .inl rfl

def onlyPipes : AlertConfig := ⟨false, false, false, true, true, 1, 2, 4, 8, 16⟩

def oneByte : Setup := ⟨true, true, true, true, true, fun _ => true, fun _ => true, 1, by decide⟩

/-- A process with its three standard streams. -/
def standardFiles : Kernel where
  files fd :=
    if fd = 0 then some ⟨.pipeRead 0, false, false⟩
    else if fd = 1 ∨ fd = 2 then some ⟨.pipeWrite 1, false, false⟩
    else none
  fdBound := 3
  files_of_le fd hle := by
    rw [if_neg (by omega), if_neg (by omega)]
  counters _ := 0
  queues _ := ⟨[], 1, false⟩
  nextObject := 2
  errno := 0

/-- Two alerts, a drain and an alert. -/
def fourCalls : List AlertCall := [.alert, .alert, .drain, .alert]

def fourCallsEvents : List (KernelEvent linuxErrnos) :=
  [.interrupt, .proceed 0, .proceed 0, .proceed 0, .interrupt, .proceed 0, .proceed 0]

/-- The results of the four calls with a back end, and of one more alert that is interrupted. -/
def FourCallsKept (config : AlertConfig) (flags : UInt32) (alertFn : AlertFn) : Prop :=
  ∃ socks k₁ run k₂,
    alertSocketsCreate config oneByte flags standardFiles = (0, some socks, k₁) ∧
      socks.alertFn = alertFn ∧
      fourCalls.foldlM (callStep linuxErrnos socks) ⟨[], fourCallsEvents, k₁⟩ = some run ∧
      run.results = [(.alert, 0), (.alert, 0), (.drain, 0), (.alert, 0)] ∧
      Readable socks.readFd run.kernel ∧
      alert linuxErrnos socks [.interrupt, .interrupt, .proceed 0] run.kernel = some (0, [], k₂)

/-- The second alert finds the pipe or the socket full; the eventfd counts it.  So does a further
alert. -/
theorem wakeUps_kept_fourCalls :
    FourCallsKept onlyPipes 0 .pipeAlert ∧ FourCallsKept onlyPipes 8 .sockAlert ∧
      FourCallsKept { onlyPipes with haveEventfd := true } 0 .eventfdAlert := by
  refine ⟨?_, ?_, ?_⟩
  · have hkept := wakeUps_kept linuxErrnos onlyPipes oneByte 0 standardFiles _ _ rfl fourCalls
      fourCallsEvents _ rfl
    obtain ⟨k₂, halert, -⟩ := hkept.2.2.1 2 0 []
    exact ⟨_, _, _, k₂, rfl, rfl, rfl, rfl, hkept.1 rfl, halert⟩
  · have hkept := wakeUps_kept linuxErrnos onlyPipes oneByte 8 standardFiles _ _ rfl fourCalls
      fourCallsEvents _ rfl
    obtain ⟨k₂, halert, -⟩ := hkept.2.2.1 2 0 []
    exact ⟨_, _, _, k₂, rfl, rfl, rfl, rfl, hkept.1 rfl, halert⟩
  · have hkept := wakeUps_kept linuxErrnos { onlyPipes with haveEventfd := true } oneByte 0
      standardFiles _ _ rfl fourCalls fourCallsEvents _ rfl
    obtain ⟨k₂, halert, -⟩ := hkept.2.2.1 2 0 []
    exact ⟨_, _, _, k₂, rfl, rfl, rfl, rfl, hkept.1 rfl, halert⟩

end AlertSockets

end TorOnion
