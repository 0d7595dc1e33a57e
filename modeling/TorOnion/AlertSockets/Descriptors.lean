import TorOnion.AlertSockets.Touches

/-!
# The descriptors of alert sockets

`alert_sockets_create` stores the descriptors that it has opened, or has closed what it opened and
fails (`ends_create`); `alert_sockets_close` closes them, each once.  An alert or a drain touches
what its own descriptors name.  So whoever holds other alert sockets notices nothing
(`Unnoticed`).
-/

namespace TorOnion

namespace AlertSockets

open Kernel

variable {names : Errnos} {config : AlertConfig} {setup : Setup} {flags : UInt32}
  {socks : AlertSockets} {k k' : Kernel} {cloexec : Prop}

/-! ## Creating and closing -/

/-- The descriptors of alert sockets. -/
def fds (socks : AlertSockets) : List ℤ :=
  if socks.writeFd = socks.readFd then [socks.readFd] else [socks.readFd, socks.writeFd]

/-- `alert_sockets_close`. -/
def alertSocketsClose (socks : AlertSockets) (k : Kernel) : AlertSockets × Kernel :=
  let k :=
    if socks.alertFn = .sockAlert then close socks.writeFd (close socks.readFd k)
    else
      let k := close socks.readFd k
      if socks.writeFd ≠ socks.readFd then close socks.writeFd k else k
  ({ socks with readFd := -1, writeFd := -1 }, k)

/-- What `alert_sockets_create` makes: non-blocking descriptors that are closed on `exec`, where
something is known of those that `tor_socketpair` makes; sockets come in pairs. -/
structure Made (cloexec : Prop) (socks : AlertSockets) (k : Kernel) : Prop where
  pair : socks.alertFn = .sockAlert → socks.writeFd ≠ socks.readFd
  flags : ∀ fd ∈ socks.fds, ∃ file, k.files fd = some file ∧ file.nonblocking = true ∧
    (cloexec → file.closeOnExec = true)

/-- What `alert_sockets_create` comes to: nothing stays open, or the descriptors it stores. -/
def Ends (cloexec : Prop) (k : Kernel) : Created → Prop
  | (r, none, k') => r = -1 ∧ Grows [] k k'
  | (r, some socks, k') => r = 0 ∧ Grows socks.fds k k' ∧ socks.Made cloexec k'

lemma fds_nodup (socks : AlertSockets) : socks.fds.Nodup := by
  unfold fds
  split_ifs with h
  · exact List.nodup_singleton _
  · simpa using fun heq => h heq.symm

lemma readFd_mem_fds (socks : AlertSockets) : socks.readFd ∈ socks.fds := by
  unfold fds
  split_ifs <;> exact List.mem_cons_self

lemma writeFd_mem_fds (socks : AlertSockets) : socks.writeFd ∈ socks.fds := by
  unfold fds
  split_ifs with h
  · exact List.mem_singleton.mpr h
  · exact List.mem_cons_of_mem _ List.mem_cons_self

/-- Closing closes each descriptor once. -/
lemma kernel_alertSocketsClose (h : socks.Made cloexec k) :
    (alertSocketsClose socks k').2 = socks.fds.foldl (fun k fd => close fd k) k' := by
  unfold alertSocketsClose fds
  by_cases heq : socks.writeFd = socks.readFd
  · have hsock : socks.alertFn ≠ .sockAlert := fun hsock => h.pair hsock heq
    simp [hsock, heq]
  · simp [heq]

lemma files_setFiles_of_mem {change : OpenFile → OpenFile} {fds : List ℤ} {fd : ℤ}
    (hnodup : fds.Nodup) (hfd : fd ∈ fds) :
    (setFiles fds change k).files fd = (k.files fd).map change := by
  have hother : ∀ (fds : List ℤ) (k : Kernel), fd ∉ fds →
      (setFiles fds change k).files fd = k.files fd := by
    intro fds
    induction fds with
    | nil => exact fun _ _ => rfl
    | cons other fds ih =>
        intro k hnot
        rw [List.mem_cons, not_or] at hnot
        exact (ih _ hnot.2).trans (Function.update_of_ne hnot.1 _ _)
  induction fds generalizing k with
  | nil => cases hfd
  | cons other fds ih =>
      obtain ⟨hnot, hnodup⟩ := List.nodup_cons.mp hnodup
      rcases List.mem_cons.mp hfd with rfl | hfd
      · exact (hother fds _ hnot).trans (Function.update_self ..)
      · refine (ih hnodup hfd).trans ?_
        have hne : fd ≠ other := fun heq => hnot (heq ▸ hfd)
        exact congrArg _ (Function.update_of_ne hne _ _)

/-- What `prepare` does to a descriptor. -/
def prepared (file : OpenFile) : OpenFile := { file with closeOnExec := true, nonblocking := true }

lemma prepare_eq {fds : List ℤ} (h : prepare setup fds k = some k') :
    k' = setFiles fds prepared k := by
  unfold prepare at h
  split_ifs at h
  exact (Option.some.inj h).symm

lemma ends_tryEventfd {created : Created}
    (h : tryEventfd config setup flags k = .error created) : Ends cloexec k created := by
  have hmade : ∀ {fd : ℤ} {k' : Kernel}, Grows [fd] k k' →
      (∃ file, k'.files fd = some file ∧ file.nonblocking = true ∧ file.closeOnExec = true) →
      Ends cloexec k (0, some ⟨fd, fd, .eventfdAlert, .eventfdDrain⟩, k') := by
    intro fd k' hgrows ⟨file, hfile, hnonblocking, hcloses⟩
    have hfds : fds ⟨fd, fd, .eventfdAlert, .eventfdDrain⟩ = [fd] := if_pos rfl
    refine ⟨rfl, hfds ▸ hgrows, nofun, fun fd' hfd' => ?_⟩
    rw [hfds] at hfd'
    obtain rfl := List.mem_singleton.mp hfd'
    exact ⟨file, hfile, hnonblocking, fun _ => hcloses⟩
  rw [tryEventfd] at h
  split at h
  next =>
    split at h
    next =>
      cases h
      exact hmade (grows_newEventfd true true) ⟨_, files_newEventfd true true k, rfl, rfl⟩
    next =>
      split at h
      next =>
        simp only at h
        have hgrows := grows_newEventfd (k := k) false false
        split at h
        next =>
          cases h
          have hclosed := hgrows.close List.mem_cons_self
          rw [List.filter_cons_of_neg (by simp), List.filter_nil] at hclosed
          exact ⟨rfl, hclosed⟩
        next k₁ hprepared =>
          cases h
          obtain rfl := prepare_eq hprepared
          have hset : (setFiles [(newEventfd false false k).1] prepared
              (newEventfd false false k).2).files (newEventfd false false k).1 =
                some (prepared ⟨.eventfd k.nextObject, false, false⟩) := by
            rw [files_setFiles_of_mem (List.nodup_singleton _) List.mem_cons_self,
              files_newEventfd, Option.map_some]
          refine hmade (hgrows.setFiles ?_ _ fun _ hfd => hfd) ⟨_, hset, rfl, rfl⟩
          exact fun _ => rfl
      next => cases h
  next => cases h

/-- Two ends that are new. -/
lemma ends_pair {a b : ℤ} {alertFn : AlertFn} {drainFn : DrainFn} (hne : a ≠ b)
    (hgrows : Grows [a, b] k k')
    (hflags : ∀ fd ∈ [a, b], ∃ file, k'.files fd = some file ∧
      file.nonblocking = true ∧ (cloexec → file.closeOnExec = true)) :
    Ends cloexec k (0, some ⟨a, b, alertFn, drainFn⟩, k') := by
  have hfds : fds ⟨a, b, alertFn, drainFn⟩ = [a, b] := if_neg hne.symm
  exact ⟨rfl, hfds ▸ hgrows, fun _ => hne.symm, hfds ▸ hflags⟩

/-- Two ends that are new and are closed again. -/
lemma ends_closed {a b : ℤ} (hne : a ≠ b) (hgrows : Grows [a, b] k k') :
    Ends cloexec k (-1, none, close b (close a k')) := by
  have hfirst := hgrows.close List.mem_cons_self
  rw [List.filter_cons_of_neg (by simp), List.filter_cons_of_pos (by simpa using hne.symm),
    List.filter_nil] at hfirst
  have hsecond := hfirst.close List.mem_cons_self
  rw [List.filter_cons_of_neg (by simp), List.filter_nil] at hsecond
  exact ⟨rfl, hsecond⟩

/-- The flags of two ends that are changed. -/
lemma flags_setFiles {change : OpenFile → OpenFile} {a b : ℤ} {file file' : OpenFile}
    (hne : a ≠ b) (ha : k.files a = some file) (hb : k.files b = some file')
    (hchange : ∀ f ∈ [file, file'],
      (change f).nonblocking = true ∧ (cloexec → (change f).closeOnExec = true)) :
    ∀ fd ∈ [a, b], ∃ f, (setFiles [a, b] change k).files fd = some f ∧ f.nonblocking = true ∧
      (cloexec → f.closeOnExec = true) := by
  have hnodup : [a, b].Nodup := by simpa using hne
  intro fd hfd
  rw [files_setFiles_of_mem hnodup hfd]
  simp only [List.mem_cons, List.not_mem_nil, or_false] at hfd
  rcases hfd with rfl | rfl
  · rw [ha]
    exact ⟨_, rfl, hchange file List.mem_cons_self⟩
  · rw [hb]
    exact ⟨_, rfl, hchange file' (List.mem_cons_of_mem _ List.mem_cons_self)⟩

/-- The two ends of a pipe have different descriptors. -/
lemma fds_newPipe_ne (setup : Setup) (k : Kernel) (nonblocking closeOnExec : Bool) :
    (newPipe setup nonblocking closeOnExec k).1.1 ≠ (newPipe setup nonblocking closeOnExec k).1.2 :=
  (openFile_twice ⟨.pipeRead k.nextObject, nonblocking, closeOnExec⟩
    ⟨.pipeWrite k.nextObject, nonblocking, closeOnExec⟩ k).1.1

lemma ends_tryPipe2 {created : Created} (h : tryPipe2 config setup flags k = .error created) :
    Ends cloexec k created := by
  rw [tryPipe2] at h
  split at h
  next =>
    cases h
    obtain ⟨hread, hwrite, -⟩ := files_newPipe setup k true true
    refine ends_pair (fds_newPipe_ne setup k true true) (grows_newPipe setup true true)
      fun fd hfd => ?_
    simp only [List.mem_cons, List.not_mem_nil, or_false] at hfd
    rcases hfd with rfl | rfl
    · exact ⟨_, hread, rfl, fun _ => rfl⟩
    · exact ⟨_, hwrite, rfl, fun _ => rfl⟩
  next => cases h

lemma ends_tryPipe {created : Created}
    (h : tryPipe config setup flags k = .error created) : Ends cloexec k created := by
  rw [tryPipe] at h
  split at h
  next =>
    simp only at h
    have hgrows := grows_newPipe (k := k) setup false false
    have hne := fds_newPipe_ne setup k false false
    obtain ⟨hread, hwrite, -⟩ := files_newPipe setup k false false
    split at h
    next =>
      cases h
      exact ends_closed hne hgrows
    next k₁ hprepared =>
      cases h
      obtain rfl := prepare_eq hprepared
      refine ends_pair hne (hgrows.setFiles ?_ _ fun _ hfd => hfd) ?_
      · exact fun _ => rfl
      · exact flags_setFiles hne hread hwrite fun _ _ => ⟨rfl, fun _ => rfl⟩
  next => cases h

lemma ends_trySocketpair (hcloexec : cloexec → config.socketpairCloseOnExec = true)
    {created : Created} (h : trySocketpair config setup flags k = .error created) :
    Ends cloexec k created := by
  rw [trySocketpair] at h
  split at h
  next =>
    simp only at h
    have hgrows := grows_newSocketpair (k := k) setup config.socketpairCloseOnExec
    have hne := (openFile_twice
      ⟨.socket k.nextObject (k.nextObject + 1), false, config.socketpairCloseOnExec⟩
      ⟨.socket (k.nextObject + 1) k.nextObject, false, config.socketpairCloseOnExec⟩ k).1.1
    obtain ⟨hread, hwrite, -⟩ := files_newSocketpair setup k config.socketpairCloseOnExec
    split at h
    next =>
      cases h
      refine ends_pair hne (hgrows.setFiles ?_ _ fun _ hfd => hfd) ?_
      · exact fun _ => rfl
      · refine flags_setFiles hne hread hwrite fun file hfile => ⟨rfl, fun h => ?_⟩
        -- the flag is the one that `tor_socketpair` has set
        simp only [List.mem_cons, List.not_mem_nil, or_false] at hfile
        rcases hfile with rfl | rfl <;> exact hcloexec h
    next =>
      cases h
      exact ends_closed hne hgrows
  next => cases h

/-- An attempt that is passed over leaves the kernel as it was. -/
lemma ok_tryEventfd (h : tryEventfd config setup flags k = .ok k') : k' = k := by
  rw [tryEventfd] at h
  split_ifs at h
  · simp only at h
    split at h <;> cases h
  · exact (Except.ok.inj h).symm
  · exact (Except.ok.inj h).symm

lemma ok_tryPipe2 (h : tryPipe2 config setup flags k = .ok k') : k' = k := by
  rw [tryPipe2] at h
  split_ifs at h
  exact (Except.ok.inj h).symm

lemma ok_tryPipe (h : tryPipe config setup flags k = .ok k') : k' = k := by
  rw [tryPipe] at h
  split_ifs at h
  · simp only at h
    split at h <;> cases h
  · exact (Except.ok.inj h).symm

lemma ok_trySocketpair (h : trySocketpair config setup flags k = .ok k') : k' = k := by
  rw [trySocketpair] at h
  split_ifs at h
  · simp only at h
    split_ifs at h
  · exact (Except.ok.inj h).symm

/-- `alert_sockets_create` stores what it has opened, or fails and has closed it. -/
lemma ends_create (hcloexec : cloexec → config.socketpairCloseOnExec = true) :
    Ends cloexec k (alertSocketsCreate config setup flags k) := by
  rw [alertSocketsCreate]
  cases heventfd : tryEventfd config setup flags k with
  | error created => exact ends_tryEventfd heventfd
  | ok k₁ =>
      obtain rfl := ok_tryEventfd heventfd
      cases hpipe2 : tryPipe2 config setup flags k₁ with
      | error created =>
          simp only [bind, Except.bind, hpipe2]
          exact ends_tryPipe2 hpipe2
      | ok k₂ =>
          obtain rfl := ok_tryPipe2 hpipe2
          cases hpipe : tryPipe config setup flags k₂ with
          | error created =>
              simp only [bind, Except.bind, hpipe2, hpipe]
              exact ends_tryPipe hpipe
          | ok k₃ =>
              obtain rfl := ok_tryPipe hpipe
              cases hsocketpair : trySocketpair config setup flags k₃ with
              | error created =>
                  simp only [bind, Except.bind, hpipe2, hpipe, hsocketpair]
                  exact ends_trySocketpair hcloexec hsocketpair
              | ok k₄ =>
                  obtain rfl := ok_trySocketpair hsocketpair
                  simp only [bind, Except.bind, hpipe2, hpipe, hsocketpair]
                  exact ⟨rfl, .refl k₄⟩

/-! ## Alerting and draining -/

/-- The loop that repeats interrupted calls touches what the call does. -/
lemma touches_again {touched : List ℕ} {call : KernelEvent names → Kernel → Option (ℤ × Kernel)}
    (hcall : ∀ k₀, Touches touched k k₀ → ∀ event r k₁, call event k₀ = some (r, k₁) →
      Touches touched k₀ k₁) {events events' : List (KernelEvent names)} {r : ℤ}
    (h : again names call events k = some (r, events', k')) : Touches touched k k' := by
  refine again_spec (I := Touches touched k) (P := fun _ => Touches touched k)
    (fun event _ k₀ r k₁ hk₀ hstep => ?_) (.refl touched k) h
  have htouches := hk₀.trans (hcall k₀ hk₀ event r k₁ hstep)
  refine ⟨fun _ => htouches, fun _ => ?_⟩
  split_ifs
  · exact htouches
  · exact htouches

lemma touches_drainLoop {touched : List ℕ}
    {read : List (KernelEvent names) → Kernel → Option (Returned names)}
    (hread : ∀ k₀, Touches touched k k₀ → ∀ events r events' k₁,
      read events k₀ = some (r, events', k₁) → Touches touched k₀ k₁) {rounds : ℕ}
    {events events' : List (KernelEvent names)} {r : ℤ}
    (h : drainLoop names read rounds events k = some (r, events', k')) :
    Touches touched k k' := by
  refine drainLoop_spec (I := Touches touched k) (P := fun _ => Touches touched k)
    (fun events k₀ r events' k₁ hk₀ hstep => ?_) (.refl touched k) h
  have htouches := hk₀.trans (hread k₀ hk₀ events r events' k₁ hstep)
  split_ifs
  · exact htouches
  · exact htouches

/-- The objects that alert sockets name. -/
def objects (socks : AlertSockets) (k : Kernel) : List ℕ := socks.fds.flatMap k.objects

/-- An alert or a drain touches the objects of its alert sockets. -/
lemma touches_perform {call : AlertCall} {events events' : List (KernelEvent names)} {r : ℤ}
    (h : perform names socks call events k = some (r, events', k')) :
    Touches (socks.objects k) k k' := by
  have hsub : ∀ {fd}, fd ∈ socks.fds → ∀ {k₀ k₁}, Touches (socks.objects k) k k₀ →
      Touches (k₀.objects fd) k₀ k₁ → Touches (socks.objects k) k₀ k₁ := by
    intro fd hfd k₀ k₁ hk₀ h₁
    rw [hk₀.objects] at h₁
    have hmem : ∀ object, object ∉ socks.objects k → object ∉ k.objects fd :=
      fun object hobject hmem => hobject (List.mem_flatMap.mpr ⟨fd, hfd, hmem⟩)
    exact ⟨h₁.files, h₁.nextObject, fun object hobject =>
      h₁.counters object (hmem object hobject), fun object hobject =>
      h₁.queues object (hmem object hobject)⟩
  have hwrite : ∀ {buf : List UInt8} {events events' : List (KernelEvent names)} {r : ℤ}
      {k₁ : Kernel}, again names (write names socks.writeFd buf) events k = some (r, events', k₁) →
      Touches (socks.objects k) k k₁ := fun h₁ =>
    touches_again (fun k₀ hk₀ event r k₁ hstep =>
      hsub socks.writeFd_mem_fds hk₀ (touches_write hstep)) h₁
  have hread : ∀ {size : ℕ} {events events' : List (KernelEvent names)} {r : ℤ} {k₀ k₁ : Kernel},
      Touches (socks.objects k) k k₀ →
      again names (Kernel.read names socks.readFd size) events k₀ = some (r, events', k₁) →
      Touches (socks.objects k) k₀ k₁ := fun hk₀ h₁ =>
    touches_again (fun k₂ hk₂ event r k₃ hstep =>
      hsub socks.readFd_mem_fds (hk₀.trans hk₂) (touches_read hstep)) h₁
  have hloop : ∀ {size rounds : ℕ} {events events' : List (KernelEvent names)} {r : ℤ}
      {k₁ : Kernel}, drainLoop names (again names (Kernel.read names socks.readFd size)) rounds
        events k = some (r, events', k₁) → Touches (socks.objects k) k k₁ := fun h₁ =>
    touches_drainLoop (fun k₀ hk₀ events r events' k₁ hstep => hread hk₀ hstep) h₁
  cases call with
  | alert =>
      rw [perform, alert] at h
      cases hfn : socks.alertFn <;> rw [hfn] at h <;>
        obtain ⟨⟨r₀, events₀, k₀⟩, hcall, hrest⟩ := Option.bind_eq_some_iff.mp h <;>
        simp only at hrest <;> split_ifs at hrest <;> cases hrest <;> exact hwrite hcall
  | drain =>
      rw [perform, drain] at h
      cases hfn : socks.drainFn <;> rw [hfn] at h <;>
        obtain ⟨⟨r₀, events₀, k₀⟩, hcall, hrest⟩ := Option.bind_eq_some_iff.mp h <;>
        simp only at hrest <;> split_ifs at hrest <;> cases hrest <;>
        first | exact hread (.refl _ k) hcall | exact hloop hcall

/-! ## What is not noticed -/

/-- Nothing happens to the descriptors of alert sockets and to what they name. -/
structure Unnoticed (socks : AlertSockets) (k k' : Kernel) : Prop where
  files : ∀ fd ∈ socks.fds, k'.files fd = k.files fd
  counters : ∀ object ∈ socks.objects k, k'.counters object = k.counters object
  queues : ∀ object ∈ socks.objects k, k'.queues object = k.queues object

lemma mem_objects {fd : ℤ} (hfd : fd ∈ socks.fds) {file : OpenFile}
    (hfile : k.files fd = some file) {object : ℕ} (hobject : object ∈ file.kind.objects) :
    object ∈ socks.objects k := by
  refine List.mem_flatMap.mpr ⟨fd, hfd, ?_⟩
  rwa [Kernel.objects, hfile]

lemma Unnoticed.objects (h : socks.Unnoticed k k') : socks.objects k' = socks.objects k := by
  refine List.flatMap_congr fun fd hfd => ?_
  rw [Kernel.objects, h.files fd hfd, Kernel.objects]

lemma Unnoticed.made (h : socks.Unnoticed k k') (hmade : socks.Made cloexec k) :
    socks.Made cloexec k' :=
  ⟨hmade.pair, fun fd hfd => by rw [h.files fd hfd]; exact hmade.flags fd hfd⟩

lemma mem_objects_of_receives {file : OpenFile} {queue : ℕ}
    (h : receives file.kind = some queue) : queue ∈ file.kind.objects := by
  obtain ⟨kind, nonblocking, closeOnExec⟩ := file
  cases kind <;> cases h <;> exact List.mem_cons_self

lemma Unnoticed.streams (h : socks.Unnoticed k k') {queue : ℕ} {error : ℤ}
    (hstreams : Streams names socks.readFd socks.writeFd queue error k) :
    Streams names socks.readFd socks.writeFd queue error k' := by
  have hqueue : k'.queues queue = k.queues queue := by
    obtain ⟨file, hfile, -, hreceives, -⟩ := hstreams.reads
    exact h.queues queue (mem_objects socks.readFd_mem_fds hfile
      (mem_objects_of_receives hreceives))
  refine ⟨?_, ?_, ?_, ?_⟩
  · rw [h.files _ socks.readFd_mem_fds]
    exact hstreams.reads
  · rw [h.files _ socks.writeFd_mem_fds]
    exact hstreams.writes
  · rw [hqueue]
    exact hstreams.capacity
  · rw [hqueue]
    exact hstreams.connected

lemma Unnoticed.armed (h : socks.Unnoticed k k') (harmed : Armed names socks k) :
    Armed names socks k' := by
  cases harmed with
  | eventfd object hfns hfds hcounts =>
      obtain ⟨file, hfile, hflags⟩ := hcounts
      refine .eventfd object hfns hfds ⟨file, ?_, hflags⟩
      rw [h.files _ socks.readFd_mem_fds, hfile]
  | pipe queue hfns hstreams => exact .pipe queue hfns (h.streams hstreams)
  | sock queue hfns hstreams => exact .sock queue hfns (h.streams hstreams)

lemma Unnoticed.readable (h : socks.Unnoticed k k') :
    Readable socks.readFd k' ↔ Readable socks.readFd k := by
  have hfile := h.files _ socks.readFd_mem_fds
  cases hopen : k.files socks.readFd with
  | none =>
      rw [hopen] at hfile
      rw [Readable, hfile, Readable, hopen]
  | some file =>
      have hmem : ∀ object ∈ file.kind.objects, object ∈ socks.objects k :=
        fun object hobject => mem_objects socks.readFd_mem_fds hopen hobject
      rw [hopen] at hfile
      rw [Readable, hfile, Readable, hopen]
      obtain ⟨kind, nonblocking, closeOnExec⟩ := file
      cases kind with
      | eventfd object => simp only [h.counters object (hmem object List.mem_cons_self)]
      | pipeRead queue => simp only [h.queues queue (hmem queue List.mem_cons_self)]
      | pipeWrite queue => exact Iff.rfl
      | socket receives sends => simp only [h.queues receives (hmem receives List.mem_cons_self)]

lemma unnoticed_of_touches {touched : List ℕ} (h : Touches touched k k')
    (hdisjoint : (socks.objects k).Disjoint touched) : socks.Unnoticed k k' :=
  ⟨fun fd _ => by rw [h.files], fun _ hobject => h.counters _ fun hmem => hdisjoint hobject hmem,
    fun _ hobject => h.queues _ fun hmem => hdisjoint hobject hmem⟩

/-- What is opened is new, so what was open before does not notice. -/
lemma unnoticed_of_grows {new : List ℤ} (h : Grows new k k') (hk : k.Fresh)
    (hmade : socks.Made cloexec k) : socks.Unnoticed k k' := by
  have hold : ∀ object ∈ socks.objects k, object < k.nextObject := by
    intro object hobject
    obtain ⟨fd, -, hobject⟩ := List.mem_flatMap.mp hobject
    exact hk fd object hobject
  refine ⟨fun fd hfd => h.old fd fun hnew => ?_, fun object hobject => h.counters object
    (hold object hobject), fun object hobject => h.queues object (hold object hobject)⟩
  obtain ⟨file, hfile, -⟩ := hmade.flags fd hfd
  rw [(h.new fd hnew).1] at hfile
  cases hfile

/-- Descriptors that are closed are not noticed by who has others that name other objects. -/
lemma unnoticed_closes (fds : List ℤ) (hfds : socks.fds.Disjoint fds)
    (hobjects : (socks.objects k).Disjoint (fds.flatMap k.objects)) (hnodup : fds.Nodup) :
    socks.Unnoticed k (fds.foldl (fun k fd => close fd k) k) := by
  induction fds generalizing k with
  | nil => exact ⟨fun _ _ => rfl, fun _ _ => rfl, fun _ _ => rfl⟩
  | cons fd fds ih =>
      obtain ⟨hnot, hnodup⟩ := List.nodup_cons.mp hnodup
      have hother : ∀ fd' ∈ socks.fds, fd' ≠ fd := fun fd' hfd' heq =>
        hfds hfd' (heq ▸ List.mem_cons_self)
      have hfirst : socks.Unnoticed k (close fd k) := by
        refine ⟨fun fd' hfd' => ?_, fun _ _ => rfl,
          fun object hobject => queues_close fun hmem => ?_⟩
        · rw [files_close, Function.update_of_ne (hother fd' hfd')]
        · exact hobjects hobject (List.mem_flatMap.mpr ⟨fd, List.mem_cons_self, hmem⟩)
      have hrest : fds.flatMap (close fd k).objects = fds.flatMap k.objects :=
        List.flatMap_congr fun fd' hfd' => objects_close_of_ne fun heq => hnot (heq ▸ hfd')
      have hsecond := ih (k := close fd k) (fun _ hmem hmem' => hfds hmem
        (List.mem_cons_of_mem _ hmem')) (by
          rw [hfirst.objects, hrest]
          exact fun _ hmem hmem' => hobjects hmem
            (List.mem_flatMap.mpr (by
              obtain ⟨fd', hfd', hobject⟩ := List.mem_flatMap.mp hmem'
              exact ⟨fd', List.mem_cons_of_mem _ hfd', hobject⟩))) hnodup
      refine ⟨fun fd' hfd' => (hsecond.files fd' hfd').trans (hfirst.files fd' hfd'),
        fun object hobject => ?_, fun object hobject => ?_⟩
      · exact (hsecond.counters object (hfirst.objects ▸ hobject)).trans
          (hfirst.counters object hobject)
      · exact (hsecond.queues object (hfirst.objects ▸ hobject)).trans
          (hfirst.queues object hobject)

end AlertSockets

end TorOnion
