import TorOnion.AlertSockets.Descriptors

/-!
# Several alert sockets in one process

A process holds several alert sockets at a time, and other descriptors besides; it creates, uses
and closes them in any order.  The descriptors that are open are those of before and those of the
alert sockets, each of which belongs to one of them, and no two of them name an object in common.
That is what keeps an alert, a drain or a close of one from being noticed by another.
-/

namespace TorOnion

/-! ## A process -/

open Kernel AlertSockets

/-- A process with the alert sockets that it has created and not closed. -/
structure AlertProcess where
  kernel : Kernel
  live : List AlertSockets

namespace AlertProcess

/-- What a process does with alert sockets, which are named by their positions. -/
inductive Op (names : Errnos)
  | create (config : AlertConfig) (setup : Setup) (flags : UInt32)
  | perform (i : ℕ) (call : AlertCall) (events : List (KernelEvent names))
  | close (i : ℕ)

/-- One operation that returns. -/
def step (names : Errnos) (p : AlertProcess) : Op names → Option AlertProcess
  | .create config setup flags =>
      match alertSocketsCreate config setup flags p.kernel with
      | (_, some socks, kernel) => some ⟨kernel, p.live ++ [socks]⟩
      | (_, none, kernel) => some ⟨kernel, p.live⟩
  | .perform i call events => do
      let socks ← p.live[i]?
      let (_, _, kernel) ← AlertSockets.perform names socks call events p.kernel
      some ⟨kernel, p.live⟩
  | .close i => do
      let socks ← p.live[i]?
      some ⟨(alertSocketsClose socks p.kernel).2, p.live.eraseIdx i⟩

/-- The descriptors of the alert sockets. -/
def fds (p : AlertProcess) : List ℤ := p.live.flatMap AlertSockets.fds

/-- What every operation keeps, from a kernel on; `cloexec` is what is known of the descriptors that
`tor_socketpair` makes. -/
structure Inv (names : Errnos) (cloexec : Prop) (k₀ : Kernel) (p : AlertProcess) : Prop where
  grows : Grows p.fds k₀ p.kernel
  nodup : p.fds.Nodup
  made : ∀ socks ∈ p.live, socks.Made cloexec p.kernel ∧ Armed names socks p.kernel
  separate : p.live.Pairwise fun socks socks' =>
    (socks.objects p.kernel).Disjoint (socks'.objects p.kernel)

variable {names : Errnos} {k₀ : Kernel} {p p' : AlertProcess} {cloexec : Prop}

lemma Inv.objects_new (hp : p.Inv names cloexec k₀) {socks : AlertSockets}
    (hsocks : socks ∈ p.live) :
    ∀ object ∈ socks.objects p.kernel, k₀.nextObject ≤ object := by
  intro object hobject
  obtain ⟨fd, hfd, hobject⟩ := List.mem_flatMap.mp hobject
  exact ((hp.grows.new fd (List.mem_flatMap.mpr ⟨socks, hsocks, hfd⟩)).2.2 object hobject).1

/-- What nobody notices keeps what is known of everybody. -/
lemma Inv.unnoticed (hp : p.Inv names cloexec k₀) {k : Kernel} {live : List AlertSockets}
    (hlive : live.Sublist p.live) (hsame : ∀ socks ∈ live, socks.Unnoticed p.kernel k) :
    (∀ socks ∈ live, socks.Made cloexec k ∧ Armed names socks k) ∧
      live.Pairwise fun socks socks' => (socks.objects k).Disjoint (socks'.objects k) := by
  refine ⟨fun socks hsocks => ?_, ?_⟩
  · obtain ⟨hmade, harmed⟩ := hp.made socks (hlive.subset hsocks)
    exact ⟨(hsame socks hsocks).made hmade, (hsame socks hsocks).armed harmed⟩
  · refine List.Pairwise.imp_of_mem (fun hsocks hsocks' hdisjoint => ?_)
      (hp.separate.sublist hlive)
    rwa [(hsame _ hsocks).objects, (hsame _ hsocks').objects]

/-- The alert sockets at two positions have different descriptors and objects. -/
lemma Inv.disjoint (hp : p.Inv names cloexec k₀) {i j : ℕ} {socks other : AlertSockets}
    (hne : j ≠ i)
    (hi : p.live[i]? = some socks) (hj : p.live[j]? = some other) :
    other.fds.Disjoint socks.fds ∧
      (other.objects p.kernel).Disjoint (socks.objects p.kernel) := by
  obtain ⟨hilt, rfl⟩ := List.getElem?_eq_some_iff.mp hi
  obtain ⟨hjlt, rfl⟩ := List.getElem?_eq_some_iff.mp hj
  have hfds : p.live.Pairwise fun a b => a.fds.Disjoint b.fds :=
    (List.nodup_flatMap.mp hp.nodup).2
  rcases Nat.lt_or_gt_of_ne hne with hlt | hlt
  · exact ⟨List.pairwise_iff_getElem.mp hfds j i hjlt hilt hlt,
      List.pairwise_iff_getElem.mp hp.separate j i hjlt hilt hlt⟩
  · exact ⟨(List.pairwise_iff_getElem.mp hfds i j hilt hjlt hlt).symm,
      (List.pairwise_iff_getElem.mp hp.separate i j hilt hjlt hlt).symm⟩

/-- A call is not noticed by other alert sockets. -/
lemma Inv.unnoticed_perform (hp : p.Inv names cloexec k₀) {i j : ℕ} {socks other : AlertSockets}
    (hne : j ≠ i) (hi : p.live[i]? = some socks) (hj : p.live[j]? = some other) {call : AlertCall}
    {events events' : List (KernelEvent names)} {r : ℤ} {k : Kernel}
    (h : AlertSockets.perform names socks call events p.kernel = some (r, events', k)) :
    other.Unnoticed p.kernel k :=
  unnoticed_of_touches (touches_perform h) (hp.disjoint hne hi hj).2

lemma Inv.perform (hp : p.Inv names cloexec k₀) {i : ℕ} {socks : AlertSockets}
    (hi : p.live[i]? = some socks) {call : AlertCall} {events events' : List (KernelEvent names)}
    {r : ℤ} {k : Kernel}
    (h : AlertSockets.perform names socks call events p.kernel = some (r, events', k)) :
    Inv names cloexec k₀ ⟨k, p.live⟩ := by
  have hsocks : socks ∈ p.live := List.mem_of_getElem? hi
  have htouches := touches_perform h
  have hobjects : ∀ other : AlertSockets, other.objects k = other.objects p.kernel :=
    fun other => List.flatMap_congr fun fd _ => htouches.objects fd
  refine ⟨hp.grows.touches htouches (hp.objects_new hsocks), hp.nodup, fun other hother => ?_, ?_⟩
  · obtain ⟨j, hj⟩ := List.mem_iff_getElem?.mp hother
    obtain ⟨hmade, harmed⟩ := hp.made other hother
    refine ⟨⟨hmade.pair, fun fd hfd => by rw [htouches.files]; exact hmade.flags fd hfd⟩, ?_⟩
    by_cases hne : j = i
    · subst hne
      obtain rfl := Option.some.inj (hi.symm.trans hj)
      cases call with
      | alert => exact (harmed.alert h).1
      | drain => exact (harmed.drain h).1
    · exact (hp.unnoticed_perform hne hi hj h).armed harmed
  · refine hp.separate.imp fun hdisjoint => ?_
    rwa [hobjects, hobjects]

lemma Inv.create (hfresh : k₀.Fresh) (hp : p.Inv names cloexec k₀) {config : AlertConfig}
    {setup : Setup} {flags : UInt32} (hcloexec : cloexec → config.socketpairCloseOnExec = true)
    (h : p.step names (.create config setup flags) = some p') : p'.Inv names cloexec k₀ := by
  have hk := hp.grows.fresh hfresh
  have hends : Ends cloexec p.kernel (alertSocketsCreate config setup flags p.kernel) :=
    ends_create hcloexec
  simp only [step] at h
  split at h
  next r socks k hcreate =>
    obtain rfl := Option.some.inj h
    rw [hcreate] at hends
    obtain ⟨-, hgrows, hmade⟩ := hends
    have hsame : ∀ other ∈ p.live, other.Unnoticed p.kernel k := fun other hother =>
      unnoticed_of_grows hgrows hk (hp.made other hother).1
    obtain ⟨hall, hseparate⟩ := hp.unnoticed (List.Sublist.refl _) hsame
    have hfds : fds ⟨k, p.live ++ [socks]⟩ = p.fds ++ socks.fds := by
      simp [fds]
    refine ⟨?_, ?_, fun other hother => ?_, ?_⟩
    · rw [hfds]
      exact hp.grows.trans hgrows
    · rw [hfds]
      refine List.nodup_append.mpr ⟨hp.nodup, socks.fds_nodup, fun fd hfd fd' hfd' heq => ?_⟩
      subst heq
      have hopen := (hp.grows.new fd hfd).2.1
      rw [(hgrows.new fd hfd').1] at hopen
      cases hopen
    · rcases List.mem_append.mp hother with hother | hother
      · exact hall other hother
      · obtain rfl := List.mem_singleton.mp hother
        exact ⟨hmade, armed_of_create hcreate⟩
    · refine List.pairwise_append.mpr ⟨hseparate, List.pairwise_singleton _ _, ?_⟩
      intro other hother socks' hsocks' object hobject hobject'
      obtain rfl := List.mem_singleton.mp hsocks'
      rw [(hsame other hother).objects] at hobject
      obtain ⟨fd, hfd, hobject⟩ := List.mem_flatMap.mp hobject
      obtain ⟨fd', hfd', hobject'⟩ := List.mem_flatMap.mp hobject'
      have hlt := hk fd object hobject
      have hle := ((hgrows.new fd' hfd').2.2 object hobject').1
      omega
  next r k hcreate =>
    obtain rfl := Option.some.inj h
    rw [hcreate] at hends
    obtain ⟨hall, hseparate⟩ := hp.unnoticed (List.Sublist.refl _) fun other hother =>
      unnoticed_of_grows hends.2 hk (hp.made other hother).1
    refine ⟨?_, hp.nodup, hall, hseparate⟩
    exact (hp.grows.trans hends.2).congr fun fd => by simp [fds]

lemma Inv.close (hp : p.Inv names cloexec k₀) {i : ℕ}
    (h : p.step names (.close i) = some p') : p'.Inv names cloexec k₀ := by
  obtain ⟨socks, hi, h⟩ := Option.bind_eq_some_iff.mp h
  obtain rfl := Option.some.inj h
  have hsocks : socks ∈ p.live := List.mem_of_getElem? hi
  rw [kernel_alertSocketsClose (hp.made socks hsocks).1]
  have hperm : p.fds.Perm (socks.fds ++ (p.live.eraseIdx i).flatMap AlertSockets.fds) := by
    obtain ⟨hlt, rfl⟩ := List.getElem?_eq_some_iff.mp hi
    exact ((List.getElem_cons_eraseIdx_perm hlt).symm.flatMap_right _)
  have hnodup := List.nodup_append.mp (hperm.nodup_iff.mp hp.nodup)
  have hsame : ∀ other ∈ p.live.eraseIdx i, other.Unnoticed p.kernel
      (socks.fds.foldl (fun k fd => Kernel.close fd k) p.kernel) := by
    intro other hother
    obtain ⟨j, hne, hj⟩ := List.mem_eraseIdx_iff_getElem?.mp hother
    obtain ⟨hfds, hobjects⟩ := hp.disjoint hne hi hj
    exact unnoticed_closes socks.fds hfds hobjects socks.fds_nodup
  obtain ⟨hall, hseparate⟩ := hp.unnoticed (List.eraseIdx_sublist _ _) hsame
  refine ⟨?_, hnodup.2.1, hall, hseparate⟩
  refine (hp.grows.closes socks.fds socks.fds_nodup fun fd hfd =>
    hperm.symm.subset (List.mem_append_left _ hfd)).congr fun fd => ?_
  rw [List.mem_filter, decide_eq_true_eq, hperm.mem_iff, List.mem_append]
  constructor
  · exact fun hfd => ⟨.inr hfd, fun hmem => hnodup.2.2 fd hmem fd hfd rfl⟩
  · exact fun ⟨hfd, hnot⟩ => hfd.resolve_left hnot

/-- The alert sockets that an operation is about. -/
def Op.target : Op names → Option ℕ
  | .create _ _ _ => none
  | .perform i _ _ => some i
  | .close i => some i

/-- Alert sockets that an operation is not about do not notice it. -/
lemma Inv.unnoticed_step (hfresh : k₀.Fresh) (hp : p.Inv names cloexec k₀) {op : Op names} {j : ℕ}
    {other : AlertSockets} (hj : p.live[j]? = some other) (hop : op.target ≠ some j)
    (h : p.step names op = some p') : other.Unnoticed p.kernel p'.kernel := by
  have hother : other ∈ p.live := List.mem_of_getElem? hj
  cases op with
  | create config setup flags =>
      have hk := hp.grows.fresh hfresh
      have hends : Ends False p.kernel (alertSocketsCreate config setup flags p.kernel) :=
        ends_create False.elim
      simp only [step] at h
      split at h
      next r socks k hcreate =>
        obtain rfl := Option.some.inj h
        rw [hcreate] at hends
        exact unnoticed_of_grows hends.2.1 hk (hp.made other hother).1
      next r k hcreate =>
        obtain rfl := Option.some.inj h
        rw [hcreate] at hends
        exact unnoticed_of_grows hends.2 hk (hp.made other hother).1
  | perform i call events =>
      obtain ⟨socks, hi, h⟩ := Option.bind_eq_some_iff.mp h
      obtain ⟨⟨r, events', k⟩, hcall, h⟩ := Option.bind_eq_some_iff.mp h
      obtain rfl := Option.some.inj h
      have hne : j ≠ i := by
        rintro rfl
        exact hop rfl
      exact hp.unnoticed_perform hne hi hj hcall
  | close i =>
      obtain ⟨socks, hi, h⟩ := Option.bind_eq_some_iff.mp h
      obtain rfl := Option.some.inj h
      rw [kernel_alertSocketsClose (hp.made socks (List.mem_of_getElem? hi)).1]
      have hne : j ≠ i := by
        rintro rfl
        exact hop rfl
      obtain ⟨hfds, hobjects⟩ := hp.disjoint hne hi hj
      exact unnoticed_closes socks.fds hfds hobjects socks.fds_nodup

/-- What is known of `tor_socketpair` holds in an operation. -/
def Op.SocketpairCloseOnExec : Op names → Prop
  | .create config _ _ => config.socketpairCloseOnExec = true
  | _ => True

/-- The step lemma. -/
lemma Inv.step (hfresh : k₀.Fresh) (hp : p.Inv names cloexec k₀) {op : Op names}
    (hcloexec : cloexec → op.SocketpairCloseOnExec) (h : p.step names op = some p') :
    p'.Inv names cloexec k₀ := by
  cases op with
  | create config setup flags => exact hp.create hfresh hcloexec h
  | close i => exact hp.close h
  | perform i call events =>
      obtain ⟨socks, hi, h⟩ := Option.bind_eq_some_iff.mp h
      obtain ⟨⟨r, events', k⟩, hcall, h⟩ := Option.bind_eq_some_iff.mp h
      obtain rfl := Option.some.inj h
      exact hp.perform hi hcall

/-- The run lemma. -/
lemma Inv.run (hfresh : k₀.Fresh) {ops : List (Op names)}
    (hcloexec : cloexec → ∀ op ∈ ops, op.SocketpairCloseOnExec) (hp : p.Inv names cloexec k₀)
    (h : ops.foldlM (AlertProcess.step names) p = some p') : p'.Inv names cloexec k₀ := by
  induction ops generalizing p with
  | nil =>
      obtain rfl := Option.some.inj h
      exact hp
  | cons op ops ih =>
      rw [List.foldlM_cons] at h
      obtain ⟨mid, hstep, hrest⟩ := Option.bind_eq_some_iff.mp h
      exact ih (fun h op hop => hcloexec h op (List.mem_cons_of_mem _ hop))
        (hp.step hfresh (fun h => hcloexec h op List.mem_cons_self) hstep) hrest

lemma inv_start (k₀ : Kernel) : Inv names cloexec k₀ ⟨k₀, []⟩ :=
  ⟨.refl k₀, List.nodup_nil, fun _ hmem => absurd hmem List.not_mem_nil, List.Pairwise.nil⟩

/-- **Alert sockets keep to themselves.**  After any sequence of operations of a process that
creates, uses and closes several alert sockets, however each was created and whatever numbers of
closed descriptors come back:

* the descriptors that are open are those of before, unchanged, and those of the alert sockets,
  which are others and pairwise different, non-blocking and, when `tor_socketpair` makes its own so,
  closed on `exec`;
* a call that returns 0 leaves its descriptor readable if it is an alert, and not readable if it
  is a drain;
* no operation changes whether a descriptor of other alert sockets is readable. -/
theorem alert_sockets_separate (hfresh : k₀.Fresh) {ops : List (Op names)}
    (hrun : ops.foldlM (AlertProcess.step names) ⟨k₀, []⟩ = some p) :
    (p.fds.Nodup ∧ (∀ fd ∉ p.fds, p.kernel.files fd = k₀.files fd) ∧
        ∀ fd ∈ p.fds, k₀.files fd = none ∧ ∃ file, p.kernel.files fd = some file ∧
          file.nonblocking = true ∧
          ((∀ op ∈ ops, op.SocketpairCloseOnExec) → file.closeOnExec = true)) ∧
      (∀ (i : ℕ) socks call events r events' k, p.live[i]? = some socks →
        AlertSockets.perform names socks call events p.kernel = some (r, events', k) → r = 0 →
          (Readable socks.readFd k ↔ call = .alert)) ∧
      ∀ op p' (j : ℕ) other, p.step names op = some p' → p.live[j]? = some other →
        op.target ≠ some j →
          (Readable other.readFd p'.kernel ↔ Readable other.readFd p.kernel) := by
  have hp : p.Inv names (∀ op ∈ ops, op.SocketpairCloseOnExec) k₀ :=
    (inv_start k₀).run hfresh id hrun
  refine ⟨⟨hp.nodup, hp.grows.old, fun fd hfd => ?_⟩, ?_, ?_⟩
  · obtain ⟨socks, hsocks, hmem⟩ := List.mem_flatMap.mp hfd
    exact ⟨(hp.grows.new fd hfd).1, (hp.made socks hsocks).1.flags fd hmem⟩
  · intro i socks call events r events' k hi hcall hr
    have harmed := (hp.made socks (List.mem_of_getElem? hi)).2
    cases call with
    | alert => exact iff_of_true ((harmed.alert hcall).2.2.1 hr) rfl
    | drain => exact iff_of_false ((harmed.drain hcall).2 hr) nofun
  · intro op p' j other hstep hj hop
    exact (hp.unnoticed_step hfresh hj hop hstep).readable

/-- A pipe, and a second one whose ends cannot be made non-blocking; then a third, which takes the
descriptors of the second and is alerted.  The first is closed, and a pair of sockets takes its
descriptors. -/
def reusedDescriptors : List (Op linuxErrnos) :=
  [.create onlyPipes oneByte 0,
    .create onlyPipes { oneByte with setSocketNonblocking := fun _ => false } 0,
    .create onlyPipes oneByte 0, .perform 1 .alert [.proceed 0], .close 0,
    .create onlyPipes oneByte 8]

theorem alert_sockets_separate_reused : ∃ p : AlertProcess,
    reusedDescriptors.foldlM (AlertProcess.step linuxErrnos) ⟨standardFiles, []⟩ = some p ∧
      p.fds = [5, 6, 3, 4] ∧ p.kernel.files 2 = standardFiles.files 2 ∧
      ∃ file, p.kernel.files 3 = some file ∧ file.nonblocking = true ∧ file.closeOnExec = true := by
  have hfresh : standardFiles.Fresh := by
    intro fd object hobject
    have hobject' : object = 0 ∨ object = 1 := by
      simp only [Kernel.objects, standardFiles] at hobject
      by_cases hin : fd = 0
      · simp_all [FileKind.objects]
      · by_cases hout : fd = 1 ∨ fd = 2 <;> simp_all [FileKind.objects]
    show object < 2
    omega
  have hrun : reusedDescriptors.foldlM (AlertProcess.step linuxErrnos) ⟨standardFiles, []⟩ =
      some _ := rfl
  have hseparate := (alert_sockets_separate hfresh hrun).1
  obtain ⟨-, file, hfile, hnonblocking, hcloses⟩ := hseparate.2.2 3 (by decide)
  refine ⟨_, hrun, rfl, hseparate.2.1 2 (by decide), file, hfile, hnonblocking, hcloses ?_⟩
  simp [reusedDescriptors, Op.SocketpairCloseOnExec, onlyPipes]

end AlertProcess

end TorOnion
