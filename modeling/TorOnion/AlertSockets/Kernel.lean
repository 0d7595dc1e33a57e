import Mathlib.Algebra.Group.Nat.Defs
import Mathlib.Data.Int.Notation
import Mathlib.Data.List.Basic
import Mathlib.Logic.Function.Basic

/-!
# Descriptors: what the alert sockets use of the kernel

An eventfd is a counter, a pipe and each direction of a stream socket are a queue of bytes with a
capacity.  Several descriptors may name one object, and each descriptor has its own flags.  A new
descriptor is the lowest that is free, so the number of one that was closed comes back.

What the kernel does with a call is not determined by its state alone: a call may be interrupted,
it may fail for a reason of its own, and it may transfer fewer bytes than it could.  A `KernelEvent`
says which, one for each system call.  A call on an object that is not ready fails when the
descriptor is non-blocking, and otherwise never returns, which is no result.
-/

namespace TorOnion

/-- The names of the errors that the code tests. -/
structure Errnos where
  eintr : ℤ
  eagain : ℤ
  ewouldblock : ℤ
  einval : ℤ
  ebadf : ℤ
  /-- What a socket that is not ready fails with. -/
  socketAgain : ℤ
  eintr_pos : 0 < eintr
  eagain_pos : 0 < eagain
  ewouldblock_pos : 0 < ewouldblock
  eintr_ne_eagain : eintr ≠ eagain
  eintr_ne_ewouldblock : eintr ≠ ewouldblock
  socketAgain_eq : socketAgain = eagain ∨ socketAgain = ewouldblock

/-- Another error than those that the code tests. -/
def Errnos.IsOther (names : Errnos) (errno : ℤ) : Prop :=
  0 < errno ∧ errno ≠ names.eintr ∧ errno ≠ names.eagain ∧ errno ≠ names.ewouldblock

/-- What the kernel does with a system call. -/
inductive KernelEvent (names : Errnos)
  /-- The call is interrupted. -/
  | interrupt
  /-- The call fails, with an error of its own. -/
  | fail (errno : ℤ) (other : names.IsOther errno)
  /-- The call is carried out, and transfers more than this number of bytes if it can. -/
  | proceed (atLeast : ℕ)

/-- A pipe, or one direction of a stream socket. -/
structure ByteQueue where
  bytes : List UInt8
  capacity : ℕ
  /-- The end that writes has been closed. -/
  hungUp : Bool
  deriving DecidableEq

/-- What a descriptor names. -/
inductive FileKind
  | eventfd (object : ℕ)
  | pipeRead (queue : ℕ)
  | pipeWrite (queue : ℕ)
  /-- A socket receives from one queue and sends into another. -/
  | socket (receives sends : ℕ)
  deriving DecidableEq

structure OpenFile where
  kind : FileKind
  nonblocking : Bool
  closeOnExec : Bool
  deriving DecidableEq

/-- Descriptors with the objects that they name, and `errno`.  Finitely many descriptors are open.
Objects are known by numbers, and a new one takes the next number. -/
structure Kernel where
  files : ℤ → Option OpenFile
  fdBound : ℕ
  files_of_le : ∀ fd : ℤ, fdBound ≤ fd → files fd = none
  counters : ℕ → ℕ
  queues : ℕ → ByteQueue
  nextObject : ℕ
  errno : ℤ

namespace Kernel

variable (names : Errnos)

/-- The largest value of an eventfd. -/
def eventfdMax : ℕ := 2 ^ 64 - 2

/-- A call fails. -/
def failWith (errno : ℤ) (k : Kernel) : ℤ × Kernel := (-1, { k with errno := errno })

/-- The number that eight bytes are, in the order of the machine; the machine is little-endian. -/
def ofBytes : List UInt8 → ℕ
  | [] => 0
  | b :: bytes => b.toNat + 256 * ofBytes bytes

/-- The eight bytes of a `uint64_t`. -/
def uint64Bytes (u : ℕ) : List UInt8 :=
  (List.range 8).map fun i => UInt8.ofNat (u / 256 ^ i)

/-- The bytes of a queue. -/
def setBytes (queue : ℕ) (bytes : List UInt8) (k : Kernel) : Kernel :=
  { k with queues := Function.update k.queues queue { k.queues queue with bytes := bytes } }

/-- The value of an eventfd. -/
def setCounter (object counter : ℕ) (k : Kernel) : Kernel :=
  { k with counters := Function.update k.counters object counter }

/-- Bytes go into a queue, as many as there is room for, and no more than the event allows. -/
def push (queue : ℕ) (buf : List UInt8) (atLeast : ℕ) (k : Kernel) : Option (ℤ × Kernel) :=
  let q := k.queues queue
  let n := min (atLeast + 1) (min (q.capacity - q.bytes.length) buf.length)
  if n = 0 ∧ buf ≠ [] then none
  else some (n, setBytes queue (q.bytes ++ buf.take n) k)

/-- Bytes come out of a queue.  At the end of what was written there are none. -/
def pop (queue : ℕ) (size atLeast : ℕ) (k : Kernel) : Option (ℤ × Kernel) :=
  let q := k.queues queue
  if q.bytes = [] then if q.hungUp then some (0, k) else none
  else
    let n := min (atLeast + 1) (min size q.bytes.length)
    some (n, setBytes queue (q.bytes.drop n) k)

/-- The call is carried out, unless the object is not ready. -/
def proceedOr (file : OpenFile) (again : ℤ) (k : Kernel) (result : Option (ℤ × Kernel)) :
    Option (ℤ × Kernel) :=
  match result with
  | some result => some result
  | none => if file.nonblocking then some (failWith again k) else none

/-- `write`, and `send` without flags. -/
def write (fd : ℤ) (buf : List UInt8) (event : KernelEvent names) (k : Kernel) :
    Option (ℤ × Kernel) :=
  match event with
  | .interrupt => some (failWith names.eintr k)
  | .fail errno _ => some (failWith errno k)
  | .proceed atLeast =>
      match k.files fd with
      | none => some (failWith names.ebadf k)
      | some file =>
          match file.kind with
          | .eventfd object =>
              if buf.length < 8 ∨ ofBytes (buf.take 8) = 2 ^ 64 - 1 then
                some (failWith names.einval k)
              else proceedOr file names.eagain k <|
                let counter := k.counters object + ofBytes (buf.take 8)
                if counter ≤ eventfdMax then some (8, setCounter object counter k) else none
          | .pipeRead _ => some (failWith names.ebadf k)
          | .pipeWrite queue => proceedOr file names.eagain k (push queue buf atLeast k)
          | .socket _ sends => proceedOr file names.socketAgain k (push sends buf atLeast k)

/-- `read`, and `recv` without flags.  The callers do not look at what they read. -/
def read (fd : ℤ) (size : ℕ) (event : KernelEvent names) (k : Kernel) : Option (ℤ × Kernel) :=
  match event with
  | .interrupt => some (failWith names.eintr k)
  | .fail errno _ => some (failWith errno k)
  | .proceed atLeast =>
      match k.files fd with
      | none => some (failWith names.ebadf k)
      | some file =>
          match file.kind with
          | .eventfd object =>
              if size < 8 then some (failWith names.einval k)
              else proceedOr file names.eagain k <|
                if k.counters object = 0 then none
                else some (8, setCounter object 0 k)
          | .pipeRead queue => proceedOr file names.eagain k (pop queue size atLeast k)
          | .pipeWrite _ => some (failWith names.ebadf k)
          | .socket receives _ => proceedOr file names.socketAgain k (pop receives size atLeast k)

/-- What `poll` says: a read would not have to wait. -/
def Readable (fd : ℤ) (k : Kernel) : Prop :=
  match k.files fd with
  | none => False
  | some file =>
      match file.kind with
      | .eventfd object => k.counters object ≠ 0
      | .pipeRead queue => (k.queues queue).bytes ≠ [] ∨ (k.queues queue).hungUp
      | .pipeWrite _ => False
      | .socket receives _ => (k.queues receives).bytes ≠ [] ∨ (k.queues receives).hungUp

/-! ## Setting up and tearing down -/

/-- What the kernel answers while descriptors are set up: which calls succeed, and how much the new
queues hold. -/
structure Setup where
  eventfdNonblocking : Bool
  eventfd : Bool
  pipe2 : Bool
  pipe : Bool
  socketpair : Bool
  /-- `fcntl(fd, F_SETFD, FD_CLOEXEC)`. -/
  fcntlCloexec : ℤ → Bool
  /-- `set_socket_nonblocking(fd)`. -/
  setSocketNonblocking : ℤ → Bool
  capacity : ℕ
  capacity_pos : 0 < capacity

/-- A change of one descriptor leaves those from the bound on closed. -/
lemma update_of_le {files : ℤ → Option OpenFile} {fd : ℤ} {file : Option OpenFile} {bound : ℕ}
    (h : ∀ fd' : ℤ, bound ≤ fd' → files fd' = none) (hfile : bound ≤ fd → file = none) :
    ∀ fd' : ℤ, bound ≤ fd' → Function.update files fd file fd' = none := by
  intro fd' hle
  by_cases heq : fd' = fd
  · subst heq
    exact (Function.update_self ..).trans (hfile hle)
  · exact (Function.update_of_ne heq ..).trans (h fd' hle)

/-- A descriptor is changed, if it is open. -/
def setFile (fd : ℤ) (change : OpenFile → OpenFile) (k : Kernel) : Kernel :=
  { k with
    files := Function.update k.files fd ((k.files fd).map change)
    files_of_le := update_of_le k.files_of_le fun hle => by rw [k.files_of_le fd hle]; rfl }

/-- Descriptors are changed, one after the other. -/
def setFiles (fds : List ℤ) (change : OpenFile → OpenFile) (k : Kernel) : Kernel :=
  fds.foldl (fun k fd => setFile fd change k) k

/-- The lowest descriptor that is not open. -/
def lowestFree (k : Kernel) : ℕ :=
  ((List.range k.fdBound).find? fun fd : ℕ => (k.files fd).isNone).getD k.fdBound

/-- A file is opened at the lowest descriptor that is free. -/
def openFile (file : OpenFile) (k : Kernel) : ℤ × Kernel :=
  (k.lowestFree,
    { k with
      files := Function.update k.files k.lowestFree (some file)
      fdBound := max k.fdBound (k.lowestFree + 1)
      files_of_le := update_of_le (fun fd hle => k.files_of_le fd (by omega)) fun hle => by omega })

/-- `eventfd(0, flags)`: the descriptor. -/
def newEventfd (nonblocking closeOnExec : Bool) (k : Kernel) : ℤ × Kernel :=
  let (fd, opened) := openFile ⟨.eventfd k.nextObject, nonblocking, closeOnExec⟩ k
  (fd, { opened with
    counters := Function.update k.counters k.nextObject 0
    nextObject := k.nextObject + 1 })

/-- `pipe` and `pipe2`: the end that reads and the end that writes. -/
def newPipe (setup : Setup) (nonblocking closeOnExec : Bool) (k : Kernel) : (ℤ × ℤ) × Kernel :=
  let (readFd, opened) := openFile ⟨.pipeRead k.nextObject, nonblocking, closeOnExec⟩ k
  let (writeFd, opened) := openFile ⟨.pipeWrite k.nextObject, nonblocking, closeOnExec⟩ opened
  ((readFd, writeFd), { opened with
    queues := Function.update k.queues k.nextObject ⟨[], setup.capacity, false⟩
    nextObject := k.nextObject + 1 })

/-- `tor_socketpair(AF_UNIX, SOCK_STREAM, 0, socks)`: each end sends what the other receives. -/
def newSocketpair (setup : Setup) (closeOnExec : Bool) (k : Kernel) : (ℤ × ℤ) × Kernel :=
  let (fd, opened) := openFile ⟨.socket k.nextObject (k.nextObject + 1), false, closeOnExec⟩ k
  let (fd', opened) :=
    openFile ⟨.socket (k.nextObject + 1) k.nextObject, false, closeOnExec⟩ opened
  ((fd, fd'), { opened with
    queues := Function.update (Function.update k.queues k.nextObject ⟨[], setup.capacity, false⟩)
      (k.nextObject + 1) ⟨[], setup.capacity, false⟩
    nextObject := k.nextObject + 2 })

/-- `close`. -/
def close (fd : ℤ) (k : Kernel) : Kernel :=
  let hangUp (queue : ℕ) : ℕ → ByteQueue :=
    Function.update k.queues queue { k.queues queue with hungUp := true }
  { k with
    files := Function.update k.files fd none
    files_of_le := update_of_le k.files_of_le fun _ => rfl
    queues := match (k.files fd).map OpenFile.kind with
      | some (.pipeWrite queue) => hangUp queue
      | some (.socket _ sends) => hangUp sends
      | _ => k.queues }

/-! ## The lowest descriptor -/

lemma files_lowestFree (k : Kernel) : k.files k.lowestFree = none := by
  unfold lowestFree
  cases hfind : (List.range k.fdBound).find? fun fd : ℕ => (k.files fd).isNone with
  | none => exact k.files_of_le k.fdBound (Int.le_refl _)
  | some fd =>
      have hnone : (k.files fd).isNone = true := by simpa using List.find?_some hfind
      exact Option.isNone_iff_eq_none.mp hnone

/-- Two files are opened at two descriptors that were free; the others stay as they are. -/
lemma openFile_twice (file file' : OpenFile) (k : Kernel) :
    let first := openFile file k
    let second := openFile file' first.2
    (first.1 ≠ second.1 ∧ k.files first.1 = none ∧ k.files second.1 = none) ∧
      second.2.files first.1 = some file ∧ second.2.files second.1 = some file' ∧
        ∀ fd, fd ≠ first.1 → fd ≠ second.1 → second.2.files fd = k.files fd := by
  intro first second
  have hfirst : first.2.files first.1 = some file := Function.update_self ..
  have hfree : first.2.files second.1 = none := files_lowestFree first.2
  have hne : first.1 ≠ second.1 := by
    intro heq
    rw [← heq, hfirst] at hfree
    cases hfree
  have hother : ∀ fd, fd ≠ first.1 → first.2.files fd = k.files fd :=
    fun fd hfd => Function.update_of_ne hfd _ _
  refine ⟨⟨hne, files_lowestFree k, (hother _ hne.symm).symm.trans hfree⟩, ?_,
    Function.update_self .., fun fd hfd hfd' => ?_⟩
  · exact (Function.update_of_ne hne _ _).trans hfirst
  · exact (Function.update_of_ne hfd' _ _).trans (hother fd hfd)

end Kernel

end TorOnion
