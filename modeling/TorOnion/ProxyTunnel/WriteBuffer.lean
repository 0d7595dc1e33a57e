import Mathlib.Data.Int.Notation
import TorOnion.Library.Containers

/-!
# The write buffer of a proxy tunnel: `networking/prox_tunnel.rs`

A TLS session that runs through an HTTP proxy hands its encrypted bytes to `write_encrypted`,
which offers them to the socket and keeps in `write_buffer` what the socket does not take.
`on_writable` offers the kept bytes again, and then flushes the session, which may call
`write_encrypted` any number of times.

A tunnel with what its socket has accepted is a queue of bytes (`Link.stream`), and both paths
are pushes and pops of it: `write_encrypted` pushes its data and pops what the socket takes at
once (`writeEncrypted_spec`), `on_writable` pops (`offerBuffered_spec`) and then writes.  In
order delivery is then `Fifo.log_push` and `Fifo.log_pop`.  The one fact the code has to keep is
that the cursor stays within the buffer.

How much a `socket.write` accepts is up to the socket: a `SocketAnswer`.  `StreamBuffer` is not
part of the repository and follows the four operations as they are documented; of `is_not_empty`
only `NotEmptyTest` is known.  A failed `usize::try_from` panics, which is `none`; running out of
memory is left out, and so is a slice past the end of the data, which no socket's answer asks
for.  The tunnel is attached throughout: the client has it as its `proxy_tunnel`, and it has a
`wrapper`.
-/

namespace TorOnion

/-! ## The buffer -/

/-- `bun_io::StreamBuffer`. -/
structure StreamBuffer where
  list : List UInt8
  cursor : ℕ
  deriving DecidableEq

namespace StreamBuffer

/-- `StreamBuffer::default`. -/
def default : StreamBuffer := ⟨[], 0⟩

def write (b : StreamBuffer) (data : List UInt8) : StreamBuffer := { b with list := b.list ++ data }

/-- `slice`: the bytes that are still to be sent. -/
def slice (b : StreamBuffer) : List UInt8 := b.list.drop b.cursor

def reset (_ : StreamBuffer) : StreamBuffer := default

/-- `is_not_empty`, as far as it is known. -/
structure NotEmptyTest where
  isNotEmpty : StreamBuffer → Bool
  isNotEmpty_reset : ∀ b : StreamBuffer, isNotEmpty b.reset = false
  isNotEmpty_of_slice : ∀ b : StreamBuffer, b.slice ≠ [] → isNotEmpty b = true

/-- The cursor is within the buffer. -/
def InBounds (b : StreamBuffer) : Prop := b.cursor ≤ b.list.length

variable {b : StreamBuffer}

lemma inBounds_default : default.InBounds := Nat.le_refl 0

lemma InBounds.write (h : b.InBounds) (data : List UInt8) : (b.write data).InBounds := by
  refine Nat.le_trans h ?_
  rw [StreamBuffer.write, List.length_append]
  exact Nat.le_add_right ..

/-- While the cursor is within the buffer, a write appends to what is to be sent. -/
lemma slice_write (h : b.InBounds) (data : List UInt8) :
    (b.write data).slice = b.slice ++ data := by
  rw [slice, slice, StreamBuffer.write, List.drop_append_of_le_length h]

lemma slice_reset : b.reset.slice = [] := rfl

/-- Moving the cursor drops what it passes. -/
lemma slice_advance (n : ℕ) : slice { b with cursor := b.cursor + n } = b.slice.drop n := by
  rw [slice, slice, List.drop_drop]

end StreamBuffer

/-! ## The source -/

/-- `MaybeAnySocket`, without the handles. -/
inductive TunnelSocket
  | ssl
  | tcp
  | none
  deriving DecidableEq

/-- What a `socket.write` returns for the bytes it is offered. -/
structure SocketAnswer where
  written : List UInt8 → ℤ
  nonneg : ∀ data, 0 ≤ written data
  le_length : ∀ data, written data ≤ data.length

/-- The fields of `ProxyTunnel` that the two paths read. -/
structure ProxyTunnel where
  socket : TunnelSocket
  writeBuffer : StreamBuffer

/-- A tunnel, and the bytes that its socket has accepted. -/
structure Link where
  tunnel : ProxyTunnel
  accepted : List UInt8

/-- `usize::try_from(..).expect("int cast")`. -/
def usizeTryFrom (n : ℤ) : Option ℕ := if 0 ≤ n then some n.toNat else none

section Source

variable (test : StreamBuffer.NotEmptyTest)

/-- `write_encrypted`. -/
def writeEncrypted (l : Link) (encodedData : List UInt8) (answer : SocketAnswer) : Option Link :=
  if test.isNotEmpty l.tunnel.writeBuffer then
    some { l with tunnel.writeBuffer := l.tunnel.writeBuffer.write encodedData }
  else do
    let written ← usizeTryFrom <|
      match l.tunnel.socket with
      | .ssl => answer.written encodedData
      | .tcp => answer.written encodedData
      | .none => 0
    let accepted := l.accepted ++ encodedData.take written
    let pending := encodedData.drop written
    if pending ≠ [] then
      pure { l with tunnel.writeBuffer := l.tunnel.writeBuffer.write pending, accepted := accepted }
    else pure { l with accepted := accepted }

/-- The first half of `on_writable`: the buffered bytes are offered to the socket. -/
def offerBuffered (l : Link) (answer : SocketAnswer) : Option Link :=
  let encodedData := l.tunnel.writeBuffer.slice
  if encodedData ≠ [] then do
    let written ← usizeTryFrom (answer.written encodedData)
    let accepted := l.accepted ++ encodedData.take written
    if written = encodedData.length then
      pure { l with tunnel.writeBuffer := l.tunnel.writeBuffer.reset, accepted := accepted }
    else
      pure { l with
        tunnel.writeBuffer.cursor := l.tunnel.writeBuffer.cursor + written
        accepted := accepted }
  else some l

/-- The calls of `write_encrypted` that `wrapper.flush()` makes, one after the other. -/
def flushWrites (l : Link) (writes : List (List UInt8 × SocketAnswer)) : Option Link :=
  writes.foldlM (fun l w => writeEncrypted test l w.1 w.2) l

/-- `on_writable`. -/
def onWritable (l : Link) (answer : SocketAnswer)
    (flush : List (List UInt8 × SocketAnswer)) : Option Link := do
  let l ← offerBuffered l answer
  flushWrites test l flush

/-- A call on an attached tunnel, with what the socket and the session do in it. -/
inductive TunnelCall
  | writeEncrypted (data : List UInt8) (answer : SocketAnswer)
  | onWritable (answer : SocketAnswer) (flush : List (List UInt8 × SocketAnswer))

def TunnelCall.run (l : Link) : TunnelCall → Option Link
  | .writeEncrypted data answer => TorOnion.writeEncrypted test l data answer
  | .onWritable answer flush => TorOnion.onWritable test l answer flush

/-- What a call passes to `write_encrypted`, in call order. -/
def TunnelCall.data : TunnelCall → List UInt8
  | .writeEncrypted data _ => data
  | .onWritable _ flush => (flush.map Prod.fst).flatten

/-- A run on an attached tunnel. -/
def runTunnel (l : Link) (calls : List TunnelCall) : Option Link :=
  calls.foldlM (TunnelCall.run test) l

end Source

/-- A tunnel just attached to a socket, by `start` or by `adopt`. -/
def Link.attached (socket : TunnelSocket) : Link := ⟨⟨socket, .default⟩, []⟩

/-! ## The tunnel as a queue of bytes -/

/-- What the socket has accepted, and what is still to be sent. -/
def Link.stream (l : Link) : Fifo UInt8 := ⟨l.accepted, l.tunnel.writeBuffer.slice⟩

/-- The invariant. -/
def Link.InBounds (l : Link) : Prop := l.tunnel.writeBuffer.InBounds

variable (test : StreamBuffer.NotEmptyTest) {l : Link}

/-- A conversion of a number that is in range succeeds. -/
lemma usizeTryFrom_of_nonneg {n : ℤ} (h : 0 ≤ n) : usizeTryFrom n = some n.toNat := if_pos h

/-- What the socket of a tunnel answers is a number in range. -/
lemma written_bounds (socket : TunnelSocket) (data : List UInt8) (answer : SocketAnswer) :
    0 ≤ (match socket with
      | .ssl => answer.written data
      | .tcp => answer.written data
      | .none => 0 : ℤ) := by
  rcases socket with _ | _ | _
  · exact answer.nonneg data
  · exact answer.nonneg data
  · exact Int.le_refl 0

/-- `write_encrypted` pushes its data, and pops what the socket takes of it at once. -/
lemma writeEncrypted_spec (h : l.InBounds) (data : List UInt8) (answer : SocketAnswer) :
    ∃ l' n, writeEncrypted test l data answer = some l' ∧ l'.InBounds ∧
      l'.stream = (l.stream.push data).pop n := by
  by_cases htest : test.isNotEmpty l.tunnel.writeBuffer = true
  · -- older bytes wait: the data joins them
    refine ⟨_, 0, if_pos htest, h.write _, ?_⟩
    rw [Fifo.pop_zero, Fifo.push, Link.stream, Link.stream, StreamBuffer.slice_write h]
  · -- nothing waits: the socket is offered the data itself
    have hempty : l.tunnel.writeBuffer.slice = [] := by
      by_contra hne
      exact htest (test.isNotEmpty_of_slice _ hne)
    have hwritten := usizeTryFrom_of_nonneg (written_bounds l.tunnel.socket data answer)
    rw [writeEncrypted, if_neg htest, hwritten]
    generalize (match l.tunnel.socket with
      | .ssl => answer.written data
      | .tcp => answer.written data
      | .none => 0 : ℤ).toNat = n
    have hpop : (l.stream.push data).pop n = ⟨l.accepted ++ data.take n, data.drop n⟩ := by
      rw [Link.stream, hempty, Fifo.push, List.nil_append, Fifo.pop]
    by_cases hpending : data.drop n = []
    · refine ⟨{ l with accepted := l.accepted ++ data.take n }, n, ?_, h, ?_⟩
      · exact if_neg (not_not.mpr hpending)
      · rw [hpop, Link.stream, hempty, hpending]
    · refine ⟨{ l with
          tunnel.writeBuffer := l.tunnel.writeBuffer.write (data.drop n)
          accepted := l.accepted ++ data.take n }, n, ?_, h.write _, ?_⟩
      · exact if_pos hpending
      · rw [hpop, Link.stream, StreamBuffer.slice_write h, hempty, List.nil_append]

/-- Offering the buffered bytes pops what the socket takes of them. -/
lemma offerBuffered_spec (h : l.InBounds) (answer : SocketAnswer) :
    ∃ l' n, offerBuffered l answer = some l' ∧ l'.InBounds ∧ l'.stream = l.stream.pop n := by
  by_cases hslice : l.tunnel.writeBuffer.slice = []
  · refine ⟨l, 0, ?_, h, (Fifo.pop_zero _).symm⟩
    rw [offerBuffered, if_neg (not_not.mpr hslice)]
  · have hlen : l.tunnel.writeBuffer.slice.length =
        l.tunnel.writeBuffer.list.length - l.tunnel.writeBuffer.cursor := List.length_drop
    have hle := answer.le_length l.tunnel.writeBuffer.slice
    rw [offerBuffered, if_pos hslice, usizeTryFrom_of_nonneg (answer.nonneg _)]
    have hn : (answer.written l.tunnel.writeBuffer.slice).toNat ≤
        l.tunnel.writeBuffer.slice.length := by omega
    generalize (answer.written l.tunnel.writeBuffer.slice).toNat = n at hn ⊢
    by_cases hall : n = l.tunnel.writeBuffer.slice.length
    · refine ⟨{ l with
          tunnel.writeBuffer := l.tunnel.writeBuffer.reset
          accepted := l.accepted ++ l.tunnel.writeBuffer.slice.take n }, n, ?_, ?_, ?_⟩
      · exact if_pos hall
      · exact StreamBuffer.inBounds_default
      · rw [Link.stream, StreamBuffer.slice_reset, Link.stream, Fifo.pop, hall,
          List.drop_length]
    · refine ⟨{ l with
          tunnel.writeBuffer.cursor := l.tunnel.writeBuffer.cursor + n
          accepted := l.accepted ++ l.tunnel.writeBuffer.slice.take n }, n, ?_, ?_, ?_⟩
      · exact if_neg hall
      · have hcursor : l.tunnel.writeBuffer.cursor ≤ l.tunnel.writeBuffer.list.length := h
        simp only [Link.InBounds, StreamBuffer.InBounds]
        omega
      · rw [Link.stream, StreamBuffer.slice_advance, Link.stream, Fifo.pop]

/-! ## Whole runs -/

/-- The calls of one flush push all their data. -/
lemma flushWrites_spec (h : l.InBounds) (writes : List (List UInt8 × SocketAnswer)) :
    ∃ l', flushWrites test l writes = some l' ∧ l'.InBounds ∧
      l'.stream.log = l.stream.log ++ (writes.map Prod.fst).flatten := by
  induction writes generalizing l with
  | nil => exact ⟨l, rfl, h, (List.append_nil _).symm⟩
  | cons w writes ih =>
      obtain ⟨mid, n, hwrite, hmid, hstream⟩ := writeEncrypted_spec test h w.1 w.2
      obtain ⟨l', hrest, hl', hlog⟩ := ih hmid
      refine ⟨l', ?_, hl', ?_⟩
      · rw [flushWrites, List.foldlM_cons, hwrite]
        exact hrest
      · rw [hlog, hstream, Fifo.log_pop, Fifo.log_push, List.map_cons, List.flatten_cons,
          List.append_assoc]

/-- The step lemma: a call pushes the data that it passes to `write_encrypted`. -/
lemma TunnelCall.run_spec (h : l.InBounds) (call : TunnelCall) :
    ∃ l', call.run test l = some l' ∧ l'.InBounds ∧
      l'.stream.log = l.stream.log ++ call.data := by
  cases call with
  | writeEncrypted data answer =>
      obtain ⟨l', n, hrun, hl', hstream⟩ := writeEncrypted_spec test h data answer
      refine ⟨l', hrun, hl', ?_⟩
      rw [hstream, Fifo.log_pop, Fifo.log_push]
      rfl
  | onWritable answer flush =>
      obtain ⟨mid, n, hoffer, hmid, hstream⟩ := offerBuffered_spec h answer
      obtain ⟨l', hflush, hl', hlog⟩ := flushWrites_spec test hmid flush
      refine ⟨l', ?_, hl', ?_⟩
      · rw [TunnelCall.run, TorOnion.onWritable, hoffer]
        exact hflush
      · rw [hlog, hstream, Fifo.log_pop]
        rfl

/-- The run lemma. -/
lemma runTunnel_spec (h : l.InBounds) (calls : List TunnelCall) :
    ∃ l', runTunnel test l calls = some l' ∧ l'.InBounds ∧
      l'.stream.log = l.stream.log ++ (calls.map TunnelCall.data).flatten := by
  induction calls generalizing l with
  | nil => exact ⟨l, rfl, h, (List.append_nil _).symm⟩
  | cons call calls ih =>
      obtain ⟨mid, hcall, hmid, hlog⟩ := call.run_spec test h
      obtain ⟨l', hrest, hl', hlog'⟩ := ih hmid
      refine ⟨l', ?_, hl', ?_⟩
      · rw [runTunnel, List.foldlM_cons, hcall]
        exact hrest
      · rw [hlog', hlog, List.map_cons, List.flatten_cons, List.append_assoc]

/-- **The tunnel delivers the TLS stream exactly.**  From the moment a tunnel is attached, no run
of its calls panics, and what the socket has accepted followed by the unsent part of the buffer
is all that was passed to `write_encrypted`, in call order. -/
theorem tunnel_delivers (test : StreamBuffer.NotEmptyTest) (socket : TunnelSocket)
    (calls : List TunnelCall) :
    ∃ l, runTunnel test (.attached socket) calls = some l ∧
      l.accepted ++ l.tunnel.writeBuffer.slice = (calls.map TunnelCall.data).flatten := by
  have hattached : (Link.attached socket).InBounds := StreamBuffer.inBounds_default
  obtain ⟨l, hrun, -, hlog⟩ := runTunnel_spec test hattached calls
  exact ⟨l, hrun, hlog⟩

/-- A test that looks at the whole buffer. -/
def StreamBuffer.NotEmptyTest.ofList : StreamBuffer.NotEmptyTest where
  isNotEmpty b := !b.list.isEmpty
  isNotEmpty_reset _ := rfl
  isNotEmpty_of_slice b h := by
    cases hlist : b.list with
    | nil => exact absurd (by rw [StreamBuffer.slice, hlist, List.drop_nil]) h
    | cons => rfl

/-- A socket that takes at most `n` bytes. -/
def SocketAnswer.upTo (n : ℕ) : SocketAnswer where
  written data := (min n data.length : ℕ)
  nonneg _ := Int.natCast_nonneg _
  le_length _ := Int.ofNat_le.mpr (Nat.min_le_right ..)

/-- Back-pressure on both paths, and a record that the session writes while older bytes wait. -/
example : (runTunnel .ofList (.attached .ssl)
    [.writeEncrypted [1, 2, 3] (.upTo 1), .onWritable (.upTo 1) [([4, 5], .upTo 9)],
      .onWritable (.upTo 2) []]).map (fun l => (l.accepted, l.tunnel.writeBuffer.slice)) =
    some ([1, 2, 3, 4], [5]) := rfl

end TorOnion
