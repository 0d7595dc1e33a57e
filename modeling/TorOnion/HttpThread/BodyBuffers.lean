import Mathlib.Data.List.Perm.Basic
import Mathlib.Tactic

/-!
# The buffers of request bodies: `http_thread.rs`

A request body that is large is sent from a `HeapRequestBodyBuffer`.  The thread keeps one of them
when its user drops it, and hands it to the next; what is dropped while one is kept is freed.

Every heap buffer that was ever allocated is at one place at a time: with one user, kept by the
thread, or freed.  So no two requests share a buffer, and none is handed out after it was freed.
The numbers of the allocations are the identities of the buffers; their bytes are left out.
-/

namespace TorOnion

/-- `REQUEST_BODY_SEND_STACK_BUFFER_SIZE`. -/
def requestBodySendStackBufferSize : ℕ := 32 * 1024

/-- A `HeapRequestBodyBuffer`, with the number of its allocation. -/
structure HeapRequestBodyBuffer where
  id : ℕ
  cursor : ℕ
  deriving DecidableEq

/-- `RequestBodyBuffer`. -/
inductive RequestBodyBuffer
  | heap (buffer : Option HeapRequestBodyBuffer)
  | stack
  deriving DecidableEq

namespace RequestBodyBuffer

/-- The length of `allocated_slice`, if `unwrap` does not panic. -/
def allocatedSlice : RequestBodyBuffer → Option ℕ
  | heap (some _) => some (512 * 1024)
  | heap none => none
  | stack => some requestBodySendStackBufferSize

/-- The heap buffer, if it is one. -/
def ids : RequestBodyBuffer → List ℕ
  | heap buffer => (buffer.map HeapRequestBodyBuffer.id).toList
  | stack => []

end RequestBodyBuffer

/-- What the thread keeps, and the buffers that are in use, with the history of heap buffers. -/
structure BodyBuffers where
  lazyRequestBodyBuffer : Option HeapRequestBodyBuffer := none
  out : List RequestBodyBuffer := []
  allocated : ℕ := 0
  freed : List ℕ := []

namespace BodyBuffers

/-! ## The source -/

/-- `HeapRequestBodyBuffer::init`. -/
def init (t : BodyBuffers) : HeapRequestBodyBuffer × BodyBuffers :=
  (⟨t.allocated, 0⟩, { t with allocated := t.allocated + 1 })

/-- `HeapRequestBodyBuffer::put`. -/
def put (buffer : HeapRequestBodyBuffer) (t : BodyBuffers) : BodyBuffers :=
  if t.lazyRequestBodyBuffer.isNone then
    { t with lazyRequestBodyBuffer := some { buffer with cursor := 0 } }
  else { t with freed := t.freed ++ [buffer.id] }

/-- `Drop` of a `RequestBodyBuffer`. -/
def dropBuffer (b : RequestBodyBuffer) (t : BodyBuffers) : BodyBuffers :=
  match b with
  | .heap (some h) => t.put h
  | .heap none => t
  | .stack => t

/-- `get_request_body_send_buffer`. -/
def getRequestBodySendBuffer (estimatedSize : ℕ) (t : BodyBuffers) :
    RequestBodyBuffer × BodyBuffers :=
  if requestBodySendStackBufferSize ≤ estimatedSize then
    if t.lazyRequestBodyBuffer.isNone then
      let (buffer, t) := t.init
      (.heap (some buffer), t)
    else (.heap t.lazyRequestBodyBuffer, { t with lazyRequestBodyBuffer := none })
  else (.stack, t)

/-! ## Steps -/

inductive Label
  | get (estimatedSize : ℕ)
  /-- The `i`-th user moves the cursor of its buffer. -/
  | use (i cursor : ℕ)
  /-- The `i`-th user drops its buffer. -/
  | drop (i : ℕ)

/-- The cursor of a heap buffer is moved. -/
def moveCursor (cursor : ℕ) : RequestBodyBuffer → RequestBodyBuffer
  | .heap (some h) => .heap (some { h with cursor })
  | b => b

def step (t : BodyBuffers) : Label → BodyBuffers
  | .get estimatedSize =>
      let (b, t) := t.getRequestBodySendBuffer estimatedSize
      { t with out := t.out ++ [b] }
  | .use i cursor => { t with out := t.out.modify i (moveCursor cursor) }
  | .drop i =>
      match t.out[i]? with
      | some b => { t with out := t.out.eraseIdx i }.dropBuffer b
      | none => t

/-! ## The places of a buffer -/

/-- The heap buffers in use, the one that is kept, and the freed ones. -/
def places (t : BodyBuffers) : List ℕ :=
  t.out.flatMap RequestBodyBuffer.ids ++
    ((t.lazyRequestBodyBuffer.map HeapRequestBodyBuffer.id).toList ++ t.freed)

/-- The invariant. -/
structure Inv (t : BodyBuffers) : Prop where
  places : t.places.Perm (List.range t.allocated)
  reset : ∀ h ∈ t.lazyRequestBodyBuffer, h.cursor = 0
  whole : ∀ b ∈ t.out, b ≠ .heap none

variable {t : BodyBuffers}

/-- A buffer that is handed out is a whole one. -/
lemma whole_append {b : RequestBodyBuffer} (h : ∀ b ∈ t.out, b ≠ .heap none) (hb : b ≠ .heap none) :
    ∀ c ∈ t.out ++ [b], c ≠ .heap none := by
  intro c hc
  rcases List.mem_append.mp hc with hold | hnew
  · exact h c hold
  · exact List.mem_singleton.mp hnew ▸ hb

/-- What is kept moves to the user; else a new buffer is allocated. -/
lemma Inv.get (h : t.Inv) (estimatedSize : ℕ) : (t.step (.get estimatedSize)).Inv := by
  obtain ⟨hplaces, hreset, hwhole⟩ := h
  rw [BodyBuffers.places] at hplaces
  by_cases hlarge : requestBodySendStackBufferSize ≤ estimatedSize
  · cases hlazy : t.lazyRequestBodyBuffer with
    | none =>
        have hget : t.step (.get estimatedSize) =
            { t with
              out := t.out ++ [.heap (some ⟨t.allocated, 0⟩)]
              allocated := t.allocated + 1 } := by
          simp only [step, getRequestBodySendBuffer, if_pos hlarge, hlazy, Option.isNone_none,
            if_true, init]
        rw [hget]
        refine ⟨?_, hreset, whole_append hwhole nofun⟩
        show ((t.out ++ [_]).flatMap RequestBodyBuffer.ids ++ _).Perm (List.range (t.allocated + 1))
        rw [List.range_succ, List.flatMap_append, List.append_assoc]
        refine List.Perm.trans ?_ (hplaces.append_right [t.allocated])
        rw [List.append_assoc]
        exact List.perm_append_comm.append_left _
    | some buffer =>
        have hget : t.step (.get estimatedSize) =
            { t with out := t.out ++ [.heap (some buffer)], lazyRequestBodyBuffer := none } := by
          simp only [step, getRequestBodySendBuffer, if_pos hlarge, hlazy, Option.isNone_some,
            Bool.false_eq_true, if_false]
        rw [hget]
        refine ⟨?_, nofun, whole_append hwhole nofun⟩
        show ((t.out ++ [_]).flatMap RequestBodyBuffer.ids ++ _).Perm (List.range t.allocated)
        rw [hlazy] at hplaces
        rw [List.flatMap_append, List.append_assoc]
        exact hplaces
  · have hget : t.step (.get estimatedSize) = { t with out := t.out ++ [.stack] } := by
      simp only [step, getRequestBodySendBuffer, if_neg hlarge]
    rw [hget]
    refine ⟨?_, hreset, whole_append hwhole nofun⟩
    show ((t.out ++ [_]).flatMap RequestBodyBuffer.ids ++ _).Perm (List.range t.allocated)
    rw [List.flatMap_append, List.append_assoc]
    exact hplaces

/-- Moving a cursor changes no identity. -/
lemma Inv.use (h : t.Inv) (i cursor : ℕ) : (t.step (.use i cursor)).Inv := by
  obtain ⟨hplaces, hreset, hwhole⟩ := h
  rcases Nat.lt_or_ge i t.out.length with hi | hi
  · obtain ⟨pre, b, post, hout, -, hmodify⟩ := List.exists_of_modify (moveCursor cursor) hi
    have hstep : t.step (.use i cursor) = { t with out := pre ++ moveCursor cursor b :: post } := by
      rw [step, hmodify]
    have hids : (moveCursor cursor b).ids = b.ids := by
      rcases b with (_ | _) | _ <;> rfl
    rw [BodyBuffers.places, hout] at hplaces
    rw [hout] at hwhole
    rw [hstep]
    refine ⟨?_, hreset, fun c hc => ?_⟩
    · show ((pre ++ moveCursor cursor b :: post).flatMap RequestBodyBuffer.ids ++ _).Perm _
      rw [List.flatMap_append, List.flatMap_cons, hids, ← List.flatMap_cons, ← List.flatMap_append]
      exact hplaces
    · rcases List.mem_append.mp hc with hpre | hpost
      · exact hwhole c (List.mem_append_left _ hpre)
      · rcases List.mem_cons.mp hpost with rfl | hpost
        · have hb := hwhole b (List.mem_append_right _ List.mem_cons_self)
          rcases b with (_ | _) | _
          · exact absurd rfl hb
          · exact nofun
          · exact nofun
        · exact hwhole c (List.mem_append_right _ (List.mem_cons_of_mem _ hpost))
  · have hstep : t.step (.use i cursor) = t := by
      rw [step, List.modify_eq_self hi]
    rw [hstep]
    exact ⟨hplaces, hreset, hwhole⟩

/-- A buffer moves from its user to the freed ones. -/
lemma perm_freed (id : ℕ) (out kept freed : List ℕ) :
    (out ++ (kept ++ (freed ++ [id]))).Perm ([id] ++ out ++ (kept ++ freed)) := by
  rw [← List.append_assoc kept, ← List.append_assoc out, List.append_assoc [id]]
  exact List.perm_append_comm

/-- What is dropped is kept, or freed. -/
lemma Inv.drop (h : t.Inv) (i : ℕ) : (t.step (.drop i)).Inv := by
  obtain ⟨hplaces, hreset, hwhole⟩ := h
  cases hi : t.out[i]? with
  | none =>
      rw [step, hi]
      exact ⟨hplaces, hreset, hwhole⟩
  | some b =>
      obtain ⟨hlt, rfl⟩ := List.getElem?_eq_some_iff.mp hi
      have hperm : (t.out[i].ids ++ (t.out.eraseIdx i).flatMap RequestBodyBuffer.ids).Perm
          (t.out.flatMap RequestBodyBuffer.ids) :=
        (List.getElem_cons_eraseIdx_perm hlt).flatMap_right _
      have hkept : ∀ c ∈ t.out.eraseIdx i, c ≠ .heap none :=
        fun c hc => hwhole c (List.mem_of_mem_eraseIdx hc)
      have hplaces' := (hperm.append_right _).trans hplaces
      rw [step, hi]
      show ({ t with out := t.out.eraseIdx i }.dropBuffer t.out[i]).Inv
      cases hb : t.out[i] with
      | stack =>
          rw [hb] at hplaces'
          exact ⟨hplaces', hreset, hkept⟩
      | heap buffer =>
          rw [hb] at hplaces'
          cases buffer with
          | none => exact absurd hb (hwhole _ (List.getElem_mem hlt))
          | some buffer =>
              by_cases hnone : t.lazyRequestBodyBuffer.isNone
              · have hput : { t with out := t.out.eraseIdx i }.put buffer =
                    { t with
                      out := t.out.eraseIdx i
                      lazyRequestBodyBuffer := some { buffer with cursor := 0 } } := if_pos hnone
                rw [dropBuffer, hput]
                rw [Option.isNone_iff_eq_none.mp hnone] at hplaces'
                refine ⟨?_, ?_, hkept⟩
                · refine List.Perm.trans ?_ hplaces'
                  rw [List.append_assoc]
                  exact List.perm_append_comm_assoc ..
                · intro h hh
                  obtain rfl := Option.some.inj hh
                  rfl
              · have hput : { t with out := t.out.eraseIdx i }.put buffer =
                    { t with out := t.out.eraseIdx i, freed := t.freed ++ [buffer.id] } :=
                  if_neg hnone
                rw [dropBuffer, hput]
                refine ⟨?_, hreset, hkept⟩
                exact (perm_freed ..).trans hplaces'

/-- The run lemma. -/
lemma inv_foldl (h : t.Inv) (labels : List Label) : (labels.foldl step t).Inv := by
  induction labels generalizing t with
  | nil => exact h
  | cons label labels ih =>
      apply ih
      cases label with
      | get estimatedSize => exact h.get estimatedSize
      | use i cursor => exact h.use i cursor
      | drop i => exact h.drop i

/-- **Request bodies have their buffers to themselves.**  However buffers are asked for, used and
dropped, each heap buffer that was ever allocated is at one place: with one user, kept by the
thread, or freed; one at most is kept, and its cursor is reset.  `allocated_slice` does not panic,
for any buffer in use or for the next one that is asked for, which is allocated only if the body
is large and none is kept. -/
theorem request_bodies_apart (labels : List Label) :
    let t := labels.foldl step {}
    (t.out.flatMap RequestBodyBuffer.ids ++
        ((t.lazyRequestBodyBuffer.map HeapRequestBodyBuffer.id).toList ++ t.freed)).Perm
      (List.range t.allocated) ∧
    (∀ h ∈ t.lazyRequestBodyBuffer, h.cursor = 0) ∧
    (∀ b ∈ t.out, b.allocatedSlice ≠ none) ∧
    ∀ estimatedSize, let (b, t') := t.getRequestBodySendBuffer estimatedSize
      b.allocatedSlice =
          some (if estimatedSize < requestBodySendStackBufferSize then
            requestBodySendStackBufferSize else 512 * 1024) ∧
        (t'.allocated ≠ t.allocated ↔
          requestBodySendStackBufferSize ≤ estimatedSize ∧ t.lazyRequestBodyBuffer = none) := by
  intro t
  have hinv : t.Inv := inv_foldl ⟨.refl _, fun h hh => absurd hh (Option.not_mem_none h),
    fun b hb => absurd hb List.not_mem_nil⟩ labels
  refine ⟨hinv.places, hinv.reset, fun b hb => ?_, fun estimatedSize => ?_⟩
  · have hwhole := hinv.whole b hb
    rcases b with (_ | _) | _
    · exact absurd rfl hwhole
    · exact nofun
    · exact nofun
  · rw [getRequestBodySendBuffer]
    by_cases hlarge : requestBodySendStackBufferSize ≤ estimatedSize
    · rw [if_pos hlarge, if_neg (Nat.not_lt.mpr hlarge)]
      cases hlazy : t.lazyRequestBodyBuffer with
      | none =>
          rw [Option.isNone_none, if_pos rfl]
          exact ⟨rfl, iff_of_true (Nat.succ_ne_self _) ⟨hlarge, rfl⟩⟩
      | some buffer =>
          rw [Option.isNone_some, if_neg nofun]
          exact ⟨rfl, iff_of_false (fun h => h rfl) (fun h => nomatch h.2)⟩
    · rw [if_neg hlarge, if_pos (Nat.lt_of_not_le hlarge)]
      exact ⟨rfl, iff_of_false (fun h => h rfl) (fun h => hlarge h.1)⟩

end BodyBuffers

end TorOnion
