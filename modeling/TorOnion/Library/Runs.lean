import Mathlib.Data.List.Basic
import Mathlib.Logic.Relation
import Mathlib.Order.Basic

/-!
# Runs and logs

A run of a transition system is a chain of steps, the reflexive transitive closure
`Relation.ReflTransGen` of its step relation.  The two rules the developments below use: what
every step preserves holds wherever a run arrives, and what no step decreases no run decreases.
A step function makes runs out of lists of labels (`run_of_foldlM`); what every step of such a run
satisfies is `Along`.

What a run has done is recorded in a log, oldest event first.  `Always P log` says that every
event of the log satisfies `P` of the events before it; a log grows at its end, so the property
is checked of the new events only (`always_append`).
-/

namespace TorOnion

open Relation (ReflTransGen)

/-! ## Runs -/

section Runs

variable {σ : Type*} {step : σ → σ → Prop} {I : σ → Prop} {s t : σ}

/-- The invariant rule. -/
lemma invariant_of_run (hstep : ∀ s t, I s → step s t → I t) (hrun : ReflTransGen step s t)
    (hs : I s) : I t := by
  induction hrun with
  | refl => exact hs
  | tail _ h ih => exact hstep _ _ ih h

/-- Along a run through states with an invariant, a measure that no step decreases grows. -/
lemma le_of_run {β : Type*} [Preorder β] {f : σ → β}
    (hstep : ∀ s t, I s → step s t → I t) (hle : ∀ s t, I s → step s t → f s ≤ f t)
    (hrun : ReflTransGen step s t) (hs : I s) : f s ≤ f t := by
  induction hrun with
  | refl => exact le_rfl
  | tail hpre h ih => exact ih.trans (hle _ _ (invariant_of_run hstep hpre hs) h)

/-- A step function that is run along a list of labels makes a run. -/
lemma run_of_foldlM {ℓ : Type*} {next : σ → ℓ → Option σ} (labels : List ℓ)
    (h : labels.foldlM next s = some t) :
    ReflTransGen (fun s t => ∃ label, next s label = some t) s t := by
  induction labels generalizing s with
  | nil =>
      obtain rfl := Option.some.inj h
      exact .refl
  | cons label labels ih =>
      rw [List.foldlM_cons] at h
      obtain ⟨mid, hstep, hrest⟩ := Option.bind_eq_some_iff.mp h
      exact .head ⟨label, hstep⟩ (ih hrest)

/-- Where, under an invariant, every step of a kind decreases a measure, there are no more steps of
that kind in a row than the measure allows. -/
lemma length_le_of_invariant {ℓ : Type*} {next : σ → ℓ → Option σ} {P : ℓ → Prop} {f : σ → ℕ}
    (hstep : ∀ s label t, I s → next s label = some t → I t)
    (hlt : ∀ s label t, I s → P label → next s label = some t → f t < f s) (labels : List ℓ)
    (hP : ∀ label ∈ labels, P label) (h : labels.foldlM next s = some t) (hs : I s) :
    labels.length ≤ f s := by
  induction labels generalizing s with
  | nil => exact Nat.zero_le _
  | cons label labels ih =>
      rw [List.foldlM_cons] at h
      obtain ⟨mid, hmid, hrest⟩ := Option.bind_eq_some_iff.mp h
      have hlabel := hlt s label mid hs (hP label List.mem_cons_self) hmid
      have htail := ih (fun l hl => hP l (List.mem_cons_of_mem _ hl)) hrest
        (hstep s label mid hs hmid)
      rw [List.length_cons]
      omega

/-- Where every step of a kind decreases a measure, there are no more steps of that kind in a row
than the measure allows. -/
lemma length_le_of_foldlM {ℓ : Type*} {next : σ → ℓ → Option σ} {P : ℓ → Prop} {f : σ → ℕ}
    (hlt : ∀ s label t, P label → next s label = some t → f t < f s) (labels : List ℓ)
    (hP : ∀ label ∈ labels, P label) (h : labels.foldlM next s = some t) :
    labels.length ≤ f s :=
  length_le_of_invariant (I := fun _ => True) (fun _ _ _ _ _ => trivial)
    (fun s label t _ => hlt s label t) labels hP h trivial

/-- Every step of a run along a list of labels satisfies `P`. -/
def Along {ℓ : Type*} (next : σ → ℓ → Option σ) (P : σ → ℓ → σ → Prop) : σ → List ℓ → Prop
  | _, [] => True
  | s, label :: labels => ∀ t, next s label = some t → P s label t ∧ Along next P t labels

section Along

variable {ℓ : Type*} {next : σ → ℓ → Option σ} {P Q : σ → ℓ → σ → Prop} {label : ℓ}
  {labels : List ℓ}

lemma along_cons (h : next s label = some t) :
    Along next P s (label :: labels) ↔ P s label t ∧ Along next P t labels := by
  constructor
  · exact fun hall => hall t h
  · intro hall t' h'
    obtain rfl := Option.some.inj (h.symm.trans h')
    exact hall

lemma along_congr (h : ∀ s label t, next s label = some t → (P s label t ↔ Q s label t)) :
    Along next P s labels ↔ Along next Q s labels := by
  induction labels generalizing s with
  | nil => exact Iff.rfl
  | cons label labels ih => exact forall₂_congr fun t ht => and_congr (h s label t ht) ih

end Along

end Runs

/-! ## Logs -/

section Logs

variable {ε : Type*} {P : List ε → ε → Prop} {log new : List ε}

/-- Every event satisfies `P` of the events before it. -/
def Always (P : List ε → ε → Prop) (log : List ε) : Prop :=
  ∀ pre e post, log = pre ++ e :: post → P pre e

lemma always_nil : Always P [] := by
  intro pre e post h
  simp at h

/-- A log that grows is checked at its new events. -/
lemma always_append :
    Always P (log ++ new) ↔
      Always P log ∧ ∀ pre e post, new = pre ++ e :: post → P (log ++ pre) e := by
  constructor
  · intro h
    refine ⟨fun pre e post hlog => h pre e (post ++ new) ?_, fun pre e post hnew => ?_⟩
    · rw [hlog, List.append_assoc, List.cons_append]
    · refine h (log ++ pre) e post ?_
      rw [hnew, List.append_assoc]
  · rintro ⟨hold, hnew⟩ pre e post hsplit
    rcases List.append_eq_append_iff.mp hsplit with ⟨mid, hpre, hmid⟩ | ⟨mid, hlog, hmid⟩
    · exact hpre ▸ hnew mid e post hmid
    · cases mid with
      | nil =>
          rw [List.append_nil] at hlog
          simpa [hlog] using hnew [] e post (by simpa using hmid.symm)
      | cons d mid =>
          obtain ⟨rfl, -⟩ := List.cons.inj hmid
          exact hold pre e mid hlog

/-- An event of a log that has grown by one is the new event or stands in the old log. -/
lemma split_concat {e d : ε} {pre mid : List ε} (h : log ++ [e] = pre ++ d :: mid) :
    (log = pre ∧ e = d ∧ mid = []) ∨ ∃ mid', mid = mid' ++ [e] ∧ log = pre ++ d :: mid' := by
  rcases List.eq_nil_or_concat mid with rfl | ⟨mid', e', rfl⟩
  · obtain ⟨hlog, he⟩ := List.append_inj' h rfl
    exact .inl ⟨hlog, List.singleton_inj.mp he, rfl⟩
  · rw [List.concat_eq_append, ← List.cons_append, ← List.append_assoc] at h
    obtain ⟨hlog, he⟩ := List.append_inj' h rfl
    refine .inr ⟨mid', ?_, hlog⟩
    rw [List.concat_eq_append, List.singleton_inj.mp he]

/-- One new event is checked against the whole log. -/
lemma Always.concat {e : ε} (h : Always P log) (he : P log e) : Always P (log ++ [e]) := by
  refine always_append.mpr ⟨h, fun pre e' post hsplit => ?_⟩
  obtain ⟨rfl, rfl⟩ : pre = [] ∧ e = e' := by
    cases pre <;> simp_all
  rwa [List.append_nil]

/-- New events that satisfy `P` wherever they stand keep the property. -/
lemma Always.append (h : Always P log) (hnew : ∀ e ∈ new, ∀ pre, log <+: pre → P pre e) :
    Always P (log ++ new) := by
  refine always_append.mpr ⟨h, fun pre e post hsplit => hnew e ?_ _ (List.prefix_append ..)⟩
  rw [hsplit]
  exact List.mem_append_right _ List.mem_cons_self

end Logs

end TorOnion
