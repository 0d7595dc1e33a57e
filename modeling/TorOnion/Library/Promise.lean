import Mathlib.Data.List.Basic
import Mathlib.Logic.Function.Iterate

/-!
# Promises

A promise of JavaScript: reactions that are registered with `then` wait until it is resolved, or
go to the queue of jobs at once when it has been; the first value that it is resolved with
counts.  `log` is all reactions that were registered, oldest first.  Resolving and running jobs
leave it as it is (`log_resolve`, `log_runJob`), so the reactions run in the order in which they
were registered, each once, and whether a reaction was registered before or after the promise was
resolved makes no difference.
-/

namespace TorOnion

/-- A promise of an `α`, with the reactions that wait for it, the jobs that are queued, and those
that have run. -/
structure Promise (α ρ : Type*) where
  value : Option α := none
  reactions : List ρ := []
  jobs : List (α × ρ) := []
  ran : List (α × ρ) := []

namespace Promise

variable {α ρ : Type*} (p : Promise α ρ)

/-- `then`. -/
def react (r : ρ) : Promise α ρ :=
  match p.value with
  | none => { p with reactions := p.reactions ++ [r] }
  | some v => { p with jobs := p.jobs ++ [(v, r)] }

def resolve (v : α) : Promise α ρ :=
  match p.value with
  | none =>
      { p with
        value := some v
        reactions := []
        jobs := p.jobs ++ p.reactions.map (Prod.mk v) }
  | some _ => p

/-- The oldest job runs. -/
def runJob : Promise α ρ :=
  match p.jobs with
  | [] => p
  | job :: jobs => { p with jobs := jobs, ran := p.ran ++ [job] }

/-- All reactions that were registered, oldest first. -/
def log : List ρ := (p.ran ++ p.jobs).map Prod.snd ++ p.reactions

/-- Reactions wait for a promise that is not resolved, and get what it was resolved with. -/
structure Sound (p : Promise α ρ) : Prop where
  reactions : p.value ≠ none → p.reactions = []
  values : ∀ job ∈ p.ran ++ p.jobs, p.value = some job.1

variable {p}

lemma react_of_none (h : p.value = none) (r : ρ) :
    p.react r = { p with reactions := p.reactions ++ [r] } := by
  rw [react, h]

lemma react_of_some {v : α} (h : p.value = some v) (r : ρ) :
    p.react r = { p with jobs := p.jobs ++ [(v, r)] } := by
  rw [react, h]

lemma resolve_of_none (h : p.value = none) (v : α) :
    p.resolve v = { p with
      value := some v
      reactions := []
      jobs := p.jobs ++ p.reactions.map (Prod.mk v) } := by
  rw [resolve, h]

lemma resolve_of_some {v : α} (h : p.value = some v) (w : α) : p.resolve w = p := by
  rw [resolve, h]

lemma sound_empty : ({} : Promise α ρ).Sound := ⟨fun _ => rfl, fun _ h => absurd h List.not_mem_nil⟩

lemma Sound.react (h : p.Sound) (r : ρ) : (p.react r).Sound := by
  cases hvalue : p.value with
  | none =>
      rw [react_of_none hvalue]
      exact ⟨fun hsome => absurd hvalue hsome, h.values⟩
  | some v =>
      rw [react_of_some hvalue]
      refine ⟨h.reactions, fun job hjob => ?_⟩
      rw [← List.append_assoc] at hjob
      rcases List.mem_append.mp hjob with hold | hnew
      · exact h.values job hold
      · obtain rfl := List.mem_singleton.mp hnew
        exact hvalue

lemma Sound.resolve (h : p.Sound) (v : α) : (p.resolve v).Sound := by
  cases hvalue : p.value with
  | none =>
      rw [resolve_of_none hvalue]
      refine ⟨fun _ => rfl, fun job hjob => ?_⟩
      rw [← List.append_assoc] at hjob
      rcases List.mem_append.mp hjob with hold | hnew
      · exact absurd (hvalue.symm.trans (h.values job hold)) nofun
      · obtain ⟨r, -, rfl⟩ := List.mem_map.mp hnew
        rfl
  | some w =>
      rw [resolve_of_some hvalue]
      exact h

lemma ran_append_jobs_runJob : p.runJob.ran ++ p.runJob.jobs = p.ran ++ p.jobs := by
  rw [runJob]
  split
  · rfl
  · next hjobs => rw [hjobs, List.append_assoc, List.singleton_append]

@[simp] lemma value_runJob : p.runJob.value = p.value := by
  rw [runJob]
  split <;> rfl

@[simp] lemma reactions_runJob : p.runJob.reactions = p.reactions := by
  rw [runJob]
  split <;> rfl

lemma Sound.runJob (h : p.Sound) : p.runJob.Sound := by
  constructor
  · rw [value_runJob, reactions_runJob]
    exact h.reactions
  · rw [ran_append_jobs_runJob, value_runJob]
    exact h.values

/-- A new reaction is the last one. -/
lemma Sound.log_react (h : p.Sound) (r : ρ) : (p.react r).log = p.log ++ [r] := by
  cases hvalue : p.value with
  | none => rw [react_of_none hvalue, log, log, List.append_assoc]
  | some v =>
      have hnone : p.reactions = [] := h.reactions (by rw [hvalue]; exact Option.some_ne_none v)
      rw [react_of_some hvalue, log, log, hnone, List.append_nil, List.append_nil,
        ← List.append_assoc, List.map_append]
      rfl

lemma log_resolve (v : α) : (p.resolve v).log = p.log := by
  cases hvalue : p.value with
  | none =>
      have hsnd : (p.reactions.map (Prod.mk v)).map Prod.snd = p.reactions := by
        rw [List.map_map]
        exact List.map_id _
      rw [resolve_of_none hvalue, log, log, List.append_nil, ← List.append_assoc,
        List.map_append, hsnd]
  | some w => rw [resolve_of_some hvalue]

lemma log_runJob : p.runJob.log = p.log := by
  rw [log, log, ran_append_jobs_runJob, reactions_runJob]

@[simp] lemma value_react (r : ρ) : (p.react r).value = p.value := by
  rw [react]
  split <;> rfl

/-- The first value counts. -/
lemma value_resolve (v : α) : (p.resolve v).value = some (p.value.getD v) := by
  cases hvalue : p.value with
  | none => rw [resolve_of_none hvalue, Option.getD_none]
  | some w => rw [resolve_of_some hvalue, hvalue, Option.getD_some]

/-- What has run are the oldest reactions. -/
lemma ran_prefix : p.ran.map Prod.snd <+: p.log := by
  rw [log, List.map_append, List.append_assoc]
  exact List.prefix_append ..

/-- With as many jobs as are queued, all of them have run. -/
lemma jobs_runJob (n : ℕ) (h : p.jobs.length = n) : (runJob^[n] p).jobs = [] := by
  induction n generalizing p with
  | zero => exact List.length_eq_zero_iff.mp h
  | succ n ih =>
      rw [Function.iterate_succ_apply]
      refine ih ?_
      rw [runJob]
      split
      · next hjobs => rw [hjobs] at h; exact absurd h nofun
      · next hjobs => rw [hjobs] at h; exact Nat.succ.inj h

lemma iterate_runJob (n : ℕ) : (p.Sound → (runJob^[n] p).Sound) ∧
    (runJob^[n] p).log = p.log ∧ (runJob^[n] p).value = p.value := by
  induction n generalizing p with
  | zero => exact ⟨id, rfl, rfl⟩
  | succ n ih =>
      rw [Function.iterate_succ_apply]
      obtain ⟨hsound, hlog, hvalue⟩ := ih (p := p.runJob)
      exact ⟨fun h => hsound h.runJob, hlog.trans log_runJob, hvalue.trans value_runJob⟩

/-- Once a promise is resolved and its jobs have run, every reaction has run, in order, with the
value. -/
lemma Sound.ran_all (h : p.Sound) {v : α} (hvalue : p.value = some v) :
    (Promise.runJob^[p.jobs.length] p).ran = p.log.map (Prod.mk v) := by
  obtain ⟨hsound, hlog, hkept⟩ := iterate_runJob (p := p) p.jobs.length
  have hdone := hsound h
  rw [hvalue] at hkept
  have hreactions := hdone.reactions (by rw [hkept]; exact Option.some_ne_none v)
  have hran : ∀ job ∈ (Promise.runJob^[p.jobs.length] p).ran, job.1 = v := by
    intro job hjob
    have hjob' := hdone.values job (List.mem_append_left _ hjob)
    exact (Option.some.inj (hkept.symm.trans hjob')).symm
  rw [← hlog, log, jobs_runJob _ rfl, hreactions, List.append_nil, List.append_nil, List.map_map]
  refine (List.map_id _).symm.trans (List.map_congr_left fun job hjob => ?_)
  exact Prod.ext (hran job hjob) rfl

end Promise

end TorOnion
