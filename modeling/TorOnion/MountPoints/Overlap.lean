import TorOnion.Library.Runs
import TorOnion.MountPoints.Maps

/-!
# Mount points do not overlap

What `ValidateNewMountPoint` achieves by looking at two neighbours of a path.

`Consistent` is the invariant of a registry: its two maps tell of the same file systems, and no
path of `path_to_name_map_` extends another.  That the two neighbours suffice is an argument
about strings.  An ancestor comes before a path and a descendant after it, and what lies in
between extends the ancestor, or the path (`FilePath.prefix_of_between`); since the keys do not
extend each other, a related key is a neighbour.

The argument needs that an ancestor is also a prefix as a string.  Repeated separators break
this, since `NormalizeFilePath` leaves those inside a path alone, so the result is about runs in
which related paths are spelled alike (`SpelledAlike`).
-/

namespace TorOnion

open Relation (ReflTransGen)

/-! ## Overlap -/

/-- One of the paths is the other or an ancestor of it: its components start the other's. -/
def Related (p q : FilePath) : Prop :=
  p.components <+: q.components ∨ q.components <+: p.components

/-- Paths that are related by their components are related by their strings. -/
def SpelledAlike (p q : FilePath) : Prop :=
  (p.components <+: q.components → p.value <+: q.value) ∧
    (q.components <+: p.components → q.value <+: p.value)

/-- No two registered file systems overlap whose types forbid it. -/
def NoOverlap {O : Type} (s : ExternalMountPoints O) : Prop :=
  ∀ name₁ name₂ inst₁ inst₂, name₁ ≠ name₂ →
    s.instanceMap.lookup name₁ = some inst₁ → s.instanceMap.lookup name₂ = some inst₂ →
    isOverlappingMountPathForbidden inst₁.type = true →
    isOverlappingMountPathForbidden inst₂.type = true →
    inst₁.path.value ≠ [] → inst₂.path.value ≠ [] → ¬ Related inst₁.path inst₂.path

/-- A call that registers nothing under a path spelled unlike a related one. -/
def SpellsAlike {O : Type} (ops : FilePathOps) (s : ExternalMountPoints O) :
    MountCall O → Prop
  | .register mountName type mountOption path =>
      (registerFileSystem ops s mountName type mountOption path).1 = true →
        isOverlappingMountPathForbidden type = true → path.value ≠ [] →
          ∀ e ∈ s.pathToNameMap, SpelledAlike e.1 (normalizeFilePath ops path)
  | _ => True

/-! ## The neighbours -/

section Neighbours

variable {m : SortedMap FilePath MountName} {path : FilePath}

lemma hasPotentialChild_eq_false (h : hasPotentialChild m path = false) {e : FilePath × MountName}
    (he : m.upperBound path = some e) : e.1 ≠ path ∧ path.isParent e.1 = false := by
  simpa [hasPotentialChild, he] using h

/-- `IsParent` of related paths, unless their components are the same. -/
lemma isParent_of_extends {p q : FilePath} (hp : p.isAbsolute = true)
    (h : p.components <+: q.components) (hne : p.components ≠ q.components) :
    p.isParent q = true := by
  have hlen : p.components.length < q.components.length :=
    lt_of_le_of_ne h.length_le fun heq => hne (h.eq_of_length heq)
  have hroot : p.components ≠ [] := by simp [FilePath.components, hp]
  simpa [FilePath.isParent] using ⟨hroot, hlen, h⟩

lemma SpelledAlike.eq_of_components {p q : FilePath} (h : SpelledAlike p q)
    (heq : p.components = q.components) : p = q :=
  FilePath.ext ((h.1 (heq ▸ List.prefix_rfl)).eq_of_length_le
    (h.2 (heq ▸ List.prefix_rfl)).length_le)

/-- The entry up to a path is the ancestor of the path: what lies in between extends the
ancestor, and the keys do not extend each other. -/
lemma lastUpTo_of_ancestor
    (hdir : ∀ e ∈ m, e.1.value.getLast? = some sep ∧ e.1.isAbsolute = true)
    (hapart : ∀ e ∈ m, ∀ e' ∈ m, e.1.components <+: e'.1.components → e.1 = e'.1)
    {e : FilePath × MountName} (he : e ∈ m) (hpre : e.1.value <+: path.value) :
    m.lastUpTo path = some e := by
  have hle := FilePath.le_of_extends hpre
  cases hlast : m.lastUpTo path with
  | none => exact absurd hle (not_le.mpr (SortedMap.lastUpTo_none hlast e he))
  | some p =>
      obtain ⟨hp, hple, hmax⟩ := SortedMap.lastUpTo_spec hlast
      have hbetween := FilePath.prefix_of_between hpre (hmax e he hle) hple
      have hsame : e.1 = p.1 :=
        hapart e he p hp (FilePath.components_extend_of_extends (hdir e he).1 hbetween)
      rw [SortedMap.eq_of_mem he hp hsame]

/-- **Two neighbours suffice.**  When the keys do not extend each other, a path that passes
both checks is related to none of them. -/
lemma not_related_of_neighbours
    (hdir : ∀ e ∈ m, e.1.value.getLast? = some sep ∧ e.1.isAbsolute = true)
    (hapart : ∀ e ∈ m, ∀ e' ∈ m, e.1.components <+: e'.1.components → e.1 = e'.1)
    (hpath : path.value.getLast? = some sep) (habs : path.isAbsolute = true)
    (halike : ∀ e ∈ m, SpelledAlike e.1 path)
    (hparent : hasPotentialParent m path = false) (hchild : hasPotentialChild m path = false) :
    ∀ e ∈ m, ¬ Related e.1 path := by
  rintro e he (hup | hdown)
  · -- an ancestor is the entry up to the path
    have hlast := lastUpTo_of_ancestor hdir hapart he ((halike e he).1 hup)
    obtain ⟨hne, hnot⟩ := hasPotentialParent_eq_false hparent hlast
    have hcomp : e.1.components ≠ path.components :=
      fun heq => hne ((halike e he).eq_of_components heq)
    rw [isParent_of_extends (hdir e he).2 hup hcomp] at hnot
    cases hnot
  · -- a descendant: the entry above the path lies before it, so it descends from the path, too
    have hpre : path.value <+: e.1.value := (halike e he).2 hdown
    have hlt : path < e.1 :=
      lt_of_le_of_ne (FilePath.le_of_extends hpre) (ne_of_no_parent hparent e he).symm
    cases hupper : m.upperBound path with
    | none => exact absurd hlt (not_lt.mpr (SortedMap.upperBound_none hupper e he))
    | some c =>
        obtain ⟨hc, hclt, hmin⟩ := SortedMap.upperBound_spec hupper
        have hbetween := FilePath.prefix_of_between hpre hclt.le (hmin e he hlt)
        obtain ⟨hne, hnot⟩ := hasPotentialChild_eq_false hchild hupper
        have hcomp : path.components ≠ c.1.components :=
          fun heq => hne ((halike c hc).eq_of_components heq.symm)
        rw [isParent_of_extends habs
          (FilePath.components_extend_of_extends hpath hbetween) hcomp] at hnot
        cases hnot

end Neighbours

/-! ## The invariant -/

/-- The two maps tell of the same file systems, under absolute paths that do not extend each
other. -/
structure Consistent {O : Type} (ops : FilePathOps) (s : ExternalMountPoints O) : Prop where
  entry_of_instance : ∀ name inst, s.instanceMap.lookup name = some inst → inst.Indexed →
    (normalizeFilePath ops inst.path, name) ∈ s.pathToNameMap
  instance_of_entry : ∀ e ∈ s.pathToNameMap, ∃ inst,
    s.instanceMap.lookup e.2 = some inst ∧ inst.Indexed ∧ normalizeFilePath ops inst.path = e.1
  absolute : ∀ e ∈ s.pathToNameMap, e.1.isAbsolute = true
  apart : ∀ e ∈ s.pathToNameMap, ∀ e' ∈ s.pathToNameMap,
    e.1.components <+: e'.1.components → e.1 = e'.1

section Invariant

variable {O : Type} {ops : FilePathOps} {s : ExternalMountPoints O}

lemma Consistent.inStep (h : Consistent ops s) : InStep ops s := by
  refine fun e => ⟨h.instance_of_entry e, ?_⟩
  rintro ⟨inst, hlookup, hindexed, hkey⟩
  have hentry := h.entry_of_instance e.2 inst hlookup hindexed
  rwa [hkey] at hentry

/-- Maps that are in step are consistent when the keys do not extend each other. -/
lemma InStep.consistent (h : InStep ops s)
    (habsolute : ∀ e ∈ s.pathToNameMap, e.1.isAbsolute = true)
    (hapart : ∀ e ∈ s.pathToNameMap, ∀ e' ∈ s.pathToNameMap,
      e.1.components <+: e'.1.components → e.1 = e'.1) : Consistent ops s where
  entry_of_instance name inst hlookup hindexed := (h (_, name)).mpr ⟨inst, hlookup, hindexed, rfl⟩
  instance_of_entry e he := (h e).mp he
  absolute := habsolute
  apart := hapart

lemma consistent_create : Consistent ops (ExternalMountPoints.create O) := by
  refine inStep_create.consistent ?_ ?_
  all_goals
    intro e he
    exact absurd he SortedMap.not_mem_empty

lemma Consistent.key_dir (h : Consistent ops s) :
    ∀ e ∈ s.pathToNameMap, e.1.value.getLast? = some sep ∧ e.1.isAbsolute = true := by
  intro e he
  obtain ⟨inst, -, hindexed, hkey⟩ := h.instance_of_entry e he
  exact ⟨hkey ▸ getLast?_normalizeFilePath hindexed.2, h.absolute e he⟩

/-- A call that validates keeps the invariant when it spells related paths alike. -/
lemma Consistent.register (h : Consistent ops s) {mountName : MountName} {type : FileSystemType}
    {mountOption : O} {path : FilePath}
    (halike : SpellsAlike ops s (.register mountName type mountOption path)) :
    Consistent ops (registerFileSystem ops s mountName type mountOption path).2 := by
  have hstep := @InStep.register _ _ _ mountName type mountOption path h.inStep
  rcases registerFileSystem_cases ops s mountName type mountOption path with
    heq | ⟨s', heq, hvalid, -, hentries⟩
  · rw [heq]
    exact h
  · have halike' := halike (by rw [heq])
    rw [heq] at hstep ⊢
    simp only at hstep ⊢
    by_cases hindexed : (newInstance ops type mountOption path).Indexed
    · -- the new file system gets an entry, and no key is related to it
      have hne : path.value ≠ [] := fun hnil => hindexed.2 (path_newInstance_eq_nil.mpr hnil)
      obtain ⟨habs, hparent, hchild⟩ := (validateNewMountPoint_spec hvalid).2
        (indexed_newInstance.mp hindexed).1 (indexed_newInstance.mp hindexed).2
      have hunrelated := not_related_of_neighbours h.key_dir h.apart
        (getLast?_normalizeFilePath hne) habs (halike' hindexed.1 hne) hparent hchild
      refine hstep.consistent ?_ ?_
      · intro e he
        rcases (hentries e).mp he with he | ⟨-, rfl⟩
        · exact h.absolute e he
        · exact habs
      · intro e he e' he' hpre
        rcases (hentries e).mp he with he | ⟨-, rfl⟩ <;>
          rcases (hentries e').mp he' with he' | ⟨-, rfl⟩
        · exact h.apart e he e' he' hpre
        · exact absurd (.inl hpre) (hunrelated e he)
        · exact absurd (.inr hpre) (hunrelated e' he')
        · rfl
    · have hold : ∀ e, e ∈ s'.pathToNameMap → e ∈ s.pathToNameMap :=
        fun e he => ((hentries e).mp he).resolve_right fun hnew => hindexed hnew.1
      exact hstep.consistent (fun e he => h.absolute e (hold e he))
        fun e he e' he' => h.apart e (hold e he) e' (hold e' he')

lemma Consistent.revoke (h : Consistent ops s) (mountName : MountName) :
    Consistent ops (revokeFileSystem ops s mountName).2 := by
  have hold : ∀ e ∈ (revokeFileSystem ops s mountName).2.pathToNameMap, e ∈ s.pathToNameMap := by
    intro e he
    unfold revokeFileSystem at he
    split at he
    · exact he
    · next inst hinst => exact ((h.inStep.mem_revoke hinst e).mp he).1
  exact (h.inStep.revoke mountName).consistent (fun e he => h.absolute e (hold e he))
    fun e he e' he' => h.apart e (hold e he) e' (hold e' he')

/-- Every call that spells related paths alike keeps the invariant. -/
lemma Consistent.after (h : Consistent ops s) {call : MountCall O}
    (halike : SpellsAlike ops s call) : Consistent ops (s.after ops call) := by
  cases call with
  | register mountName type mountOption path => exact h.register halike
  | revoke mountName => exact h.revoke mountName
  | revokeAll => exact consistent_create

lemma components_normalizeFilePath {p : FilePath} (h : p.value ≠ []) :
    (normalizeFilePath ops p).components = p.components := by
  have hne : (normalizeFilePath ops p).value ≠ [] := by
    rwa [ne_eq, normalizeFilePath_eq_nil]
  rw [← @components_strip ops _ hne, strip_normalizeFilePath h, components_strip h]

/-- Under the invariant nothing overlaps. -/
lemma Consistent.noOverlap (h : Consistent ops s) : NoOverlap s := by
  intro name₁ name₂ inst₁ inst₂ hne h₁ h₂ hf₁ hf₂ hp₁ hp₂ hrelated
  have he₁ := h.entry_of_instance name₁ inst₁ h₁ ⟨hf₁, hp₁⟩
  have he₂ := h.entry_of_instance name₂ inst₂ h₂ ⟨hf₂, hp₂⟩
  have hkeys : normalizeFilePath ops inst₁.path = normalizeFilePath ops inst₂.path := by
    have h12 := h.apart _ he₁ _ he₂
    have h21 := h.apart _ he₂ _ he₁
    simp only [components_normalizeFilePath hp₁, components_normalizeFilePath hp₂] at h12 h21
    rcases hrelated with hpre | hpre
    · exact h12 hpre
    · exact (h21 hpre).symm
  exact hne (congrArg Prod.snd (SortedMap.eq_of_mem he₁ he₂ hkeys))

end Invariant

/-! ## Paths without repeated separators -/

/-- The string of a directory below the root. -/
def dirText (cs : List (List UInt8)) : List UInt8 := cs.flatMap fun c => c ++ [sep]

/-- Without repeated separators a directory is spelled as its names. -/
lemma eq_dirText_names (s : List UInt8) (hlast : s = [] ∨ s.getLast? = some sep)
    (hfirst : s.head? ≠ some sep) (hrepeat : ¬ [sep, sep] <:+: s) :
    s = dirText (FilePath.names s) := by
  by_cases hs : s = []
  · simp [hs, dirText]
  have hlast := hlast.resolve_left hs
  -- the first name and what follows its separator
  set c := s.takeWhile (· ≠ sep) with hc
  have hsplit : s = c ++ s.dropWhile (· ≠ sep) := (List.takeWhile_append_dropWhile ..).symm
  have hcsep : sep ∉ c := fun h => by simpa using List.mem_takeWhile_imp h
  have hcne : c ≠ [] := by
    cases s with
    | nil => exact absurd rfl hs
    | cons b s =>
        have hb : b ≠ sep := by simpa using hfirst
        simp [hc, hb]
  cases hrest : s.dropWhile (· ≠ sep) with
  | nil =>
      rw [hrest, List.append_nil] at hsplit
      exact absurd (List.mem_of_getLast? (hsplit ▸ hlast)) hcsep
  | cons b t =>
      have hb : b = sep := by
        have hstop := List.head?_dropWhile_not (fun x => decide (x ≠ sep)) s
        rw [hrest] at hstop
        simpa using hstop
      subst hb
      rw [hrest] at hsplit
      have hnames : FilePath.names s = c :: FilePath.names t := by
        conv_lhs => rw [hsplit]
        rw [FilePath.names_append]
        simp [FilePath.names, List.splitOn_eq_singleton hcsep, hcne]
      have hlen : t.length < s.length := by
        rw [hsplit]
        simp
        omega
      have hthead : t.head? ≠ some sep := by
        intro h
        obtain ⟨t', rfl⟩ := List.head?_eq_some_iff.mp h
        exact hrepeat ⟨c, t', by rw [hsplit]; simp⟩
      have htlast : t = [] ∨ t.getLast? = some sep := by
        by_cases ht : t = []
        · exact .inl ht
        · rw [hsplit, List.getLast?_append_of_ne_nil _ (by simp),
            List.getLast?_cons_of_ne_nil ht] at hlast
          exact .inr hlast
      have ih := eq_dirText_names t htlast hthead fun h =>
        hrepeat (h.trans ⟨c ++ [sep], [], by rw [hsplit]; simp⟩)
      rw [hnames, dirText, List.flatMap_cons, ← dirText, ← ih]
      conv_lhs => rw [hsplit]
      simp
termination_by s.length

/-- An absolute directory without repeated separators is the root and its names. -/
lemma eq_root_dirText {p : FilePath} (habs : p.isAbsolute = true)
    (hlast : p.value.getLast? = some sep) (hrepeat : ¬ [sep, sep] <:+: p.value) :
    ∃ cs, p.components = [sep] :: cs ∧ p.value = sep :: dirText cs := by
  obtain ⟨s, hs⟩ := List.head?_eq_some_iff.mp (by simpa [FilePath.isAbsolute] using habs)
  have hnames : FilePath.names p.value = FilePath.names s := by
    rw [hs, ← List.nil_append (sep :: s), FilePath.names_append]
    simp
  refine ⟨FilePath.names s, by simp [FilePath.components, habs, hnames], ?_⟩
  rw [hs, List.cons.injEq]
  refine ⟨rfl, eq_dirText_names s ?_ ?_ ?_⟩
  · by_cases hne : s = []
    · exact .inl hne
    · rw [hs, List.getLast?_cons_of_ne_nil hne] at hlast
      exact .inr hlast
  · intro h
    obtain ⟨t, rfl⟩ := List.head?_eq_some_iff.mp h
    exact hrepeat ⟨[], t, by simp [hs]⟩
  · exact fun h => hrepeat (h.trans ⟨[sep], [], by simp [hs]⟩)

/-- Absolute directories without repeated separators are spelled alike. -/
lemma spelledAlike_of_not_repeated {p q : FilePath} (hp : p.isAbsolute = true)
    (hp' : p.value.getLast? = some sep) (hprep : ¬ [sep, sep] <:+: p.value)
    (hq : q.isAbsolute = true) (hq' : q.value.getLast? = some sep)
    (hqrep : ¬ [sep, sep] <:+: q.value) : SpelledAlike p q := by
  obtain ⟨cs, hpc, hpv⟩ := eq_root_dirText hp hp' hprep
  obtain ⟨ds, hqc, hqv⟩ := eq_root_dirText hq hq' hqrep
  have hdir : ∀ {cs ds : List (List UInt8)}, [sep] :: cs <+: [sep] :: ds →
      sep :: dirText cs <+: sep :: dirText ds := by
    intro cs ds h
    obtain ⟨rest, rfl⟩ := (List.cons_prefix_cons.mp h).2
    exact ⟨dirText rest, by simp [dirText]⟩
  rw [SpelledAlike, hpc, hqc, hpv, hqv]
  exact ⟨hdir, hdir⟩

/-! ## Runs -/

section Runs

variable {O : Type} {ops : FilePathOps} {s : ExternalMountPoints O}

/-- **Registered file systems do not overlap**, in every run whose calls spell related paths
alike. -/
theorem noOverlap_of_run
    (hrun : ReflTransGen (fun s t => ∃ call, SpellsAlike ops s call ∧ t = s.after ops call)
      (ExternalMountPoints.create O) s) :
    NoOverlap s := by
  refine (invariant_of_run (I := Consistent ops) ?_ hrun consistent_create).noOverlap
  rintro s t h ⟨call, halike, rfl⟩
  exact h.after halike

end Runs

/-- Two file systems at `/a` and `/b/`. -/
theorem noOverlap_two :
    NoOverlap (((ExternalMountPoints.create Unit).after posixOps
      (.register (ascii "x") (.other 0) () ⟨ascii "/a"⟩)).after posixOps
      (.register (ascii "y") (.other 0) () ⟨ascii "/b/"⟩)) := by
  have hfirst : SpellsAlike posixOps (ExternalMountPoints.create Unit)
      (.register (ascii "x") (.other 0) () ⟨ascii "/a"⟩) :=
    fun _ _ _ e he => absurd he SortedMap.not_mem_empty
  have hsecond : SpellsAlike posixOps ((ExternalMountPoints.create Unit).after posixOps
      (.register (ascii "x") (.other 0) () ⟨ascii "/a"⟩))
      (.register (ascii "y") (.other 0) () ⟨ascii "/b/"⟩) := by
    intro _ _ _ e he
    obtain rfl : e = (⟨ascii "/a/"⟩, ascii "x") := List.mem_singleton.mp he
    exact spelledAlike_of_not_repeated (by decide) (by decide) (by decide) (by decide)
      (by decide) (by decide)
  exact @noOverlap_of_run _ posixOps _
    ((ReflTransGen.single ⟨_, hfirst, rfl⟩).tail ⟨_, hsecond, rfl⟩)

/-- `/a//b` and `/a/b` are one directory, and both are registered: the first differs from the
second as a string and has as many components, so neither check sees it. -/
theorem overlap_of_repeated_separator :
    ¬ NoOverlap (((ExternalMountPoints.create Unit).after posixOps
      (.register (ascii "x") (.other 0) () ⟨ascii "/a//b"⟩)).after posixOps
      (.register (ascii "y") (.other 0) () ⟨ascii "/a/b"⟩)) := by
  intro h
  refine h (ascii "x") (ascii "y") ⟨.other 0, ⟨ascii "/a//b"⟩, ()⟩ ⟨.other 0, ⟨ascii "/a/b"⟩, ()⟩
    (by decide) (by decide +kernel) (by decide +kernel) (by decide) (by decide) (by decide)
    (by decide) ?_
  exact .inl (by decide)

end TorOnion
