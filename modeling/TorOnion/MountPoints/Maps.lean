import TorOnion.MountPoints.Registry

/-!
# The two maps of the registry

`path_to_name_map_` is an index of `instance_map_`: it has one entry for each file system that
is `Indexed`, under its normalized path, and no others (`InStep`).

Registration validates before it stores, and what it stores under the normalized path is found
again by revocation, which normalizes the stripped path of the instance once more
(`normalizeFilePath_strip`).  The insertion is one, since a path that validates is not a key yet
(`ne_of_no_parent`).
-/

namespace TorOnion

/-- A file system that `path_to_name_map_` has an entry for. -/
def Instance.Indexed {O : Type} (inst : Instance O) : Prop :=
  isOverlappingMountPathForbidden inst.type = true ∧ inst.path.value ≠ []

/-- The entries are those of the indexed file systems. -/
def InStep {O : Type} (ops : FilePathOps) (s : ExternalMountPoints O) : Prop :=
  ∀ e, e ∈ s.pathToNameMap ↔ ∃ inst, s.instanceMap.lookup e.2 = some inst ∧ inst.Indexed ∧
    normalizeFilePath ops inst.path = e.1

section Maps

variable {O : Type} {ops : FilePathOps} {s : ExternalMountPoints O}
  {m : SortedMap FilePath MountName} {mountName : MountName} {type : FileSystemType}
  {mountOption : O} {path : FilePath}

/-! ## Validation -/

/-- The entry up to a path is neither the path nor a parent of it. -/
lemma hasPotentialParent_eq_false (h : hasPotentialParent m path = false) {e : FilePath × MountName}
    (he : m.lastUpTo path = some e) : e.1 ≠ path ∧ e.1.isParent path = false := by
  simpa [hasPotentialParent, he] using h

/-- A path that passes is not a key yet. -/
lemma ne_of_no_parent (h : hasPotentialParent m path = false) : ∀ e ∈ m, e.1 ≠ path := by
  intro e he hkey
  cases hlast : m.lastUpTo path with
  | none => exact absurd hkey (SortedMap.lastUpTo_none hlast e he).ne'
  | some p =>
      obtain ⟨-, hle, hmax⟩ := SortedMap.lastUpTo_spec hlast
      have hp : p.1 = path := le_antisymm hle (hkey ▸ hmax e he hkey.le)
      exact (hasPotentialParent_eq_false h hlast).1 hp

/-- What a successful validation has checked of a path that will be indexed. -/
lemma validateNewMountPoint_spec (h : validateNewMountPoint ops s mountName type path = true) :
    s.instanceMap.lookup mountName = none ∧
      (path.value ≠ [] → isOverlappingMountPathForbidden type = true →
        path.isAbsolute = true ∧ hasPotentialParent s.pathToNameMap path = false ∧
          hasPotentialChild s.pathToNameMap path = false) := by
  unfold validateNewMountPoint at h
  split_ifs at h with h1 h2 h3 h4 h5 h6 h7
  · exact ⟨by simpa using h2, fun hne => absurd h3 hne⟩
  · refine ⟨by simpa using h2, fun _ _ => ⟨?_, by simpa using h6, by simpa using h7⟩⟩
    simp only [Bool.or_eq_true, not_or, Bool.not_eq_true', Bool.not_eq_true] at h4
    simpa using h4.2
  · exact ⟨by simpa using h2, fun _ hforbidden => absurd hforbidden h5⟩

/-! ## The calls -/

/-- The instance that a registration stores. -/
def newInstance (ops : FilePathOps) (type : FileSystemType) (mountOption : O) (path : FilePath) :
    Instance O := Instance.make ops type (normalizeFilePath ops path) mountOption

/-- The key of the new instance is the path that was validated. -/
lemma key_newInstance : normalizeFilePath ops (newInstance ops type mountOption path).path =
    normalizeFilePath ops path :=
  normalizeFilePath_strip

lemma path_newInstance_eq_nil :
    (newInstance ops type mountOption path).path.value = [] ↔ path.value = [] := by
  rw [← @normalizeFilePath_eq_nil ops, key_newInstance, normalizeFilePath_eq_nil]

/-- The entry is made for exactly the instances that are indexed. -/
lemma indexed_newInstance : (newInstance ops type mountOption path).Indexed ↔
    (normalizeFilePath ops path).value ≠ [] ∧ isOverlappingMountPathForbidden type = true := by
  rw [Instance.Indexed, ne_eq, ne_eq, normalizeFilePath_eq_nil, path_newInstance_eq_nil]
  exact and_comm

/-- **What a registration does.**  It fails and changes nothing, or the name is new and the path
passes the checks, and the maps get the instance and its entry. -/
lemma registerFileSystem_cases (ops : FilePathOps) (s : ExternalMountPoints O)
    (mountName : MountName) (type : FileSystemType) (mountOption : O) (path : FilePath) :
    registerFileSystem ops s mountName type mountOption path = (false, s) ∨
      ∃ s', registerFileSystem ops s mountName type mountOption path = (true, s') ∧
        validateNewMountPoint ops s mountName type (normalizeFilePath ops path) = true ∧
        s'.instanceMap = s.instanceMap.insert mountName (newInstance ops type mountOption path) ∧
        ∀ e, e ∈ s'.pathToNameMap ↔ e ∈ s.pathToNameMap ∨
          ((newInstance ops type mountOption path).Indexed ∧
            e = (normalizeFilePath ops path, mountName)) := by
  unfold registerFileSystem
  by_cases hvalid : validateNewMountPoint ops s mountName type (normalizeFilePath ops path) = true
  · refine .inr ⟨_, if_pos hvalid, hvalid, rfl, fun e => ?_⟩
    by_cases hindexed : (newInstance ops type mountOption path).Indexed
    · obtain ⟨hne, hforbidden⟩ := indexed_newInstance.mp hindexed
      obtain ⟨-, hparent, -⟩ := (validateNewMountPoint_spec hvalid).2 hne hforbidden
      simp only [if_pos (indexed_newInstance.mp hindexed), SortedMap.mem_insert]
      have hnew := ne_of_no_parent hparent
      exact or_congr_right ⟨fun h => ⟨hindexed, h.1⟩, fun h => ⟨h.2, hnew⟩⟩
    · simp only [if_neg (mt indexed_newInstance.mpr hindexed)]
      exact ⟨.inl, fun h => h.resolve_right fun h => hindexed h.1⟩
  · exact .inl (if_neg hvalid)

/-- What is found after a registration was found before, or is the new instance. -/
lemma lookup_of_insert {m : AList fun _ : MountName => Instance O} {name mountName : MountName}
    {inst new : Instance O} (h : (m.insert mountName new).lookup name = some inst) :
    m.lookup name = some inst ∨ name = mountName ∧ inst = new := by
  by_cases hsame : name = mountName
  · rw [hsame, AList.lookup_insert, Option.some.injEq] at h
    exact .inr ⟨hsame, h.symm⟩
  · rw [AList.lookup_insert_ne hsame] at h
    exact .inl h

lemma inStep_create : InStep ops (ExternalMountPoints.create O) := by
  intro e
  refine iff_of_false SortedMap.not_mem_empty ?_
  rintro ⟨inst, hlookup, -⟩
  simp [ExternalMountPoints.create] at hlookup

lemma InStep.register (h : InStep ops s) :
    InStep ops (registerFileSystem ops s mountName type mountOption path).2 := by
  rcases registerFileSystem_cases ops s mountName type mountOption path with
    heq | ⟨s', heq, hvalid, hinstances, hentries⟩
  · rw [heq]
    exact h
  · rw [heq]
    intro e
    have hfresh := (validateNewMountPoint_spec hvalid).1
    rw [hentries, hinstances]
    by_cases hname : e.2 = mountName
    · -- the name had no instance, so it had no entry either
      have hold : e ∉ s.pathToNameMap := by
        intro he
        obtain ⟨inst, hlookup, -⟩ := (h e).mp he
        rw [hname, hfresh] at hlookup
        cases hlookup
      rw [hname, AList.lookup_insert]
      constructor
      · intro he
        obtain ⟨hindexed, rfl⟩ := he.resolve_left hold
        exact ⟨_, rfl, hindexed, key_newInstance⟩
      · rintro ⟨inst, hinst, hindexed, hkey⟩
        obtain rfl := Option.some.inj hinst
        exact .inr ⟨hindexed, Prod.ext (hkey.symm.trans key_newInstance) hname⟩
    · rw [AList.lookup_insert_ne hname, h e]
      exact ⟨fun he => he.resolve_right fun hnew => hname (congrArg Prod.snd hnew.2), .inl⟩

/-- The entries that are left after a revocation are those of the other names. -/
lemma InStep.mem_revoke (h : InStep ops s) {inst : Instance O}
    (hinst : s.instanceMap.lookup mountName = some inst) (e : FilePath × MountName) :
    e ∈ (if isOverlappingMountPathForbidden inst.type then
      s.pathToNameMap.erase (normalizeFilePath ops inst.path) else s.pathToNameMap) ↔
      e ∈ s.pathToNameMap ∧ e.2 ≠ mountName := by
  have hname : e ∈ s.pathToNameMap → e.2 = mountName →
      inst.Indexed ∧ normalizeFilePath ops inst.path = e.1 := by
    intro he heq
    obtain ⟨inst', hlookup, hindexed⟩ := (h e).mp he
    rw [heq, hinst, Option.some.injEq] at hlookup
    exact hlookup ▸ hindexed
  by_cases hforbidden : isOverlappingMountPathForbidden inst.type = true
  · rw [if_pos hforbidden, SortedMap.mem_erase]
    refine and_congr_right fun he => not_congr ⟨fun hkey => ?_, fun heq => ?_⟩
    · -- the key is the key of the revoked instance, which has an entry of its own
      obtain ⟨inst', -, hindexed', hkey'⟩ := (h e).mp he
      have hne : inst.path.value ≠ [] := by
        rw [ne_eq, ← @normalizeFilePath_eq_nil ops, ← hkey, ← hkey', normalizeFilePath_eq_nil]
        exact hindexed'.2
      have hentry := (h (normalizeFilePath ops inst.path, mountName)).mpr
        ⟨inst, hinst, ⟨hforbidden, hne⟩, rfl⟩
      exact congrArg Prod.snd (SortedMap.eq_of_mem he hentry hkey)
    · exact (hname he heq).2.symm
  · rw [if_neg hforbidden]
    exact ⟨fun he => ⟨he, fun heq => hforbidden (hname he heq).1.1⟩, And.left⟩

lemma InStep.revoke (h : InStep ops s) (mountName : MountName) :
    InStep ops (revokeFileSystem ops s mountName).2 := by
  unfold revokeFileSystem
  split
  · exact h
  · next inst hinst =>
      intro e
      rw [h.mem_revoke hinst e, h e]
      by_cases hname : e.2 = mountName
      · refine iff_of_false (fun he => he.2 hname) ?_
        rintro ⟨inst', hlookup, -⟩
        rw [hname, AList.lookup_erase] at hlookup
        cases hlookup
      · rw [AList.lookup_erase_ne hname]
        exact ⟨And.left, fun he => ⟨he, hname⟩⟩

lemma InStep.after (h : InStep ops s) (call : MountCall O) : InStep ops (s.after ops call) := by
  cases call with
  | register mountName type mountOption path => exact h.register
  | revoke mountName => exact h.revoke mountName
  | revokeAll => exact inStep_create

/-- A name has one entry at most. -/
lemma InStep.nodup_names (h : InStep ops s) : (s.pathToNameMap.entries.map Prod.snd).Nodup := by
  have hentries : s.pathToNameMap.entries.Nodup :=
    s.pathToNameMap.sorted.imp fun hlt heq => hlt.ne (congrArg Prod.fst heq)
  refine hentries.map_on fun e he e' he' hname => ?_
  obtain ⟨inst, hlookup, -, hkey⟩ := (h e).mp he
  obtain ⟨inst', hlookup', -, hkey'⟩ := (h e').mp he'
  rw [hname, hlookup', Option.some.injEq] at hlookup
  exact Prod.ext (by rw [← hkey, ← hkey', hlookup]) hname

/-! ## Runs -/

/-- The registry after a list of calls. -/
def ExternalMountPoints.afterAll (ops : FilePathOps) (calls : List (MountCall O)) :
    ExternalMountPoints O :=
  calls.foldl (fun s call => s.after ops call) (.create O)

lemma inStep_afterAll (calls : List (MountCall O)) : InStep ops (.afterAll ops calls) := by
  induction calls using List.reverseRecOn with
  | nil => exact inStep_create
  | append_singleton calls call ih =>
      rw [ExternalMountPoints.afterAll, List.foldl_append]
      exact ih.after call

/-- **The two maps stay in step.**  After any calls `path_to_name_map_` has exactly one entry,
with the normalized path as its key, for each file system with a path that is not empty and a
type that forbids overlap, and no other entries; no name appears twice; and a call that returns
`false` has changed nothing. -/
theorem maps_in_step (ops : FilePathOps) (calls : List (MountCall O)) :
    let s : ExternalMountPoints O := .afterAll ops calls
    (∀ e, e ∈ s.pathToNameMap.entries ↔ ∃ inst, s.instanceMap.lookup e.2 = some inst ∧
        isOverlappingMountPathForbidden inst.type = true ∧ inst.path.value ≠ [] ∧
        e.1 = normalizeFilePath ops inst.path) ∧
      s.pathToNameMap.entries.Nodup ∧ (s.pathToNameMap.entries.map Prod.snd).Nodup ∧
      (∀ mountName type mountOption path,
        (registerFileSystem ops s mountName type mountOption path).1 = false →
          (registerFileSystem ops s mountName type mountOption path).2 = s) ∧
      ∀ mountName, (revokeFileSystem ops s mountName).1 = false →
        (revokeFileSystem ops s mountName).2 = s := by
  intro s
  have hstep : InStep ops s := inStep_afterAll calls
  have hnames := hstep.nodup_names
  refine ⟨fun e => (hstep e).trans ?_, hnames.of_map, hnames, ?_, ?_⟩
  · refine exists_congr fun inst => and_congr_right fun _ => ?_
    rw [Instance.Indexed, and_assoc, eq_comm (a := e.1)]
  · intro mountName type mountOption path hfalse
    rcases registerFileSystem_cases ops s mountName type mountOption path with heq | ⟨s', heq, -⟩
    · rw [heq]
    · rw [heq] at hfalse
      cases hfalse
  · intro mountName hfalse
    unfold revokeFileSystem at hfalse ⊢
    split at hfalse
    · rfl
    · cases hfalse

end Maps

end TorOnion
