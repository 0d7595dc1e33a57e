import TorOnion.MountPoints.Overlap

/-!
# Virtual paths

`GetVirtualPath` and `CrackVirtualPath`: the way from the path of a file to a mount name with the
rest of the path behind it, and back.

`GetVirtualPath` asks for one entry of `path_to_name_map_`, the greatest key up to the path.  When
a registered file system encloses the path this entry is the file system's, since the keys do not
extend each other (`lastUpTo_of_ancestor`); otherwise `AppendRelativePath` refuses it.  The virtual
path has the mount name as its first component and then those that the path adds to the mount's
(`components_foldl_append`), so that `CrackVirtualPath` finds the mount by its name and appends
them to its path again.

Paths are compared as strings, so the result is about registered paths without repeated
separators (`CleanCall`).  A mount name has to be a component of its own: `Append` drops a
directory `.`, and a name that references the parent is refused.
-/

namespace TorOnion

open Relation (ReflTransGen)

/-! ## Appending -/

namespace FilePath

/-- A path from a string, which ends at a NUL. -/
def ofString (s : List UInt8) : FilePath := ⟨s.takeWhile fun b => b ≠ 0⟩

/-- `Append` of a component.  To the current directory it returns the component; otherwise it puts
one separator between, unless one side is empty or the path is a root. -/
def append (ops : FilePathOps) (p : FilePath) (component : List UInt8) : FilePath :=
  if p.value = ascii "." ∧ component ≠ [] then ⟨component⟩
  else
    let path := ops.stripTrailingSeparators p
    if component ≠ [] ∧ path.value ≠ [] ∧ path.value.getLast? ≠ some sep then
      ⟨path.value ++ sep :: component⟩
    else ⟨path.value ++ component⟩

/-- `AppendRelativePath`: the components that the child adds are appended to a path. -/
def appendRelativePath (ops : FilePathOps) (p child path : FilePath) : Bool × FilePath :=
  if p.isParent child then
    (true, (child.components.drop p.components.length).foldl (append ops) path)
  else (false, path)

end FilePath

/-- The functions of `base::FilePath` that `CrackVirtualPath` calls. -/
structure FilePathFns where
  referencesParent : FilePath → Bool
  getComponents : FilePath → List (List UInt8)
  append : FilePath → List UInt8 → FilePath

/-- The functions of the library. -/
def FilePathOps.fns (ops : FilePathOps) : FilePathFns :=
  ⟨ops.referencesParent, FilePath.components, FilePath.append ops⟩

/-! ## The calls -/

/-- What the output parameters of `CrackVirtualPath` point at; `type` may be no pointer. -/
structure CrackOutputs (O : Type) where
  mountName : MountName
  type : Option FileSystemType
  crackedId : List UInt8
  path : FilePath
  mountOption : O

section Calls

variable (ops : FilePathOps) {O : Type}

/-- `CreateVirtualRootPath`. -/
def createVirtualRootPath (mountName : MountName) : FilePath :=
  FilePath.append ops ⟨[]⟩ (FilePath.ofString mountName).value

/-- `GetVirtualPath`: the return value and `*virtual_path`. -/
def getVirtualPath (s : ExternalMountPoints O) (pathIn virtualPath : FilePath) :
    Bool × FilePath :=
  let path := normalizeFilePath ops pathIn
  match s.pathToNameMap.lastUpTo path with
  | none => (false, virtualPath)
  | some e =>
      let virtualPath := createVirtualRootPath ops e.2
      if e.1 = path then (true, virtualPath)
      else e.1.appendRelativePath ops path virtualPath

/-- `CrackVirtualPath`: the return value and the output parameters. -/
def crackVirtualPath (fns : FilePathFns) (s : ExternalMountPoints O) (virtualPath : FilePath)
    (out : CrackOutputs O) : Bool × CrackOutputs O :=
  if fns.referencesParent virtualPath then (false, out)
  else
    match fns.getComponents virtualPath with
    | [] => (false, out)
    | component :: components =>
        let maybeMountName := (FilePath.ofString component).value
        match s.instanceMap.lookup maybeMountName with
        | none => (false, out)
        | some inst =>
            let out := { out with
              mountName := maybeMountName
              type := out.type.map fun _ => inst.type
              mountOption := inst.mountOption }
            (true, { out with path := components.foldl fns.append inst.path })

/-- Cracking succeeds, and writes a mount and a path whatever the output parameters point at. -/
def CracksTo (fns : FilePathFns) (s : ExternalMountPoints O) (virtualPath : FilePath)
    (mountName : MountName) (inst : Instance O) (path : FilePath) : Prop :=
  ∀ out, crackVirtualPath fns s virtualPath out =
    (true, { out with
      mountName := mountName
      type := out.type.map fun _ => inst.type
      path := path
      mountOption := inst.mountOption })

end Calls

/-! ## Components -/

/-- A name between separators. -/
structure IsName (c : List UInt8) : Prop where
  ne_nil : c ≠ []
  noSep : sep ∉ c

namespace FilePath

variable {ops : FilePathOps} {p : FilePath} {c : List UInt8} {cs : List (List UInt8)}

lemma names_of_isName (h : IsName c) : names c = [c] := by
  simp [names, List.splitOn_eq_singleton h.noSep, h.ne_nil]

/-- A name alone is a relative path. -/
lemma components_of_isName (h : IsName c) : (⟨c⟩ : FilePath).components = [c] := by
  have hrel : (⟨c⟩ : FilePath).isAbsolute = false := by
    obtain ⟨b, bs, rfl⟩ := List.exists_cons_of_ne_nil h.ne_nil
    have hb : b ≠ sep := fun hb => h.noSep (hb ▸ List.mem_cons_self)
    simpa [isAbsolute] using hb
  rw [components, hrel, names_of_isName h]
  rfl

lemma isName_of_mem_names {s : List UInt8} (h : c ∈ names s) : IsName c := by
  obtain ⟨hmem, hne⟩ := List.mem_filter.mp h
  refine ⟨by simpa using hne, ?_⟩
  clear h hne
  induction s generalizing c with
  | nil =>
      rw [List.splitOn_nil, List.mem_singleton] at hmem
      simp [hmem]
  | cons b s ih =>
      obtain ⟨first, rest, hsplit⟩ := List.exists_cons_of_ne_nil (List.splitOn_ne_nil sep s)
      rw [List.splitOn_cons_eq_if_modifyHead] at hmem
      rw [hsplit] at hmem ih
      by_cases hb : b = sep
      · simp only [hb, beq_self_eq_true, if_true] at hmem
        rcases List.mem_cons.mp hmem with rfl | hmem
        · exact List.not_mem_nil
        · exact ih hmem
      · simp only [hb, beq_iff_eq, if_false, List.modifyHead_cons] at hmem
        rcases List.mem_cons.mp hmem with rfl | hmem
        · exact List.not_mem_cons_of_ne_of_not_mem (Ne.symm hb) (ih List.mem_cons_self)
        · exact ih (List.mem_cons_of_mem _ hmem)

lemma strip_nil : ops.stripTrailingSeparators ⟨[]⟩ = ⟨[]⟩ := by
  obtain ⟨k, hk⟩ := ops.strip_append ⟨[]⟩
  exact FilePath.ext (List.append_eq_nil_iff.mp hk.symm).1

lemma nil_append (c : List UInt8) : append ops ⟨[]⟩ c = ⟨c⟩ := by
  rw [append, if_neg fun hdot => absurd hdot.1 (by decide)]
  simp [strip_nil]

/-- The component is appended to a directory with the components of the path. -/
lemma exists_dir_append (hp : p.value ≠ []) (hdot : p.value ≠ ascii ".") (hc : IsName c) :
    ∃ dir, (append ops p c).value = dir ++ sep :: c ∧
      (⟨dir ++ [sep]⟩ : FilePath).components = p.components := by
  have hstrip := ops.strip_ne_nil p hp
  have happend : append ops p c = let path := ops.stripTrailingSeparators p
      if c ≠ [] ∧ path.value ≠ [] ∧ path.value.getLast? ≠ some sep then
        ⟨path.value ++ sep :: c⟩ else ⟨path.value ++ c⟩ := if_neg fun h => hdot h.1
  rw [happend]
  by_cases hlast : (ops.stripTrailingSeparators p).value.getLast? = some sep
  · -- a root keeps its separator
    obtain ⟨dir, hdir⟩ := List.getLast?_eq_some_iff.mp hlast
    refine ⟨dir, by simp [hdir], ?_⟩
    rw [← hdir]
    exact components_strip hp
  · refine ⟨(ops.stripTrailingSeparators p).value, by simp [hlast, hstrip, hc.ne_nil], ?_⟩
    have hsep : (⟨(ops.stripTrailingSeparators p).value ++ [sep]⟩ : FilePath).components =
        (ops.stripTrailingSeparators p).components :=
      @components_of_append ⟨_⟩ _ 1 rfl hstrip
    rw [hsep, components_strip hp]

lemma components_append (hp : p.value ≠ []) (hdot : p.value ≠ ascii ".") (hc : IsName c) :
    (append ops p c).components = p.components ++ [c] ∧ (append ops p c).value ≠ [] ∧
      (append ops p c).value ≠ ascii "." := by
  obtain ⟨dir, hvalue, hdir⟩ := @exists_dir_append ops p c hp hdot hc
  have hsep : sep ∈ (append ops p c).value := by
    rw [hvalue]
    exact List.mem_append_right _ List.mem_cons_self
  refine ⟨?_, List.ne_nil_of_mem hsep, fun h => absurd (h ▸ hsep) (by decide)⟩
  have habs : (append ops p c).isAbsolute = (⟨dir ++ [sep]⟩ : FilePath).isAbsolute := by
    simp only [isAbsolute, hvalue]
    cases dir <;> rfl
  rw [← hdir, components, components, habs, hvalue, names_append, names_append, names_of_isName hc,
    names_nil, List.append_nil, List.append_assoc]

/-- Appending one component after the other appends them all. -/
lemma components_foldl_append (hp : p.value ≠ []) (hdot : p.value ≠ ascii ".")
    (hcs : ∀ c ∈ cs, IsName c) : (cs.foldl (append ops) p).components = p.components ++ cs := by
  induction cs generalizing p with
  | nil => rw [List.foldl_nil, List.append_nil]
  | cons c cs ih =>
      obtain ⟨hcomponents, hne, hdot'⟩ :=
        @components_append ops p c hp hdot (hcs c List.mem_cons_self)
      rw [List.foldl_cons, ih hne hdot' fun d hd => hcs d (List.mem_cons_of_mem _ hd), hcomponents,
        List.append_assoc, List.singleton_append]

/-- Below the first component of an absolute path there are names. -/
lemma isName_of_mem_drop (habs : p.isAbsolute = true) {n : ℕ} (hn : 0 < n)
    (h : c ∈ p.components.drop n) : IsName c := by
  obtain ⟨m, rfl⟩ : ∃ m, n = m + 1 := ⟨n - 1, by omega⟩
  rw [components, if_pos habs, List.singleton_append, List.drop_succ_cons] at h
  exact isName_of_mem_names (List.mem_of_mem_drop h)

end FilePath

/-! ## Runs -/

/-- `ReferencesParent` looks at one component after the other. -/
def FilePathOps.ParentByComponent (ops : FilePathOps) : Prop :=
  ∃ isParentName : List UInt8 → Bool, ∀ p, ops.referencesParent p = p.components.any isParentName

/-- A mount name that is a component of a path. -/
structure IsMountName (ops : FilePathOps) (mountName : MountName) : Prop
    extends IsName mountName where
  noNul : (0 : UInt8) ∉ mountName
  ne_dot : mountName ≠ ascii "."
  notParent : ops.referencesParent ⟨mountName⟩ = false

/-- A call that registers nothing but a path without repeated separators under such a name. -/
def CleanCall {O : Type} (ops : FilePathOps) (s : ExternalMountPoints O) : MountCall O → Prop
  | .register mountName type mountOption path =>
      (registerFileSystem ops s mountName type mountOption path).1 = true →
        IsMountName ops mountName ∧ ¬ [sep, sep] <:+: path.value
  | _ => True

/-- The registry in runs of clean calls. -/
structure Tidy {O : Type} (ops : FilePathOps) (s : ExternalMountPoints O) : Prop
    extends Consistent ops s where
  name : ∀ name inst, s.instanceMap.lookup name = some inst → IsMountName ops name
  notRepeated : ∀ name inst, s.instanceMap.lookup name = some inst →
    ¬ [sep, sep] <:+: inst.path.value

section Tidy

variable {O : Type} {ops : FilePathOps} {s : ExternalMountPoints O} {p : FilePath}

lemma not_repeated_strip (h : ¬ [sep, sep] <:+: p.value) :
    ¬ [sep, sep] <:+: (ops.stripTrailingSeparators p).value := by
  obtain ⟨k, hk⟩ := ops.strip_append p
  exact fun hrep => h (hrep.trans (hk ▸ (List.prefix_append _ _).isInfix))

/-- The separator that normalizing appends repeats none. -/
lemma not_repeated_normalize (h : ¬ [sep, sep] <:+: p.value) :
    ¬ [sep, sep] <:+: (normalizeFilePath ops p).value := by
  have hstrip := @not_repeated_strip ops p h
  unfold normalizeFilePath
  by_cases hnil : p.value = []
  · rwa [if_pos hnil]
  · rw [if_neg hnil]
    simp only
    split
    · exact hstrip
    · next hlast =>
        intro hrep
        rcases List.infix_concat_iff.mp hrep with hsuffix | hinfix
        · obtain hcases | ⟨t, ht, hsuffix⟩ := List.suffix_concat_iff.mp hsuffix
          · cases hcases
          · obtain rfl : t = [sep] := (@List.append_cancel_right _ [sep] [sep] t ht).symm
            obtain ⟨pre, hpre⟩ := hsuffix
            exact hlast (by rw [← hpre, List.getLast?_concat])
        · exact hstrip hinfix

/-- Keys and normalized paths without repeated separators are spelled alike. -/
lemma Tidy.spelledAlike (h : Tidy ops s) (hne : p.value ≠ []) (hrepeat : ¬ [sep, sep] <:+: p.value)
    (habs : (normalizeFilePath ops p).isAbsolute = true) :
    ∀ e ∈ s.pathToNameMap, SpelledAlike e.1 (normalizeFilePath ops p) := by
  intro e he
  obtain ⟨hlast, habs'⟩ := h.key_dir e he
  obtain ⟨inst, hlookup, -, hkey⟩ := h.instance_of_entry e he
  have hrepeat' := @not_repeated_normalize ops _ (h.notRepeated _ inst hlookup)
  rw [hkey] at hrepeat'
  exact spelledAlike_of_not_repeated habs' hlast hrepeat' habs (getLast?_normalizeFilePath hne)
    (not_repeated_normalize hrepeat)

lemma tidy_create : Tidy ops (ExternalMountPoints.create O) where
  toConsistent := consistent_create
  name name inst h := by simp [ExternalMountPoints.create] at h
  notRepeated name inst h := by simp [ExternalMountPoints.create] at h

lemma Tidy.register (h : Tidy ops s) {mountName : MountName} {type : FileSystemType}
    {mountOption : O} (hclean : CleanCall ops s (.register mountName type mountOption p)) :
    Tidy ops (registerFileSystem ops s mountName type mountOption p).2 := by
  rcases registerFileSystem_cases ops s mountName type mountOption p with
    heq | ⟨s', heq, hvalid, hinstances, -⟩
  · rw [heq]
    exact h
  · obtain ⟨hname, hrepeat⟩ := hclean (by rw [heq])
    have halike : SpellsAlike ops s (.register mountName type mountOption p) := by
      intro _ hforbidden hne
      have hvalue : (normalizeFilePath ops p).value ≠ [] := mt normalizeFilePath_eq_nil.mp hne
      obtain ⟨habs, -⟩ := (validateNewMountPoint_spec hvalid).2 hvalue hforbidden
      exact h.spelledAlike hne hrepeat habs
    have hconsistent := h.toConsistent.register halike
    rw [heq] at hconsistent ⊢
    refine ⟨hconsistent, fun name inst hlookup => ?_, fun name inst hlookup => ?_⟩
    · rw [hinstances] at hlookup
      rcases lookup_of_insert hlookup with hold | ⟨rfl, -⟩
      · exact h.name name inst hold
      · exact hname
    · rw [hinstances] at hlookup
      rcases lookup_of_insert hlookup with hold | ⟨-, rfl⟩
      · exact h.notRepeated name inst hold
      · exact not_repeated_strip (not_repeated_normalize hrepeat)

/-- Revoking leaves the other mounts as they are. -/
lemma lookup_of_revokeFileSystem {mountName name : MountName} {inst : Instance O}
    (h : (revokeFileSystem ops s mountName).2.instanceMap.lookup name = some inst) :
    s.instanceMap.lookup name = some inst := by
  unfold revokeFileSystem at h
  split at h
  · exact h
  · by_cases hsame : name = mountName
    · rw [hsame, AList.lookup_erase] at h
      cases h
    · rwa [AList.lookup_erase_ne hsame] at h

lemma Tidy.revoke (h : Tidy ops s) (mountName : MountName) :
    Tidy ops (revokeFileSystem ops s mountName).2 :=
  ⟨h.toConsistent.revoke mountName,
    fun name inst hlookup => h.name name inst (lookup_of_revokeFileSystem hlookup),
    fun name inst hlookup => h.notRepeated name inst (lookup_of_revokeFileSystem hlookup)⟩

lemma Tidy.after (h : Tidy ops s) {call : MountCall O} (hclean : CleanCall ops s call) :
    Tidy ops (s.after ops call) := by
  cases call with
  | register mountName type mountOption path => exact h.register hclean
  | revoke mountName => exact h.revoke mountName
  | revokeAll => exact tidy_create

/-! ## The way there and back -/

lemma FilePath.value_ne_nil_of_isAbsolute (h : p.isAbsolute = true) : p.value ≠ [] := by
  intro hnil
  simp [FilePath.isAbsolute, hnil] at h

lemma isAbsolute_strip (hne : p.value ≠ []) :
    (ops.stripTrailingSeparators p).isAbsolute = p.isAbsolute := by
  obtain ⟨k, hk⟩ := ops.strip_append p
  rw [FilePath.isAbsolute, FilePath.isAbsolute, hk,
    List.head?_append_of_ne_nil _ (ops.strip_ne_nil p hne)]

lemma isAbsolute_normalizeFilePath (h : p.isAbsolute = true) :
    (normalizeFilePath ops p).isAbsolute = true := by
  have hne := FilePath.value_ne_nil_of_isAbsolute h
  have hstrip : (ops.stripTrailingSeparators p).isAbsolute = true := (isAbsolute_strip hne).trans h
  unfold normalizeFilePath
  rw [if_neg hne]
  simp only
  split
  · exact hstrip
  · rw [FilePath.isAbsolute, List.head?_append_of_ne_nil _ (ops.strip_ne_nil p hne)]
    exact hstrip

lemma IsMountName.ofString_value {mountName : MountName} (h : IsMountName ops mountName) :
    (FilePath.ofString mountName).value = mountName := by
  refine List.takeWhile_eq_self_iff.mpr fun b hb => ?_
  simpa using fun h0 : b = 0 => h.noNul (h0 ▸ hb)

/-- The virtual root of a mount name is the name. -/
lemma createVirtualRootPath_eq {mountName : MountName} (h : IsMountName ops mountName) :
    createVirtualRootPath ops mountName = ⟨mountName⟩ := by
  rw [createVirtualRootPath, h.ofString_value, FilePath.nil_append]

/-- **What `GetVirtualPath` finds.**  The entry whose path the file's path extends, and the
components that are added to it. -/
lemma Tidy.getVirtualPath_of_ancestor (h : Tidy ops s) (habs : p.isAbsolute = true)
    (hrepeat : ¬ [sep, sep] <:+: p.value) {e : FilePath × MountName} (he : e ∈ s.pathToNameMap)
    (hpre : e.1.components <+: p.components) (virtualPath : FilePath) :
    getVirtualPath ops s p virtualPath = (true, (p.components.drop e.1.components.length).foldl
      (FilePath.append ops) ⟨e.2⟩) := by
  have hne := FilePath.value_ne_nil_of_isAbsolute habs
  have halike := h.spelledAlike hne hrepeat (isAbsolute_normalizeFilePath habs) e he
  have hcomponents := @components_normalizeFilePath ops p hne
  rw [← hcomponents] at hpre ⊢
  have hlast := lastUpTo_of_ancestor h.key_dir h.apart he (halike.1 hpre)
  obtain ⟨inst, hlookup, -⟩ := h.instance_of_entry e he
  unfold getVirtualPath
  simp only [hlast, createVirtualRootPath_eq (h.name _ inst hlookup)]
  by_cases hsame : e.1 = normalizeFilePath ops p
  · rw [if_pos hsame, ← hsame, List.drop_length]
    rfl
  · rw [if_neg hsame, FilePath.appendRelativePath,
      if_pos (isParent_of_extends (h.absolute e he) hpre
        fun heq => hsame (halike.eq_of_components heq))]

/-- Without such an entry `GetVirtualPath` fails. -/
lemma getVirtualPath_of_unrelated (hne : p.value ≠ [])
    (hpre : ∀ e ∈ s.pathToNameMap, ¬ e.1.components <+: p.components) (virtualPath : FilePath) :
    (getVirtualPath ops s p virtualPath).1 = false := by
  have hcomponents := @components_normalizeFilePath ops p hne
  unfold getVirtualPath
  simp only
  split
  · rfl
  · next e hlast =>
      have hnot := hpre e (SortedMap.lastUpTo_spec hlast).1
      rw [← hcomponents] at hnot
      have hsame : e.1 ≠ normalizeFilePath ops p := fun heq => hnot (heq ▸ List.prefix_rfl)
      have hparent : ¬ e.1.isParent (normalizeFilePath ops p) = true :=
        fun hparent => hnot (of_decide_eq_true hparent).2.2
      rw [if_neg hsame, FilePath.appendRelativePath, if_neg hparent]

/-- The path of an indexed file system is absolute, so it is not the current directory. -/
lemma Tidy.path_absolute (h : Tidy ops s) {e : FilePath × MountName} {inst : Instance O}
    (he : e ∈ s.pathToNameMap) (hindexed : inst.Indexed)
    (hkey : normalizeFilePath ops inst.path = e.1) :
    inst.path.components = e.1.components ∧ e.1.components ≠ [] ∧ inst.path.value ≠ ascii "." := by
  have hcomponents := @components_normalizeFilePath ops inst.path hindexed.2
  have habs := h.absolute e he
  have hroot : e.1.components = [sep] :: FilePath.names e.1.value := by
    rw [FilePath.components, if_pos habs, List.singleton_append]
  rw [hkey] at hcomponents
  refine ⟨hcomponents.symm, by rw [hroot]; exact List.cons_ne_nil _ _, fun hdot => ?_⟩
  have hinst : inst.path = ⟨ascii "."⟩ := FilePath.ext hdot
  rw [hroot, hinst] at hcomponents
  exact absurd (List.cons.inj hcomponents).1 (by decide)

/-- **What `CrackVirtualPath` finds.**  The mount name is the first component, and the others are
appended to the path of the mount. -/
lemma Tidy.crackVirtualPath_append (h : Tidy ops s) (hops : ops.ParentByComponent)
    {name : MountName} {inst : Instance O} (hlookup : s.instanceMap.lookup name = some inst)
    (hpath : inst.path.value ≠ []) (hdot : inst.path.value ≠ ascii ".")
    {cs : List (List UInt8)} (hcs : ∀ c ∈ cs, IsName c)
    (hparent : ops.referencesParent p = false) (hsub : ∀ c ∈ cs, c ∈ p.components) :
    ∃ path, CracksTo ops.fns s (cs.foldl (FilePath.append ops) ⟨name⟩) name inst path ∧
      path.components = inst.path.components ++ cs := by
  have hname := h.name name inst hlookup
  have hroot := FilePath.components_of_isName hname.toIsName
  have hvirtual : (cs.foldl (FilePath.append ops) ⟨name⟩).components = name :: cs := by
    rw [@FilePath.components_foldl_append ops ⟨name⟩ cs hname.ne_nil hname.ne_dot hcs, hroot,
      List.singleton_append]
  have hsafe : ops.referencesParent (cs.foldl (FilePath.append ops) ⟨name⟩) = false := by
    obtain ⟨isParentName, hdecide⟩ := hops
    have hnameSafe := hname.notParent
    rw [hdecide, hroot, List.any_cons, List.any_nil, Bool.or_false] at hnameSafe
    rw [hdecide] at hparent
    rw [hdecide, hvirtual, List.any_cons, hnameSafe, Bool.false_or]
    exact List.any_eq_false.mpr fun c hc => List.any_eq_false.mp hparent c (hsub c hc)
  refine ⟨cs.foldl (FilePath.append ops) inst.path, fun out => ?_,
    FilePath.components_foldl_append hpath hdot hcs⟩
  unfold crackVirtualPath FilePathOps.fns
  simp only [hsafe, hvirtual, Bool.false_eq_true, if_false]
  rw [hname.ofString_value, hlookup]

/-- **Virtual paths and paths are inverse.**  In a registry that clean calls have made, a path
without repeated separators that does not reference its parent has a virtual path exactly when it
is the path of a registered file system, with a type that forbids overlap and a path that is not
empty, or extends it; and cracking the virtual path returns the name, the type and the option of
this file system and a path with the components of the original one. -/
theorem getVirtualPath_crackVirtualPath (hops : ops.ParentByComponent)
    (hrun : ReflTransGen (fun s t => ∃ call, CleanCall ops s call ∧ t = s.after ops call)
      (ExternalMountPoints.create O) s)
    (habs : p.isAbsolute = true) (hrepeat : ¬ [sep, sep] <:+: p.value)
    (hparent : ops.referencesParent p = false) (virtualPath : FilePath) :
    ((getVirtualPath ops s p virtualPath).1 = true ↔
        ∃ name inst, s.instanceMap.lookup name = some inst ∧ inst.Indexed ∧
          inst.path.components <+: p.components) ∧
      ∀ name inst, s.instanceMap.lookup name = some inst → inst.Indexed →
        inst.path.components <+: p.components →
          ∃ path, CracksTo ops.fns s (getVirtualPath ops s p virtualPath).2 name inst path ∧
            path.components = p.components := by
  have htidy : Tidy ops s := by
    refine invariant_of_run (I := Tidy ops) ?_ hrun tidy_create
    rintro s t h ⟨call, hclean, rfl⟩
    exact h.after hclean
  have hne := FilePath.value_ne_nil_of_isAbsolute habs
  have hfound : ∀ name inst, s.instanceMap.lookup name = some inst → inst.Indexed →
      inst.path.components <+: p.components →
        ∃ e ∈ s.pathToNameMap, e.2 = name ∧ normalizeFilePath ops inst.path = e.1 ∧
          e.1.components <+: p.components := by
    intro name inst hlookup hindexed hpre
    have he := htidy.entry_of_instance name inst hlookup hindexed
    exact ⟨_, he, rfl, rfl, by rwa [components_normalizeFilePath hindexed.2]⟩
  constructor
  · constructor
    · intro htrue
      by_contra hnone
      have hpre : ∀ e ∈ s.pathToNameMap, ¬ e.1.components <+: p.components := by
        intro e he hpre
        obtain ⟨inst, hlookup, hindexed, hkey⟩ := htidy.instance_of_entry e he
        rw [← hkey, components_normalizeFilePath hindexed.2] at hpre
        exact hnone ⟨e.2, inst, hlookup, hindexed, hpre⟩
      rw [getVirtualPath_of_unrelated hne hpre] at htrue
      cases htrue
    · rintro ⟨name, inst, hlookup, hindexed, hpre⟩
      obtain ⟨e, he, -, -, hpre'⟩ := hfound name inst hlookup hindexed hpre
      rw [htidy.getVirtualPath_of_ancestor habs hrepeat he hpre']
  · intro name inst hlookup hindexed hpre
    obtain ⟨e, he, rfl, hkey, hpre'⟩ := hfound name inst hlookup hindexed hpre
    obtain ⟨hcomponents, hroot, hdot⟩ := htidy.path_absolute he hindexed hkey
    rw [htidy.getVirtualPath_of_ancestor habs hrepeat he hpre']
    obtain ⟨path, hcrack, hpath⟩ := htidy.crackVirtualPath_append hops hlookup hindexed.2 hdot
      (fun c hc => FilePath.isName_of_mem_drop habs (List.length_pos_iff.mpr hroot) hc) hparent
      (fun c hc => List.mem_of_mem_drop hc)
    refine ⟨path, hcrack, ?_⟩
    rw [hpath, hcomponents]
    exact List.prefix_iff_eq_append.mp hpre'

end Tidy

/-- Siblings of which one's string starts the other's: `/a/b` and `/a/b(1)`. -/
theorem getVirtualPath_crackVirtualPath_siblings :
    let s := ((ExternalMountPoints.create Unit).after posixOps
      (.register (ascii "x") (.other 0) () ⟨ascii "/a/b"⟩)).after posixOps
      (.register (ascii "y") (.other 0) () ⟨ascii "/a/b(1)"⟩)
    ∃ path, CracksTo posixOps.fns s (getVirtualPath posixOps s ⟨ascii "/a/b(1)/c"⟩ ⟨[]⟩).2
        (ascii "y") ⟨.other 0, ⟨ascii "/a/b(1)"⟩, ()⟩ path ∧
      path.components = [ascii "/", ascii "a", ascii "b(1)", ascii "c"] := by
  have hclean : ∀ s : ExternalMountPoints Unit, ∀ mountName path,
      IsMountName posixOps mountName → ¬ [sep, sep] <:+: FilePath.value path →
      CleanCall posixOps s (.register mountName (.other 0) () path) :=
    fun _ _ _ hname hrepeat _ => ⟨hname, hrepeat⟩
  have hx : IsMountName posixOps (ascii "x") :=
    ⟨⟨by decide, by decide⟩, by decide, by decide, by decide⟩
  have hy : IsMountName posixOps (ascii "y") :=
    ⟨⟨by decide, by decide⟩, by decide, by decide, by decide⟩
  refine (@getVirtualPath_crackVirtualPath Unit posixOps _ ⟨ascii "/a/b(1)/c"⟩ ⟨_, fun _ => rfl⟩
    ((ReflTransGen.single ⟨_, hclean _ _ _ hx (by decide), rfl⟩).tail
      ⟨_, hclean _ _ _ hy (by decide), rfl⟩) (by decide) (by decide) (by decide) ⟨[]⟩).2
    (ascii "y") ⟨.other 0, ⟨ascii "/a/b(1)"⟩, ()⟩ (by decide +kernel)
    ⟨by decide, by decide⟩ (by decide)

end TorOnion
