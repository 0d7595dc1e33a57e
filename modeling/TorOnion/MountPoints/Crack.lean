import TorOnion.MountPoints.VirtualPath

/-!
# Cracking stays below the mount

`CrackVirtualPath` over any functions of `base::FilePath` that it calls.  What is assumed of them is
`FilePathFns.Lawful`: a component `..` counts as a reference to the parent, the components after the
first contain no separator, and `Append` adds exactly its component.  Then a path that is cracked extends the path of its mount by the components of the
virtual path and none of these leads back up, and a call that returns `false` has written nothing
(`crackVirtualPath_below`).

The functions of the library do not quite have the last property, as `Append` to the current
directory returns the component alone.  A mount whose path is not empty has an absolute path
(`Rooted`), which no component makes the current directory, so the paths below it are exact with
the functions of the library, too (`crackVirtualPath_components`).
-/

namespace TorOnion

open Relation (ReflTransGen)

variable {O : Type}

/-! ## What is assumed -/

/-- The parent directory. -/
def dotDot : List UInt8 := ascii ".."

namespace FilePathFns

/-- The assumptions on `base::FilePath`. -/
structure Lawful (fns : FilePathFns) : Prop where
  isName : ∀ p, ∀ c ∈ (fns.getComponents p).tail, IsName c
  referencesParent_of_mem : ∀ p, dotDot ∈ fns.getComponents p → fns.referencesParent p = true
  getComponents_append : ∀ p c, IsName c →
    fns.getComponents (fns.append p c) = fns.getComponents p ++ [c]

variable {fns : FilePathFns}

/-- What is appended one after the other is added, too. -/
lemma Lawful.getComponents_foldl (h : fns.Lawful) {cs : List (List UInt8)} (p : FilePath)
    (hcs : ∀ c ∈ cs, IsName c) :
    fns.getComponents (cs.foldl fns.append p) = fns.getComponents p ++ cs := by
  induction cs generalizing p with
  | nil => rw [List.foldl_nil, List.append_nil]
  | cons c cs ih =>
      rw [List.foldl_cons, ih _ fun d hd => hcs d (List.mem_cons_of_mem _ hd),
        h.getComponents_append p c (hcs c List.mem_cons_self), List.append_assoc,
        List.singleton_append]

end FilePathFns

/-! ## Outputs -/

section Outputs

variable (fns : FilePathFns) (s : ExternalMountPoints O) (virtualPath : FilePath)
  (out : CrackOutputs O)

/-- Everything that a call can do. -/
lemma crackVirtualPath_cases :
    crackVirtualPath fns s virtualPath out = (false, out) ∨
      ∃ component components inst, fns.referencesParent virtualPath = false ∧
        fns.getComponents virtualPath = component :: components ∧
        s.instanceMap.lookup (FilePath.ofString component).value = some inst ∧
        crackVirtualPath fns s virtualPath out = (true,
          { mountName := (FilePath.ofString component).value
            type := out.type.map fun _ => inst.type
            crackedId := out.crackedId
            path := components.foldl fns.append inst.path
            mountOption := inst.mountOption }) := by
  unfold crackVirtualPath
  cases hparent : fns.referencesParent virtualPath with
  | true => exact Or.inl rfl
  | false =>
      cases hcomponents : fns.getComponents virtualPath with
      | nil => exact Or.inl rfl
      | cons component components =>
          cases hlookup : s.instanceMap.lookup (FilePath.ofString component).value with
          | none => exact Or.inl (by simp [hlookup])
          | some inst =>
              exact Or.inr ⟨component, components, inst, rfl, rfl, hlookup, by simp [hlookup]⟩

end Outputs

/-! ## Below the mount -/

section Below

variable {fns : FilePathFns} {s : ExternalMountPoints O} {virtualPath : FilePath}
  {out : CrackOutputs O}

/-- **Cracking never escapes the mount.**  The path that is returned has the components of the
mount's path and then those of the virtual path after the mount name, none of which is `..`.  A
call that returns `false` has written nothing. -/
theorem crackVirtualPath_below (hfns : fns.Lawful) :
    ((crackVirtualPath fns s virtualPath out).1 = true →
        ∃ component rest inst, fns.getComponents virtualPath = component :: rest ∧
          s.instanceMap.lookup (FilePath.ofString component).value = some inst ∧
          fns.getComponents (crackVirtualPath fns s virtualPath out).2.path =
            fns.getComponents inst.path ++ rest ∧
          dotDot ∉ rest) ∧
      ((crackVirtualPath fns s virtualPath out).1 = false →
        (crackVirtualPath fns s virtualPath out).2 = out) := by
  rcases crackVirtualPath_cases fns s virtualPath out with
    heq | ⟨component, rest, inst, hparent, hcomponents, hlookup, heq⟩
  · rw [heq]
    exact ⟨fun h => absurd h Bool.false_ne_true, fun _ => rfl⟩
  · rw [heq]
    refine ⟨fun _ => ⟨component, rest, inst, hcomponents, hlookup, ?_, ?_⟩,
      fun h => absurd h.symm Bool.false_ne_true⟩
    · refine hfns.getComponents_foldl inst.path fun c hc => ?_
      exact hfns.isName virtualPath c (by simpa [hcomponents] using hc)
    · intro hmem
      have htrue := hfns.referencesParent_of_mem virtualPath (by simp [hcomponents, hmem])
      rw [hparent] at htrue
      cases htrue

end Below

/-- The components after the first are names. -/
lemma FilePath.isName_of_mem_tail {p : FilePath} {c : List UInt8} (h : c ∈ p.components.tail) :
    IsName c := by
  unfold FilePath.components at h
  split at h
  · exact FilePath.isName_of_mem_names h
  · exact FilePath.isName_of_mem_names (List.mem_of_mem_tail h)

/-- The functions of the library, but for `Append` to the current directory. -/
def plainFns : FilePathFns where
  referencesParent := posixOps.referencesParent
  getComponents := FilePath.components
  append p c :=
    if p.value = ascii "." then ⟨ascii "." ++ sep :: c⟩ else FilePath.append posixOps p c

lemma plainFns_lawful : plainFns.Lawful where
  isName p c hc := FilePath.isName_of_mem_tail hc
  referencesParent_of_mem p hmem := List.any_eq_true.mpr ⟨dotDot, hmem, by decide⟩
  getComponents_append p c hc := by
    show (if p.value = ascii "." then (⟨ascii "." ++ sep :: c⟩ : FilePath)
      else FilePath.append posixOps p c).components = p.components ++ [c]
    by_cases hdot : p.value = ascii "."
    · obtain rfl : p = ⟨ascii "."⟩ := FilePath.ext hdot
      have hdir : FilePath.names (ascii ".") = [ascii "."] := by decide
      rw [if_pos rfl, FilePath.components, FilePath.names_append, FilePath.names_of_isName hc,
        hdir]
      rfl
    · rw [if_neg hdot]
      by_cases hnil : p.value = []
      · obtain rfl : p = ⟨[]⟩ := FilePath.ext hnil
        rw [FilePath.nil_append, FilePath.components_of_isName hc]
        rfl
      · exact (FilePath.components_append hnil hdot hc).1

section Demo

/-- A registry with one mount. -/
def demoRegistry : ExternalMountPoints Unit :=
  (ExternalMountPoints.create Unit).after posixOps
    (.register (ascii "media") (.other 0) () ⟨ascii "/mnt/media/"⟩)

def demoOutputs : CrackOutputs Unit := ⟨[], none, [], ⟨[]⟩, ()⟩

/-- Repeated separators and a directory `.` stay below the mount. -/
theorem crackVirtualPath_media :
    ∃ component rest inst,
      plainFns.getComponents ⟨ascii "media//a/./b"⟩ = component :: rest ∧
        demoRegistry.instanceMap.lookup (FilePath.ofString component).value = some inst ∧
        plainFns.getComponents
          (crackVirtualPath plainFns demoRegistry ⟨ascii "media//a/./b"⟩ demoOutputs).2.path =
            plainFns.getComponents inst.path ++ rest ∧
        dotDot ∉ rest :=
  (crackVirtualPath_below plainFns_lawful).1 (by decide +kernel)

end Demo

/-! ## With the functions of the library -/

/-- Every mount with a path has an absolute one. -/
def Rooted (s : ExternalMountPoints O) : Prop :=
  ∀ name inst, s.instanceMap.lookup name = some inst → inst.path.value ≠ [] →
    inst.path.isAbsolute = true

section Library

variable {ops : FilePathOps} {s : ExternalMountPoints O}

lemma rooted_create : Rooted (ExternalMountPoints.create O) := by
  intro name inst h
  simp [ExternalMountPoints.create] at h

/-- A path that passes the checks is empty or absolute. -/
lemma isAbsolute_of_validate {mountName : MountName} {type : FileSystemType} {path : FilePath}
    (h : validateNewMountPoint ops s mountName type path = true) (hne : path.value ≠ []) :
    path.isAbsolute = true := by
  by_contra habs
  have hfalse : validateNewMountPoint ops s mountName type path = false := by
    unfold validateNewMountPoint
    split_ifs <;> simp_all
  rw [h] at hfalse
  cases hfalse

lemma Rooted.register (h : Rooted s) (mountName : MountName) (type : FileSystemType)
    (mountOption : O) (path : FilePath) :
    Rooted (registerFileSystem ops s mountName type mountOption path).2 := by
  rcases registerFileSystem_cases ops s mountName type mountOption path with
    heq | ⟨s', heq, hvalid, hinstances, -⟩
  · rw [heq]
    exact h
  · rw [heq]
    intro name inst hlookup hne
    rw [hinstances] at hlookup
    rcases lookup_of_insert hlookup with hold | ⟨-, rfl⟩
    · exact h name inst hold hne
    · have hpath : path.value ≠ [] := mt path_newInstance_eq_nil.mpr hne
      have hnorm : (normalizeFilePath ops path).value ≠ [] := mt normalizeFilePath_eq_nil.mp hpath
      exact (isAbsolute_strip hnorm).trans (isAbsolute_of_validate hvalid hnorm)

lemma Rooted.after (h : Rooted s) (call : MountCall O) : Rooted (s.after ops call) := by
  cases call with
  | register mountName type mountOption path => exact h.register mountName type mountOption path
  | revoke mountName =>
      intro name inst hlookup hne
      exact h name inst (lookup_of_revokeFileSystem hlookup) hne
  | revokeAll => exact rooted_create

/-- **With the functions of the library**, a registry that any calls have made cracks a virtual path
to the components of its mount and those after the mount name, whenever the mount has a path. -/
theorem crackVirtualPath_components
    (hrun : ReflTransGen (fun s t => ∃ call, t = s.after ops call)
      (ExternalMountPoints.create O) s)
    {virtualPath : FilePath} {out : CrackOutputs O}
    (htrue : (crackVirtualPath ops.fns s virtualPath out).1 = true) :
    ∃ component rest inst, virtualPath.components = component :: rest ∧
      s.instanceMap.lookup (FilePath.ofString component).value = some inst ∧
      (inst.path.value ≠ [] →
        (crackVirtualPath ops.fns s virtualPath out).2.path.components =
          inst.path.components ++ rest) := by
  have hrooted : Rooted s := by
    refine invariant_of_run ?_ hrun rooted_create
    rintro s t h ⟨call, rfl⟩
    exact h.after call
  rcases crackVirtualPath_cases ops.fns s virtualPath out with
    heq | ⟨component, rest, inst, -, hcomponents, hlookup, heq⟩
  · rw [heq] at htrue
    cases htrue
  · rw [heq]
    refine ⟨component, rest, inst, hcomponents, hlookup, fun hne => ?_⟩
    have habs := hrooted _ inst hlookup hne
    have hdot : inst.path.value ≠ ascii "." := by
      intro h
      rw [FilePath.isAbsolute, h] at habs
      exact absurd habs (by decide)
    have htail : virtualPath.components.tail = rest := congrArg List.tail hcomponents
    refine FilePath.components_foldl_append hne hdot fun c hc => ?_
    exact FilePath.isName_of_mem_tail (htail ▸ hc)

end Library

end TorOnion
