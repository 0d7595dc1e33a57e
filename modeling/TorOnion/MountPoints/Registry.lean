import TorOnion.MountPoints.FilePath

/-!
# The registry of mount points: `external_m.cpp`

`ExternalMountPoints` with the calls that change it, as the source computes them.

The registry holds two maps.  `instance_map_` is keyed by name; `path_to_name_map_` is keyed by
normalized path and holds the file systems whose type forbids overlap, so that
`ValidateNewMountPoint` can ask for the neighbours of a path.  A mount option is a value the
registry only stores.  The lock makes every call one step, and a call that returns `false`
returns the registry as it was.
-/

namespace TorOnion

/-- `FileSystemType`: the two types that may overlap, and the others. -/
inductive FileSystemType
  | localMedia
  | deviceMedia
  | other (code : ℕ)
  deriving DecidableEq

/-- `IsOverlappingMountPathForbidden`. -/
def isOverlappingMountPathForbidden (type : FileSystemType) : Bool :=
  type != .localMedia && type != .deviceMedia

/-- A mount name. -/
abbrev MountName := List UInt8

/-- `ExternalMountPoints::Instance`. -/
structure Instance (O : Type) where
  type : FileSystemType
  path : FilePath
  mountOption : O
  deriving DecidableEq

/-- The two maps of an `ExternalMountPoints`. -/
structure ExternalMountPoints (O : Type) where
  instanceMap : AList fun _ : MountName => Instance O
  pathToNameMap : SortedMap FilePath MountName

/-- A registry as it is created. -/
def ExternalMountPoints.create (O : Type) : ExternalMountPoints O := ⟨∅, .empty⟩

section Calls

variable (ops : FilePathOps) {O : Type}

/-- `NormalizeFilePath`: one separator at the end. -/
def normalizeFilePath (path : FilePath) : FilePath :=
  if path.value = [] then path
  else
    let pathStr := (ops.stripTrailingSeparators path).value
    if pathStr.getLast? = some sep then ⟨pathStr⟩ else ⟨pathStr ++ [sep]⟩

/-- The constructor of `Instance`. -/
def Instance.make (type : FileSystemType) (path : FilePath) (mountOption : O) : Instance O :=
  ⟨type, ops.stripTrailingSeparators path, mountOption⟩

/-- Whether the entry before `upper_bound(path)` is the path or a parent of it. -/
def hasPotentialParent (m : SortedMap FilePath MountName) (path : FilePath) : Bool :=
  match m.lastUpTo path with
  | none => false
  | some potentialParent => potentialParent.1 == path || potentialParent.1.isParent path

/-- Whether the entry at `upper_bound(path)` is the path or a child of it. -/
def hasPotentialChild (m : SortedMap FilePath MountName) (path : FilePath) : Bool :=
  match m.upperBound path with
  | none => false
  | some potentialChild => potentialChild.1 == path || path.isParent potentialChild.1

/-- `ValidateNewMountPoint`. -/
def validateNewMountPoint (s : ExternalMountPoints O) (mountName : MountName)
    (type : FileSystemType) (path : FilePath) : Bool :=
  if mountName = [] then false
  else if (s.instanceMap.lookup mountName).isSome then false
  else if path.value = [] then true
  else if ops.referencesParent path || !path.isAbsolute then false
  else if isOverlappingMountPathForbidden type then
    if hasPotentialParent s.pathToNameMap path then false
    else if hasPotentialChild s.pathToNameMap path then false
    else true
  else true

/-- `RegisterFileSystem`: the return value and the registry. -/
def registerFileSystem (s : ExternalMountPoints O) (mountName : MountName)
    (type : FileSystemType) (mountOption : O) (pathIn : FilePath) :
    Bool × ExternalMountPoints O :=
  let path := normalizeFilePath ops pathIn
  if validateNewMountPoint ops s mountName type path then
    (true,
      { instanceMap := s.instanceMap.insert mountName (Instance.make ops type path mountOption)
        pathToNameMap :=
          if path.value ≠ [] ∧ isOverlappingMountPathForbidden type then
            s.pathToNameMap.insert path mountName
          else s.pathToNameMap })
  else (false, s)

/-- `RevokeFileSystem`: the return value and the registry. -/
def revokeFileSystem (s : ExternalMountPoints O) (mountName : MountName) :
    Bool × ExternalMountPoints O :=
  match s.instanceMap.lookup mountName with
  | none => (false, s)
  | some inst =>
      (true,
        { instanceMap := s.instanceMap.erase mountName
          pathToNameMap :=
            if isOverlappingMountPathForbidden inst.type then
              s.pathToNameMap.erase (normalizeFilePath ops inst.path)
            else s.pathToNameMap })

/-- `RevokeAllFileSystems`. -/
def revokeAllFileSystems (_ : ExternalMountPoints O) : ExternalMountPoints O := .create O

/-! ## Runs -/

/-- The calls that change a registry. -/
inductive MountCall (O : Type)
  | register (mountName : MountName) (type : FileSystemType) (mountOption : O) (path : FilePath)
  | revoke (mountName : MountName)
  | revokeAll

/-- The registry after a call. -/
def ExternalMountPoints.after (s : ExternalMountPoints O) : MountCall O → ExternalMountPoints O
  | .register mountName type mountOption path =>
      (registerFileSystem ops s mountName type mountOption path).2
  | .revoke mountName => (revokeFileSystem ops s mountName).2
  | .revokeAll => revokeAllFileSystems s

end Calls

/-! ## Normalized paths -/

section Normalized

variable {ops : FilePathOps} {p : FilePath}

lemma normalizeFilePath_eq_nil : (normalizeFilePath ops p).value = [] ↔ p.value = [] := by
  unfold normalizeFilePath
  by_cases h : p.value = []
  · simp [h]
  · have hne := ops.strip_ne_nil p h
    simp only [if_neg h]
    split <;> simp [hne, h]

/-- A normalized path that is not empty ends in a separator. -/
lemma getLast?_normalizeFilePath (h : p.value ≠ []) :
    (normalizeFilePath ops p).value.getLast? = some sep := by
  simp only [normalizeFilePath, if_neg h]
  split
  · assumption
  · simp

/-- Stripping undoes what normalizing appends. -/
lemma strip_normalizeFilePath (h : p.value ≠ []) :
    ops.stripTrailingSeparators (normalizeFilePath ops p) = ops.stripTrailingSeparators p := by
  simp only [normalizeFilePath, if_neg h]
  split
  · exact ops.strip_strip p
  · rename_i hlast
    set q := ops.stripTrailingSeparators p with hq
    have hne : q.value ≠ [] := ops.strip_ne_nil p h
    obtain ⟨k, hk⟩ := ops.strip_append ⟨q.value ++ [sep]⟩
    set r := ops.stripTrailingSeparators ⟨q.value ++ [sep]⟩ with hr
    match k, hk with
    | 0, hk =>
        -- a separator is left at the end, so the path would be a root
        have hroot := ops.strip_root ⟨q.value ++ [sep]⟩
        rw [← hr] at hroot
        have hrv : r.value = q.value ++ [sep] := by simpa using hk.symm
        have hall := hroot (by simp [hrv])
        obtain ⟨b, hb⟩ := List.getLast?_isSome.mpr hne |> Option.isSome_iff_exists.mp
        have hsep : b = sep := hall b (by
          rw [hrv]
          exact List.mem_append_left _ (List.mem_of_getLast? hb))
        exact absurd (hsep ▸ hb) hlast
    | 1, hk =>
        exact FilePath.ext (List.append_cancel_right hk).symm
    | k + 2, hk =>
        have hk' : q.value ++ [sep] = (r.value ++ List.replicate (k + 1) sep) ++ [sep] := by
          simpa [List.replicate_succ'] using hk
        have hqv := List.append_cancel_right hk'
        rw [hqv] at hlast
        simp [List.replicate_succ'] at hlast

lemma normalizeFilePath_strip :
    normalizeFilePath ops (ops.stripTrailingSeparators (normalizeFilePath ops p)) =
      normalizeFilePath ops p := by
  by_cases h : p.value = []
  · have hstrip : ∀ q : FilePath, q.value = [] → ops.stripTrailingSeparators q = q := by
      intro q hq
      obtain ⟨k, hk⟩ := ops.strip_append q
      rw [hq] at hk
      exact FilePath.ext ((List.append_eq_nil_iff.mp hk.symm).1.trans hq.symm)
    have hnorm : normalizeFilePath ops p = p := by simp [normalizeFilePath, h]
    rw [hnorm, hstrip p h, hnorm]
  · have hne := ops.strip_ne_nil p h
    rw [strip_normalizeFilePath h]
    simp only [normalizeFilePath, if_neg h, if_neg hne, ops.strip_strip]

/-- Stripping and normalizing keep the components. -/
lemma components_strip (h : p.value ≠ []) :
    (ops.stripTrailingSeparators p).components = p.components := by
  obtain ⟨k, hk⟩ := ops.strip_append p
  exact (FilePath.components_of_append hk (ops.strip_ne_nil p h)).symm

end Normalized

end TorOnion
