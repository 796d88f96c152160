import AssertionHeader.Failure

/-!
# Disks

The program sees a disk only through its paths: a path leads to a file or a directory, or nowhere.
-/

namespace AssertionHeader

/-- What a path can lead to. -/
inductive Node where
  | file (bytes : List UInt8)
  | directory
  deriving DecidableEq, Repr

structure Disk where
  find : String → Except DiskError Node

namespace Disk

/-- Whether there is something at a path, be it that it cannot be read. -/
def isPresent (disk : Disk) (path : String) : Bool :=
  match disk.find path with
  | .ok _ => true
  | .error .notFound | .error .notDirectory | .error .nameTooLong => false
  | .error _ => true

/-- The bytes of the file at a path. -/
def read (disk : Disk) (path : String) : Except DiskError (List UInt8) :=
  match disk.find path with
  | .ok (.file bytes) => .ok bytes
  | .ok .directory => .error .isDirectory
  | .error cause => .error cause

end Disk

end AssertionHeader
