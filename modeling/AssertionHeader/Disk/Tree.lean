import AssertionHeader.Disk

/-!
# Directory trees

A directory tree is a disk whose files are listed.  Paths are followed from the directory that the
list describes.  Of what lies around that directory, only its ancestors are known to be there.
-/

namespace AssertionHeader

/-- The files and directories below a directory, each with the names that lead to it.  What leads to
a listed file or directory is a directory, listed or not. -/
structure Tree where
  nodes : List (List String × Node)

namespace Tree

def parts (path : String) : List String :=
  (path.toList.splitOn '/').map String.ofList

def ofPaths (paths : List (String × Node)) : Tree :=
  ⟨paths.map fun (path, node) => (parts path, node)⟩

/-- What is found below the directory along the given names. -/
def node? (tree : Tree) (names : List String) : Option Node :=
  match tree.nodes.find? (·.1 == names) with
  | some (_, node) => some node
  | none =>
    if names.isEmpty || tree.nodes.any fun (listed, _) => names.isPrefixOf listed then
      some .directory
    else none

/-- A place that a path has been followed to. -/
inductive Place where
  | below (names : List String) (node : Node)
  | above
  deriving DecidableEq, Repr

/-- The place at names below the directory. -/
def placeAt (tree : Tree) (names : List String) : Except DiskError Place :=
  match tree.node? names with
  | some node => .ok (.below names node)
  | none => .error .notFound

/-- The greatest number of bytes in a name. -/
def nameLimit : Nat := 255

/-- The least number of bytes that is too long for a path. -/
def pathLimit : Nat := 4096

/-- Follows one part of a path.  Only a directory can be left, even if just to itself. -/
def enter (tree : Tree) (place : Place) (part : String) : Except DiskError Place :=
  match place with
  | .below _ (.file _) => .error .notDirectory
  | .below names .directory =>
    if part = "" ∨ part = "." then .ok place
    else if part = ".." then
      if names.isEmpty then .ok .above else tree.placeAt names.dropLast
    else if nameLimit < part.utf8ByteSize then .error .nameTooLong
    else tree.placeAt (names ++ [part])
  | .above =>
    if part = "" ∨ part = "." ∨ part = ".." then .ok .above
    else if nameLimit < part.utf8ByteSize then .error .nameTooLong
    else .error .notFound

/-- The place that a path starts from. -/
def origin (path : String) : Place :=
  if path.toList.head? = some '/' then .above else .below [] .directory

def find (tree : Tree) (path : String) : Except DiskError Node :=
  if path = "" ∨ path.toList.contains '\x00' then .error .notFound
  else if pathLimit ≤ path.utf8ByteSize then .error .nameTooLong
  else
    match (parts path).foldlM tree.enter (origin path) with
    | .ok (.below _ node) => .ok node
    | .ok .above => .ok .directory
    | .error cause => .error cause

def disk (tree : Tree) : Disk :=
  ⟨tree.find⟩

end Tree

end AssertionHeader
