import AssertionHeader.CommandLine

/-!
# The program

This module alone touches the system: it reads what a request names, has the request
answered, and writes the answer.
-/

namespace AssertionHeader

/-- Why the system did not deliver a file. -/
def diskErrorOf : IO.Error → DiskError
  | .noFileOrDirectory .. => .notFound
  | .inappropriateType _ 20 _ => .notDirectory
  | .inappropriateType _ 21 _ => .isDirectory
  | .permissionDenied .. => .permissionDenied
  -- The system's code 36, which is reported with either sign.
  | .invalidArgument _ 36 _ | .invalidArgument _ 0xFFFFFFDC _ => .nameTooLong
  | error => .other (toString error)

/-- What a path leads to. -/
def findNode (path : String) : IO (Except DiskError Node) := do
  try
    let bytes ← IO.FS.readBinFile path
    return .ok (.file bytes.toList)
  catch error =>
    match diskErrorOf error with
    | .isDirectory => return .ok .directory
    | cause => return .error cause

/-- What the given paths lead to, as a disk on which there is nothing else. -/
def findAll (paths : List String) : IO Disk := do
  let nodes ← paths.mapM fun path => return (path, ← findNode path)
  return ⟨fun path => (nodes.lookup path).getD (.error .notFound)⟩

/-- Answers a request with what the system delivers for it. -/
def Request.answerFromSystem (request : Request) : IO Exit := do
  let paths := request.settingsPath.toList ++ request.sources.filter (· != standardInput)
  let disk ← findAll paths
  let input ←
    if request.sourcePaths.contains standardInput then
      pure (← (← IO.getStdin).readBinToEnd).toList
    else pure []
  return request.answer disk input

end AssertionHeader

open AssertionHeader in
def main (arguments : List String) : IO UInt32 := do
  let exit ← match Request.parse? arguments with
    | none => pure .usage
    | some request => request.answerFromSystem
  IO.print exit.output
  IO.eprint exit.complaint
  return exit.status
