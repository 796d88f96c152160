import AssertionHeader.Run
import AssertionHeader.Settings.File
import AssertionHeader.Source

/-!
# The command line

The program reads names from files, or from standard input, and writes the header to standard
output.  An option names a settings file, another one replaces the guard.  Nothing is written unless
everything could be read.
-/

namespace AssertionHeader

/-- What the arguments ask for. -/
structure Request where
  settingsPath : Option String := none
  /-- The guard, in place of the one in the settings. -/
  guard : Option String := none
  sources : List String := []
  deriving DecidableEq, Repr

namespace Request

/-! ## Arguments -/

/-- What a source is called that is standard input. -/
def standardInput : String := "-"

/-- An option; each takes a value. -/
inductive Flag where
  | settings
  | guard
  deriving DecidableEq, Repr

/-- The request with an option set.  An option is set at most once, and a path is not empty. -/
def set? (request : Request) (flag : Flag) (value : String) : Option Request :=
  match flag with
  | .settings =>
    if request.settingsPath.isSome || value.isEmpty then none
    else some { request with settingsPath := some value }
  | .guard =>
    if request.guard.isSome then none else some { request with guard := some value }

/-- The request with a further file of names.  A path is not empty. -/
def addSource? (request : Request) (path : String) : Option Request :=
  if path.isEmpty then none else some { request with sources := request.sources ++ [path] }

/-- What one argument is. -/
inductive Argument where
  | source (path : String)
  | separator
  /-- An option with its value. -/
  | setting (flag : Flag) (value : String)
  /-- An option whose value is the next argument. -/
  | awaiting (flag : Flag)
  | unknown
  deriving DecidableEq, Repr

/-- The option of the given long name. -/
def longFlag? (name : List Char) : Option Flag :=
  if name = "config".toList then some .settings
  else if name = "guard".toList then some .guard
  else none

/-- What an argument is that opens with two hyphens, by what follows them.  An equals sign separates
the name of the option from its value. -/
def longArgument (text : List Char) : Argument :=
  match longFlag? (text.takeWhile (· != '=')), text.dropWhile (· != '=') with
  | some flag, [] => .awaiting flag
  | some flag, _ :: value => .setting flag (String.ofList value)
  | none, _ => .unknown

/-- What an argument is that opens with one hyphen, by what follows it.  The value may follow the
letter directly or after an equals sign. -/
def shortArgument : List Char → Argument
  | ['c'] => .awaiting .settings
  | 'c' :: '=' :: value => .setting .settings (String.ofList value)
  | 'c' :: value => .setting .settings (String.ofList value)
  | _ => .unknown

def argument (text : String) : Argument :=
  match text.toList with
  | ['-'] => .source text
  | ['-', '-'] => .separator
  | '-' :: '-' :: long => longArgument long
  | '-' :: short => shortArgument short
  | _ => .source text

/-- Whether an argument may be the value of the option before it: it does not look like an option.
-/
def isValue (text : String) : Bool :=
  match text.toList with
  | ['-'] => true
  | '-' :: _ => false
  | _ => true

/-- The request that the remaining arguments complete. -/
def complete? (request : Request) : List String → Option Request
  | [] => some request
  | text :: rest =>
    match argument text with
    | .source path => (request.addSource? path).bind fun request => request.complete? rest
    | .separator => rest.foldlM addSource? request
    | .setting flag value => (request.set? flag value).bind fun request => request.complete? rest
    | .awaiting flag =>
      match rest with
      | [] => none
      | value :: rest =>
        if isValue value then
          (request.set? flag value).bind fun request => request.complete? rest
        else none
    | .unknown => none

/-- The request that the arguments spell, if they spell one. -/
def parse? (arguments : List String) : Option Request :=
  complete? {} arguments

/-! ## Answers -/

/-- The settings that a request asks for.  A settings file that is asked for must exist. -/
def settings (request : Request) (disk : Disk) : Except Failure Settings := do
  let settings ← match request.settingsPath with
    | none => pure {}
    | some path =>
      if disk.isPresent path then Settings.load disk path else throw (.missingSettings path)
  return match request.guard with
    | none => settings
    | some guard => { settings with guard }

def sourcePaths (request : Request) : List String :=
  if request.sources.isEmpty then [standardInput] else request.sources

/-- What standard input is called in a failure. -/
def standardInputName : String := "<stdin>"

/-- What is delivered when a file or a directory is read.  A directory can be opened, but does not
deliver anything. -/
def deliveries : Node → List Delivery
  | .file bytes => [.bytes bytes]
  | .directory => [.failure DiskError.isDirectory.message]

/-- The run after all names in the sources.  Standard input is spent by its first reading. -/
def readSources (disk : Disk) (run : Run) (input : List UInt8) :
    List String → Except Failure Run
  | [] => .ok run
  | path :: rest =>
    if path = standardInput then do
      let run ← run.readWhole (Source.lines standardInputName [.bytes input])
      readSources disk run [] rest
    else
      match disk.find path with
      | .error cause => .error (.unopenedSource path cause)
      | .ok node => do
        let run ← run.readWhole (Source.lines path (deliveries node))
        readSources disk run input rest

def header (request : Request) (disk : Disk) (input : List UInt8) : Except Failure String := do
  let settings ← request.settings disk
  let run ← readSources disk (.start settings) input request.sourcePaths
  return run.finish

end Request

inductive Exit where
  | header (text : String)
  | failure (cause : Failure)
  | usage
  deriving DecidableEq, Repr

namespace Exit

def status : Exit → UInt32
  | header _ => 0
  | failure _ => 1
  | usage => 2

/-- What the program writes to standard output. -/
def output : Exit → String
  | header text => text
  | failure _ | usage => ""

/-- What the program writes to standard error. -/
def complaint : Exit → String
  | header _ => ""
  | failure cause => "Error: " ++ cause.message ++ "\n"
  | usage => "usage: [--config FILE] [--guard GUARD] [FILE]...\n"

end Exit

/-- What the program does with a request, on a disk and with the given standard input. -/
def Request.answer (request : Request) (disk : Disk) (input : List UInt8) : Exit :=
  match request.header disk input with
  | .ok text => .header text
  | .error failure => .failure failure

/-- What the program does with its arguments, on a disk and with the given standard input. -/
def answer (arguments : List String) (disk : Disk) (input : List UInt8) : Exit :=
  match Request.parse? arguments with
  | none => .usage
  | some request => request.answer disk input

end AssertionHeader
