import AssertionHeader.Disk
import AssertionHeader.Settings
import AssertionHeader.Settings.Toml
import AssertionHeader.Text.Utf8

/-!
# Settings files

A settings file names the settings that it changes.  It must not name one twice, nor anything that
is not a setting.  Settings that are read are made readable; the defaults, which stand for a file
that does not exist, are used as they are.
-/

namespace AssertionHeader.Settings

def set? (settings : Settings) (entry : Toml.Entry) : Option Settings :=
  match entry.key, entry.value with
  | "guard", .text text => some { settings with guard := text }
  | "report_function", .text text => some { settings with reportFunction := text }
  | "sentinel", .text text => some { settings with sentinel := text }
  | "failure_condition", .text text => some { settings with failureCondition := text }
  | "wrap_width", .integer (.ofNat n) => some { settings with wrapWidth := n }
  | "null_header", .text text => some { settings with nullHeader := text }
  | "string_header", .text text => some { settings with stringHeader := text }
  | _, _ => none

/-- The settings that entries change in the defaults.  No key may come twice. -/
def ofEntries? (entries : List Toml.Entry) : Option Settings :=
  if (entries.map (·.key)).Nodup then entries.foldlM set? {} else none

def ofText? (text : List Char) : Option Settings :=
  (Toml.entries? text).bind fun entries => (ofEntries? entries).map normalized

/-- What text that is not in a file is called in a failure. -/
def inlineName : String := "<inline>"

/-- The settings in a text; `path` says where it is from. -/
def parse (path : String) (text : List Char) : Except Failure Settings :=
  match ofText? text with
  | some settings => .ok settings
  | none => .error (.malformedSettings path)

/-- The settings in the file at a path; the defaults if nothing is there. -/
def load (disk : Disk) (path : String) : Except Failure Settings :=
  if disk.isPresent path then
    match disk.read path with
    | .error cause => .error (.unreadableSettings path cause)
    | .ok bytes =>
      match Text.Utf8.decode? bytes with
      | none => .error (.undecodableSettings path)
      | some text => parse path text
  else .ok {}

end AssertionHeader.Settings
