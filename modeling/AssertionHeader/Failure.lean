/-!
# Failures

What can keep a header from being written.  A name that spells no macro is no failure.
-/

namespace AssertionHeader

/-- Why a path does not lead to a file that can be read. -/
inductive DiskError where
  | notFound
  | notDirectory
  | isDirectory
  | nameTooLong
  | permissionDenied
  /-- Another reason, in the words of the system. -/
  | other (detail : String)
  deriving DecidableEq, Repr

/-- The reason in the words of the system. -/
def DiskError.message : DiskError → String
  | notFound => "No such file or directory (os error 2)"
  | notDirectory => "Not a directory (os error 20)"
  | isDirectory => "Is a directory (os error 21)"
  | nameTooLong => "File name too long (os error 36)"
  | permissionDenied => "Permission denied (os error 13)"
  | other detail => detail

/-- Why no header is written. -/
inductive Failure where
  | missingSettings (path : String)
  | unreadableSettings (path : String) (cause : DiskError)
  | undecodableSettings (path : String)
  /-- The settings file is not well formed, or does not hold settings. -/
  | malformedSettings (path : String)
  /-- A file of names cannot be opened. -/
  | unopenedSource (path : String) (cause : DiskError)
  /-- A source of names stopped delivering. -/
  | unreadableSource (name detail : String)
  deriving DecidableEq, Repr

def Failure.message : Failure → String
  | missingSettings path => "config file not found: " ++ path
  | unreadableSettings path cause => "failed to load config: " ++ path ++ ": " ++ cause.message
  | undecodableSettings path =>
    "failed to load config: " ++ path ++ ": stream did not contain valid UTF-8"
  | malformedSettings path => "failed to load config: " ++ path
  | unopenedSource path cause =>
    "failed to open " ++ path ++ "\n\nCaused by:\n    " ++ cause.message
  | unreadableSource name detail => "failed to read tokens from " ++ name ++ ": " ++ detail

end AssertionHeader
