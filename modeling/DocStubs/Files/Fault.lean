/-!
# What can go wrong with files

## Main definitions

* `FileFault` — why an operation on a path failed
* `WalkFault` — why a directory could not be walked
-/

namespace DocStubs

/-- Why an operation on a path failed. -/
inductive FileFault where
  | notFound
  | noDevice
  | alreadyExists
  | notDirectory
  | isDirectory
  | nameTooLong
  | tooManyLinks
  /-- The content of a file is no text. -/
  | notText
  /-- A path holds a character that no path can hold. -/
  | badPath
  deriving DecidableEq, Repr, Inhabited

namespace FileFault

/-- The text for a fault. -/
def message : FileFault → String
  | notFound => "No such file or directory (os error 2)"
  | noDevice => "No such device or address (os error 6)"
  | alreadyExists => "File exists (os error 17)"
  | notDirectory => "Not a directory (os error 20)"
  | isDirectory => "Is a directory (os error 21)"
  | nameTooLong => "File name too long (os error 36)"
  | tooManyLinks => "Too many levels of symbolic links (os error 40)"
  | notText => "stream did not contain valid UTF-8"
  | badPath => "file name contained an unexpected NUL byte"

end FileFault

/-- Why a directory could not be walked. -/
inductive WalkFault where
  /-- An operation on some path failed. -/
  | file (path : String) (fault : FileFault)
  /-- A link leads back to a directory that is being walked. -/
  | loop (child ancestor : String)
  deriving DecidableEq, Repr, Inhabited

namespace WalkFault

/-- The text for a fault. -/
def message : WalkFault → String
  | file path fault => "IO error for operation on " ++ path ++ ": " ++ fault.message
  | loop child ancestor =>
    "File system loop found: " ++ child ++ " points to an ancestor " ++ ancestor

end WalkFault

end DocStubs
