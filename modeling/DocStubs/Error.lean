import DocStubs.Code.Outline
import DocStubs.Files.Fault

/-!
# Errors

Everything that can go wrong, by its cause. The wording of a cause is in its `message`.

## Main definitions

* `ImportFault` — why a module cannot be loaded or listed
* `ConfigFault` — what is wrong with a configuration
* `Error` — all errors
-/

namespace DocStubs

/-- Why a module cannot be loaded, or a package cannot be listed. -/
inductive ImportFault where
  /-- There is no module of that name. -/
  | missing (name : String)
  /-- The module is inside something that is no package. -/
  | parentNotPackage (parent : String)
  /-- A package was asked for. -/
  | notPackage (name : String)
  /-- A module was asked for. -/
  | notModule (name : String)
  | unreadable (path : String) (fault : FileFault)
  | malformed (path : String) (fault : Code.SyntaxError)
  | unlisted (fault : WalkFault)
  deriving DecidableEq, Repr, Inhabited

namespace ImportFault

/-- The text for a fault. -/
def message : ImportFault → String
  | missing name => "No module named '" ++ name ++ "'"
  | parentNotPackage parent => "'" ++ parent ++ "' is not a package"
  | notPackage name => "'" ++ name ++ "' is a module, not a package"
  | notModule name => "'" ++ name ++ "' is a package, not a module"
  | unreadable path fault => path ++ ": " ++ fault.message
  | malformed path fault => path ++ ": Parser error: " ++ fault.message
  | unlisted fault => "Directory walk error: " ++ fault.message

end ImportFault

/-- What is wrong with a configuration. -/
inductive ConfigFault where
  | noSearchPath
  | blankPath (key : String)
  | absolutePath (key value : String)
  | emptyExtension
  | emptyBackupPrefix
  | unknownOrder (text : String)
  deriving DecidableEq, Repr, Inhabited

namespace ConfigFault

/-- The text for a fault. -/
def message : ConfigFault → String
  | noSearchPath => "at least one search path required"
  | blankPath key => key ++ " must not be empty"
  | absolutePath key value => key ++ " must be relative to the source dir, got " ++ value
  | emptyExtension => "extension must not be empty"
  | emptyBackupPrefix => "backup_prefix must not be empty"
  | unknownOrder text => "unknown member order: " ++ text

end ConfigFault

/-- All errors. -/
inductive Error where
  | file (fault : FileFault)
  /-- A configuration file is not written in its format, or holds values of wrong types. -/
  | configFormat
  | config (fault : ConfigFault)
  | cannotImport (name : String) (fault : ImportFault)
  /-- A file is in the way of a page. -/
  | collision (path : String)
  /-- What is to be backed up is neither a file nor a directory. -/
  | backupSource (path : String)
  /-- There are hand-written pages without an index. -/
  | handWrittenIndex (directory index : String)
  /-- A manifest is not written in its format, or holds values of wrong types. -/
  | manifestFormat
  /-- An exclusion pattern is none. -/
  | pattern
  | walk (fault : WalkFault)
  | code (fault : Code.SyntaxError)
  deriving DecidableEq, Repr, Inhabited

namespace Error

/-- The text for an error. Of an error in the format of some text, only the kind is told. -/
def message : Error → String
  | file fault => "IO error: " ++ fault.message
  | configFormat => "Failed to parse config file: "
  | config fault => "Config validation error: " ++ fault.message
  | cannotImport name fault => "Cannot import " ++ name ++ ": " ++ fault.message
  | collision path => "File exists: " ++ path
  | backupSource path => "Backup source is not a file or directory: " ++ path
  | handWrittenIndex directory index =>
    "Hand-written docs found in " ++ directory ++ " but " ++ index ++ " does not exist"
  | manifestFormat => "JSON error: "
  | pattern => "Invalid exclude pattern: "
  | walk fault => "Directory walk error: " ++ fault.message
  | code fault => "Parser error: " ++ fault.message

end Error

end DocStubs
