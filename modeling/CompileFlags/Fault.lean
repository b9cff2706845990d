import CompileFlags.Language
import CompileFlags.Path.Basic

set_option autoImplicit false

namespace CompileFlags

inductive IoFault where
  | notFound
  | denied
  | notDirectory
  | isDirectory
  | exists_
  | tooManyLinks
  | nameTooLong
  | nulInName
  | nulInArguments
  | argumentsTooLong
  | notEmpty
  | notExecutable
  | notText
  | noStream
  | other (text : String)
deriving DecidableEq

def IoFault.message : IoFault → String
  | .notFound => "No such file or directory (os error 2)"
  | .denied => "Permission denied (os error 13)"
  | .notDirectory => "Not a directory (os error 20)"
  | .isDirectory => "Is a directory (os error 21)"
  | .exists_ => "File exists (os error 17)"
  | .tooManyLinks => "Too many levels of symbolic links (os error 40)"
  | .nameTooLong => "File name too long (os error 36)"
  | .nulInName => "file name contained an unexpected NUL byte"
  | .nulInArguments => "nul byte found in provided data"
  | .argumentsTooLong => "Argument list too long (os error 7)"
  | .notEmpty => "Directory not empty (os error 39)"
  | .notExecutable => "Exec format error (os error 8)"
  | .noStream => "Bad file descriptor (os error 9)"
  | .notText => "stream did not contain valid UTF-8"
  | .other text => text

def IoFault.reason (f : IoFault) : String :=
  (f.message.splitOn " (os error").headD ""

inductive ConfigFault where
  | badVersion (language : Language) (version : String)
  | blankFrontend
  | relativeExternal (dir : String)
  | other (text : String)
deriving DecidableEq

def ConfigFault.message : ConfigFault → String
  | .badVersion language version =>
    "invalid " ++ language.name ++ " standard version '" ++ version ++ "'"
  | .blankFrontend => "compiler frontend must not be empty"
  | .relativeExternal dir =>
    "Expected absolute path for external headers, got '" ++ dir ++ "'"
  | .other text => text

inductive DatabaseFault where
  | unreadable (path : Path) (cause : IoFault)
  | malformed
  | other (text : String)
deriving DecidableEq

def DatabaseFault.message : DatabaseFault → String
  | .unreadable path cause => "cannot read " ++ path.text ++ ": " ++ cause.message
  | .malformed => "invalid JSON"
  | .other text => text

/-- A failure of flag resolution. -/
inductive FlagFault where
  | configuration (fault : ConfigFault)
  | noBuildInfo (path : Path)
  | noSearchList (command : String)
  | notStarted (command : String) (cause : IoFault)
  | database (fault : DatabaseFault)
  | io (cause : IoFault)
deriving DecidableEq

namespace FlagFault

def message : FlagFault → String
  | .configuration fault => "Configuration error: " ++ fault.message
  | .noBuildInfo path => "Could not find build information at \"" ++ path.text ++ "\""
  | .noSearchList command => "Failed to acquire system includes from compiler: " ++ command
  | .notStarted command cause =>
    "Failed to run compiler `" ++ command ++ "`: " ++ cause.message
  | .database fault => "Compilation database error: " ++ fault.message
  | .io cause => "IO error: " ++ cause.message

def probeCommand? : FlagFault → Option String
  | .noSearchList command | .notStarted command _ => some command
  | _ => none

def isFatal (fault : FlagFault) : Bool :=
  fault.probeCommand?.isSome

theorem not_isFatal_configuration (fault : ConfigFault) :
    (FlagFault.configuration fault).isFatal = false := rfl

end FlagFault

end CompileFlags
