import CompileFlags.Config.Settings

set_option autoImplicit false

namespace CompileFlags.Settings

def quoted (s : String) : String :=
  "\"" ++ s ++ "\""

def arrayText : List String → String
  | [] => "[]"
  | [s] => "[" ++ quoted s ++ "]"
  | ss => "[\n" ++ String.join (ss.map fun s => "    " ++ quoted s ++ ",\n") ++ "]"

def sectionText (name : String) (fields : List (String × String)) : String :=
  "[" ++ name ++ "]\n" ++ String.join (fields.map fun f => f.1 ++ " = " ++ f.2 ++ "\n")

def text (s : Settings) : String :=
  "\n".intercalate [
    sectionText "language" [("lang", quoted s.language.lang.name),
      ("dialect", quoted s.language.dialect.name), ("std", quoted s.language.std)],
    sectionText "compiler" [("frontend", quoted s.compiler.frontend)],
    sectionText "flags" [("warnings", arrayText s.flags.warnings)],
    sectionText "includes" [("local", arrayText s.includes.locals),
      ("external", arrayText s.includes.external)],
    sectionText "paths" (("buildinfo_dir", quoted s.paths.buildInfoDir) ::
      (s.paths.databaseDir.map fun dir => ("compdb_dir", quoted dir)).toList)]

end CompileFlags.Settings
