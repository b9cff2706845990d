import CompileFlags.CommandLine.Command

set_option autoImplicit false

namespace CompileFlags.CommandLine

def programName : String := "cxflags"

def versionNumber : String := "0.1.0"

def fullName (separator : String) : Option Verb → String
  | none => programName
  | some verb => programName ++ separator ++ verb.name

def versionText (verb : Option Verb) : String :=
  fullName "-" verb ++ " " ++ versionNumber

def Verb.summary : Verb → String
  | .flags => "Print the flags of a file, or of the project"
  | .explain => "Show which source contributes which flags for a file"
  | .probe => "Print the system directories of the compiler"
  | .init => "Write a default configuration file"
  | .completion => "Print a completion script for a shell"

def Verb.operand : Verb → String
  | .flags => " [--json] [FILE]"
  | .explain => " <FILE>"
  | .probe | .init => ""
  | .completion => " <" ++ "|".intercalate (Terminal.all.map Terminal.name) ++ ">"

def usageLine (verb : Option Verb) : String :=
  "Usage: " ++ fullName " " verb ++ " [--config FILE] [-v|-q]" ++
    (match verb with
    | none => " [COMMAND]"
    | some verb => verb.operand)

def usage : Option Verb → List String
  | none => [usageLine none, ""] ++
    Verb.all.map (fun verb => "  " ++ verb.name ++ verb.operand ++ "\n      " ++ verb.summary)
  | some verb => [verb.summary, "", usageLine (some verb)]

def completionScript (terminal : Terminal) : List String :=
  let names := Verb.all.map Verb.name
  let words := " ".intercalate names
  match terminal with
  | .bash => ["complete -W '" ++ words ++ "' " ++ programName]
  | .elvish =>
    ["set edit:completion:arg-completer[" ++ programName ++ "] = \x7b|@args| put " ++ words ++
      " \x7d"]
  | .fish => ["complete -c " ++ programName ++ " -a '" ++ words ++ "'"]
  | .powershell =>
    ["Register-ArgumentCompleter -Native -CommandName " ++ programName ++ " -ScriptBlock \x7b " ++
      ", ".intercalate (names.map fun name => "'" ++ name ++ "'") ++ " \x7d"]
  | .zsh => ["#compdef " ++ programName, "compadd " ++ words]

end CompileFlags.CommandLine
