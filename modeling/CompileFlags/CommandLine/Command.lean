import CompileFlags.Path.Basic

set_option autoImplicit false

namespace CompileFlags.CommandLine

inductive Verb where
  | flags
  | explain
  | probe
  | init
  | completion
deriving DecidableEq

/-- A shell to complete command lines in. -/
inductive Terminal where
  | bash
  | elvish
  | fish
  | powershell
  | zsh
deriving DecidableEq

inductive Switch where
  | config
  | verbose
  | quiet
  | json
  | help
  | version
deriving DecidableEq

inductive Command where
  | flags (file : Option Path) (json : Bool)
  | explain (file : Path)
  | probe
  | init
  | completion (terminal : Terminal)
deriving DecidableEq

/-- A command with the switches that all commands share. -/
structure Invocation where
  config : Option Path
  verbose : Bool
  quiet : Bool
  command : Command
deriving DecidableEq

/-- What a command line asks for. Help and version concern the program or one command. -/
inductive Request where
  | run (invocation : Invocation)
  | help (verb : Option Verb)
  | version (verb : Option Verb)
  | misuse
deriving DecidableEq

namespace Verb

def all : List Verb :=
  [.flags, .explain, .probe, .init, .completion]

def name : Verb → String
  | .flags => "flags"
  | .explain => "explain"
  | .probe => "probe"
  | .init => "init"
  | .completion => "completion"

def ofName? (name : String) : Option Verb :=
  all.find? (·.name == name)

theorem ofName?_name (verb : Verb) : ofName? verb.name = some verb := by
  cases verb <;> decide

end Verb

namespace Terminal

def all : List Terminal :=
  [.bash, .elvish, .fish, .powershell, .zsh]

def name : Terminal → String
  | .bash => "bash"
  | .elvish => "elvish"
  | .fish => "fish"
  | .powershell => "powershell"
  | .zsh => "zsh"

def ofName? (name : String) : Option Terminal :=
  all.find? (·.name == name)

theorem ofName?_name (terminal : Terminal) : ofName? terminal.name = some terminal := by
  cases terminal <;> decide

end Terminal

namespace Switch

def name : Switch → String
  | .config => "config"
  | .verbose => "verbose"
  | .quiet => "quiet"
  | .json => "json"
  | .help => "help"
  | .version => "version"

def known (verb : Option Verb) : List Switch :=
  [.config, .verbose, .quiet, .help, .version] ++ if verb = some .flags then [.json] else []

def ofName? (verb : Option Verb) (name : String) : Option Switch :=
  (known verb).find? (·.name == name)

def ofLetter? (letter : Char) : Option Switch :=
  match letter with
  | 'v' => some .verbose
  | 'q' => some .quiet
  | 'h' => some .help
  | 'V' => some .version
  | _ => none

end Switch

end CompileFlags.CommandLine
