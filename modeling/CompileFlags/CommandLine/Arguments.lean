import CompileFlags.CommandLine.Command

set_option autoImplicit false

/-!
# Reading a command line

The words before a command's name are read first, then those behind it; each of the two halves has
its own switches, none of them twice. A word is only judged when the next switch or operand comes,
or at the end, so a request for help behind a bad word comes too late. The half before a command
is judged after the command's own.
-/

namespace CompileFlags.CommandLine

/-- Why reading ends before the end. -/
inductive Stop where
  | help
  | version
  | misuse
deriving DecidableEq

/-- What has been accepted in one half. -/
structure Given where
  switches : List Switch := []
  config : Option String := none
  operand : Option String := none
deriving DecidableEq

inductive Pending where
  | nothing
  | valueMissing
  | config (value : String)
  | operand (value : String)
deriving DecidableEq

structure Half where
  verb : Option Verb
  given : Given := {}
  pending : Pending := .nothing
deriving DecidableEq

namespace Half

def takesOperand (verb : Option Verb) : Bool :=
  verb = some .flags || verb = some .explain || verb = some .completion

def fitsOperand (verb : Option Verb) (value : String) : Bool :=
  if verb = some .completion then (Terminal.ofName? value).isSome else value != ""

def settle (p : Half) : Except Stop Half :=
  match p.pending with
  | .nothing => .ok p
  | .valueMissing => .error .misuse
  | .config value =>
    if value = "" ∨ p.given.config.isSome then .error .misuse
    else .ok { p with given := { p.given with config := some value }, pending := .nothing }
  | .operand value =>
    if fitsOperand p.verb value then
      .ok { p with given := { p.given with operand := some value }, pending := .nothing }
    else .error .misuse

def give (p : Half) (s : Switch) : Except Stop Half := do
  let p ← p.settle
  if s = .help then throw .help
  else if s = .version then throw .version
  else if s ∈ p.given.switches then throw .misuse
  else return { p with given := { p.given with switches := s :: p.given.switches } }

def takeLong (p : Half) (text : List Char) : Except Stop Half :=
  let name := String.ofList (text.takeWhile (· != '='))
  match Switch.ofName? p.verb name, text.dropWhile (· != '=') with
  | none, _ => .error .misuse
  | some .config, [] => do return { ← p.settle with pending := .valueMissing }
  | some .config, _ :: value => do
    settle { ← p.settle with pending := .config (String.ofList value) }
  | some s, [] => p.give s
  | some _, _ :: _ => .error .misuse

def takeLetter (p : Half) (letter : Char) : Except Stop Half :=
  match Switch.ofLetter? letter with
  | none => .error .misuse
  | some s => p.give s

def takeOperand (p : Half) (word : String) : Except Stop Half := do
  let p ← p.settle
  if takesOperand p.verb && p.given.operand.isNone then
    return { p with pending := .operand word }
  else throw .misuse

def take (p : Half) (word : String) : Except Stop Half :=
  match word.toList with
  | '-' :: '-' :: text => p.takeLong text
  | '-' :: letter :: letters => (letter :: letters).foldlM takeLetter p
  | _ =>
    if p.pending = .valueMissing then .ok { p with pending := .config word }
    else p.takeOperand word

def endsAt (p : Half) (word : String) : Bool :=
  p.verb.isNone && p.pending != .valueMissing && (word == "help" || (Verb.ofName? word).isSome)

/-- The half after its words, with the words from a command's name on. Behind two dashes all
words are operands. -/
def read (p : Half) : List String → Except Stop (Half × List String)
  | [] => .ok (p, [])
  | word :: rest =>
    if p.endsAt word then .ok (p, word :: rest)
    else if word = "--" then do return (← rest.foldlM takeOperand p, [])
    else do (← p.take word).read rest

end Half

def Given.command? (given : Given) : Verb → Option Command
  | .flags => some (.flags (given.operand.map Path.mk) (given.switches.contains .json))
  | .explain => given.operand.map fun file => .explain ⟨file⟩
  | .probe => some .probe
  | .init => some .init
  | .completion => (given.operand.bind Terminal.ofName?).map .completion

def Given.invoke (before behind : Given) (command : Command) : Invocation where
  config := (behind.config <|> before.config).map Path.mk
  verbose := before.switches.contains .verbose || behind.switches.contains .verbose
  quiet := before.switches.contains .quiet || behind.switches.contains .quiet
  command := command

def Request.ofStop (verb : Option Verb) : Stop → Request
  | .help => .help verb
  | .version => .version verb
  | .misuse => .misuse

def helpOn : List String → Request
  | [] => .help none
  | [name] =>
    match Verb.ofName? name with
    | some verb => .help (some verb)
    | none => if name = "help" then .help none else .misuse
  | _ => .misuse

def parse (args : List String) : Request :=
  match Half.read { verb := none } args with
  | .error stop => .ofStop none stop
  | .ok (before, []) =>
    match before.settle with
    | .error stop => .ofStop none stop
    | .ok p => .run (p.given.invoke {} (.flags none false))
  | .ok (before, name :: rest) =>
    match Verb.ofName? name with
    | none => helpOn rest
    | some verb =>
      match Half.read { verb := some verb } rest >>= fun (p, _) => p.settle with
      | .error stop => .ofStop (some verb) stop
      | .ok behind =>
        match behind.given.command? verb, before.settle with
        | some command, .ok p => .run (p.given.invoke behind.given command)
        | _, _ => .misuse

end CompileFlags.CommandLine
