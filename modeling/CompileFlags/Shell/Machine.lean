import CompileFlags.Disk.World
import CompileFlags.Shell.Command

set_option autoImplicit false

/-!
# The machine that scripts run on

A machine has the files of a world, the open streams, and the process that is running. Streams and
files are shared by all processes; a child process starts as a copy of its parent, and its parent
goes on unchanged when the child has ended.
-/

namespace CompileFlags.Shell

open Disk

/-- The value of a variable. Only the extended shell has lists, with numbered items, and tables, with
named ones. -/
inductive Value where
  | missing
  | text (s : Chars)
  | list (items : List (Nat × Chars))
  | table (items : List (Chars × Chars))

/-- What becomes of a text that is assigned to a variable. -/
inductive Conversion where
  | none
  | number
  | upper
  | lower
deriving DecidableEq

structure Variable where
  value : Value := .missing
  exported : Bool := false
  readOnly : Bool := false
  conversion : Conversion := .none

/-- An open stream: text to be read, text that was printed, with its last piece first, or a file
with the place of the next byte. -/
inductive Stream where
  | nowhere
  | held (rest : Chars)
  | collected (pieces : List Chars)
  | file (place : Place) (offset : Nat) (access : Access)

instance : Inhabited Stream := ⟨.nowhere⟩

/-- The state of a running shell. Streams go by the numbers of the descriptors that lead to them;
the folder is the working folder as the script has named it. The paths of programs that have been
looked up are remembered as long as the search path that they were found by. The callers are the
names of the functions that run, the nesting counts the scripts inside each other. -/
structure Process where
  number : Nat
  name : Chars
  args : List Chars
  vars : List (String × Variable)
  functions : List (String × Command)
  aliases : List (String × Chars)
  descriptors : List (Nat × Nat)
  folder : Chars
  jobs : List (Nat × Nat)
  optionOffset : Nat
  status : Nat
  outputStatus : Option Nat
  options : Chars
  extended : Bool
  tested : Bool
  isChild : Bool
  line : Nat
  loops : Nat
  calls : Nat
  hidden : List (List (String × Option Variable))
  traps : List (String × Chars)
  speaker : Option String
  mask : Nat
  remembered : Chars × List (String × Chars)
  switches : List String
  stageStatuses : List Nat
  callers : List String
  nesting : Nat
  folders : List Chars

/-- Why the commands that follow do not run: the shell exits, on purpose or over a fault, a function
is left, a loop is left or goes into its next turn, the program is killed by a signal, or there is no
room on the machine. -/
inductive Signal where
  | exit
  | fault
  | leave
  | breakLoop (depth : Nat)
  | nextTurn (depth : Nat)
  | killed (name : String)
  | exhausted
deriving DecidableEq

structure Machine where
  world : World
  streams : Array Stream
  process : Process
  texts : Array Word
  serial : Nat

abbrev Act := ExceptT Signal (StateM Machine)

instance : Inhabited (Act Unit) := ⟨pure ()⟩

def process : Act Process := do
  return (← get).process

def modifyProcess (f : Process → Process) : Act Unit :=
  modify fun m => { m with process := f m.process }

def world : Act World := do
  return (← get).world

def setWorld (w : World) : Act Unit :=
  modify ({ · with world := w })

def setStatus (status : Nat) : Act Unit :=
  modifyProcess ({ · with status := status })

def status : Act Nat := do
  return (← process).status

def attempt {α : Type} (act : Act α) : Act (Except Signal α) :=
  ExceptT.mk (do return .ok (← act.run))

def contentAt (w : World) (place : Place) : Chars :=
  match w.tree.at? place with
  | some (.file content _) => charsOfBytes content
  | _ => []

def writeAt (w : World) (place : Place) (offset : Nat) (s : Chars) : World :=
  match w.tree.at? place with
  | some (.file content rights) =>
    let start := content.take offset ++ List.replicate (offset - content.length) 0
    w.setNode place (.file (start ++ bytesOfChars s ++ content.drop (offset + s.length)) rights)
  | _ => w

def newStream (s : Stream) : Act Nat := do
  let position := (← get).streams.size
  modify fun m => { m with streams := m.streams.push s }
  return position

def streamAt (position : Nat) : Act Stream := do
  return (← get).streams.getD position .nowhere

def setStream (position : Nat) (s : Stream) : Act Unit :=
  modify fun m => { m with streams := m.streams.setIfInBounds position s }

def descriptor? (fd : Nat) : Act (Option Nat) := do
  return (← process).descriptors.lookup fd

def withDescriptor (fd : Nat) (position : Option Nat) (ds : List (Nat × Nat)) : List (Nat × Nat) :=
  let others := ds.filter (·.1 != fd)
  match position with
  | some position => (fd, position) :: others
  | none => others

def setDescriptor (fd : Nat) (position : Option Nat) : Act Unit :=
  modifyProcess fun p => { p with descriptors := withDescriptor fd position p.descriptors }

def writeStream (position : Nat) (s : Chars) : Act Bool := do
  match ← streamAt position with
  | .nowhere => return true
  | .held _ => return s.isEmpty
  | .collected pieces =>
    setStream position (.collected (s :: pieces))
    return true
  | .file place offset access =>
    if access = .read then return s.isEmpty
    let w ← world
    let offset := if access = .append then (contentAt w place).length else offset
    setWorld (writeAt w place offset s)
    setStream position (.file place (offset + s.length) access)
    return true

def write (fd : Nat) (s : Chars) : Act Bool := do
  match ← descriptor? fd with
  | none => return s.isEmpty
  | some position => writeStream position s

def pendingInput (fd : Nat) : Act Chars := do
  match ← descriptor? fd with
  | none => return []
  | some position =>
    match ← streamAt position with
    | .held rest => return rest
    | .file place offset access =>
      if access = .write ∨ access = .append then return []
      return (contentAt (← world) place).drop offset
    | _ => return []

def consume (fd n : Nat) : Act Unit := do
  match ← descriptor? fd with
  | none => return
  | some position =>
    match ← streamAt position with
    | .held rest => setStream position (.held (rest.drop n))
    | .file place offset access => setStream position (.file place (offset + n) access)
    | _ => return

def readAll (fd : Nat) : Act Chars := do
  let s ← pendingInput fd
  consume fd s.length
  return s

def collectedText (position : Nat) : Act Chars := do
  match ← streamAt position with
  | .collected pieces => return pieces.reverse.flatten
  | _ => return []

def print (s : Chars) : Act Unit := do
  let _ ← write 1 s

/-- Say what is wrong, on the error stream, with the name of the script and the line. -/
def complain (text : Chars) : Act Unit := do
  let p ← process
  let line := if p.extended then charsOf ": line " ++ natText p.line else charsOf ": " ++ natText p.line
  let speaker := match p.speaker with
    | some name => charsOf (name ++ ": ")
    | none => []
  let _ ← write 2 (p.name ++ line ++ charsOf ": " ++ speaker ++ text ++ ['\n'])

def fault {α : Type} (text : Chars) (status : Nat := 2) : Act α := do
  complain text
  setStatus status
  throw .fault

namespace Process

def variableNamed? (p : Process) (name : String) : Option Variable :=
  p.vars.lookup name

/-- The text of a variable. A list counts as its first item, and a table as that named by zero. -/
def value? (p : Process) (name : String) : Option Chars :=
  match p.variableNamed? name with
  | some { value := .text s, .. } => some s
  | some { value := .list items, .. } => items.lookup 0
  | some { value := .table items, .. } => items.lookup ['0']
  | _ => none

def withVariable (p : Process) (name : String) (v : Variable) : Process :=
  { p with vars := (name, v) :: p.vars.filter (·.1 != name) }

def withoutVariable (p : Process) (name : String) : Process :=
  { p with vars := p.vars.filter (·.1 != name) }

def environment (p : Process) : List (String × Chars) :=
  p.vars.filterMap fun (name, v) =>
    match v.exported, v.value with
    | true, .text s => some (name, s)
    | _, _ => none

def separators (p : Process) : Chars :=
  match p.variableNamed? "IFS" with
  | some { value := .text s, .. } => s
  | _ => [' ', '\t', '\n']

def hasSwitch (p : Process) (name : String) : Bool :=
  p.switches.contains name

def hasOption (p : Process) (option : Char) : Bool :=
  p.options.contains option

end Process

def variableValue? (name : String) : Act (Option Chars) := do
  return (← process).value? name

/-- Change a variable unless it is read-only. -/
def changeVariable (name : String) (change : Variable → Variable) : Act Unit := do
  let p ← process
  let v := (p.variableNamed? name).getD {}
  if v.readOnly then
    fault (charsOf (name ++ if p.extended then ": readonly variable" else ": is read only"))
      (if p.extended then 1 else 2)
  let v := change v
  modifyProcess (·.withVariable name { v with exported := v.exported || p.hasOption 'a' })

def setItem (position : Nat) (s : Chars) : List (Nat × Chars) → List (Nat × Chars)
  | [] => [(position, s)]
  | (n, t) :: rest =>
    if n = position then (n, s) :: rest
    else if position < n then (position, s) :: (n, t) :: rest
    else (n, t) :: setItem position s rest

def setNamed (key s : Chars) (items : List (Chars × Chars)) : List (Chars × Chars) :=
  if items.any (·.1 == key) then items.map fun item => if item.1 = key then (key, s) else item
  else (key, s) :: items

def tableOrder (items : List (Chars × Chars)) : List (Chars × Chars) :=
  let hash (key : Chars) : Nat :=
    (key.foldl (fun (h : UInt32) c => (h * 16777619) ^^^ c.val) 2166136261).toNat % 1024
  items.mergeSort fun a b => hash a.1 ≤ hash b.1

def setVariable (name : String) (s : Chars) : Act Unit :=
  changeVariable name fun v =>
    { v with value := match v.value with
        | .list items => .list (setItem 0 s items)
        | .table items => .table (setNamed ['0'] s items)
        | _ => .text s }

def itemsOf (v : Variable) : List (Nat × Chars) :=
  match v.value with
  | .missing => []
  | .text s => [(0, s)]
  | .list items => items
  | .table _ => []

def livingFolder (w : World) (cwd : Option Place) : Option Place :=
  cwd.filter fun place => ((w.tree.at? place).map Node.isFolder).getD false

def inChild (change : Process → Process) (body : Act Unit) : Act Nat := do
  let before ← get
  set { before with
    process := change { before.process with isChild := true, loops := 0, outputStatus := none } }
  let result ← attempt body
  let after ← get
  set { after with
    process := before.process
    world := { after.world with cwd := livingFolder after.world before.world.cwd } }
  match result with
  | .error (.killed name) => throw (.killed name)
  | .error .exhausted => throw .exhausted
  | _ => return after.process.status % 256

end CompileFlags.Shell
