import CompileFlags.Shell.Invocation
import CompileFlags.Shell.Tool.Edit
import CompileFlags.Shell.Tool.Expression
import CompileFlags.Shell.Tool.Find
import CompileFlags.Shell.Tool.Lines
import CompileFlags.Shell.Tool.Search
import CompileFlags.Shell.Tool.Start

set_option autoImplicit false

namespace CompileFlags.Shell.Tool

open Disk

def table : List (String × Tool) :=
  [("[", test true), ("arch", fact "x86_64"), ("basename", basename), ("cat", cat),
    ("chmod", chmod), ("cmp", cmp), ("cp", cp), ("cut", cut),
    ("date", fact "Thu Jan  1 00:00:00 UTC 1970"), ("dirname", dirname), ("echo", echo),
    ("egrep", grepWith true false), ("env", env), ("expr", expr), ("false", refuse),
    ("fgrep", grepWith false true), ("find", find), ("fold", fold), ("grep", grep), ("head", head),
    ("hostname", fact "localhost"), ("id", id), ("ln", ln), ("ls", ls), ("mkdir", mkdir),
    ("mktemp", mktemp), ("mv", mv), ("nice", passing "n"), ("nl", nl), ("nohup", passing ""),
    ("nproc", fact "1"), ("paste", paste), ("printenv", printenv), ("printf", printf), ("pwd", pwd),
    ("readlink", readlink), ("realpath", realpath), ("rev", rev), ("rm", rm), ("rmdir", rmdir),
    ("sed", sed), ("seq", seq), ("setsid", passing ""), ("sleep", sleep), ("sort", sort),
    ("stat", stat), ("stdbuf", passing "ioe"), ("sync", succeed), ("tac", tac), ("tail", tail),
    ("tee", tee), ("test", test false), ("timeout", timeout), ("touch", touch), ("tr", tr),
    ("true", succeed), ("tty", tty), ("uname", uname), ("uniq", uniq), ("wc", wc),
    ("which", which), ("whoami", fact "root"), ("xargs", xargs), ("yes", yes)]

def shells : List (String × Bool) := [("bash", true), ("dash", false), ("sh", false)]

def run (calls : Calls) (tool : String) (argv : List Chars) : Act Unit := do
  match shells.lookup tool with
  | some extended => runShell extended calls argv
  | none =>
    match table.lookup tool with
    | some t =>
      modifyProcess ({ · with name := argv.headD [] })
      t calls (argv.drop 1)
    | none => setStatus 1

def files : List (String × Node) :=
  ((table.map (·.1)) ++ (shells.map (·.1))).map fun name => (name, Image.fileOf name)

end CompileFlags.Shell.Tool
