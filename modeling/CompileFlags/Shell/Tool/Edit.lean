import CompileFlags.Shell.Tool.Edit.Cycle

set_option autoImplicit false

namespace CompileFlags.Shell.Tool

def writeFiles (files : List (Chars × Chars)) : Act Unit := do
  for (name, text) in files do
    match ← openFile .write name with
    | .ok position => let _ ← writeStream position text
    | .error cause => fail (charsOf "couldn't open file " ++ name ++ charsOf (": " ++ cause.reason)) 4

def sed : Tool := fun _ args =>
  withOptions {
    flags := "nErsuz"
    valued := "efl"
    joined := "i"
    long := [("quiet", 'n'), ("silent", 'n'), ("expression", 'e'), ("file", 'f'),
      ("regexp-extended", 'E'), ("separate", 's'), ("in-place", 'i'), ("unbuffered", 'u')] }
    args fun g => do
    let mut scripts := #[]
    for (c, value) in g.options do
      if c = 'e' then scripts := scripts.push value
      else if c = 'f' then
        match ← readInput value with
        | .ok s => scripts := scripts.push (if s.getLast? = some '\n' then s.dropLast else s)
        | .error cause =>
          fail (charsOf "couldn't open file " ++ value ++ charsOf (": " ++ cause.reason))
    let isGiven := g.has 'e' ∨ g.has 'f'
    if !isGiven ∧ g.operands.isEmpty then
      let _ ← write 2 (charsOf
        "Usage: sed [OPTION]... \x7bscript-only-if-no-other-script\x7d [input-file]...\n")
      setStatus 1
    else if (← status) = 0 then
      let script := if isGiven then ['\n'].intercalate scripts.toList else g.operands.headD []
      let files := if isGiven then g.operands else g.operands.drop 1
      match Edit.parse (g.has 'E' || g.has 'r') script with
      | .error reason => fail reason
      | .ok steps =>
        let quiet := g.has 'n' || ['#', 'n', '\n'].isPrefixOf script
        let report (name : Chars) (cause : IoFault) : Act Unit :=
          if cause = .isDirectory then
            fail (charsOf "couldn't edit " ++ name ++ charsOf ": not a regular file") 4
          else fail (charsOf "can't read " ++ name ++ charsOf (": " ++ cause.reason)) 2
        let found ← inputs files report
        let w ← world
        if g.has 'i' then
          for (name, text) in found do
            let result := Edit.run w quiet steps text
            let kept := match (g.value? 'i').getD [] with
              | [] => []
              | suffix =>
                [(if suffix.contains '*' then
                    suffix.flatMap fun c => if c = '*' then lastName name else [c]
                  else name ++ suffix, text)]
            writeFiles (kept ++ (name, result.text) :: result.files)
        else
          let contents := found.map (·.2)
          let whole := (contents.dropLast.map completedBefore).flatten ++ contents.getLast?.getD []
          for text in if g.has 's' then contents else [whole] do
            let result := Edit.run w quiet steps text
            put result.text
            writeFiles result.files
            match result.status with
            | some n => setStatus n
            | none => pure ()
where
  completedBefore (s : Chars) : Chars := if s.isEmpty then s else completed s

end CompileFlags.Shell.Tool
