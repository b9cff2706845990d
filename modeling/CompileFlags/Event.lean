import CompileFlags.Fault

set_option autoImplicit false

namespace CompileFlags

inductive Level where
  | warn
  | debug
deriving DecidableEq

inductive Event where
  | emptyExternal
  | entrySkipped (file : Path)
  | probing (command : String)
  | probed (count : Nat)
  | databaseLoaded (count : Nat)
  | databaseUnavailable (fault : FlagFault)
  | sourceFound (source header : Path)
  | sourceMissing (header : Path)
  | buildInfoRead (count : Nat) (path : Path)
  | buildInfoUnavailable (fault : FlagFault)
  | resolved (count : Nat) (file : Path)
deriving DecidableEq

namespace Event

def level : Event → Level
  | .emptyExternal | .entrySkipped _ => .warn
  | _ => .debug

def message : Event → String
  | .emptyExternal => "Empty external include entry, ignoring all external includes"
  | .entrySkipped file => "Skipping entry for " ++ file.text ++ " without a command"
  | .probing command => "Probing system includes: " ++ command
  | .probed count => "Compiler reported " ++ toString count ++ " system include dir(s)"
  | .databaseLoaded count => "Loaded " ++ toString count ++ " compilation database entries"
  | .databaseUnavailable fault => "Compilation database unavailable: " ++ fault.message
  | .sourceFound source header => "Using " ++ source.text ++ " for header " ++ header.text
  | .sourceMissing header => "No source file found for header " ++ header.text
  | .buildInfoRead count path =>
    "Read " ++ toString count ++ " flag(s) from build info " ++ path.text
  | .buildInfoUnavailable fault => "No dependency flags: " ++ fault.message
  | .resolved count file => "Resolved " ++ toString count ++ " flag(s) for " ++ file.text

end Event

/-- A value with the events of its computation. -/
structure Logged (α : Type) where
  value : α
  events : List Event := []

namespace Logged

def note (e : Event) : Logged Unit := ⟨(), [e]⟩

instance : Monad Logged where
  pure a := ⟨a, []⟩
  bind x f := ⟨(f x.value).value, x.events ++ (f x.value).events⟩

@[simp] theorem value_pure {α : Type} (a : α) : (pure a : Logged α).value = a := rfl

@[simp] theorem events_pure {α : Type} (a : α) : (pure a : Logged α).events = [] := rfl

@[simp] theorem value_bind {α β : Type} (x : Logged α) (f : α → Logged β) :
    (x >>= f).value = (f x.value).value := rfl

@[simp] theorem events_bind {α β : Type} (x : Logged α) (f : α → Logged β) :
    (x >>= f).events = x.events ++ (f x.value).events := rfl

end Logged

end CompileFlags
