set_option autoImplicit false

namespace CompileFlags

inductive Language where
  | c
  | cpp
deriving DecidableEq, Inhabited

inductive Dialect where
  | iso
  | gnu
deriving DecidableEq, Inhabited

def Language.name : Language → String
  | .c => "c"
  | .cpp => "c++"

def Dialect.name : Dialect → String
  | .iso => "iso"
  | .gnu => "gnu"

def Language.ofName? (name : String) : Option Language :=
  [Language.c, .cpp].find? (·.name == name)

def Dialect.ofName? (name : String) : Option Dialect :=
  [Dialect.iso, .gnu].find? (·.name == name)

def standardName (language : Language) (dialect : Dialect) (version : String) : String :=
  match dialect, language with
  | .iso, _ => language.name ++ version
  | .gnu, .c => "gnu" ++ version
  | .gnu, .cpp => "gnu++" ++ version

theorem Language.ofName?_name (language : Language) : ofName? language.name = some language := by
  cases language <;> decide

theorem Dialect.ofName?_name (dialect : Dialect) : ofName? dialect.name = some dialect := by
  cases dialect <;> decide

end CompileFlags
