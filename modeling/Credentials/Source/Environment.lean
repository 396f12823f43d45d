import Credentials.Source.Basic

/-!
# Environment variables as a source

Each credential has one variable: its path in capitals with underscores for dots, after the prefix
and an underscore if there is a prefix. Only these variables are looked up, in the order of the
schema.

Main statement: `variableName_eq_append`, the variable of a path ends in the same text whatever the
prefix.
-/

namespace Credentials

open Text

/-- The variables of a process. -/
abbrev Environment := List (String × String)

/-- The value of a variable; of several assignments the last counts. -/
def Environment.get? (env : Environment) (name : String) : Option String :=
  (env.reverse.find? (·.1 == name)).map (·.2)

/-- A path in capitals with underscores for dots. -/
def variableBase (path : String) : String :=
  upper (String.ofList (path.toList.map fun c => if c = '.' then '_' else c))

/-- The variable of a path. -/
def variableName (pre path : String) : String :=
  if pre.isEmpty then variableBase path else upper (pre ++ "_" ++ variableBase path)

theorem variableName_eq_append {pre : String} (h : pre.isEmpty = false) (path : String) :
    variableName pre path = upper pre ++ upper "_" ++ upper (variableBase path) := by
  simp [variableName, h, upper_append]

/-- The source of the variables of an environment. -/
def Source.ofEnvironment (name pre : String) (env : Environment) : Source :=
  .ofPairs name <| Field.all.filterMap fun f =>
    (env.get? (variableName pre f.path)).map fun v => (f.path, .text v)

end Credentials
