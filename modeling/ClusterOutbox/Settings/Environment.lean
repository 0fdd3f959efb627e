import ClusterOutbox.Settings.Path

namespace ClusterOutbox.Setting

/-- A key in lower case. Of the letters beyond ASCII, the Kelvin sign becomes an ASCII one. -/
def lowerKey (s : String) : String :=
  s.map fun c => if c = '\u212A' then 'k' else c.toLower

/-- The start of the names of variables that are settings. -/
def variableMark : List Char := "insights_".toList

/-- Every pair of underscores becomes a point. -/
def dotted : List Char → List Char
  | '_' :: '_' :: rest => '.' :: dotted rest
  | c :: rest => c :: dotted rest
  | [] => []

/-- The path that the name of a variable stands for. -/
def variablePath? (name : String) : Option String :=
  let cs := (lowerKey name).toList
  if variableMark.isPrefixOf cs then
    some (String.ofList (dotted (cs.drop variableMark.length)))
  else none

/-- The value of a variable: a truth value, an integer or a number if it reads as one, else text. -/
def ofVariable (value : String) : Setting :=
  let word := lowerKey value
  if word = "true" then bool true
  else if word = "false" then bool false
  else match readInt64? value with
    | some n => integer n
    | none => match readDouble? value with
      | some bits => float bits
      | none => text value

/-- Lays the variables that are settings over a table, in their order. -/
def layVariables : List (String × String) → Setting → Option Setting
  | [], base => some base
  | (name, value) :: rest, base =>
    match variablePath? name with
    | some p => (layAt (ofVariable value) (path p) base).bind (layVariables rest)
    | none => layVariables rest base

end ClusterOutbox.Setting
