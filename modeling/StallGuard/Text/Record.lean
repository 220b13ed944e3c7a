/-
  StallGuard.Text.Record — the one-line text of a value with named fields.

  A record is shown as its name and its fields in braces; one that keeps something to
  itself ends in two dots. Maps and sets stand in braces without a name.
-/

import StallGuard.Text.Quoted

namespace StallGuard.Text

def joined (separator : String) : List String → String
  | [] => ""
  | [s] => s
  | s :: r => s ++ separator ++ joined separator r

def inBraces (items : List String) : String := "\x7b" ++ joined ", " items ++ "\x7d"

def pair (key value : String) : String := key ++ ": " ++ value

/-- A record that shows all its fields, or says that there are more. -/
def record (name : String) (fields : List (String × String)) (more : Bool) : String :=
  name ++ " \x7b " ++ joined ", " (fields.map (fun f => pair f.1 f.2) ++ (if more then [".."] else [])) ++ " \x7d"

def flag (b : Bool) : String := if b then "true" else "false"

end StallGuard.Text
