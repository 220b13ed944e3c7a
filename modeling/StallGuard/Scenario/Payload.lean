/-
  StallGuard.Scenario.Payload — values that futures carry without looking at them.

  `compact` is the text of a payload without a blank in it.
-/

import StallGuard.Text.Record

namespace StallGuard.Scenario

inductive Payload
  | null
  | flag (b : Bool)
  | number (n : Int)
  | text (s : String)
  | list (items : List Payload)
  /-- Fields in ascending order. -/
  | record (fields : List (String × Payload))
deriving Inhabited

namespace Payload

def escape (c : Char) : List Char :=
  if c = '"' || c = '\\' then ['\\', c]
  else if c = '\n' then ['\\', 'n']
  else if c = '\r' then ['\\', 'r']
  else if c = '\t' then ['\\', 't']
  else if c.val = 8 then ['\\', 'b']
  else if c.val = 12 then ['\\', 'f']
  else if c.val < 32 then ['\\', 'u', '0', '0'] ++ (if c.val < 16 then ['0'] else []) ++ Text.hex c.val.toNat
  else [c]

def quoted (s : String) : String := String.ofList ('"' :: s.toList.flatMap escape ++ ['"'])

mutual

def compact : Payload → String
  | null => "null"
  | flag b => Text.flag b
  | number n => toString n
  | text s => quoted s
  | list items => "[" ++ Text.joined "," (compactAll items) ++ "]"
  | record fields => "\x7b" ++ Text.joined "," (compactFields fields) ++ "\x7d"

def compactAll : List Payload → List String
  | [] => []
  | p :: r => compact p :: compactAll r

def compactFields : List (String × Payload) → List String
  | [] => []
  | (k, p) :: r => (quoted k ++ ":" ++ compact p) :: compactFields r

end

end Payload

end StallGuard.Scenario
