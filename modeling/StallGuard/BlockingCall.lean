/-
  StallGuard.BlockingCall — what is reported when a thread that must not block blocks.

  The description names the operation, the dotted type, the member and whether it is
  reached through the type (`Type.member`) or an instance (`Type#member`). A rejected
  call raises its description; `message` is the text of that error.
-/

import StallGuard.Member
import StallGuard.TypeName

namespace StallGuard

structure BlockingCall where
  operation : OperationId
  owner : String
  name : String
  perType : Bool
deriving DecidableEq, Repr, Inhabited

namespace BlockingCall

/-- Description of a member a host knows. -/
def ofMember (m : Member) : BlockingCall := ⟨m.id, TypeName.dotted m.owner, m.name, m.perType⟩

/-- Description of an operation no host can describe. -/
def unresolved (op : OperationId) : BlockingCall := ⟨op, "<unresolved>", "operation-" ++ toString op.val, false⟩

def describe (c : BlockingCall) : String := c.owner ++ (if c.perType then "." else "#") ++ c.name

def message (c : BlockingCall) : String := "Blocking call! " ++ c.describe

end BlockingCall

end StallGuard
