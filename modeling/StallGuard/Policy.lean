/-
  StallGuard.Policy — which members block, and which excuse or convict what runs inside them.

  A blocking member must not be called where a thread must not block. An allowance on a
  member says of every call made beneath it that it may block (`true`) or that it may not
  unless an outer member allows it (`false`). The last word on a member counts.
-/

import StallGuard.Names
import StallGuard.Table
import StallGuard.Member

namespace StallGuard

structure Policy where
  blocking : Table MemberKey Unit
  allowances : Table MemberKey Bool

namespace Policy

def empty : Policy := ⟨.empty, .empty⟩

instance : Inhabited Policy := ⟨empty⟩

def markBlocking (p : Policy) (m : MemberKey) : Policy := { p with blocking := p.blocking.insert m () }

def setAllowance (p : Policy) (m : MemberKey) (allowed : Bool) : Policy :=
  { p with allowances := p.allowances.insert m allowed }

def isBlocking (p : Policy) (m : MemberKey) : Bool := p.blocking.contains m

/-- Types that declare a blocking member, ascending. -/
def blockingTypes (p : Policy) : List String := Names.ofList (p.blocking.keys.map Prod.fst)

/-- Names of the blocking members of a type, ascending. -/
def blockingMembers (p : Policy) (owner : String) : List String :=
  Names.ofList ((p.blocking.keys.filter fun k => k.1 = owner).map Prod.snd)

/-- Types that declare an allowance, ascending. -/
def allowanceTypes (p : Policy) : List String := Names.ofList (p.allowances.keys.map Prod.fst)

/-- The allowances of a type, ascending by member. -/
def allowancesFor (p : Policy) (owner : String) : List (String × Bool) :=
  let names := Names.ofList ((p.allowances.keys.filter fun k => k.1 = owner).map Prod.snd)
  names.filterMap fun n => (p.allowances.get? (owner, n)).map (n, ·)

/-- Two policies block the same members and hold the same allowances. -/
def same (p q : Policy) : Bool := p.blocking.same q.blocking && p.allowances.same q.allowances

end Policy

end StallGuard
