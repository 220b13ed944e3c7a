/-
  StallGuard.Member — the members a watched process can run.

  A member is declared on a type (`owner`) and has a name there; the pair of both is its
  `key`. It either belongs to the type itself (`perType`) or to its instances, and it is
  `native` when its code lies outside the process and can be replaced only as a whole.
  A host that knows a member gives it an operation id.
-/

namespace StallGuard

structure OperationId where
  val : Nat
deriving DecidableEq, Repr, Inhabited

structure ThreadId where
  val : Nat
deriving DecidableEq, Repr, Inhabited

/-- Declaring type and name. -/
abbrev MemberKey := String × String

/-- A member as code refers to it. -/
structure MemberRef where
  owner : String
  name : String
  perType : Bool := false
  native : Bool := false
deriving DecidableEq, Repr, Inhabited

def MemberRef.key (m : MemberRef) : MemberKey := (m.owner, m.name)

/-- A member as a host describes it. -/
structure Member where
  id : OperationId
  owner : String
  name : String
  perType : Bool := false
  native : Bool := false
deriving DecidableEq, Repr, Inhabited

def Member.key (m : Member) : MemberKey := (m.owner, m.name)

/-- The member that a host records when it meets `m` for the first time under `id`. -/
def MemberRef.withId (m : MemberRef) (id : OperationId) : Member := ⟨id, m.owner, m.name, m.perType, m.native⟩

end StallGuard
