/-
  StallGuard.EntryPoint — the code behind a native member, as a value.

  A native member is intercepted by handing out, in place of its entry point, the one
  that was captured first. Entry points have signatures; those of two signatures are
  never exchanged for one another. `call` is what an entry point yields when called, in
  64-bit arithmetic that wraps. Code of any other type is handed out all the same, but
  what it yields is not told.
-/

import StallGuard.Member

namespace StallGuard

inductive Unary
  | increment
  | double
  | negate
deriving DecidableEq, Repr

inductive Binary
  | add
  | multiply
deriving DecidableEq, Repr

inductive EntryPoint
  | int64 (v : Int64)
  | byte (v : UInt8)
  | boolean (b : Bool)
  | unit
  | unary (f : Unary)
  | binary (f : Binary)
  /-- The code of one of the process's own primitives. -/
  | primitive (m : MemberKey)
  /-- Code of any other type, told apart from the rest of that type by a number. -/
  | other (type : MemberKey) (code : Nat)
deriving DecidableEq

inductive Signature
  | int64
  | byte
  | boolean
  | unit
  | unary
  | binary
  /-- A type known by its name; the code of a primitive is of the type of that name. -/
  | primitive (m : MemberKey)
deriving DecidableEq

inductive CallValue
  | number (v : Int)
  | flag (b : Bool)
  | nothing
deriving DecidableEq

namespace EntryPoint

def signature : EntryPoint → Signature
  | int64 _ => .int64
  | byte _ => .byte
  | boolean _ => .boolean
  | unit => .unit
  | unary _ => .unary
  | binary _ => .binary
  | primitive m => .primitive m
  | other type _ => .primitive type

def call (x y : Int64) : EntryPoint → CallValue
  | int64 v => .number v.toInt
  | byte v => .number v.toNat
  | boolean b => .flag b
  | unit => .nothing
  | unary .increment => .number (x + 1).toInt
  | unary .double => .number (x * 2).toInt
  | unary .negate => .number (-x).toInt
  | binary .add => .number (x + y).toInt
  | binary .multiply => .number (x * y).toInt
  | primitive _ => .nothing
  | other .. => .nothing

end EntryPoint

end StallGuard
