/-
  StallGuard.Stream — how many bytes the process's files, streams and children take or give.

  (1) Files. One read gives at most what its buffer holds. Reading to the end takes
  several reads, each asking for as much as is there already, from 32 bytes on; a
  reading that stops halfway keeps whole characters or nothing at all.

  (2) Console streams. The error stream takes everything at once. The output stream
  hands on whole lines and keeps what follows the last of them; what it cannot keep
  it leaves to the next write.

  (3) Children. The child prints its argument and a line end, unless the argument is
  made up of the options it knows.
-/

namespace StallGuard

def byteCount : List Char → Nat
  | [] => 0
  | c :: r => c.utf8Size + byteCount r

/-! ## (1) Files -/

/-- The first bytes of a text; a character cut in two shows as the replacement character. -/
def Text.firstBytes : Nat → List Char → List Char
  | _, [] => []
  | n, c :: r =>
    if c.utf8Size ≤ n then c :: firstBytes (n - c.utf8Size) r
    else if n = 0 then [] else ['\uFFFD']

/-- The first bytes of a text, unless they cut a character in two. -/
def Text.firstBytes? : Nat → List Char → Option (List Char)
  | _, [] => some []
  | n, c :: r =>
    if c.utf8Size ≤ n then (firstBytes? (n - c.utf8Size) r).map (c :: ·)
    else if n = 0 then some [] else none

/-- How many reads it takes to learn that a file of this many bytes has ended: a first one
    of 32 bytes, others that double what was read, and one that finds nothing. -/
def readsToEnd (bytes : Nat) : Nat :=
  if bytes = 0 then 1 else if bytes ≤ 32 then 2 else Nat.log2 ((bytes - 1) / 32) + 3

/-- How many bytes so many of these reads may have given. -/
def readLimit : Nat → Nat
  | 0 => 0
  | 1 => 32
  | n + 2 => 2 * readLimit (n + 1)

/-- What is kept of a file when only so many reads of it were carried out. -/
def keptAfter (reads : Nat) (contents : String) : String :=
  String.ofList ((Text.firstBytes? (readLimit reads) contents.toList).getD [])

/-! ## (2) Console streams -/

inductive ConsoleStream
  | out
  | err
deriving DecidableEq, Repr

/-- How many bytes the output stream can hold back. -/
def lineCapacity : Nat := 1024

/-- How many bytes one write hands over. -/
def ConsoleStream.taken (data : String) : ConsoleStream → Nat
  | err => data.utf8ByteSize
  | out =>
    let cs := data.toList
    let unfinished := byteCount (cs.reverse.takeWhile (· ≠ '\n'))
    if '\n' ∈ cs ∧ lineCapacity ≤ unfinished then byteCount cs - unfinished else byteCount cs

/-! ## (3) Children -/

/-- What the child takes for options: a hyphen and then one or more of these letters. -/
def isOption : List Char → Bool
  | '-' :: c :: r => (c :: r).all ['n', 'e', 'E'].contains
  | _ => false

/-- What the child prints. Of its options only the one against the line end shows. -/
def childOutput (argument : String) : String :=
  let cs := argument.toList
  if isOption cs then (if 'n' ∈ cs then "" else "\n") else argument ++ "\n"

end StallGuard
