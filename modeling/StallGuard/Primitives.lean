/-
  StallGuard.Primitives — the members the library itself knows by name.

  `blocking` lists the native primitives that every process has and that block; the
  standard policy blocks exactly them. The console members wrap writes to the process's
  own streams; the task members wrap polls of asynchronous tasks and their excursions
  into blocking code.
-/

import StallGuard.Policy

namespace StallGuard.Primitives

def threadSleep : MemberRef := ⟨"std::thread::Thread", "sleep", true, true⟩

def threadYield : MemberRef := ⟨"std::thread::Thread", "yield_now", true, true⟩

def threadPark : MemberRef := ⟨"std::thread::Thread", "park", true, true⟩

def threadParkTimeout : MemberRef := ⟨"std::thread::Thread", "park_timeout", true, true⟩

def condvarWait : MemberRef := ⟨"std::sync::Condvar", "wait", false, true⟩

def condvarWaitTimeout : MemberRef := ⟨"std::sync::Condvar", "wait_timeout", false, true⟩

def fileRead : MemberRef := ⟨"std::fs::File", "read", false, true⟩

def fileWrite : MemberRef := ⟨"std::fs::File", "write", false, true⟩

def streamConnect : MemberRef := ⟨"std::net::TcpStream", "connect", true, true⟩

def streamRead : MemberRef := ⟨"std::net::TcpStream", "read", false, true⟩

def streamWrite : MemberRef := ⟨"std::net::TcpStream", "write", false, true⟩

def listenerAccept : MemberRef := ⟨"std::net::TcpListener", "accept", false, true⟩

def datagramSend : MemberRef := ⟨"std::net::UdpSocket", "send_to", false, true⟩

def datagramReceive : MemberRef := ⟨"std::net::UdpSocket", "recv_from", false, true⟩

def commandSpawn : MemberRef := ⟨"std::process::Command", "spawn", false, true⟩

def commandOutput : MemberRef := ⟨"std::process::Command", "output", false, true⟩

def stdoutWrite : MemberRef := ⟨"std::io::Stdout", "write", false, true⟩

def stderrWrite : MemberRef := ⟨"std::io::Stderr", "write", false, true⟩

/-- Every native primitive that blocks, in the order in which a process defines them. -/
def blocking : List MemberRef :=
  [threadSleep, threadYield, threadPark, threadParkTimeout, condvarWait, condvarWaitTimeout, fileRead, fileWrite,
    streamConnect, streamRead, streamWrite, listenerAccept, datagramSend, datagramReceive, commandSpawn,
    commandOutput, stdoutWrite, stderrWrite]

def consoleWrite : MemberRef := ⟨"blockwatch::natives::Console", "write", false, false⟩

def consoleFlush : MemberRef := ⟨"blockwatch::natives::Console", "flush", false, false⟩

/-- Declared by threads that run asynchronous tasks. -/
def taskThread : String := "tokio::runtime::Thread"

/-- Held by a thread while it polls a task. -/
def taskMark : String := "tokio::task::Task"

def taskPoll : MemberRef := ⟨"tokio::task::Task", "poll", false, false⟩

def blockInPlace : MemberRef := ⟨"tokio::task", "block_in_place", true, false⟩

/-- The member that wraps calls of a service, unless its layer names another. -/
def serviceCall : MemberRef := ⟨"tower::Service", "call", false, false⟩

end StallGuard.Primitives

namespace StallGuard

/-- The policy that blocks every native primitive and holds no allowance. -/
def Policy.std : Policy := Primitives.blocking.foldl (fun p m => p.markBlocking m.key) .empty

end StallGuard
