import PoolIndexer.Sql.Server

/-!
A server that stores nothing and answers from a script.
-/
namespace PoolIndexer.Sql

structure ScriptedServer where
  /-- The answers to the coming statements, `none` for one that fails. Those that are left without
  an answer succeed and give no rows. -/
  replies : List (Option ResultSet) := []
  /-- The command other than a statement that fails. -/
  failing : Option Command := none
  /-- New connections can be made. -/
  reachable : Bool := true
  /-- A connection is open; it stays. -/
  connected : Bool := false
  /-- The commands under way that nobody waits for, the first one first. -/
  coming : List Command := []
  /-- The commands received, the last one first. -/
  received : List Command := []
  /-- The milliseconds for which the client paused. -/
  paused : Nat := 0
  deriving Repr, Inhabited

namespace ScriptedServer

def connect (s : ScriptedServer) : Bool × ScriptedServer :=
  let connected := s.connected || s.reachable
  (connected, { s with connected })

def tell (command : Command) (s : ScriptedServer) : ScriptedServer :=
  { s with coming := s.coming ++ [command] }

/-- Receives what is under way. -/
def settle (s : ScriptedServer) : ScriptedServer :=
  { s with coming := [], received := s.coming.reverse ++ s.received }

/-- A command is received after those that are under way. -/
def send (command : Command) (s : ScriptedServer) : Option ResultSet × ScriptedServer :=
  let s := s.settle
  let s := { s with received := command :: s.received }
  match command with
  | .run _ =>
    match s.replies with
    | [] => (some {}, s)
    | reply :: replies => (reply, { s with replies })
  | control => (if s.failing = some control then none else some {}, s)

def pause (time : Nat) (s : ScriptedServer) : ScriptedServer :=
  { s with paused := s.paused + time }

def server : Server ScriptedServer := ⟨connect, send, tell⟩

end ScriptedServer
end PoolIndexer.Sql
