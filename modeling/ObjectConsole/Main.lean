import ObjectConsole.Background.Sweeper
import ObjectConsole.Settings
import ObjectConsole.Operation.Demo
import ObjectConsole.Server.Serve

/-!
# The program

Serves the demonstration catalog to requests that are read from standard input, one in a line, and
writes the responses to standard output. A counter is bound to the name `main` from the start. The
registry is swept in the background, which here means before the next request.
-/

namespace ObjectConsole.Main

/-- The thread that handles requests. -/
def handler : Thread := ⟨0, some "console-worker"⟩

/-- The thread that operations run on when they must run on one. -/
def designated : Thread := ⟨1, some "console-affinity"⟩

/-- The console of settings, with identifiers counted from a number. -/
def console (settings : ConsoleSettings) (seed : Nat) : Console where
  catalog := Demo.catalog
  rootType := settings.rootType
  identifier n := Uuid.ofNat (seed + n)

/-- A new server, with a counter under the name `main`. -/
def initial (settings : ConsoleSettings) (console : Console) : Server.State :=
  let counter := Heap.newCounter ∅ default
  let world : World := {
    heap := counter.2
    delegate := if settings.affinity then .driven designated else .inline }
  let added := world.addValue console 0 (.object (.counter counter.1))
  { world := { added.2 with
      registry := added.2.registry.bind "main" (.object (.counter counter.1)) }
    lifecycle := Server.Lifecycle.setReady {} }

/-- Lets the sweeper work, then answers one line. -/
def answerLine (console : Console) (now : Nat) (line : String)
    (state : Background.Worker Unit × Server.State) :
    String × (Background.Worker Unit × Server.State) :=
  let swept := state.1.settle (Background.sweeper now.toUInt64) now state.2.world.registry
  let server := { state.2 with world := { state.2.world with registry := swept.2 } }
  let answered? := (Server.HttpRequest.ofLine? line).bind fun request ↦
    Server.receive console ⟨now.toUInt64, now, handler⟩ request server
  match answered? with
  | none => ("", swept.1, server)
  | some answered => (answered.1.text, swept.1, answered.2)

/-- Answers lines until there are no more. -/
partial def serve (console : Console) (started : Nat) (input output : IO.FS.Stream)
    (state : Background.Worker Unit × Server.State) : IO Unit := do
  let line ← input.getLine
  if line.isEmpty then return
  let now ← IO.monoMsNow
  let answered := answerLine console (now - started) line.trimAscii.toString state
  output.putStr answered.1
  output.flush
  serve console started input output answered.2

end ObjectConsole.Main

open ObjectConsole in
/-- Reads the options and serves. -/
def main (arguments : List String) : IO UInt32 := do
  match CommandLine.read {} arguments with
  | .error fault =>
    (← IO.getStderr).putStrLn fault.message
    return 2
  | .ok settings =>
    let seed ← IO.rand 0 (Nat.pow 2 62)
    let console := Main.console settings (seed * Nat.pow 2 64)
    let started ← IO.monoMsNow
    let worker := Background.Worker.start settings.sweepInterval 0
    Main.serve console started (← IO.getStdin) (← IO.getStdout)
      (worker, Main.initial settings console)
    return 0
