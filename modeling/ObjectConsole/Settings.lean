import ObjectConsole.Text.Digits

/-!
# Settings

What can be chosen about a console and its server, and the choices made when nothing is said. On the
command line, options are read left to right onto the settings, and the last of several wins. An
option that is not known, or that lacks its value, is reported by name.
-/

namespace ObjectConsole

/-- The settings of a console. Times are in milliseconds. -/
structure ConsoleSettings where
  rootType : String := "System"
  sweepInterval : Nat := 60000
  affinity : Bool := false
  affinityCapacity : Nat := 64
  deriving DecidableEq, Repr

/-- The settings of a server. Port zero lets the system choose one. -/
structure ServerSettings where
  host : String := "127.0.0.1"
  port : Nat := 0
  drainTimeout : Nat := 30000
  deriving DecidableEq, Repr

end ObjectConsole

namespace ObjectConsole.CommandLine

/-- Why a command line is not understood. -/
inductive Fault where
  | unknown (option : String)
  | missing (option : String)
  | notANumber (option text : String)
  deriving DecidableEq, Repr

/-- The wording of a fault. -/
def Fault.message : Fault → String
  | unknown option => "unknown option " ++ option
  | missing option => "option " ++ option ++ " needs a value"
  | notANumber option text => "option " ++ option ++ " needs a number, not " ++ text

/-- A natural number in digits. -/
def number? (text : String) : Option Nat :=
  match Text.Decimal.leading text.toList with
  | ([], _) => none
  | (digits, []) => some (Text.Decimal.number digits)
  | _ => none

/-- Reads options onto settings. -/
def read : ConsoleSettings → List String → Except Fault ConsoleSettings
  | settings, [] => .ok settings
  | settings, "--affinity" :: rest => read { settings with affinity := true } rest
  | settings, "--root" :: root :: rest => read { settings with rootType := root } rest
  | settings, "--sweep-interval-secs" :: seconds :: rest =>
    match number? seconds with
    | some n => read { settings with sweepInterval := 1000 * n } rest
    | none => .error (.notANumber "--sweep-interval-secs" seconds)
  | _, ["--root"] => .error (.missing "--root")
  | _, ["--sweep-interval-secs"] => .error (.missing "--sweep-interval-secs")
  | _, option :: _ => .error (.unknown option)

end ObjectConsole.CommandLine
