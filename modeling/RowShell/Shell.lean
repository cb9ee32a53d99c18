/-
The executor that starts the shell.

A script is handed to the shell in a file after a line that sets the busy timeout.
Whatever keeps the script from being run is logged as an error, and the call is then
answered with nothing; what the shell prints as errors besides is logged as a warning.

A host is what the executor sees of a machine: where the shell is found, how the
programs end that are started one after another, and which were started so far.  That
the file of a script can be written and removed is taken for granted.

Two things that a host is asked for it cannot do, and neither is logged.  No command
can hold a null character, so nothing is started then.  And a program is waited for at
most as long as the host can count, so a limit beyond that is a fault after the start.
No time passes between the start and the wait.
-/
import RowShell.Config
import RowShell.Dialogue

namespace RowShell

/-- How a started program ends. -/
inductive Ending where
  | exited (code : Int) (output errors : List UInt8)
  /-- It took longer than it may. -/
  | timedOut
  /-- It could not be started. -/
  | failed (reason : String)

/-- A program that was started: its path and arguments, the bytes of its input, and how
long it may run. -/
structure Started where
  command : List String
  input : List UInt8
  timeLimit : Setting

structure Host where
  /-- The path at which the shell is found. -/
  shell : Option String
  endings : List Ending
  started : List Started

/-! ### Starting a program -/

/-- The greatest number of milliseconds that a host can wait. -/
def longestWait : Nat := 2147483647

/-- Why a limit in seconds cannot be kept to.  One below zero can: the program takes
longer than that. -/
def limitFault? : Setting → Option Fault
  | .value .null | .value (.bool _) => none
  | .value (.int n) =>
    if longestWait < 1000 * n ∨ Binary64.ofInt? n = none then some (.scalar .tooGreat) else none
  | .value (.float .nan) => some (.scalar .unreadable)
  | .value (.float (.infinity negative)) => if negative then none else some (.scalar .tooGreat)
  | .value (.float (.finite negative ordinal)) =>
    if negative = false ∧ longestWait * Binary64.unitsPerOne < 1000 * Binary64.units ordinal then
      some (.scalar .tooGreat)
    else none
  | _ => some .notText

namespace Started

/-- Whether a part of the command has a null character. -/
def hasNull (program : Started) : Bool :=
  program.command.any fun part => part.toList.contains '\x00'

/-- Waits for the end of a program, unless it could not be started. -/
def await (program : Started) : Ending → Except Fault Ending
  | .failed reason => .ok (.failed reason)
  | ending =>
    match limitFault? program.timeLimit with
    | some fault => .error fault
    | none => .ok ending

end Started

namespace Host

/-- How the next program ends: as is next in line, and well and silently after the last. -/
def ending (host : Host) : Ending := host.endings.headD (.exited 0 [] [])

/-- Starts a program and waits for its end. -/
def start (host : Host) (program : Started) : Except Fault Ending × Host :=
  if program.hasNull then (.error (.scalar .unreadable), host)
  else
    (program.await host.ending,
      { host with endings := host.endings.tail, started := host.started ++ [program] })

end Host

namespace ShellConfig

/-- Logs an error, and answers with nothing. -/
def refuse (text : String) : Report (Option String) := do
  Report.entry .error text
  return none

/-- The text that is handed to the shell. -/
def input (config : ShellConfig) (script : String) : Except Fault String := do
  return (← config.timeoutStatement) ++ script ++ "\n"

/-- The encoding that the configuration names, if there is one.  A text with a null character is
no name at all. -/
def encoding? (config : ShellConfig) : Except Fault (Option Encoding) :=
  match config.encoding with
  | .value (.text name) =>
    if name.toList.contains '\x00' then .error (.scalar .unreadable)
    else .ok (Encoding.ofName? name)
  | _ => .error .notText

/-- What is made of the way in which the shell ended. -/
def conclude (config : ShellConfig) (encoding : Encoding) (script : String) :
    Ending → Report (Option String)
  | .timedOut => do
    let limit ← config.processTimeout.display
    refuse ("sqlite3 timed out after " ++ limit ++ "s: " ++ script)
  | .failed reason => refuse ("sqlite3 could not be run: " ++ reason)
  | .exited code output errors => do
    let message := Text.strip (encoding.decode errors)
    if code ≠ 0 then
      refuse ("sqlite3 exited with " ++ String.ofList (Numeral.ofInt code) ++ ": " ++ message ++
        " [" ++ script ++ "]")
    else
      if !message.isEmpty then Report.entry .warning ("sqlite3: " ++ message)
      return some (encoding.decode output)

/-- The encoding and the bytes of what is handed to the shell, unless it cannot be encoded. -/
def encodedInput? (config : ShellConfig) (script : String) :
    Except Fault (Option (Encoding × List UInt8)) := do
  let text ← config.input script
  return (← config.encoding?).bind fun encoding =>
    (encoding.encode? text).map fun bytes => (encoding, bytes)

/-- Answers calls by starting the shell, at most once for each. -/
def executor (config : ShellConfig) : Executor Host := fun call host =>
  match host.shell with
  | none =>
    (do
        let shown ← (config.executable.display : Except Fault String)
        refuse ("sqlite3 shell not found: " ++ shown),
      host)
  | some path =>
    match config.encodedInput? call.script with
    | .error fault => (Report.fail fault, host)
    | .ok none =>
      (do
          let shown ← (config.encoding.inspect : Except Fault String)
          refuse ("Script cannot be encoded as " ++ shown),
        host)
    | .ok (some (encoding, bytes)) =>
      let command := [path] ++ call.mode.flags ++ [call.target]
      match host.start ⟨command, bytes, config.processTimeout⟩ with
      | (.error fault, host) => (Report.fail fault, host)
      | (.ok ending, host) => (config.conclude encoding call.script ending, host)

end ShellConfig

end RowShell
