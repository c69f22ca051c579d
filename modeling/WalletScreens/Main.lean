import WalletScreens.CommandLine.Program

/-!
The command-line program.
-/

namespace WalletScreens.CommandLine

open Session

def writeOut (text : String) : IO Unit := do
  let output ← IO.getStdout
  output.putStr text
  output.flush

def nextLine : IO (Option Line) := do
  let input ← IO.getStdin
  try
    let line ← input.getLine
    return if line.isEmpty then none else some (some line)
  catch _ => return some none

partial def converse (turn : Turn) : IO Ending := do
  writeOut turn.text
  match turn.next with
  | .error ending => return ending
  | .ok console =>
      match ← nextLine with
      | none => return .finished
      | some line => converse (console.take line)

def readFile? (path : String) : IO (Option ByteArray) := do
  try
    return some (← IO.FS.readBinFile path)
  catch _ => return none

def report (failure : Option Failure) : IO UInt32 := do
  match failure with
  | none => return 0
  | some failure =>
      IO.eprintln ("error: " ++ failure.context.getD "rendering the screen")
      return 1

/-- Without a terminal there are no colours, nor on one that is told so by its surroundings.  How
wide it is cannot be asked. -/
def askTerminal : IO Terminal := do
  let forced := (← IO.getEnv "CLICOLOR_FORCE").getD "0" != "0"
  let wanted := (← IO.getEnv "NO_COLOR").isNone && (← IO.getEnv "CLICOLOR").getD "1" != "0" &&
    (← IO.getEnv "TERM").getD "dumb" != "dumb"
  return { colored := forced || (wanted && (← (← IO.getStdout).isTty)) }

/-- Runs a call; one that is interactive answers each line before it waits for the next. -/
def runCall (invocation : Invocation) : IO UInt32 := do
  let content ← match invocation.accounts with
    | some path => readFile? path
    | none => pure none
  match invocation.loadAccounts fun _ => content with
  | .error failure => report (some failure)
  | .ok accounts =>
      let terminal ← askTerminal
      match invocation.command with
      | .interactive page =>
          match invocation.session .dark terminal accounts page with
          | .ok console => report (failureOf (← converse console.start))
          | .error fault => report (some (.screen fault))
      | _ =>
          let run := invocation.perform .dark terminal accounts []
          writeOut run.written
          report run.failure

end WalletScreens.CommandLine

open WalletScreens.CommandLine in
/-- Exits with 0 after a finished run, 1 after a failed one and 2 for arguments that are no call. -/
def main (arguments : List String) : IO UInt32 := do
  match Invocation.parse arguments (← IO.getEnv "EVOTE_THEME") with
  | .ok invocation => runCall invocation
  | .error fault =>
      if fault.isRequested then
        writeOut (fault.message ++ "\n")
        return 0
      else
        IO.eprintln fault.message
        return 2
