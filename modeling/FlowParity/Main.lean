import FlowParity.Cli.Run
import Std.Time.DateTime.Timestamp
/-!
# The program

The outer layer of the command line. It reads the environment and the files that a
request names, runs the request, and prints what the run says.
-/

namespace FlowParity.Main

open Cli

/-- The variables that the program looks at. -/
def knownVariables : List String :=
  [rulesVariable, Log.directivesVariable, Log.verbosityVariable, Log.formatVariable]

/-- The environment of the process, as far as the program looks at it. -/
def environment : IO Log.Environment := do
  let values ← knownVariables.mapM fun name => do
    let value ← IO.getEnv name
    return (name, value)
  return fun name => (values.lookup name).join

/-- What a failure to read a file means. -/
def faultOf : IO.Error → FileFault
  | .noFileOrDirectory .. => .notFound
  | .inappropriateType _ code _ => if code = 21 then .isDirectory else .notDirectory
  | .invalidArgument _ _ reason =>
    if reason = "name too long" then .nameTooLong else .other reason
  | .permissionDenied .. => .other "Permission denied (os error 13)"
  | e => .other (toString e)

/-- What reading a path gives. -/
def readPath (path : String) : IO (Except FileFault String) := do
  try
    let bytes ← IO.FS.readBinFile path
    return match String.fromUTF8? bytes with
      | some text => .ok text
      | none => .error .notText
  catch e => return .error (faultOf e)

/-- The files that a task names. -/
def readFiles (task : Task) : IO Files := do
  let contents ← task.paths.mapM fun path => do
    let content ← readPath path
    return (path, content)
  return fun path => (contents.lookup path).getD (.error .notFound)

/-- A fresh name for a run. -/
def freshRunId : IO String := do
  let bytes ← IO.getRandomBytes 6
  let digits := bytes.toList.flatMap fun b =>
    [Nat.digitChar (b.toNat / 16), Nat.digitChar (b.toNat % 16)]
  return "run-" ++ String.ofList digits

/-- The text of the present time. -/
def now : IO String := do
  let t ← Std.Time.Timestamp.now
  return Timestamp.formatBrief (.ofInt t.toMillisecondsSinceUnixEpoch.val)

/-- Runs a request and prints what it says. -/
def perform (env : Log.Environment) (request : Request) : IO UInt32 := do
  let stdout ← IO.getStdout
  let stderr ← IO.getStderr
  let colored := !request.noColor
  let files ← readFiles request.task
  let time ← now
  let done := run files (← freshRunId) (colored && (← stdout.isTty)) request
  stdout.putStr done.stdout
  for line in logLines env request time done do
    stderr.putStrLn line
  match done.fault with
  | none => pure ()
  | some fault => stderr.putStrLn (faultText request (colored && (← stderr.isTty)) fault)
  return done.exit.toNat.toUInt32

end FlowParity.Main

/-- The program. -/
def main (args : List String) : IO UInt32 := do
  let env ← FlowParity.Main.environment
  match FlowParity.Cli.Request.parse env args with
  | .ok request => FlowParity.Main.perform env request
  | .error halt =>
    let (exit, text) := halt.answer
    (← IO.getStdout).putStr text
    if exit = .arguments then (← IO.getStderr).putStr FlowParity.Cli.refusal
    return exit.toNat.toUInt32
