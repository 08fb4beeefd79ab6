import FlowParity.Fault.Basic
/-!
# Exit codes

The number with which a run ends tells its outcome: zero and one are verdicts, ten
to nineteen faults of what the program was given, and twenty and above faults of
the program and its output.
-/

namespace FlowParity

/-- How a run ends. -/
inductive ExitCode
  /-- Everything passes, or a command is done. -/
  | passing
  /-- An outcome fails. -/
  | failing
  /-- The arguments make no command. -/
  | arguments
  /-- A flow file cannot be used. -/
  | input
  /-- A rule cannot be used. -/
  | rule
  /-- A rule file cannot be used. -/
  | configuration
  /-- The program is at fault. -/
  | internal
  /-- Output fails. -/
  | output
  deriving DecidableEq, Repr

namespace ExitCode

/-- All exit codes, in order. -/
def all : List ExitCode :=
  [passing, failing, arguments, input, rule, configuration, internal, output]

/-- The number of an exit code. -/
def toNat : ExitCode → Nat
  | passing => 0
  | failing => 1
  | arguments => 10
  | input => 11
  | rule => 12
  | configuration => 13
  | internal => 20
  | output => 21

/-- The name of an exit code. -/
def name : ExitCode → String
  | passing => "OK_PASSING"
  | failing => "OK_FAILING"
  | arguments => "ERR_ARGS"
  | input => "ERR_INPUT"
  | rule => "ERR_RULE"
  | configuration => "ERR_CONFIG"
  | internal => "ERR_INTERNAL"
  | output => "ERR_IO"

/-- The text of an exit code. -/
def toText (c : ExitCode) : String :=
  let number := c.toNat
  c.name ++ s!" ({number})"

/-- Whether the exit code is a verdict. -/
def isOutcome (c : ExitCode) : Bool := c.toNat < 10

/-- Whether the exit code says that the program was given something wrong. -/
def isUserError (c : ExitCode) : Bool := 10 ≤ c.toNat && c.toNat < 20

/-- Whether the exit code says that something is wrong with the program or its output. -/
def isInternalError (c : ExitCode) : Bool := 20 ≤ c.toNat

/-- The exit code of a verdict. -/
def ofVerdict (isPassing : Bool) : ExitCode :=
  if isPassing then passing else failing

/-- **The exit code of a category of faults.** -/
def ofCategory : Category → ExitCode
  | .input => input
  | .rule | .parameter => rule
  | .configuration => configuration
  | .output => output

end ExitCode

end FlowParity
