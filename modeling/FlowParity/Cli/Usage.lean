/-!
# Usage

The text that explains the command line.
-/

namespace FlowParity.Cli

/-- The text that explains the command line. -/
def usage : String :=
  "Compare exported flows against a reference dataset

Usage: ft-analyzer [OPTIONS] <COMMAND>

Commands:
  validate  Compare a candidate flow file with a reference flow file
            --candidate <FILE> --reference <FILE> --rules <FILE>
            [--active-timeout <S>] [--inactive-timeout <S>]
            [--start-time <INSTANT>] [--offset-scope <SCOPE>]
  check     Check a rule file without loading any flows
            --rules <FILE>
  inspect   Show the totals of a flow file before and after reconciliation
            --file <FILE> [--active-timeout <S>] [--inactive-timeout <S>]
  version   Print the version
  help      Print this text

Options:
  -f, --format <FORMAT>      Form of the answer: text, json, md, summary
  -v, --verbose              Log more; may be repeated
  -q, --quiet                Log failures only
      --no-color             Print without colours
      --log-format <FORMAT>  Form of the log: human, jsonl
  -h, --help                 Print this text
  -V, --version              Print the version
"

/-- The text that answers arguments without sense. -/
def refusal : String :=
  "error: these arguments make no command\n\nFor more information, try '--help'.\n"

end FlowParity.Cli
