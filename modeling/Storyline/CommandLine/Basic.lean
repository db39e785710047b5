import Storyline.CommandLine.Checking
import Storyline.CommandLine.Looking

/-! The command line as a whole: arguments in, a response out. -/
namespace Storyline

namespace Command

variable {m : Type → Type} [Monad m] [Surroundings m]

def run (c : Command) (asJson : Bool) : ExceptT CommandFailure m Response :=
  match c with
  | validate project => runValidate project asJson
  | quest project id => runQuest project id asJson
  | status project => runStatus project asJson
  | simulate project options => runSimulate project options asJson
  | batch project requests store => runBatch project requests store asJson
  | compare store ids => runCompare store ids asJson
  | analyze store id => runAnalyze store id asJson

end Command

namespace Invocation

def versionNumber : String := "0.1.0"

def usage : List String :=
  ["Usage: qw <COMMAND> [OPTIONS]",
    "",
    "Commands:",
    "  validate PROJECT                    check the whole graph of a project",
    "  quest PROJECT QUEST                 check one quest inside its project",
    "  status PROJECT                      show the status of a project",
    "  simulate PROJECT --arc ARC          play one story arc",
    "  batch PROJECT REQUESTS              play several requests",
    "  compare --store FOLDER [ID ...]     compare stored results",
    "  analyze --store FOLDER ID           analyze one stored result"]

def misuseCode : Nat := 2

def respond {m : Type → Type} [Monad m] [Surroundings m] (arguments : List String) :
    m Response := do
  match ofArguments arguments with
  | .run command asJson => return .settle (← (command.run asJson).run)
  | .version name => return .ofLines [name ++ " " ++ versionNumber]
  | .help => return .ofLines usage
  | .misuse => return { complaints := usage, code := misuseCode }

end Invocation

end Storyline
