import SafetyBoard.Gate
import SafetyBoard.Log
import SafetyBoard.Refresh.Reason

/-!
The shell: one command with its arguments, an exit code and lines of output. The options of a
refresh come in pairs; of a repeated option the last one counts.
-/

namespace SafetyBoard.Shell

def reasons : List (String × RefreshReason) :=
  [("PAGE_OPEN", .pageOpen), ("BUTTON_CLICK", .rescanButton), ("REBOOT", .deviceReboot),
    ("LOCALE_CHANGE", .localeChange), ("SAFETY_CENTER_ENABLED", .featureEnabled), ("OTHER", .other)]

def helpLines : List Text :=
  ["Safety hub commands:",
    "  help or -h",
    "      Print this help text.",
    "  enabled",
    "      Print whether the hub is enabled. Exits with 0 if enabled, 1 otherwise.",
    "  refresh [--reason REASON] [--user USERID]",
    "      Start a refresh of all sources.",
    "      REASON is one of " ++ ", ".intercalate (reasons.map Prod.fst) ++ "; default OTHER.",
    "      USERID is the user to refresh for; default 0.",
    "  clear-data",
    "      Clear all reports, dismissals and the refresh in progress."]

structure RefreshOptions where
  reason : RefreshReason
  user : UserId
  deriving DecidableEq, Repr

def RefreshOptions.default : RefreshOptions := ⟨.other, 0⟩

inductive OptionFault where
  | reason (value : Option String)
  | user (value : Option String)
  | unknown (option : String)
  deriving DecidableEq, Repr

def OptionFault.text : OptionFault → String
  | .reason value => "Invalid --reason: " ++ value.getD "(missing)"
  | .user value => "Invalid --user: " ++ value.getD "(missing)"
  | .unknown option => "Unknown option: " ++ option

def parseOptions (options : RefreshOptions) : List String → Except OptionFault RefreshOptions
  | [] => .ok options
  | [option] =>
    if option = "--reason" then .error (.reason none)
    else if option = "--user" then .error (.user none)
    else .error (.unknown option)
  | option :: value :: rest =>
    if option = "--reason" then
      match reasons.lookup value with
      | some reason => parseOptions { options with reason } rest
      | none => .error (.reason (some value))
    else if option = "--user" then
      match Number.ofDigits? value.toList with
      | some user => parseOptions { options with user } rest
      | none => .error (.user (some value))
    else .error (.unknown option)

inductive Command where
  | help
  | enabled
  | refresh (arguments : List String)
  | clearData
  | unknown (name : String)
  deriving DecidableEq, Repr

def Command.parse : List String → Command
  | [] => .help
  | name :: rest =>
    if name = "help" ∨ name = "-h" then .help
    else if name = "enabled" then .enabled
    else if name = "refresh" then .refresh rest
    else if name = "clear-data" then .clearData
    else .unknown name

inductive Line where
  | out (text : Text)
  | err (text : Text)
  deriving DecidableEq, Repr

structure Outcome where
  code : Nat
  lines : List Line
  deriving DecidableEq, Repr

structure Target (σ : Type) where
  isEnabled : Act σ Bool
  refresh : RefreshReason → UserGroup → Act σ String
  clearAllData : Act σ Unit
  log : LogLine → σ → σ

variable {σ : Type}

def execute (target : Target σ) (resolveGroup : UserId → UserGroup) : Command → Act σ Outcome
  | .help => return ⟨0, helpLines.map .out⟩
  | .unknown name => return ⟨1, .err ("Unknown command: " ++ name) :: helpLines.map .out⟩
  | .enabled => do
    if ← target.isEnabled then return ⟨0, [.out "true"]⟩ else return ⟨1, [.out "false"]⟩
  | .clearData => do
    target.clearAllData
    return ⟨0, []⟩
  | .refresh arguments =>
    match parseOptions .default arguments with
    | .error fault => return ⟨1, [.err fault.text]⟩
    | .ok options => do
      let id ← target.refresh options.reason (resolveGroup options.user)
      return ⟨0, [.out ("Started refresh " ++ id)]⟩

/-- An error of the hub is printed; any other failure is logged and passed on. -/
def run (target : Target σ) (resolveGroup : UserId → UserGroup) (arguments : List String) :
    Act σ Outcome :=
  tryCatch (execute target resolveGroup (.parse arguments)) fun
    | .hub e => return ⟨1, [.err e.message]⟩
    | f => do
      let command : LogContext :=
        (arguments.head?.map fun name => ((("command", .string name)) : Text × Json)).toList
      modify (target.log (.ofFault f (("component", .string "ShellCommandHandler") :: command)))
      throw f

def loneUser (user : UserId) : UserGroup := ⟨user, []⟩

end SafetyBoard.Shell
