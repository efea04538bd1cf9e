import SafetyBoard.Error

/-!
Log lines. Every component writes under its own tag; lines for debugging are only shown while
verbose logging is on. A failure is recorded with the category and the details of its error.
-/

namespace SafetyBoard

inductive LogLevel where
  | debug
  | info
  | warn
  | error
  deriving DecidableEq, Repr

def LogLevel.all : List LogLevel := [.debug, .info, .warn, .error]

def LogLevel.name : LogLevel → String
  | .debug => "debug"
  | .info => "info"
  | .warn => "warn"
  | .error => "error"

abbrev LogContext := List (Text × Json)

inductive LogLine where
  | line (level : LogLevel) (tag message : String) (context : Option LogContext)
  | failure (response : ErrorResponse) (context : LogContext)
  deriving Repr

namespace LogLine

def level : LogLine → LogLevel
  | .line level _ _ _ => level
  | .failure _ _ => .error

def text : LogLine → String
  | .line _ tag message _ => "[" ++ tag ++ "] " ++ message
  | .failure _ _ => "[SafetyHubError]"

def isShown (verbose : Bool) (l : LogLine) : Bool := verbose || l.level != .debug

def ofFault (f : Fault) (context : LogContext) : LogLine := .failure (f.response none) context

end LogLine

end SafetyBoard
