import SafetyBoard.Json.Parser
import SafetyBoard.Log
import SafetyBoard.Source.Config
import SafetyBoard.Source.Registry

/-!
A registry from the text of a configuration file.
-/

namespace SafetyBoard

inductive LoadFault where
  | missing
  | notJson
  | invalid (issues : List Text)
  deriving DecidableEq, Repr

def LoadFault.message (path : String) : LoadFault → Text
  | .missing => "no such file"
  | .notJson => "Safety source configuration is not valid JSON: " ++ path
  | .invalid issues => (HubError.invalidConfiguration issues).message

namespace RegistryOf

def parse (raw : Json) : Except (List Text) (RegistryOf Text) := (Config.parse raw).map RegistryOf.mk

def load : Option String → Except LoadFault (RegistryOf Text)
  | none => .error .missing
  | some text =>
    match Json.parse? text with
    | none => .error .notJson
    | some raw => (parse raw).mapError LoadFault.invalid

def loadedLine (r : RegistryOf Text) (path : String) : LogLine :=
  .line .info "SourceRegistry" "Loaded safety source configuration"
    (some [("path", .string path), ("groups", .number (.ofNat r.groups.length)),
      ("sources", .number (.ofNat r.sources.length))])

end RegistryOf

end SafetyBoard
