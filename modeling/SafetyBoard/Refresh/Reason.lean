/-!
Why a refresh runs, what it asks of a source, and how far it has come.
-/

namespace SafetyBoard

inductive RefreshReason where
  | pageOpen
  | rescanButton
  | deviceReboot
  | localeChange
  | featureEnabled
  | other
  deriving DecidableEq, Repr

inductive RequestType where
  | getData
  | fetchFreshData
  deriving DecidableEq, Repr

inductive RefreshStatus where
  | none
  | dataFetchInProgress
  | fullRescanInProgress
  deriving DecidableEq, Repr

inductive RefreshResult where
  | success
  | error
  | timeout
  deriving DecidableEq, Repr

namespace RefreshReason

def all : List RefreshReason :=
  [.pageOpen, .rescanButton, .deviceReboot, .localeChange, .featureEnabled, .other]

def name : RefreshReason → String
  | .pageOpen => "page_open"
  | .rescanButton => "rescan_button"
  | .deviceReboot => "device_reboot"
  | .localeChange => "locale_change"
  | .featureEnabled => "feature_enabled"
  | .other => "other"

/-- Opening the page asks for what a source has at hand, every other reason for a fresh scan. -/
def requestType : RefreshReason → RequestType
  | .pageOpen => .getData
  | _ => .fetchFreshData

def status : RefreshReason → RefreshStatus
  | .rescanButton => .fullRescanInProgress
  | _ => .dataFetchInProgress

end RefreshReason

def RequestType.name : RequestType → String
  | .getData => "get_data"
  | .fetchFreshData => "fetch_fresh_data"

def RefreshStatus.all : List RefreshStatus := [.none, .dataFetchInProgress, .fullRescanInProgress]

def RefreshStatus.name : RefreshStatus → String
  | .none => "none"
  | .dataFetchInProgress => "data_fetch_in_progress"
  | .fullRescanInProgress => "full_rescan_in_progress"

def RefreshResult.all : List RefreshResult := [.success, .error, .timeout]

def RefreshResult.name : RefreshResult → String
  | .success => "success"
  | .error => "error"
  | .timeout => "timeout"

end SafetyBoard
