import SafetyBoard.Number.Basic

/-!
Users come in groups: a parent and the managed profiles that belong to it. A profile that is paused
is not running.
-/

namespace SafetyBoard

abbrev UserId := Number

structure ManagedProfile where
  userId : UserId
  running : Bool
  deriving DecidableEq, Repr

structure UserGroup where
  parent : UserId
  managed : List ManagedProfile
  deriving DecidableEq, Repr

structure Member where
  userId : UserId
  isManaged : Bool
  isRunning : Bool
  deriving DecidableEq, Repr

def Member.isPaused (m : Member) : Bool := m.isManaged && !m.isRunning

namespace UserGroup

def managedUsers (g : UserGroup) : List UserId := g.managed.map (·.userId)

def runningManaged (g : UserGroup) : List UserId := (g.managed.filter (·.running)).map (·.userId)

def isRunning (g : UserGroup) (user : UserId) : Bool :=
  g.managed.any fun p => p.userId.equals user && p.running

def users (g : UserGroup) : List UserId := g.parent :: g.managedUsers

def containsUser (g : UserGroup) (user : UserId) : Bool := g.users.contains user

/-- The users that a source reports for: the parent, and the running profiles if it supports
them. -/
def reportingUsers (g : UserGroup) (supportsManaged : Bool) : List UserId :=
  g.parent :: if supportsManaged then g.runningManaged else []

/-- The users that a source is shown for: the parent, and all profiles if it supports them. -/
def members (g : UserGroup) (supportsManaged : Bool) : List Member :=
  ⟨g.parent, false, true⟩ ::
    if supportsManaged then g.managed.map fun p => ⟨p.userId, true, p.running⟩ else []

def dropManaged (g : UserGroup) (user : UserId) : UserGroup :=
  { g with managed := g.managed.filter fun p => !p.userId.equals user }

end UserGroup

end SafetyBoard
