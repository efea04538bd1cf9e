import SafetyBoard.Signal
import SafetyBoard.Table

/-!
The one refresh that may be open at a time: which sources were asked, which of them still owe an
answer, and how the refresh ended. An answer names its session; one with the id of a session that is
no longer open changes nothing.
-/

namespace SafetyBoard

structure Awaited where
  key : SourceKey
  since : Number
  deriving DecidableEq, Repr

structure Session where
  id : String
  reason : RefreshReason
  group : UserGroup
  startedAt : Number
  inFlight : Table String Awaited
  failureSeen : Bool
  deriving DecidableEq, Repr

/-- `opened` counts the sessions opened so far; answers of `untracked` sources are not awaited. -/
structure Coordinator where
  session : Option Session
  opened : Nat
  untracked : List String
  deriving DecidableEq, Repr

namespace Session

def keys (s : Session) : List SourceKey := s.inFlight.values.map (·.key)

def markOne (now : Number) (s : Session) (key : SourceKey) : Session :=
  { s with inFlight := s.inFlight.insert key.encode ⟨key, now⟩ }

/-- The session without an answer that has come in, noting a failure of a tracked source. -/
def answered (s : Session) (key : SourceKey) (failed : Bool) : Session :=
  { s with inFlight := s.inFlight.erase key.encode, failureSeen := s.failureSeen || failed }

def answerEvent (s : Session) (key : SourceKey) (since now : Number) (result : RefreshResult) :
    TelemetryEvent :=
  .sourceRefresh s.reason.requestType key (now - since) result

def wholeEvent (s : Session) (now : Number) (result : RefreshResult) : TelemetryEvent :=
  .wholeRefresh s.reason.requestType (now - s.startedAt) result

end Session

namespace Coordinator

def tag := "RefreshCoordinator"

def fresh (untracked : List String) : Coordinator := ⟨none, 0, untracked⟩

def isTracked (c : Coordinator) (sourceId : String) : Bool := !c.untracked.contains sourceId

def currentId? (c : Coordinator) : Option String := c.session.map (·.id)

def inFlightKeys (c : Coordinator) : List SourceKey :=
  match c.session with
  | some s => s.keys
  | none => []

def status (c : Coordinator) : RefreshStatus :=
  match c.session with
  | some s => if s.inFlight.isEmpty then .none else s.reason.status
  | none => .none

def current? (c : Coordinator) (id : String) : Option Session := c.session.filter (·.id = id)

def sessionId (unique : String) (number : Nat) : String := unique ++ "_" ++ toString number

/-- Tells that an open session is about to be replaced, while it still stands. -/
def supersede (c : Coordinator) (now : Number) : Change Coordinator Unit :=
  match c.session with
  | none => ⟨[], c, ()⟩
  | some s =>
    let abandoned := Number.ofNat s.inFlight.size
    ⟨[(c, .log (.line .warn tag "Refresh superseded before completing"
        (some [("sessionId", .string s.id), ("abandonedSources", .number abandoned)]))),
      (c, .event (.refreshSuperseded s.reason.requestType (now - s.startedAt) abandoned))], c, ()⟩

def openSession (c : Coordinator) (unique : String) (reason : RefreshReason) (group : UserGroup)
    (now : Number) : Change Coordinator String :=
  let id := sessionId unique c.opened
  let after := { c with
    session := some ⟨id, reason, group, now, ∅, false⟩
    opened := c.opened + 1 }
  ⟨[(after, .log (.line .debug tag "Refresh started"
      (some [("sessionId", .string id), ("reason", .string reason.name)])))], after, id⟩

def start (c : Coordinator) (unique : String) (reason : RefreshReason) (group : UserGroup)
    (now : Number) : Change Coordinator String :=
  (c.supersede now).andThen fun c _ => c.openSession unique reason group now

def staleLine (c : Coordinator) (operation id : String) : LogLine :=
  .line .warn tag (operation ++ " with a session id that is no longer current")
    (some (("sessionId", .string id) ::
      match c.currentId? with
      | some current => [("currentSessionId", .string current)]
      | none => []))

def mark (c : Coordinator) (id : String) (keys : List SourceKey) (now : Number) :
    Change Coordinator Unit :=
  match c.current? id with
  | none => ⟨[(c, .log (c.staleLine "markInFlight" id))], c, ()⟩
  | some s =>
    let tracked := keys.filter fun k => c.isTracked k.sourceId
    ⟨[], { c with session := some (tracked.foldl (Session.markOne now) s) }, ()⟩

/-- The session after the last answer: it ends, with an error if a tracked source failed. -/
def finish (c : Coordinator) (s : Session) (now : Number) : Change Coordinator Bool :=
  let closing := { c with session := some s }
  ⟨[(closing, .event (s.wholeEvent now (if s.failureSeen then .error else .success))),
    (closing, .log (.line .debug tag "Refresh complete"
      (some [("sessionId", .string s.id), ("failed", .bool s.failureSeen)])))],
    { c with session := none }, true⟩

/-- Takes an answer; the result tells whether it ended the session. With nothing in flight any
answer to the current session ends it. -/
def complete (c : Coordinator) (id : String) (key : SourceKey) (success : Bool) (now : Number) :
    Change Coordinator Bool :=
  match c.current? id with
  | none => ⟨[(c, .log (c.staleLine "reportComplete" id))], c, false⟩
  | some s =>
    let result := if success then RefreshResult.success else .error
    let answers : List (Coordinator × Signal) :=
      match s.inFlight.get? key.encode with
      | some awaited =>
        [({ c with session := some (s.answered key false) },
          .event (s.answerEvent key awaited.since now result))]
      | none => []
    let s := s.answered key (c.isTracked key.sourceId && !success)
    if s.inFlight.isEmpty then
      let finished := c.finish s now
      { finished with moments := answers ++ finished.moments }
    else ⟨answers, { c with session := some s }, false⟩

/-- Ends a session that ran out of time; the result is the sources that never answered. -/
def timeout (c : Coordinator) (id : String) (now : Number) : Change Coordinator (List SourceKey) :=
  match c.current? id with
  | none =>
    ⟨[(c, .log (.line .debug tag "Ignoring timeout of a session that is no longer open"
      (some [("sessionId", .string id)])))], c, []⟩
  | some s =>
    let closed := { c with session := none }
    if s.inFlight.isEmpty then ⟨[], closed, []⟩
    else
      let events := s.inFlight.values.map (fun a => s.answerEvent a.key a.since now .timeout) ++
        [s.wholeEvent now .timeout]
      ⟨events.map (fun e => (closed, Signal.event e)) ++
        [(closed, .log (.line .warn tag "Refresh timed out"
          (some [("sessionId", .string id),
            ("timedOut", .array (s.keys.map fun k => .string k.encode))])))],
        closed, s.keys⟩

/-- Stops awaiting a removed user; the result tells whether the session ended by that. -/
def clearForUser (c : Coordinator) (user : UserId) : Bool × Coordinator :=
  match c.session with
  | none => (false, c)
  | some s =>
    if s.group.parent.equals user then (true, { c with session := none })
    else
      let inFlight := s.inFlight.filter fun _ a => !a.key.userId.equals user
      if inFlight.isEmpty then (true, { c with session := none })
      else (false, { c with session := some { s with inFlight } })

/-- Drops the open session, or only the one with the given id. -/
def clear (c : Coordinator) (id : Option String) : Coordinator :=
  if id.isNone ∨ c.currentId? = id then { c with session := none } else c

end Coordinator

end SafetyBoard
