import SafetyBoard.Hub.State
import SafetyBoard.Inbox

/-!
A hub and its host. The host is everything around the hub: the clock, the log, the telemetry sink,
the transport, the timers and the listeners. A call to the host may fail, and may call the hub again
before it returns.
-/

namespace SafetyBoard

/-- A listener that gets a fresh view of a group after every change. -/
structure Subscription where
  listener : Nat
  group : UserGroup
  deriving DecidableEq, Repr

structure Hub where
  state : HubState
  held : Bool
  mailbox : Mailbox Message
  subscriptions : List Subscription
  deriving Repr

def Hub.initial (settings : Settings) : Hub := ⟨.initial settings, false, .empty, []⟩

abbrev HubAct (σ α : Type) := Act (Hub × σ) α

/-- `mayPost` bounds the messages that calls to the host may still post. -/
structure Host (σ : Type) where
  now : σ → Number
  unique : σ → String × σ
  log : LogLine → σ → σ
  cancel : (task : Nat) → σ → σ
  schedule : (delay : Number) → (sessionId : String) → σ → Nat × σ
  emit : TelemetryEvent → HubAct σ Unit
  request : RefreshRequest → HubAct σ Unit
  listen : (listener : Nat) → View → HubAct σ Unit
  onError : Fault → Message → HubAct σ Unit
  mayPost : σ → Nat

namespace HubAct

variable {σ : Type}

def getState : HubAct σ HubState := do return (← get).1.state

def setState (s : HubState) : HubAct σ Unit :=
  modify fun (hub, host) => ({ hub with state := s }, host)

def tell (f : σ → σ) : HubAct σ Unit := modify fun (hub, host) => (hub, f host)

def ask {α : Type} (f : σ → α × σ) : HubAct σ α :=
  modifyGet fun (hub, host) =>
    let (a, host) := f host
    (a, (hub, host))

def gate : Gate (Hub × σ) where
  isHeld s := s.1.held
  setHeld held s := ({ s.1 with held }, s.2)

end HubAct

end SafetyBoard
