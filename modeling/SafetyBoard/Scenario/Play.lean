import SafetyBoard.Scenario.World

/-!
Playing a scenario. A call to a collaborator is noted and then runs the collaborator's next script,
whose steps may go to the hub again. A script runs once, so the nesting is at most as deep as there
are steps in the scenario.
-/

namespace SafetyBoard.Scenario

abbrev Runner := Option String → Script → Play Unit

def noteEffect (e : Effect) : Play Unit := modify (World.note e)

/-- An event is noted or logged, as the sink is, and only a noted one has a script. -/
def onEvent (runScript : Runner) (e : TelemetryEvent) : Play Unit := do
  let w ← get
  match w.plan.sink with
  | .console => modify (World.logLine e.logLine)
  | .recording =>
    noteEffect (.event e)
    runScript none (← nextScript ("event " ++ e.kind) ((w.plan.onEvent.lookup e.kind).getD []))

def onRequest (runScript : Runner) (r : RefreshRequest) : Play Unit := do
  modify (World.sawSession r.sessionId)
  noteEffect (.request r)
  let source := r.sourceId ++ "@" ++ r.userId.text
  let scripts := ((← get).plan.respond.lookup source).getD []
  runScript (some r.sessionId) (← nextScript ("request " ++ source) scripts)

def onView (runScript : Runner) (listener : Nat) (view : View) : Play Unit := do
  match (← get).listeners[listener]? with
  | none => pure ()
  | some l =>
    noteEffect (.view l.name view)
    runScript none (← nextScript ("listener " ++ l.name) l.scripts)

def onFailedMessage (f : Fault) (message : Message) : Play Unit := do
  match (← get).plan.onError with
  | .absent => pure ()
  | .recording => noteEffect (.onError f message.type)
  | .failing =>
    noteEffect (.onError f message.type)
    throw (.foreign "onError failed")

def schedule (hub : Nat) (delay : Number) (sessionId : String) (w : World) : Nat × World :=
  let task := w.tasks.length
  let w := w.note (.schedule task delay)
  (task, { w with tasks := w.tasks ++ [⟨hub, sessionId⟩] })

def host (runScript : Runner) (hub : Nat) : Host World where
  now := World.clock
  unique w := (World.uniqueText w.nextUnique, { w with nextUnique := w.nextUnique + 1 })
  log := World.logLine
  cancel task := World.note (.cancel task)
  schedule := schedule hub
  emit e := outside hub (onEvent runScript e)
  request r := outside hub (onRequest runScript r)
  listen listener view := outside hub (onView runScript listener view)
  onError f message := outside hub (onFailedMessage f message)
  mayPost w := w.plan.scriptSteps + total (fun l => scriptsSize l.scripts) w.listeners

def remember : Answer → World → World
  | .session id, w => w.sawSession id
  | .records records, w => { w with exported := records }
  | _, w => w

def operate (runScript : Runner) (operation : Operation) : Play Reply := do
  let hub := (← get).current
  let answer ← onHub hub fun setup => Hub.run (host runScript hub) setup operation
  modify (remember answer)
  return .answer answer

/-- Subscribes under a name; the name stands for its latest subscription. -/
def subscribe (name : String) (group : UserGroup) (scripts : List Script) : Play Unit := do
  let w ← get
  let listener := w.listeners.length
  modify fun v => { v with listeners := v.listeners ++ [⟨name, scripts⟩] }
  onHub w.current fun _ => Hub.subscribe listener group
  modify fun v => { v with unsubscribers := v.unsubscribers.insert name (w.current, listener) }

def shellTarget (runScript : Runner) (hub : Nat) : Shell.Target World where
  isEnabled := onHub hub fun setup => pure setup.settings.enabled
  refresh reason group :=
    onHub hub fun setup => Hub.refresh (host runScript hub) setup reason group
  clearAllData := onHub hub fun setup => Hub.clearAllData (host runScript hub) setup
  log := World.logLine

def fire (runScript : Runner) (task : Number) : Play Reply := do
  let w ← get
  let place := task.toInt?.bind fun n => if 0 ≤ n then some n.toNat else none
  match place.bind fun n => w.tasks[n]? with
  | none => return .noSuchTask
  | some t =>
    onHub t.hub fun setup => Hub.receive (host runScript t.hub) setup (.refreshTimeout t.sessionId)
    return .answer .nothing

def stepWith (runScript : Runner) (request : Option String) : Step → Play Reply
  | .operation _ operation => do
    let w ← get
    operate runScript (operation.map (w.sessionId request))
  | .importExported => do operate runScript (.importRecords (← get).exported)
  | .subscribe name group scripts => do
    subscribe name group scripts
    return .answer .nothing
  | .unsubscribe name => do
    match (← get).unsubscribers.get? name with
    | none => return .answer .nothing
    | some (hub, listener) =>
      onHub hub fun _ => Hub.unsubscribe listener
      return .answer .nothing
  | .advance ms => do
    modify fun w => { w with clock := w.clock + ms }
    return .number (← get).clock
  | .fire task => fire runScript task
  | .shell arguments => do
    let hub := (← get).current
    return .shell (← Shell.run (shellTarget runScript hub) Shell.loneUser arguments)
  | .restart overrides => do
    modify fun w => w.build (overrides.getD w.plan.overrides)
    return .answer .nothing
  | .fail message => throw (.foreign message)

def nestedStep (step : Step) (passesOn : Bool) (play : Play Reply) : Play Unit := do
  match step with
  | .fail _ => do
    let _ ← play
    pure ()
  | _ =>
    let outcome ← tryCatch (Except.ok <$> play) fun f =>
      if passesOn then throw f else pure (.error f)
    noteEffect (.nested step.name outcome)

def runScript : Nat → Runner
  | 0, _, _ => pure ()
  | depth + 1, request, script => script.forM fun (passesOn, step) =>
      nestedStep step passesOn (stepWith (runScript depth) request step)

structure StepResult where
  outcome : Except Fault Reply
  effects : List Effect

def playSteps (depth : Nat) : List Step → World → List StepResult
  | [], _ => []
  | step :: rest, w =>
    let (outcome, w) := (stepWith (runScript depth) none step).run { w with effects := [] }
    ⟨outcome, w.effects⟩ :: playSteps depth rest w

def play (plan : Plan) (steps : List Step) : List Effect × List StepResult :=
  let w := (World.initial plan).build plan.overrides
  (w.effects, playSteps (plan.scriptSteps + total Step.size steps + 1) steps w)

end SafetyBoard.Scenario
