import SafetyBoard.Proofs.Hub.Refusal
import SafetyBoard.Proofs.Hub.Sound
import SafetyBoard.Proofs.Hub.Told
import SafetyBoard.Proofs.Refresh.Exchange
import SafetyBoard.Proofs.View.Reads

/-!
# The order in which sources reply

A reply writes only what stands under its own source and user, and it is taken or refused by what no
reply changes. So replies of different sources and users may change places: whoever looks by keys
finds the same after both orders, though the tables are filled in another order, and views look by
keys only. The session ends on another reply, but its sources are told of in both orders.
-/

namespace SafetyBoard

/-- What comes from a source for a user: data, or that the source failed. -/
structure Reply where
  key : SourceKey
  payload : Option Json

def Reply.message (session : Option String) (r : Reply) : Message :=
  match r.payload with
  | some payload => .sourceData r.key payload session
  | none => .sourceError r.key session

namespace HubState

variable {s t u : HubState} {setup : Setup} {now : Number} {session : Option String}

structure SameAt (key : SourceKey) (s t : HubState) : Prop where
  report : t.store.get? key = s.store.get? key
  error : t.store.hasError key = s.store.hasError key
  inFlight : ∀ action, action.issue.source = key →
    t.store.isActionInFlight action = s.store.isActionInFlight action
  record : ∀ issue, issue.source = key → t.ledger.record? issue = s.ledger.record? issue

namespace SameAt

variable {key : SourceKey}

theorem refl (s : HubState) : SameAt key s s := ⟨rfl, rfl, fun _ _ => rfl, fun _ _ => rfl⟩

theorem symm (h : SameAt key s t) : SameAt key t s :=
  ⟨h.report.symm, h.error.symm, fun action own => (h.inFlight action own).symm,
    fun issue own => (h.record issue own).symm⟩

theorem trans (h : SameAt key s t) (k : SameAt key t u) : SameAt key s u :=
  ⟨k.report.trans h.report, k.error.trans h.error,
    fun action own => (k.inFlight action own).trans (h.inFlight action own),
    fun issue own => (k.record issue own).trans (h.record issue own)⟩

end SameAt

/-- Whoever looks by keys finds the same, and the session is the same. -/
structure Similar (s t : HubState) : Prop where
  same : ∀ key, SameAt key s t
  coordinator : t.coordinator = s.coordinator
  groups : t.groups = s.groups

namespace Similar

theorem refl (s : HubState) : s.Similar s := ⟨fun _ => .refl s, rfl, rfl⟩

theorem trans (h : s.Similar t) (k : t.Similar u) : s.Similar u :=
  ⟨fun key => (h.same key).trans (k.same key), k.coordinator.trans h.coordinator,
    k.groups.trans h.groups⟩

theorem draw (h : s.Similar t) (setup : Setup) (group : UserGroup) :
    t.draw setup group = s.draw setup group := by
  have same : View.SameReadings setup.registry group s.store t.store s.ledger t.ledger :=
    { report := fun key _ => (h.same key).report
      error := fun key _ => (h.same key).error
      dismissed := by
        intro key report issue _ _ _ _
        rw [DismissalLedger.isDismissed, DismissalLedger.isDismissed,
          (h.same key.source).record key rfl] }
  rw [HubState.draw, HubState.draw, h.coordinator]
  exact same.draw_congr (fun action _ => (h.same action.issue.source).inFlight action rfl) _

end Similar

def accepted? (s : HubState) (setup : Setup) (r : Reply) : Option (Option Report) :=
  match r.payload with
  | some payload =>
    if setup.settings.enabled then
      (s.acceptPayload setup.registry r.key payload).toOption.map some
    else none
  | none =>
    if setup.settings.enabled ∧ (setup.registry.source? r.key.sourceId).isSome then some none
    else none

def reply (s : HubState) (key : SourceKey) (outcome : Option Report) (session : Option String)
    (now : Number) : Change HubState Bool :=
  match outcome with
  | some report => s.takeReport key report session now
  | none => s.acceptError key session now

/-- What a session hears of an outcome: nothing if an issue id is garbled. -/
def heard : Option Report → Option Bool
  | some report => if report.isSpelled then some true else none
  | none => some false

theorem messageChange?_reply (r : Reply) :
    s.messageChange? setup now (r.message session) =
      (s.accepted? setup r).map fun outcome => s.reply r.key outcome session now := by
  obtain ⟨key, payload⟩ := r
  cases payload with
  | none =>
    simp only [Reply.message, messageChange?, accepted?]
    split <;> rfl
  | some payload =>
    simp only [Reply.message, messageChange?, accepted?]
    split
    · cases s.acceptPayload setup.registry key payload <;> rfl
    · rfl

theorem accepted?_congr (groups : t.groups = s.groups) (r : Reply) :
    t.accepted? setup r = s.accepted? setup r := by
  have foreign (user : UserId) : t.isForeignProfile user = s.isForeignProfile user := by
    rw [isForeignProfile, isForeignProfile, groups]
  simp only [accepted?, acceptPayload, foreign]

section Reply

variable {key : SourceKey} {outcome : Option Report}

theorem reply_sound (h : s.Sound setup) {r : Reply} (taken : s.accepted? setup r = some outcome) :
    (s.reply r.key outcome session now).after.Sound setup := by
  have changes : s.messageChange? setup now (r.message session) =
      some (s.reply r.key outcome session now) := by
    rw [messageChange?_reply, taken]
    rfl
  have step : Step setup True s (.receive (r.message session))
      (s.reply r.key outcome session now).after := Hub.step_of_message rfl changes (Or.inl rfl)
  exact h.step step

theorem reply_groups : (s.reply key outcome session now).after.groups = s.groups := by
  cases outcome with
  | none => exact (s.acceptError_sameData key session now).2.groups
  | some report => exact (s.takeReport_sameData key report session now).2.groups

theorem completeSource_answer (s : HubState) (key : SourceKey) (success : Bool)
    (session : Option String) (now : Number) :
    let answered := s.coordinator.answer session now key (some success)
    (s.completeSource key success session now).after.coordinator = answered.1 ∧
      (s.completeSource key success session now).events = answered.2 := by
  cases session with
  | none => exact ⟨rfl, rfl⟩
  | some id =>
    have quiet (t : HubState) (completed : Bool) :
        (if completed && t.pending.any (·.sessionId = id) then
          { t.cancelPending with result := completed } else ⟨[], t, completed⟩ :
            Change HubState Bool).events = [] := by
      split
      · rw [cancelPending]
        split <;> rfl
      · rfl
    constructor
    · rw [completeSource_after]
      dsimp only
      split <;> rfl
    · rw [completeSource, Change.events_andThen, Change.events_within]
      exact (congrArg _ (quiet _ _)).trans (List.append_nil _)

theorem reply_answer :
    let answered := s.coordinator.answer session now key (heard outcome)
    (s.reply key outcome session now).after.coordinator = answered.1 ∧
      (s.reply key outcome session now).events = answered.2 := by
  have said (c : Change HubState Bool) (line : LogLine) (result : Bool) :
      ({ c.thenSay (.log line) with result } : Change HubState Bool).events = c.events := by
    simp [Change.events, Change.thenSay, Change.signals]
  cases outcome with
  | none =>
    obtain ⟨coordinator, told⟩ := completeSource_answer (s.withError key) key false session now
    exact ⟨coordinator, (said _ _ _).trans told⟩
  | some report =>
    simp only [reply, takeReport, heard]
    split
    · next spelled =>
      obtain ⟨coordinator, told⟩ := completeSource_answer (s.withReport key report now) key true
        session now
      rw [s.withReport_of_spelled key spelled] at coordinator told
      exact ⟨coordinator, (said _ _ _).trans told⟩
    · cases session <;> exact ⟨rfl, rfl⟩

/-- The record of an issue of the source after a reply: a report brings a record of each issue before
the first garbled one, an old one as it was, and drops those of the issues that are not in it. -/
def recordAfter (key : SourceKey) (outcome : Option Report) (now : Number) (issue : IssueKey)
    (old : Option DismissalRecord) : Option DismissalRecord :=
  match outcome with
  | some report =>
    if issue.source = key ∧ issue.issueId ∈ Text.spelledPrefix report.issueIds then
      some (old.getD (.seen issue (.ofNumber now)))
    else if issue.source.same key ∧ (issue.issueId : Text) ∉ report.issueIds then none
    else old
  | none => old

/-- What is found after a reply, by the key of its source and user. -/
structure Replied (key : SourceKey) (outcome : Option Report) (now : Number) (s t : HubState) :
    Prop where
  report : ∀ k, t.store.get? k = if key = k then outcome else s.store.get? k
  error : ∀ k, t.store.hasError k = if key = k then outcome.isNone else s.store.hasError k
  inFlight : ∀ action, t.store.isActionInFlight action =
    (!((heard outcome).isSome && action.issue.source.same key) && s.store.isActionInFlight action)
  record : ∀ issue, t.ledger.record? issue =
    recordAfter key outcome now issue (s.ledger.record? issue)

theorem reply_replied (h : s.Sound setup) :
    Replied key outcome now s (s.reply key outcome session now).after := by
  cases outcome with
  | none =>
    obtain ⟨store, ledger, -⟩ := (s.acceptError_sameData key session now).2
    constructor
    · intro k
      rw [reply, store]
      exact ReportStore.get?_markError s.store key k
    · intro k
      rw [reply, store]
      refine (ReportStore.hasError_markError s.store key k).trans ?_
      by_cases own : key = k <;> simp [own]
    · intro action
      rw [reply, store]
      exact ReportStore.isActionInFlight_clearActionsInFlight (h.store.keyed.markError key) key
        action
    · intro issue
      rw [reply, ledger]
      rfl
  | some report =>
    obtain ⟨store, ledger, -⟩ := (s.takeReport_sameData key report session now).2
    constructor
    · intro k
      rw [reply, store]
      exact s.store.get?_take key report k
    · intro k
      rw [reply, store]
      refine (s.store.hasError_take key report k).trans ?_
      by_cases own : key = k <;> simp [own]
    · intro action
      have answers : (heard (some report)).isSome = report.isSpelled := by
        rw [heard]
        cases report.isSpelled <;> rfl
      rw [reply, store, answers]
      exact ReportStore.isActionInFlight_take key report h.store.keyed action
    · intro issue
      rw [reply, ledger]
      exact withReport_record? key h.ledger report now issue

theorem Replied.elsewhere (h : Replied key outcome now s t) {k : SourceKey} (other : key ≠ k) :
    SameAt k s t where
  report := (h.report k).trans (if_neg other)
  error := (h.error k).trans (if_neg other)
  inFlight := by
    rintro action rfl
    rw [h.inFlight, SourceKey.same_of_ne (Ne.symm other), Bool.and_false, Bool.not_false,
      Bool.true_and]
  record := by
    rintro issue rfl
    rw [h.record]
    cases outcome with
    | none => rfl
    | some report =>
      simp [recordAfter, Ne.symm other, SourceKey.same_of_ne (Ne.symm other)]

/-- Under its own key a reply leaves what it says, and the old records of the issues in it. -/
theorem Replied.there {s' t' : HubState} (h : Replied key outcome now s t)
    (h' : Replied key outcome now s' t') (same : SameAt key s s') : SameAt key t t' where
  report := by rw [h.report, h'.report, if_pos rfl, if_pos rfl]
  error := by rw [h.error, h'.error, if_pos rfl, if_pos rfl]
  inFlight := by
    rintro action rfl
    rw [h.inFlight, h'.inFlight, same.inFlight action rfl]
  record := by
    rintro issue rfl
    rw [h.record, h'.record, same.record issue rfl]

end Reply

/-- The state after a reply and what is told; a reply that is refused does nothing. -/
def take (setup : Setup) (now : Number) (session : Option String) (s : HubState) (r : Reply) :
    HubState × List TelemetryEvent :=
  match s.messageChange? setup now (r.message session) with
  | none => (s, [])
  | some c => (c.after, c.events)

section Take

variable {r r' : Reply}

theorem take_eq (s : HubState) (setup : Setup) (now : Number) (session : Option String)
    (r : Reply) : s.take setup now session r =
      match s.accepted? setup r with
      | none => (s, [])
      | some outcome => ((s.reply r.key outcome session now).after,
          (s.reply r.key outcome session now).events) := by
  rw [take, messageChange?_reply]
  cases s.accepted? setup r <;> rfl

theorem take_sound (h : s.Sound setup) : (s.take setup now session r).1.Sound setup := by
  rw [take_eq]
  cases taken : s.accepted? setup r with
  | none => exact h
  | some outcome => exact reply_sound h taken

theorem take_groups : (s.take setup now session r).1.groups = s.groups := by
  rw [take_eq]
  cases s.accepted? setup r with
  | none => rfl
  | some outcome => exact reply_groups

theorem take_answer (s : HubState) (setup : Setup) (now : Number) (session : Option String)
    (r : Reply) :
    let answered := s.coordinator.answer session now r.key ((s.accepted? setup r).bind heard)
    (s.take setup now session r).1.coordinator = answered.1 ∧
      (s.take setup now session r).2 = answered.2 := by
  rw [take_eq]
  cases s.accepted? setup r with
  | none => cases session <;> exact ⟨rfl, rfl⟩
  | some outcome => exact reply_answer

theorem take_elsewhere (h : s.Sound setup) {k : SourceKey} (other : r.key ≠ k) :
    SameAt k s (s.take setup now session r).1 := by
  rw [take_eq]
  cases s.accepted? setup r with
  | none => exact .refl s
  | some outcome => exact (reply_replied h).elsewhere other

theorem take_there (now : Number) (session : Option String) (hs : s.Sound setup)
    (ht : t.Sound setup) (groups : t.groups = s.groups) (same : SameAt r.key s t) :
    SameAt r.key (s.take setup now session r).1 (t.take setup now session r).1 := by
  rw [take_eq, take_eq, accepted?_congr groups]
  cases s.accepted? setup r with
  | none => exact same
  | some outcome => exact (reply_replied hs).there (reply_replied ht) same

theorem take_congr (now : Number) (session : Option String) (r : Reply) (hs : s.Sound setup)
    (ht : t.Sound setup) (similar : s.Similar t) :
    (s.take setup now session r).1.Similar (t.take setup now session r).1 ∧
      (t.take setup now session r).2 = (s.take setup now session r).2 := by
  obtain ⟨here, told_here⟩ := take_answer s setup now session r
  obtain ⟨there, told_there⟩ := take_answer t setup now session r
  rw [similar.coordinator, accepted?_congr similar.groups] at there told_there
  have coordinator := there.trans here.symm
  have told := told_there.trans told_here.symm
  refine ⟨⟨fun key => ?_, coordinator, ?_⟩, told⟩
  · by_cases own : r.key = key
    · subst own
      exact take_there now session hs ht similar.groups (similar.same r.key)
    · exact ((take_elsewhere hs own).symm.trans (similar.same key)).trans (take_elsewhere ht own)
  · rw [take_groups, take_groups, similar.groups]

theorem take_answers (s : HubState) (setup : Setup) (now : Number) (session : Option String)
    (r r' : Reply) :
    let first := s.take setup now session r
    let second := first.1.take setup now session r'
    let answered := s.coordinator.answers session now r.key ((s.accepted? setup r).bind heard)
      r'.key ((s.accepted? setup r').bind heard)
    second.1.coordinator = answered.1 ∧ first.2 ++ second.2 = answered.2 := by
  intro first second
  obtain ⟨coordinator, told⟩ := take_answer s setup now session r
  obtain ⟨coordinator', told'⟩ := take_answer first.1 setup now session r'
  rw [accepted?_congr (take_groups (s := s) (r := r))] at coordinator' told'
  rw [Coordinator.answers, ← coordinator, ← told]
  exact ⟨coordinator', congrArg _ told'⟩

theorem take_comm (now : Number) (session : Option String) (h : s.Sound setup)
    (other : r.key ≠ r'.key) :
    ((s.take setup now session r).1.take setup now session r').1.Similar
      ((s.take setup now session r').1.take setup now session r).1 := by
  have left : (s.take setup now session r).1.Sound setup := take_sound h
  have right : (s.take setup now session r').1.Sound setup := take_sound h
  refine ⟨fun key => ?_, ?_, ?_⟩
  · by_cases own : r.key = key
    · subst own
      have first := take_there now session h right
        take_groups (take_elsewhere h (Ne.symm other))
      exact (take_elsewhere left (Ne.symm other)).symm.trans first
    · by_cases own' : r'.key = key
      · subst own'
        have last := take_there now session left h
          take_groups.symm (take_elsewhere h other).symm
        exact last.trans (take_elsewhere right other)
      · exact ((take_elsewhere left own').symm.trans (take_elsewhere h own).symm).trans
          ((take_elsewhere h own').trans (take_elsewhere right own))
  · have here := (take_answers s setup now session r r').1
    have there := (take_answers s setup now session r' r).1
    exact there.trans ((Coordinator.answers_comm ..).trans here.symm)
  · rw [take_groups, take_groups, take_groups, take_groups]

end Take

def takeAll (setup : Setup) (now : Number) (session : Option String) (s : HubState) :
    List Reply → HubState × List TelemetryEvent
  | [] => (s, [])
  | r :: rest =>
    let first := s.take setup now session r
    let last := takeAll setup now session first.1 rest
    (last.1, first.2 ++ last.2)

def Awaits (s : HubState) (replies : List Reply) : Prop :=
  ∀ r ∈ replies, r.key ∈ s.coordinator.inFlightKeys

/-- Replies come to the same: the states are similar, the same is told of sources, and if every one
was awaited, the session ended in the same way. -/
structure SameOutcome (awaited : Prop) (p q : HubState × List TelemetryEvent) : Prop where
  state : p.1.Similar q.1
  sources : (p.2.filter (·.isSourceRefresh)).Perm (q.2.filter (·.isSourceRefresh))
  wholes : awaited → p.2.filter (·.isWholeRefresh) = q.2.filter (·.isWholeRefresh)

section TakeAll

variable {replies replies' : List Reply}

theorem takeAll_congr (now : Number) (session : Option String) (replies : List Reply)
    (hs : s.Sound setup) (ht : t.Sound setup) (similar : s.Similar t) :
    (takeAll setup now session s replies).1.Similar (takeAll setup now session t replies).1 ∧
      (takeAll setup now session t replies).2 = (takeAll setup now session s replies).2 := by
  induction replies generalizing s t with
  | nil => exact ⟨similar, rfl⟩
  | cons r rest ih =>
    obtain ⟨next, told⟩ := take_congr now session r hs ht similar
    obtain ⟨last, later⟩ := ih (take_sound hs) (take_sound ht) next
    exact ⟨last, congrArg₂ (· ++ ·) told later⟩

theorem awaits_take (now : Number) (session : Option String) (h : s.Sound setup) {r : Reply}
    (fresh : r.key ∉ replies.map (·.key)) (awaited : s.Awaits replies) :
    (s.take setup now session r).1.Awaits replies := by
  intro r' member
  have other : r.key ≠ r'.key := fun same => fresh (same ▸ List.mem_map_of_mem member)
  rw [(take_answer s setup now session r).1]
  exact Coordinator.awaited_answer session now _ h.coordinator other (awaited r' member)

theorem takeAll_perm (now : Number) (session : Option String) (perm : replies.Perm replies')
    (h : s.Sound setup) (distinct : (replies.map (·.key)).Nodup) :
    SameOutcome (s.Awaits replies) (takeAll setup now session s replies)
      (takeAll setup now session s replies') := by
  induction perm generalizing s with
  | nil => exact ⟨.refl s, .refl _, fun _ => rfl⟩
  | cons r _ ih =>
    rw [List.map_cons, List.nodup_cons] at distinct
    have sound : (s.take setup now session r).1.Sound setup := take_sound h
    have next := ih sound distinct.2
    refine ⟨next.state, ?_, fun awaited => ?_⟩
    · rw [takeAll, takeAll, List.filter_append, List.filter_append]
      exact next.sources.append_left _
    · have awaited := awaits_take now session h distinct.1 fun r' member =>
        awaited r' (List.mem_cons_of_mem _ member)
      rw [takeAll, takeAll, List.filter_append, List.filter_append, next.wholes awaited]
  | swap r r' rest =>
    have other : r'.key ≠ r.key := by
      rw [List.map_cons, List.nodup_cons] at distinct
      exact fun same => distinct.1 (same ▸ List.mem_cons_self)
    obtain ⟨last, later⟩ := takeAll_congr now session rest (take_sound (take_sound h))
      (take_sound (take_sound h)) (take_comm now session h other)
    have here := (take_answers s setup now session r' r).2
    have there := (take_answers s setup now session r r').2
    refine ⟨last, ?_, fun awaited => ?_⟩
    · rw [takeAll, takeAll, takeAll, takeAll]
      dsimp only
      rw [later, ← List.append_assoc, ← List.append_assoc, here, there, List.filter_append,
        List.filter_append]
      exact (Coordinator.answers_sources _ session now _ _ other).append_right _
    · rw [takeAll, takeAll, takeAll, takeAll]
      dsimp only
      rw [later, ← List.append_assoc, ← List.append_assoc, here, there, List.filter_append,
        List.filter_append, Coordinator.answers_wholes session now _ _ h.coordinator other
          (awaited r' List.mem_cons_self)
          (awaited r (List.mem_cons_of_mem _ List.mem_cons_self))]
  | trans first _ ih ih' =>
    have one := ih h distinct
    have two := ih' h ((first.map _).nodup_iff.mp distinct)
    refine ⟨one.state.trans two.state, one.sources.trans two.sources, fun awaited => ?_⟩
    exact (one.wholes awaited).trans
      (two.wholes fun r member => awaited r (first.mem_iff.mpr member))

end TakeAll

end HubState

variable {σ α : Type}

namespace Hub

open HubAct

def Leaves (told : σ → List TelemetryEvent) (x y : Hub × σ) : Prop :=
  x.1.held = false → y.1 = x.1 ∧ told y.2 = told x.2

end Hub

/-- A host with a clock that stands still, which keeps the events that its sink is told, does not
fail and leaves the hub alone. -/
structure Host.Recording (host : Host σ) (told : σ → List TelemetryEvent) (now : Number) : Prop
    extends host.Steady where
  clock : ∀ h, host.now h = now
  record : ∀ e x, ∃ h, (host.emit e).run x = (.ok (), x.1, h) ∧ told h = told x.2 ++ [e]
  log : ∀ line h, told (host.log line h) = told h
  cancel : ∀ task h, told (host.cancel task h) = told h
  listen : ∀ listener v, Act.Moves (Hub.Leaves told) (host.listen listener v)
  onError : ∀ f message, Act.Moves (Hub.Leaves told) (host.onError f message)

theorem Host.Recording.records {host : Host σ} {told : σ → List TelemetryEvent} {now : Number}
    (h : host.Recording told now) : host.Records told := ⟨h.record, h.log, h.cancel⟩

namespace Hub

open HubAct

variable {host : Host σ} {setup : Setup} {told : σ → List TelemetryEvent} {now : Number}
  {session : Option String} {x : Hub × σ} {r : Reply}

theorem Leaves.refl (x : Hub × σ) : Leaves told x x := fun _ => ⟨rfl, rfl⟩

theorem Leaves.trans (x y z : Hub × σ) (h : Leaves told x y) (k : Leaves told y z) :
    Leaves told x z := by
  intro free
  obtain ⟨same, still⟩ := h free
  obtain ⟨same', still'⟩ := k (same ▸ free)
  exact ⟨same'.trans same, still'.trans still⟩

section Recording

variable (recording : host.Recording told now)
include recording

theorem log_leaves (line : LogLine) : Act.Moves (Leaves told) (log host line) :=
  fun x _ => ⟨rfl, recording.log line x.2⟩

theorem view_leaves (group : UserGroup) : Act.Moves (Leaves told) (view host setup group) := by
  intro x free
  by_cases enabled : setup.settings.enabled = true
  · rw [run_view_of_free host enabled free group]
    exact ⟨rfl, told_logged recording.records _ x.2⟩
  · rw [view, if_neg enabled]
    exact ⟨rfl, rfl⟩

theorem notifyIf_leaves (setup : Setup) (changed : Bool) :
    Act.Moves (Leaves told) (notifyIf host setup changed) := by
  rw [notifyIf]
  split
  · apply Act.moves_bind Leaves.trans (Act.moves_get Leaves.refl)
    intro x
    apply Act.moves_forM Leaves.refl Leaves.trans
    intro subscription _
    refine Act.moves_tryCatch Leaves.trans ?_ fun f => log_leaves recording _
    exact Act.moves_bind Leaves.trans (view_leaves recording subscription.group) fun v =>
      recording.listen subscription.listener v
  · exact Act.moves_pure Leaves.refl ()

theorem run_reply_taken {c : Change HubState Bool}
    (changes : x.1.state.messageChange? setup now (r.message session) = some c) :
    ∃ outcome h, (applyMessage host setup (r.message session)).run x =
        (outcome, { x.1 with state := c.after }, h) ∧
      told h = told x.2 ++ emitted setup c.events := by
  obtain ⟨h, ran, kept⟩ := run_perform_records recording.records setup c x
  obtain ⟨key, _ | payload⟩ := r
  · cases HubState.accepts_of_messageChange? changes with
    | sourceError enabled known =>
      obtain ⟨source, found⟩ := Option.isSome_iff_exists.mp known
      refine ⟨_, h, Eq.trans ?_ ran, kept⟩
      rw [Reply.message, applyMessage, run_requireEnabled_bind x enabled, applyError, found]
      dsimp only
      rw [run_getState_bind, run_now_bind, recording.clock]
  · cases HubState.accepts_of_messageChange? changes with
    | sourceData enabled accepted =>
      rw [Reply.message, applyMessage, run_requireEnabled_bind x enabled,
        run_applyData host accepted, recording.clock]
      rw [HubState.takeReport] at ran kept ⊢
      split at ran
      · next spelled =>
        rw [if_pos spelled] at kept
        rw [if_pos spelled, if_pos spelled]
        exact ⟨_, h, ran, kept⟩
      · next garbled =>
        rw [if_neg garbled, if_neg garbled]
        refine ⟨_, x.2, rfl, ?_⟩
        rw [emitted, Change.events_nil, ite_self, List.append_nil]

omit recording in
theorem run_reply_refused (host : Host σ)
    (refused : x.1.state.messageChange? setup now (r.message session) = none) :
    ∃ f, (applyMessage host setup (r.message session)).run x = (.error f, x) := by
  obtain ⟨key, _ | payload⟩ := r
  · simp only [Reply.message, HubState.messageChange?] at refused ⊢
    by_cases enabled : setup.settings.enabled = true
    · rw [applyMessage, run_requireEnabled_bind x enabled, applyError]
      cases known : setup.registry.source? key.sourceId with
      | none => exact ⟨_, rfl⟩
      | some source => simp [enabled, known] at refused
    · exact ⟨_, run_requireEnabled_refused x enabled _ _⟩
  · simp only [Reply.message, HubState.messageChange?] at refused ⊢
    by_cases enabled : setup.settings.enabled = true
    · rw [applyMessage, run_requireEnabled_bind x enabled, applyData, run_getState_bind]
      rw [if_pos enabled] at refused
      cases accepted : x.1.state.acceptPayload setup.registry key payload with
      | error e => exact ⟨_, rfl⟩
      | ok report =>
        rw [accepted] at refused
        cases refused
    · exact ⟨_, run_requireEnabled_refused x enabled _ _⟩

/-- What a reply makes of the hub, and of the events that are kept. -/
structure Took (setup : Setup) (told : σ → List TelemetryEvent) (x y : Hub × σ)
    (outcome : HubState × List TelemetryEvent) : Prop where
  hub : y.1 = { x.1 with state := outcome.1 }
  told : told y.2 = told x.2 ++ emitted setup outcome.2

/-- A reply that is handled while the gate is free, whatever else is waiting, and whether it is taken,
refused, or fails over a garbled id. -/
theorem run_handle_reply (free : x.1.held = false) :
    Took setup told x (((inbox host setup).handle (r.message session)).run x).2
      (x.1.state.take setup now session r) := by
  rw [HubState.take]
  have handles : (inbox host setup).handle (r.message session) =
      gate.run (applyMessage host setup (r.message session)) >>= notifyIf host setup := rfl
  rw [handles]
  cases changes : x.1.state.messageChange? setup now (r.message session) with
  | some c =>
    obtain ⟨outcome, h, ran, kept⟩ :=
      run_reply_taken (x := ({ x.1 with held := true }, x.2)) recording changes
    have applied := run_gate_of_ran free ran
    cases outcome with
    | error f =>
      rw [Act.run_bind_error applied]
      exact ⟨rfl, kept⟩
    | ok changed =>
      have left := notifyIf_leaves recording setup changed ({ x.1 with state := c.after }, h) free
      rw [Act.run_bind_ok applied]
      exact ⟨left.1, left.2.trans kept⟩
  | none =>
    obtain ⟨f, failed⟩ := run_reply_refused (x := ({ x.1 with held := true }, x.2)) host changes
    rw [Act.run_bind_error (run_gate_of_ran free failed)]
    refine ⟨rfl, ?_⟩
    rw [emitted, ite_self, List.append_nil]

/-- A reply that comes while nothing is waiting. -/
theorem receive_reply (free : x.1.held = false) (empty : x.1.mailbox = .empty) :
    Took setup told x ((run host setup (.receive (r.message session))).run x).2
      (x.1.state.take setup now session r) := by
  let w : Hub × σ := ({ x.1 with mailbox := ⟨[r.message session], true⟩ }, x.2)
  have ran (result : Except Fault Unit) (y : Hub × σ)
      (received : (receive host setup (r.message session)).run x = (result, y)) :
      ((run host setup (.receive (r.message session))).run x).2 = y := by
    rw [run, Act.run_map, received]
  have emptied (y : Hub × σ) (s : HubState)
      (left : y.1 = { (queued [] w).1 with state := s }) :
      ({ y.1 with mailbox := { y.1.mailbox with draining := false } } : Hub) =
        { x.1 with state := s } := by
    rw [left]
    obtain ⟨⟨state, held, mailbox, subscriptions⟩, h⟩ := x
    cases empty
    rfl
  have took : Took setup told (queued [] w)
      (((inbox host setup).handle (r.message session)).run (queued [] w)).2
      (x.1.state.take setup now session r) :=
    run_handle_reply (x := queued [] w) recording free
  rcases handled : ((inbox host setup).handle (r.message session)).run (queued [] w) with ⟨f | _, y⟩
  · rw [handled] at took
    obtain ⟨line, drained⟩ := drain_of_failed (x := w) rfl handled (host.mayPost x.2)
    have free' : y.1.held = false := took.hub ▸ free
    obtain ⟨left, still⟩ := recording.onError f (r.message session) (y.1, host.log line y.2) free'
    have told_y := (recording.log line y.2).trans took.told
    rcases reported : (host.onError f (r.message session)).run (y.1, host.log line y.2) with
      ⟨g | u, z⟩
    · rw [reported] at left still
      rw [Act.run_bind_error reported] at drained
      rw [ran _ _ (run_receive_failed empty drained)]
      exact ⟨emptied z _ (left.trans took.hub), still.trans told_y⟩
    · rw [reported] at left still
      have gone : z.1.mailbox.queue = [] :=
        congrArg (·.mailbox.queue) (left.trans took.hub)
      rw [Act.run_bind_ok reported, drain_of_empty gone] at drained
      rw [ran _ _ (run_receive empty drained)]
      exact ⟨emptied z _ (left.trans took.hub), (recording.log _ _).trans (still.trans told_y)⟩
  · rw [handled] at took
    have gone : y.1.mailbox.queue = [] := congrArg (·.mailbox.queue) took.hub
    have drained := drain_of_handled (x := w) rfl handled (host.mayPost x.2)
    rw [drain_of_empty gone] at drained
    rw [ran _ _ (run_receive empty drained)]
    exact ⟨emptied y _ took.hub, (recording.log _ _).trans took.told⟩

end Recording

/-- What holds for each reply holds for all of them, as long as the hub keeps to what it needs. -/
theorem foldl_took {P : Hub → Prop} (kept : ∀ hub s, P hub → P { hub with state := s })
    {step : Hub × σ → Reply → Hub × σ}
    (took : ∀ x r, P x.1 → Took setup told x (step x r) (x.1.state.take setup now session r))
    (start : P x.1) (replies : List Reply) :
    Took setup told x (replies.foldl step x)
      (x.1.state.takeAll setup now session replies) := by
  induction replies generalizing x with
  | nil =>
    refine ⟨rfl, ?_⟩
    rw [List.foldl_nil, HubState.takeAll, emitted, ite_self, List.append_nil]
  | cons r rest ih =>
    have first := took x r start
    have last := ih (x := step x r) (by rw [first.hub]; exact kept _ _ start)
    rw [List.foldl_cons, HubState.takeAll]
    constructor
    · rw [last.hub, first.hub]
    · rw [last.told, first.told, first.hub, List.append_assoc, emitted, emitted, emitted]
      split <;> rfl

def handled (host : Host σ) (setup : Setup) (session : Option String) (x : Hub × σ)
    (replies : List Reply) : Hub × σ :=
  replies.foldl (fun x r => (((inbox host setup).handle (r.message session)).run x).2) x

def received (host : Host σ) (setup : Setup) (session : Option String) (x : Hub × σ)
    (replies : List Reply) : Hub × σ :=
  replies.foldl (fun x r => ((run host setup (.receive (r.message session))).run x).2) x

theorem handled_took (recording : host.Recording told now) (free : x.1.held = false)
    (replies : List Reply) :
    Took setup told x (handled host setup session x replies)
      (x.1.state.takeAll setup now session replies) :=
  foldl_took (P := fun hub => hub.held = false) (fun _ _ free => free)
    (fun _ _ free => run_handle_reply recording free) free replies

theorem received_took (recording : host.Recording told now) (free : x.1.held = false)
    (empty : x.1.mailbox = .empty) (replies : List Reply) :
    Took setup told x (received host setup session x replies)
      (x.1.state.takeAll setup now session replies) :=
  foldl_took (P := fun hub => hub.held = false ∧ hub.mailbox = .empty) (fun _ _ idle => idle)
    (fun _ _ idle => receive_reply recording idle.1 idle.2) ⟨free, empty⟩ replies

/-- Two ways of the same hub come to the same: whoever looks by keys finds the same, every group is
shown the same, the same was told of sources, and if every source was awaited, the refresh ended in
the same way. -/
structure ComeToSame (host : Host σ) (setup : Setup) (told : σ → List TelemetryEvent)
    (awaited : Prop) (y z : Hub × σ) : Prop where
  state : y.1.state.Similar z.1.state
  views : ∀ group, ∃ (looked : Except Fault View) (h h' : σ),
    (run host setup (.view group)).run y = (looked.map .view, y.1, h) ∧
      (run host setup (.view group)).run z = (looked.map .view, z.1, h')
  sources : ((told y.2).filter (·.isSourceRefresh)).Perm ((told z.2).filter (·.isSourceRefresh))
  wholes : awaited →
    (told y.2).filter (·.isWholeRefresh) = (told z.2).filter (·.isWholeRefresh)

theorem comeToSame_of_took (host : Host σ) (free : x.1.held = false) {awaited : Prop}
    {y z : Hub × σ} {p q : HubState × List TelemetryEvent}
    (same : HubState.SameOutcome awaited p q) (one : Took setup told x y p)
    (two : Took setup told x z q) : ComeToSame host setup told awaited y z := by
  have similar : y.1.state.Similar z.1.state := by
    rw [one.hub, two.hub]
    exact same.state
  refine ⟨similar, fun group => ?_, ?_, fun awaited => ?_⟩
  · obtain ⟨h, before⟩ := run_look host setup (x := y) (by rw [one.hub]; exact free) group
    obtain ⟨h', after⟩ := run_look host setup (x := z) (by rw [two.hub]; exact free) group
    refine ⟨_, h, h', before, after.trans ?_⟩
    rw [shown, shown, similar.draw]
  · rw [one.told, two.told, List.filter_append, List.filter_append, emitted, emitted]
    apply List.Perm.append_left
    split
    · exact same.sources
    · exact .refl _
  · rw [one.told, two.told, List.filter_append, List.filter_append, emitted, emitted]
    congr 1
    split
    · exact same.wholes awaited
    · rfl

/-- The order in which sources reply does not matter: however the hub came to its state, replies of
different sources or users, valid or not, that all bear the same session or none, come to the same
in any order in which they are handled, and so in any order in which they come to an idle inbox. -/
theorem replies_commute (recording : host.Recording told now) {faultless : Prop}
    {history : List Entered}
    (ran : Execution setup faultless (.initial setup.settings) history x.1.state)
    (free : x.1.held = false) (session : Option String) {replies replies' : List Reply}
    (perm : replies.Perm replies') (distinct : (replies.map (·.key)).Nodup) :
    ComeToSame host setup told (x.1.state.Awaits replies) (handled host setup session x replies)
        (handled host setup session x replies') ∧
      (x.1.mailbox = .empty →
        ComeToSame host setup told (x.1.state.Awaits replies)
          (received host setup session x replies) (received host setup session x replies')) := by
  have sound := (HubState.sound_initial setup).execution ran
  have same := HubState.takeAll_perm now session perm sound distinct
  refine ⟨?_, fun empty => ?_⟩
  · exact comeToSame_of_took host free same (handled_took recording free replies)
      (handled_took recording free replies')
  · exact comeToSame_of_took host free same (received_took recording free empty replies)
      (received_took recording free empty replies')

theorem diary_recording : diary.Recording (·.events) 0 where
  toSteady := diary_steady
  clock := fun _ => rfl
  record := diary_records.record
  log := diary_records.log
  cancel := diary_records.cancel
  listen := fun _ _ _ _ => ⟨rfl, rfl⟩
  onError := fun _ _ _ _ => ⟨rfl, rfl⟩

/-- Two sources answer a refresh, one with data and one with a failure: whichever comes last ends
the refresh, and it ends with an error. -/
theorem replies_commute_refresh :
    let wifi : Source :=
      ⟨"wifi", .primary, false, .issueOnly ⟨"net", .criticalWarning, true, true⟩⟩
    let bluetooth : Source :=
      ⟨"bluetooth", .primary, false, .issueOnly ⟨"net", .criticalWarning, true, true⟩⟩
    let setup : Setup := ⟨⟨[⟨"network", .hidden, none, none, .none, [wifi, bluetooth]⟩]⟩,
      .configured, ⟨true, true, [], .default, false⟩⟩
    let x := ((run diary setup (.refresh .rescanButton ⟨1, []⟩)).run
      (.initial setup.settings, (⟨[], [], []⟩ : Diary))).2
    let data : Reply := ⟨⟨"wifi", 1⟩, some (.object [])⟩
    let failure : Reply := ⟨⟨"bluetooth", 1⟩, none⟩
    let y := received diary setup (some "u_0") x [data, failure]
    let z := received diary setup (some "u_0") x [failure, data]
    x.1.state.Awaits [data, failure] ∧ y.2.events ≠ z.2.events ∧
      (y.2.events.filter (·.isWholeRefresh)).length = 1 ∧
      ComeToSame diary setup (·.events) (x.1.state.Awaits [data, failure]) y z := by
  intro wifi bluetooth setup x data failure y z
  have orderly : diary.Orderly setup False := diary_orderly setup False
  obtain ⟨entries, reached⟩ := (Reached.start (⟨[], [], []⟩ : Diary)).next orderly
    (.refresh .rescanButton ⟨1, []⟩)
  change Reached diary setup False _ x at reached
  have empty : x.1.mailbox = .empty := by
    have idle : x.1.mailbox.queue.isEmpty = true ∧ x.1.mailbox.draining = false := by
      decide +kernel
    generalize x.1.mailbox = box at idle
    obtain ⟨_ | _, _ | _⟩ := box <;> simp_all [Mailbox.empty]
  have commute := replies_commute diary_recording (reached.execution orderly)
    (reached.free orderly) (some "u_0") (.swap failure data []) (by decide +kernel)
  have asked : x.1.state.coordinator.inFlightKeys = [⟨"wifi", 1⟩, ⟨"bluetooth", 1⟩] := by
    decide +kernel
  have awaits : x.1.state.Awaits [data, failure] := by
    intro r member
    rw [asked]
    rcases List.mem_cons.mp member with rfl | last
    · exact List.mem_cons_self
    · obtain rfl := List.mem_singleton.mp last
      exact List.mem_cons_of_mem _ List.mem_cons_self
  exact ⟨awaits, by decide +kernel, by decide +kernel, commute.2 empty⟩

end Hub

end SafetyBoard
