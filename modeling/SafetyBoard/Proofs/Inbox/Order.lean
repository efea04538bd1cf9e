import SafetyBoard.Hub.Operations
import SafetyBoard.Proofs.Inbox.Script

/-!
# The order in which an inbox handles its messages

Posts from outside come one after another, and each drains the mailbox before it comes back. So a
whole sequence of them is seen as one turn for each message, and the messages are handled in the
order in which they were posted, from outside or by a callback, each of them once. The inbox of a
hub is one of these.
-/

namespace SafetyBoard

namespace Desk

variable {σ μ β : Type} {desk : Desk σ μ β} {P : μ → Prop} {s : σ} {outer : List μ}

/-- What is seen of outermost posts: after each of them come the turns of its draining, in which
just this message and those posted on the way are handled, before the next is made. -/
inductive InTurns : List μ → List (Event μ) → Prop where
  | nil : InTurns [] []
  | post {message : μ} {rest : List μ} {events more : List (Event μ)} :
      Turns events → handledIn events = message :: postedIn events → InTurns rest more →
        InTurns (message :: rest) (.posted message :: (events ++ more))

theorem InTurns.order {events : List (Event μ)} (seen : InTurns outer events) :
    handledIn events = postedIn events := by
  induction seen with
  | nil => rfl
  | @post message _ events more _ order _ ih =>
    calc handledIn (.posted message :: (events ++ more))
        = handledIn events ++ handledIn more := by
          rw [handledIn_posted, handledIn_append]
      _ = (message :: postedIn events) ++ postedIn more := by rw [order, ih]
      _ = postedIn (.posted message :: (events ++ more)) := by
          rw [postedIn_posted, postedIn_append, List.cons_append]

/-- By induction on the posts: each finds the inbox as idle as the one before it has left it. -/
theorem Obliging.seen_posts (ob : desk.Obliging P) (idle : desk.Idle s)
    (may : ∀ message ∈ outer, P message) (ends : desk.inbox.EndsAll outer s)
    (seen : List (Event μ)) :
    ∃ t events, (outer.forM desk.inbox.post).run s = (.ok (), t) ∧
      (outer.forM desk.watchedPost).run (s, seen) = (.ok (), t, seen ++ events) ∧
      InTurns outer events ∧ desk.Idle t := by
  induction outer generalizing s seen with
  | nil => exact ⟨s, [], rfl, by rw [List.append_nil]; rfl, .nil, idle⟩
  | cons message rest ih =>
    obtain ⟨first, others⟩ := ends
    obtain ⟨t, events, posted, noted, turns, order, idle⟩ :=
      ob.posts idle (may message List.mem_cons_self) first
    rw [posted] at others
    obtain ⟨u, more, went_on, watched, later, finally_idle⟩ :=
      ih idle (fun other waits => may other (List.mem_cons_of_mem _ waits)) others
        (seen ++ .posted message :: events)
    refine ⟨u, .posted message :: (events ++ more), ?_, ?_, .post turns order later,
      finally_idle⟩
    · exact (Act.run_bind_ok posted _).trans went_on
    · refine (Act.run_bind_ok (noted seen) _).trans (watched.trans ?_)
      rw [List.append_assoc, List.cons_append]

end Desk

namespace Inbox

theorem scriptedDesk_endsAll {reporting : Reporting} (reports : reporting ≠ .failing)
    {outer : List Letter} {s : Run} (idle : (scriptedDesk reporting).Idle s)
    (calm : ∀ l ∈ outer, l.Calm) : (scriptedDesk reporting).inbox.EndsAll outer s := by
  induction outer generalizing s with
  | nil => trivial
  | cons l rest ih =>
    have first : l.Calm := calm l List.mem_cons_self
    have waiting : (push l s).box.queue = [l] := by
      change s.box.queue ++ [l] = [l]
      rw [show s.box = Mailbox.empty from idle.box]
      rfl
    have ends : (scriptedDesk reporting).inbox.Ends (push l s) := by
      refine ⟨totalWeight (push l s).box.queue,
        ends_within _ ((scripted reporting).setDraining true (push l s)) rfl ?_ (Nat.le_refl _)⟩
      change ∀ other ∈ (push l s).box.queue, other.Calm
      rw [waiting]
      simpa using first
    obtain ⟨t, events, posted, -, -, -, idle⟩ :=
      (scriptedDesk_obliging reports).posts idle first ends
    refine ⟨ends, ?_⟩
    rw [posted]
    exact ih idle fun other waits => calm other (List.mem_cons_of_mem _ waits)

end Inbox

namespace Hub

open HubAct

/-- The desk of a hub: a message is applied behind its gate, and the listeners are told of a change
once the gate is free. -/
def desk {σ : Type} (host : Host σ) (setup : Setup) : Desk (Hub × σ) Message Bool where
  gate := gate
  box x := x.1.mailbox
  setBox mailbox x := ({ x.1 with mailbox }, x.2)
  handler := applyMessage host setup
  followUp _ := notifyIf host setup
  onError := (inbox host setup).report
  drained := (inbox host setup).drained
  turns := (inbox host setup).turns
  box_setBox _ _ := rfl
  held_setBox _ _ := rfl
  box_setHeld _ _ := rfl
  held_setHeld _ _ := rfl
  box_drained _ := rfl
  held_drained _ := rfl

theorem desk_inbox {σ : Type} (host : Host σ) (setup : Setup) :
    (desk host setup).inbox = inbox host setup := rfl

/-- A callback of the hub that hands in a message only posts it. -/
theorem moves_receive {σ : Type} (host : Host σ) (setup : Setup) (message : Message) :
    Act.Moves ((desk host setup).Posts fun _ => True) (receive host setup message) :=
  Desk.moves_post trivial

end Hub

namespace Desk

variable {σ μ β : Type} {desk : Desk σ μ β} {P : μ → Prop} {s : σ} {outer : List μ}

/-- Outermost posts to an idle inbox, seen through watched callbacks that act as the callbacks
themselves do: the messages handled are the messages posted, in the order of the posts and each
once; every message has its turn, its handler behind the gate and what follows it or reports it
outside, before the next is handled; and the inbox is idle again. -/
theorem handled_in_posting_order (ob : desk.Obliging P) (idle : desk.Idle s)
    (may : ∀ message ∈ outer, P message) (ends : desk.inbox.EndsAll outer s) :
    ∃ t events, (outer.forM desk.inbox.post).run s = (.ok (), t) ∧
      (outer.forM desk.watchedPost).run (s, []) = (.ok (), t, events) ∧
      handledIn events = postedIn events ∧ InTurns outer events ∧ desk.Idle t := by
  obtain ⟨t, events, posted, watched, turns, idle⟩ := ob.seen_posts idle may ends []
  exact ⟨t, events, posted, watched, turns.order, turns, idle⟩

/-- Messages are posted by a handler, by what follows it and by a report; one handler fails, and
so does what follows another. -/
theorem handled_in_posting_order_nested :
    let desk := Inbox.scriptedDesk .scripted
    let late : Inbox.Action := .post "late" [.enter] none [.look]
    let refused : Inbox.Action := .post "refused" [late, .fail "boom"] none
      [.post "told" [] none []]
    let first : Inbox.Letter := ⟨"first", [refused], some [.post "next" [] none [], .enter,
      .fail "halfway"], [.look]⟩
    let last : Inbox.Letter := ⟨"last", [], none, []⟩
    desk.Obliging Inbox.Letter.Calm ∧ desk.Idle Inbox.Run.start ∧
      (∀ l ∈ [first, last], l.Calm) ∧ desk.inbox.EndsAll [first, last] Inbox.Run.start ∧
      ∃ t events, ([first, last].forM desk.inbox.post).run Inbox.Run.start = (.ok (), t) ∧
        ([first, last].forM desk.watchedPost).run (Inbox.Run.start, []) = (.ok (), t, events) ∧
        handledIn events = postedIn events ∧ InTurns [first, last] events ∧ desk.Idle t ∧
        (handledIn events).map Inbox.Letter.id =
          ["first", "refused", "next", "late", "told", "last"] := by
  intro desk late refused first last
  have obliging : desk.Obliging Inbox.Letter.Calm :=
    Inbox.scriptedDesk_obliging (by decide)
  have idle : desk.Idle Inbox.Run.start := ⟨rfl, rfl⟩
  have calm : ∀ l ∈ [first, last], l.Calm :=
    List.forall_mem_cons.mpr ⟨⟨rfl, rfl, rfl, rfl⟩,
      List.forall_mem_singleton.mpr ⟨rfl, rfl, rfl, rfl⟩⟩
  have ends : desk.inbox.EndsAll [first, last] Inbox.Run.start :=
    Inbox.scriptedDesk_endsAll (by decide) idle calm
  obtain ⟨t, events, posted, watched, order, turns, idle_again⟩ :=
    handled_in_posting_order obliging idle calm ends
  refine ⟨obliging, idle, calm, ends, t, events, posted, watched, order, turns, idle_again, ?_⟩
  have seen : (handledIn (([first, last].forM desk.watchedPost).run
      (Inbox.Run.start, [])).2.2).map Inbox.Letter.id =
        ["first", "refused", "next", "late", "told", "last"] := by
    decide +kernel
  rwa [watched] at seen

end Desk

end SafetyBoard
