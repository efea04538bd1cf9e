import SafetyBoard.Proofs.Hub.Reached
import SafetyBoard.Proofs.Hub.Refusal
import SafetyBoard.Proofs.Hub.Sound
import SafetyBoard.Proofs.View.Reads

/-!
# Removing a user

Removing a user takes everything of the user out of every part of a hub and leaves everything of the
others as it was and where it was. A session goes with its parent or with the last user it awaits.
Nothing is told to the telemetry, and who is in no group with the user is shown what was shown
before.
-/

namespace SafetyBoard

namespace Coordinator

/-- The session of a removed parent is dropped, and so is one that awaits nobody else; otherwise it
awaits the others. -/
theorem clearForUser_session {c : Coordinator} {s : Session} (open_ : c.session = some s)
    {user : UserId} (defined : user ≠ .undefined) :
    let after := (c.clearForUser user).2.session
    (after = none ↔ s.group.parent = user ∨ ∀ key ∈ s.keys, key.userId = user) ∧
      ∀ left, after = some left → left = { s with inFlight := left.inFlight } ∧
        left.keys = s.keys.filter (·.userId ≠ user) := by
  have kept : (s.inFlight.filter fun _ a => a.key.userId ≠ user).values.map (·.key) =
      s.keys.filter (·.userId ≠ user) := by
    simp [Session.keys, Table.values, Table.filter, List.filter_map, Function.comp_def]
  have alone : (s.inFlight.filter fun _ a => a.key.userId ≠ user).isEmpty = true ↔
      ∀ key ∈ s.keys, key.userId = user := by
    rw [← Session.keys_eq_nil (s := { s with
      inFlight := s.inFlight.filter fun _ a => a.key.userId ≠ user }), Session.keys, kept]
    simp
  dsimp only
  rw [clearForUser, open_]
  simp only [Number.equals_of_defined defined, decide_eq_true_iff, ← decide_not]
  split
  · next parent =>
    refine ⟨iff_of_true rfl (Or.inl parent), fun left still => ?_⟩
    cases still
  · next parent =>
    split
    · next gone =>
      refine ⟨iff_of_true rfl (Or.inr (alone.mp gone)), fun left still => ?_⟩
      cases still
    · next others =>
      have neither := not_or.mpr ⟨parent, alone.not.mp others⟩
      refine ⟨iff_of_false (Option.some_ne_none _) neither, fun left still => ?_⟩
      cases still
      exact ⟨rfl, kept⟩

end Coordinator

namespace HubState

/-- What is left of a state when it forgets a user. The lists are those of the tables, in order. -/
structure Forgets (user : UserId) (s t : HubState) : Prop where
  reports : t.store.reports.entries = s.store.reports.entries.filter (·.2.key.userId ≠ user)
  errors : t.store.errors.entries = s.store.errors.entries.filter (·.2.userId ≠ user)
  actions : t.store.actionsInFlight.entries =
    s.store.actionsInFlight.entries.filter (·.2.issue.userId ≠ user)
  records : t.ledger.records.entries = s.ledger.records.entries.filter (·.2.issue.userId ≠ user)
  get? : ∀ key, t.store.get? key = if key.userId = user then none else s.store.get? key
  hasError : ∀ key, t.store.hasError key = (key.userId ≠ user && s.store.hasError key)
  inFlight : ∀ action, t.store.isActionInFlight action =
    (action.issue.userId ≠ user && s.store.isActionInFlight action)
  record? : ∀ issue,
    t.ledger.record? issue = if issue.userId = user then none else s.ledger.record? issue
  awaited : ∀ key ∈ t.coordinator.inFlightKeys, key.userId ≠ user
  unopened : s.coordinator.session = none → t.coordinator.session = none
  session : ∀ opened, s.coordinator.session = some opened →
    (t.coordinator.session = none ↔
      opened.group.parent = user ∨ ∀ key ∈ opened.keys, key.userId = user) ∧
    ∀ left, t.coordinator.session = some left → left = { opened with inFlight := left.inFlight } ∧
      left.keys = opened.keys.filter (·.userId ≠ user)
  groups : ∀ parent, t.groups.get? parent =
    if user = parent then none else (s.groups.get? parent).map (·.dropManaged user)
  strangers : ∀ group ∈ t.groups.values, user ∉ group.users

section Forget

variable {setup : Setup} {s : HubState}

theorem Forgets.gone {user : UserId} {t : HubState} (h : s.Forgets user t) {key : SourceKey}
    (own : key.userId = user) : t.store.get? key = none := by
  rw [h.get?, if_pos own]

theorem forgotten_groups (s : HubState) (user parent : UserId) :
    (s.forgetUser user).groups.get? parent =
      if user = parent then none else (s.groups.get? parent).map (·.dropManaged user) := by
  rw [forgetUser, Table.get?_mapValues, Table.get?_erase]
  split <;> rfl

theorem forgotten_strangers (named : s.groups.NamedBy (·.parent)) {user : UserId}
    (defined : user ≠ .undefined) {group : UserGroup}
    (known : group ∈ (s.forgetUser user).groups.values) :
    user ∉ group.users := by
  obtain ⟨parent, found⟩ := Table.mem_values_iff.mp known
  rw [forgotten_groups] at found
  split at found
  · cases found
  · next other =>
    obtain ⟨old, stood, rfl⟩ := Option.map_eq_some_iff.mp found
    have own : parent = old.parent := named parent old stood
    intro member
    rcases List.mem_cons.mp member with same | managed
    · exact other (same.trans own.symm)
    · obtain ⟨p, kept, same⟩ := List.mem_map.mp managed
      have dropped := (List.mem_filter.mp kept).2
      simp [Number.equals_of_defined defined, same] at dropped

theorem clearForUser_forgets (sound : s.Sound setup) {user : UserId}
    (defined : user ≠ .undefined) : s.Forgets user (s.clearForUser user).after := by
  have own (other : UserId) : other.equals user = decide (other = user) :=
    Number.equals_of_defined defined
  obtain ⟨store, ledger, groups⟩ := (s.clearForUser_sameData user).2
  have coordinator := (s.clearForUser_after user).1
  refine
    { reports := (congrArg (·.reports.entries) store).trans ?_
      errors := (congrArg (·.errors.entries) store).trans ?_
      actions := (congrArg (·.actionsInFlight.entries) store).trans ?_
      records := (congrArg (·.records.entries) ledger).trans ?_
      get? := fun key => ?_
      hasError := fun key => ?_
      inFlight := fun action => ?_
      record? := fun issue => ?_
      awaited := ?_
      unopened := fun closed => ?_
      session := fun opened open_ => ?_
      groups := fun parent => ?_
      strangers := fun group known => ?_ }
  · simp [forgetUser, withoutUser, ReportStore.clearForUser, Table.filter, own]
  · simp [forgetUser, withoutUser, ReportStore.clearForUser, Table.filter, own]
  · simp [forgetUser, withoutUser, ReportStore.clearForUser, Table.filter, own]
  · simp [forgetUser, withoutUser, DismissalLedger.clearForUser, DismissalLedger.keep,
      Table.filter, own]
  · have left := ReportStore.get?_clearForUser sound.store.keyed user key
    simp only [own, decide_eq_true_iff] at left
    rw [store]
    exact left
  · have left := ReportStore.hasError_clearForUser sound.store.keyed user key
    rw [own, ← decide_not] at left
    rw [store]
    exact left
  · have left := ReportStore.isActionInFlight_clearForUser sound.store.keyed user action
    rw [own, ← decide_not] at left
    rw [store]
    exact left
  · have left := DismissalLedger.record?_clearForUser sound.ledger user issue
    simp only [own, decide_eq_true_iff] at left
    rw [ledger]
    exact left
  · intro key awaited
    rw [coordinator, Coordinator.inFlightKeys] at awaited
    cases opened : s.coordinator.session with
    | none =>
      rw [Coordinator.clearForUser_of_closed opened, opened] at awaited
      cases awaited
    | some session =>
      split at awaited
      · next left still =>
        rw [((Coordinator.clearForUser_session opened defined).2 left still).2] at awaited
        exact of_decide_eq_true (List.mem_filter.mp awaited).2
      · cases awaited
  · rw [coordinator, Coordinator.clearForUser_of_closed closed]
    exact closed
  · rw [coordinator]
    exact Coordinator.clearForUser_session open_ defined
  · rw [groups]
    exact forgotten_groups (s.withoutUser user) user parent
  · rw [groups] at known
    exact forgotten_strangers (s := s.withoutUser user) sound.groups defined known

theorem clearForUser_events (s : HubState) (user : UserId) : (s.clearForUser user).events = [] := by
  have quiet (t : HubState) : t.cancelPending.events = [] := by
    rw [cancelPending]
    split <;> rfl
  dsimp only [clearForUser]
  rw [Change.events_andThen]
  split
  · rw [quiet]
    rfl
  · rfl

theorem sameFor_of_forgets {t : HubState} {user : UserId} (h : s.Forgets user t)
    {group : UserGroup} (stranger : user ∉ group.users) :
    View.SameFor group s.store t.store s.ledger t.ledger := by
  have other {member : UserId} (own : member ∈ group.users) : member ≠ user :=
    fun same => stranger (same ▸ own)
  refine ⟨⟨fun key own => ?_, fun key own => ?_, fun key report issue own _ _ _ => ?_⟩,
    fun action own => ?_⟩
  · rw [h.get?, if_neg (other own)]
  · rw [h.hasError, decide_eq_true (other own), Bool.true_and]
  · rw [DismissalLedger.isDismissed, h.record?, if_neg (other own), DismissalLedger.isDismissed]
  · rw [h.inFlight, decide_eq_true (other own), Bool.true_and]

end Forget

end HubState

namespace Hub

open HubAct

variable {σ : Type} {host : Host σ} {setup : Setup} {x : Hub × σ}

theorem sameLook_of_forgets {user : UserId} {s t : HubState} (h : s.Forgets user t)
    {group : UserGroup} (stranger : user ∉ group.users) :
    View.SameLook (shown setup s group) (shown setup t group) := by
  rw [shown, shown]
  split
  · exact View.draw_sameLook (HubState.sameFor_of_forgets h stranger) _ _
  · exact .refl _

def removed (host : Host σ) (user : UserId) (x : Hub × σ) : Hub × σ :=
  ({ x.1 with state := (x.1.state.clearForUser user).after },
    host.heard (x.1.state.clearForUser user).signals x.2)

theorem run_applyClearForUser (free : x.1.held = false) (user : UserId) :
    (gate.run (applyClearForUser host setup user)).run x = (.ok true, removed host user x) := by
  refine run_gate_of_ran free ?_
  rw [applyClearForUser, run_getState_bind]
  exact run_perform_of_quiet host _ (x.1.state.clearForUser_events user)

theorem run_clearForUser (free : x.1.held = false) (user : UserId) :
    (run host setup (.clearForUser user)).run x =
      (do notify host setup; return .nothing : HubAct σ Answer).run (removed host user x) := by
  have went : (clearForUser host setup user).run x =
      (notify host setup).run (removed host user x) :=
    Act.run_bind_ok (run_applyClearForUser free user) _
  rw [run, ← bind_pure_comp, Act.run_bind_congr went]

/-- The message is taken from the inbox, the user removed, and then the inbox is drained on. -/
theorem drain_userRemoved (free : x.1.held = false) {user : UserId} {rest : List Message}
    (waiting : x.1.mailbox.queue = .userRemoved user :: rest) (turns : Nat) :
    ((inbox host setup).drain (turns + 1)).run x =
      (do notify host setup; (inbox host setup).drain turns : HubAct σ Unit).run
        (removed host user (queued rest x)) := by
  have handled : ((inbox host setup).handle (.userRemoved user)).run (queued rest x) =
      (notify host setup).run (removed host user (queued rest x)) :=
    Act.run_bind_ok (run_applyClearForUser (x := queued rest x) free user) (notifyIf host setup)
  obtain ⟨u, y, told⟩ := sure_notify host setup
    (removed host user (queued rest x))
  rw [drain_of_handled waiting (handled.trans told)]
  exact (Act.run_bind_ok told fun _ => (inbox host setup).drain turns).symm

/-- Removal is complete and isolated, however the hub came to its state and whether an operation or a
message removes the user: of the user nothing is left, what belongs to others is as it was and where
it was, no event is told, and a group without the user is shown the same. -/
theorem user_removed_completely {faultless : Prop} {history : List Entered}
    (ran : Execution setup faultless (.initial setup.settings) history x.1.state)
    (free : x.1.held = false) {user : UserId} (defined : user ≠ .undefined) :
    x.1.state.Forgets user (removed host user x).1.state ∧
      (x.1.state.clearForUser user).events = [] ∧
      (run host setup (.clearForUser user)).run x =
        (do notify host setup; return .nothing : HubAct σ Answer).run (removed host user x) ∧
      (∀ rest turns, x.1.mailbox.queue = .userRemoved user :: rest →
        ((inbox host setup).drain (turns + 1)).run x =
          (do notify host setup; (inbox host setup).drain turns : HubAct σ Unit).run
            (removed host user (queued rest x))) ∧
      ∀ group, user ∉ group.users → ∃ (looked looked' : Except Fault View) (h h' : σ),
        (run host setup (.view group)).run x = (looked.map .view, x.1, h) ∧
        (run host setup (.view group)).run (removed host user x) =
          (looked'.map .view, (removed host user x).1, h') ∧ View.SameLook looked looked' := by
  have forgets := HubState.clearForUser_forgets
    ((HubState.sound_initial setup).execution ran) defined
  refine ⟨forgets, x.1.state.clearForUser_events user, run_clearForUser free user, ?_, ?_⟩
  · exact fun rest turns waiting => drain_userRemoved free waiting turns
  · intro group stranger
    obtain ⟨h, before⟩ := run_look host setup free group
    obtain ⟨h', after⟩ := run_look host setup (x := removed host user x) free group
    exact ⟨_, _, h, h', before, after, sameLook_of_forgets forgets stranger⟩

/-- A managed profile is removed in the middle of a refresh, which goes on for its parent. -/
theorem user_removed_completely_profile :
    let source : Source :=
      ⟨"wifi", .all, true, .issueOnly ⟨"net", .criticalWarning, true, true⟩⟩
    let setup : Setup := ⟨⟨[⟨"network", .hidden, none, none, .none, [source]⟩]⟩, .configured,
      ⟨true, true, [], .default, false⟩⟩
    let w := ((run silent setup (.setSourceData ⟨"wifi", 2⟩ (.object []) none)).run
      (.initial setup.settings, ())).2
    let x := ((run silent setup (.refresh .rescanButton ⟨1, [⟨2, true⟩]⟩)).run w).2
    let y := removed silent 2 x
    (x.1.state.store.get? ⟨"wifi", 2⟩).isSome = true ∧
      x.1.state.coordinator.inFlightKeys = [⟨"wifi", 1⟩, ⟨"wifi", 2⟩] ∧
      y.1.state.store.get? ⟨"wifi", 2⟩ = none ∧
      (∀ key ∈ y.1.state.coordinator.inFlightKeys, key.userId ≠ 2) ∧
      y.1.state.coordinator.session ≠ none ∧
      ∀ group ∈ y.1.state.groups.values, 2 ∉ group.users := by
  intro source setup w x y
  have orderly := silent_orderly setup False
  have reported : Reached silent setup False _ w :=
    (Reached.start ()).quietly (silent.now ()) (by decide +kernel)
  obtain ⟨entries, reached⟩ := reported.next orderly (.refresh .rescanButton ⟨1, [⟨2, true⟩]⟩)
  change Reached silent setup False _ x at reached
  have forgets : x.1.state.Forgets 2 y.1.state :=
    (user_removed_completely (x := x) (reached.execution orderly) (reached.free orderly)
      (Number.ofInt_defined 2)).1
  refine ⟨by decide +kernel, by decide +kernel, forgets.gone rfl, forgets.awaited, ?_, ?_⟩
  · decide +kernel
  · exact forgets.strangers

/-- A user without an id equals no user, so nothing of such a user is removed. -/
theorem undefined_user_not_removed :
    let source : Source :=
      ⟨"wifi", .primary, false, .issueOnly ⟨"net", .criticalWarning, true, true⟩⟩
    let setup : Setup := ⟨⟨[⟨"network", .hidden, none, none, .none, [source]⟩]⟩, .configured,
      ⟨true, true, [], .default, false⟩⟩
    let report : Operation := .setSourceData ⟨"wifi", .undefined⟩ (.object []) none
    let remove : Operation := .clearForUser .undefined
    let x := ((run silent setup report).run (.initial setup.settings, ())).2
    let y := ((run silent setup remove).run x).2
    Reached silent setup False [⟨.initial setup.settings, report⟩, ⟨x.1.state, remove⟩] y ∧
      y.1.state.store.get? ⟨"wifi", .undefined⟩ = some ⟨none, []⟩ := by
  intro source setup report remove x y
  have reported : Reached silent setup False [⟨.initial setup.settings, report⟩] x :=
    (Reached.start ()).quietly 0 (by decide +kernel)
  exact ⟨reported.quietly 0 (by decide +kernel), by decide +kernel⟩

end Hub

end SafetyBoard
