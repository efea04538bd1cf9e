import SafetyBoard.Proofs.Hub.Sound
import SafetyBoard.Proofs.Hub.Stale
import SafetyBoard.Proofs.Source.Config
import SafetyBoard.Proofs.Source.Registry

/-!
# Where errors come from

An error flag is set by a timeout, and then the source was asked to refresh, so that it is one that
reports; or it is set by an error report, for which it is enough that the source is configured. So a
source that only shows what is configured is in error only where an error report has named it, and
there it stays, since it has no data that could take the flag back.
-/

namespace SafetyBoard

def RegistryOf.Reports (r : Registry) (key : SourceKey) : Prop :=
  ∃ source, r.source? key.sourceId = some source ∧ source.isExternal = true

namespace Session

theorem mem_keys_iff {s : Session} {key : SourceKey} :
    key ∈ s.keys ↔ ∃ text a, s.inFlight.get? text = some a ∧ a.key = key := by
  simp only [keys, List.mem_map, Table.mem_values_iff]
  constructor
  · rintro ⟨a, ⟨text, found⟩, own⟩
    exact ⟨text, a, found, own⟩
  · rintro ⟨text, a, found, own⟩
    exact ⟨a, ⟨text, found⟩, own⟩

theorem keys_filter_subset (s : Session) (p : String → Awaited → Bool) :
    ({ s with inFlight := s.inFlight.filter p } : Session).keys ⊆ s.keys := by
  intro key member
  obtain ⟨text, a, found, own⟩ := mem_keys_iff.mp member
  rw [Table.get?_filter, Option.filter_eq_some_iff] at found
  exact mem_keys_iff.mpr ⟨text, a, found.1, own⟩

theorem keys_answered_subset (s : Session) (key : SourceKey) (failed : Bool) :
    (s.answered key failed).keys ⊆ s.keys :=
  s.keys_filter_subset fun text _ => text ≠ key.encode

/-- A session that has just opened awaits only what is marked then. -/
theorem keys_marked_subset {s : Session} (fresh : s.inFlight = ∅) (keys : List SourceKey)
    (now : Number) : (keys.foldl (markOne now) s).keys ⊆ keys := by
  intro key member
  obtain ⟨text, a, found, rfl⟩ := mem_keys_iff.mp member
  rw [foldl_markOne, fresh] at found
  rcases (get?_marked now keys ∅ text a).mp found with ⟨-, -, marked⟩ | ⟨-, before⟩
  · exact marked
  · cases before

end Session

namespace Coordinator

variable {c : Coordinator}

/-- Only a call that awaits more makes the keys in flight more. -/
theorem inFlightKeys_after_subset {call : Call} (eased : call.awaits = false) :
    (c.after call).inFlightKeys ⊆ c.inFlightKeys := by
  intro key member
  rw [inFlightKeys] at member
  split at member
  · next s' open_ =>
    rcases session_after open_ with ⟨unique, reason, group, now, rfl, -⟩ | ⟨s, hs, -, goes_on⟩
    · cases eased
    · obtain ⟨text, a, found, own⟩ := Session.mem_keys_iff.mp member
      rcases goes_on.awaited text a found with old | ⟨-, id, keys, rfl⟩
      · rw [inFlightKeys, hs]
        exact Session.mem_keys_iff.mpr ⟨text, a, old, own⟩
      · cases eased
  · cases member

theorem timeout_result_subset (c : Coordinator) (id : String) (now : Number) :
    (c.timeout id now).result ⊆ c.inFlightKeys := by
  rw [timeout]
  cases current : c.current? id with
  | none => exact List.nil_subset _
  | some s =>
    rw [inFlightKeys, (current?_eq_some.mp current).1]
    dsimp only
    split
    · exact List.nil_subset _
    · exact List.Subset.refl _

/-- A property of all keys in flight, while no more are awaited. -/
theorem eased_inFlight (Q : SourceKey → Prop) : Eased fun c => ∀ key ∈ c.inFlightKeys, Q key where
  after h call eased key member := h key (inFlightKeys_after_subset eased member)
  answered := by
    intro c s h open_ key failed k member
    refine h k ?_
    rw [inFlightKeys, open_]
    exact s.keys_answered_subset key failed member

end Coordinator

namespace HubState

variable {setup : Setup} {faultless : Prop} {s t : HubState}

theorem requests_report (s : HubState) (registry : Registry) (reason : RefreshReason)
    (group : UserGroup) (id : String) :
    ∀ r ∈ s.requests registry reason group id, registry.Reports r.key := by
  intro r asked
  obtain ⟨source, external, member⟩ := List.mem_flatMap.mp asked
  split at member
  · cases member
  · obtain ⟨user, -, rfl⟩ := List.mem_map.mp member
    exact ⟨source, RegistryOf.mem_externalSources.mp external⟩

/-- A refresh awaits only sources that it asks. -/
theorem opened_report (s : HubState) (registry : Registry) (reason : RefreshReason)
    (group : UserGroup) (unique : String) (startedAt markedAt : Number) :
    ∀ key ∈ (s.opened registry reason group unique startedAt markedAt).inFlightKeys,
      registry.Reports key := by
  intro key member
  have current : (s.coordinator.openSession unique reason group startedAt).after.current?
      (Coordinator.sessionId unique s.coordinator.opened) = some _ :=
    Coordinator.current?_eq_some.mpr ⟨rfl, rfl⟩
  have marked := fun keys => (Coordinator.mark_of_current current markedAt keys).1
  have opening : s.opened registry reason group unique startedAt markedAt = _ := marked _
  rw [opening] at member
  have tracked := Session.keys_marked_subset rfl _ _ member
  obtain ⟨r, asked, rfl⟩ := List.mem_map.mp (List.mem_filter.mp tracked).1
  exact requests_report _ registry reason group _ r asked

/-- Whatever is done to a hub, even where a sink fails, it awaits only sources that report. -/
theorem inFlight_report {history : List Entered}
    (ran : Execution setup faultless (initial setup.settings) history s) :
    ∀ key ∈ s.coordinator.inFlightKeys, setup.registry.Reports key := by
  induction ran with
  | refl => exact List.forall_mem_nil _
  | subscribe group _ ih => exact ih
  | @enter _ s _ _ _ step ih =>
    have before : s.Has fun c => ∀ key ∈ c.inFlightKeys, setup.registry.Reports key := ih
    cases step with
    | change now changes stops =>
      exact (has_change before (Coordinator.eased_inFlight _) (makes_of_change? changes)).stops
        stops
    | idle => exact ih
    | interrupted _ stops _ => exact (has_beginRefresh before _ _).stops stops
    | refreshed reason group unique startedAt markedAt task _ =>
      have opened := opened_report (s.beginRefresh group startedAt).after setup.registry reason
        group unique startedAt markedAt
      have ended : ∀ key ∈ ((s.beginRefresh group startedAt).after.openRefresh setup.registry
          reason group unique startedAt markedAt).after.coordinator.inFlightKeys,
          setup.registry.Reports key := by
        dsimp only [openRefresh, Change.andThen]
        split
        · exact opened
        · exact (Coordinator.eased_inFlight _).after opened (.clear _) rfl
      rw [refreshed]
      dsimp only
      split
      · exact ended
      · exact ended

def Accuses (key : SourceKey) (e : Entered) : Prop :=
  ∃ session, e.operation.message? = some (.sourceError key session)

def Acquits (key : SourceKey) (e : Entered) : Prop :=
  e.operation = .clearAllData ∨
    e.operation.message? = some (.userRemoved key.userId) ∧ key.userId ≠ .undefined

def Accused (history : List Entered) (key : SourceKey) : Prop :=
  Since (Accuses key) (Acquits key) history

def ErrorsTraced (setup : Setup) (history : List Entered) (s : HubState) : Prop :=
  ∀ key, s.store.hasError key = true → setup.registry.Reports key ∨
    (setup.registry.source? key.sourceId).isSome = true ∧ Accused history key

theorem not_acquits_of_message {key : SourceKey} {operation : Operation} {message : Message}
    (sent : operation.message? = some message)
    (other : key.userId ≠ .undefined → message ≠ .userRemoved key.userId) :
    ¬Acquits key ⟨s, operation⟩ := by
  rintro (rfl | ⟨removed, defined⟩)
  · cases sent
  · exact other defined (Option.some.inj (sent.symm.trans removed))

theorem not_acquits_of_idle {key : SourceKey} {operation : Operation} {now : Number}
    (unchanged : s.change? setup now operation = none) : ¬Acquits key ⟨s, operation⟩ := by
  rintro (rfl | ⟨removed, -⟩)
  · cases unchanged
  · rw [change?_of_message removed] at unchanged
    cases unchanged

theorem ErrorsTraced.goes_on {history : List Entered} (h : s.ErrorsTraced setup history)
    {operation : Operation} {key : SourceKey} (error : s.store.hasError key = true)
    (kept : ¬Acquits key ⟨s, operation⟩) : setup.registry.Reports key ∨
      (setup.registry.source? key.sourceId).isSome = true ∧
        Accused (history ++ [⟨s, operation⟩]) key := by
  rcases h key error with reports | ⟨known, accused⟩
  · exact Or.inl reports
  · exact Or.inr ⟨known, since_append.mpr (Or.inr ⟨accused, kept⟩)⟩

theorem timeout_writes {operation : Operation} {id : String}
    (sent : operation.message? = some (.refreshTimeout id))
    (step : Step setup faultless s operation t) :
    ∃ keys, keys ⊆ s.coordinator.inFlightKeys ∧ (s.withUnanswered keys).SameData t := by
  cases step with
  | change now changes stops =>
    cases makes_of_change? changes with
    | message sent' accepts =>
      cases sent.symm.trans sent'
      cases accepts
      obtain ⟨early, last⟩ := s.applyTimeout_sameData id now
      rcases stops with rfl | ⟨-, on_the_way⟩
      · exact ⟨_, Coordinator.timeout_result_subset _ _ _, last⟩
      · obtain ⟨m, hm, rfl⟩ := List.mem_map.mp on_the_way
        exact ⟨[], List.nil_subset _, early m hm⟩
    | dismissal | launch | relaunch | clearing | saving | loading => cases sent
  | idle now unchanged _ =>
    rw [change?_of_message sent] at unchanged
    cases unchanged
  | interrupted | refreshed => cases sent

/-- By what the step writes: an error is new only where a report names it or a timeout finds it
awaited. -/
theorem ErrorsTraced.step {history : List Entered} (h : s.ErrorsTraced setup history)
    (sound : s.Sound setup)
    (awaited : ∀ key ∈ s.coordinator.inFlightKeys, setup.registry.Reports key)
    {operation : Operation} (step : Step setup faultless s operation t) :
    t.ErrorsTraced setup (history ++ [⟨s, operation⟩]) := by
  intro key error
  cases step.writes with
  | idle _ unchanged same =>
    rw [same.store] at error
    exact h.goes_on error (not_acquits_of_idle unchanged)
  | refresh _ same | dismissal _ _ _ same | launch _ _ _ _ same | relaunch _ same | saving same
  | loading _ same =>
    rw [same.store] at error
    exact h.goes_on error (by rintro (⟨⟨⟩⟩ | ⟨⟨⟩, -⟩))
  | @report _ k _ _ report _ _ sent _ _ same =>
    rw [same.store, withReport_hasError, Bool.and_eq_true] at error
    exact h.goes_on error.2 (not_acquits_of_message sent fun _ => nofun)
  | @error _ k session _ sent _ known same =>
    rw [same.store, withError_hasError, Bool.or_eq_true, decide_eq_true_iff] at error
    rcases error with rfl | before
    · exact Or.inr ⟨known, since_append.mpr (Or.inl ⟨session, sent⟩)⟩
    · exact h.goes_on before (not_acquits_of_message sent fun _ => nofun)
  | timeout _ sent _ =>
    obtain ⟨keys, asked, same⟩ := timeout_writes sent step
    rw [same.store, withUnanswered_hasError, Bool.or_eq_true, Bool.and_eq_true,
      decide_eq_true_iff] at error
    rcases error with ⟨unanswered, -⟩ | before
    · exact Or.inl (awaited key (asked unanswered))
    · exact h.goes_on before (not_acquits_of_message sent fun _ => nofun)
  | @removal _ user _ sent same =>
    have store : t.store = (s.withoutUser user).store := same.elim (·.store) (·.store)
    rw [store, withoutUser_hasError sound.store.keyed, Bool.and_eq_true,
      Bool.not_eq_true'] at error
    refine h.goes_on error.2 (not_acquits_of_message sent fun defined removed => ?_)
    cases removed
    exact Bool.eq_false_iff.mp error.1 (Number.equals_iff.mpr ⟨rfl, defined⟩)
  | clearing same =>
    rw [same.store] at error
    cases error

theorem errorsTraced_execution {history : List Entered}
    (ran : Execution setup faultless (initial setup.settings) history s) :
    s.ErrorsTraced setup history := by
  induction ran with
  | refl => exact fun _ error => nomatch error
  | enter ran step ih =>
    exact ih.step ((sound_initial setup).execution ran) (inFlight_report ran) step
  | subscribe group _ ih => exact ih

def MayReport (setup : Setup) (s : HubState) (key : SourceKey) : Prop :=
  ∃ payload report, s.acceptPayload setup.registry key payload = .ok report

/-- A source may report for a user if it reports at all and the user is none of a managed profile
that it does not support; then a report without a status and issues will do. -/
theorem mayReport_iff {key : SourceKey} : s.MayReport setup key ↔
    ∃ source, setup.registry.source? key.sourceId = some source ∧ source.isExternal = true ∧
      (source.supportsManaged = true ∨ s.isForeignProfile key.userId = false) := by
  constructor
  · rintro ⟨payload, report, accepted⟩
    rw [acceptPayload] at accepted
    split at accepted
    · cases accepted
    · next source known =>
      split at accepted
      · cases accepted
      · next supported =>
        split at accepted
        · cases accepted
        · next made =>
          refine ⟨source, known, source.isExternal_of_accept made, ?_⟩
          simpa [or_iff_not_imp_left] using supported
  · rintro ⟨source, known, external, supported⟩
    have made : source.accept (.object []) = .ok ⟨none, []⟩ := by
      rw [SourceOf.isExternal, SourceOf.reporting?] at external
      rw [SourceOf.accept]
      split at external
      · next kind => rw [kind]; rfl
      · next kind => rw [kind]; rfl
      · cases external
    have admitted : ¬(!source.supportsManaged && s.isForeignProfile key.userId) = true := by
      simpa [or_iff_not_imp_left] using supported
    refine ⟨.object [], ⟨none, []⟩, ?_⟩
    rw [acceptPayload, known]
    dsimp only
    rw [if_neg admitted, made]

end HubState

namespace Hub

open HubAct

variable {σ : Type}

/-- Whatever was done to a hub: a source in error reports, or it was accused by an error report
since its errors were last cleared. What takes an error back is a report that is accepted, and that
there is one means that the source reports and may do so for the user. -/
theorem errors_traced {host : Host σ} {setup : Setup} {faultless : Prop}
    (orderly : host.Orderly setup faultless) {history : List Entered} {x : Hub × σ}
    (reached : Reached host setup faultless history x) :
    (∀ key, x.1.state.store.hasError key = true → setup.registry.Reports key ∨
      (setup.registry.source? key.sourceId).isSome = true ∧ HubState.Accused history key) ∧
    (∀ key, x.1.state.MayReport setup key ↔
      ∃ source, setup.registry.source? key.sourceId = some source ∧ source.isExternal = true ∧
        (source.supportsManaged = true ∨ x.1.state.isForeignProfile key.userId = false)) ∧
    ∀ key payload report, x.1.state.acceptPayload setup.registry key payload = .ok report →
      let y := (gate.run (applyData host setup key payload none)).run x
      y.2.1.state.store.hasError key = false ∧
        (report.isSpelled = true → ∃ changed, y.1 = .ok changed) := by
  refine ⟨HubState.errorsTraced_execution (reached.execution orderly),
    fun key => HubState.mayReport_iff, fun key payload report accepted => ?_⟩
  have free := reached.free orderly
  have cleared : (x.1.state.withReport key report (host.now x.2)).store.hasError key = false := by
    rw [HubState.withReport_hasError]
    simp
  by_cases spelled : report.isSpelled = true
  · obtain ⟨changed, lines, ran⟩ := run_applyData_unasked host free x.1.state.unasked_none accepted
      spelled
    rw [ran]
    exact ⟨cleared, fun _ => ⟨changed, rfl⟩⟩
  · rw [run_applyData_garbled host free none accepted spelled]
    exact ⟨cleared, fun stored => absurd stored spelled⟩

/-- A timeout leaves a source in error that may report, which takes the error back; the source that
an error report accuses has no report to make. -/
theorem errors_traced_accused :
    let setup : Setup := ⟨⟨Config.sparseGroups⟩, .configured, ⟨true, true, [], .default, false⟩⟩
    let w := ((run silent setup (.refresh .pageOpen ⟨1, []⟩)).run (.initial setup.settings, ())).2
    let x := ((run silent setup (.receive (.refreshTimeout "u_0"))).run w).2
    let y := ((run silent setup (.reportSourceError ⟨"updates", 1⟩ none)).run x).2
    silent.Orderly setup False ∧ ∃ history, Reached silent setup False history y ∧
      (y.1.state.store.hasError ⟨"scan", 1⟩ = true ∧ y.1.state.MayReport setup ⟨"scan", 1⟩ ∧
        let z := (gate.run (applyData silent setup ⟨"scan", 1⟩ (.object []) none)).run y
        z.2.1.state.store.hasError ⟨"scan", 1⟩ = false ∧ ∃ changed, z.1 = .ok changed) ∧
      y.1.state.store.hasError ⟨"updates", 1⟩ = true ∧
        HubState.Accused history ⟨"updates", 1⟩ ∧ ¬y.1.state.MayReport setup ⟨"updates", 1⟩ := by
  intro setup w x y
  have orderly := silent_orderly setup False
  obtain ⟨_, asked⟩ := (Reached.start ()).next orderly (.refresh .pageOpen ⟨1, []⟩)
  obtain ⟨_, ended⟩ := asked.next orderly (.receive (.refreshTimeout "u_0"))
  obtain ⟨history, reached⟩ := ended.next orderly (.reportSourceError ⟨"updates", 1⟩ none)
  have reached : Reached silent setup False _ y := reached
  obtain ⟨traced, may, cleared⟩ := errors_traced orderly reached
  have error : y.1.state.store.hasError ⟨"updates", 1⟩ = true := by decide +kernel
  have fixed : ∀ source, setup.registry.source? "updates" = some source →
      source.isExternal = false := by
    decide +kernel
  have scan : setup.registry.source? "scan" =
      some ⟨"scan", .primary, false, .issueOnly ⟨"org.scan", .criticalWarning, true, false⟩⟩ := by
    decide +kernel
  have own : y.1.state.isForeignProfile 1 = false := by decide +kernel
  have accepted : y.1.state.acceptPayload setup.registry ⟨"scan", 1⟩ (.object []) =
      .ok ⟨none, []⟩ := by
    decide +kernel
  refine ⟨orderly, _, reached, ⟨by decide +kernel, ?_, ?_⟩, error, ?_, fun reports => ?_⟩
  · exact (may _).mpr ⟨_, scan, rfl, Or.inr own⟩
  · obtain ⟨gone, taken⟩ := cleared _ _ _ accepted
    exact ⟨gone, taken (by decide +kernel)⟩
  · rcases traced _ error with ⟨source, known, external⟩ | ⟨-, accused⟩
    · cases external.symm.trans (fixed source known)
    · exact accused
  · obtain ⟨source, known, external, -⟩ := (may _).mp reports
    cases external.symm.trans (fixed source known)

/-- An error report is taken of a source that only shows what is configured, and then no report
can take the error back. -/
theorem fixed_source_in_error :
    let setup : Setup := ⟨⟨Config.sparseGroups⟩, .configured, ⟨true, true, [], .default, false⟩⟩
    let accuse : Operation := .reportSourceError ⟨"updates", 1⟩ none
    let y := ((run silent setup accuse).run (.initial setup.settings, ())).2
    RegistryOf.parse Config.sparse = .ok (setup.registry.map .plain) ∧
      setup.settings.enabled = true ∧
      Reached silent setup False [⟨.initial setup.settings, accuse⟩] y ∧
      y.1.state.store.hasError ⟨"updates", 1⟩ = true ∧
      (∀ source, setup.registry.source? "updates" = some source → source.isExternal = false) ∧
      ¬y.1.state.MayReport setup ⟨"updates", 1⟩ := by
  intro setup accuse y
  have fixed : ∀ source, setup.registry.source? "updates" = some source →
      source.isExternal = false := by
    decide +kernel
  refine ⟨by decide +kernel, rfl, (Reached.start ()).quietly 0 (by decide +kernel),
    by decide +kernel, fixed, fun reports => ?_⟩
  obtain ⟨source, known, external, -⟩ := HubState.mayReport_iff.mp reports
  cases external.symm.trans (fixed source known)

end Hub

end SafetyBoard
