import SafetyBoard.Proofs.Dismissal.Saving
import SafetyBoard.Proofs.Hub.Restore

/-!
# Unsaved records are marked

A hub that hands out its records takes them for saved, and so it takes records that it is given.
All else that it does to its records is done by operations of the ledger that save nothing. So as
long as the ledger carries no mark, what was handed out or taken last is what there is.
-/

namespace SafetyBoard

/-- The records that are saved elsewhere once the operation is done: those that are handed out, or
those that were taken in. -/
def Entered.saved? (e : Entered) : Option (List PersistedRecord) :=
  match e.operation with
  | .exportRecords => some e.before.ledger.persisted
  | .importRecords records => (DismissalLedger.load records).toOption.map (·.persisted)
  | _ => none

def lastSaved (history : List Entered) : List PersistedRecord :=
  ((history.filterMap Entered.saved?).getLast?).getD []

theorem lastSaved_append (history : List Entered) (e : Entered) :
    lastSaved (history ++ [e]) = e.saved?.getD (lastSaved history) := by
  rw [lastSaved, List.filterMap_append, List.filterMap_cons, List.filterMap_nil]
  cases e.saved? with
  | none =>
    rw [List.append_nil]
    rfl
  | some records =>
    rw [List.getLast?_append, List.getLast?_singleton]
    rfl

namespace Writes

variable {setup : Setup} {s t : HubState} {operation : Operation}

theorem saved?_of_message {message : Message} (h : operation.message? = some message) :
    Entered.saved? ⟨s, operation⟩ = none := by
  cases operation <;> cases h <;> rfl

theorem saved?_importRecords {given records : List PersistedRecord} :
    Entered.saved? ⟨s, .importRecords given⟩ = some records ↔
      ∃ loaded, DismissalLedger.load given = .ok loaded ∧ loaded.persisted = records := by
  have taken : Entered.saved? ⟨s, .importRecords given⟩ =
      (DismissalLedger.load given).toOption.map (·.persisted) := rfl
  rw [taken]
  cases DismissalLedger.load given <;> simp [Except.toOption]

theorem saved?_of_idle {now : Number} (idle : s.change? setup now operation = none) :
    Entered.saved? ⟨s, operation⟩ = none := by
  cases operation with
  | exportRecords => cases idle
  | importRecords given =>
    rw [Option.eq_none_iff_forall_ne_some]
    intro records saved
    obtain ⟨loaded, taken, -⟩ := saved?_importRecords.mp saved
    rw [HubState.change?, HubState.importRecords, taken] at idle
    cases idle
  | _ => rfl

theorem persisted_of_saved (writes : Writes setup s operation t) {records : List PersistedRecord}
    (saved : Entered.saved? ⟨s, operation⟩ = some records) : t.ledger.persisted = records := by
  cases writes with
  | idle _ idle =>
    cases (saved?_of_idle idle).symm.trans saved
  | report _ message | error message | timeout _ message | removal message =>
    cases (saved?_of_message message).symm.trans saved
  | refresh | dismissal | launch | relaunch | clearing => cases saved
  | saving same =>
    cases saved
    rw [same.ledger]
    rfl
  | loading loaded same =>
    obtain ⟨ledger, taken, rfl⟩ := saved?_importRecords.mp saved
    cases loaded.symm.trans taken
    rw [same.ledger]

/-- An operation that saves nothing does something to the ledger that saves nothing either. -/
theorem perform_of_unsaved (writes : Writes setup s operation t)
    (unsaved : Entered.saved? ⟨s, operation⟩ = none) :
    ∃ change : LedgerOperation, ¬change.Saves ∧ t.ledger = s.ledger.perform change := by
  cases writes with
  | idle _ _ same | refresh _ same | error _ _ _ same | timeout _ _ same | launch _ _ _ _ same
  | relaunch _ same => exact ⟨.handOut, not_false, same.ledger⟩
  | report now _ _ _ same => exact ⟨.sync _ _ (.ofNumber now), not_false, same.ledger⟩
  | removal _ same =>
    rcases same with same | same
    all_goals exact ⟨.clearForUser _, not_false, same.ledger⟩
  | dismissal now _ _ same => exact ⟨.dismiss _ _ (.ofNumber now), not_false, same.ledger⟩
  | clearing same => exact ⟨.clear, not_false, same.ledger⟩
  | saving same => cases unsaved
  | loading loaded same =>
    cases (saved?_importRecords.mpr ⟨_, loaded, rfl⟩).symm.trans unsaved

end Writes

namespace Hub

variable {σ : Type} {host : Host σ} {setup : Setup} {x : Hub × σ}

theorem persisted_of_clean {faultless : Prop} {history : List Entered} {t : HubState}
    (ran : Execution setup faultless (.initial setup.settings) history t)
    (clean : t.ledger.dirty = false) : t.ledger.persisted = lastSaved history := by
  induction ran with
  | refl => rfl
  | @enter history s operation t before step ih =>
    rw [lastSaved_append]
    cases saved : Entered.saved? ⟨s, operation⟩ with
    | some records => exact step.writes.persisted_of_saved saved
    | none =>
      obtain ⟨change, unsaved, performed⟩ := step.writes.perform_of_unsaved saved
      have same : t.ledger = s.ledger := performed.trans
        (DismissalLedger.perform_of_clean unsaved (performed ▸ clean))
      rw [same] at clean ⊢
      exact ih clean
  | subscribe group _ ih => exact ih clean

/-- A ledger without the mark has the records that it had when they were last saved: when they were
handed over, when others were loaded, or in the beginning. A hub whose ledger has no mark has the
records that it handed out or took in last, whatever went wrong since, and those it hands out are
the ones that count as saved. -/
theorem saved_of_clean {faultless : Prop} {history : List Entered}
    (ran : Execution setup faultless (.initial setup.settings) history x.1.state) :
    (∀ operations : List LedgerOperation,
      (∃ saved, DismissalLedger.LastSaved operations saved) ∧
      ∀ saved, DismissalLedger.LastSaved operations saved →
        (DismissalLedger.behind saved).dirty = false ∧
        ((DismissalLedger.behind operations).dirty = false →
          (DismissalLedger.behind operations).persisted =
            (DismissalLedger.behind saved).persisted)) ∧
    (x.1.state.ledger.dirty = false → x.1.state.ledger.persisted = lastSaved history) ∧
    ∀ host : Host σ, x.1.held = false →
      (∃ records y, (run host setup .exportRecords).run x = (.ok (.records records), y) ∧
        Entered.saved? ⟨x.1.state, .exportRecords⟩ = some records ∧
        y.1.state.ledger.dirty = false ∧ y.1.state.ledger.persisted = records) ∧
      ∀ given records, Entered.saved? ⟨x.1.state, .importRecords given⟩ = some records →
        ∃ y, (run host setup (.importRecords given)).run x =
            ((fun _ => Answer.nothing) <$> notify host setup).run y ∧
          y.1.state.ledger.dirty = false ∧ y.1.state.ledger.persisted = records := by
  refine ⟨fun operations => ⟨DismissalLedger.exists_lastSaved operations, fun saved last => ?_⟩,
    persisted_of_clean ran,
    fun host free => ⟨⟨_, _, run_exportRecords host setup free, rfl, rfl, rfl⟩, ?_⟩⟩
  · obtain ⟨later, rfl, unsaved⟩ := last.since
    exact ⟨last.clean, fun clean => by rw [DismissalLedger.behind_of_clean unsaved clean]⟩
  · intro given records saved
    obtain ⟨loaded, taken, rfl⟩ := Writes.saved?_importRecords.mp saved
    obtain ⟨h, imported⟩ := run_importRecords host setup free taken
    exact ⟨_, imported, congrArg (·.dirty) (DismissalLedger.load_eq_ok taken).2.2, rfl⟩

/-- The records that were handed out last count as saved: a refused import and a report that repeats
itself have changed nothing since. -/
theorem saved_of_clean_exported :
    let source : Source :=
      ⟨"wifi", .primary, false, .issueOnly ⟨"net", .criticalWarning, true, true⟩⟩
    let setup : Setup := ⟨⟨[⟨"network", .hidden, none, none, .none, [source]⟩]⟩, .configured,
      ⟨true, true, [], .default, false⟩⟩
    let report : Json := .object [("issues", .array [.object [("id", .string "open"),
      ("typeId", .string "network"), ("severity", .string "recommendation"),
      ("title", .string "Open"), ("summary", .string "Anyone can listen"),
      ("actions", .array [])]])]
    let old : PersistedRecord := ⟨"gone/old@1", ⟨some 0⟩, none, 0, none⟩
    let u := ((run silent setup (.importRecords [old])).run (.initial setup.settings, ())).2
    let v := ((run silent setup (.setSourceData ⟨"wifi", 1⟩ report none)).run u).2
    let w := ((run silent setup .exportRecords).run v).2
    let x := ((run silent setup (.importRecords [⟨"gone", ⟨some 0⟩, none, 0, none⟩])).run w).2
    let y := ((run silent setup (.setSourceData ⟨"wifi", 1⟩ report none)).run x).2
    ∃ history, Reached silent setup False history y ∧ v.1.state.ledger.dirty = true ∧
      y.1.state.ledger.dirty = false ∧ y.1.state.ledger.persisted = lastSaved history ∧
      lastSaved history = [old, ⟨"wifi/open@1", ⟨some 0⟩, none, 0, none⟩] := by
  intro source setup report old u v w x y
  have orderly := silent_orderly setup False
  have imported : Reached silent setup False _ u :=
    (Reached.start ()).quietly 0 (by decide +kernel)
  have reported : Reached silent setup False _ v := imported.quietly 0 (by decide +kernel)
  have exported : Reached silent setup False _ w := reported.quietly 0 (by decide +kernel)
  obtain ⟨entries, refused⟩ := exported.next orderly
    (.importRecords [⟨"gone", ⟨some 0⟩, none, 0, none⟩])
  have repeated : Reached silent setup False _ y := refused.quietly 0 (by decide +kernel)
  have clean : y.1.state.ledger.dirty = false := by decide +kernel
  have same := (saved_of_clean (repeated.execution orderly)).2.1 clean
  refine ⟨_, repeated, by decide +kernel, clean, same, ?_⟩
  rw [← same]
  decide +kernel

end Hub

end SafetyBoard
