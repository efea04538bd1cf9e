import SafetyBoard.Proofs.Dismissal.Backup
import SafetyBoard.Proofs.Dismissal.Loading
import SafetyBoard.Proofs.Hub.Restore

/-!
# Records from outside

A hub that is given records either takes all of them, in place of those it had, and tells its
listeners, or it takes none, stays what it was and says what is wrong with each record that has a
fault.
-/

namespace SafetyBoard.Hub

open HubAct

variable {σ : Type} {host : Host σ} {setup : Setup} {x : Hub × σ} {records : List PersistedRecord}

theorem run_importRecords_refused (host : Host σ) (setup : Setup) (free : x.1.held = false)
    {fault : Fault} (refused : DismissalLedger.load records = .error fault) :
    ∃ h, (run host setup (.importRecords records)).run x = (.error fault, x.1, h) := by
  let y : Hub × σ := (x.1, host.logged (DismissalLedger.loadLines records) x.2)
  have entered : (gate.run (applyImport host setup records)).run x = (.error fault, y) := by
    refine run_gate_of_ran free ?_
    rw [applyImport, Act.run_bind_ok (run_forM_log host _ _), run_getState_bind,
      HubState.importRecords, refused]
    rfl
  refine ⟨y.2, ?_⟩
  rw [run, importRecords, ← bind_pure_comp, bind_assoc]
  exact Act.run_bind_error entered _

end SafetyBoard.Hub
