import SafetyBoard.Proofs.Hub.Reached

/-!
# What reaches the sink

A host with a sink that keeps the events it is told, and does nothing else, lets every change come
to its end. The events of the change are then told in their order or, while telemetry is off, none.
-/

namespace SafetyBoard

variable {σ α : Type}

def Signal.event? : Signal → Option TelemetryEvent
  | .event e => some e
  | _ => none

/-- The events that reach the sink: all of them or, while telemetry is off, none. -/
def Hub.emitted (setup : Setup) (events : List TelemetryEvent) : List TelemetryEvent :=
  if setup.settings.telemetryEnabled then events else []

/-- The sink keeps the events that it is told and leaves the hub alone, and nothing else is kept
among them. -/
structure Host.Records (host : Host σ) (told : σ → List TelemetryEvent) : Prop where
  record : ∀ e x, ∃ h, (host.emit e).run x = (.ok (), x.1, h) ∧ told h = told x.2 ++ [e]
  log : ∀ line h, told (host.log line h) = told h
  cancel : ∀ task h, told (host.cancel task h) = told h

namespace Hub

open HubAct

variable {host : Host σ} {told : σ → List TelemetryEvent} (records : host.Records told)
include records

theorem told_logged (lines : List LogLine) (h : σ) : told (host.logged lines h) = told h := by
  induction lines generalizing h with
  | nil => rfl
  | cons line rest ih => exact (ih _).trans (records.log line h)

theorem run_perform_records (setup : Setup) (c : Change HubState α) (x : Hub × σ) :
    ∃ h, (perform host setup c).run x = (.ok c.result, { x.1 with state := c.after }, h) ∧
      told h = told x.2 ++ emitted setup c.events := by
  obtain ⟨h, ran, kept⟩ := run_perform_of_speaks host x setup (c := c)
    (P := fun signals h => told h ++ emitted setup (signals.filterMap Signal.event?) =
      told x.2 ++ emitted setup c.events) (fun signal rest y kept => by
    cases signal with
    | log line => exact ⟨_, rfl, (congrArg (· ++ _) (records.log line y.2)).trans kept⟩
    | cancel task => exact ⟨_, rfl, (congrArg (· ++ _) (records.cancel task y.2)).trans kept⟩
    | event e =>
      by_cases telemetry : setup.settings.telemetryEnabled = true
      · obtain ⟨h, emits, more⟩ := records.record e y
        refine ⟨h, ?_, ?_⟩
        · rw [speak, if_pos telemetry]
          exact emits
        · rw [more, ← kept, emitted, emitted, if_pos telemetry, if_pos telemetry,
            List.append_assoc]
          rfl
      · refine ⟨y.2, ?_, ?_⟩
        · rw [speak, if_neg telemetry]
          rfl
        · rw [← kept, emitted, emitted, if_neg telemetry, if_neg telemetry]) rfl
  refine ⟨h, ran, ?_⟩
  rw [← kept, List.filterMap_nil, emitted, ite_self, List.append_nil]

omit records in
theorem diary_records : diary.Records (·.events) where
  record _ _ := ⟨_, rfl, rfl⟩
  log _ _ := rfl
  cancel _ _ := rfl

end Hub

end SafetyBoard
