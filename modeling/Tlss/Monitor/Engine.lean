import Tlss.Monitor.Store
import Tlss.Monitor.Wire

/-!
# Writing into the engine

`Engine::update_data_at` accepts writes only while the engine is ready or
running, and `ingest_decoded_record` is how a collector hands a decoded record
to it. The plain publisher that `MonitorReporter::update` calls afterwards runs
outside the store and is left out.
-/

namespace Tlss.Monitor

inductive EnginePhase where
  | created
  | initializing
  | ready
  | running
  | stopping
  | stopped
deriving DecidableEq, Repr

/-- `EngineUtil::accepts_data_write`, and `engine_accepts_recovery`. -/
def EnginePhase.acceptsDataWrite (phase : EnginePhase) : Bool :=
  phase == .ready || phase == .running

structure Engine where
  phase : EnginePhase
  context : Option MonitorStore

def Engine.Accepts (engine : Engine) : Prop :=
  engine.phase.acceptsDataWrite = true ∧ engine.context.isSome = true

def Engine.find (engine : Engine) (key : MonitorKey) : Option StoredRecord :=
  engine.context.bind fun store => store.find key

def Engine.contentAt (engine : Engine) (key : MonitorKey) : Option ValueContent :=
  engine.context.bind fun store => store.contentAt key

def Engine.updateDataAt (engine : Engine) (data : MonitorData) (changedAt : MonitorTimestamp)
    (force : Bool) : UpdateResult × Engine :=
  if !engine.phase.acceptsDataWrite then (⟨.invalid, none⟩, engine)
  else
    match engine.context with
    | none => (⟨.invalid, none⟩, engine)
    | some store =>
      let (result, store) := store.update data force changedAt
      (result, { engine with context := some store })

/-- `ingest_decoded_record`. `now` is the clock of the collector, for records
that carry no change time. -/
def ingestDecodedRecord (engine : Engine) (record : DecodedRecord) (force : Bool)
    (now : MonitorTimestamp) : UpdateResult × Engine :=
  match record.changedAt with
  | some changedAt => engine.updateDataAt record.data changedAt force
  | none => engine.updateDataAt record.data now force

def ingestSucceeded (status : UpdateStatus) : Bool :=
  status == .inserted || status == .updated || status == .unchanged

variable {engine : Engine} {r : DecodedRecord} {now : MonitorTimestamp}

def DecodedRecord.time (record : DecodedRecord) (now : MonitorTimestamp) : MonitorTimestamp :=
  record.changedAt.getD now

lemma ingestDecodedRecord_eq (engine : Engine) (r : DecodedRecord) (force : Bool)
    (now : MonitorTimestamp) : ingestDecodedRecord engine r force now =
      engine.updateDataAt r.data (r.time now) force := by
  unfold ingestDecodedRecord DecodedRecord.time
  cases r.changedAt <;> rfl

lemma ingestDecodedRecord_of_not_accepts (haccepts : ¬ engine.Accepts) :
    ingestDecodedRecord engine r true now = (⟨.invalid, none⟩, engine) := by
  rw [ingestDecodedRecord_eq, Engine.updateDataAt]
  unfold Engine.Accepts at haccepts
  split_ifs with hphase
  · rfl
  · cases hcontext : engine.context with
    | none => rfl
    | some s => simp_all

lemma ingestDecodedRecord_of_accepts {s : MonitorStore}
    (hphase : engine.phase.acceptsDataWrite) (hcontext : engine.context = some s) :
    ingestDecodedRecord engine r true now = ((s.update r.data true (r.time now)).1,
        { engine with context := some (s.update r.data true (r.time now)).2 }) := by
  rw [ingestDecodedRecord_eq, Engine.updateDataAt]
  simp [hphase, hcontext]

lemma ingestSucceeded_iff :
    ingestSucceeded (ingestDecodedRecord engine r true now).1.status = true ↔ engine.Accepts := by
  by_cases haccepts : engine.Accepts
  · obtain ⟨hphase, hcontext⟩ := haccepts
    obtain ⟨s, hstore⟩ := Option.isSome_iff_exists.mp hcontext
    rw [ingestDecodedRecord_of_accepts hphase hstore]
    have hstatus := status_update_force s r.data (r.time now)
    refine ⟨fun _ => ⟨hphase, hcontext⟩, fun _ => ?_⟩
    rcases hstatus with h | h | h <;> simp [ingestSucceeded, h]
  · rw [ingestDecodedRecord_of_not_accepts haccepts]
    simp [haccepts, ingestSucceeded]

end Tlss.Monitor
