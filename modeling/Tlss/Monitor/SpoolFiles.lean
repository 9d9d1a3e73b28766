import Mathlib.Algebra.Order.BigOperators.Group.List
import Tlss.Library.Run
import Tlss.Monitor.AlarmSpoolSpec

/-!
# The files of a spool

An operation takes a file away, or puts one frame under the path of its identity, after the
capacity check (`Follows`). What holds of the files whatever is called, fails and dies follows
from it. The capacity check counts the files that the scan has seen: one whose `symlink_status`
fails is not counted, and the spool grows beyond its limit (`skipped_file_exceeds_limit`).
-/

namespace Tlss.Monitor

open Library List
open CrashProgram (meets_bind meets_peek_bind meets_pure)

namespace AlarmSpool

inductive Operation where
  | store (sourceId : UInt64) (messageId : AlarmMessageId) (wire : Bytes) (faults : StoreFaults)
  | read (path : Bytes) (faults : ReadFaults)
  | remove (path : Bytes) (faults : RemoveFaults)
  | quarantine (path : Bytes) (resolveFault : Option ℤ) (faults : MoveFaults)
  | restart (pid : ℕ) (setupFault : Option ℤ) (faults : MoveFaults)

def Operation.program : Operation → CrashProgram AlarmSpool Unit
  | .store sourceId messageId wire faults => do
    let _ ← AlarmSpool.store sourceId messageId wire faults
  | .read path faults => do let _ ← AlarmSpool.read path faults
  | .remove path faults => do let _ ← AlarmSpool.remove path faults
  | .quarantine path resolveFault faults => do
    let _ ← AlarmSpool.quarantine path resolveFault faults
  | .restart pid setupFault faults => initializeSpool pid setupFault faults

variable (spool : AlarmSpool)

/-- An operation runs to its end, or the process dies at a moment of it. -/
def step (event : Operation × Option ℕ) : AlarmSpool :=
  match event.2 with
  | none => (event.1.program.exec spool).final
  | some moment => (event.1.program.exec spool).visited.getD moment spool

/-- The file is a complete `ALARM` frame under the name of its identity. -/
def Represents (kind : AlarmSpoolKind) (entry : Bytes × Bytes) : Prop :=
  ∃ sourceId messageId, entry.1 = spoolPath kind sourceId messageId ∧
    Storable sourceId messageId entry.2

/-- The scan of a store sees all files. -/
def Operation.SeesAll : Operation → Prop
  | .store _ _ _ faults => faults.scan.skipped = []
  | _ => True

/-- What a store may put under a path; it fits if the scan has seen all files. -/
def MayEnter (seen : Prop) (path content : Bytes) : Prop :=
  Represents spool.kind (path, content) ∧ (seen → spool.Fits content)

/-- What an operation may have done at any moment. -/
structure Follows (seen : Prop) (first later : AlarmSpool) : Prop where
  kind : later.kind = first.kind
  maxBytes : later.maxBytes = first.maxBytes
  data : ∃ path, first.data.Touched path (first.MayEnter seen path) later.data

variable {first later : AlarmSpool} {path wire : Bytes} {sourceId : UInt64}
  {messageId : AlarmMessageId} {faults : StoreFaults} {seen : Prop}

lemma Within.follows (h : Within path (first.MayEnter seen path) first later) :
    Follows seen first later :=
  ⟨h.kind, h.maxBytes, path, h.data⟩

lemma Removes.follows (h : Removes path first later) : Follows seen first later :=
  (Within.mono h fun _ => False.elim).follows

lemma program_meets (op : Operation) (spool : AlarmSpool) :
    op.program.Meets spool (Follows op.SeesAll spool) fun _ => Follows op.SeesAll spool := by
  cases op with
  | store sourceId messageId wire faults =>
    have hstore := @store_meets_of wire
      (spool.MayEnter (faults.scan.skipped = []) (spoolPath spool.kind sourceId messageId))
      sourceId messageId faults spool fun hstorable hfits => ⟨⟨_, _, rfl, hstorable⟩, hfits⟩
    exact meets_bind (hstore.mono (fun _ hbounds => hbounds.within.follows)
      fun _ _ hend => hend.bounds.within.follows) fun _ _ => meets_pure
  | read path faults =>
    exact meets_bind ((read_meets path faults spool).mono (fun _ h => h.1.follows)
      fun _ _ hend => hend.removes.follows) fun _ _ => meets_pure
  | remove path faults =>
    exact meets_bind ((remove_meets path faults spool).mono (fun _ h => h.follows)
      fun _ _ hend => hend.1.follows) fun _ _ => meets_pure
  | quarantine path resolveFault faults =>
    exact meets_bind ((quarantine_meets path resolveFault faults spool).mono (fun _ h => h.follows)
      fun _ _ hend => hend.follows) fun _ _ => meets_pure
  | restart pid setupFault faults =>
    have hfollows : ∀ later, Reopened spool later → Follows True spool later :=
      fun later h => ⟨h.kind, h.maxBytes, [], h.data ▸ .refl⟩
    exact (initializeSpool_meets pid setupFault faults spool).mono hfollows fun _ => hfollows

lemma follows_step (event : Operation × Option ℕ) :
    Follows event.1.SeesAll spool (spool.step event) := by
  obtain ⟨op, moment⟩ := event
  have hmeets := program_meets op spool
  cases moment with
  | none => exact hmeets.2
  | some moment => exact hmeets.getD_visited ⟨rfl, rfl, [], .refl⟩ moment

/-- The files represent alarms, and their sizes keep to the limit if all scans have seen all of
them. -/
structure WellKept (seen : Prop) (first spool : AlarmSpool) : Prop where
  kind : spool.kind = first.kind
  maxBytes : spool.maxBytes = first.maxBytes
  files : ∀ entry ∈ spool.data.files, Represents spool.kind entry
  within : seen → spool.maxBytes ≠ 0 → first.totalBytes ≤ first.maxBytes →
    spool.totalBytes ≤ spool.maxBytes

lemma sum_others_le (path : Bytes) :
    ((spool.data.others path).map fun e => e.2.length).sum ≤ spool.totalBytes :=
  ((filter_sublist).map _).sum_le_sum fun _ _ => Nat.zero_le _

lemma WellKept.step {spool : AlarmSpool} (h : WellKept seen first spool)
    (event : Operation × Option ℕ) (hsees : seen → event.1.SeesAll) :
    WellKept seen first (spool.step event) := by
  obtain ⟨hkind, hmax, path, htouched⟩ := follows_step spool event
  have hothers := spool.sum_others_le path
  refine ⟨hkind.trans h.kind, hmax.trans h.maxBytes, ?_, ?_⟩
  · rw [hkind]
    intro e hentry
    rcases htouched.files with hfiles | hfiles | ⟨content, hnew, hfiles⟩
    · exact h.files e (hfiles ▸ hentry)
    · rw [hfiles] at hentry
      exact h.files e (mem_of_mem_filter hentry)
    · rw [hfiles] at hentry
      rcases mem_append.mp hentry with hold | hentry
      · exact h.files e (mem_of_mem_filter hold)
      · rw [mem_singleton.mp hentry]
        exact hnew.1
  · rw [hmax]
    intro hseen hlimit hwithin
    have hbefore := h.within hseen hlimit hwithin
    rw [totalBytes]
    rcases htouched.files with hfiles | hfiles | ⟨content, ⟨-, hfits⟩, hfiles⟩
    · rw [hfiles]
      exact hbefore
    · rw [hfiles]
      exact hothers.trans hbefore
    · have hroom := (hfits (hsees hseen)).resolve_left hlimit
      rw [hfiles, map_append, sum_append, map_singleton, sum_singleton]
      exact (Nat.add_le_add_right hothers _).trans hroom

/-! ## Storing -/

lemma store_unchanged (hunlink : faults.unlinkFinal = false)
    (hfailed : ((store sourceId messageId wire faults).exec spool).value.status ≠ .success)
    (e : Bytes × Bytes) : e ∈ ((store sourceId messageId wire faults).exec spool).final.data.files ↔
      e ∈ spool.data.files := by
  have hend := (store_meets sourceId messageId wire faults spool).2
  rw [← DurableDirectory.lookup_eq_some_iff, ← DurableDirectory.lookup_eq_some_iff]
  by_cases hpath : e.1 = spoolPath spool.kind sourceId messageId
  · rw [hpath, hend.failed hfailed hunlink]
  · rw [hend.bounds.within.data.lookup_of_ne hpath]

lemma store_duplicate {spool : AlarmSpool} (hready : spool.ready)
    (hstorable : Storable sourceId messageId wire)
    (hdirectory : spool.kind = .inbox → faults.ensureDirectory = none)
    (hexists : faults.existsCheck = none)
    (htaken : (spool.data.lookup (spoolPath spool.kind sourceId messageId)).isSome) :
    ((store sourceId messageId wire faults).exec spool).value.status = .duplicate := by
  obtain ⟨frame, hdecode, htype, hsource, hmessage⟩ := hstorable
  obtain ⟨hsome, hle⟩ := @length_of_isAlarmWire wire (by simp [isAlarmWire, hdecode, htype])
  have hsize : ¬ (wire.isEmpty || wire.length > alarmMaxFrameSize) := by
    simpa [length_eq_zero_iff.not.mp hsome] using hle
  have hclean : (if spool.kind = .inbox then faults.ensureDirectory else none).or
      faults.existsCheck = none := by
    rw [hexists, Option.or_none]
    split_ifs with hkind
    · exact hdirectory hkind
    · rfl
  have hmeets : (store sourceId messageId wire faults).Meets spool (fun _ => True)
      fun result _ => result.status = .duplicate := by
    refine meets_peek_bind ?_
    simp only [id_eq, hready, Bool.not_true, Bool.false_eq_true, if_false, if_neg hsize, hdecode,
      htype, hsource, hmessage, ne_eq, not_true_eq_false, or_self]
    refine meets_peek_bind ?_
    simp only [id_eq, hclean, if_pos htaken]
    exact meets_pure rfl
  exact hmeets.2

/-- Whatever operations are called, fail and are cut short, starting from files that represent
alarms: every file does, paths are injective, a store that fails changes nothing if it can take
its file back, `DUPLICATE` is returned just for what is there, and a total size within the limit
stays so if no scan skips a file. -/
theorem spool_represents (hspool : ∀ entry ∈ spool.data.files, Represents spool.kind entry)
    (events : List (Operation × Option ℕ)) :
    let later := run step spool events
    (∀ entry ∈ later.data.files, ∃ frame, decodeAlarmFrame entry.2 = .ok frame ∧
      frame.type = .alarm ∧ entry.1 = spoolPath spool.kind frame.sourceId frame.messageId) ∧
    (∀ sourceId messageId sourceId' messageId',
      spoolPath spool.kind sourceId messageId = spoolPath spool.kind sourceId' messageId' →
        sourceId = sourceId' ∧ messageId = messageId') ∧
    (∀ sourceId messageId wire faults,
      let path := spoolPath spool.kind sourceId messageId
      let stored := (store sourceId messageId wire faults).exec later
      (faults.unlinkFinal = false → stored.value.status ≠ .success →
        ∀ entry, entry ∈ stored.final.data.files ↔ entry ∈ later.data.files) ∧
      (stored.value.status = .duplicate → ∃ content, (path, content) ∈ later.data.files) ∧
      (later.ready = true → Storable sourceId messageId wire →
        (spool.kind = .inbox → faults.ensureDirectory = none) → faults.existsCheck = none →
        (∃ content, (path, content) ∈ later.data.files) → stored.value.status = .duplicate)) ∧
    (StepsMeet step (fun _ event => event.1.SeesAll) spool events → spool.maxBytes ≠ 0 →
      spool.totalBytes ≤ spool.maxBytes → later.totalBytes ≤ spool.maxBytes) := by
  intro later
  have hkept : WellKept False spool later := @run_invariant _ _ step (WellKept False spool) _
    (fun _ event h => h.step event nofun) ⟨rfl, rfl, hspool, nofun⟩ events
  refine ⟨fun entry hentry => ?_, fun _ _ _ _ => spoolPath_injective, ?_, ?_⟩
  · obtain ⟨sourceId, messageId, hpath, frame, hdecode, htype, rfl, rfl⟩ :=
      hkept.files entry hentry
    exact ⟨frame, hdecode, htype, hkept.kind ▸ hpath⟩
  · intro sourceId messageId wire faults
    rw [← hkept.kind]
    have hexists : (∃ content, (spoolPath later.kind sourceId messageId, content) ∈
        later.data.files) ↔
        (later.data.lookup (spoolPath later.kind sourceId messageId)).isSome := by
      simp only [← DurableDirectory.lookup_eq_some_iff, Option.isSome_iff_exists]
    refine ⟨store_unchanged later, fun hduplicate => ?_, fun hready hstorable hdirectory hcheck
      htaken => store_duplicate hready hstorable hdirectory hcheck (hexists.mp htaken)⟩
    exact hexists.mpr ((store_meets sourceId messageId wire faults later).2.duplicate hduplicate).2
  · intro hsees hlimit
    have hfull : WellKept True spool later := @run_invariant_of_meets _ _ step (WellKept True spool)
      _ _ (fun _ event h hseen => h.step event fun _ => hseen) ⟨rfl, rfl, hspool, fun _ _ => id⟩ _
      hsees
    exact hfull.maxBytes ▸ hfull.within trivial (hfull.maxBytes ▸ hlimit)

def sampleFrame (byte : UInt8) : AlarmFrame :=
  ⟨.alarm, 1, ⟨replicate alarmMessageIdSize byte, length_replicate⟩, 0, [7]⟩

def sampleStore (byte : UInt8) (skipped : List Bytes) : Operation × Option ℕ :=
  (.store 1 (sampleFrame byte).messageId (alarmWire (sampleFrame byte))
    { StoreFaults.clean with scan := ⟨none, skipped⟩ }, none)

def sampleOperations : List (Operation × Option ℕ) :=
  [sampleStore 0 [], (.restart 2 none .clean, some 1), sampleStore 0 []]

theorem spool_represents_sampleOperations :
    (run step (fresh .outbox 60 1) sampleOperations).data.files.length = 1 ∧
      (run step (fresh .outbox 60 1) sampleOperations).totalBytes ≤ 60 :=
  ⟨by decide +kernel,
    (spool_represents (fresh .outbox 60 1) (by simp [fresh, DurableDirectory.empty])
      sampleOperations).2.2.2 ⟨rfl, trivial, rfl, trivial⟩ (by decide) (by decide)⟩

/-- The `symlink_status` of the first file fails while a second one is stored. -/
theorem skipped_file_exceeds_limit :
    let later := run step (fresh .outbox 60 1) [sampleStore 0 [],
      sampleStore 1 [spoolPath .outbox 1 (sampleFrame 0).messageId]]
    (fresh .outbox 60 1).totalBytes = 0 ∧ later.data.files.length = 2 ∧ later.totalBytes = 98 := by
  decide +kernel

end AlarmSpool

end Tlss.Monitor
