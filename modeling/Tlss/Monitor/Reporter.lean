import Tlss.Library.Run
import Tlss.Monitor.Store

/-!
# The reporter and its durability gate

`MonitorReporter::report_error` fills in the metadata of the module registry,
takes a snapshot of the alarm publisher and hands the store a prepare callback
that runs the publisher. The store commits only what the publisher has made
durable.

The second half is the concurrent system: any number of threads, each of which
enters `report_error` and later runs its critical section. The registry may be
replaced at any moment, and the environment decides in every call whether the
snapshot can be taken and how the publisher ends. Two logs are kept beside the
store. The publisher writes down every record it is asked about and how it
answered; every call writes down the store before and after it and its result.
The gate is that the two logs agree.
-/

namespace Tlss.Monitor

open Library (Bytes run run_invariant run_concat)
open List MonitorStore UpdateResult

/-! ## `report_error` -/

inductive AlarmEnqueueStatus where
  | success
  | notReady
  | encodeFailed
  | randomFailed
  | spoolFull
  | ioError
deriving DecidableEq, Repr

structure AlarmEnqueueResult where
  status : AlarmEnqueueStatus
  systemError : ℤ
deriving DecidableEq, Repr

def AlarmEnqueueResult.durable (result : AlarmEnqueueResult) : Bool :=
  result.status == .success

inductive AlarmOutcome where
  | returned (result : AlarmEnqueueResult)
  | thrown
deriving DecidableEq, Repr

def AlarmOutcome.durable : AlarmOutcome → Bool
  | .returned result => result.durable
  | .thrown => false

/-- `AlarmPublisher`, over whatever state its target has. -/
abbrev AlarmPublisher (σ : Type*) := StoredRecord → σ → AlarmOutcome × σ

/-- The part of `MonitorErrorInfo` that `enrich` reads. -/
structure MonitorErrorInfo where
  level : UInt32
  description : Bytes
deriving DecidableEq, Repr

abbrev MonitorModuleRegistry := UInt32 → Option (List MonitorErrorInfo)

/-- `MonitorModuleRegistry::find_error`: the event id indexes the module's table. -/
def findError (modules : MonitorModuleRegistry) (mid eid : UInt32) : Option MonitorErrorInfo :=
  match modules mid with
  | none => none
  | some errors => if eid.toNat ≥ errors.length then none else errors[eid.toNat]?

variable (modules : Option MonitorModuleRegistry)

/-- `MonitorReporter::enrich`. A reporter may have no registry. -/
def enrich (key : MonitorKey) (description : Bytes) : MonitorKey × Bytes :=
  match modules with
  | none => (key, description)
  | some modules =>
    match findError modules key.mid key.eid with
    | none => (key, description)
    | some error =>
      ({ key with level := error.level },
        if error.description.isEmpty then description else error.description)

structure ErrorReport where
  key : MonitorKey
  value : UInt32
  description : Bytes
  timestamp : MonitorTimestamp
deriving DecidableEq, Repr

/-- The datum `report_error` submits: a fresh number under the enriched key. -/
def ErrorReport.data (report : ErrorReport) (modules : Option MonitorModuleRegistry) :
    MonitorData :=
  let (key, description) := enrich modules report.key report.description
  ⟨key, description, .numeric ⟨report.value, 2⟩⟩

section Publisher

variable {σ : Type*}

def preparePublisher (publisher : AlarmPublisher σ) : PrepareUpdate σ :=
  some fun candidate world =>
    match publisher candidate world with
    | (.returned result, world) => (.returned result.durable, world)
    | (.thrown, world) => (.thrown, world)

/-- `MonitorReporter::report_error`. `snapshot` is what copying the installed
`std::function` gave: `none` if the copy threw, `some none` if it is empty. -/
def reportError
    (snapshot : Option (Option (AlarmPublisher σ))) (store : MonitorStore) (report : ErrorReport)
    (world : σ) : UpdateResult × MonitorStore × σ :=
  let data := report.data modules
  match snapshot with
  | none => (⟨.durabilityFailed, none⟩, store, world)
  | some none =>
    -- without a reliable channel the record goes out through the plain publisher
    let (result, store) := store.update data true report.timestamp
    (result, store, world)
  | some (some publisher) =>
    store.updatePrepared data true report.timestamp (preparePublisher publisher) world

lemma runPrepare_preparePublisher (publisher : AlarmPublisher σ) (candidate : StoredRecord)
    (world : σ) : runPrepare (some (preparePublisher publisher)) candidate world =
      ((publisher candidate world).1.durable, (publisher candidate world).2) := by
  simp only [preparePublisher, runPrepare]
  rcases publisher candidate world with ⟨_ | _, _⟩ <;> rfl

end Publisher

/-! ## Threads -/

/-- A call of `report_error` that has its snapshot and waits for the store's mutex. -/
structure PendingReport where
  data : MonitorData
  timestamp : MonitorTimestamp
deriving DecidableEq, Repr

structure PublisherCall where
  record : StoredRecord
  outcome : AlarmOutcome
deriving DecidableEq, Repr

/-- A finished call: what it was about, whether it got its snapshot of the
publisher, what it asked it, the store around the call and what it returned. -/
structure FinishedReport where
  data : MonitorData
  copied : Bool
  asked : List PublisherCall
  before : MonitorStore
  result : UpdateResult
  after : MonitorStore

structure ReporterState where
  modules : Option MonitorModuleRegistry
  store : MonitorStore
  pending : ℕ → Option PendingReport
  publisherLog : List PublisherCall
  finished : List FinishedReport

/-- A reporter over a given store, with no call under way. -/
def ReporterState.start (store : MonitorStore) : ReporterState :=
  ⟨modules, store, fun _ => none, [], []⟩

/-- What can happen: the registry changes, a thread enters `report_error` and
copies the publisher or fails to, a thread gets the mutex. -/
inductive ReporterEvent where
  | register (modules : Option MonitorModuleRegistry)
  | enter (thread : ℕ) (report : ErrorReport) (copied : Bool)
  | commit (thread : ℕ) (outcome : AlarmOutcome)

/-- The publisher of the concurrent system: it answers as the environment says
and keeps a log. -/
def loggingPublisher (outcome : AlarmOutcome) : AlarmPublisher (List PublisherCall) :=
  fun record log => (outcome, log ++ [⟨record, outcome⟩])

variable (store : MonitorStore)

/-- The critical section of a pending call, run on an empty log so that the log
it leaves is what this call asked. -/
def criticalSection (pending : PendingReport) (outcome : AlarmOutcome) :
    UpdateResult × MonitorStore × List PublisherCall :=
  store.updatePrepared pending.data true pending.timestamp
    (preparePublisher (loggingPublisher outcome)) []

def finish (pending : PendingReport) (outcome : AlarmOutcome) : FinishedReport :=
  let (result, after, asked) := criticalSection store pending outcome
  ⟨pending.data, true, asked, store, result, after⟩

/-- The log entry of a call whose copy of the publisher threw. -/
def copyFailure (data : MonitorData) : FinishedReport :=
  ⟨data, false, [], store, ⟨.durabilityFailed, none⟩, store⟩

def ReporterState.step (state : ReporterState) : ReporterEvent → ReporterState
  | .register modules => { state with modules := modules }
  | .enter thread report copied =>
    if (state.pending thread).isSome then state
    else if copied then
      { state with
        pending := Function.update state.pending thread
          (some ⟨report.data state.modules, report.timestamp⟩) }
    else
      -- the copy threw: the call ends before it reaches the store
      { state with
        finished := state.finished ++ [copyFailure state.store (report.data state.modules)] }
  | .commit thread outcome =>
    match state.pending thread with
    | none => state
    | some pending =>
      let entry := finish state.store pending outcome
      { state with
        store := entry.after
        pending := Function.update state.pending thread none
        publisherLog := state.publisherLog ++ entry.asked
        finished := state.finished ++ [entry] }

/-! ## The two logs -/

def durableRecords (log : List PublisherCall) : List StoredRecord :=
  (log.filter (·.outcome.durable)).map (·.record)

/-- The records committed as `INSERTED` or `UPDATED`, in order. -/
def committedRecords (finished : List FinishedReport) : List StoredRecord :=
  finished.filterMap fun entry => if entry.result.changed then entry.result.record else none

/-- The calls take the store from `first` to `last`, each starting where the one
before it ended. -/
def Linked : MonitorStore → List FinishedReport → MonitorStore → Prop
  | first, [], last => first = last
  | first, entry :: entries, last => entry.before = first ∧ Linked entry.after entries last

/-- What a finished call has done to the store: a commit has put its record
there, anything else has left the map as it was. -/
def FinishedReport.Sound (entry : FinishedReport) : Prop :=
  if entry.result.changed then
    ∃ record, entry.result.record = some record ∧ record.data = entry.data ∧
      entry.after = entry.before.emplace entry.data.key record
  else entry.after = entry.before

def FinishedReport.Refused (entry : FinishedReport) : Prop :=
  entry.result.status = .durabilityFailed ∧ entry.asked ≠ []

def NoCommitFor (key : MonitorKey) (entries : List FinishedReport) : Prop :=
  ∀ entry ∈ entries, entry.data.key = key → entry.result.changed = false

@[simp] lemma durableRecords_append (left right : List PublisherCall) :
    durableRecords (left ++ right) = durableRecords left ++ durableRecords right := by
  simp [durableRecords]

@[simp] lemma committedRecords_append (left right : List FinishedReport) :
    committedRecords (left ++ right) = committedRecords left ++ committedRecords right := by
  simp [committedRecords]

variable {entry : FinishedReport} {first : MonitorStore}

lemma linked_concat {last : MonitorStore} {entries : List FinishedReport}
    (hlinked : Linked first entries last) (hbef : entry.before = last) :
    Linked first (entries ++ [entry]) entry.after := by
  induction entries generalizing first with
  | nil =>
    cases hlinked
    exact ⟨hbef, rfl⟩
  | cons head tail ih => exact ⟨hlinked.1, ih hlinked.2⟩

/-! ## One critical section -/

/-- A critical section either keeps the store and asks nobody, or asks once and
commits exactly if the answer was "durable". -/
lemma finish_spec (pend : PendingReport) (outcome : AlarmOutcome) :
    let r : StoredRecord := ⟨pend.data, pend.timestamp⟩
    let entry := finish store pend outcome
    (entry.asked = [] ∧ entry.result = store.keepResult pend.data.key ∧ entry.after = store ∧
        store.wants pend.data true = false) ∨
      (entry.asked = [⟨r, outcome⟩] ∧ store.wants pend.data true ∧
        ((outcome.durable ∧ entry.result = ⟨store.commitStatus pend.data.key, some r⟩ ∧
            entry.after = store.emplace pend.data.key r) ∨
          (outcome.durable = false ∧ entry.result = ⟨.durabilityFailed, none⟩ ∧
            entry.after = store))) := by
  unfold finish criticalSection updatePrepared
  cases hwants : store.wants pend.data true with
  | false =>
    left
    simp only [updateImpl_of_not_wants hwants, and_self]
  | true =>
    right
    simp only [updateImpl_of_wants hwants, runPrepare_preparePublisher, loggingPublisher]
    cases hdurable : outcome.durable <;> simp

lemma changed_keepResult (key : MonitorKey) : (store.keepResult key).changed = false := by
  rcases keepResult_status store key with h | h <;> simp [changed, h]

def MonitorStore.Lacks (data : MonitorData) : Prop :=
  ∀ existing, store.records data.key = some existing →
    existing.data.value.content ≠ data.value.content

/-- A call that may follow upon this store. -/
structure FinishedReport.Legal (entry : FinishedReport) (store : MonitorStore) : Prop where
  starts : entry.before = store
  sound : entry.Sound
  gated : durableRecords entry.asked = committedRecords [entry]
  lacks : entry.Refused → store.Lacks entry.data
  asks : entry.copied = true → store.Lacks entry.data → entry.asked ≠ []

lemma FinishedReport.Legal.after_eq {store : MonitorStore}
    (hlegal : entry.Legal store) (hchanged : entry.result.changed = false) :
    entry.after = store := by
  have hsound := hlegal.sound
  rw [FinishedReport.Sound, hchanged, if_neg (by decide), hlegal.starts] at hsound
  exact hsound

lemma FinishedReport.Legal.records_after_of_ne {store : MonitorStore}
    (hlegal : entry.Legal store) {key : MonitorKey} (hkey : key ≠ entry.data.key) :
    entry.after.records key = store.records key := by
  cases hchanged : entry.result.changed with
  | false => rw [hlegal.after_eq hchanged]
  | true =>
    have hsound := hlegal.sound
    rw [FinishedReport.Sound, hchanged, if_pos rfl, hlegal.starts] at hsound
    obtain ⟨r, -, -, hafter⟩ := hsound
    rw [hafter, records_emplace, Function.update_of_ne hkey]

lemma finish_legal (pend : PendingReport) (outcome : AlarmOutcome) :
    (finish store pend outcome).Legal store := by
  have hbef : (finish store pend outcome).before = store := rfl
  have hdata : (finish store pend outcome).data = pend.data := rfl
  have hwants_iff : store.wants pend.data true = true ↔ store.Lacks pend.data :=
    wants_force_iff
  rcases finish_spec store pend outcome with
    ⟨hasked, hres, hafter, hwants⟩ |
      ⟨hasked, hwants, ⟨hdurable, hres, hafter⟩ | ⟨hdurable, hres, hafter⟩⟩
  · refine ⟨hbef, ?_, ?_, fun href => absurd hasked href.2, fun _ hlacks => ?_⟩
    · simp [FinishedReport.Sound, hres, hafter, hbef, changed_keepResult]
    · simp [durableRecords, committedRecords, hasked, hres, changed_keepResult]
    · rw [hdata, ← hwants_iff, hwants] at hlacks
      exact absurd hlacks (by decide)
  · have hchanged := changed_of_commitStatus store pend.data.key (some ⟨pend.data, pend.timestamp⟩)
    refine ⟨hbef, ?_, ?_, fun _ => hwants_iff.mp hwants, fun _ _ => by simp [hasked]⟩
    · rw [FinishedReport.Sound, hres, hchanged, if_pos rfl, hbef]
      exact ⟨_, rfl, rfl, hafter⟩
    · simp [durableRecords, committedRecords, hasked, hres, hdurable, hchanged]
  · refine ⟨hbef, ?_, ?_, fun _ => hwants_iff.mp hwants, fun _ _ => by simp [hasked]⟩
    · simp [FinishedReport.Sound, hres, hafter, hbef, changed]
    · simp [durableRecords, committedRecords, hasked, hres, hdurable, changed]

lemma copyFailure_legal (data : MonitorData) : (copyFailure store data).Legal store :=
  ⟨rfl, by simp [FinishedReport.Sound, copyFailure, changed],
    by simp [durableRecords, committedRecords, copyFailure, changed],
    fun href => absurd rfl href.2, fun hcopied => absurd hcopied Bool.false_ne_true⟩

/-! ## Whole runs -/

/-- A call that reports the value of an earlier refusal, with no commit for the
key in between, asks the publisher (provided it gets hold of it). -/
def RetriesAsk (finished : List FinishedReport) : Prop :=
  ∀ early refused between retry late, finished = early ++ refused :: (between ++ retry :: late) →
    refused.Refused → NoCommitFor refused.data.key between →
    retry.data.key = refused.data.key →
    retry.data.value.content = refused.data.value.content →
    retry.copied = true → retry.asked ≠ []

/-- The calls that have ended, one after another. -/
structure ReporterInvariant (first : MonitorStore) (state : ReporterState) : Prop where
  linked : Linked first state.finished state.store
  sound : ∀ entry ∈ state.finished, entry.Sound
  logged : state.publisherLog = state.finished.flatMap (·.asked)
  gate : durableRecords state.publisherLog = committedRecords state.finished
  lacks : ∀ early refused later, state.finished = early ++ refused :: later →
    refused.Refused → NoCommitFor refused.data.key later → state.store.Lacks refused.data
  retries : RetriesAsk state.finished

/-- A list that ends in `entry`, cut at `middle`: either `middle` is that last
entry, or the cut lies in front of it. -/
private lemma concat_eq_append_cons {α : Type*} {front early later : List α} {entry middle : α}
    (hsplit : front ++ [entry] = early ++ middle :: later) :
    (later = [] ∧ middle = entry ∧ early = front) ∨
      ∃ later', later = later' ++ [entry] ∧ front = early ++ middle :: later' := by
  rcases eq_nil_or_concat later with rfl | ⟨later', last, rfl⟩
  · obtain ⟨hfront, hentry⟩ := append_inj' hsplit rfl
    exact Or.inl ⟨rfl, by simpa using hentry.symm, hfront.symm⟩
  · rw [concat_eq_append, ← cons_append, ← append_assoc] at hsplit
    obtain ⟨hfront, hentry⟩ := append_inj' hsplit rfl
    exact Or.inr ⟨later', by simpa using hentry.symm, hfront⟩

lemma ReporterInvariant.append {s : ReporterState} (hinv : ReporterInvariant first s)
    (hlegal : entry.Legal s.store) (pend : ℕ → Option PendingReport) :
    ReporterInvariant first { s with
        store := entry.after
        pending := pend
        publisherLog := s.publisherLog ++ entry.asked
        finished := s.finished ++ [entry] } where
  linked := linked_concat hinv.linked hlegal.starts
  sound := by
    intro candidate hmem
    rcases mem_append.mp hmem with hold | hnew
    · exact hinv.sound candidate hold
    · rw [mem_singleton.mp hnew]
      exact hlegal.sound
  logged := by simp [hinv.logged]
  gate := by
    simp only [durableRecords_append, committedRecords_append, hinv.gate, hlegal.gated]
  lacks := by
    intro early refused later hsplit href hnone
    rcases concat_eq_append_cons hsplit with ⟨-, rfl, -⟩ | ⟨later', rfl, hfront⟩
    · have hchanged : refused.result.changed = false := by
        simp [changed, href.1]
      simpa only [hlegal.after_eq hchanged] using hlegal.lacks href
    · have hlacks := hinv.lacks early refused later' hfront href
        fun call hcall => hnone call (mem_append_left _ hcall)
      -- the new call either is about another key or has committed nothing
      unfold MonitorStore.Lacks at hlacks ⊢
      by_cases hkey : refused.data.key = entry.data.key
      · have hchanged := hnone entry (by simp) hkey.symm
        simpa only [hlegal.after_eq hchanged] using hlacks
      · simpa only [hlegal.records_after_of_ne hkey] using hlacks
  retries := by
    intro early refused between retry late hsplit href hnone hkey hvalue hcopied
    have hcut : s.finished ++ [entry] = (early ++ refused :: between) ++ retry :: late := by
      simpa using hsplit
    rcases concat_eq_append_cons hcut with ⟨-, rfl, hfront⟩ | ⟨late', rfl, hfront⟩
    · have hlacks := hinv.lacks early refused between hfront.symm href hnone
      refine hlegal.asks hcopied ?_
      unfold MonitorStore.Lacks at hlacks ⊢
      rwa [hkey, hvalue]
    · exact hinv.retries early refused between retry late' (by simpa using hfront)
        href hnone hkey hvalue hcopied

lemma reporterInvariant_start (store : MonitorStore) :
    ReporterInvariant store (ReporterState.start modules store) where
  linked := rfl
  sound := by simp [ReporterState.start]
  logged := rfl
  gate := rfl
  lacks := by simp [ReporterState.start]
  retries := by simp [RetriesAsk, ReporterState.start]

lemma reporterInvariant_step (s : ReporterState)
    (event : ReporterEvent) (hinv : ReporterInvariant first s) :
    ReporterInvariant first (s.step event) := by
  cases event with
  | register modules =>
    exact { hinv with }
  | enter thread report copied =>
    unfold ReporterState.step
    dsimp only
    split_ifs
    · exact hinv
    · exact { hinv with }
    · simpa [copyFailure] using
        hinv.append (copyFailure_legal s.store (report.data s.modules)) s.pending
  | commit thread outcome =>
    unfold ReporterState.step
    dsimp only
    split
    · exact hinv
    · exact hinv.append (finish_legal _ _ _) _

/-- In every run the publisher's durable answers are the commits of the store, record for record and
in order; every other call leaves the map as it was; and a refused value that is reported again,
with no commit for its key in between, is put to the publisher again. -/
theorem durable_records_eq_commits (store : MonitorStore) (events : List ReporterEvent) :
    let state := run ReporterState.step (ReporterState.start modules store) events
    durableRecords state.publisherLog = committedRecords state.finished ∧
      state.publisherLog = state.finished.flatMap (·.asked) ∧
      Linked store state.finished state.store ∧
      (∀ entry ∈ state.finished,
        entry.Sound ∧
          (entry.result.status = .unchanged ∨ entry.result.status = .durabilityFailed →
            entry.after = entry.before)) ∧
      RetriesAsk state.finished := by
  intro state
  have hinv := run_invariant reporterInvariant_step (reporterInvariant_start modules store) events
  refine ⟨hinv.gate, hinv.logged, hinv.linked, fun entry hentry => ⟨hinv.sound entry hentry, ?_⟩,
    hinv.retries⟩
  intro hstatus
  have hsound := hinv.sound entry hentry
  have hchanged : entry.result.changed = false := by
    rcases hstatus with h | h <;> simp [changed, h]
  rwa [FinishedReport.Sound, hchanged, if_neg (by decide)] at hsound

/-- Two threads report the same value; the publisher throws on the first and is
asked again by the second, which commits. -/
def refusedThenRetried : List ReporterEvent :=
  [.enter 0 ⟨⟨1, 2, 3, 4⟩, 7, [], default⟩ true, .enter 1 ⟨⟨1, 2, 3, 4⟩, 7, [], default⟩ true,
    .commit 0 .thrown, .commit 1 (.returned ⟨.success, 0⟩)]

theorem durable_records_eq_commits_refusedThenRetried :
    let state := run ReporterState.step (ReporterState.start none .empty) refusedThenRetried
    state.finished.map (·.result.status) = [.durabilityFailed, .inserted] ∧
      state.publisherLog.length = 2 ∧ (committedRecords state.finished).length = 1 ∧
      durableRecords state.publisherLog = committedRecords state.finished :=
  ⟨by decide, by decide, by decide, (durable_records_eq_commits none .empty refusedThenRetried).1⟩

/-- A value is committed, a second call with it cannot copy the publisher, and a third one finds
the value in the store. -/
def copyFailsThenRetried : List ReporterEvent :=
  [.enter 0 ⟨⟨1, 2, 3, 4⟩, 7, [], default⟩ true, .commit 0 (.returned ⟨.success, 0⟩),
    .enter 0 ⟨⟨1, 2, 3, 4⟩, 7, [], default⟩ false, .enter 0 ⟨⟨1, 2, 3, 4⟩, 7, [], default⟩ true,
    .commit 0 (.returned ⟨.success, 0⟩)]

theorem failed_copy_not_asked_again :
    let state := run ReporterState.step (ReporterState.start none .empty) copyFailsThenRetried
    state.finished.map (·.result.status) = [.inserted, .durabilityFailed, .unchanged] ∧
      state.finished.map (·.asked.length) = [1, 0, 0] ∧
      state.finished.map (·.copied) = [true, false, true] := by
  decide

end Tlss.Monitor
