import Tlss.Ftp.ReceiverBody
import Tlss.Ftp.TransferConnection
import Tlss.Library.Slots

/-!
# The metrics of transfers

A task counts its start, and its end once, whichever of its callbacks comes first. A commit is
counted by the finalizer on the disk thread, whether there is still a task or not. So every
counter is the number of tasks with some property (`counted`), and the laws between the counters
are laws of a single task (`Sound`).

Of the receiver of an upload there are the finalizer and what is reported to the task: a failure
only before the finalizer is submitted or after it has thrown (`Writer.Follows.result`). Whether a
callback goes on behind its checks of the connection and the phase comes with the event. The
destructor cancels, and a task that is gone does as little as one that is cancelled. The counters
are capped at `2 ^ 64 - 1`; here they are numbers, and none gets past the number of tasks.
-/

namespace Tlss.Ftp

open Library List

inductive Ending
  | completed
  | failed
  | cancelled
deriving DecidableEq

/-- `ended .upload .completed` is no metric; the observer counts the completed uploads there. -/
inductive Metric
  | started (kind : TransferKind)
  | active (kind : TransferKind)
  | committed
  | ended (kind : TransferKind) (ending : Ending)
deriving DecidableEq

inductive Writer
  | absent
  | working
  /-- The finalizer is submitted. -/
  | finishing
  /-- The finalizer has run, and its result is on its way. -/
  | finalized (committed : Bool)
  | closed
deriving DecidableEq

/-- `awaiting` stands for the callback that answers `start`. The observer keeps whether the
finalizer has committed and how the task has ended. -/
structure MeteredTask where
  kind : TransferKind
  started : Bool := false
  awaiting : Bool := false
  metricActive : Bool := false
  cancelled : Bool := false
  writer : Writer := .absent
  committed : Bool := false
  ending : Option Ending := none

/-- A task with the counters, which it shares with all others. -/
structure Metered where
  metrics : Metric → ℕ
  task : MeteredTask

inductive TaskEvent
  | start (proceeds accepted : Bool)
  | prepared (proceeds succeeds : Bool)
  | finish
  | finalize (commits : Bool)
  | done (proceeds : Bool)
  | failed
  | acknowledge
  | cancel

namespace Metered

variable (s : Metered)

def add (metric : Metric) : Metered :=
  { s with metrics := Function.update s.metrics metric (s.metrics metric + 1) }

def subtract (metric : Metric) : Metered :=
  { s with metrics := Function.update s.metrics metric (s.metrics metric - 1) }

def metricsStart : Metered :=
  if s.task.metricActive then s
  else
    ({ s with task := { s.task with metricActive := true } }.add (.started s.task.kind)).add
      (.active s.task.kind)

def metricsFinish (ending : Ending) : Metered :=
  if !s.task.metricActive then s
  else
    (subtract { s with task := { s.task with metricActive := false, ending := some ending } }
      (.active s.task.kind)).add (.ended s.task.kind ending)

def setWriter (writer : Writer) : Metered := { s with task := { s.task with writer } }

/-- A receiver that is cancelled submits no finalizer any more. -/
def cancel : Metered :=
  let s := s.metricsFinish .cancelled
  let writer := if s.task.writer = .working then .closed else s.task.writer
  { s with task := { s.task with cancelled := true, writer } }

/-- `UploadTask::start` and `DownloadTask::start`. -/
def start (proceeds accepted : Bool) : Metered :=
  if !proceeds || s.task.cancelled || s.task.started then s
  else
    let s := metricsStart { s with task := { s.task with started := true, awaiting := accepted } }
    if accepted then s else s.metricsFinish .failed

def onPrepared (proceeds succeeds : Bool) : Metered :=
  if !s.task.awaiting then s
  else
    let s := { s with task := { s.task with awaiting := false } }
    if !proceeds || s.task.cancelled then s
    else if succeeds then s.setWriter .working else s.metricsFinish .failed

def finalize (commits : Bool) : Metered :=
  if s.task.writer ≠ .finishing then s
  else if commits then
    { s with task := { s.task with writer := .finalized true, committed := true } }.add .committed
  else s.setWriter (.finalized false)

def onDone (proceeds : Bool) : Metered :=
  if s.task.writer ≠ .finalized true || s.task.cancelled then s
  else if proceeds then (s.setWriter .closed).metricsFinish .completed
  else s.setWriter .closed

def onFailed : Metered :=
  if (s.task.writer = .working ∨ s.task.writer = .finalized false) ∧ !s.task.cancelled then
    (s.setWriter .closed).metricsFinish .failed
  else s

def act : TaskEvent → Metered
  | .start proceeds accepted => s.start proceeds accepted
  | .cancel => s.cancel
  | event =>
    match s.task.kind, event with
    | .upload, .prepared proceeds succeeds => s.onPrepared proceeds succeeds
    | .upload, .finish => if s.task.writer = .working then s.setWriter .finishing else s
    | .upload, .finalize commits => s.finalize commits
    | .upload, .done proceeds => s.onDone proceeds
    | .upload, .failed => s.onFailed
    | .download, .failed => s.metricsFinish .failed
    | .download, .acknowledge => s.metricsFinish .completed
    | _, _ => s

end Metered

/-! ## One task -/

/-- A task ends once, after its start, and as its writer has. -/
structure MeteredTask.Sound (t : MeteredTask) : Prop where
  active : t.metricActive = (t.started && t.ending.isNone)
  ended : t.ending ≠ none → t.started
  fresh : t.started = false → t.writer = .absent ∧ t.awaiting = false
  awaiting : t.awaiting → t.writer = .absent
  late : t.committed → t.writer = .finalized true ∨ t.writer = .closed
  finalized : t.writer = .finalized true → t.committed
  completed : t.kind = .upload → t.ending = some .completed → t.committed
  /-- An upload that has failed commits no more. -/
  failed : t.kind = .upload → t.ending = some .failed →
    t.committed = false ∧ (t.writer = .closed ∨ t.writer = .absent ∧ t.awaiting = false)

/-- Whether a metric counts a task. -/
def MeteredTask.counted (t : MeteredTask) : Metric → Bool
  | .started kind => t.kind = kind && t.started
  | .active kind => t.kind = kind && t.started && t.ending.isNone
  | .committed => t.committed
  | .ended kind ending => t.kind = kind && t.ending = some ending

/-- The counters are those of the other tasks and what this one has added to them. -/
structure Metered.Good (base : Metric → ℕ) (s : Metered) : Prop where
  sound : s.task.Sound
  balanced : ∀ metric, s.metrics metric = base metric + if s.task.counted metric then 1 else 0

namespace Metered

open MeteredTask

variable {s : Metered} {base : Metric → ℕ}

section

variable (h : s.Good base)
include h

/-- A change of the task that no metric counts. -/
lemma Good.update {t : MeteredTask} (hsound : t.Sound) (hsame : t.counted = s.task.counted) :
    Good base { s with task := t } :=
  ⟨hsound, fun m => hsame ▸ h.balanced m⟩

lemma Good.metricsFinish (ending : Ending)
    (hcompleted : ending = .completed → s.task.kind = .upload → s.task.committed)
    (hfailed : ending = .failed → s.task.kind = .upload → s.task.committed = false ∧
      (s.task.writer = .closed ∨ s.task.writer = .absent ∧ s.task.awaiting = false)) :
    (s.metricsFinish ending).Good base := by
  have hsound := h.sound
  refine iteInduction (fun _ => h) fun hactive => ?_
  obtain ⟨hstarted, hnone⟩ : s.task.started = true ∧ s.task.ending = none := by
    simpa [hsound.active] using hactive
  refine ⟨by constructor <;> grind [Sound, add, subtract], fun m => ?_⟩
  have hm := h.balanced m
  cases m <;>
    simp [counted, add, subtract, Function.update_apply, hstarted, hnone] at hm ⊢ <;> grind

lemma Good.start (proceeds accepted : Bool) : (s.start proceeds accepted).Good base := by
  have hsound := h.sound
  refine iteInduction (fun _ => h) fun hstart => ?_
  obtain ⟨hstarted, hactive, hnone⟩ : s.task.started = false ∧ s.task.metricActive = false ∧
      s.task.ending = none := by
    grind [Sound]
  have hbegun : Good base (Metered.metricsStart
      { s with task := { s.task with started := true, awaiting := accepted } }) := by
    rw [Metered.metricsStart, if_neg (by simp [hactive])]
    refine ⟨by constructor <;> grind [Sound, add], fun m => ?_⟩
    have hm := h.balanced m
    cases m <;> simp [counted, add, Function.update_apply, hstarted, hnone] at hm ⊢ <;> grind
  refine iteInduction (fun _ => hbegun) fun haccepted => hbegun.metricsFinish .failed nofun ?_
  grind [add, Metered.metricsStart, Sound]

lemma Good.cancel : s.cancel.Good base := by
  have hended := h.metricsFinish .cancelled nofun nofun
  have hsound := hended.sound
  exact hended.update (by constructor <;> grind [Sound]) rfl

lemma Good.onPrepared (proceeds succeeds : Bool) : (s.onPrepared proceeds succeeds).Good base := by
  have hsound := h.sound
  refine iteInduction (fun _ => h) fun hawaiting => ?_
  have hnext := h.update (t := { s.task with awaiting := false })
    (by constructor <;> grind [Sound]) rfl
  refine iteInduction (fun _ => hnext) fun _ => ?_
  refine iteInduction (fun _ => hnext.update ?_ rfl) fun _ =>
    hnext.metricsFinish .failed nofun ?_
  · constructor <;> grind [Sound]
  · grind [Sound]

lemma Good.finalize (commits : Bool) : (s.finalize commits).Good base := by
  have hsound := h.sound
  refine iteInduction (fun _ => h) fun hwriter => ?_
  refine iteInduction (fun _ => ?_) fun _ => h.update ?_ rfl
  · refine ⟨by constructor <;> grind [Sound, add], fun m => ?_⟩
    have hm := h.balanced m
    have hnot : s.task.committed = false := by grind [Sound]
    cases m <;> simp [counted, add, hnot] at hm ⊢ <;> grind
  · constructor <;> grind [Sound]

lemma Good.act (event : TaskEvent) : (s.act event).Good base := by
  have hsound := h.sound
  have hclosed (hworked : s.task.writer ≠ .absent) : Good base (s.setWriter .closed) :=
    h.update (by constructor <;> grind [Sound]) rfl
  unfold Metered.act
  split
  · exact h.start _ _
  · exact h.cancel
  · split
    · exact h.onPrepared _ _
    · refine iteInduction (fun _ => h.update ?_ rfl) fun _ => h
      constructor <;> grind [Sound]
    · exact h.finalize _
    · refine iteInduction (fun _ => h) fun hwriter => ?_
      have hclosed := hclosed (by grind)
      refine iteInduction (fun _ => hclosed.metricsFinish _ (fun _ _ => ?_) nofun) fun _ => hclosed
      exact hsound.finalized (by grind)
    · refine iteInduction (fun hwriter => ?_) fun _ => h
      refine (hclosed (by grind)).metricsFinish _ nofun fun _ _ => ⟨?_, .inl rfl⟩
      change s.task.committed = false
      grind [Sound]
    · exact h.metricsFinish _ nofun (by simp_all)
    · exact h.metricsFinish _ (by simp_all) nofun
    · exact h

end

end Metered

/-! ## The receiver of an upload -/

/-- The writer a receiver stands for. One that is stuck reports nothing any more, and matters
only while its finalizer may still run. -/
def Writer.Follows (writer : Writer) (receiver : AsyncReceiver) : Prop :=
  match receiver.stage with
  | .queued .finish _ | .checked .finish _ false => writer = .finishing
  | .ran .finish outcome | .ending .finish outcome =>
    receiver.stuck ∨ writer = .finalized outcome.isOk
  | .idle =>
    receiver.stuck ∨
      match receiver.results with
      | [⟨.finish, outcome⟩] => writer = .finalized outcome.isOk
      | _ => writer = .working
  | _ => receiver.stuck ∨ writer = .working

/-- What a step of the disk worker is to the metrics. -/
def AsyncReceiver.metered (receiver : AsyncReceiver) : DiskStep → List TaskEvent
  | .carryOut outcome =>
    match receiver.stage with
    | .checked .finish _ false => [.finalize (receiver.opened && outcome.isOk)]
    | _ => []
  | _ => []

section

variable {s : Metered} {r : AsyncReceiver} {size : ℕ}
variable (h : s.task.writer.Follows r) (hex : r.Exact size) (hkind : s.task.kind = .upload)

open AsyncReceiver Metered

lemma Writer.follows_of_stuck {w : Writer} (hstuck : r.stuck)
    (hstage : r.stage = .idle ∨ r.stage = .cleanup) : w.Follows r := by
  rcases hstage with hstage | hstage <;> simp [Follows, hstage, hstuck]

lemma Writer.follows_create {accepted : Bool} (hcreate : create size accepted = some r) :
    working.Follows r := by
  cases accepted <;> simp [create, AsyncReceiver.submit, launch] at hcreate
  simp [Follows, ← hcreate]

include hkind in
lemma Metered.writer_finalize (hwriter : s.task.writer = .finishing) (commits : Bool) :
    (s.act (.finalize commits)).task.writer = .finalized commits := by
  cases commits <;> simp [act, hkind, finalize, hwriter, setWriter, add]

include h hex hkind in
lemma Writer.Follows.diskStep (step : DiskStep) :
    (run act s (r.metered step)).task.writer.Follows (r.diskStep step) := by
  have hsound := hex.stage
  have hnone (hstage : r.stage ≠ .idle) (hlive : r.stuck = false) : r.results = [] :=
    ((hex.flight hlive).under_way hstage).2
  unfold AsyncReceiver.diskStep metered
  cases step with
  | check =>
    unfold diskCheck
    cases hstage : r.stage with
    | queued operation d =>
      cases operation <;> cases hcancel : r.diskCancelled <;> simp_all [Follows, run, stuck]
    | _ => exact h
  | carryOut outcome =>
    unfold diskRun
    cases hstage : r.stage with
    | checked operation d cancelled =>
      cases operation <;> cases cancelled <;> cases hopened : r.opened <;>
        simp_all [Follows, run, stuck, StageSound, writer_finalize, Except.isOk, Except.toBool]
    | _ => exact h
  | conclude =>
    unfold diskEnd
    cases hstage : r.stage with
    | ran operation outcome =>
      cases operation <;> cases hcancel : r.diskCancelled <;> cases hok : outcome.isOk <;>
        cases hterminal : r.terminal <;> simp_all [Follows, run, stuck, StageSound, postResult]
    | _ => exact h
  | post =>
    unfold diskPost
    cases hstage : r.stage with
    | ending operation outcome =>
      cases operation <;> cases hcancel : r.diskCancelled <;> cases hterminal : r.terminal <;>
        simp_all [Follows, run, stuck, StageSound, postResult]
    | _ => exact h
  | clean =>
    unfold diskCleanup
    cases hstage : r.stage with
    | cleanup | cleaning => simp_all [Follows, run, stuck, StageSound]
    | _ => exact h

include h hex hkind in
lemma Writer.Follows.submit (hlive : r.stuck = false) (hbusy : r.busy = false)
    (operation : DiskOperation) (d : Bytes) (accepted : Bool) :
    (if accepted && operation = .finish then s.act .finish else s).task.writer.Follows
      (r.submit operation d accepted).2 := by
  obtain ⟨hstage, hterminal, hresults⟩ := hex.at_rest hlive hbusy
  have hworking : s.task.writer = .working := by simpa [Follows, hstage, hlive, hresults] using h
  rw [hex.submit_eq hlive hbusy]
  cases accepted with
  | true => cases operation <;> simp [Follows, hworking, act, hkind, setWriter]
  | false =>
    have hidle : r.diskBusy = false := hex.diskBusy.mpr hstage
    exact follows_of_stuck (by simp [stuck]) (by simp [AsyncReceiver.cancel, hterminal, hidle])

include h in
lemma Writer.Follows.cancel : s.cancel.task.writer.Follows r.cancel := by
  have hkeeps (hwriter : s.task.writer = .finishing) : s.cancel.task.writer = .finishing := by
    grind [Metered.cancel, metricsFinish, add, subtract]
  rcases r.cancel_cases with hcancel | hcancel
  · rw [hcancel]
    unfold Follows at h ⊢
    simp only [stuck, Bool.or_true]
    grind
  · exact follows_of_stuck cancel_stuck (.inr (by rw [hcancel]))

include h hex in
/-- A failure is reported only before the finalizer is submitted or after it has thrown, and
nothing after that. -/
lemma Writer.Follows.result {result : DiskResult} {results : List DiskResult}
    (hlive : r.stuck = false) (hresults : r.results = result :: results) :
    match result.outcome, result.operation with
    | .error _, _ => (s.task.writer = .working ∨ s.task.writer = .finalized false) ∧
      ∀ w : Writer, w.Follows { r with results, busy := false }.abandon
    | .ok _, .finish => s.task.writer = .finalized true ∧
      ∀ w : Writer, w.Follows { r with results, busy := false, terminal := true }
    | .ok _, _ => s.task.writer.Follows { r with results, busy := false } := by
  cases hex.flight hlive with
  | nothing _ _ _ hnone | operation _ _ hnone => simp [hresults] at hnone
  | result _ hstage other hone =>
    obtain ⟨rfl, rfl⟩ : result = other ∧ results = [] := by simpa [hresults] using hone
    obtain ⟨operation, outcome⟩ := result
    simp only [Follows, hstage, hlive, hresults, Bool.false_eq_true, false_or] at h
    cases outcome with
    | error error =>
      refine ⟨?_, fun w => follows_of_stuck rfl ?_⟩
      · cases operation <;> simp_all [Except.isOk, Except.toBool]
      · rw [abandon, cancel_results]
        rcases r.cancel_cases with hcancel | hcancel <;> simp [hcancel, hstage]
    | ok value =>
      cases operation with
      | finish => exact ⟨h, fun w => follows_of_stuck rfl (.inl hstage)⟩
      | prepare | write => simpa [Follows, hstage] using .inr h

end

/-! ## All tasks -/

structure Transfers where
  metrics : Metric → ℕ
  tasks : List MeteredTask

/-- An event of the task at a position. -/
def Transfers.step (s : Transfers) (event : ℕ × TaskEvent) : Transfers :=
  match s.tasks[event.1]? with
  | none => s
  | some task =>
    let metered := (Metered.mk s.metrics task).act event.2
    ⟨metered.metrics, s.tasks.set event.1 metered.task⟩

/-- Every counter counts tasks. -/
structure Transfers.Inv (s : Transfers) : Prop where
  sound : ∀ t ∈ s.tasks, t.Sound
  balanced : ∀ metric, s.metrics metric = s.tasks.countP (·.counted metric)

lemma Transfers.Inv.step {s : Transfers} (h : s.Inv) (event : ℕ × TaskEvent) :
    (s.step event).Inv := by
  unfold Transfers.step
  cases hold : s.tasks[event.1]? with
  | none => exact h
  | some task =>
    have hgood : Metered.Good (fun m => (s.tasks.eraseIdx event.1).countP (·.counted m))
        ⟨s.metrics, task⟩ := by
      refine ⟨h.sound task (mem_of_getElem? hold), fun metric => ?_⟩
      change s.metrics metric = _
      rw [h.balanced, (slots_perm_cons hold).countP_eq, countP_cons]
    obtain ⟨hsound, hbal⟩ := hgood.act event.2
    refine ⟨fun t ht => ?_, fun metric => ?_⟩
    · rcases mem_or_eq_of_mem_set ht with hmem | rfl
      · exact h.sound t hmem
      · exact hsound
    · change Metered.metrics _ metric = _
      rw [hbal, (slots_set_perm_cons hold _).countP_eq, countP_cons]

lemma countP_started {tasks : List MeteredTask} (hsound : ∀ t ∈ tasks, t.Sound)
    (kind : TransferKind) : tasks.countP (·.counted (.started kind)) =
      tasks.countP (·.counted (.active kind)) + tasks.countP (·.counted (.ended kind .completed)) +
        tasks.countP (·.counted (.ended kind .failed)) +
        tasks.countP (·.counted (.ended kind .cancelled)) := by
  induction tasks with
  | nil => rfl
  | cons t tasks ih =>
    rw [forall_mem_cons] at hsound
    have hended := hsound.1.ended
    rw [countP_cons, countP_cons, countP_cons, countP_cons, countP_cons, ih hsound.2]
    rcases hending : t.ending with _ | (_ | _ | _) <;>
      simp [MeteredTask.counted, hending] at hended ⊢ <;> grind

end Tlss.Ftp
