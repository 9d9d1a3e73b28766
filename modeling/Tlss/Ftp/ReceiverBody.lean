import Tlss.Ftp.AsyncReceiver

/-!
# What a receiver passes to the disk

`Exact size` relates the fields of a receiver to what was fed to it. The stage of the
worker carries the argument: an operation is launched only when the worker is idle and
neither cancelled nor at its end, and then everything that was fed has been appended. From
there the block under way is the only difference between the two.

A receiver that is `stuck` was cancelled or given up; the loop ignores whatever still comes
from its worker. While it is not stuck, `busy` says whether an operation or its result is
under way.
-/

namespace Tlss.Ftp

open Library (Bytes)
open List

namespace AsyncReceiver

def stuck (receiver : AsyncReceiver) : Bool := receiver.terminal || receiver.diskCancelled

/-- Everything that was fed has been appended, apart from `data`. -/
structure Pending (receiver : AsyncReceiver) (data : Bytes) : Prop where
  passed : receiver.passed.flatten ++ data = receiver.fed
  appended : receiver.appended + data.length = receiver.fed.length
  finalized : receiver.finalized = 0

/-- The disk is passed a beginning of what was fed, and finalizes all of it. -/
structure Bounded (receiver : AsyncReceiver) (size : ℕ) : Prop where
  passed : receiver.passed.flatten <+: receiver.fed
  finalized : receiver.finalized ≤ 1
  complete : receiver.finalized ≠ 0 →
    receiver.appended = size ∧ receiver.passed.flatten = receiver.fed ∧ receiver.fed.length = size

def Launched (receiver : AsyncReceiver) (size : ℕ) (data : Bytes) : DiskOperation → Prop
  | .prepare => data = []
  | .write => data.length ≤ chunkBytes
  | .finish => data = [] ∧ receiver.fed.length = size

def StageSound (receiver : AsyncReceiver) (size : ℕ) : DiskStage → Prop
  | .idle =>
    receiver.Bounded size ∧
      (receiver.diskCancelled = false → receiver.diskTerminal = false → receiver.Pending [])
  | .queued operation data | .checked operation data false =>
    receiver.diskTerminal = false ∧ receiver.Pending data ∧ receiver.Launched size data operation
  | .checked _ _ true =>
    receiver.diskTerminal = false ∧ receiver.Bounded size ∧ receiver.diskCancelled = true
  | .ran operation outcome =>
    receiver.diskTerminal = false ∧ receiver.Bounded size ∧
      (receiver.diskCancelled = false → outcome.isOk = true → operation ≠ .finish →
        receiver.Pending []) ∧
      (receiver.diskCancelled = false → operation = .finish → receiver.fed.length = size)
  | .ending operation outcome =>
    receiver.diskTerminal = true ∧ receiver.Bounded size ∧
      (receiver.diskCancelled = true ∨ outcome.isOk = false ∨ operation = .finish) ∧
      (receiver.diskCancelled = false → operation = .finish → receiver.fed.length = size)
  | .cleanup => receiver.Bounded size ∧ receiver.diskCancelled = true
  | .cleaning =>
    receiver.Bounded size ∧ receiver.diskCancelled = true ∧ receiver.diskTerminal = true

/-- What is under way, as the loop knows it: nothing, an operation, or its result. -/
inductive Flight (receiver : AsyncReceiver) (size : ℕ) : Prop
  | nothing (hbusy : receiver.busy = false) (hstage : receiver.stage = .idle)
      (hterminal : receiver.diskTerminal = false) (hresults : receiver.results = [])
  | operation (hbusy : receiver.busy = true) (hstage : receiver.stage ≠ .idle)
      (hresults : receiver.results = [])
  | result (hbusy : receiver.busy = true) (hstage : receiver.stage = .idle) (result : DiskResult)
      (hresults : receiver.results = [result])
      (hterminal : receiver.diskTerminal = true →
        result.outcome.isOk = false ∨ result.operation = .finish)
      (hfinish : result.operation = .finish → receiver.fed.length = size)

/-- The invariant of a receiver for a body of this size. -/
structure Exact (receiver : AsyncReceiver) (size : ℕ) : Prop where
  remaining : receiver.remaining + receiver.fed.length = size
  requested : receiver.finishRequested = true → receiver.remaining = 0
  diskBusy : receiver.diskBusy = false ↔ receiver.stage = .idle
  chunks : ∀ block ∈ receiver.passed, block.length ≤ chunkBytes
  stage : receiver.StageSound size receiver.stage
  flight : receiver.stuck = false → receiver.Flight size

variable {r y : AsyncReceiver} {size : ℕ} {d : Bytes}

lemma Pending.bounded (hpend : r.Pending d) : r.Bounded size where
  passed := ⟨d, hpend.passed⟩
  finalized := by rw [hpend.finalized]; exact Nat.zero_le 1
  complete hfinalized := absurd hpend.finalized hfinalized

lemma StageSound.bounded (hstage : r.StageSound size r.stage) : r.Bounded size := by
  cases hcase : r.stage with
  | idle | cleanup | cleaning => rw [hcase] at hstage; exact hstage.1
  | queued operation d => rw [hcase] at hstage; exact hstage.2.1.bounded
  | checked operation d cancelled =>
    rw [hcase] at hstage
    cases cancelled
    · exact hstage.2.1.bounded
    · exact hstage.2.1
  | ran operation out | ending operation out => rw [hcase] at hstage; exact hstage.2.1

lemma StageSound.congr {stage : DiskStage}
    (hstage : r.StageSound size stage) (hpassed : y.passed = r.passed)
    (happended : y.appended = r.appended) (hfed : y.fed = r.fed)
    (hfinalized : y.finalized = r.finalized) (hcanc : y.diskCancelled = r.diskCancelled)
    (hterm : y.diskTerminal = r.diskTerminal) : y.StageSound size stage := by
  have hpend : ∀ {d}, r.Pending d → y.Pending d := fun h =>
    ⟨by rw [hpassed, hfed]; exact h.passed, by rw [happended, hfed]; exact h.appended,
      by rw [hfinalized]; exact h.finalized⟩
  have hbnd : r.Bounded size → y.Bounded size := fun h =>
    ⟨by rw [hpassed, hfed]; exact h.passed, by rw [hfinalized]; exact h.finalized,
      by rw [hfinalized, happended, hpassed, hfed]; exact h.complete⟩
  have hlaunched : ∀ {d operation}, r.Launched size d operation →
      y.Launched size d operation := fun {d operation} h => by
    cases operation <;> simpa only [Launched, hfed] using h
  unfold StageSound at hstage ⊢
  rw [hcanc, hterm]
  split <;> simp only at hstage
  · exact ⟨hbnd hstage.1, fun h h' => hpend (hstage.2 h h')⟩
  · exact ⟨hstage.1, hpend hstage.2.1, hlaunched hstage.2.2⟩
  · exact ⟨hstage.1, hpend hstage.2.1, hlaunched hstage.2.2⟩
  · exact ⟨hstage.1, hbnd hstage.2.1, hstage.2.2⟩
  · exact ⟨hstage.1, hbnd hstage.2.1, fun h h' h'' => hpend (hstage.2.2.1 h h' h''),
      hfed ▸ hstage.2.2.2⟩
  · exact ⟨hstage.1, hbnd hstage.2.1, hstage.2.2.1, hfed ▸ hstage.2.2.2⟩
  · exact ⟨hbnd hstage.1, hstage.2⟩
  · exact ⟨hbnd hstage.1, hstage.2⟩

/-! ## The loop -/

lemma cancel_cases (r : AsyncReceiver) : r.cancel = { r with diskCancelled := true } ∨
      r.cancel = { r with diskCancelled := true, diskBusy := true, stage := .cleanup } := by
  by_cases hdone : (r.diskTerminal || r.diskBusy) = true
  · exact .inl (if_pos hdone)
  · exact .inr (if_neg hdone)

section

variable (hex : r.Exact size)
include hex

lemma Exact.cancel : r.cancel.Exact size := by
  have hbnd := hex.stage.bounded
  rcases r.cancel_cases with hcancel | hcancel <;> rw [hcancel]
  · refine { hex with stage := ?_, flight := ?_ }
    · have hstage := hex.stage
      cases hcase : r.stage with
      | idle => exact ⟨⟨hbnd.1, hbnd.2, hbnd.3⟩, nofun⟩
      | queued operation d =>
        rw [hcase] at hstage
        exact ⟨hstage.1, ⟨hstage.2.1.1, hstage.2.1.2, hstage.2.1.3⟩, by
          cases operation <;> exact hstage.2.2⟩
      | checked operation d cancelled =>
        rw [hcase] at hstage
        cases cancelled
        · exact ⟨hstage.1, ⟨hstage.2.1.1, hstage.2.1.2, hstage.2.1.3⟩, by
            cases operation <;> exact hstage.2.2⟩
        · exact ⟨hstage.1, ⟨hbnd.1, hbnd.2, hbnd.3⟩, rfl⟩
      | ran operation out =>
        rw [hcase] at hstage
        exact ⟨hstage.1, ⟨hbnd.1, hbnd.2, hbnd.3⟩, nofun, nofun⟩
      | ending operation out =>
        rw [hcase] at hstage
        exact ⟨hstage.1, ⟨hbnd.1, hbnd.2, hbnd.3⟩, .inl rfl, nofun⟩
      | cleanup => exact ⟨⟨hbnd.1, hbnd.2, hbnd.3⟩, rfl⟩
      | cleaning =>
        rw [hcase] at hstage
        exact ⟨⟨hbnd.1, hbnd.2, hbnd.3⟩, rfl, hstage.2.2⟩
    · simp [stuck]
  · exact
      ⟨hex.remaining, hex.requested, by simp, hex.chunks,
        ⟨⟨hbnd.1, hbnd.2, hbnd.3⟩, rfl⟩, by simp [stuck]⟩

omit hex in
@[simp] lemma cancel_fed : r.cancel.fed = r.fed := by
  rcases r.cancel_cases with hcancel | hcancel <;> rw [hcancel]

omit hex in
@[simp] lemma cancel_remaining : r.cancel.remaining = r.remaining := by
  rcases r.cancel_cases with hcancel | hcancel <;> rw [hcancel]

omit hex in
@[simp] lemma cancel_diskCancelled : r.cancel.diskCancelled = true := by
  rcases r.cancel_cases with hcancel | hcancel <;> rw [hcancel]

omit hex in
@[simp] lemma cancel_stuck : r.cancel.stuck = true := by simp [stuck]

lemma Exact.of_stuck (hstuck : y.stuck)
    (hfed : y.fed = r.fed) (hremaining : y.remaining = r.remaining)
    (hrequested : y.finishRequested → y.remaining = 0)
    (hdiskBusy : y.diskBusy = r.diskBusy) (hstage : y.stage = r.stage)
    (hpassed : y.passed = r.passed) (happended : y.appended = r.appended)
    (hfinalized : y.finalized = r.finalized) (hcanc : y.diskCancelled = r.diskCancelled)
    (hterm : y.diskTerminal = r.diskTerminal) : y.Exact size where
  remaining := by rw [hremaining, hfed]; exact hex.remaining
  requested := hrequested
  diskBusy := by rw [hdiskBusy, hstage]; exact hex.diskBusy
  chunks := by rw [hpassed]; exact hex.chunks
  stage := by
    rw [hstage]
    exact hex.stage.congr hpassed happended hfed hfinalized hcanc hterm
  flight h := by rw [hstuck] at h; cases h

omit hex in
lemma not_stuck (hstuck : r.stuck = false) : r.terminal = false ∧ r.diskCancelled = false := by
  simpa [stuck] using hstuck

lemma Exact.at_rest (hstuck : r.stuck = false) (hbusy : r.busy = false) :
    r.stage = .idle ∧ r.diskTerminal = false ∧ r.results = [] := by
  cases hex.flight hstuck with
  | nothing _ hstage hterm hresults => exact ⟨hstage, hterm, hresults⟩
  | operation hbusy' | result hbusy' => rw [hbusy] at hbusy'; cases hbusy'

lemma Exact.submit_eq (hstuck : r.stuck = false)
    (hbusy : r.busy = false) (operation : DiskOperation) (d : Bytes) (acc : Bool) :
    r.submit operation d acc = if acc then
        (true, { r with busy := true, diskBusy := true, stage := .queued operation d })
      else (false, { { r with busy := true }.cancel with busy := false }) := by
  obtain ⟨-, hcanc⟩ := not_stuck hstuck
  obtain ⟨hstage, hterm, -⟩ := hex.at_rest hstuck hbusy
  have hdisk : r.diskBusy = false := hex.diskBusy.mpr hstage
  cases acc <;> simp [submit, launch, hcanc, hterm, hdisk]

lemma Exact.queued {remaining : ℕ} {fed : Bytes} (hstuck : r.stuck = false)
    (hbusy : r.busy = false) {operation : DiskOperation} {d : Bytes}
    (hfed : r.fed ++ d = fed) (hremaining : remaining + fed.length = size)
    (hrequested : r.finishRequested → remaining = 0)
    (hlaunched : Launched { r with fed } size d operation) : Exact { r with
        busy := true, diskBusy := true, stage := .queued operation d, remaining, fed } size := by
  obtain ⟨-, hcanc⟩ := not_stuck hstuck
  obtain ⟨hstage, hterm, hresults⟩ := hex.at_rest hstuck hbusy
  have hs := hex.stage
  rw [hstage] at hs
  have hpend := hs.2 hcanc hterm
  refine ⟨hremaining, hrequested, by simp, hex.chunks, ⟨hterm, ?_, ?_⟩,
    fun _ => .operation rfl (by simp) hresults⟩
  · have hpassed : r.passed.flatten = r.fed := by simpa using hpend.passed
    have happended : r.appended = r.fed.length := by simpa using hpend.appended
    exact ⟨by rw [hpassed, hfed], by rw [happended, ← hfed, length_append], hpend.finalized⟩
  · cases operation <;> exact hlaunched

omit hex in
lemma cancel_busy (r : AsyncReceiver) (busy : Bool) :
    { r with busy }.cancel = { r.cancel with busy } := by
  simp only [cancel]
  split_ifs <;> rfl

lemma Exact.rejected : Exact { { r with busy := true }.cancel with busy := false } size := by
  rw [cancel_busy]
  exact hex.cancel.of_stuck (by simp [stuck]) rfl rfl hex.cancel.requested rfl rfl rfl rfl
    rfl rfl rfl

omit hex in
lemma exact_new (size : ℕ) : Exact { remaining := size } size where
  remaining := rfl
  requested := nofun
  diskBusy := by simp
  chunks := nofun
  stage := ⟨⟨List.nil_prefix, Nat.zero_le 1, fun h => absurd rfl h⟩, fun _ _ => ⟨rfl, rfl, rfl⟩⟩
  flight _ := .nothing rfl rfl rfl rfl

omit hex in
lemma create_spec {acc : Bool} (hcreate : create size acc = some r) :
    r.Exact size ∧ r.fed = [] ∧ r.stuck = false := by
  have hsubmit := (exact_new size).submit_eq rfl rfl .prepare [] acc
  unfold create at hcreate
  rw [hsubmit] at hcreate
  cases acc
  · simp at hcreate
  · obtain rfl : _ = r := by simpa using hcreate
    exact ⟨(exact_new size).queued rfl rfl rfl rfl nofun rfl, rfl, rfl⟩

lemma Exact.feed_cases (buf : Bytes) (acc : Bool) :
    (∃ receiver', r.feed buf acc = (none, receiver') ∧ receiver'.Exact size ∧
      receiver'.fed = r.fed ∧ receiver'.stuck) ∨
    ∃ k receiver', r.feed buf acc = (some k, receiver') ∧
      receiver'.Exact size ∧ receiver'.fed = r.fed ++ buf.take k ∧
      k ≤ buf.length ∧ r.stuck = false ∧ receiver'.stuck = false := by
  unfold feed
  cases hstuck : r.terminal || r.diskCancelled with
  | true => exact .inl ⟨r, by simp, hex, rfl, hstuck⟩
  | false =>
    rw [if_neg Bool.false_ne_true]
    cases hwait : r.busy || r.finishRequested with
    | true => exact .inr ⟨0, r, by simp, hex, by simp, Nat.zero_le _, hstuck, hstuck⟩
    | false =>
      rw [if_neg Bool.false_ne_true]
      obtain ⟨hbusy, hrequested⟩ : r.busy = false ∧ r.finishRequested = false := by
        simpa using hwait
      simp only
      set k := min r.remaining (min buf.length chunkBytes) with hcount
      by_cases hzero : k = 0
      · rw [if_pos hzero]
        exact .inr ⟨0, r, rfl, hex, by simp, Nat.zero_le _, hstuck, hstuck⟩
      · rw [if_neg hzero, hex.submit_eq hstuck hbusy]
        cases acc with
        | false =>
          exact .inl ⟨_, rfl, hex.rejected, by simp [cancel_busy], by
            simp [stuck, cancel_busy]⟩
        | true =>
          have hlength : (buf.take k).length = k := by
            rw [length_take]; omega
          refine .inr ⟨k, _, rfl, ?_, rfl, by omega, hstuck, hstuck⟩
          refine hex.queued hstuck hbusy rfl ?_ (fun h => ?_) ?_
          · have := hex.remaining
            change r.remaining - k + (r.fed ++ buf.take k).length = size
            rw [length_append, hlength]
            omega
          · rw [hrequested] at h; cases h
          · change (buf.take k).length ≤ chunkBytes
            omega

/-- The finalizer is launched once it was asked for and nothing is under way. -/
lemma Exact.submit_finish (hstuck : r.stuck = false) (hbusy : r.busy = false)
    (hrequested : r.finishRequested) (acc : Bool) :
    ∃ receiver', r.submit .finish [] acc = (acc, receiver') ∧
      receiver'.Exact size ∧ receiver'.fed = r.fed ∧ receiver'.stuck = !acc := by
  rw [hex.submit_eq hstuck hbusy]
  have hfed : r.fed.length = size := by
    have := hex.remaining
    rwa [hex.requested hrequested, zero_add] at this
  cases acc with
  | false =>
    exact ⟨_, rfl, hex.rejected, by simp [cancel_busy], by simp [stuck, cancel_busy]⟩
  | true =>
    refine ⟨_, rfl, ?_, rfl, hstuck⟩
    exact hex.queued hstuck hbusy (append_nil _) hex.remaining hex.requested ⟨rfl, hfed⟩

/-- `finish` after the last byte: it throws and leaves the receiver stuck, or finishes
sooner or later. -/
lemma Exact.finish_cases (hremaining : r.remaining = 0) (acc : Bool) :
    ∃ finished receiver', r.finish acc = (finished, receiver') ∧
      receiver'.Exact size ∧ receiver'.fed = r.fed ∧ receiver'.stuck = !finished := by
  unfold finish
  cases hstuck : r.terminal || r.diskCancelled with
  | true => exact ⟨false, r, by simp, hex, rfl, hstuck⟩
  | false =>
    have hasked : Exact { r with finishRequested := true } size := by
      refine ⟨hex.remaining, fun _ => hremaining, hex.diskBusy, hex.chunks,
        hex.stage.congr rfl rfl rfl rfl rfl rfl, fun _ => ?_⟩
      cases hex.flight hstuck with
      | nothing hbusy hstage hterm hresults =>
        exact .nothing hbusy hstage hterm hresults
      | operation hbusy hstage hresults => exact .operation hbusy hstage hresults
      | result hbusy hstage result hresults hterm hfinish =>
        exact .result hbusy hstage result hresults hterm hfinish
    rw [if_neg (by simp [hremaining])]
    by_cases hbusy : r.busy = true
    · exact ⟨true, { r with finishRequested := true },
        if_neg (by rw [hbusy]; exact Bool.false_ne_true), hasked, rfl, hstuck⟩
    · have hidle : r.busy = false := by simpa using hbusy
      obtain ⟨receiver', hsubmit, hexact', hfed, hstuck'⟩ :=
        hasked.submit_finish hstuck hidle rfl acc
      exact ⟨acc, receiver', (if_pos (by rw [hidle]; rfl)).trans hsubmit, hexact', hfed, hstuck'⟩

/-! ## Results -/

variable {results : List DiskResult} {result : DiskResult}

lemma Exact.taken (hstuck : r.stuck = false)
    (hresults : r.results = result :: results) (hok : result.outcome.isOk)
    (hoperation : result.operation ≠ .finish) : Exact { r with results, busy := false } size := by
  refine { hex with stage := hex.stage.congr rfl rfl rfl rfl rfl rfl, flight := fun _ => ?_ }
  cases hex.flight hstuck with
  | nothing _ _ _ hnone | operation _ _ hnone => rw [hresults] at hnone; cases hnone
  | result _ hstage result' hone hterm =>
    rw [hresults] at hone
    obtain ⟨rfl, rfl⟩ : result = result' ∧ results = [] := by simpa using hone
    refine .nothing rfl hstage ?_ rfl
    simpa [hok, hoperation] using hterm

lemma Exact.fed_of_finish (hstuck : r.stuck = false)
    (hresults : r.results = result :: results) (hoperation : result.operation = .finish) :
    r.fed.length = size := by
  cases hex.flight hstuck with
  | nothing _ _ _ hnone | operation _ _ hnone => rw [hresults] at hnone; cases hnone
  | result _ _ result' hone _ hfinish =>
    rw [hresults] at hone
    obtain ⟨rfl, -⟩ : result = result' ∧ results = [] := by simpa using hone
    exact hfinish hoperation

lemma Exact.ignored (hstuck : r.stuck) : Exact { r with results } size :=
  hex.of_stuck hstuck rfl rfl hex.requested rfl rfl rfl rfl rfl rfl rfl

lemma Exact.ended : Exact { r with results, busy := false, terminal := true } size :=
  hex.of_stuck rfl rfl rfl hex.requested rfl rfl rfl rfl rfl rfl rfl

omit hex in
lemma cancel_results (r : AsyncReceiver) (results : List DiskResult) (busy : Bool) :
    { r with results, busy }.cancel = { r.cancel with results, busy } := by
  simp only [cancel]
  split_ifs <;> rfl

lemma Exact.abandon {busy : Bool} : { r with results, busy }.abandon.Exact size := by
  unfold AsyncReceiver.abandon
  rw [cancel_results]
  exact hex.cancel.of_stuck rfl rfl rfl hex.cancel.requested rfl rfl rfl rfl rfl rfl rfl

omit hex in
@[simp] lemma abandon_fed : r.abandon.fed = r.fed := cancel_fed

omit hex in
@[simp] lemma abandon_stuck : r.abandon.stuck = true := rfl

/-! ## The worker -/

omit hex in
lemma diskStep_fed (step : DiskStep) : (r.diskStep step).fed = r.fed := by
  cases step <;>
    simp only [diskStep, diskCheck, diskRun, diskEnd, diskPost, diskCleanup, postResult] <;>
    (repeat' split) <;> rfl

omit hex in
lemma diskStep_loop (step : DiskStep) : (r.diskStep step).remaining = r.remaining ∧
      (r.diskStep step).finishRequested = r.finishRequested ∧
      (r.diskStep step).busy = r.busy ∧ (r.diskStep step).terminal = r.terminal ∧
      (r.diskStep step).diskCancelled = r.diskCancelled := by
  cases step <;>
    simp only [diskStep, diskCheck, diskRun, diskEnd, diskPost, diskCleanup, postResult] <;>
    (repeat' split) <;> exact ⟨rfl, rfl, rfl, rfl, rfl⟩

omit hex in
lemma diskStep_stuck (step : DiskStep) : (r.diskStep step).stuck = r.stuck := by
  obtain ⟨-, -, -, hterm, hcanc⟩ := r.diskStep_loop step
  rw [stuck, stuck, hterm, hcanc]

omit hex in
lemma Flight.under_way (hflight : r.Flight size) (hstage : r.stage ≠ .idle) :
    r.busy ∧ r.results = [] := by
  cases hflight with
  | nothing _ hidle | result _ hidle => exact absurd hidle hstage
  | operation hbusy _ hresults => exact ⟨hbusy, hresults⟩

lemma Exact.worked {receiver' : AsyncReceiver}
    (hstage : r.stage ≠ .idle) (hstage' : receiver'.stage ≠ .idle)
    (hloop : receiver'.remaining = r.remaining ∧
      receiver'.finishRequested = r.finishRequested ∧ receiver'.busy = r.busy ∧
      receiver'.terminal = r.terminal ∧ receiver'.diskCancelled = r.diskCancelled)
    (hfed : receiver'.fed = r.fed) (hresults : receiver'.results = r.results)
    (hdisk : receiver'.diskBusy = r.diskBusy)
    (hchunks : ∀ block ∈ receiver'.passed, block.length ≤ chunkBytes)
    (hs : receiver'.StageSound size receiver'.stage) : receiver'.Exact size := by
  obtain ⟨hremaining, hrequested, hbusy, hterm, hcanc⟩ := hloop
  refine ⟨by rw [hremaining, hfed]; exact hex.remaining,
    by rw [hrequested, hremaining]; exact hex.requested, ?_, hchunks, hs, fun hstuck => ?_⟩
  · have : r.diskBusy ≠ false := fun h => hstage (hex.diskBusy.mp h)
    rw [hdisk]
    exact ⟨fun h => absurd h this, fun h => absurd h hstage'⟩
  · rw [stuck, hterm, hcanc] at hstuck
    obtain ⟨hbusy', hresults'⟩ := (hex.flight hstuck).under_way hstage
    exact .operation (hbusy.trans hbusy') hstage' (hresults.trans hresults')

lemma Exact.diskCheck : r.diskCheck.Exact size := by
  have hs := hex.stage
  unfold AsyncReceiver.diskCheck
  split
  · rename_i operation d hstage
    rw [hstage] at hs
    obtain ⟨hterm, hpend, hlaunched⟩ := hs
    refine hex.worked (by rw [hstage]; nofun) nofun ⟨rfl, rfl, rfl, rfl, rfl⟩ rfl rfl rfl
      hex.chunks ?_
    cases hcanc : r.diskCancelled with
    | true =>
      have hbnd : r.Bounded size := hpend.bounded
      exact ⟨hterm, ⟨hbnd.1, hbnd.2, hbnd.3⟩, rfl⟩
    | false =>
      exact ⟨hterm, ⟨hpend.1, hpend.2, hpend.3⟩, by
        cases operation <;> exact hlaunched⟩
  · exact hex

lemma Exact.diskRun (out : DiskOutcome) : (r.diskRun out).Exact size := by
  have hs := hex.stage
  unfold AsyncReceiver.diskRun
  split
  · -- The task was cancelled before it began.
    rename_i operation d hstage
    rw [hstage] at hs
    obtain ⟨hterm, hbnd, hcanc⟩ := hs
    have hnot : r.diskCancelled ≠ false := by rw [hcanc]; nofun
    exact hex.worked (by rw [hstage]; nofun) nofun ⟨rfl, rfl, rfl, rfl, rfl⟩ rfl rfl rfl hex.chunks
      ⟨hterm, ⟨hbnd.1, hbnd.2, hbnd.3⟩, fun h => absurd h hnot, fun h => absurd h hnot⟩
  · rename_i d hstage
    rw [hstage] at hs
    obtain ⟨hterm, hpend, rfl⟩ := hs
    have hbnd : r.Bounded size := hpend.bounded
    exact hex.worked (by rw [hstage]; nofun) nofun ⟨rfl, rfl, rfl, rfl, rfl⟩ rfl rfl rfl hex.chunks
      ⟨hterm, ⟨hbnd.1, hbnd.2, hbnd.3⟩, fun _ _ _ => ⟨hpend.1, hpend.2, hpend.3⟩, nofun⟩
  · rename_i d hstage
    rw [hstage] at hs
    obtain ⟨hterm, hpend, hlength⟩ := hs
    have hbnd : r.Bounded size := hpend.bounded
    by_cases hopened : (!r.opened) = true
    · rw [if_pos hopened]
      exact hex.worked (by rw [hstage]; nofun) nofun ⟨rfl, rfl, rfl, rfl, rfl⟩ rfl rfl rfl
        hex.chunks ⟨hterm, ⟨hbnd.1, hbnd.2, hbnd.3⟩, nofun, nofun⟩
    · -- The block goes to the disk: nothing is pending any more.
      rw [if_neg hopened]
      refine hex.worked (by rw [hstage]; nofun) nofun ⟨rfl, rfl, rfl, rfl, rfl⟩ rfl rfl rfl
        ?_ ⟨hterm, ⟨?_, hbnd.2, fun h => absurd hpend.finalized h⟩, ?_, nofun⟩
      · intro block hblock
        rcases mem_append.mp hblock with hold | hnew
        · exact hex.chunks block hold
        · exact mem_singleton.mp hnew ▸ hlength
      · simp only [flatten_append, flatten_singleton, hpend.passed, prefix_rfl]
      · intro _ hok _
        refine ⟨by simp [hpend.passed], ?_, hpend.finalized⟩
        simpa [hok] using hpend.appended
  · rename_i d hstage
    rw [hstage] at hs
    obtain ⟨hterm, hpend, rfl, hfed⟩ := hs
    have hpassed : r.passed.flatten = r.fed := by simpa using hpend.passed
    have happended : r.appended = r.fed.length := by simpa using hpend.appended
    have hbnd : r.Bounded size := hpend.bounded
    split_ifs
    · exact hex.worked (by rw [hstage]; nofun) nofun ⟨rfl, rfl, rfl, rfl, rfl⟩ rfl rfl rfl
        hex.chunks ⟨hterm, ⟨hbnd.1, hbnd.2, hbnd.3⟩, nofun, fun _ _ => hfed⟩
    · refine hex.worked (by rw [hstage]; nofun) nofun ⟨rfl, rfl, rfl, rfl, rfl⟩ rfl rfl rfl
        hex.chunks ⟨hterm, ⟨⟨[], hpend.1⟩, ?_, fun _ => ?_⟩, fun _ _ h => absurd rfl h,
          fun _ _ => hfed⟩
      · rw [hpend.finalized]
      · exact ⟨happended.trans hfed, hpassed, hfed⟩
  · exact hex

lemma Exact.posted {terminal opened : Bool} (hstage : r.stage ≠ .idle) (hbnd : r.Bounded size)
    (hpend : r.diskCancelled = false → terminal = false → r.Pending [])
    (hterm : r.diskCancelled = false → terminal →
      result.outcome.isOk = false ∨ result.operation = .finish)
    (hfinish : r.diskCancelled = false → result.operation = .finish →
      r.fed.length = size) : (postResult
      { r with diskTerminal := terminal, opened, diskBusy := false, stage := .idle }
      result).Exact size := by
  have hidle : StageSound
      { r with diskTerminal := terminal, opened, diskBusy := false, stage := .idle } size
      .idle :=
    ⟨⟨hbnd.1, hbnd.2, hbnd.3⟩, fun h h' =>
      ⟨(hpend h h').1, (hpend h h').2, (hpend h h').3⟩⟩
  unfold postResult
  split_ifs with hcanc
  · exact ⟨hex.remaining, hex.requested, by simp, hex.chunks, hidle, fun h => by
      rw [stuck, hcanc, Bool.or_true] at h; cases h⟩
  · refine { hex with diskBusy := by simp, stage := hidle.congr rfl rfl rfl rfl rfl rfl, flight
    := fun hstuck => ?_ }
    obtain ⟨hbusy, hresults⟩ := (hex.flight hstuck).under_way hstage
    exact .result hbusy rfl result (by simp only [hresults, nil_append])
      (hterm (by simpa using hcanc)) (hfinish (by simpa using hcanc))

lemma Exact.diskEnd : r.diskEnd.Exact size := by
  have hs := hex.stage
  unfold AsyncReceiver.diskEnd
  split
  · rename_i operation out hstage
    have hbusy : r.stage ≠ .idle := by rw [hstage]; nofun
    rw [hstage] at hs
    obtain ⟨hterm, hbnd, hpend, hfinish⟩ := hs
    split_ifs with hlast
    · refine hex.worked hbusy nofun ⟨rfl, rfl, rfl, rfl, rfl⟩ rfl rfl rfl hex.chunks
        ⟨rfl, ⟨hbnd.1, hbnd.2, hbnd.3⟩, ?_, hfinish⟩
      simpa [or_assoc] using hlast
    · obtain ⟨hok, hoperation⟩ : out.isOk ∧ operation ≠ .finish := by
        simp only [Bool.or_eq_true, not_or, Bool.not_eq_true', Bool.not_eq_false, beq_iff_eq]
          at hlast
        exact ⟨hlast.1.2, hlast.2⟩
      refine hex.posted hbusy hbnd (fun h _ => hpend h hok hoperation) (fun _ h => ?_) hfinish
      rw [hterm] at h; cases h
  · exact hex

lemma Exact.diskPost : r.diskPost.Exact size := by
  have hs := hex.stage
  unfold AsyncReceiver.diskPost
  split
  · rename_i operation out hstage
    rw [hstage] at hs
    obtain ⟨hterm, hbnd, hreason, hfinish⟩ := hs
    refine hex.posted (by rw [hstage]; nofun) hbnd (fun _ h => ?_) (fun h _ => ?_) hfinish
    · rw [hterm] at h; cases h
    · simpa [h] using hreason
  · exact hex

lemma Exact.diskCleanup : r.diskCleanup.Exact size := by
  have hs := hex.stage
  unfold AsyncReceiver.diskCleanup
  split
  · rename_i hstage
    rw [hstage] at hs
    obtain ⟨hbnd, hcanc⟩ := hs
    exact hex.worked (by rw [hstage]; nofun) nofun ⟨rfl, rfl, rfl, rfl, rfl⟩ rfl rfl rfl
      hex.chunks ⟨⟨hbnd.1, hbnd.2, hbnd.3⟩, hcanc, rfl⟩
  · rename_i hstage
    rw [hstage] at hs
    obtain ⟨hbnd, hcanc, hterm⟩ := hs
    refine ⟨hex.remaining, hex.requested, by simp, hex.chunks,
      ⟨⟨hbnd.1, hbnd.2, hbnd.3⟩, fun h => ?_⟩, fun h => ?_⟩
    · rw [hcanc] at h; cases h
    · rw [stuck, hcanc, Bool.or_true] at h; cases h
  · exact hex

lemma Exact.diskStep (step : DiskStep) : (r.diskStep step).Exact size := by
  cases step with
  | check => exact hex.diskCheck
  | carryOut out => exact hex.diskRun out
  | conclude => exact hex.diskEnd
  | post => exact hex.diskPost
  | clean => exact hex.diskCleanup

end

end AsyncReceiver

end Tlss.Ftp
