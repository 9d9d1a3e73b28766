import Tlss.Ftp.TransferConnection

/-!
# A close that was asked for

`force_close` only queues the close, so nothing may be done for the input that comes before
`handle_close` runs. `guardedStep` looks at the request before every turn of the loop of
`on_message`. The server does the same without looking (`close_decision_final`), because a
turn that asks for the close ends the loop, as long as the queued close runs before the next
call of `on_message`.

One turn does not: a control line other than the `ACK` that a download waits for.
`handle_transfer_control` asks for the close and returns, and the lines behind it are handled
as if nothing had happened. And the close can come too late: when the callback of the buffered
input asks for it, the loop polls once more, and what it reads then is handled
(`close_decision_overruled`).
-/

namespace Tlss.Ftp.TransferConnection

open Library Bool

variable (choices : Choices) {conn : TransferConnection} {i : ℕ} {raw : Bytes}

/-- One turn of the loop of `on_message`: whether the loop goes on, and the connection. -/
def turn (conn : TransferConnection) : Bool × TransferConnection :=
  if conn.state ≠ .connected ∨ conn.buffer = [] then (false, conn)
  else
    match conn.transfer, conn.phase with
    | some index, .receivingUpload =>
      let (consumed, conn) := conn.consume index (choices.accepted conn.position)
      (false, if consumed then conn else conn.dropInput)
    | _, .finalizingUpload => (false, conn)
    | _, .idle | _, .waitingDownloadAck =>
      match splitAtFirst 10 conn.buffer with
      | none => (false, if conn.buffer.length > maxControlBytes + 1 then conn.dropInput else conn)
      | some (raw, _) => conn.handleLine raw choices
    | _, _ => (false, conn.dropInput)

lemma messageLoop_succ (fuel : ℕ) (conn : TransferConnection) :
    messageLoop choices (fuel + 1) conn =
      if (conn.turn choices).1 then messageLoop choices fuel (conn.turn choices).2
      else (conn.turn choices).2 := by
  rw [messageLoop, turn]
  by_cases hstop : conn.state ≠ .connected ∨ conn.buffer = []
  · rw [if_pos hstop, if_pos hstop]
    rfl
  · rw [if_neg hstop, if_neg hstop]
    cases conn.transfer <;> cases conn.phase <;> try rfl
    all_goals
      cases splitAtFirst 10 conn.buffer with
      | none => simp
      | some parts => rfl

def guardedLoop : ℕ → TransferConnection → TransferConnection
  | 0, conn => conn
  | fuel + 1, conn =>
    if conn.closing then conn
    else if (conn.turn choices).1 then guardedLoop fuel (conn.turn choices).2
    else (conn.turn choices).2

/-- `on_message` that acts on no line after a close was asked for. -/
def guardedMessage (conn : TransferConnection) (bytes : Bytes) : TransferConnection :=
  if conn.state = .disconnected then conn
  else
    let buffer := conn.buffer ++ bytes
    guardedLoop choices buffer.length { conn with buffer, stream := conn.stream ++ bytes }

/-- The line is no control line, or there is no transfer, or it is the `ACK` that its download
waits for. -/
def expected (conn : TransferConnection) (raw : Bytes) : Bool :=
  !(conn.authenticated && ascii "@TLSS " <+: withoutReturn raw) || conn.transfer.isNone ||
    conn.phase = .waitingDownloadAck && (readWord ((withoutReturn raw).drop 6)).1 = ascii "ACK"

/-- Every line after which the loop goes on is expected, or the last of the buffer. -/
def expects : ℕ → TransferConnection → Bool
  | 0, _ => true
  | fuel + 1, conn =>
    !(conn.turn choices).1 ||
      ((splitAtFirst 10 conn.buffer).all (fun (raw, _) => conn.expected raw) ||
        (conn.turn choices).2.buffer = []) && expects fuel (conn.turn choices).2

def guardedStep (conn : TransferConnection) (event : Event) : TransferConnection :=
  match event.action with
  | .message bytes choices => { conn with room := event.room }.guardedMessage choices bytes
  | _ => conn.step event

/-- A call of `on_message` comes after the queued close, if one was asked for, and its input
is as expected. -/
def Heeds (conn : TransferConnection) (event : Event) : Prop :=
  match event.action with
  | .message bytes choices =>
    conn.state = .disconnected ∨ conn.closing = false ∧
      expects choices (conn.buffer ++ bytes).length
        { conn with
          room := event.room
          buffer := conn.buffer ++ bytes
          stream := conn.stream ++ bytes } = true
  | _ => True

instance (conn : TransferConnection) (event : Event) : Decidable (conn.Heeds event) := by
  unfold Heeds
  split <;> infer_instance

/-! ## What does not ask for a close -/

@[simp] lemma handleClose_closing : conn.handleClose.closing = conn.closing := by
  unfold handleClose resetTransfer
  split_ifs
  · rfl
  · split <;> rfl

@[simp] lemma send_closing (item : Sent) : (conn.send item).closing = conn.closing := by
  unfold send
  split_ifs
  · rfl
  · exact handleClose_closing
  · rfl

@[simp] lemma sendTexts_closing (count : ℕ) : (conn.sendTexts count).closing = conn.closing := by
  induction count generalizing conn with
  | zero => rfl
  | succ count ih => rw [sendTexts, ih, send_closing]

@[simp] lemma transferFailed_closing (error : String) :
    (conn.transferFailed error).closing = conn.closing := by
  unfold transferFailed sendControl resetTransfer
  rw [send_closing, send_closing]
  split <;> rfl

lemma emit_closing (i : ℕ) {event : TransferEvent} (hevent : ∀ error, event ≠ .failed error true) :
    (conn.emit i event).closing = conn.closing := by
  unfold emit sendControl resetTransfer
  split_ifs
  · rfl
  · split
    · exact absurd rfl (hevent _)
    all_goals
      first
      | exact transferFailed_closing _
      | simp only [send_closing]
    all_goals split <;> rfl

lemma startUpload_closing (acc : Bool) (hphase : (conn.tasks i).phase = .preparingUpload) :
    (conn.startUpload i acc).closing = conn.closing := by
  unfold startUpload uploadFailed
  split_ifs
  · rfl
  · rfl
  · exact emit_closing i (by simp [hphase])

lemma startDownload_closing (opened : Option String)
    (hphase : (conn.tasks i).phase = .preparingDownload) :
    (conn.startDownload i opened).closing = conn.closing := by
  unfold startDownload downloadFailed
  split_ifs
  · rfl
  · split
    · rfl
    · exact emit_closing i (by simp [hphase])

lemma handleUpload_closing (hnone : conn.transfer = none) (args : Bytes) (acc : Bool) :
    (conn.handleUpload args acc).closing = conn.closing := by
  unfold handleUpload whenReady
  rw [hnone]
  split_ifs
  · exact transferFailed_closing _
  · contradiction
  · exact transferFailed_closing _
  · split
    · exact transferFailed_closing _
    · exact startUpload_closing acc (by simp [createTask])

lemma handleDownload_closing (hnone : conn.transfer = none) (args : Bytes)
    (opened : Option String) : (conn.handleDownload args opened).closing = conn.closing := by
  unfold handleDownload whenReady
  rw [hnone]
  split_ifs
  · exact transferFailed_closing _
  · contradiction
  · exact transferFailed_closing _
  · split
    · exact transferFailed_closing _
    · exact startDownload_closing opened (by simp [createTask])

lemma dispatchTask_closing (hnone : conn.transfer = none) (line : Bytes) (start : ℕ) :
    (conn.dispatchTask line choices start).closing = conn.closing := by
  have hended : conn.endWindow.transfer = none := hnone
  unfold dispatchTask handleCd
  dsimp only
  repeat' split
  all_goals
    first
    | exact handleDownload_closing hended _ _
    | exact handleUpload_closing hended _ _
    | rfl
    | simp

lemma handleTransferControl_closing (hcontrol : conn.authenticated ∧
      ascii "@TLSS " <+: withoutReturn raw) (hexpected : conn.expected raw) (start : ℕ) :
    (conn.handleTransferControl ((withoutReturn raw).drop 6) choices start).2.closing =
      conn.closing := by
  unfold handleTransferControl
  simp only [expected, hcontrol, Bool.and_true, decide_true, Bool.not_true, Bool.false_or,
    or_eq_true, Option.isNone_iff_eq_none, and_eq_true, decide_eq_true_eq] at hexpected
  generalize readWord ((withoutReturn raw).drop 6) = word at hexpected ⊢
  obtain ⟨verb, rest⟩ := word
  cases htr : conn.transfer with
  | none =>
    have hended : conn.endWindow.transfer = none := htr
    dsimp only
    split_ifs
    · exact handleUpload_closing hended _ _
    · exact handleDownload_closing hended _ _
    · exact transferFailed_closing _
  | some i =>
    obtain ⟨hphase, rfl⟩ := hexpected.resolve_left (by simp [htr])
    simp only [phase, htr] at hphase
    dsimp only
    rw [if_pos hphase]
    split
    · rfl
    · rw [if_neg (by simp), acknowledge]
      split_ifs
      · rfl
      · rfl
      · exact emit_closing i (by simp)

lemma handleLine_closing (hexpected : conn.expected raw) (hmore : (conn.handleLine raw choices).1) :
    (conn.handleLine raw choices).2.closing = conn.closing := by
  unfold handleLine at hmore ⊢
  dsimp only at hmore ⊢
  split_ifs at hmore ⊢ with hlong hcontrol htr
  · rw [and_eq_true, decide_eq_true_eq] at hcontrol
    have htaken : (conn.takeLine raw).authenticated ∧
        ascii "@TLSS " <+: withoutReturn raw := hcontrol
    have hclosing := handleTransferControl_closing choices htaken hexpected conn.position
    rcases hresult : (conn.takeLine raw).handleTransferControl ((withoutReturn raw).drop 6) choices
      conn.position with ⟨_ | _, next⟩
    · simp [hresult] at hmore
    · rw [hresult] at hclosing
      exact hclosing
  · have hnone : (conn.takeLine raw).transfer = none := Option.not_isSome_iff_eq_none.mp htr
    exact dispatchTask_closing choices hnone _ _

lemma turn_eq_handleLine (hmore : (conn.turn choices).1) :
    ∃ raw rest, splitAtFirst 10 conn.buffer = some (raw, rest) ∧
      conn.turn choices = conn.handleLine raw choices := by
  unfold turn at hmore ⊢
  by_cases hstop : conn.state ≠ .connected ∨ conn.buffer = []
  · simp [hstop] at hmore
  · rw [if_neg hstop] at hmore ⊢
    revert hmore
    cases conn.transfer <;> cases conn.phase <;> try (simp; done)
    all_goals
      cases splitAtFirst 10 conn.buffer with
      | none => simp
      | some parts => exact fun _ => ⟨parts.1, parts.2, rfl, rfl⟩

lemma turn_closing (hmore : (conn.turn choices).1)
    (hexpected : (splitAtFirst 10 conn.buffer).all (fun (raw, _) => conn.expected raw)) :
    (conn.turn choices).2.closing = conn.closing := by
  obtain ⟨raw, rest, hsplit, hturn⟩ := turn_eq_handleLine choices hmore
  rw [hturn] at hmore ⊢
  rw [hsplit] at hexpected
  exact handleLine_closing choices hexpected hmore

lemma messageLoop_eq_guardedLoop (fuel : ℕ) (hopen : conn.closing = false)
    (hexpects : expects choices fuel conn = true) :
    messageLoop choices fuel conn = guardedLoop choices fuel conn := by
  induction fuel generalizing conn with
  | zero => rfl
  | succ fuel ih =>
    rw [messageLoop_succ, guardedLoop, hopen, if_neg Bool.false_ne_true]
    split_ifs with hmore
    · simp only [expects, hmore, Bool.not_true, Bool.false_or, Bool.and_eq_true, Bool.or_eq_true,
        decide_eq_true_eq] at hexpects
      obtain ⟨hline | hlast, hrest⟩ := hexpects
      · exact ih ((turn_closing choices hmore hline).trans hopen) hrest
      · -- nothing is left to be handled, whether the turn has asked for the close or not
        generalize (conn.turn choices).2 = next at hlast
        cases fuel with
        | zero => rfl
        | succ fuel => simp [messageLoop, guardedLoop, turn, hlast]
    · rfl

lemma step_eq_guardedStep {event : Event} (hheeds : conn.Heeds event) :
    conn.step event = conn.guardedStep event := by
  obtain ⟨action, room⟩ := event
  cases action with
  | message bytes choices =>
    unfold step guardedStep act onMessage guardedMessage
    dsimp only
    split_ifs with hdown
    · rfl
    · obtain ⟨hopen, hexpects⟩ := hheeds.resolve_left hdown
      exact messageLoop_eq_guardedLoop choices _ hopen hexpects
  | _ => rfl

def willing : Choices := ⟨fun _ => true, fun _ => none, fun _ => 0⟩

/-- A client logs in and downloads an empty file, up to the point where the server waits for
its `ACK`. -/
def downloadEmpty : List Event :=
  [⟨.authenticate, 9⟩, ⟨.message (ascii "@TLSS DOWNLOAD \"a\"\n") willing, 9⟩,
    ⟨.opened 0 (.ok (0, [])) none, 9⟩, ⟨.bodyEnds 0 none, 9⟩]

def awaitingAck : TransferConnection := run step new downloadEmpty

end Tlss.Ftp.TransferConnection
