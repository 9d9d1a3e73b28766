import Tlss.Ftp.SessionMoves
import Tlss.Ftp.TransferDownloads

/-!
# Lines keep the invariant

`on_message` goes through the buffer line by line. A line that is handled lies behind every
body, because the transfers before it are over and have consumed theirs; so it cannot reach
into one. In the end the loop has emptied the buffer, is in the middle of a line, or waits
for the disk; in the phases in which the client has nothing to say the buffer is empty.
-/

namespace Tlss.Ftp.TransferConnection

open Library List Function Option

variable {c : TransferConnection} {reading : Bool} {i : ℕ} {sent : List Sent}
  {raw rest : Bytes}

/-! ## Lines that ask for a transfer -/

section

variable (hresting : c.Resting)
include hresting

lemma Resting.endWindow (hst : c.state = .connected) : c.endWindow.Resting := by
  have hs := hresting.sound
  have hwindows : c.endWindow.windows = c.windows := by
    simp [windows, TransferConnection.endWindow]
  refine ⟨⟨hs.cancelled, fun win hwin => hs.known win (hwindows ▸ hwin),
    fun win hwin => hs.facts win (hwindows ▸ hwin), fun win hwin => ?_,
    hs.tasks, hs.buffer, hs.position, hs.lines, fun _ => rfl,
    fun i hindex => hwindows ▸ hs.recorded i hindex⟩, hresting.transfer,
    (by simp [TransferConnection.endWindow]),
    hresting.finished⟩
  rcases mem_windows.mp hwin with hpast | hlast
  · exact hs.past win hpast
  · refine ⟨?_, hresting.complete (by simp [hst]) win hlast⟩
    change c.transfer ≠ _
    simp [hresting.transfer]

section

variable (hwin : c.window = none)
include hwin

lemma Resting.send {item : Sent} : Inv reading (c.send item) := by
  by_cases hst : c.state = .connected
  · have hqueued : (c.enqueue item).window = none := by
      simp [enqueue, hwin]
    refine hresting.sound.send hst (.resting ⟨hresting.sound.enqueue ?_, hresting.transfer, ?_,
      hresting.finished⟩)
    · intro win h
      rw [hwin] at h
      cases h
    · intro _ win h
      rw [hqueued] at h
      cases h
  · unfold TransferConnection.send
    rw [if_pos hst]
    exact .resting hresting

lemma Resting.transferFailed (error : String) : Inv reading (c.transferFailed error) := by
  unfold TransferConnection.transferFailed
  rw [resetTransfer_of_none hresting.transfer]
  have hnext : Resting { c with generation := c.generation + 1 } :=
    { hresting with sound := hresting.sound.adjust .. }
  exact (hnext.send hwin).send_text

lemma Resting.createTask {kind : TransferKind} {phase : TransferPhase} {name : Bytes} {size : ℕ}
    (hst : c.state = .connected)
    (hauthenticated : c.authenticated) (hpending : c.directoryPending = false)
    (hkind : kind = .upload ∧ phase = .preparingUpload ∨
      kind = .download ∧ phase = .preparingDownload) :
    Running true (c.createTask kind phase name size) c.count [] := by
  have hs := hresting.sound
  set next := c.createTask kind phase name size with hnext
  have htask : next.tasks c.count =
      { kind, generation := c.generation + 1, directory := c.directory, name, phase, size } :=
    update_self ..
  have hother : ∀ j, j ≠ c.count → next.tasks j = c.tasks j :=
    fun j hother => update_of_ne hother ..
  have hold : ∀ win ∈ c.past, win.task ≠ c.count := fun win hpast =>
    (hs.known win (mem_windows_of_past hpast)).ne
  refine ⟨⟨?_, ?_, ?_, ?_, ?_, hs.buffer, hs.position, hs.lines, ?_, ?_⟩, rfl, ?_,
    hpending, rfl, ?_, ?_, by simp⟩
  · intro j hactive
    have hne : j ≠ c.count := fun h => hactive (by rw [h]; rfl)
    rw [hother j hne]
    exact hs.cancelled j (by simp [hresting.transfer])
  · intro win hmem
    rcases mem_windows.mp hmem with hpast | hlast
    · exact (hs.known win (mem_windows_of_past hpast)).trans (Nat.lt_succ_self _)
    · obtain rfl : ⟨c.count, []⟩ = win := some.inj hlast
      exact Nat.lt_succ_self _
  · intro win hmem
    rcases mem_windows.mp hmem with hpast | hlast
    · rw [hother _ (hold win hpast)]
      exact hs.facts win (mem_windows_of_past hpast)
    · obtain rfl : ⟨c.count, []⟩ = win := some.inj hlast
      exact facts_nil ..
  · intro win hpast
    refine ⟨fun h => hold win hpast (some.inj h).symm, ?_⟩
    rw [hother _ (hold win hpast)]
    exact (hs.past win hpast).2
  · intro j
    by_cases hne : j = c.count
    · rw [hne, htask]
      exact taskSound_of_none _ _ rfl rfl rfl
    · rw [hother j hne]
      exact hs.tasks j
  · intro h
    exact absurd (hauthenticated.symm.trans h) (by simp)
  · intro j hlt
    rcases Nat.lt_succ_iff_lt_or_eq.mp hlt with hlt | rfl
    · obtain ⟨win, hmem, htask'⟩ := hs.recorded j hlt
      rcases mem_windows.mp hmem with hpast | hlast
      · exact ⟨win, mem_windows_of_past hpast, htask'⟩
      · rw [hwin] at hlast
        cases hlast
    · exact ⟨⟨c.count, []⟩, mem_windows_of_window rfl, rfl⟩
  · simp only [isCurrent, htask]
    simp [hnext, TransferConnection.createTask, hst, hauthenticated]
  · rw [htask]
    rcases hkind with ⟨rfl, rfl⟩ | ⟨rfl, rfl⟩
    · exact ⟨rfl, rfl, rfl, rfl, rfl, by simp⟩
    · exact ⟨rfl, rfl, rfl, rfl, rfl⟩
  · intro j hne
    unfold Finished
    rw [hother j hne]
    exact hresting.finished (by simp [hst]) j

lemma Resting.whenReady {proceed : TransferConnection}
    (hproceed : c.authenticated → c.directoryPending = false → Inv true proceed) :
    Inv true (c.whenReady proceed) := by
  unfold TransferConnection.whenReady
  split_ifs with hlogin htransfer hpending
  · exact hresting.transferFailed hwin _
  · exact (Inv.resting hresting).forceClose
  · exact hresting.transferFailed hwin _
  · exact hproceed (by simpa using hlogin) (by simpa using hpending)

lemma Resting.handleUpload (hst : c.state = .connected) (args : Bytes) (accepted : Bool) :
    Inv true (c.handleUpload args accepted) := by
  refine hresting.whenReady hwin fun hlogin hpending => ?_
  split
  · exact hresting.transferFailed hwin _
  · rename_i request _
    have hrun : Running true
        (c.createTask .upload .preparingUpload request.name request.size) c.count [] :=
      hresting.createTask hwin hst hlogin hpending (.inl ⟨rfl, rfl⟩)
    have htask : (c.createTask .upload .preparingUpload request.name request.size).tasks
        c.count = _ := update_self ..
    exact hrun.startUpload (by rw [htask]) (by rw [htask]) accepted

lemma Resting.handleDownload (hst : c.state = .connected) (args : Bytes) (opened : Option String) :
    Inv true (c.handleDownload args opened) := by
  refine hresting.whenReady hwin fun hlogin hpending => ?_
  split
  · exact hresting.transferFailed hwin _
  · rename_i name _
    have hrun : Running true
        (c.createTask .download .preparingDownload name 0) c.count [] :=
      hresting.createTask hwin hst hlogin hpending (.inr ⟨rfl, rfl⟩)
    have htask : (c.createTask .download .preparingDownload name 0).tasks c.count = _ :=
      update_self ..
    exact hrun.startDownload (by rw [htask]) opened

end

/-! ## Handling a line -/

lemma Resting.handleTransferControl (hst : c.state = .connected)
    (line : Bytes) (ch : Choices) (start : ℕ) : (c.handleTransferControl line ch start).1 ∧
      Inv true (c.handleTransferControl line ch start).2 := by
  have hended := hresting.endWindow hst
  unfold TransferConnection.handleTransferControl
  simp only [hresting.transfer]
  split_ifs
  · exact ⟨rfl, hended.handleUpload rfl hst _ _⟩
  · exact ⟨rfl, hended.handleDownload rfl hst _ _⟩
  · exact ⟨rfl, hended.transferFailed rfl _⟩

omit hresting in
lemma Running.handleTransferControl {text : Bytes} {start stop : ℕ}
    (hrun : Running reading c i sent) (hph : (c.tasks i).phase = .waitingDownloadAck)
    (hline : ⟨start, stop, text⟩ ∈ c.lines) (hmarker : ascii "@TLSS " <+: text)
    (hdone : ∀ doneAt, (c.tasks i).doneAt = some doneAt → doneAt ≤ start)
    (ch : Choices) (start' : ℕ) : c.handleTransferControl (text.drop 6) ch start' = (false, c) ∨
      (c.handleTransferControl (text.drop 6) ch start').1 ∧
        Inv reading (c.handleTransferControl (text.drop 6) ch start').2 := by
  have hprog := hrun.progress
  have hbody : c.BodyAt i :=
    bodyAt_of_start (by rw [hph] at hprog; exact hprog.2.1)
  unfold TransferConnection.handleTransferControl
  simp only [hrun.transfer, hph, if_true]
  split
  · exact .inl rfl
  · rename_i hend
    split_ifs with hverb
    · exact .inr ⟨rfl, (Inv.running i sent hrun hbody).forceClose⟩
    · refine .inr (hrun.acknowledge hph ⟨⟨start, stop, text⟩, hline, ?_, hmarker, ?_⟩)
      · rw [hph] at hprog
        obtain ⟨-, -, -, -, -, ⟨doneAt, hdoneAt, -⟩, -⟩ := hprog
        exact ⟨doneAt, hdoneAt, hdone doneAt hdoneAt⟩
      · have hrest : skipSpace (readWord (text.drop 6)).2 = [] := by
          unfold requireEnd at hend
          split_ifs at hend with hempty
          exact hempty
        simp [isAcknowledgement, hrest, not_not.mp hverb]

/-- A session that says goodbye is closed once its replies are sent. -/
lemma Resting.quit (hst : c.state = .connected) :
    Inv reading (if (c.send .text).state = .connected then
      { c.send .text with state := .disconnecting } else c.send .text) := by
  have hinv : Inv reading c := .resting hresting
  rcases send_cases hst .text with hsend | hsend <;> rw [hsend]
  · have hnot : c.state ≠ .disconnected := by simp [hst]
    rw [if_neg (by simp [handleClose_state hnot])]
    exact hresting.sound.handleClose hnot
  · rw [if_pos (by simpa [enqueue] using hst)]
    cases hinv.enqueue_text with
    | resting hqueued =>
      have hup : (c.enqueue .text).state ≠ .disconnected := by
        change c.state ≠ _
        simp [hst]
      exact .resting ⟨hqueued.sound.adjust .., hqueued.transfer, fun _ => hqueued.complete hup,
        fun _ => hqueued.finished hup⟩
    | running i sent hrun =>
      have hnone : (c.enqueue .text).transfer = none := hresting.transfer
      rw [hrun.transfer] at hnone
      cases hnone

lemma Resting.dispatchTask (hst : c.state = .connected)
    (line : Bytes) (ch : Choices) (start : ℕ) : Inv true (c.dispatchTask line ch start) := by
  have hinv : Inv true c := .resting hresting
  have hended := hresting.endWindow hst
  have hbusy : Inv true (if ch.accepted start then c else c.send .text) := by
    split
    · exact hinv
    · exact hinv.send_text
  unfold TransferConnection.dispatchTask
  split
  · exact hinv.sendTexts _
  split
  · exact hinv.send_text
  split
  · exact hresting.quit hst
  split
  · exact hinv.send_text
  obtain ⟨command, args⟩ := splitCommand line
  simp only
  cases stringToCommand command with
  | cd =>
    simp only
    split
    · exact hinv.sendTexts _
    · unfold handleCd
      split
      · exact .resting { hresting with sound := hresting.sound.adjust .. }
      · exact (Inv.resting hresting).send_text
  | ls | mkdir => exact hbusy
  | pwd => exact hinv.send_text
  | download => exact hended.handleDownload rfl hst _ _
  | upload => exact hended.handleUpload rfl hst _ _
  | login | signup | unknown => exact hinv.sendTexts _

/-! ## The loop -/

omit hresting in
lemma takeLine_buffer (hbuffer : c.buffer = raw ++ 10 :: rest) :
    (c.takeLine raw).buffer = rest := by
  change c.buffer.drop (raw.length + 1) = rest
  rw [hbuffer, ← drop_drop, drop_left]
  rfl

omit hresting in
lemma Sound.takeLine {raw : Bytes} (hs : c.Sound) (hlen : raw.length + 1 ≤ c.buffer.length)
    (hover : ∀ i start, (c.tasks i).start = some start → (c.tasks i).cancelled ∧
        (c.tasks i).consumed = (c.tasks i).size ∧
        start + (c.tasks i).size ≤ c.position) : (c.takeLine raw).Sound := by
  have htaken := hs.retrieve hlen
  refine ⟨hs.cancelled, hs.known, fun win hwin => ?_, hs.past,
    fun i => ?_, htaken.buffer, htaken.position, fun line hline => ?_, hs.login,
    hs.recorded⟩
  · exact (hs.facts win hwin).mono rfl rfl rfl rfl id (subset_append_left _ _)
  · have htask := hs.tasks i
    refine { htask with lines := fun start hstart line hline => ?_ }
    rcases mem_append.mp hline with hold | hnew
    · exact htask.lines start hstart line hold
    · rw [mem_singleton.mp hnew]
      exact .inr (hover i start hstart)
  · rcases mem_append.mp hline with hold | hnew
    · exact htaken.lines line hold
    · rw [mem_singleton.mp hnew]
      exact le_refl _

lemma Resting.takeLine {raw : Bytes} (hst : c.state = .connected)
    (hlen : raw.length + 1 ≤ c.buffer.length) : (c.takeLine raw).Resting := by
  have hup : c.state ≠ .disconnected := by simp [hst]
  refine ⟨hresting.sound.takeLine hlen fun i start hstart => ?_, hresting.transfer,
    hresting.complete, fun _ i => (hresting.finished hup i).retrieve⟩
  exact ⟨hresting.sound.cancelled i (by simp [hresting.transfer]),
    hresting.finished hup i start hstart⟩

omit hresting in
lemma Running.takeLine {raw : Bytes} (hrun : Running reading c i sent)
    (hstart : (c.tasks i).start = none) (hlen : raw.length + 1 ≤ c.buffer.length) :
    Running reading (c.takeLine raw) i sent := by
  have htaken := hrun.retrieve hlen
  refine ⟨hrun.sound.takeLine hlen fun j start hother => ?_, hrun.transfer,
    hrun.current, hrun.settled, hrun.window, htaken.progress, htaken.finished,
    htaken.drained⟩
  have hne : j ≠ i := fun h => by
    rw [h, hstart] at hother
    cases hother
  exact ⟨hrun.sound.cancelled j (by simpa [hrun.transfer] using Ne.symm hne),
    hrun.finished j hne start hother⟩

/-- How a line leaves the loop: it goes on behind the line, or ends. -/
def Handled (rest : Bytes) : Bool × TransferConnection → Prop
  | (true, conn) => Inv true conn ∧ conn.buffer = rest
  | (false, conn) => Inv false conn

lemma Resting.handleLine (hst : c.state = .connected) (hbuffer : c.buffer = raw ++ 10 :: rest)
    (ch : Choices) : Handled rest (c.handleLine raw ch) := by
  have htaken : (c.takeLine raw).Resting :=
    hresting.takeLine hst (by rw [hbuffer]; simp)
  have hrest := takeLine_buffer hbuffer
  unfold TransferConnection.handleLine
  simp only
  split
  · exact hresting.dropInput
  split
  · obtain ⟨hmore, hinv⟩ := htaken.handleTransferControl hst ((withoutReturn raw).drop 6) ch
      c.position
    have hleft := (plain_handleTransferControl _ ((withoutReturn raw).drop 6) ch
      c.position).buffer.trans hrest
    split
    · rename_i next hnext
      rw [hnext] at hinv hleft
      exact ⟨hinv, hleft⟩
    · rename_i next hnext
      rw [hnext] at hmore
      cases hmore
  · rw [if_neg (by simp [hresting.transfer])]
    exact ⟨htaken.dispatchTask hst _ _ _, (plain_dispatchTask _ _ _ _).buffer.trans hrest⟩

end

lemma Running.handleLine (hrun : Running true c i sent)
    (hph : (c.tasks i).phase = .waitingDownloadAck)
    (hbuffer : c.buffer = raw ++ 10 :: rest) (ch : Choices) :
    Handled rest (c.handleLine raw ch) := by
  have hprog := hrun.progress
  rw [hph] at hprog
  obtain ⟨-, hstart, -, -, -, ⟨doneAt, hdoneAt, hdone⟩, -⟩ := hprog
  have hlen : raw.length + 1 ≤ c.buffer.length := by
    rw [hbuffer]
    simp
  have hnone : ∀ start receiver, (c.tasks i).start = some start →
      (c.tasks i).receiver = some receiver → receiver.stuck := by
    simp [hstart]
  have htaken := hrun.takeLine hstart hlen
  have hrest := takeLine_buffer hbuffer
  unfold TransferConnection.handleLine
  simp only
  split
  · exact hrun.dropInput hnone
  split
  · rename_i hcontrol
    have hmarker : ascii "@TLSS " <+: withoutReturn raw := by
      simpa using (Bool.and_eq_true_iff.mp hcontrol).2
    have hline : ⟨c.position, c.position + (raw.length + 1), withoutReturn raw⟩ ∈
        (c.takeLine raw).lines := by
      simp [TransferConnection.takeLine]
    have hbefore : ∀ doneAt', (c.tasks i).doneAt = some doneAt' →
        doneAt' ≤ c.position := by
      rintro doneAt' h
      obtain rfl : doneAt = doneAt' := some.inj (hdoneAt.symm.trans h)
      exact hdone
    have hleft := (plain_handleTransferControl _ ((withoutReturn raw).drop 6) ch
      c.position).buffer.trans hrest
    rcases htaken.handleTransferControl hph hline hmarker hbefore ch c.position with
      hthrown | ⟨hmore, hinv⟩
    · rw [hthrown]
      exact htaken.dropInput hnone
    · split
      · rename_i next hnext
        rw [hnext] at hinv hleft
        exact ⟨hinv, hleft⟩
      · rename_i next hnext
        rw [hnext] at hmore
        cases hmore
  · rw [if_pos (by simp [hrun.transfer])]
    exact (hrun.retrieve hlen).dropInput hnone

lemma Inv.of_drained (hinv : Inv true c) (hbuffer : c.buffer = []) : Inv false c := by
  cases hinv with
  | resting hresting => exact .resting hresting
  | running i sent hrun hbody =>
    exact .running i sent { hrun with drained := fun _ _ => hbuffer } hbody

lemma inv_of_lines {ch : Choices} {fuel : ℕ} {next : TransferConnection → TransferConnection}
    (hstay : Inv false c) (hdrop : Inv false c.dropInput)
    (hline : ∀ raw rest, c.buffer = raw ++ 10 :: rest → Handled rest (c.handleLine raw ch))
    (hnext : ∀ conn', Inv true conn' → conn'.buffer.length ≤ fuel → Inv false (next conn'))
    (hfuel : c.buffer.length ≤ fuel + 1) : Inv false (match splitAtFirst 10 c.buffer with
      | none => if c.buffer.length > maxControlBytes + 1 then c.dropInput else c
      | some (raw, _) =>
        let (more, c) := c.handleLine raw ch
        if more then next c else c) := by
  split
  · split
    · exact hdrop
    · exact hstay
  · rename_i raw rest hsplit
    have hbuffer := (splitAtFirst_spec hsplit).1
    have hhandled := hline raw rest hbuffer
    have hlen : rest.length ≤ fuel := by
      rw [hbuffer] at hfuel
      simp at hfuel
      omega
    rcases hresult : c.handleLine raw ch with ⟨more, conn'⟩
    rw [hresult] at hhandled
    cases more with
    | true => exact hnext conn' hhandled.1 (by rw [hhandled.2]; exact hlen)
    | false => exact hhandled

/-- The loop of `on_message` ends with an empty buffer wherever the client has nothing to
say. -/
lemma Inv.messageLoop (ch : Choices) (fuel : ℕ) (hinv : Inv true c)
    (hfuel : c.buffer.length ≤ fuel) : Inv false (messageLoop ch fuel c) := by
  induction fuel generalizing c with
  | zero => exact hinv.of_drained (eq_nil_of_length_eq_zero (Nat.le_zero.mp hfuel))
  | succ fuel ih =>
    unfold messageLoop
    by_cases hstop : c.state ≠ .connected ∨ c.buffer = []
    · rw [if_pos hstop]
      rcases hstop with hst | hbuffer
      · cases hinv with
        | resting hresting => exact .resting hresting
        | running i sent hrun => exact absurd hrun.connected hst
      · exact hinv.of_drained hbuffer
    · rw [if_neg hstop]
      have hst : c.state = .connected := by
        by_contra h
        exact hstop (.inl h)
      have hnext : ∀ conn', Inv true conn' → conn'.buffer.length ≤ fuel →
          Inv false (messageLoop ch fuel conn') :=
        fun _ hinv' hfuel' => ih hinv' hfuel'
      cases hinv with
      | resting hresting =>
        have hph : c.phase = .idle := by simp [phase, hresting.transfer]
        simp only [hresting.transfer, hph]
        exact inv_of_lines (.resting hresting) hresting.dropInput
          (fun raw rest hbuffer => hresting.handleLine hst hbuffer ch) hnext hfuel
      | running i sent hrun hbody =>
        have hph : c.phase = (c.tasks i).phase := by
          simp [phase, hrun.transfer]
        have hprog := hrun.progress
        rw [hrun.transfer, hph]
        cases hcase : (c.tasks i).phase <;> rw [hcase] at hprog
        case idle => exact hprog.elim
        case preparingUpload =>
          exact hrun.dropInput (by simp [hprog.2.2.1])
        case receivingUpload =>
          exact hrun.consume hbody hcase rfl
        case finalizingUpload =>
          exact .running i sent (hrun.of_not_quiet (by simp [Quiet, hcase]) false) hbody
        case preparingDownload =>
          exact hrun.dropInput (by simp [hprog.2.2.1])
        case sendingDownload =>
          exact hrun.dropInput (by simp [hprog.2.1])
        case waitingDownloadAck =>
          refine inv_of_lines ?_ (hrun.dropInput (by simp [hprog.2.1]))
            (fun raw rest hbuffer => hrun.handleLine hcase hbuffer ch) hnext hfuel
          exact .running i sent (hrun.of_not_quiet (by simp [Quiet, hcase]) false) hbody

end Tlss.Ftp.TransferConnection
