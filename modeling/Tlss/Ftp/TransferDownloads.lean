import Tlss.Ftp.TransferUploads

/-!
# Downloads keep the invariant

A download that cannot be opened is refused. Otherwise `DATA` and the body follow each other
in one callback, `DONE` comes when the write queue has sent the whole body, and `OK` when the
client has acknowledged it. A failure behind `DATA` closes the connection.
-/

namespace Tlss.Ftp.TransferConnection

open Library

variable {c : TransferConnection} {reading : Bool} {i : ℕ} {sent : List Sent}

section

variable (hrun : Running reading c i sent)
include hrun

lemma Running.opening (hph : (c.tasks i).phase = .preparingDownload) :
    (c.tasks i).kind = .download ∧ controls sent = [] ∧ (c.tasks i).start = none ∧
      (c.tasks i).sending = false ∧ (c.tasks i).failed = false := by
  have hprog := hrun.progress
  rw [hph] at hprog
  exact hprog

lemma Running.receiver_of_download
    (hkind : (c.tasks i).kind = .download) : (c.tasks i).receiver = none := by
  cases hreceiver : (c.tasks i).receiver with
  | none => rfl
  | some receiver =>
    have hupload := (hrun.sound.tasks i).upload receiver hreceiver
    rw [hkind] at hupload
    cases hupload

lemma Running.downloadFailed_opening (hph : (c.tasks i).phase = .preparingDownload) (err : String) :
    Inv reading (c.downloadFailed i err) := by
  obtain ⟨hkind, hfrs, hstart, -⟩ := hrun.opening hph
  unfold downloadFailed
  rw [emit_failed hrun.current, if_neg (by simp [hph])]
  refine hrun.transferFailed err ?_ (fun h => ?_) fun start hstart' => ?_
  · rw [hkind, hfrs]
    exact .downloadRefused err
  · rw [hfrs] at h
    cases h
  · rw [hstart] at hstart'
    cases hstart'

lemma Running.downloadFailed_sending (hph : (c.tasks i).phase = .sendingDownload)
    (hsending : (c.tasks i).sending = false) :
    Inv reading (c.onTask i fun t => { t with failed := true }).forceClose := by
  have hprog := hrun.progress
  rw [hph] at hprog
  obtain ⟨hkind, -, hwait, -⟩ := hprog
  refine hrun.failClose hwait hsending (fun receiver hreceiver => ?_) (by simp [hph])
    (by simp [hph])
  rw [hrun.receiver_of_download hkind] at hreceiver
  cases hreceiver

lemma Running.startDownload
    (hph : (c.tasks i).phase = .preparingDownload) (opened : Option String) :
    Inv reading (c.startDownload i opened) := by
  obtain ⟨hkind, hfrs, hstart, hsending, hfailed⟩ := hrun.opening hph
  have htask := hrun.sound.tasks i
  unfold TransferConnection.startDownload
  rw [hrun.current, if_neg (by simp)]
  cases opened with
  | none =>
    refine .running i sent (hrun.onTask { htask with silent := fun h => ?_ }
      (isCurrent_onTask rfl rfl rfl) rfl
      (hrun.facts.mono rfl rfl rfl rfl id (List.Subset.refl _)) ?_ id) (bodyAt_of_start ?_)
    · exact absurd (hfailed.symm.trans h) Bool.false_ne_true
    · simp only [hph]
      exact ⟨hkind, hfrs, hstart, hsending, hfailed⟩
    · rw [onTask_tasks_self]
      exact hstart
  | some err => exact hrun.downloadFailed_opening hph err

/-! ## The body goes out -/

lemma Running.sound_opened (hph : (c.tasks i).phase = .preparingDownload) (size : ℕ) :
    (c.onTask i fun t => { t with phase := .sendingDownload, size }).Sound := by
  obtain ⟨hkind, hfrs, hstart, -⟩ := hrun.opening hph
  have hnone := hrun.receiver_of_download hkind
  have htask := hrun.sound.tasks i
  have hfacts := hrun.facts
  have hnot : ∀ frame : Frame, .frame frame ∉ sent := fun frame hmem => by
    rw [← mem_controls, hfrs] at hmem
    cases hmem
  refine hrun.sound_onTask { htask with exact := fun receiver h => ?_, lines := fun start h =>
    ?_ } rfl
    ⟨hfacts.exchange, fun message h => ?_, hfacts.direct, fun size hash h => absurd h (hnot _),
      fun h => absurd h (hnot _), fun h => absurd h (hnot _)⟩
  · rw [hnone] at h
    cases h
  · rw [hstart] at h
    cases h
  · rw [hfrs] at h
    cases h

lemma Running.data (hph : (c.tasks i).phase = .preparingDownload)
    (hwait : (c.tasks i).awaiting = false) (size : ℕ) (hash : Bytes) :
    Running reading ((c.onTask i fun t =>
      { t with phase := .sendingDownload, size }).enqueue (.frame (.data size hash))) i
      (sent ++ [.frame (.data size hash)]) := by
  obtain ⟨hkind, hfrs, hstart, hsending, hfailed⟩ := hrun.opening hph
  have hs := hrun.sound_opened hph size
  have hbef : Facts { c.tasks i with phase := .sendingDownload, size } c.lines
      sent := by
    have hfacts := hs.facts ⟨i, sent⟩ (mem_windows_of_window hrun.window)
    rwa [onTask_tasks_self] at hfacts
  refine hrun.advance hs (isCurrent_onTask rfl rfl rfl) ?_ ?_ fun _ => .inr (.inl hph)
  · refine hbef.frame
      ⟨[.frame (.data size hash), .body size, .frame .done, .frame .ok], ?_, ?_⟩ ?_ ?_ nofun nofun
    · rw [hkind]
      exact .downloaded size hash
    · rw [hfrs]
      exact ⟨_, rfl⟩
    · intro message h
      rw [hfrs] at h
      cases h
    · rintro _ _ ⟨⟩
      rfl
  · rw [controls_frame, hfrs]
    exact ⟨hkind, hstart, hwait, hash, .inl ⟨rfl, hsending⟩⟩

omit hrun in
lemma Running.body {size : ℕ} {hash : Bytes}
    (hrun : Running reading c i (sent ++ [.frame (.data size hash)]))
    (hph : (c.tasks i).phase = .sendingDownload)
    (hsize : (c.tasks i).size = size) (hfailed : (c.tasks i).failed = false)
    (hfrs : controls sent = []) : (c.onTask i fun t => { t with sending := true }).Sound ∧
    Running reading ((c.onTask i fun t => { t with sending := true }).enqueue
      (.body size)) i (sent ++ [.frame (.data size hash)] ++ [.body size]) := by
  have hprog := hrun.progress
  rw [hph] at hprog
  obtain ⟨hkind, hstart, hwait, -⟩ := hprog
  have htask := hrun.sound.tasks i
  have hbef : Facts { c.tasks i with sending := true } c.lines
      (sent ++ [.frame (.data size hash)]) :=
    hrun.facts.mono rfl rfl rfl rfl id (List.Subset.refl _)
  have hs : (c.onTask i fun t => { t with sending := true }).Sound := by
    refine hrun.sound_onTask { htask with silent := fun h => ?_ } rfl hbef
    exact absurd (hfailed.symm.trans h) Bool.false_ne_true
  refine ⟨hs, hrun.advance hs (isCurrent_onTask rfl rfl rfl) ⟨?_, ?_, ?_, ?_, ?_, ?_⟩ ?_ id⟩
  · refine ⟨[.frame (.data size hash), .body size, .frame .done, .frame .ok], ?_, ?_⟩
    · rw [hkind]
      exact .downloaded size hash
    · rw [controls_body, controls_frame, hfrs]
      exact ⟨_, rfl⟩
  · intro message h
    rw [controls_body, controls_frame, hfrs] at h
    cases h
  · refine List.isChain_append.mpr ⟨hbef.direct, List.isChain_singleton _, ?_⟩
    intro before hlast after hafter
    obtain rfl : Sent.body size = after := by simpa using hafter
    exact ⟨hash, by simpa [eq_comm] using hlast⟩
  · exact fun size' hash' h => hbef.announced size' hash' (by simpa using h)
  · exact fun h => hbef.whole (by simpa using h)
  · exact fun h => hbef.acknowledged (by simpa using h)
  · rw [controls_body, controls_frame, hfrs]
    simp only [hph]
    refine ⟨hkind, hstart, hwait, hash, .inr ?_⟩
    simp only [hsize]
    rfl

omit hrun in
lemma emit_downloadReady (hcur : c.isCurrent i) (size : ℕ) (hash : Bytes) :
    c.emit i (.downloadReady size hash) = c.sendControl (.data size hash) := by
  simp [emit, hcur]

omit hrun in
lemma emit_downloadSent (hcur : c.isCurrent i) : c.emit i .downloadSent = c.sendControl .done := by
  simp [emit, hcur]

omit hrun in
lemma emit_downloadComplete (hcur : c.isCurrent i) :
    c.emit i .downloadComplete = (c.resetTransfer.sendControl .ok).send .text := by
  simp [emit, hcur]

omit hrun in
lemma emit_of_not_current (hcur : c.isCurrent i = false) (event : TransferEvent) :
    c.emit i event = c := by
  simp [emit, hcur]

omit hrun in
lemma handleClose_state (hstate : c.state ≠ .disconnected) :
    c.handleClose.state = .disconnected := by
  simp [handleClose, hstate]

/-- `on_ready` of a download: `DATA` and the body, unless the connection goes down or the
body cannot be sent. -/
lemma Running.announce (hph : (c.tasks i).phase = .preparingDownload)
    (hwait : (c.tasks i).awaiting = false) (size : ℕ) (hash : Bytes)
    (prepared : Option String) : Inv reading (match prepared with
      | none => (((c.onTask i fun t =>
        { t with phase := .sendingDownload, size }).emit i
          (.downloadReady size hash)).sendBody i size)
      | some err => (((c.onTask i fun t =>
        { t with phase := .sendingDownload, size }).emit i
          (.downloadReady size hash)).downloadFailed i err)) := by
  obtain ⟨hkind, hfrs, hstart, hsending, hfailed⟩ := hrun.opening hph
  have hs := hrun.sound_opened hph size
  have hdata := hrun.data hph hwait size hash
  set next := c.onTask i fun t => { t with phase := .sendingDownload, size }
  have hcur : next.isCurrent i :=
    (isCurrent_onTask rfl rfl rfl).trans hrun.current
  have hconnected : next.state = .connected := hrun.connected
  rw [emit_downloadReady hcur, sendControl]
  rcases send_cases hconnected (.frame (.data size hash)) with hsend | hsend <;> rw [hsend]
  · have hnot : next.state ≠ .disconnected := by simp [hconnected]
    have hclosed : Inv reading next.handleClose := hs.handleClose hnot
    cases prepared with
    | none =>
      simp only [sendBody]
      rw [if_pos (by simp [handleClose_state hnot])]
      exact hclosed
    | some err =>
      simp only [downloadFailed]
      rw [emit_of_not_current (hclosed.sound.not_current (by simp [handleClose_transfer hnot]))]
      exact hclosed
  · have htask : (next.enqueue (.frame (.data size hash))).tasks i =
        { c.tasks i with phase := .sendingDownload, size } := Function.update_self ..
    cases prepared with
    | none =>
      obtain ⟨hsound', hbody⟩ := hdata.body (by rw [htask]) (by rw [htask])
        (by rw [htask]; exact hfailed) hfrs
      simp only [sendBody]
      rw [if_neg (by simp [hdata.connected])]
      refine hsound'.send hdata.connected (.running i _ hbody (bodyAt_of_start ?_))
      change ((TransferConnection.onTask (next.enqueue (.frame (.data size hash))) i
        fun t => { t with sending := true }).tasks i).start = none
      rw [onTask_tasks_self, htask]
      exact hstart
    | some err =>
      simp only [downloadFailed]
      rw [emit_failed hdata.current, if_pos (by simp [htask])]
      exact hdata.downloadFailed_sending (by rw [htask]) (by rw [htask]; exact hsending)

omit hrun in
lemma Inv.onOpened (hinv : Inv reading c) (i : ℕ) (answer : Except String (ℕ × Bytes))
    (prepared : Option String) : Inv reading (c.onOpened i answer prepared) := by
  unfold TransferConnection.onOpened
  split
  · exact hinv
  · rename_i hguard
    obtain ⟨hawaited, hkind⟩ : (c.tasks i).awaiting ∧
        (c.tasks i).kind = .download := by simpa using hguard
    have hinv' : Inv reading (c.onTask i fun t => { t with awaiting := false }) :=
      hinv.keep i (kept_of_fields nofun id id)
    simp only
    split
    · exact hinv'
    · rename_i hskip
      simp only [Bool.or_eq_true, Bool.not_eq_true', not_or, Bool.not_eq_false, alive_iff] at hskip
      have htr : c.transfer = some i := hskip.1.1
      -- A download awaits an answer in one phase only.
      have hph : (c.tasks i).phase = .preparingDownload := by
        obtain ⟨sent, hrun, -⟩ := hinv.running_of_transfer htr
        have hprog := hrun.progress
        cases hcase : (c.tasks i).phase <;> rw [hcase] at hprog <;>
          simp [Progress, hkind, hawaited] at hprog ⊢
      obtain ⟨sent, hrun, -⟩ := hinv'.running_of_transfer htr
      have hphase' : ((c.onTask i fun t =>
          { t with awaiting := false }).tasks i).phase = .preparingDownload := by
        rw [onTask_tasks_self]
        exact hph
      split
      · exact hrun.downloadFailed_opening hphase' _
      · rename_i size hash
        rw [if_neg (by rw [hrun.current, hphase']; simp)]
        exact hrun.announce hphase' (by rw [onTask_tasks_self]) size hash prepared

/-! ## The end of the body -/

lemma Running.sending_phase (hsending : (c.tasks i).sending) :
    (c.tasks i).phase = .sendingDownload ∧ (c.tasks i).start = none ∧ ∃ hash, controls sent =
        [.frame (.data (c.tasks i).size hash), .body (c.tasks i).size] := by
  have hprog := hrun.progress
  cases hcase : (c.tasks i).phase <;> rw [hcase] at hprog <;>
    simp [Progress, hsending] at hprog
  exact ⟨rfl, hprog.2.1, hprog.2.2.2⟩

omit hrun in
/-- `DONE` is sent: whatever arrives from now on arrives behind it. -/
lemma Running.done {hash : Bytes} (hrun : Running false c i sent)
    (hph : (c.tasks i).phase = .sendingDownload) (hsending : (c.tasks i).sending = false)
    (hsent : (c.tasks i).sentBytes = (c.tasks i).size) (hfrs : controls sent =
      [.frame (.data (c.tasks i).size hash), .body (c.tasks i).size]) : (c.onTask i fun t =>
      { t with phase := .waitingDownloadAck, doneAt := some c.stream.length }).Sound ∧
    Running false ((c.onTask i fun t =>
      { t with phase := .waitingDownloadAck, doneAt := some c.stream.length }).enqueue
      (.frame .done)) i (sent ++ [.frame .done]) := by
  have hprog := hrun.progress
  rw [hph] at hprog
  obtain ⟨hkind, hstart, hwait, -⟩ := hprog
  have hposition : c.position = c.stream.length :=
    hrun.sound.position_of_buffer (hrun.drained rfl (.inr (.inr hph)))
  have htask := hrun.sound.tasks i
  have hfacts := hrun.facts
  have hnot : Sent.frame .ok ∉ sent := fun hmem => by
    rw [← mem_controls, hfrs] at hmem
    simp at hmem
  have hbef : Facts { c.tasks i with
      phase := .waitingDownloadAck, doneAt := some c.stream.length } c.lines sent :=
    { hfacts with acknowledged := fun h => absurd h hnot }
  have hs : (c.onTask i fun t =>
      { t with phase := .waitingDownloadAck, doneAt := some c.stream.length }).Sound :=
    hrun.sound_onTask { htask with } rfl hbef
  refine ⟨hs, hrun.advance hs (isCurrent_onTask rfl rfl rfl) ?_ ?_ (by simp [Quiet])⟩
  · refine hbef.frame ⟨[.frame (.data (c.tasks i).size hash),
      .body (c.tasks i).size, .frame .done, .frame .ok], ?_, ?_⟩ ?_ (by simp)
      (fun _ => hsent) (by simp)
    · rw [hkind]
      exact .downloaded _ hash
    · rw [hfrs]
      exact ⟨_, rfl⟩
    · intro message h
      rw [hfrs] at h
      cases h
  · rw [controls_frame, hfrs]
    exact ⟨hkind, hstart, hwait, hsending, hsent, ⟨_, rfl, hposition.symm.le⟩, hash, rfl⟩

omit hrun in
lemma Inv.bodyEnds (hinv : Inv false c) (i : ℕ) (err : Option String) :
    Inv false (c.act (.bodyEnds i err)) := by
  simp only [act]
  split
  · exact hinv
  · rename_i hguard
    obtain ⟨hsending, hsent⟩ : (c.tasks i).sending ∧
        (err = none → (c.tasks i).sentBytes = (c.tasks i).size) := by
      simpa [Option.isNone_iff_eq_none, Classical.not_and_iff_not_or_not, imp_iff_not_or]
        using hguard
    have hinv' : Inv false (c.onTask i fun t => { t with sending := false }) :=
      hinv.keep i (kept_of_fields id nofun id)
    unfold onSent
    split
    · exact hinv'
    · rename_i hskip
      simp only [Bool.or_eq_true, Bool.not_eq_true', not_or, Bool.not_eq_false, alive_iff] at hskip
      have htr : c.transfer = some i := hskip.1
      obtain ⟨sent, hrun, -⟩ := hinv.running_of_transfer htr
      obtain ⟨hph, hstart, hash, hfrs⟩ := hrun.sending_phase hsending
      obtain ⟨sent', hended, -⟩ := hinv'.running_of_transfer htr
      obtain ⟨-, rfl⟩ : i = i ∧ sent = sent' := by
        simpa using hrun.window.symm.trans hended.window
      have htask : (c.onTask i fun t => { t with sending := false }).tasks i =
        { c.tasks i with sending := false } := onTask_tasks_self _
      set next := c.onTask i fun t => { t with sending := false }
      cases err with
      | some err =>
        simp only
        rw [emit_failed hended.current]
        exact hended.downloadFailed_sending (by rw [htask]; exact hph) (by rw [htask])
      | none =>
        have hframes' : controls sent =
            [.frame (.data (next.tasks i).size hash), .body (next.tasks i).size] := by
          rw [htask]
          exact hfrs
        obtain ⟨hs, hdone⟩ := hended.done (by rw [htask]; exact hph) (by rw [htask])
          (by rw [htask]; exact hsent rfl) hframes'
        rw [emit_downloadSent ((isCurrent_onTask rfl rfl rfl).trans hended.current)]
        refine hs.send hended.connected (.running i _ hdone (bodyAt_of_start ?_))
        simp only [enqueue, onTask_tasks_self, htask]
        exact hstart

/-- `acknowledge`: `OK` is sent for a line that arrived behind `DONE`. -/
lemma Running.acknowledge (hph : (c.tasks i).phase = .waitingDownloadAck)
    (hline : ∃ line ∈ c.lines, (c.tasks i).AcknowledgedBy line) :
    (c.acknowledge i).1 ∧ Inv reading (c.acknowledge i).2 := by
  have hprog := hrun.progress
  rw [hph] at hprog
  obtain ⟨hkind, hstart, -, -, hsent, -, hash, hfrs⟩ := hprog
  have hcur : (c.setPhase i .idle).isCurrent i :=
    (isCurrent_onTask rfl rfl rfl).trans hrun.current
  have hexchange : Exchange (c.tasks i).kind (controls sent ++ [.frame .ok]) := by
    rw [hkind, hfrs]
    exact .downloaded _ hash
  unfold TransferConnection.acknowledge
  rw [hrun.current, if_neg (by simp), if_neg (by simp [hph]), emit_downloadComplete hcur]
  refine ⟨rfl, hrun.complete hexchange (fun start h => ?_) <| hrun.facts.frame
    ⟨_, hexchange, List.prefix_rfl⟩ (fun message h => ?_) nofun nofun fun _ => hline⟩
  · rw [hstart] at h
    cases h
  · rw [hfrs] at h
    cases h

end

end Tlss.Ftp.TransferConnection
