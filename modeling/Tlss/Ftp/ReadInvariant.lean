import Tlss.Ftp.SessionAnswers

/-!
# No pause of reading is forgotten

The invariant of the reading side has four parts. The interest in input is what the flags
say (`Watched`). A pause for the write queue is ended by the queue or by a callback, and
the callback for buffered input is in the queue of the loop if the flag says so (`Wired`).
As long as the server does not stop, a pause for the disk belongs to a receiver that will
hear of the disk (`Attended`), and no line waits in the buffer without a callback or a pause
that will look at it (`Heard`).
-/

namespace Tlss.Ftp.ServerConnection

open Library Net TransferConnection List WriteScheduler

def Watched (server : ServerConnection) : Prop := server.reading = server.readWanted

/-- Whatever keeps the connection from reading has a callback that ends it. -/
structure Wired (server : ServerConnection) : Prop where
  pending : server.bufferedInputPending = true → .bufferedInput ∈ server.functors
  send : server.service.state = .connected → server.sendReadPaused = true →
    server.writer.writes ≠ [] ∨ .writeComplete ∈ server.functors
  running : server.service.state ≠ .disconnected → server.writer.stopped = false
  bounded : server.writer.Bounded
  mark : 0 < server.writer.highWaterMark
  shutdown : server.readEofOnly = true → server.readPausedForShutdown = true

/-- Every pause belongs to a receiver with an operation in flight. -/
structure Attended (server : ServerConnection) : Prop where
  inv : Inv false server.service
  pauses : server.service.state = .connected → server.service.closing = false →
    ∀ token ∈ server.diskReadPauses, server.service.InFlight token

/-- A complete line, outside of a transfer, will be looked at. -/
def Heard (server : ServerConnection) : Prop :=
  server.service.state = .connected → server.service.closing = false →
    server.service.transfer = none → 10 ∈ server.service.buffer →
      .bufferedInput ∈ server.functors ∨ server.sendReadPaused = true ∨ server.diskReadPauses ≠ ∅

/-- What holds within a callback too. -/
structure Core (server : ServerConnection) : Prop where
  wired : server.Wired
  attended : server.readPausedForShutdown = false → server.Attended
  heard : server.readPausedForShutdown = false → server.Heard

/-- Between callbacks the channel is watched as it should be. -/
structure Sound (server : ServerConnection) : Prop where
  core : server.Core
  watched : server.Watched

variable {s : ServerConnection} {action : TransferConnection.Action} {room token : ℕ}

/-! ## The reading side -/

lemma watched_updateReadInterest (s : ServerConnection) : s.updateReadInterest.Watched := rfl

lemma Wired.updateReadInterest (hwired : s.Wired) : s.updateReadInterest.Wired :=
  { hwired with }

lemma Attended.updateReadInterest (hatt : s.Attended) : s.updateReadInterest.Attended :=
  { hatt with }

lemma scheduleBufferedInput_cases (s : ServerConnection) : s.scheduleBufferedInput = s ∧
        (s.bufferedInputPending ∨ s.shouldRead = false ∨
          s.readEofOnly ∨ s.readPausedForShutdown ∨ s.service.buffer = []) ∨
      s.scheduleBufferedInput = { s with
          bufferedInputPending := true
          functors := s.functors ++ [LoopFunctor.bufferedInput] }.updateReadInterest := by
  unfold scheduleBufferedInput
  split
  · rename_i hstay
    refine .inl ⟨rfl, ?_⟩
    simpa [or_assoc] using hstay
  · exact .inr rfl

lemma Wired.scheduleBufferedInput (hwired : s.Wired) : s.scheduleBufferedInput.Wired := by
  rcases scheduleBufferedInput_cases s with ⟨h, -⟩ | h
  · rwa [h]
  · rw [h]
    refine Wired.updateReadInterest { hwired with pending := fun _ => by simp, send := fun hup
      hpaused => ?_ }
    exact (hwired.send hup hpaused).imp_right (mem_append_left _)

lemma Attended.scheduleBufferedInput (hatt : s.Attended) : s.scheduleBufferedInput.Attended := by
  rcases scheduleBufferedInput_cases s with ⟨h, -⟩ | h
  · rwa [h]
  · rw [h]
    exact { hatt with }

lemma Wired.heard_schedule (hwired : s.Wired)
    (hrun : s.readPausedForShutdown = false) : s.scheduleBufferedInput.Heard := by
  rcases scheduleBufferedInput_cases s with ⟨h, hstay⟩ | h
  · rw [h]
    intro hup _ _ hline
    have heof : s.readEofOnly = false := by
      by_contra heof
      have hshutdown := hwired.shutdown (eq_true_of_ne_false heof)
      rw [hrun] at hshutdown
      cases hshutdown
    rcases hstay with hpending | hread | hstop | hstop | hbuffer
    · exact .inl (hwired.pending hpending)
    · right
      by_contra hnone
      push Not at hnone
      simp [shouldRead, hup, heof, hrun, hnone] at hread
    · rw [heof] at hstop
      cases hstop
    · rw [hrun] at hstop
      cases hstop
    · simp [hbuffer] at hline
  · rw [h]
    exact fun _ _ _ _ => .inl (mem_append_right _ (mem_singleton_self _))

lemma Heard.updateReadInterest (hheard : s.Heard) : s.updateReadInterest.Heard := hheard

@[simp] lemma scheduleBufferedInput_shutdown :
    s.scheduleBufferedInput.readPausedForShutdown = s.readPausedForShutdown := by
  rcases scheduleBufferedInput_cases s with ⟨h, -⟩ | h
  · rw [h]
  · rw [h]
    rfl

lemma Watched.pauseReadForDisk (hwatched : s.Watched) (token : ℕ) :
    (s.pauseReadForDisk token).Watched := by
  unfold ServerConnection.pauseReadForDisk
  split
  · exact hwatched
  · exact watched_updateReadInterest _

lemma Core.pauseReadForDisk (hwired : s.Wired) (hatt : s.readPausedForShutdown = false → s.Attended)
    (hflight : s.readPausedForShutdown = false → s.service.state = .connected →
      s.service.closing = false → s.service.InFlight token) : (s.pauseReadForDisk token).Core := by
  unfold ServerConnection.pauseReadForDisk
  split
  · rename_i hdown
    exact ⟨hwired, hatt, fun _ hup => by rw [hdown] at hup; cases hup⟩
  · refine ⟨Wired.updateReadInterest { hwired with }, fun hrun => ?_,
      fun _ _ _ _ _ => .inr (.inr (Finset.insert_ne_empty _ _))⟩
    refine ⟨(hatt hrun).inv, fun hup hclos other hother => ?_⟩
    rcases Finset.mem_insert.mp hother with rfl | hold
    · exact hflight hrun hup hclos
    · exact (hatt hrun).pauses hup hclos other hold

lemma Sound.resumeReadAfterDisk (hwired : s.Wired)
    (hinv : s.readPausedForShutdown = false → Inv false s.service)
    (hothers : s.readPausedForShutdown = false → s.service.state = .connected →
      s.service.closing = false → ∀ other ∈ s.diskReadPauses, other = token) :
    (s.resumeReadAfterDisk token).Sound := by
  have herased : { s with diskReadPauses := s.diskReadPauses.erase token }.Wired :=
    { hwired with }
  have hsame : (s.resumeReadAfterDisk token).readPausedForShutdown =
      s.readPausedForShutdown := scheduleBufferedInput_shutdown
  refine ⟨⟨herased.scheduleBufferedInput.updateReadInterest,
    fun hrun => Attended.updateReadInterest (Attended.scheduleBufferedInput ?_),
    fun hrun => Heard.updateReadInterest (herased.heard_schedule (hsame.symm.trans hrun))⟩,
    watched_updateReadInterest _⟩
  have hrunning' := hsame.symm.trans hrun
  refine ⟨hinv hrunning', fun hup hclos other hother => ?_⟩
  obtain ⟨hne, hmem⟩ := Finset.mem_erase.mp hother
  exact absurd (hothers hrunning' hup hclos other hmem) hne

/-! ## The callbacks of the write queue -/

lemma Wired.writes_ne_nil (hwired : s.Wired)
    (hbytes : s.writer.pendingMemoryBytes ≠ 0) : s.writer.writes ≠ [] := by
  intro hnil
  rw [hwired.bounded.memory_eq, hnil] at hbytes
  exact hbytes rfl

lemma Sound.stopRead (hs : s.Sound) : s.stopRead.Sound := by
  obtain ⟨⟨hwired, hatt, hheard⟩, hwatched⟩ := hs
  unfold ServerConnection.stopRead
  split
  · exact ⟨⟨hwired, hatt, hheard⟩, hwatched⟩
  rename_i hhigh
  push Not at hhigh
  refine ⟨⟨Wired.updateReadInterest ⟨hwired.pending, fun _ _ => .inl ?_, hwired.running,
    hwired.bounded, hwired.mark, hwired.shutdown⟩,
    fun hrun => ⟨(hatt hrun).inv, (hatt hrun).pauses⟩,
    fun _ _ _ _ _ => .inr (.inl rfl)⟩, watched_updateReadInterest _⟩
  have hmark := hwired.mark
  exact hwired.writes_ne_nil (by omega)

/-- `start_read`, whose callback was taken from the queue of the loop, ends the pause or
finds bytes to write. -/
lemma Sound.startRead {functors : List LoopFunctor} (hs : s.Sound)
    (hinput : .bufferedInput ∈ s.functors → LoopFunctor.bufferedInput ∈ functors) :
    { s with functors }.startRead.Sound := by
  obtain ⟨⟨hwired, hatt, hheard⟩, hwatched⟩ := hs
  have hstay : s.service.state ≠ .connected ∨ s.writer.pendingMemoryBytes ≠ 0 →
      { s with functors }.Sound := by
    intro hidle
    refine ⟨⟨⟨fun h => hinput (hwired.pending h), fun hup _ => .inl ?_, hwired.running,
      hwired.bounded, hwired.mark, hwired.shutdown⟩,
      fun hrun => ⟨(hatt hrun).inv, (hatt hrun).pauses⟩,
      fun hrun hup hclos htransfer hline =>
        (hheard hrun hup hclos htransfer hline).imp_left hinput⟩, hwatched⟩
    exact hwired.writes_ne_nil (hidle.resolve_left fun h => h hup)
  unfold ServerConnection.startRead
  split
  · rename_i hidle
    exact hstay hidle
  -- The queue has no bytes: the pause is over.
  have hended : { s with functors, sendReadPaused := false }.Wired :=
    { hwired with pending := fun h => hinput (hwired.pending h), send := nofun }
  have hsame : { s with functors, sendReadPaused := false
      }.scheduleBufferedInput.updateReadInterest.readPausedForShutdown =
      s.readPausedForShutdown := scheduleBufferedInput_shutdown
  refine ⟨⟨hended.scheduleBufferedInput.updateReadInterest,
    fun hrun => Attended.updateReadInterest (Attended.scheduleBufferedInput ?_),
    fun hrun => Heard.updateReadInterest (hended.heard_schedule (hsame.symm.trans hrun))⟩,
    watched_updateReadInterest _⟩
  have hattends := hatt (hsame.symm.trans hrun)
  exact { hattends with }

lemma shouldRead_of_down (hdown : s.service.state = .disconnected) : s.shouldRead = false := by
  rw [shouldRead, if_pos hdown]

lemma readWanted_of_down (hdown : s.service.state = .disconnected) : s.readWanted = false := by
  rw [readWanted, shouldRead_of_down hdown, Bool.false_and]

lemma Sound.close {service : TransferConnection}
    (hpending : s.bufferedInputPending → .bufferedInput ∈ s.functors)
    (hbnd : s.writer.Bounded) (hmark : 0 < s.writer.highWaterMark)
    (hshutdown : s.readEofOnly → s.readPausedForShutdown) (hdown : service.state = .disconnected)
    (hinv : s.readPausedForShutdown = false → Inv false service) :
    { s with service, writer := s.writer.cancelAll .ECANCELED, reading := false
      }.Sound := by
  have hcancelled := step_bounded hbnd (.cancelAll .ECANCELED)
  have hnot : ¬ service.state = .connected := by simp [hdown]
  refine ⟨⟨⟨hpending, fun hup => absurd hup hnot, fun hup => absurd hdown hup, hcancelled, ?_,
    hshutdown⟩, fun hrun => ⟨hinv hrun, fun hup => absurd hup hnot⟩,
    fun _ hup => absurd hup hnot⟩, (readWanted_of_down hdown).symm⟩
  exact (cancelAll_highWaterMark .ECANCELED).symm ▸ hmark

lemma Sound.handleClose (hs : s.Sound) : s.handleClose.Sound := by
  unfold ServerConnection.handleClose
  split
  · exact hs
  rename_i hup
  obtain ⟨⟨hwired, hatt, -⟩, -⟩ := hs
  exact Sound.close hwired.pending hwired.bounded hwired.mark hwired.shutdown
    (handleClose_state hup) fun hrun => (hatt hrun).inv.act .close

lemma Sound.callWriter (hs : s.Sound) {e : WriteScheduler.Event}
    (hevent : ∀ bytes, e ≠ .setHighWaterMark bytes) : (s.callWriter e).Sound := by
  obtain ⟨⟨hwired, hatt, hheard⟩, hwatched⟩ := hs
  have hbnd := step_bounded hwired.bounded e
  have hmark : 0 < (s.writer.step e).highWaterMark :=
    (step_highWaterMark hevent).symm ▸ hwired.mark
  have hpending : s.bufferedInputPending → .bufferedInput ∈ s.functors ++
      (s.writer.effects e).filterMap loopFunctor :=
    fun h => mem_append_left _ (hwired.pending h)
  have hheard' : s.readPausedForShutdown = false → { s with
      writer := s.writer.step e
      functors := s.functors ++ (s.writer.effects e).filterMap loopFunctor }.Heard :=
    fun hrun hup hclos htransfer hline =>
      (hheard hrun hup hclos htransfer hline).imp_left (mem_append_left _)
  have hattended' : s.readPausedForShutdown = false → { s with
      writer := s.writer.step e
      functors := s.functors ++ (s.writer.effects e).filterMap loopFunctor
      }.Attended :=
    fun hrun => ⟨(hatt hrun).inv, (hatt hrun).pauses⟩
  unfold ServerConnection.callWriter
  dsimp only
  split
  · unfold ServerConnection.handleClose
    split
    · rename_i hdown
      have hnot : ¬ s.service.state = .connected := fun hup => by
        rw [hup] at hdown
        cases hdown
      exact ⟨⟨⟨hpending, fun hup => absurd hup hnot, fun hup => absurd hdown hup, hbnd,
        hmark, hwired.shutdown⟩, hattended', hheard'⟩, hwatched⟩
    · rename_i hup
      exact Sound.close hpending hbnd hmark hwired.shutdown (handleClose_state hup)
        fun hrun => (hatt hrun).inv.act .close
  · rename_i hgoes
    refine ⟨⟨⟨hpending, fun hup hpaused => ?_, fun _ => by simpa using hgoes, hbnd,
      hmark, hwired.shutdown⟩, hattended', hheard'⟩, hwatched⟩
    rcases hwired.send hup hpaused with hwrites | hqueued
    · rcases step_filled (.inr hwrites) e with (hstopped | hfilled) | hdrained
      · exact absurd hstopped hgoes
      · exact .inl hfilled
      · exact .inr (mem_append_right _ ((mem_filterMap.mpr ⟨.drained, hdrained, rfl⟩)))
    · exact .inr (mem_append_left _ hqueued)

/-! ## The callbacks of the service -/

lemma callback_cases (s : ServerConnection) (action : TransferConnection.Action) (room : ℕ) :
    (s.service.step ⟨action, room⟩).state = .disconnected ∧
        s.service.state ≠ .disconnected ∧ s.callback action room = { s with
          service := s.service.step ⟨action, room⟩
          writer := s.writer.cancelAll .ECANCELED
          reading := false } ∨
      ((s.service.step ⟨action, room⟩).state = .disconnected →
          s.service.state = .disconnected) ∧
        s.callback action room = { s with service := s.service.step ⟨action, room⟩ } := by
  unfold callback
  dsimp only
  split
  · rename_i hdown
    exact .inl ⟨hdown.1, hdown.2, rfl⟩
  · rename_i hgoes
    exact .inr ⟨fun h => by_contra fun hup => hgoes ⟨h, hup⟩, rfl⟩

lemma callback_service (s : ServerConnection) (action : TransferConnection.Action)
    (room : ℕ) : (s.callback action room).service = s.service.step ⟨action, room⟩ := by
  rcases callback_cases s action room with ⟨-, -, h⟩ | ⟨-, h⟩ <;> rw [h]

/-- The reading side is as before. -/
structure SameReading (server after : ServerConnection) : Prop where
  pauses : after.diskReadPauses = server.diskReadPauses
  shutdown : after.readPausedForShutdown = server.readPausedForShutdown
  paused : after.sendReadPaused = server.sendReadPaused
  functors : after.functors = server.functors

lemma sameReading_callback (s : ServerConnection) (action : TransferConnection.Action)
    (room : ℕ) : SameReading s (s.callback action room) := by
  rcases callback_cases s action room with ⟨-, -, h⟩ | ⟨-, h⟩ <;> rw [h] <;>
    exact ⟨rfl, rfl, rfl, rfl⟩

lemma Wired.callback (hwired : s.Wired) (hup : (s.service.step ⟨action, room⟩).state = .connected →
      s.service.state = .connected) (hdown : s.service.state = .disconnected →
      (s.service.step ⟨action, room⟩).state = .disconnected) : (s.callback action room).Wired := by
  rcases callback_cases s action room with ⟨hclosed, -, h⟩ | ⟨-, h⟩
  · rw [h]
    have hbnd := step_bounded hwired.bounded (.cancelAll .ECANCELED)
    refine ⟨hwired.pending, fun h => ?_, fun h => absurd hclosed h, hbnd, ?_, hwired.shutdown⟩
    · exact absurd (hclosed.symm.trans h) nofun
    · exact (cancelAll_highWaterMark .ECANCELED).symm ▸ hwired.mark
  · rw [h]
    exact ⟨hwired.pending, fun h => hwired.send (hup h),
      fun h => hwired.running fun hbefore => h (hdown hbefore), hwired.bounded, hwired.mark,
      hwired.shutdown⟩

lemma Watched.callback (hwatched : s.Watched) (hdown : s.service.state = .disconnected →
      (s.service.step ⟨action, room⟩).state = .disconnected) :
    (s.callback action room).Watched := by
  rcases callback_cases s action room with ⟨hclosed, -, h⟩ | ⟨hgoes, h⟩
  · rw [h]
    exact (readWanted_of_down hclosed).symm
  · rw [h]
    have hsame : ((s.service.step ⟨action, room⟩).state = .disconnected) =
        (s.service.state = .disconnected) := propext ⟨hgoes, hdown⟩
    rw [Watched, readWanted, shouldRead] at hwatched ⊢
    simp only [hsame]
    exact hwatched

end Tlss.Ftp.ServerConnection
