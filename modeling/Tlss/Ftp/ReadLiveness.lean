import Tlss.Ftp.ReadInvariant

/-!
# No connection is stuck

Every event keeps the invariant of the reading side, so it holds in every run.
-/

namespace Tlss.Ftp.ServerConnection

open Library Net TransferConnection

variable {server : ServerConnection} {action : TransferConnection.Action} {room : ℕ}
  {c : TransferConnection}

/-! ## Callbacks of the service -/

lemma onward_step (honward : Onward { c with room } ({ c with room }.act action)) :
    Onward c (c.step ⟨action, room⟩) :=
  (steady_room c room).toOnward.trans honward

lemma steady_step (hsteady : Steady { c with room } ({ c with room }.act action)) :
    Steady c (c.step ⟨action, room⟩) :=
  (steady_room c room).trans hsteady

section

variable (hsound : server.Sound)
include hsound

lemma Sound.callback (honward : Onward server.service (server.service.step ⟨action, room⟩))
    (hsteady : Inv false server.service →
      Steady server.service (server.service.step ⟨action, room⟩)) :
    (server.callback action room).Sound := by
  obtain ⟨⟨hwired, hatt, hheard⟩, hwatched⟩ := hsound
  obtain ⟨hpauses, hshutdown, hpaused, hfunctors⟩ := sameReading_callback server action room
  have hservice := callback_service server action room
  refine ⟨⟨hwired.callback honward.up honward.down, fun hrun => ?_, fun hrun => ?_⟩,
    hwatched.callback honward.down⟩
  · rw [hshutdown] at hrun
    have hinv := (hatt hrun).inv
    refine ⟨by rw [hservice]; exact hinv.step _, fun hup hclos token htoken => ?_⟩
    rw [hservice] at hup hclos ⊢
    rw [hpauses] at htoken
    have hopen := honward.not_closing hclos
    exact (hsteady hinv).inFlight hup token ((hatt hrun).pauses (honward.up hup) hopen token htoken)
  · rw [hshutdown] at hrun
    intro hup hclos htr hline
    rw [hservice] at hup hclos htr hline
    rw [honward.buffer] at hline
    rw [hfunctors, hpaused, hpauses]
    have hopen := honward.not_closing hclos
    rcases (hsteady (hatt hrun).inv).idle hup htr with hidle | hempty
    · exact hheard hrun (honward.up hup) hopen hidle hline
    · simp [hempty] at hline

omit hsound in
lemma Core.pauseIfSubmitted (hcore : server.Core) (before : TransferConnection) (i : ℕ)
    (hsubmits : server.readPausedForShutdown = false → server.service.state = .connected →
      server.service.closing = false → server.service.receiverBusy i →
        before.receiverBusy i ∨ server.service.InFlight i) :
    (server.pauseIfSubmitted before i).Core := by
  unfold ServerConnection.pauseIfSubmitted
  split
  · rename_i hsubmitted
    obtain ⟨hidle, hbusy⟩ : before.receiverBusy i = false ∧
        server.service.receiverBusy i = true := by simpa using hsubmitted
    refine Core.pauseReadForDisk hcore.wired hcore.attended fun hrun hup hclos => ?_
    exact (hsubmits hrun hup hclos hbusy).resolve_left (by simp [hidle])
  · exact hcore

omit hsound in
lemma Watched.pauseIfSubmitted (hwatched : server.Watched) (before : TransferConnection)
    (i : ℕ) : (server.pauseIfSubmitted before i).Watched := by
  unfold ServerConnection.pauseIfSubmitted
  split
  · exact hwatched.pauseReadForDisk i
  · exact hwatched

lemma Sound.onPrepared (i : ℕ) (answer : Except String Unit)
    (failure : Option String) (room : ℕ) : (server.onPrepared i answer failure room).Sound := by
  have hsteady : Inv false server.service → Steady server.service
      (server.service.step ⟨.prepared i answer (creation failure), room⟩) :=
    fun hinv => steady_step ((hinv.adjust room id).steady_onPrepared i answer (creation failure))
  have hlater := hsound.callback
    (onward_step (onward_onPrepared _ i answer (creation failure))) hsteady
  refine ⟨hlater.core.pauseIfSubmitted server.service i fun hrun hup _ hbusy => ?_,
    hlater.watched.pauseIfSubmitted server.service i⟩
  rw [(sameReading_callback server _ room).shutdown] at hrun
  rw [callback_service] at hup hbusy ⊢
  exact (hsteady (hsound.core.attended hrun).inv).submits hup i hbusy

/-- A result the receiver listens to ends the pause, or the receiver goes on with its next
task. -/
lemma Sound.onResult_taken {i : ℕ} {recv : AsyncReceiver}
    (htr : server.service.transfer = some i) (hup : server.service.state = .connected)
    (hreceiver : (server.service.tasks i).receiver = some recv)
    (hstuck : recv.stuck = false) (hresults : recv.results ≠ []) (room : ℕ) :
    (if (server.callback (.result i true) room).service.receiverBusy i then
      (server.callback (.result i true) room).pauseReadForDisk i
    else (server.callback (.result i true) room).resumeReadAfterDisk i).Sound := by
  obtain ⟨⟨hwired, hatt, -⟩, hwatched⟩ := hsound
  obtain ⟨hpauses, hshutdown, -, -⟩ := sameReading_callback server (.result i true) room
  have hservice := callback_service server (.result i true) room
  obtain ⟨hresult, hsubmits⟩ : Onward server.service (server.service.step ⟨.result i true, room⟩) ∧
      (server.service.step ⟨.result i true, room⟩).Submits i := by
    obtain ⟨hresult, hsubmits⟩ := TransferConnection.onResult_taken
      { server.service with room } htr hup hreceiver hstuck hresults true
    exact ⟨onward_step hresult, hsubmits⟩
  have hwired' := hwired.callback hresult.up hresult.down
  -- The only pause is the one of this receiver.
  have honly : server.readPausedForShutdown = false →
      (server.service.step ⟨.result i true, room⟩).closing = false →
        ∀ token ∈ server.diskReadPauses, token = i :=
    fun hrun hclos token htoken =>
      ((hatt hrun).pauses hup (hresult.not_closing hclos) token htoken).unique htr
  split
  · rename_i hbusy
    rw [hservice] at hbusy
    refine ⟨Core.pauseReadForDisk hwired' (fun hrun => ?_) fun _ hup' _ => ?_,
      (hwatched.callback hresult.down).pauseReadForDisk i⟩
    · rw [hshutdown] at hrun
      refine ⟨by rw [hservice]; exact (hatt hrun).inv.step _, ?_⟩
      intro hup' hclos token htoken
      rw [hservice] at hup' hclos ⊢
      rw [hpauses] at htoken
      rw [honly hrun hclos token htoken]
      exact hsubmits hup' hbusy
    · rw [hservice] at hup' ⊢
      exact hsubmits hup' hbusy
  · refine Sound.resumeReadAfterDisk hwired' (fun hrun => ?_) fun hrun _ hclos => ?_
    · rw [hshutdown] at hrun
      rw [hservice]
      exact (hatt hrun).inv.step _
    · rw [hshutdown] at hrun
      rw [hservice] at hclos
      rw [hpauses]
      exact honly hrun hclos

lemma Sound.onResult (i room : ℕ) : (server.onResult i room).Sound := by
  unfold ServerConnection.onResult
  split
  · exact hsound
  rename_i recv hreceiver
  split
  · exact hsound
  rename_i hresults
  by_cases hskip : server.service.transfer ≠ some i ∨ recv.stuck = true ∨
      server.service.state ≠ .connected
  · -- The result is dropped.
    have hsteady : Steady server.service (server.service.step ⟨.result i true, room⟩) := by
      refine steady_step (steady_onResult _ i true fun other hother => ?_)
      obtain rfl : recv = other := Option.some.inj (hreceiver.symm.trans hother)
      exact hskip
    rw [if_pos]
    · exact hsound.callback hsteady.toOnward fun _ => hsteady
    · simpa [alive, AsyncReceiver.stuck, or_assoc] using hskip
  · push Not at hskip
    obtain ⟨htr, hstuck, hup⟩ := hskip
    rw [if_neg]
    · exact hsound.onResult_taken htr hup hreceiver (by simpa using hstuck) hresults room
    · simpa [alive, htr, hup, AsyncReceiver.stuck] using hstuck

/-! ## Messages -/

omit hsound in
lemma Core.onMessage (hwired : server.Wired)
    (hinv : server.readPausedForShutdown = false → Inv false server.service)
    (hpauses : server.diskReadPauses = ∅) (bs : Bytes) (ch : Choices) (room : ℕ) :
    (server.onMessage bs ch room).Core := by
  set chosen := diskAccepts server.service ch with hchosen
  set later := server.callback (.message bs chosen) room with hlater
  have hsame : SameReading server later := sameReading_callback server _ room
  have hservice : later.service = { server.service with room }.onMessage bs chosen :=
    callback_service server _ room
  have hcore : later.Core := by
    refine ⟨hwired.callback (onMessage_up _ bs chosen)
      (onMessage_down { server.service with room } bs chosen),
      fun hrun => ⟨?_, fun _ _ token htoken => ?_⟩, fun _ hup hclos htr hline => ?_⟩
    · rw [hservice]
      exact (hinv (hsame.shutdown ▸ hrun)).step ⟨.message bs chosen, room⟩
    · simp [hsame.pauses, hpauses] at htoken
    · -- No complete line is left.
      rw [hservice] at hup hclos htr hline
      unfold TransferConnection.onMessage at hup hclos htr hline
      split at hup
      · rename_i hdown
        exact absurd (hdown.symm.trans hup) nofun
      · rename_i hdown
        rw [if_neg hdown] at hclos htr hline
        exact absurd hline (messageLoop_lines chosen _ _ le_rfl hup hclos htr)
  unfold ServerConnection.onMessage
  rw [← hchosen, ← hlater]
  dsimp only
  split
  · exact hcore
  · rename_i i _
    refine hcore.pauseIfSubmitted server.service i fun _ hup hclos hbusy => ?_
    rw [hservice] at hup hclos hbusy ⊢
    unfold TransferConnection.onMessage at hup hclos hbusy ⊢
    split at hup
    · rename_i hdown
      exact absurd (hdown.symm.trans hup) nofun
    · rename_i hdown
      rw [if_neg hdown] at hclos hbusy ⊢
      exact messageLoop_busy chosen _ _ hup hclos i hbusy

omit hsound in
lemma Watched.onMessage (hwatched : server.Watched) (bs : Bytes) (ch : Choices)
    (room : ℕ) : (server.onMessage bs ch room).Watched := by
  have hlater :
      (server.callback (.message bs (diskAccepts server.service ch)) room).Watched :=
    hwatched.callback
      (onMessage_down { server.service with room } bs (diskAccepts server.service ch))
  unfold ServerConnection.onMessage
  dsimp only
  split
  · exact hlater
  · exact hlater.pauseIfSubmitted server.service _

omit hsound in
lemma Wired.no_pause (hwired : server.Wired) (hread : server.shouldRead)
    (hrun : server.readPausedForShutdown = false) :
    server.sendReadPaused = false ∧ server.diskReadPauses = ∅ := by
  have heof : server.readEofOnly = false := by
    by_contra heof
    have hshutdown := hwired.shutdown (eq_true_of_ne_false heof)
    rw [hrun] at hshutdown
    cases hshutdown
  unfold shouldRead at hread
  split at hread
  · cases hread
  · simpa [heof, hrun] using hread

lemma Sound.handleRead (bs : Bytes) (ch : Choices) (room : ℕ) :
    (server.handleRead bs ch room).Sound := by
  obtain ⟨⟨hwired, hatt, hheard⟩, hwatched⟩ := hsound
  unfold ServerConnection.handleRead
  split
  · exact ⟨⟨hwired, hatt, hheard⟩, hwatched⟩
  rename_i hread
  have hread' : server.shouldRead := by
    by_contra hnot
    exact hread (by simp [hnot])
  split
  · exact Sound.handleClose ⟨⟨hwired, hatt, hheard⟩, hwatched⟩
  split
  · -- The server stops: what still comes in is dropped.
    rename_i hshutdown
    have hnot : ¬ server.readPausedForShutdown = false := by simp [hshutdown]
    exact ⟨⟨{ hwired with }, fun h => absurd h hnot, fun h => absurd h hnot⟩, hwatched⟩
  · rename_i hshutdown
    have hpauses := (hwired.no_pause hread' (by simpa using hshutdown)).2
    exact ⟨Core.onMessage hwired (fun hrun => (hatt hrun).inv) hpauses bs ch
      room, hwatched.onMessage bs ch room⟩

omit hsound in
lemma Core.updateReadInterest (hcore : server.Core) : server.updateReadInterest.Core :=
  ⟨hcore.wired.updateReadInterest, fun hrun => (hcore.attended hrun).updateReadInterest,
    fun hrun => (hcore.heard hrun).updateReadInterest⟩

/-! ## The queue of the loop -/

omit hsound in
lemma mem_erase_functor {functor other : LoopFunctor} {functors : List LoopFunctor}
    (hne : functor ≠ other) (hmem : functor ∈ functors) : functor ∈ functors.erase other :=
  (List.mem_erase_of_ne hne).mpr hmem

lemma Sound.handleBufferedInput (ch : Choices) (room : ℕ) :
    ({ server with functors := server.functors.erase .bufferedInput }.handleBufferedInput ch
      room).Sound := by
  obtain ⟨⟨hwired, hatt, hheard⟩, -⟩ := hsound
  have hwired' : { server with functors := server.functors.erase .bufferedInput
                               bufferedInputPending := false }.Wired := by
    refine { hwired with pending := nofun, send := fun hup hpaused => ?_ }
    exact (hwired.send hup hpaused).imp_right fun h => mem_erase_functor (by decide) h
  unfold ServerConnection.handleBufferedInput
  dsimp only
  split
  · rename_i hread
    simp only [Bool.and_eq_true, Bool.not_eq_true'] at hread
    have hpauses := (hwired'.no_pause hread.1.1.1 hread.1.2).2
    exact ⟨(Core.onMessage hwired' (fun hrun => (hatt hrun).inv) hpauses [] ch
      room).updateReadInterest, watched_updateReadInterest _⟩
  · rename_i hstay
    refine ⟨Core.updateReadInterest ⟨hwired', fun hrun =>
      ⟨(hatt hrun).inv, (hatt hrun).pauses⟩, fun hrun => ?_⟩,
      watched_updateReadInterest _⟩
    -- Either there is nothing in the buffer, or a pause is on.
    intro hup _ _ hline
    right
    by_contra hnone
    push Not at hnone
    dsimp only at hup hline hnone hrun
    have heof : server.readEofOnly = false := by
      by_contra heof
      have hshutdown := hwired.shutdown (eq_true_of_ne_false heof)
      rw [hrun] at hshutdown
      cases hshutdown
    have hbuffer : server.service.buffer ≠ [] := List.ne_nil_of_mem hline
    simp [shouldRead, hup, heof, hrun, hnone, hbuffer] at hstay

lemma Sound.runFunctor (functor : LoopFunctor) (ch : Choices)
    (room : ℕ) : (server.runFunctor functor ch room).Sound := by
  unfold ServerConnection.runFunctor
  split
  · exact hsound
  cases functor with
  | bufferedInput => exact hsound.handleBufferedInput ch room
  | writeComplete => exact hsound.startRead fun h => mem_erase_functor (by decide) h
  | highWater =>
    obtain ⟨⟨hwired, hatt, hheard⟩, hwatched⟩ := hsound
    refine Sound.stopRead ⟨⟨⟨fun h => mem_erase_functor (by decide) (hwired.pending h),
      fun hup hpaused => ?_, hwired.running, hwired.bounded, hwired.mark, hwired.shutdown⟩,
      fun hrun => ⟨(hatt hrun).inv, (hatt hrun).pauses⟩,
      fun hrun hup hclos htr hline => ?_⟩, hwatched⟩
    · exact (hwired.send hup hpaused).imp_right fun h => mem_erase_functor (by decide) h
    · exact (hheard hrun hup hclos htr hline).imp_left fun h => mem_erase_functor (by decide) h

lemma Sound.shutdownForServerStop : server.shutdownForServerStop.Sound := by
  unfold ServerConnection.shutdownForServerStop
  split
  · exact hsound
  rename_i hup
  obtain ⟨⟨hwired, -, -⟩, -⟩ := hsound
  refine ⟨⟨⟨hwired.pending, nofun, fun _ => hwired.running ?_, hwired.bounded, hwired.mark,
    fun _ => rfl⟩, nofun, nofun⟩, watched_updateReadInterest _⟩
  rw [not_not.mp hup]
  exact nofun

/-! ## Runs -/

lemma Sound.step (event : Event) : (server.step event).Sound := by
  cases event with
  | readable bs ch room => exact hsound.handleRead bs ch room
  | close => exact hsound.handleClose
  | functor functor ch room => exact hsound.runFunctor functor ch room
  | prepared i answer failure room => exact hsound.onPrepared i answer failure room
  | result i room => exact hsound.onResult i room
  | callback callback room =>
    exact hsound.callback (onward_step (onward_callback _ callback))
      fun hinv => steady_step ((hinv.adjust room id).steady_callback callback)
  | send data | writable results reader =>
    simp only [ServerConnection.step]
    split
    · exact hsound.callWriter nofun
    · exact hsound
  | sendFile request | fileRead sequence error data => exact hsound.callWriter nofun
  | pauseReadForShutdown =>
    obtain ⟨⟨hwired, -, -⟩, -⟩ := hsound
    exact ⟨⟨{ hwired with shutdown := fun _ => rfl }, nofun, nofun⟩, watched_updateReadInterest _⟩
  | shutdownForServerStop => exact hsound.shutdownForServerStop

end

lemma established_sound : established.Sound := by
  have hmarked := WriteScheduler.step_bounded WriteScheduler.new_bounded
    (.setHighWaterMark kHighWaterMark)
  have hwelcomed := WriteScheduler.step_bounded hmarked
    (.enqueueMemory (ascii "Welcome to TLSS.\r\n"))
  have hprompted := WriteScheduler.step_bounded hwelcomed
    (.enqueueMemory (ascii "Please enter login or signup:\r\ntlss>"))
  have hreading : established.reading = established.readWanted := by decide +kernel
  exact ⟨⟨⟨nofun, nofun, fun _ => by decide +kernel, hprompted, by decide +kernel, nofun⟩,
    fun _ => ⟨inv_new, nofun⟩, nofun⟩, hreading⟩

/-- The worker has an operation of the receiver in its queue or in its hands. -/
def operating : DiskStage → Bool
  | .queued _ _ | .checked _ _ _ | .ran _ _ | .ending _ _ => true
  | .idle | .cleanup | .cleaning => false

lemma under_way_of_busy {recv : AsyncReceiver} {size : ℕ} (hexact : recv.Exact size)
    (hbusy : recv.busy) (hstuck : recv.stuck = false) :
    operating recv.stage ∨ recv.results ≠ [] := by
  have hcancelled := (AsyncReceiver.not_stuck hstuck).2
  cases hexact.flight hstuck with
  | nothing hidle => rw [hbusy] at hidle; cases hidle
  | result _ _ result hresults => exact .inr (by simp [hresults])
  | operation _ hstage _ =>
    have hsound := hexact.stage
    left
    cases hcase : recv.stage with
    | idle => exact absurd hcase hstage
    | cleanup | cleaning =>
      rw [hcase] at hsound
      simp [AsyncReceiver.StageSound, hcancelled] at hsound
    | queued | checked | ran | ending => rfl

/-- While the connection is up and not about to be closed: every pause for the write queue or the
disk has something under way that ends it, the channel reports input just when it should, and a
complete line outside of a transfer has the callback for buffered input or a pause that ends with
one. -/
theorem connection_never_stuck (events : List Event)
    (hup : (run step established events).service.state = .connected)
    (hopen : (run step established events).service.closing = false)
    (hrunning : (run step established events).readPausedForShutdown = false) :
    ((run step established events).sendReadPaused = true →
      (run step established events).writer.writes ≠ [] ∨
        .writeComplete ∈ (run step established events).functors) ∧
    (∀ token ∈ (run step established events).diskReadPauses, ∃ receiver,
      ((run step established events).service.tasks token).receiver = some receiver ∧
        (operating receiver.stage = true ∨ receiver.results ≠ [])) ∧
    ((run step established events).bufferedInputPending = true →
      .bufferedInput ∈ (run step established events).functors) ∧
    (run step established events).reading = ((run step established events).shouldRead &&
        ((run step established events).readEofOnly ||
          !(run step established events).bufferedInputPending)) ∧
    (10 ∈ (run step established events).service.buffer →
      (run step established events).service.transfer = none →
        .bufferedInput ∈ (run step established events).functors ∨
          (run step established events).sendReadPaused = true ∨
          (run step established events).diskReadPauses ≠ ∅) := by
  obtain ⟨⟨hwired, hattended, hheard⟩, hwatched⟩ := by
    have hstep : ∀ (server : ServerConnection) event, server.Sound → (server.step event).Sound :=
      fun _ event hsound => hsound.step event
    exact run_invariant hstep established_sound events
  refine ⟨hwired.send hup, fun token htoken => ?_, hwired.pending, hwatched,
    fun hline htransfer => hheard hrunning hup hopen htransfer hline⟩
  obtain ⟨receiver, hreceiver, hbusy, hstuck⟩ :=
    ((hattended hrunning).pauses hup hopen token htoken).receiver
  have hexact := ((hattended hrunning).inv.sound.tasks token).exact receiver hreceiver
  exact ⟨receiver, hreceiver, under_way_of_busy hexact hbusy hstuck⟩

/-- An upload whose receiver opens its file, with a reply in the write queue. -/
def openingEvents : List Event :=
  [.callback .authenticate 8, .readable (ascii "@TLSS UPLOAD 3 a\n") sampleChoices 8,
    .prepared 0 (.ok ()) none 8]

theorem connection_never_stuck_opening : (run step established openingEvents).diskReadPauses = {0} ∧
      ∃ receiver, ((run step established openingEvents).service.tasks 0).receiver = some receiver ∧
        (operating receiver.stage = true ∨ receiver.results ≠ []) := by
  have hpauses : (run step established openingEvents).diskReadPauses = {0} := by decide +kernel
  refine ⟨hpauses, ?_⟩
  exact (connection_never_stuck openingEvents (by decide +kernel) (by decide +kernel)
    (by decide +kernel)).2.1 0 (by rw [hpauses]; exact Finset.mem_singleton_self 0)

end Tlss.Ftp.ServerConnection
