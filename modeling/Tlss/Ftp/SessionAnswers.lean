import Tlss.Ftp.SessionCallbacks

/-!
# Results of the disk and messages of the client

The callbacks that are left: a result of the disk, and the input of the client. Both may
hand the next task to the disk. After a result the receiver is busy only if it was handed
one and will listen to its result (`onResult_taken`). A message leaves the receiver of the
transfer busy under the same condition, and no complete line in the buffer unless there is a
transfer to be waited for (`messageLoop_lines`).
-/

namespace Tlss.Ftp

open Library List AsyncReceiver

namespace AsyncReceiver

variable {r receiver' : AsyncReceiver} {acc : Bool} {op : DiskOperation}
  {data : Bytes}

lemma launch_true (hlaunch : r.launch op data acc = (true, receiver')) :
    receiver' = { r with diskBusy := true, stage := .queued op data } := by
  unfold launch at hlaunch
  split_ifs at hlaunch
  · cases hlaunch
  · cases hlaunch
    rfl
  · cases hlaunch

lemma submit_true (hsubmit : r.submit op data acc = (true, receiver')) :
    receiver'.busy ∧ receiver'.stuck = r.stuck := by
  unfold submit at hsubmit
  rcases hlaunch : { r with busy := true }.launch op data acc with
    ⟨launched, next⟩
  rw [hlaunch] at hsubmit
  cases launched with
  | false => cases hsubmit
  | true =>
    obtain rfl : next = receiver' := by simpa using hsubmit
    rw [launch_true hlaunch]
    exact ⟨rfl, rfl⟩

lemma finish_true (hfinish : r.finish acc = (true, receiver')) : receiver'.stuck = false := by
  unfold finish at hfinish
  split_ifs at hfinish with hguard
  · cases hfinish
  · have hstuck : r.stuck = false := by
      simp only [Bool.or_eq_true, not_or, Bool.not_eq_true] at hguard
      simp [stuck, hguard]
    dsimp only at hfinish
    split_ifs at hfinish
    · exact (submit_true hfinish).2.trans hstuck
    · cases hfinish
      exact hstuck

lemma feed_some {buffer : Bytes} {count : ℕ}
    (hfeed : r.feed buffer acc = (some count, receiver')) : receiver'.stuck = false := by
  unfold feed at hfeed
  split_ifs at hfeed with hguard hbusy
  · cases hfeed
  all_goals have hstuck : r.stuck = false := by simpa [stuck] using hguard
  · cases hfeed
    exact hstuck
  · dsimp only at hfeed
    split at hfeed
    · cases hfeed
      exact hstuck
    · split at hfeed
      · cases hfeed
      · rename_i next hsubmit
        cases hfeed
        exact (submit_true hsubmit).2.trans hstuck

end AsyncReceiver

namespace TransferConnection

variable {c before after : TransferConnection} {i j : ℕ} {reading : Bool}

/-! ## Results -/

lemma steady_onResult (c : TransferConnection) (i : ℕ) (acc : Bool)
    (hskip : ∀ r, (c.tasks i).receiver = some r →
      c.transfer ≠ some i ∨ r.stuck ∨ c.state ≠ .connected) : Steady c (c.onResult i acc) := by
  unfold onResult
  split
  · exact .refl c
  rename_i r hrecv
  split
  · exact .refl c
  rename_i result results hresults
  have htaken : Steady c (c.setReceiver i { r with results }) :=
    steady_onTask c i _ ⟨({ · with results }), by simp [hrecv], fun _ => ⟨rfl, rfl⟩⟩
  dsimp only
  split
  · exact htaken
  rename_i hlive
  split
  · rename_i hdown
    exact ⟨⟨id, id, id, rfl⟩, fun h => absurd h hdown, fun h => absurd h hdown,
      fun h => absurd h hdown⟩
  rename_i hup
  simp only [Bool.or_eq_true, not_or, Bool.not_eq_true, Bool.not_eq_true', alive,
    decide_eq_false_iff_not, not_not] at hlive
  rcases hskip r hrecv with htr | hstuck | hstate
  · exact absurd hlive.1.1 htr
  · simp [stuck, hlive.1.2, hlive.2] at hstuck
  · exact absurd hstate hup

/-- In the callback of a result: unless the connection has gone down meanwhile, the transfer
is there and its receiver listens. -/
structure Listening (conn : TransferConnection) (index : ℕ) : Prop where
  active : conn.state = .connected → conn.transfer = some index
  listens : conn.state = .connected → ∀ receiver, (conn.tasks index).receiver = some receiver →
    receiver.stuck = false

/-- At its end the receiver is busy only if its next result will be listened to. -/
def Submits (conn : TransferConnection) (index : ℕ) : Prop :=
  conn.state = .connected → conn.receiverBusy index = true → conn.InFlight index

section

variable (hlistening : c.Listening i)
include hlistening

lemma Listening.submits : c.Submits i := by
  intro hup hbusy
  rw [receiverBusy] at hbusy
  cases hrecv : (c.tasks i).receiver with
  | none => simp [hrecv] at hbusy
  | some r =>
    rw [hrecv] at hbusy
    exact ⟨hlistening.active hup, r, hrecv, hbusy, hlistening.listens hup r hrecv⟩

omit hlistening in
lemma submits_of_idle (hidle : c.receiverBusy i = false) : c.Submits i := by
  intro _ hbusy
  rw [hidle] at hbusy
  cases hbusy

lemma Listening.send (item : Sent) : (c.send item).Listening i := by
  by_cases hup : c.state = .connected
  · rcases send_cases hup item with hclosed | hqueued
    · rw [hclosed]
      have hdown : c.handleClose.state = .disconnected := handleClose_state (by simp [hup])
      exact ⟨fun h => by simp [hdown] at h, fun h => by simp [hdown] at h⟩
    · rw [hqueued]
      exact { hlistening with }
  · rwa [TransferConnection.send, if_pos hup]

omit hlistening in
lemma receiverBusy_setReceiver (c : TransferConnection) (i : ℕ) (r : AsyncReceiver) :
    (c.setReceiver i r).receiverBusy i = r.busy := by
  simp [receiverBusy, setReceiver]

omit hlistening in
lemma onward_setReceiver (c : TransferConnection) (i : ℕ) (r : AsyncReceiver) :
    Onward c (c.setReceiver i r) := ⟨id, id, id, rfl⟩

omit hlistening in
lemma reportError_spec (c : TransferConnection) (i : ℕ) (r : AsyncReceiver)
    (error : String) : Onward c (c.reportError i r error) ∧
      (c.reportError i r error).Submits i := by
  have hfailed := plain_uploadFailed (c.setReceiver i r.abandon) i error
  refine ⟨(onward_setReceiver c i _).trans hfailed.toOnward, submits_of_idle ?_⟩
  by_contra hbusy
  have hbefore := hfailed.busy i (eq_true_of_ne_false hbusy)
  rw [receiverBusy_setReceiver] at hbefore
  cases hbefore

lemma Listening.continueReceiver (acc : Bool) :
    Onward c (c.continueReceiver i acc) ∧ (c.continueReceiver i acc).Submits i := by
  unfold TransferConnection.continueReceiver
  split
  · exact ⟨.refl c, hlistening.submits⟩
  rename_i r hrecv
  split
  · split
    · rename_i next hsubmit
      obtain ⟨hbusy, hstuck⟩ := submit_true hsubmit
      refine ⟨onward_setReceiver c i next, fun hup _ => ?_⟩
      exact ⟨hlistening.active hup, next, by simp [setReceiver], hbusy,
        hstuck.trans (hlistening.listens hup r hrecv)⟩
    · exact reportError_spec c i _ _
  · exact ⟨.refl c, hlistening.submits⟩

lemma Listening.finishReceiver (acc : Bool) :
    Onward c (c.finishReceiver i acc).2 ∧ ((c.finishReceiver i acc).1 →
        (c.finishReceiver i acc).2.Listening i) := by
  unfold TransferConnection.finishReceiver
  split
  · exact ⟨.refl c, nofun⟩
  rename_i r hrecv
  rcases hfinish : r.finish acc with ⟨finished, next⟩
  refine ⟨onward_setReceiver c i next, fun hfinished => ⟨hlistening.active, ?_⟩⟩
  rintro hup j hother
  obtain rfl : next = j := by simpa [setReceiver] using hother
  obtain rfl : finished := hfinished
  exact finish_true hfinish

lemma Listening.fields {change : Task → Task}
    (hrecv : (change (c.tasks i)).receiver = (c.tasks i).receiver) :
    (c.onTask i change).Listening i := by
  refine ⟨hlistening.active, fun hup r h => hlistening.listens hup r ?_⟩
  rwa [onTask_tasks_self, hrecv] at h

lemma Listening.onReady (acc : Bool) : Onward c (c.onReady i acc).2 ∧
      ((c.onReady i acc).1 → (c.onReady i acc).2.Listening i) := by
  unfold TransferConnection.onReady
  split
  · exact ⟨.refl c, fun _ => hlistening⟩
  dsimp only
  set started := c.onTask i fun task =>
    { task with phase := .receivingUpload, start := some c.stream.length } with hstarted
  have hlistens : started.Listening i := hlistening.fields rfl
  have hbegun : Onward c started := ⟨id, id, id, rfl⟩
  have honward := hbegun.trans (plain_emit started i .uploadReady).toOnward
  have hready : (started.emit i .uploadReady).Listening i := by
    unfold emit
    split
    · exact hlistens
    · exact hlistens.send _
  split
  · have hfinalizing : ((started.emit i .uploadReady).setPhase i
        .finalizingUpload).Listening i := hready.fields rfl
    obtain ⟨hfinished, hthen⟩ := hfinalizing.finishReceiver acc
    have hset : Onward (started.emit i .uploadReady)
        ((started.emit i .uploadReady).setPhase i .finalizingUpload) := ⟨id, id, id, rfl⟩
    exact ⟨(honward.trans hset).trans hfinished, hthen⟩
  · exact ⟨honward, fun _ => hready⟩

end

lemma plain_onDone (c : TransferConnection) (i : ℕ) (hash : Bytes) : Plain c (c.onDone i hash) := by
  unfold onDone
  split_ifs
  · exact .refl c
  · exact (plain_onTask c i _ id).trans (plain_emit _ i _)

lemma onResult_taken (c : TransferConnection) {r : AsyncReceiver}
    (htr : c.transfer = some i) (hup : c.state = .connected) (hrecv : (c.tasks i).receiver = some r)
    (hstuck : r.stuck = false) (hresults : r.results ≠ []) (acc : Bool) :
    Onward c (c.onResult i acc) ∧ (c.onResult i acc).Submits i := by
  obtain ⟨result, results, hcons⟩ := exists_cons_of_ne_nil hresults
  obtain ⟨hterminal, hcancelled⟩ := not_stuck hstuck
  unfold onResult
  simp only [hrecv, hcons]
  rw [if_neg (by simp [alive, htr, setReceiver, onTask, hterminal,
    hcancelled]), if_neg (by simp [hup, setReceiver, onTask])]
  set taken := (c.setReceiver i { r with results }).setReceiver i
    { r with results, busy := false } with htaken
  have honward : Onward c taken := ⟨id, id, id, rfl⟩
  have hlistening : taken.Listening i := by
    refine ⟨fun _ => htr, fun _ next hnext => ?_⟩
    obtain rfl : { r with results, busy := false } = next := by
      simpa [htaken, setReceiver] using hnext
    exact hstuck
  cases houtcome : result.outcome with
  | error error =>
    obtain ⟨hreport, hsubmits⟩ := reportError_spec taken i
      { r with results, busy := false } error
    exact ⟨honward.trans hreport, hsubmits⟩
  | ok value =>
    cases hoperation : result.operation with
    | finish =>
      obtain ⟨hdone, hbusy⟩ := plain_onDone (taken.setReceiver i
        { r with results, busy := false, terminal := true }) i value
      refine ⟨(honward.trans (onward_setReceiver _ _ _)).trans hdone, submits_of_idle ?_⟩
      by_contra h
      have hbefore := hbusy i (eq_true_of_ne_false h)
      rw [receiverBusy_setReceiver] at hbefore
      cases hbefore
    | write =>
      obtain ⟨hcontinue, hsubmits⟩ := hlistening.continueReceiver acc
      exact ⟨honward.trans hcontinue, hsubmits⟩
    | prepare =>
      obtain ⟨hready, hlistens⟩ := hlistening.onReady acc
      rcases hresult : taken.onReady i acc with ⟨returned, next⟩
      rw [hresult] at hready hlistens
      cases returned with
      | true =>
        obtain ⟨hcontinue, hsubmits⟩ := (hlistens rfl).continueReceiver acc
        exact ⟨(honward.trans hready).trans hcontinue, hsubmits⟩
      | false =>
        dsimp only
        split
        · rename_i hnone
          exact ⟨honward.trans hready, submits_of_idle (by simp [receiverBusy, hnone])⟩
        · rename_i thrown _
          obtain ⟨hreport, hsubmits⟩ := reportError_spec next i thrown
            "disk executor is stopping or unavailable"
          exact ⟨(honward.trans hready).trans hreport, hsubmits⟩

/-! ## Messages -/

/-- Nothing that a line asks for makes a receiver busy. -/
def Tame (before after : TransferConnection) : Prop :=
  ∀ index, after.receiverBusy index = true → before.receiverBusy index = true

lemma Tame.trans {middle : TransferConnection} (hfirst : Tame before middle)
    (hsecond : Tame middle after) : Tame before after :=
  fun i h => hfirst i (hsecond i h)

/-- A line that was handled: it is gone from the buffer, and no receiver has become busy; or
the connection is to be closed. -/
lemma handleLine_spec {raw rest : Bytes} (hbuffer : c.buffer = raw ++ 10 :: rest)
    (ch : Choices) : Tame c (c.handleLine raw ch).2 ∧
      ((c.handleLine raw ch).1 → (c.handleLine raw ch).2.buffer = rest) ∧
      ((c.handleLine raw ch).1 = false → (c.handleLine raw ch).2.closing) := by
  have htaken : Tame c (c.takeLine raw) := fun _ => id
  have hrest := takeLine_buffer hbuffer
  unfold handleLine
  dsimp only
  split
  · exact ⟨fun _ => id, nofun, fun _ => rfl⟩
  split
  · have htame := htaken.trans (plain_handleTransferControl (c.takeLine raw)
      ((withoutReturn raw).drop 6) ch c.position).busy
    have hleft := (plain_handleTransferControl (c.takeLine raw) ((withoutReturn raw).drop 6)
      ch c.position).buffer.trans hrest
    split
    · rename_i next hnext
      rw [hnext] at htame hleft
      exact ⟨htame, fun _ => hleft, nofun⟩
    · rename_i next hnext
      rw [hnext] at htame
      exact ⟨htame, nofun, fun _ => rfl⟩
  · split
    · exact ⟨fun _ => id, nofun, fun _ => rfl⟩
    · exact ⟨htaken.trans (plain_dispatchTask _ _ _ _).busy,
        fun _ => (plain_dispatchTask _ _ _ _).buffer.trans hrest, nofun⟩

lemma receiverBusy_setReceiver_of_ne (hother : j ≠ i) (r : AsyncReceiver) :
    (c.setReceiver i r).receiverBusy j = c.receiverBusy j :=
  receiverBusy_onTask_of_ne hother _

lemma finishReceiver_transfer (c : TransferConnection) (i : ℕ) (acc : Bool) :
    (c.finishReceiver i acc).2.transfer = c.transfer := by
  unfold finishReceiver
  split <;> rfl

lemma finishReceiver_busy_of_ne (hother : j ≠ i) (acc : Bool) :
    (c.finishReceiver i acc).2.receiverBusy j = c.receiverBusy j := by
  unfold finishReceiver
  split
  · rfl
  · exact receiverBusy_setReceiver_of_ne hother _

/-- A block of the body is handed to the disk, or the rest of the body is waited for. -/
lemma consume_spec (htr : c.transfer = some i) (acc : Bool) :
    (c.consume i acc).2.transfer = some i ∧ (∀ j ≠ i,
        (c.consume i acc).2.receiverBusy j = c.receiverBusy j) ∧
      ((c.consume i acc).1 → (c.consume i acc).2.Submits i) := by
  unfold consume
  split
  · exact ⟨htr, fun _ _ => rfl, nofun⟩
  rename_i r hrecv
  split
  · exact ⟨htr, fun _ _ => rfl, nofun⟩
  split
  · exact ⟨htr, fun _ hother => receiverBusy_setReceiver_of_ne hother _, nofun⟩
  rename_i count next hfeed
  have hlistening : ((c.setReceiver i next).retrieve count).Listening i := by
    refine ⟨fun _ => htr, fun _ j hother => ?_⟩
    obtain rfl : next = j := by simpa [retrieve, setReceiver] using hother
    exact feed_some hfeed
  have hother : ∀ j ≠ i,
      ((c.setReceiver i next).retrieve count).receiverBusy j = c.receiverBusy j :=
    fun _ hother => receiverBusy_setReceiver_of_ne hother _
  split
  · -- The body is complete.
    have hfinalizing : (((c.setReceiver i next).retrieve count).setPhase i
        .finalizingUpload).Listening i := hlistening.fields rfl
    refine ⟨(finishReceiver_transfer _ _ _).trans htr, fun j hne => ?_,
      fun hfinished => ((hfinalizing.finishReceiver acc).2 hfinished).submits⟩
    rw [finishReceiver_busy_of_ne hne, setPhase, receiverBusy_onTask_of_ne hne]
    exact hother j hne
  · exact ⟨htr, hother, fun _ => hlistening.submits⟩

lemma messageLoop_line (ch : Choices) (fuel : ℕ) (c : TransferConnection)
    (hgoes : ¬ (c.state ≠ .connected ∨ c.buffer = []))
    (hphase : c.phase = .idle ∨ c.phase = .waitingDownloadAck) :
    (messageLoop ch (fuel + 1) c).closing ∨ messageLoop ch (fuel + 1) c = c ∧ 10 ∉ c.buffer ∨
      ∃ raw next, c.buffer = raw ++ 10 :: next.buffer ∧ Tame c next ∧
        messageLoop ch (fuel + 1) c = messageLoop ch fuel next := by
  rw [messageLoop, if_neg hgoes]
  rcases hphase with hphase | hphase <;> cases c.transfer <;> simp only [hphase]
  all_goals
    split
    · rename_i hsplit
      split
      · exact .inl rfl
      · exact .inr (.inl ⟨rfl, splitAtFirst_eq_none hsplit⟩)
    · rename_i raw rest hsplit
      have hbuffer := (splitAtFirst_spec hsplit).1
      obtain ⟨htame, hmore, hless⟩ := handleLine_spec hbuffer ch
      rcases hresult : c.handleLine raw ch with ⟨more, next⟩
      rw [hresult] at htame hmore hless
      cases more with
      | true => exact .inr (.inr ⟨raw, next, by rw [hbuffer, hmore rfl], htame, rfl⟩)
      | false => exact .inl (hless rfl)

/-- What a turn of the loop of `on_message` can do: give the connection up, stop where there is
nothing to be done, hand a block to the disk, or take a line and go on. -/
lemma messageLoop_cases (ch : Choices) (fuel : ℕ) (c : TransferConnection) :
    (messageLoop ch (fuel + 1) c).closing ∨ messageLoop ch (fuel + 1) c = c ∧
        (c.state ≠ .connected ∨ c.transfer ≠ none ∨ 10 ∉ c.buffer) ∨
      (∃ i acc, c.transfer = some i ∧ (c.consume i acc).1 ∧
        messageLoop ch (fuel + 1) c = (c.consume i acc).2) ∨
      ∃ raw next, c.buffer = raw ++ 10 :: next.buffer ∧ Tame c next ∧
        messageLoop ch (fuel + 1) c = messageLoop ch fuel next := by
  by_cases hstop : c.state ≠ .connected ∨ c.buffer = []
  · rw [messageLoop, if_pos hstop]
    exact .inr (.inl ⟨rfl, hstop.imp_right fun hbuffer => .inr (by simp [hbuffer])⟩)
  by_cases hlines : c.phase = .idle ∨ c.phase = .waitingDownloadAck
  · rcases messageLoop_line ch fuel c hstop hlines with h | ⟨h, hnot⟩ | h
    · exact .inl h
    · exact .inr (.inl ⟨h, .inr (.inr hnot)⟩)
    · exact .inr (.inr (.inr h))
  -- There is a transfer, in a phase without lines.
  cases htr : c.transfer with
  | none => simp [phase, htr] at hlines
  | some i =>
    rw [messageLoop, if_neg hstop, htr]
    cases hphase : c.phase <;> simp only
    case receivingUpload =>
      rcases hconsume : c.consume i (ch.accepted c.position) with ⟨consumed, next⟩
      cases consumed with
      | true =>
        refine .inr (.inr (.inl ⟨i, ch.accepted c.position, rfl, ?_, ?_⟩))
        · rw [hconsume]
        · rw [hconsume]
          rfl
      | false => exact .inl rfl
    case finalizingUpload => exact .inr (.inl ⟨trivial, .inr (.inl (by simp))⟩)
    case preparingUpload | preparingDownload | sendingDownload => exact .inl rfl
    case idle | waitingDownloadAck => simp [hphase] at hlines

lemma messageLoop_busy (ch : Choices) (fuel : ℕ) (c : TransferConnection)
    (hup : (messageLoop ch fuel c).state = .connected)
    (hclosing : (messageLoop ch fuel c).closing = false) (j : ℕ)
    (hbusy : (messageLoop ch fuel c).receiverBusy j) :
    c.receiverBusy j ∨ (messageLoop ch fuel c).InFlight j := by
  induction fuel generalizing c with
  | zero => exact .inl hbusy
  | succ fuel ih =>
    rcases messageLoop_cases ch fuel c with
      h | ⟨h, -⟩ | ⟨i, acc, htr, hconsumed, h⟩ | ⟨raw, next, -, htame, h⟩
    · rw [hclosing] at h
      cases h
    · rw [h] at hbusy
      exact .inl hbusy
    · obtain ⟨-, hothers, hsubmits⟩ := consume_spec htr acc
      rw [h] at hup hbusy ⊢
      by_cases heq : j = i
      · subst heq
        exact .inr (hsubmits hconsumed hup hbusy)
      · exact .inl (hothers j heq ▸ hbusy)
    · rw [h] at hup hclosing hbusy ⊢
      exact (ih next hup hclosing hbusy).imp_left (htame j)

lemma messageLoop_lines (ch : Choices) (fuel : ℕ) (c : TransferConnection)
    (hfuel : c.buffer.length ≤ fuel) (hup : (messageLoop ch fuel c).state = .connected)
    (hclosing : (messageLoop ch fuel c).closing = false)
    (htr : (messageLoop ch fuel c).transfer = none) : 10 ∉ (messageLoop ch fuel c).buffer := by
  induction fuel generalizing c with
  | zero =>
    have hempty : c.buffer = [] := eq_nil_of_length_eq_zero (Nat.le_zero.mp hfuel)
    simp [messageLoop, hempty]
  | succ fuel ih =>
    rcases messageLoop_cases ch fuel c with
      h | ⟨h, hstop⟩ | ⟨i, acc, hsome, -, h⟩ | ⟨raw, next, hbuffer, -, h⟩
    · rw [hclosing] at h
      cases h
    · rw [h] at hup htr ⊢
      rcases hstop with hstate | hsome | hnot
      · exact absurd hup hstate
      · exact absurd htr hsome
      · exact hnot
    · rw [h, (consume_spec hsome acc).1] at htr
      cases htr
    · rw [h] at hup hclosing htr ⊢
      refine ih next ?_ hup hclosing htr
      rw [hbuffer] at hfuel
      simp only [length_append, length_cons] at hfuel
      omega

lemma onMessage_down (c : TransferConnection) (bytes : Bytes) (ch : Choices)
    (hdown : c.state = .disconnected) : (c.onMessage bytes ch).state = .disconnected := by
  rw [onMessage, if_pos hdown, hdown]

lemma onMessage_up (c : TransferConnection) (bytes : Bytes) (ch : Choices)
    (hup : (c.onMessage bytes ch).state = .connected) : c.state = .connected := by
  by_contra hdown
  unfold onMessage at hup
  split at hup
  · exact hdown hup
  · dsimp only at hup
    cases hfuel : (c.buffer ++ bytes).length with
    | zero =>
      rw [hfuel] at hup
      exact hdown hup
    | succ fuel =>
      rw [hfuel, messageLoop, if_pos (.inl hdown)] at hup
      exact hdown hup

end TransferConnection

end Tlss.Ftp
