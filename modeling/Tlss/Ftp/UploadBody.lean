import Tlss.Ftp.TransferProtocol

/-!
# The body of an upload

A line never overlaps with a body: what follows a body stays in the buffer until the upload
is over with its whole body consumed, and an upload that fails earlier takes the connection
with it.
-/

namespace Tlss.Ftp.TransferConnection

open Library List

variable {conn : TransferConnection} {reading : Bool} {index : ℕ} {receiver : AsyncReceiver}

/-- What the disk got is the body, and it is finalized once and complete. -/
structure BodyExact (stream : Bytes) (task : Task) (receiver : AsyncReceiver) : Prop where
  passed : ∀ start, task.start = some start →
    receiver.passed.flatten <+: (stream.drop start).take task.size
  unready : task.start = none → receiver.passed.flatten = []
  chunks : ∀ block ∈ receiver.passed, block.length ≤ chunkBytes
  once : receiver.finalized ≤ 1
  finalized : receiver.finalized ≠ 0 → receiver.appended = task.size ∧
    ∀ start, task.start = some start → receiver.passed.flatten = (stream.drop start).take task.size

/-- No byte of the body is taken for a line, and none behind it is lost. -/
structure InputKept (conn : TransferConnection) (index start : ℕ) (receiver : AsyncReceiver) :
    Prop where
  lines : ∀ line ∈ conn.lines, line.stop ≤ start ∨
    conn.transfer ≠ some index ∧ receiver.fed.length = (conn.tasks index).size ∧
      start + (conn.tasks index).size ≤ line.start
  kept : conn.transfer = some index → conn.closing = false →
    conn.buffer = conn.stream.drop (start + receiver.fed.length)
  ended : conn.transfer ≠ some index → conn.state ≠ .disconnected →
    receiver.fed.length = (conn.tasks index).size
  closes : conn.transfer = some index →
    (conn.tasks index).failed = true ∨ receiver.stuck = true → conn.closing = true

lemma bodyExact_of_taskSound {stream : Bytes} {lines : List HandledLine} {task : Task}
    (htask : TaskSound stream lines task)
    (hrecv : task.receiver = some receiver) : BodyExact stream task receiver := by
  have hexact := htask.exact receiver hrecv
  have hbounded := hexact.stage.bounded
  have hlength : receiver.fed.length ≤ task.size := by
    have := hexact.remaining
    omega
  have hfed : ∀ start, task.start = some start →
      receiver.fed <+: (stream.drop start).take task.size :=
    fun start hstart =>
      prefix_take_iff.mpr ⟨htask.fed start receiver hstart hrecv, hlength⟩
  refine ⟨fun start hstart => hbounded.passed.trans (hfed start hstart), fun hstart => ?_,
    hexact.chunks, hbounded.finalized, fun hfinalized => ?_⟩
  · have hconsumed := htask.unfed hstart
    rw [Task.consumed, hrecv] at hconsumed
    have hempty : receiver.fed = [] := eq_nil_of_length_eq_zero hconsumed
    exact prefix_nil.mp (hempty ▸ hbounded.passed)
  · obtain ⟨happended, hpassed, hwhole⟩ := hbounded.complete hfinalized
    refine ⟨happended, fun start hstart => ?_⟩
    rw [hpassed]
    refine (hfed start hstart).eq_of_length_le ?_
    rw [length_take, hwhole]
    exact Nat.min_le_left _ _

lemma Inv.inputKept (hinv : Inv reading conn) {start : ℕ}
    (hstart : (conn.tasks index).start = some start)
    (hrecv : (conn.tasks index).receiver = some receiver) :
    InputKept conn index start receiver := by
  have hconsumed : (conn.tasks index).consumed = receiver.fed.length := by
    rw [Task.consumed, hrecv]
    rfl
  have htask := hinv.sound.tasks index
  have hstuck : (conn.tasks index).failed ∨ receiver.stuck →
      receiver.stuck := fun h => h.elim (fun h => htask.stuck (.inl h) receiver hrecv) id
  refine ⟨fun line hline => ?_, fun htr hclosing => ?_, fun htr hstate => ?_, fun htr hfailed => ?_⟩
  · refine (htask.lines start hstart line hline).imp_right fun hover =>
      ⟨fun htr => ?_, hconsumed.symm.trans hover.2.1, hover.2.2⟩
    have hcancelled := hover.1
    obtain ⟨sent, hrun, -⟩ := hinv.running_of_transfer htr
    rw [hrun.not_cancelled] at hcancelled
    cases hcancelled
  · obtain ⟨sent, hrun, hbody⟩ := hinv.running_of_transfer htr
    have hgoes : receiver.stuck = false := by
      by_contra h
      rw [(hbody start receiver hstart hrecv).2 (by simpa using h)] at hclosing
      cases hclosing
    rw [hinv.sound.buffer, (hbody start receiver hstart hrecv).1 hgoes]
  · rw [← hconsumed]
    cases hinv with
    | resting hresting => exact (hresting.finished hstate index start hstart).1
    | running active sent hrun =>
      have hother : index ≠ active := fun h => htr (h ▸ hrun.transfer)
      exact (hrun.finished index hother start hstart).1
  · obtain ⟨sent, hrun, hbody⟩ := hinv.running_of_transfer htr
    exact (hbody start receiver hstart hrecv).2 (hstuck hfailed)

/-- The disk has been given the front of the stream behind `UREADY`, in blocks of at most 64 KiB,
and the finalizer has run once at most and behind the last byte. -/
theorem uploadBody_exact (events : List Event) (index : ℕ) (receiver : AsyncReceiver)
    (hreceiver : ((run step new events).tasks index).receiver = some receiver) :
    BodyExact (run step new events).stream ((run step new events).tasks index) receiver ∧
      ∀ start, ((run step new events).tasks index).start = some start →
        InputKept (run step new events) index start receiver := by
  have hinv := inv_run events
  exact ⟨bodyExact_of_taskSound (hinv.sound.tasks index) hreceiver, fun start hstart =>
    hinv.inputKept hstart hreceiver⟩

theorem uploadBody_exact_upload : ((run step new sampleEvents).tasks 0).start = some 17 ∧
      ∃ receiver, ((run step new sampleEvents).tasks 0).receiver = some receiver ∧
        InputKept (run step new sampleEvents) 0 17 receiver := by
  have hstart : ((run step new sampleEvents).tasks 0).start = some 17 := by decide +kernel
  have hsome : ((run step new sampleEvents).tasks 0).receiver.isSome = true := by decide +kernel
  obtain ⟨receiver, hreceiver⟩ := Option.isSome_iff_exists.mp hsome
  exact ⟨hstart, receiver, hreceiver,
    (uploadBody_exact sampleEvents 0 receiver hreceiver).2 17 hstart⟩

end Tlss.Ftp.TransferConnection
