import Tlss.Net.WriteBounds

/-!
# The bytes on the socket

The bytes the socket has accepted, followed by what the tasks in the queue have
still to send, are the contents of the accepted tasks in the order in which they
were accepted (`Streaming`). The cursors of the three kinds of tasks differ, but a
task that has sent `written` bytes has exactly the rest of its bytes left, whatever
its kind (`WriteTask.take_append_unsent`).

The scheduler cannot see whether a chunk that is delivered for the pending read
holds the bytes of the file; `Faithful` assumes it.
-/

namespace Tlss.Net

open Library Relation List Effect WriteTask

/-! ## Ranges of files -/

lemma fileBytes_zero (file : FileContents) (off : ℤ) : fileBytes file off 0 = [] := rfl

lemma fileBytes_add (file : FileContents) (off : ℤ) (first second : ℕ) :
    fileBytes file off (first + second) =
      fileBytes file off first ++ fileBytes file (off + first) second := by
  simp only [fileBytes, List.range_add, List.map_append, List.map_map]
  congr 1
  refine List.map_congr_left fun i _ => ?_
  simp [Int.add_assoc]

variable {first k written : ℕ} {t : WriteTask} {effect : Effect}

lemma fileBytes_split (file : FileContents) (off : ℤ) (hle : first ≤ k) : fileBytes file off k =
      fileBytes file off first ++ fileBytes file (off + first) (k - first) := by
  rw [← fileBytes_add, Nat.add_sub_cancel' hle]

lemma take_fileBytes (file : FileContents) (off : ℤ) (hle : first ≤ k) :
    (fileBytes file off k).take first = fileBytes file off first := by
  rw [fileBytes_split file off hle]
  exact take_left' (length_fileBytes file off first)

lemma drop_fileBytes (file : FileContents) (off : ℤ) (hle : first ≤ k) :
    (fileBytes file off k).drop first = fileBytes file (off + first) (k - first) := by
  rw [fileBytes_split file off hle]
  exact drop_left' (length_fileBytes file off first)

/-! ## What a task has still to send -/

namespace WriteTask

def unsent : WriteTask → Bytes
  | .memory write => write.data.drop write.offset
  | .sendFile progress | .asyncReader progress _ =>
    fileBytes progress.file progress.offset progress.remaining

/-- The chunk at hand holds the next bytes of the file. -/
def Chunked : WriteTask → Prop
  | .asyncReader progress read =>
    read.data.drop read.dataOffset =
      fileBytes progress.file progress.offset (read.data.length - read.dataOffset)
  | _ => True

lemma unsent_of_completed (hcompleted : t.completed) : t.unsent = [] := by
  cases t with
  | memory write => simpa [completed, unsent] using Nat.le_of_eq (of_decide_eq_true hcompleted).symm
  | sendFile prog | asyncReader prog read =>
    rw [unsent, of_decide_eq_true hcompleted, fileBytes_zero]

/-- What the socket accepts is the beginning of what the task has to send, and the
rest is what it has to send afterwards. -/
lemma take_append_unsent (hreserved : t.Reserved)
    (hchunked : t.Chunked) (havailable : written ≤ t.available.length) :
    t.available.take written ++ (t.advance written).unsent = t.unsent := by
  cases t with
  | memory write =>
    simp only [available, advance, unsent]
    rw [← drop_drop, take_append_drop]
  | sendFile prog =>
    have hle : written ≤ prog.remaining := by simpa [available] using havailable
    simp only [available, advance, unsent, FileProgress.advance, wrapSub_of_le hle]
    rw [take_fileBytes _ _ hle, ← fileBytes_split _ _ hle]
  | asyncReader prog read =>
    have hhand : written ≤ read.data.length - read.dataOffset := by
      simpa [available] using havailable
    have hle : written ≤ prog.remaining := Nat.le_trans hhand hreserved.2.2
    simp only [available, advance, unsent, FileProgress.advance, wrapSub_of_le hle]
    rw [show read.data.drop read.dataOffset = _ from hchunked, take_fileBytes _ _ hhand,
      ← fileBytes_split _ _ hle]

lemma Chunked.advance (hchunked : t.Chunked)
    (havailable : written ≤ t.available.length) : (t.advance written).Chunked := by
  cases t with
  | memory write | sendFile prog => trivial
  | asyncReader prog read =>
    have hhand : written ≤ read.data.length - read.dataOffset := by
      simpa [available] using havailable
    simp only [advance, Chunked, ReadProgress.advance]
    split_ifs
    · rfl
    · simp only [FileProgress.advance]
      rw [← drop_drop, show read.data.drop read.dataOffset = _ from hchunked,
        drop_fileBytes _ _ hhand, Nat.sub_sub]

end WriteTask

namespace Effect

def socketBytes : Effect → Bytes
  | .sent _ bytes => bytes
  | _ => []

def acceptedBytes : Effect → Bytes
  | .accepted contents => contents
  | _ => []

lemma IsSignal.socketBytes (h : effect.IsSignal) : effect.socketBytes = [] := by
  cases h <;> rfl

lemma IsSignal.acceptedBytes (h : effect.IsSignal) : effect.acceptedBytes = [] := by
  cases h <;> rfl

end Effect

lemma flatMap_socketBytes_posts (t : WriteTask) (error : Option Errno) :
    (t.posts error).flatMap socketBytes = [] := by
  unfold posts
  split
  · rfl
  · split_ifs <;> rfl

lemma flatMap_acceptedBytes_posts (t : WriteTask) (error : Option Errno) :
    (t.posts error).flatMap acceptedBytes = [] := by
  unfold posts
  split
  · rfl
  · split_ifs <;> rfl

namespace WriteScheduler

def socketStream (scheduler : WriteScheduler) : Bytes :=
  scheduler.trace.flatMap socketBytes

/-- The contents of the accepted tasks, in the order of their acceptance. -/
def acceptedStream (scheduler : WriteScheduler) : Bytes :=
  scheduler.trace.flatMap acceptedBytes

def Exact (progress : FileProgress) (read : ReadProgress) (data : Bytes) : Prop :=
  data = fileBytes progress.file progress.offset read.readSize

/-- The socket has the accepted contents up to what the queue has still to send. -/
structure Streaming (scheduler : WriteScheduler) : Prop where
  chunked : ∀ task ∈ scheduler.writes, task.Chunked
  running : scheduler.stopped = false →
    scheduler.socketStream ++ scheduler.writes.flatMap unsent = scheduler.acceptedStream
  isPrefix : scheduler.socketStream <+: scheduler.acceptedStream

variable {scheduler pre after : WriteScheduler}

lemma new_streaming : new.Streaming := by
  constructor <;> simp [new, socketStream, acceptedStream]

lemma Streaming.congr (h : pre.Streaming) (hwr : after.writes = pre.writes)
    (hstopped : after.stopped = pre.stopped) (hsocket : after.socketStream = pre.socketStream)
    (hacc : after.acceptedStream = pre.acceptedStream) : after.Streaming where
  chunked := hwr ▸ h.chunked
  running hrun := by
    rw [hwr, hsocket, hacc]
    exact h.running (hstopped.symm.trans hrun)
  isPrefix := by
    rw [hsocket, hacc]
    exact h.isPrefix

lemma Streaming.of_running {later : WriteScheduler} (hchunked : ∀ t ∈ later.writes, t.Chunked)
    (hstream : later.socketStream ++ later.writes.flatMap unsent =
      later.acceptedStream) : later.Streaming :=
  ⟨hchunked, fun _ => hstream, ⟨_, hstream⟩⟩

lemma Streaming.push (h : pre.Streaming) {contents : Bytes}
    (hrun : pre.stopped = false) (hwr : after.writes = pre.writes ++ [t])
    (htrace : after.trace = pre.trace ++ [.accepted contents]) (hchunked : t.Chunked)
    (hunsent : t.unsent = contents) : after.Streaming := by
  refine .of_running ?_ ?_
  · intro other hother
    rw [hwr, mem_append, mem_singleton] at hother
    rcases hother with hold | rfl
    · exact h.chunked other hold
    · exact hchunked
  · have hstream := h.running hrun
    simp only [socketStream, acceptedStream] at hstream ⊢
    simp [hwr, htrace, socketBytes, acceptedBytes, hunsent, ← hstream]

lemma Streaming.setFront (h : pre.Streaming) {t changed : WriteTask} {rest : List WriteTask}
    (hwr : pre.writes = t :: rest) (hlater : after.writes = changed :: rest)
    (hstopped : after.stopped = pre.stopped) (htrace : after.trace = pre.trace)
    (hchunked : changed.Chunked) (hunsent : changed.unsent = t.unsent) : after.Streaming where
  chunked := by
    have hall := h.chunked
    rw [hwr, forall_mem_cons] at hall
    rw [hlater, forall_mem_cons]
    exact ⟨hchunked, hall.2⟩
  running hrun := by
    have hstream := h.running (hstopped.symm.trans hrun)
    simp only [socketStream, acceptedStream, hwr] at hstream
    simp only [socketStream, acceptedStream, htrace, hlater]
    rw [← hstream, flatMap_cons, flatMap_cons, hunsent]
  isPrefix := by
    unfold socketStream acceptedStream
    rw [htrace]
    exact h.isPrefix

lemma chunked_task (req : FileRequest) (number : ℕ) : (req.task number).Chunked := by
  cases req with
  | sendFile => trivial
  | asyncReader => rfl

lemma Move.streaming (hbounded : pre.Bounded) (h : pre.Streaming)
    (hmove : Move Exact pre after) : after.Streaming := by
  cases hmove with
  | signal enabled hsignal =>
    refine h.congr rfl rfl ?_ ?_
    · simp [socketStream, hsignal.socketBytes]
    · simp [acceptedStream, hsignal.acceptedBytes]
  | highWaterMark bytes => exact { h with }
  | acceptMemory hrun hdata htasks hroom => exact h.push hrun rfl rfl trivial rfl
  | acceptFile req hrun hprepared htasks hfiles hroom =>
    exact h.push hrun rfl rfl (chunked_task req _) ((by cases req <;> rfl))
  | refuse req error =>
    refine h.congr rfl rfl ?_ ?_
    · simp [socketStream, flatMap_socketBytes_posts]
    · simp [acceptedStream, flatMap_acceptedBytes_posts]
  | cancel error =>
    -- what was in the queue is never sent, so only the prefix is left
    have hsocket : (pre.writes.flatMap (·.posts (some error))).flatMap
        socketBytes = [] := by
      rw [flatMap_assoc]
      exact flatMap_eq_nil_iff.mpr fun t _ => flatMap_socketBytes_posts t _
    have hacc : (pre.writes.flatMap (·.posts (some error))).flatMap
        acceptedBytes = [] := by
      rw [flatMap_assoc]
      exact flatMap_eq_nil_iff.mpr fun t _ => flatMap_acceptedBytes_posts t _
    refine ⟨by simp, nofun, ?_⟩
    simp only [socketStream, acceptedStream, flatMap_append, hsocket, hacc, append_nil]
    exact h.isPrefix
  | @complete t rest hwr hcompleted =>
    have hrun : pre.stopped = false := by
      by_contra hstopped
      simp [hbounded.stopped (Bool.not_eq_false _ ▸ hstopped)] at hwr
    have hstream := h.running hrun
    refine .of_running ?_ ?_
    · exact fun other hother =>
        h.chunked other (by rw [hwr]; exact mem_cons_of_mem _ hother)
    · rw [hwr, flatMap_cons, unsent_of_completed hcompleted, nil_append] at hstream
      simp only [socketStream, acceptedStream] at hstream ⊢
      simp only [flatMap_append, flatMap_socketBytes_posts, flatMap_acceptedBytes_posts, append_nil]
      cases t.fileProgress <;>
        simpa [socketBytes, acceptedBytes] using hstream
  | @send t rest written hwr hsome havailable =>
    have hrun : pre.stopped = false := by
      by_contra hstopped
      simp [hbounded.stopped (Bool.not_eq_false _ ▸ hstopped)] at hwr
    have hstream := h.running hrun
    have hreserved := hbounded.reserved t (by rw [hwr]; exact mem_cons_self)
    have hchunked := h.chunked
    rw [hwr, forall_mem_cons] at hchunked
    refine .of_running ?_ ?_
    · exact forall_mem_cons.mpr ⟨hchunked.1.advance havailable, hchunked.2⟩
    · rw [hwr, flatMap_cons,
        ← take_append_unsent hreserved hchunked.1 havailable] at hstream
      simp only [socketStream, acceptedStream] at hstream ⊢
      simpa [socketBytes, acceptedBytes] using hstream
  | @beginRead prog read rest hwr hdata hidle hremaining =>
    exact h.setFront hwr rfl rfl rfl (by
      simp [WriteTask.Chunked, hdata, fileBytes_zero]) rfl
  | @dropRead prog read rest hwr hpending =>
    have hchunked := h.chunked _ (by rw [hwr]; exact mem_cons_self)
    exact h.setFront hwr rfl rfl rfl hchunked rfl
  | @deliver prog read rest data hwr hpending hsize hremaining hroom hknown =>
    refine h.setFront hwr rfl rfl rfl ?_ rfl
    simp only [WriteTask.Chunked, drop_zero, Nat.sub_zero, hsize]
    exact hknown
  | drain hrun hwr =>
    refine h.congr rfl rfl ?_ ?_
    · simp [socketStream, socketBytes]
    · simp [acceptedStream, acceptedBytes]

/-! ## Runs -/

def awaited (scheduler : WriteScheduler) (sequence : ℕ) : Option (FileProgress × ReadProgress) :=
  match scheduler.writes with
  | .asyncReader progress read :: _ =>
    if read.readPending = true ∧ read.readSequence = sequence then some (progress, read) else none
  | _ => none

/-- A chunk that is delivered with the sequence number of the pending read and with
the size asked for holds the bytes of the file that were asked for. -/
def Faithful (scheduler : WriteScheduler) : Event → Prop
  | .onFileRead sequence none data =>
    ∀ read ∈ scheduler.awaited sequence, data.length = read.2.readSize →
      data = fileBytes read.1.file read.1.offset read.2.readSize
  | _ => True

instance (scheduler : WriteScheduler) : (event : Event) → Decidable (Faithful scheduler event)
  | .onFileRead sequence none data =>
    inferInstanceAs (Decidable (∀ read ∈ scheduler.awaited sequence,
      data.length = read.2.readSize → data = fileBytes read.1.file read.1.offset read.2.readSize))
  | .onFileRead _ (some _) _ | .enqueueMemory _ | .enqueueFile _ _ | .onWritable _ _
  | .cancelAll _ | .setHighWaterMark _ => isTrue trivial

lemma step_streaming (hbounded : scheduler.Bounded) (h : scheduler.Streaming) {event : Event}
    (hfaithful : Faithful scheduler event) :
    (scheduler.step event).Bounded ∧ (scheduler.step event).Streaming := by
  have hmoves : Moves Exact scheduler (scheduler.step event) := by
    refine moves_step scheduler event fun sequence data hevent => ?_
    subst hevent
    intro prog read rest hwr hpending hsequence hsize
    have hawaited : scheduler.awaited sequence = some (prog, read) := by
      simp [awaited, hwr, hpending, hsequence]
    exact hfaithful (prog, read) hawaited hsize
  have hmove : ∀ pre after : WriteScheduler, pre.Bounded ∧ pre.Streaming →
      Move Exact pre after → after.Bounded ∧ after.Streaming :=
    fun _ _ hinv hmove => ⟨hmove.bounded hinv.1, hmove.streaming hinv.1 hinv.2⟩
  exact Moves.invariant hmove hmoves ⟨hbounded, h⟩

/-- The bytes the socket has accepted are a prefix of the contents of the accepted
tasks, in the order of their acceptance, and all of them once the queue has drained
without a cancellation. -/
theorem socketStream_prefix {events : List Event} (hfaithful : StepsMeet step Faithful new events) :
    (run step new events).socketStream <+: (run step new events).acceptedStream ∧
      ((run step new events).stopped = false → (run step new events).writes = [] →
        (run step new events).socketStream = (run step new events).acceptedStream) := by
  have hstep : ∀ (scheduler : WriteScheduler) event, scheduler.Bounded ∧ scheduler.Streaming →
      Faithful scheduler event →
        (scheduler.step event).Bounded ∧ (scheduler.step event).Streaming :=
    fun _ _ hinv hfaithful => step_streaming hinv.1 hinv.2 hfaithful
  obtain ⟨-, hstreaming⟩ := run_invariant_of_meets hstep ⟨new_bounded, new_streaming⟩ hfaithful
  refine ⟨hstreaming.isPrefix, fun hrunning hdrained => ?_⟩
  have hstream := hstreaming.running hrunning
  rwa [hdrained, flatMap_nil, append_nil] at hstream

/-- A string and three bytes of a file, sent with partial sends and an interrupted
one; a completion with a wrong sequence number comes before the right one. -/
def sampleEvents : List Event :=
  [.enqueueMemory [1, 2],
    .enqueueFile (.asyncReader true (fun position => UInt8.ofNat position.toNat) 9 3 true) true,
    .onWritable [.wrote 1] ⟨[], .returns⟩,
    .onWritable [.wrote 5] ⟨[.enqueueMemory [7]], .returns⟩,
    .onFileRead 8 none [0, 0, 0],
    .onFileRead 1 none [9, 10, 11],
    .onWritable [.wrote 2, .error .EINTR, .wrote 5, .wrote 1] ⟨[], .returns⟩]

theorem socketStream_prefix_sampleEvents : StepsMeet step Faithful new sampleEvents ∧
      (run step new sampleEvents).socketStream = [1, 2, 9, 10, 11, 7] ∧
      (run step new sampleEvents).acceptedStream = [1, 2, 9, 10, 11, 7] := by
  have hfaithful : StepsMeet step Faithful new sampleEvents := by decide +kernel
  have haccepted : (run step new sampleEvents).acceptedStream = [1, 2, 9, 10, 11, 7] := by
    decide +kernel
  have hdrained := ( socketStream_prefix hfaithful).2 (by decide +kernel)
    (isEmpty_iff.mp (by decide +kernel))
  exact ⟨hfaithful, hdrained.trans haccepted, haccepted⟩

end WriteScheduler

end Tlss.Net
