import Tlss.Monitor.AlarmNetwork

/-!
# The streams of a connection

What is under way on a connection makes sense: the bytes for the collector, behind
those its decoder holds already, begin a sequence of encodings of requests, and
the bytes for the publisher, behind those it has read of the next answer, begin a
sequence of encodings of control frames. As long as nobody has given up on the
connection the sequences are complete, so that the next frame starts where the
last one ends.

`Coherent` collects this for all connections and says which requests and which
answers can occur. There is one lemma for each thing that can happen to a
connection; none of them looks at the spools.
-/

namespace Tlss.Monitor

open Library List Function Option Worker Connection

variable {fr : AlarmFrame}

namespace Connection

variable {c : Connection} {owed : Option Bytes} {req reply : AlarmFrame → Prop}
  {heard : Bytes} {frs : List AlarmFrame}

/-! ## Towards the collector -/

/-- The decoder and the bytes under way begin a sequence of requests, and with
the bytes the publisher still owes they are the sequence. -/
def Carries (connection : Connection) (owed : Option Bytes) (request : AlarmFrame → Prop) : Prop :=
  ∃ frames, (∀ frame ∈ frames, frame.Valid ∧ request frame) ∧ connection.decoder.Expects frames ∧
    connection.decoder.buffer ++ connection.toCollector <+: alarmStream frames ∧
    ∀ rest, owed = some rest →
      connection.decoder.buffer ++ connection.toCollector ++ rest = alarmStream frames

lemma carries_fresh : fresh.Carries (some []) req :=
  ⟨[], by simp, AlarmStreamDecoder.expects_fresh [], prefix_rfl, by simp [fresh,
    AlarmStreamDecoder.fresh]⟩

section

variable (hcar : c.Carries owed req)
include hcar

lemma Carries.mono {request' : AlarmFrame → Prop}
    (himp : ∀ fr, req fr → request' fr) : c.Carries owed request' := by
  obtain ⟨frs, hfrs, hrest⟩ := hcar
  exact ⟨frs, fun fr hmem => ⟨(hfrs fr hmem).1, himp _ (hfrs fr hmem).2⟩, hrest⟩

lemma Carries.abandon : c.Carries none req := by
  obtain ⟨frs, hfrs, hexpects, hinitial, -⟩ := hcar
  exact ⟨frs, hfrs, hexpects, hinitial, by simp⟩

lemma Carries.relax (lost : Bool) : c.Carries (if lost then none else owed) req := by
  cases lost with
  | true => exact hcar.abandon
  | false => exact hcar

omit hcar in
lemma Carries.begin (hcar : c.Carries (some []) req)
    (hvalid : fr.Valid) (hreq : req fr) : c.Carries (some (alarmWire fr)) req := by
  obtain ⟨frs, hfrs, hexpects, hinitial, hwhole⟩ := hcar
  refine ⟨frs ++ [fr], ?_, hexpects.append [fr], ?_, ?_⟩
  · intro y hmem
    rcases mem_append.mp hmem with hmem | hmem
    · exact hfrs y hmem
    · rw [mem_singleton.mp hmem]
      exact ⟨hvalid, hreq⟩
  · rw [alarmStream_append]
    exact hinitial.trans (prefix_append _ _)
  · intro rest hrest
    have hdone := hwhole [] rfl
    rw [append_nil] at hdone
    rw [← some_inj.mp hrest, hdone]
    simp

omit hcar in
lemma Carries.send {rest : Bytes} (hcar : c.Carries (some rest) req)
    (hbroken : c.broken = false) (size : ℕ) :
    (c.send (rest.take size)).Carries (some (rest.drop size)) req := by
  obtain ⟨frs, hfrs, hexpects, hinitial, hwhole⟩ := hcar
  have hsent : c.decoder.buffer ++ (c.toCollector ++ rest.take size) ++
      rest.drop size = alarmStream frs := by
    rw [← hwhole rest rfl]
    simp
  simp only [Connection.send, hbroken, Bool.false_eq_true, if_false]
  refine ⟨frs, hfrs, hexpects, ⟨_, hsent⟩, ?_⟩
  intro left hleft
  rw [← some_inj.mp hleft]
  exact hsent

lemma Carries.sever (forward backward : ℕ) : (c.sever forward backward).Carries none req := by
  obtain ⟨frs, hfrs, hexpects, hinitial, -⟩ := hcar
  refine ⟨frs, hfrs, hexpects, ?_, by simp⟩
  exact List.IsPrefix.trans ((prefix_append_right_inj _).mpr (List.take_prefix _ _)) hinitial

/-- The decoder is given the first bytes: the frames it completes are requests, and
what it keeps begins the rest of the sequence. -/
lemma Carries.feed {data later : Bytes} (hsplit : c.toCollector = data ++ later)
    (fed : Connection) (hdecoder : fed.decoder = (c.decoder.feed data).2)
    (hlater : fed.toCollector = later) : fed.Carries owed req ∧
      ∀ fr ∈ (c.decoder.feed data).1.frames, req fr := by
  obtain ⟨frs, hfrs, hexpects, hinitial, hwhole⟩ := hcar
  obtain ⟨done, rest, rfl, hdone, -, hexpects', hbytes⟩ :=
    AlarmStreamDecoder.feed_of_expects (fun fr hmem => (hfrs fr hmem).1) hexpects
      (List.IsPrefix.trans ⟨later, by rw [hsplit, append_assoc]⟩ hinitial)
  have hshift : c.decoder.buffer ++ c.toCollector =
      alarmStream done ++ ((c.decoder.feed data).2.buffer ++ later) := by
    rw [hsplit, ← append_assoc, hbytes, append_assoc]
  rw [Carries, hdecoder, hlater]
  refine ⟨⟨rest, fun fr hmem => hfrs fr (mem_append_right _ hmem), hexpects', ?_, ?_⟩, ?_⟩
  · rw [hshift, alarmStream_append] at hinitial
    exact (prefix_append_right_inj _).mp hinitial
  · intro left hleft
    have hall := hwhole left hleft
    rw [hshift, alarmStream_append, append_assoc] at hall
    exact append_cancel_left hall
  · intro fr hmem
    rw [hdone] at hmem
    exact (hfrs fr (mem_append_left _ hmem)).2

lemma Carries.read (size : ℕ) : (c.read size).Carries owed req ∧
      ∀ fr ∈ (c.read size).queue, fr ∈ c.queue ∨ req fr := by
  have hsplit := (take_append_drop (min size clientReadChunk) c.toCollector).symm
  unfold Connection.read
  dsimp only
  split_ifs with hempty hclose
  · exact ⟨hcar, fun _ hmem => .inl hmem⟩
  · exact ⟨(hcar.feed hsplit _ rfl rfl).1, by simp [close]⟩
  · obtain ⟨hfed, hfrs⟩ := hcar.feed hsplit
      { c with
        toCollector := c.toCollector.drop (min size clientReadChunk)
        decoder := (c.decoder.feed
          (c.toCollector.take (min size clientReadChunk))).2 } rfl rfl
    exact ⟨hfed, fun fr hmem => .inr (hfrs fr hmem)⟩

end

lemma broken_read (c : Connection) (size : ℕ) : (c.read size).broken = c.broken := by
  unfold read
  dsimp only
  split_ifs <;> rfl

/-! ## Towards the publisher -/

def IsControl (frame : AlarmFrame) : Prop := frame.type.isControl = true ∧ frame.payload = []

lemma IsControl.valid (hcontrol : IsControl fr) : fr.Valid := by
  obtain ⟨type, sourceId, messageId, timestampMs, payload⟩ := fr
  obtain ⟨htype, rfl⟩ := hcontrol
  exact valid_control htype sourceId messageId timestampMs

lemma IsControl.length_wire (hcontrol : IsControl fr) :
    (alarmWire fr).length = alarmHeaderSize := by
  rw [length_alarmWire, hcontrol.2]
  rfl

/-- What the publisher has heard of the next answer and the bytes under way begin a
sequence of answers; with what the collector has still to write they are the
sequence, unless it has closed the client or the connection is broken. -/
structure Answers (connection : Connection) (heard : Bytes) (reply : AlarmFrame → Prop)
    (frames : List AlarmFrame) : Prop where
  control : ∀ frame ∈ frames, IsControl frame ∧ reply frame
  short : heard.length < alarmHeaderSize
  initial : heard ++ connection.toPublisher <+: alarmStream frames
  whole : connection.client ≠ .closed → connection.broken = false →
    heard ++ connection.toPublisher ++ connection.writes = alarmStream frames

section

variable (hans : c.Answers heard reply frs)
include hans

lemma Answers.mono {reply' : AlarmFrame → Prop}
    (himp : ∀ fr, reply fr → reply' fr) : c.Answers heard reply' frs :=
  { hans with
    control := fun fr hmem =>
      ⟨(hans.control fr hmem).1, himp _ (hans.control fr hmem).2⟩ }

lemma Answers.close : c.close.Answers heard reply frs :=
  { hans with whole := fun hopen => absurd rfl hopen }

lemma Answers.sever (forward backward : ℕ) :
    (c.sever forward backward).Answers heard reply frs := by
  refine ⟨hans.control, hans.short, ?_, by simp [Connection.sever]⟩
  exact List.IsPrefix.trans ((prefix_append_right_inj _).mpr (List.take_prefix _ _)) hans.initial

lemma Answers.send (bytes : Bytes) : (c.send bytes).Answers heard reply frs := by
  unfold Connection.send
  split_ifs
  · exact hans
  · exact { hans with }

lemma Answers.read (size : ℕ) : (c.read size).Answers heard reply frs := by
  unfold Connection.read
  dsimp only
  split_ifs
  · exact hans
  · exact { hans with whole := fun hopen => absurd rfl hopen }
  · exact { hans with }

lemma Answers.write (hopen : c.client ≠ .closed) (size : ℕ) :
    (c.write size).Answers heard reply frs := by
  cases hbroken : c.broken with
  | true =>
    refine ⟨hans.control, hans.short, ?_, by simp [Connection.write, hbroken]⟩
    simpa [Connection.write, hbroken] using hans.initial
  | false =>
    have hmoved : heard ++ (c.toPublisher ++ c.writes.take size) ++
        c.writes.drop size = alarmStream frs := by
      rw [← hans.whole hopen hbroken]
      simp
    refine ⟨hans.control, hans.short, ?_, ?_⟩
    · simp only [Connection.write, hbroken, Bool.false_eq_true, if_false]
      exact ⟨_, hmoved⟩
    · intro _ _
      simpa [Connection.write, hbroken] using hmoved

lemma Answers.answer (hopen : c.client ≠ .closed) {control : QueuedControl}
    (hbytes : control.bytes = alarmWire control.frame) (hcontrol : IsControl control.frame)
    (hreply : reply control.frame) :
    (c.answer (some control)).Answers heard reply (frs ++ [control.frame]) := by
  refine ⟨?_, hans.short, ?_, ?_⟩
  · intro fr hmem
    rcases mem_append.mp hmem with hmem | hmem
    · exact hans.control fr hmem
    · rw [mem_singleton.mp hmem]
      exact ⟨hcontrol, hreply⟩
  · rw [alarmStream_append]
    exact hans.initial.trans (prefix_append _ _)
  · intro _ hbroken
    have hwhole := hans.whole hopen hbroken
    rw [alarmStream_append, ← hwhole]
    simp [Connection.answer, hbytes]

omit hans in
lemma Answers.receiveFrame_eq {held later : Bytes} (hlength : held.length = alarmHeaderSize)
    (hinitial : held ++ later <+: alarmStream frs)
    (hcontrol : ∀ fr ∈ frs, IsControl fr ∧ reply fr) :
    ∃ answer rest, frs = answer :: rest ∧ held = alarmWire answer ∧
      receiveFrame held = .complete answer := by
  cases frs with
  | nil =>
    have hnil := prefix_nil.mp hinitial
    simp [(append_eq_nil_iff.mp hnil).1, alarmHeaderSize] at hlength
  | cons answer rest =>
    have hanswer := (hcontrol answer (by simp)).1
    have hwire : held = alarmWire answer := by
      have hheld : held <+: alarmWire answer ++ alarmStream rest := by
        rw [← alarmStream_cons]
        exact (prefix_append _ _).trans hinitial
      rw [prefix_iff_eq_take] at hheld
      rw [hheld, hlength, ← hanswer.length_wire, take_left]
    refine ⟨answer, rest, rfl, hwire, ?_⟩
    have hsize : alarmFrameSize held = .ok held.length := by
      rw [hwire]
      exact (alarmFrameSize_eq_ok_iff _ _).mpr (announces_alarmWire hanswer.valid)
    have hdecode : decodeAlarmFrame held = .ok answer := by
      rw [hwire]
      exact decodeAlarmFrame_encode hanswer.valid
    simp [receiveFrame, hsize, hdecode, hlength]

lemma Answers.receive (size : ℕ) {k : ℕ} (hcount : k = min size (receiveSize heard))
    {held : Bytes} (hheld : held = heard ++ c.toPublisher.take k) :
    (receiveFrame held = .incomplete ∧ (c.taken k).Answers held reply frs) ∨
      ∃ answer rest, receiveFrame held = .complete answer ∧ reply answer ∧
        (c.taken k).Answers [] reply rest := by
  have hshort := hans.short
  have hle : held.length ≤ alarmHeaderSize := by
    have hcount' : k ≤ alarmHeaderSize - heard.length := by
      rw [hcount, receiveSize, if_pos hshort]
      exact Nat.min_le_right _ _
    rw [hheld, length_append, length_take]
    omega
  have hmoved : held ++ c.toPublisher.drop k = heard ++ c.toPublisher := by
    rw [hheld, append_assoc, take_append_drop]
  have hinitial := hans.initial
  rw [← hmoved] at hinitial
  rcases Nat.lt_or_eq_of_le hle with hless | hfull
  · refine .inl ⟨by simp [receiveFrame, hless], hans.control, hless, hinitial, ?_⟩
    intro hopen hbroken
    rw [← hans.whole hopen hbroken, ← hmoved]
    rfl
  · obtain ⟨answer, rest, rfl, hwire, hframe⟩ :=
      Answers.receiveFrame_eq hfull hinitial hans.control
    refine .inr ⟨answer, rest, hframe, (hans.control answer (by simp)).2,
      fun fr hmem => hans.control fr (by simp [hmem]), by decide, ?_, ?_⟩
    · rw [hwire, alarmStream_cons] at hinitial
      exact (prefix_append_right_inj _).mp hinitial
    · intro hopen hbroken
      have hwhole := hans.whole hopen hbroken
      rw [← hmoved, hwire, alarmStream_cons, append_assoc] at hwhole
      exact append_cancel_left hwhole

end

end Connection

/-! ## All connections -/

def Worker.rest : Worker → Bytes
  | .sending _ _ rest => rest
  | _ => []

def Worker.heard : Worker → Bytes
  | .waiting _ _ received => received
  | _ => []

def Worker.connection : Worker → Option ℕ
  | .sending connection _ _ => some connection
  | .waiting connection _ _ => some connection
  | .acked connection _ => some connection
  | _ => none

/-- What the publisher is going to send on a connection before its next request;
nothing can be said once it has left the connection or the connection is broken. -/
def owed (worker : Worker) (socket : Option ℕ) (connections : ℕ → Connection) (number : ℕ) :
    Option Bytes :=
  if socket = some number ∧ (connections number).broken = false then some worker.rest else none

/-- All connections carry requests one way and replies the other. -/
structure Coherent (request reply : AlarmFrame → Prop) (worker : Worker) (socket : Option ℕ)
    (connections : ℕ → Connection) : Prop where
  requests : ∀ number, (connections number).client ≠ .closed →
    (connections number).Carries (owed worker socket connections number) request
  queued : ∀ number, ∀ frame ∈ (connections number).queue, request frame
  answers : ∀ number, socket = some number →
    ∃ frames, (connections number).Answers worker.heard reply frames
  held : ∀ number, worker.connection = some number → socket = some number

namespace Coherent

variable {req reply : AlarmFrame → Prop} {wk : Worker} {socket : Option ℕ}
  {conns : ℕ → Connection}

section

variable (hcoh : Coherent req reply wk socket conns)
include hcoh

lemma mono {request' reply' : AlarmFrame → Prop} (hreq : ∀ fr, req fr → request' fr)
    (hreply : ∀ fr, reply fr → reply' fr) : Coherent request' reply' wk socket conns where
  requests := fun n hopen => (hcoh.requests n hopen).mono hreq
  queued := fun n fr hmem => hreq fr (hcoh.queued n fr hmem)
  answers := fun n hsocket =>
    (hcoh.answers n hsocket).imp fun _ hans => hans.mono hreply
  held := hcoh.held

lemma closeSocket : Coherent req reply .idle none conns where
  requests := fun n hopen => by
    simpa [owed] using (hcoh.requests n hopen).abandon
  queued := hcoh.queued
  answers := by simp
  held := by simp [connection]

lemma closeAll : Coherent req reply wk socket fun n => (conns n).close where
  requests := fun n hopen => absurd rfl hopen
  queued := by simp [close]
  answers := fun n hsocket =>
    (hcoh.answers n hsocket).imp fun _ hans => hans.close
  held := hcoh.held

variable {worker' : Worker} {n : ℕ} {exchange : Exchange}

lemma onWorker (hrest : worker'.rest = wk.rest) (hheard : worker'.heard = wk.heard)
    (hheld : ∀ n, worker'.connection = some n → socket = some n) :
    Coherent req reply worker' socket conns where
  requests := fun n hopen => by
    rw [owed, hrest]
    exact hcoh.requests n hopen
  queued := hcoh.queued
  answers := fun n hsocket => by
    rw [hheard]
    exact hcoh.answers n hsocket
  held := hheld

omit hcoh in
lemma begin (hcoh : Coherent req reply wk (some n) conns) (exchange : Exchange)
    (hrest : wk.rest = []) (hheard : wk.heard = []) (hvalid : fr.Valid) (hreq : req fr) :
    Coherent req reply (.sending n exchange (alarmWire fr)) (some n) conns where
  requests := by
    intro y hopen
    have hcar := hcoh.requests y hopen
    unfold owed at hcar ⊢
    split_ifs at hcar ⊢ with howed
    · rw [hrest] at hcar
      exact hcar.begin hvalid hreq
    · exact hcar
  queued := hcoh.queued
  answers := fun y hsocket => by
    have hans := hcoh.answers y hsocket
    rwa [hheard] at hans
  held := by simp [connection]

omit hcoh in
lemma connect (hcoh : Coherent req reply wk none conns) (n : ℕ) :
    Coherent req reply .idle (some n) (Function.update conns n .fresh) where
  requests := by
    intro y hopen
    by_cases hother : y = n
    · subst hother
      simpa [owed, fresh, rest] using
        (carries_fresh : fresh.Carries (some []) req)
    · have hne : ¬ n = y := fun h => hother h.symm
      rw [update_of_ne hother] at hopen ⊢
      simpa [owed, hne] using hcoh.requests y hopen
  queued := by
    intro y fr hmem
    by_cases hother : y = n
    · subst hother
      simp [fresh] at hmem
    · rw [update_of_ne hother] at hmem
      exact hcoh.queued y fr hmem
  answers := by
    intro y hsocket
    obtain rfl := some_inj.mp hsocket
    rw [update_self]
    exact ⟨[], ⟨by simp, by decide, prefix_rfl, fun _ _ => rfl⟩⟩
  held := by simp [connection]

omit hcoh in
lemma send {rest : Bytes} (hcoh : Coherent req reply (.sending n exchange rest) socket conns)
    (size : ℕ) (hrest : worker'.rest = rest.drop size)
    (hheard : worker'.heard = []) (hconnection : worker'.connection = some n) :
    Coherent req reply worker' socket
      (Function.update conns n ((conns n).send (rest.take size))) := by
  have hsocket := hcoh.held n rfl
  have hsent : ∀ bytes, ((conns n).send bytes).broken = (conns n).broken ∧
      ((conns n).send bytes).client = (conns n).client ∧
      ((conns n).send bytes).queue = (conns n).queue := by
    intro bytes
    unfold Connection.send
    split_ifs <;> exact ⟨rfl, rfl, rfl⟩
  refine ⟨fun y hopen => ?_, fun y fr hmem => ?_, fun y hother => ?_, ?_⟩
  · by_cases hother : y = n
    · subst hother
      rw [update_self] at hopen ⊢
      have hcar := hcoh.requests y ((hsent _).2.1 ▸ hopen)
      unfold owed at hcar ⊢
      rw [update_self, (hsent _).1, hrest]
      cases hbroken : (conns y).broken with
      | false =>
        simp only [hsocket, hbroken, and_self, if_true] at hcar ⊢
        exact hcar.send hbroken size
      | true =>
        simpa [send, hbroken] using hcar
    · have hne : ¬ n = y := fun h => hother h.symm
      rw [update_of_ne hother] at hopen ⊢
      simpa [owed, hne, hsocket] using hcoh.requests y hopen
  · by_cases hother : y = n
    · subst hother
      rw [update_self, (hsent _).2.2] at hmem
      exact hcoh.queued y fr hmem
    · rw [update_of_ne hother] at hmem
      exact hcoh.queued y fr hmem
  · rw [hsocket, some_inj] at hother
    subst hother
    rw [update_self, hheard]
    exact (hcoh.answers n hsocket).imp fun _ hans => hans.send _
  · intro y hother
    rw [hconnection, some_inj] at hother
    exact hother ▸ hsocket

lemma taken {n k : ℕ} {frs : List AlarmFrame}
    (hsocket : socket = some n) (hrest : worker'.rest = wk.rest)
    (hconnection : ∀ y, worker'.connection = some y → y = n)
    (hans : ((conns n).taken k).Answers worker'.heard reply frs) :
    Coherent req reply worker' socket (Function.update conns n ((conns n).taken k)) := by
  have hsame : ∀ y,
      (update conns n ((conns n).taken k) y).client =
          (conns y).client ∧
        (update conns n ((conns n).taken k) y).broken = (conns y).broken ∧
        (update conns n ((conns n).taken k) y).queue = (conns y).queue ∧
        ∀ owed, (conns y).Carries owed req →
          (update conns n ((conns n).taken k) y).Carries owed req := by
    intro y
    by_cases hother : y = n
    · subst hother
      rw [update_self]
      exact ⟨rfl, rfl, rfl, fun _ hcar => hcar⟩
    · rw [update_of_ne hother]
      exact ⟨rfl, rfl, rfl, fun _ hcar => hcar⟩
  refine ⟨fun y hopen => ?_, fun y fr hmem => ?_, fun y hother => ?_, ?_⟩
  · obtain ⟨hclient, hbroken, -, hcar⟩ := hsame y
    rw [owed, hrest, hbroken]
    exact hcar _ (hcoh.requests y (hclient ▸ hopen))
  · rw [(hsame y).2.2.1] at hmem
    exact hcoh.queued y fr hmem
  · rw [hsocket, some_inj] at hother
    subst hother
    rw [update_self]
    exact ⟨frs, hans⟩
  · intro y hother
    rw [hconnection y hother, hsocket]

omit hcoh in
/-- The worker reads: it has not got the whole answer yet, or it has got an answer
and its connection is ready for the next request. -/
lemma receive {received : Bytes}
    (hcoh : Coherent req reply (.waiting n exchange received) socket conns)
    (size : ℕ) {k : ℕ} (hcount : k = min size (receiveSize received)) {held : Bytes}
    (hheld : held = received ++ (conns n).toPublisher.take k) :
    (receiveFrame held = .incomplete ∧ Coherent req reply (.waiting n exchange held) socket
          (Function.update conns n ((conns n).taken k))) ∨
      ∃ answer, receiveFrame held = .complete answer ∧ reply answer ∧
        Coherent req reply .idle socket (Function.update conns n ((conns n).taken k)) := by
  have hsocket := hcoh.held n rfl
  obtain ⟨frs, hans⟩ := hcoh.answers n hsocket
  rcases hans.receive size hcount hheld with
    ⟨hincomplete, hlater⟩ | ⟨answer, rest, hcomplete, hreply, hlater⟩
  · refine .inl ⟨hincomplete, hcoh.taken hsocket rfl ?_ hlater⟩
    exact fun y hother => (some_inj.mp hother).symm
  · refine .inr ⟨answer, hcomplete, hreply, hcoh.taken hsocket rfl ?_ hlater⟩
    simp [connection]

lemma onConnection {changed : Connection}
    (hbroken : changed.broken = false → (conns n).broken = false)
    (hopen : changed.client ≠ .closed → (conns n).client ≠ .closed)
    (hcar : ∀ owed, (conns n).Carries owed req →
      changed.Carries (if changed.broken then none else owed) req)
    (hqueue : ∀ fr ∈ changed.queue, req fr) (hans : ∀ heard frs, (conns n).Answers heard reply frs →
      ∃ frames', changed.Answers heard reply frames') :
    Coherent req reply wk socket (Function.update conns n changed) where
  requests := by
    intro y hother
    by_cases hsame : y = n
    · subst hsame
      rw [update_self] at hother ⊢
      have hnow := hcar _ (hcoh.requests y (hopen hother))
      unfold owed at hnow ⊢
      rw [update_self]
      cases hchanged : changed.broken with
      | true => simpa [hchanged] using hnow
      | false => simpa [hchanged, hbroken hchanged] using hnow
    · rw [update_of_ne hsame] at hother ⊢
      simpa [owed, update_of_ne hsame] using hcoh.requests y hother
  queued := by
    intro y fr hmem
    by_cases hsame : y = n
    · subst hsame
      rw [update_self] at hmem
      exact hqueue fr hmem
    · rw [update_of_ne hsame] at hmem
      exact hcoh.queued y fr hmem
  answers := by
    intro y hsocket
    obtain ⟨frs, hold⟩ := hcoh.answers y hsocket
    by_cases hsame : y = n
    · subst hsame
      rw [update_self]
      exact hans _ _ hold
    · rw [update_of_ne hsame]
      exact ⟨frs, hold⟩
  held := hcoh.held

lemma answer (hopen : (conns n).client ≠ .closed) {response : Option QueuedControl}
    (hresponse : ∀ control, response = some control → control.bytes = alarmWire control.frame ∧
      Connection.IsControl control.frame ∧ reply control.frame) : Coherent req reply wk socket
      (Function.update conns n ((conns n).answer response)) := by
  cases response with
  | none =>
    exact hcoh.onConnection id (fun hclosed => absurd rfl hclosed)
      (fun _ hcar => Connection.Carries.relax hcar _) (by simp [Connection.answer,
        Connection.close]) fun heard frs hans => ⟨frs, hans.close⟩
  | some control =>
    obtain ⟨hbytes, hcontrol, hreply⟩ := hresponse control rfl
    refine hcoh.onConnection id (fun _ => hopen) (fun _ hcar => Connection.Carries.relax hcar _) ?_
      fun heard frs hans => ⟨_, hans.answer hopen hbytes hcontrol hreply⟩
    exact fun fr hmem => hcoh.queued n fr (mem_of_mem_tail hmem)

end

end Coherent

end Tlss.Monitor
