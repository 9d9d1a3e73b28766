import Tlss.Library.Run
import Tlss.Monitor.Recovery

/-!
# A collector over its lives

Frames arrive in any order and any number of times, the engine changes under the
collector's feet, the process dies in the middle of a frame or of a start, and a
new collector is started over the same inbox. System calls fail as they like, and
a read may return damaged bytes, for which the file is moved away.

An observer keeps five logs: the files that appeared in the inbox, the files that
were found corrupt, what the engines of earlier lives were given, what the present
engine was given (this one is in the collector) and the acknowledgements queued in
this life. A file that `store` could not sync and took back has not appeared.

A file in the inbox is a reliable alarm, so it is sound, and it stays until a read
of it is damaged. Until then the log has one file for its identity, and its record
is the only one the engine can be given. After that the collector knows nothing of
the identity, and takes the next frame for a new alarm (`corrupt_identity_rewritten`).
-/

namespace Tlss.Monitor

open Library List Collector

structure CollectorRun where
  collector : Collector
  inboxLog : List (AlarmIdentity × Bytes)
  corrupt : List Bytes
  history : List Ingested
  acks : List AlarmIdentity

inductive CollectorEvent where
  | receive (frame : AlarmFrame) (faults : ProcessFaults)
  | die (frame : AlarmFrame) (faults : ProcessFaults) (moment : ℕ)
  | stop
  | changeEngine (engine : Engine)
  | start (choices : StartChoices)
  | dieStarting (choices : StartChoices) (moment : ℕ)

namespace CollectorRun

def noteInbox (log : List (AlarmIdentity × Bytes)) (identity : AlarmIdentity)
    (before after : AlarmSpool) : List (AlarmIdentity × Bytes) :=
  match before.data.lookup identity.inboxPath, after.data.lookup identity.inboxPath with
  | none, some content => log ++ [(identity, content)]
  | _, _ => log

/-- The observer notes what the processing of the frame has done to the inbox. -/
def noteFrame (run : CollectorRun) (frame : AlarmFrame) (faults : ProcessFaults)
    (collector : Collector) : CollectorRun :=
  { run with
    collector
    inboxLog := noteInbox run.inboxLog (identityOf frame) run.collector.spool collector.spool
    corrupt := run.corrupt ++
      AlarmSpool.corruptFiles (ReadSound frame faults) run.collector.spool collector.spool }

def noteStart (run : CollectorRun) (choices : StartChoices) (collector : Collector) :
    CollectorRun :=
  { run with
    collector
    corrupt := run.corrupt ++
      AlarmSpool.corruptFiles (RecoverSound choices.recover) run.collector.spool collector.spool
    history := run.history ++ run.collector.ingested
    acks := [] }

def step (run : CollectorRun) : CollectorEvent → CollectorRun
  | .receive frame faults =>
    if run.collector.active then
      let done := (processFrame frame faults).exec run.collector
      { run.noteFrame frame faults done.final with acks := run.acks ++ acknowledged done.value }
    else run
  | .die frame faults moment =>
    if run.collector.active then
      let visited := ((processFrame frame faults).exec run.collector).visited
      run.noteFrame frame faults
        { visited.getD moment run.collector with active := false, accepted := [] }
    else run
  | .stop => { run with collector := { run.collector with active := false } }
  | .changeEngine engine => { run with collector := { run.collector with engine := engine } }
  | .start choices =>
    if run.collector.active then run
    else run.noteStart choices ((initializeCollector choices).exec run.collector).final
  | .dieStarting choices moment =>
    if run.collector.active then run
    else
      let done := (initializeCollector choices).exec run.collector
      run.noteStart choices
        { done.visited.getD moment done.final with active := false, accepted := [] }

def initial (engine : Engine) (pid : ℕ) : CollectorRun where
  collector := ⟨engine, .fresh .inbox 0 pid, [], false, []⟩
  inboxLog := []
  corrupt := []
  history := []
  acks := []

/-! ## The inbox and its log -/

/-- Every file of the inbox is an alarm of its identity and in the log, and the file of a log
entry is there, unless it was found corrupt. -/
structure InboxLogged (log : List (AlarmIdentity × Bytes)) (corrupt : List Bytes)
    (spool : AlarmSpool) : Prop where
  kind : spool.kind = .inbox
  once : log.Pairwise fun first second => first.1 = second.1 → first.1.inboxPath ∈ corrupt
  logged : ∀ identity content, spool.data.lookup identity.inboxPath = some content →
    (identity, content) ∈ log
  stays : ∀ identity content, (identity, content) ∈ log → identity.inboxPath ∈ corrupt ∨
    spool.data.lookup identity.inboxPath = some content
  files : ∀ path content, spool.data.lookup path = some content →
    ∃ identity, path = identity.inboxPath ∧ Acceptable identity content

variable {log : List (AlarmIdentity × Bytes)} {corrupt lost : List Bytes}
  {first late : AlarmSpool} {identity : AlarmIdentity} {content : Bytes} {run : CollectorRun}
  {frame : AlarmFrame} {faults : ProcessFaults} {choices : StartChoices} {entry : Ingested}

/-- Files have left the inbox, and all of them are in `lost`. -/
lemma InboxLogged.shrink (hlogged : InboxLogged log corrupt first) (hkind : late.kind = first.kind)
    (hget : ∀ path content, late.data.lookup path = some content →
      first.data.lookup path = some content)
    (hlost : ∀ path content, first.data.lookup path = some content →
      path ∈ lost ∨ late.data.lookup path ≠ none) : InboxLogged log (corrupt ++ lost) late where
  kind := hkind.trans hlogged.kind
  once := hlogged.once.imp fun hcorrupt hsame => mem_append_left _ (hcorrupt hsame)
  logged := fun identity content h => hlogged.logged identity content (hget _ _ h)
  stays := by
    intro identity content hmem
    rcases hlogged.stays identity content hmem with hcorrupt | hfile
    · exact .inl (mem_append_left _ hcorrupt)
    · refine (hlost _ _ hfile).imp (mem_append_right _) fun hthere => ?_
      obtain ⟨found, hfound⟩ := Option.ne_none_iff_exists'.mp hthere
      rw [hfound, ← hfile, hget _ _ hfound]
  files := fun path content h => hlogged.files path content (hget _ _ h)

/-- A file has appeared under a path that was free. -/
lemma InboxLogged.add (hlogged : InboxLogged log corrupt first) (hkind : late.kind = first.kind)
    (hfree : first.data.lookup identity.inboxPath = none)
    (hfile : late.data.lookup identity.inboxPath = some content)
    (hacceptable : Acceptable identity content)
    (hothers : ∀ path, path ≠ identity.inboxPath →
      late.data.lookup path = first.data.lookup path) :
    InboxLogged (log ++ [(identity, content)]) (corrupt ++ lost) late := by
  have hgone : ∀ content, (identity, content) ∈ log → identity.inboxPath ∈ corrupt := by
    intro content hmem
    exact (hlogged.stays identity content hmem).resolve_right (by simp [hfree])
  refine ⟨hkind.trans hlogged.kind, ?_, ?_, ?_, ?_⟩
  · rw [pairwise_append]
    refine ⟨hlogged.once.imp fun h hsame => mem_append_left _ (h hsame), pairwise_singleton _ _, ?_⟩
    rintro ⟨earlier, found⟩ hmem _ hlast (rfl : earlier = _)
    obtain rfl := mem_singleton.mp hlast
    exact mem_append_left _ (hgone found hmem)
  · intro other found hfound
    by_cases hsame : other = identity
    · rw [hsame, hfile, Option.some_inj] at hfound
      simp [hsame, hfound]
    · rw [hothers _ fun hpath => hsame (inboxPath_injective hpath)] at hfound
      exact mem_append_left _ (hlogged.logged other found hfound)
  · intro other found hmem
    by_cases hsame : other = identity
    · subst hsame
      rcases mem_append.mp hmem with hold | hlast
      · exact .inl (mem_append_left _ (hgone found hold))
      · simp only [mem_singleton, Prod.mk.injEq, true_and] at hlast
        exact .inr (hlast ▸ hfile)
    · rw [hothers _ fun hpath => hsame (inboxPath_injective hpath)]
      have hold : (other, found) ∈ log := by simpa [hsame] using hmem
      exact (hlogged.stays other found hold).imp_left (mem_append_left _)
  · intro path found hfound
    by_cases hpath : path = identity.inboxPath
    · rw [hpath, hfile, Option.some_inj] at hfound
      exact ⟨identity, hpath, hfound ▸ hacceptable⟩
    · exact hlogged.files path found (hothers path hpath ▸ hfound)

lemma InboxLogged.note (hlogged : InboxLogged log corrupt first)
    (hbounds : InboxBounds frame faults first late) :
    InboxLogged (noteInbox log (identityOf frame) first late)
      (corrupt ++ AlarmSpool.corruptFiles (ReadSound frame faults) first late) late := by
  have hothers : ∀ path, path ≠ (identityOf frame).inboxPath →
      late.data.lookup path = first.data.lookup path :=
    fun path hne => hbounds.within.data.lookup_of_ne hne
  have hshrink : (∀ content, late.data.lookup (identityOf frame).inboxPath = some content →
        first.data.lookup (identityOf frame).inboxPath = some content) →
      InboxLogged log (corrupt ++ AlarmSpool.corruptFiles (ReadSound frame faults) first late)
        late := by
    intro hself
    refine hlogged.shrink hbounds.within.kind (fun path content h => ?_) fun path content h =>
      AlarmSpool.mem_corruptFiles_or h fun hsound => by simp [hbounds.kept_of_readSound h hsound]
    by_cases hpath : path = (identityOf frame).inboxPath
    · exact hpath ▸ hself content (hpath ▸ h)
    · exact hothers path hpath ▸ h
  unfold noteInbox
  split
  · next content hfree hfile =>
      rcases hbounds.within.data.lookup_self hfile with hold | ⟨-, hacceptable⟩
      · simp [hfree] at hold
      · exact hlogged.add hbounds.within.kind hfree hfile hacceptable hothers
  · next hkept =>
      refine hshrink fun content hfile => ?_
      cases hold : first.data.lookup (identityOf frame).inboxPath with
      | none => exact absurd hfile (hkept content hold)
      | some found =>
        have hremoves := hbounds.taken (by simp [hold])
        rw [← hold, (hremoves.data.of_lookup_eq_some hfile).1]

lemma mem_noteInbox (hmem : (identity, content) ∈ log) :
    (identity, content) ∈ noteInbox log (identityOf frame) first late := by
  unfold noteInbox
  split
  · exact mem_append_left _ hmem
  · exact hmem

lemma InboxLogged.cleared (hlogged : InboxLogged log corrupt first)
    (hcleared : Cleared choices.recover first late) :
    InboxLogged log (corrupt ++ AlarmSpool.corruptFiles (RecoverSound choices.recover) first late)
      late :=
  hlogged.shrink hcleared.kind (fun path content h => (hcleared.visible path content h).1)
    fun path content h => AlarmSpool.mem_corruptFiles_or h fun hsound => by
      simp [hcleared.kept path content h hsound]

/-! ## The invariant -/

def Persisted (log : List (AlarmIdentity × Bytes)) (entry : Ingested) : Prop :=
  ∃ content, (entry.identity, content) ∈ log ∧ recordOf content = some entry.record

/-- The file of the identity is in the inbox, and the engine has taken its record. -/
def Taken (collector : Collector) (identity : AlarmIdentity) : Prop :=
  ∃ content, collector.spool.data.lookup identity.inboxPath = some content ∧
    ∃ entry ∈ collector.ingested, entry.identity = identity ∧
      recordOf content = some entry.record ∧ ingestSucceeded entry.status = true

/-- What the engine was given comes from logged files, and what is accepted or acknowledged is
taken. -/
structure Idempotent (run : CollectorRun) : Prop where
  inbox : InboxLogged run.inboxLog run.corrupt run.collector.spool
  history : ∀ entry ∈ run.history, Persisted run.inboxLog entry
  ingested : ∀ entry ∈ run.collector.ingested, Persisted run.inboxLog entry
  accepted : ∀ identity ∈ run.collector.accepted, Taken run.collector identity
  acks : ∀ identity ∈ run.acks, Taken run.collector identity
  known : run.collector.active = true → ∀ identity ∈ run.acks, identity ∈ run.collector.accepted

lemma Persisted.note (hpersisted : Persisted log entry) :
    Persisted (noteInbox log (identityOf frame) first late) entry := by
  obtain ⟨content, hmem, hrecord⟩ := hpersisted
  exact ⟨content, mem_noteInbox hmem, hrecord⟩

/-- The file of an identity that was accepted before is not touched. -/
lemma Taken.after_frame {collector later : Collector} (htaken : Taken collector identity)
    (hbounds : InboxBounds frame faults collector.spool later.spool)
    (hknown : identity = identityOf frame → later.spool = collector.spool)
    (hgrows : ∀ entry ∈ collector.ingested, entry ∈ later.ingested) : Taken later identity := by
  obtain ⟨content, hfile, entry, hentry, hfacts⟩ := htaken
  refine ⟨content, ?_, entry, hgrows entry hentry, hfacts⟩
  by_cases hsame : identity = identityOf frame
  · rw [hknown hsame, hfile]
  · rw [hbounds.within.data.lookup_of_ne fun hpath => hsame (inboxPath_injective hpath), hfile]

lemma identity_of_foundIn {item : RecoveryItem} (hlogged : InboxLogged log corrupt first)
    (hfound : FoundIn first item) : ∃ content,
      first.data.lookup (identityOf item.frame).inboxPath = some content ∧
        recordOf content = some item.record := by
  obtain ⟨content, hget, hdecode, hreliable⟩ := hfound
  obtain ⟨identity, hpath, ⟨frame, hframe, -, hsource, hmessage⟩, -⟩ :=
    hlogged.files _ content hget
  -- the path and the frame in the file name the same identity
  have hsame : identityOf item.frame = identity := by
    rw [hdecode, Except.ok.injEq] at hframe
    rw [hframe, identityOf, hsource, hmessage]
  exact ⟨content, by rw [hsame, ← hpath, hget], by simp [recordOf, hdecode, hreliable]⟩

section

variable (hinv : run.Idempotent)
include hinv

lemma Idempotent.after_frame {later : Collector} {answers : List AlarmIdentity}
    (hbounds : InboxBounds frame faults run.collector.spool later.spool)
    (hgrows : ∀ entry ∈ run.collector.ingested, entry ∈ later.ingested)
    (hingested : ∀ entry ∈ later.ingested, entry ∈ run.collector.ingested ∨
      ∃ content record status, Provides frame run.collector.spool later.spool content ∧
        recordOf content = some record ∧ entry = ⟨identityOf frame, record, status⟩)
    (hknown : identityOf frame ∈ run.collector.accepted → later.spool = run.collector.spool)
    (hacc : ∀ identity ∈ later.accepted,
      identity ∈ run.collector.accepted ∨ Taken later identity)
    (hacks : ∀ identity ∈ answers, identity ∈ run.collector.accepted ∨ Taken later identity)
    (hactive : later.active = true → ∀ identity ∈ answers, identity ∈ later.accepted) :
    { run.noteFrame frame faults later with acks := answers }.Idempotent := by
  have hlogged := hinv.inbox.note hbounds
  have htaken : ∀ identity, identity ∈ run.collector.accepted ∨ Taken later identity →
      Taken later identity := by
    rintro identity (hold | hnew)
    · exact (hinv.accepted identity hold).after_frame hbounds
        (fun hsame => hknown (hsame ▸ hold)) hgrows
    · exact hnew
  refine ⟨hlogged, fun entry hent => (hinv.history entry hent).note, ?_,
    fun identity hmem => htaken identity (hacc identity hmem),
    fun identity hmem => htaken identity (hacks identity hmem), hactive⟩
  intro entry hent
  rcases hingested entry hent with hold | ⟨content, record, status, hprovides, hrecord, rfl⟩
  · exact (hinv.ingested entry hold).note
  · exact ⟨content, hlogged.logged _ _ hprovides.lookup, hrecord⟩

lemma Idempotent.processed {answer : Option QueuedControl} {later : Collector}
    (hactive : run.collector.active = true)
    (hend : ProcessEnd frame faults run.collector answer later) :
    { run.noteFrame frame faults later with
      acks := run.acks ++ acknowledged answer }.Idempotent := by
  have hacks := hinv.known hactive
  cases hend with
  | refused hbounds hknown =>
    simp only [acknowledged, append_nil]
    exact hinv.after_frame hbounds (fun _ h => h) (fun _ h => .inl h) hknown (fun _ h => .inl h)
      (fun identity hmem => .inl (hacks identity hmem)) hinv.known
  | known hacc =>
    have hall : ∀ identity ∈ run.acks ++ acknowledged (queueControl .ack frame),
        identity ∈ run.collector.accepted := by
      intro identity hmem
      rcases mem_append.mp hmem with hmem | hmem
      · exact hacks identity hmem
      · exact eq_of_mem_acknowledged_ack hmem ▸ hacc
    exact hinv.after_frame (.refl _ faults _) (fun _ h => h) (fun _ h => .inl h) (fun _ => rfl)
      (fun _ h => .inl h) (fun identity hmem => .inl (hall identity hmem)) fun _ => hall
  | @applied spool content record hnew hbounds hprovides hrecord =>
    have htaken : ∀ identity, identity = identityOf frame ∧ ingestSucceeded
          (ingestDecodedRecord run.collector.engine record true default).1.status →
        Taken (run.collector.applied spool (identityOf frame) record) identity := by
      rintro identity ⟨rfl, hok⟩
      exact ⟨content, hprovides.lookup, _, mem_append_right _ (mem_singleton_self _), rfl, hrecord,
        hok⟩
    have hanswer : ∀ identity ∈ run.acks ++ acknowledged (if ingestSucceeded
          (ingestDecodedRecord run.collector.engine record true default).1.status = true
            then queueControl .ack frame else none),
        identity ∈ run.collector.accepted ∨ identity = identityOf frame ∧ ingestSucceeded
          (ingestDecodedRecord run.collector.engine record true default).1.status := by
      intro identity hmem
      refine (mem_append.mp hmem).imp (hacks identity) fun hmem => ?_
      split_ifs at hmem with hok
      · exact ⟨eq_of_mem_acknowledged_ack hmem, hok⟩
      · simp [acknowledged] at hmem
    refine hinv.after_frame hbounds (fun _ h => mem_append_left _ h) (fun entry hent => ?_)
      (fun h => absurd h hnew)
      (fun identity hmem => (mem_accepted_applied.mp hmem).imp_right (htaken identity))
      (fun identity hmem => (hanswer identity hmem).imp_right (htaken identity))
      fun _ identity hmem => mem_accepted_applied.mpr (hanswer identity hmem)
    refine (mem_append.mp hent).imp_right fun hent => ?_
    exact ⟨content, record, _, hprovides, hrecord, mem_singleton.mp hent⟩

lemma Idempotent.died {state : Collector} (hactive : run.collector.active = true)
    (hmoment : Moment frame faults run.collector state) :
    (run.noteFrame frame faults { state with active := false, accepted := [] }).Idempotent := by
  refine hinv.after_frame hmoment.bounds (fun entry hent => ?_) (fun entry hent => ?_)
    hmoment.known (by simp) (fun identity hmem => .inl (hinv.known hactive identity hmem))
    (by simp)
  · rcases hmoment.ingested with hsame | ⟨_, _, _, -, -, hmore⟩
    · exact hsame ▸ hent
    · exact hmore ▸ mem_append_left _ hent
  · rcases hmoment.ingested with hsame | ⟨content, record, status, hprovides, hrecord, hmore⟩
    · exact .inl (hsame ▸ hent)
    · refine (mem_append.mp (hmore ▸ hent)).imp_right fun hent => ?_
      exact ⟨content, record, status, hprovides, hrecord, mem_singleton.mp hent⟩

lemma Idempotent.started {state later : Collector}
    (hstarting : Starting choices run.collector state)
    (hspool : later.spool = state.spool) (hingested : later.ingested = state.ingested)
    (hacc : ∀ identity ∈ later.accepted, identity ∈ state.accepted) :
    (run.noteStart choices later).Idempotent := by
  have hlogged := hinv.inbox.cleared hstarting.cleared
  rw [← hspool] at hlogged
  have hfound : ∀ entry ∈ later.ingested, ∃ content,
      later.spool.data.lookup entry.identity.inboxPath = some content ∧
        recordOf content = some entry.record := by
    intro entry hent
    obtain ⟨item, hitem, hid, hrecord⟩ := hstarting.entries entry (hingested ▸ hent)
    rw [hid, hrecord]
    exact identity_of_foundIn hlogged (hspool ▸ hitem)
  refine ⟨hlogged, fun entry hent => ?_, fun entry hent => ?_, fun identity hmem => ?_, nofun,
    fun _ => nofun⟩
  · exact (mem_append.mp hent).elim (hinv.history entry) (hinv.ingested entry)
  · obtain ⟨content, hfile, hrecord⟩ := hfound entry hent
    exact ⟨content, hlogged.logged _ _ hfile, hrecord⟩
  · obtain ⟨entry, hent, rfl, hok⟩ := hstarting.accepted identity (hacc identity hmem)
    rw [← hingested] at hent
    obtain ⟨content, hfile, hrecord⟩ := hfound entry hent
    exact ⟨content, hfile, entry, hent, rfl, hrecord, hok⟩

lemma Idempotent.step (event : CollectorEvent) : (run.step event).Idempotent := by
  cases event with unfold CollectorRun.step
  | receive frame faults =>
    split_ifs with hactive
    · have hend := (processFrame_meets frame faults run.collector hinv.inbox.kind).2
      rcases hend with hend | ⟨hanswer, hsame⟩
      · exact hinv.processed hactive hend
      · dsimp only
        rw [hanswer, hsame, acknowledged_pong, append_nil]
        exact hinv.after_frame (.refl _ faults _) (fun _ h => h) (fun _ h => .inl h) (fun _ => rfl)
          (fun _ h => .inl h) (fun identity hmem => .inl (hinv.known hactive identity hmem))
          hinv.known
    · exact hinv
  | die frame faults moment =>
    split_ifs with hactive
    · have hmeets := processFrame_meets frame faults run.collector hinv.inbox.kind
      exact hinv.died hactive
        (hmeets.getD_visited ⟨.refl _ _ _, fun _ => rfl, .inl rfl⟩ moment)
    · exact hinv
  | stop => exact { hinv with known := by simp }
  | changeEngine engine => exact { hinv with }
  | start choices =>
    split_ifs
    · exact hinv
    · exact hinv.started (initializeCollector_meets choices run.collector).2 rfl rfl fun _ h => h
  | dieStarting choices moment =>
    split_ifs
    · exact hinv
    · have hmeets := initializeCollector_meets choices run.collector
      exact hinv.started (hmeets.getD_visited hmeets.2 moment) rfl rfl (by simp)

end

lemma idempotent_initial (engine : Engine) (pid : ℕ) : (initial engine pid).Idempotent where
  inbox :=
    ⟨rfl, .nil, fun _ _ h => by simp [initial, AlarmSpool.fresh, DurableDirectory.lookup,
      DurableDirectory.empty] at h, by simp [initial], fun _ _ h => by simp [initial,
      AlarmSpool.fresh, DurableDirectory.lookup, DurableDirectory.empty] at h⟩
  history := by simp [initial]
  ingested := by simp [initial]
  accepted := by simp [initial]
  acks := by simp [initial]
  known := by simp [initial]

/-- Whatever arrives, fails, dies and is started again: an identity gets one file in the inbox,
which stays, unless that file was found corrupt; every record an engine was given is the one in
a file of its identity; and an identity is only acknowledged when its file is there and the engine
has taken its record. -/
theorem collector_idempotent (engine : Engine) (pid : ℕ) (events : List CollectorEvent) :
    let run := Library.run CollectorRun.step (initial engine pid) events
    (run.inboxLog.Pairwise fun first second =>
      first.1 = second.1 → first.1.inboxPath ∈ run.corrupt) ∧
    (∀ identity content, identity.inboxPath ∉ run.corrupt →
      ((identity, content) ∈ run.inboxLog ↔
        run.collector.spool.data.lookup identity.inboxPath = some content)) ∧
    (∀ entry ∈ run.history ++ run.collector.ingested, ∃ content,
      (entry.identity, content) ∈ run.inboxLog ∧ recordOf content = some entry.record) ∧
    ∀ identity ∈ run.acks, ∃ content,
      run.collector.spool.data.lookup identity.inboxPath = some content ∧
        ∃ entry ∈ run.collector.ingested, entry.identity = identity ∧
          recordOf content = some entry.record ∧ ingestSucceeded entry.status = true := by
  intro run
  have hstep : ∀ (run : CollectorRun) (event : CollectorEvent), run.Idempotent →
      (run.step event).Idempotent := fun _ event hinv => hinv.step event
  have hinv : run.Idempotent := run_invariant hstep (idempotent_initial engine pid) events
  refine ⟨hinv.inbox.once, fun identity content hsound => ⟨fun hmem => ?_, ?_⟩, ?_, hinv.acks⟩
  · exact (hinv.inbox.stays identity content hmem).resolve_left hsound
  · exact hinv.inbox.logged identity content
  · intro entry hentry
    exact (mem_append.mp hentry).elim (hinv.history entry) (hinv.ingested entry)

/-! ## A corrupt file -/

def changeTo (value : UInt32) : AlarmFrame :=
  ⟨.alarm, 1, ⟨replicate alarmMessageIdSize 5, length_replicate⟩, 0,
    v2Wire ⟨⟨default, [], .numeric ⟨value, 2⟩⟩, default⟩⟩

def startReading (damage : Option Bytes) : CollectorEvent :=
  .start ⟨1, none, .clean, none, [],
    fun _ => { RecoverFaults.clean with read := { AlarmSpool.ReadFaults.clean with damage } }, none⟩

/-- The file of the first frame is found corrupt at the second start. The second frame has the
same identity and another payload, and it is stored, applied and acknowledged. -/
theorem corrupt_identity_rewritten :
    let run := Library.run step (initial ⟨.running, some .empty⟩ 1)
      [startReading none, .receive (changeTo 1) .clean, .stop, startReading (some []),
        .receive (changeTo 2) .clean]
    identityOf (changeTo 1) = identityOf (changeTo 2) ∧
      run.inboxLog = [(identityOf (changeTo 1), alarmWire (changeTo 1)),
        (identityOf (changeTo 2), alarmWire (changeTo 2))] ∧
      run.corrupt = [(identityOf (changeTo 1)).inboxPath] ∧
      (run.history ++ run.collector.ingested).map (fun entry => entry.record.data.value) =
        [.numeric ⟨1, 2⟩, .numeric ⟨2, 2⟩] ∧
      run.acks = [identityOf (changeTo 2)] := by
  decide +kernel

end CollectorRun

end Tlss.Monitor
