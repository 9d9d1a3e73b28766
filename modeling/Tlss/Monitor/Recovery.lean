import Tlss.Monitor.Collector

/-!
# Starting a collector

`recover_inbox` and the part of `initialize` around it. On start-up the inbox is
read, sorted by time, source and message id, and handed to the engine again;
files that are no reliable alarms are put away.

`recoverInbox_meets` says what a recovery may have done at any moment, whatever
goes wrong: only files that are not sound have left the inbox, and what the
engine was given and what was accepted comes from files that were there.
-/

namespace Tlss.Monitor

open Library List
open CrashProgram (meets_atomic_bind meets_bind meets_peek_bind meets_pure)

namespace Collector

/-! ## Reading the inbox -/

structure RecoveryItem where
  path : Bytes
  frame : AlarmFrame
  record : DecodedRecord
deriving DecidableEq, Repr

/-- The order of the recovery: time, then source, then message id. -/
def RecoveryItem.precedes (lhs rhs : RecoveryItem) : Bool :=
  lhs.frame.timestampMs < rhs.frame.timestampMs ||
    (lhs.frame.timestampMs == rhs.frame.timestampMs &&
      (lhs.frame.sourceId < rhs.frame.sourceId ||
        (lhs.frame.sourceId == rhs.frame.sourceId &&
          decide (lhs.frame.messageId.bytes < rhs.frame.messageId.bytes))))

structure RecoverFaults where
  read : AlarmSpool.ReadFaults
  resolve : Option ℤ
  move : AlarmSpool.MoveFaults
deriving DecidableEq, Repr

def RecoverFaults.clean : RecoverFaults := ⟨.clean, none, .clean⟩

/-- A file of the inbox that is not a reliable alarm is put away; `none` means
that this failed and the recovery with it. -/
def putAway (path : Bytes) (faults : RecoverFaults) : CrashProgram AlarmSpool Bool := do
  let quarantined ← AlarmSpool.quarantine path faults.resolve faults.move
  pure (quarantined.status == .success)

/-- The first loop of `recover_inbox`: read every path. `none` is a failure. -/
def readInbox (faults : Bytes → RecoverFaults) (records : List RecoveryItem) :
    List Bytes → CrashProgram AlarmSpool (Option (List RecoveryItem))
  | [] => pure (some records)
  | path :: paths => do
      let stored ← AlarmSpool.read path (faults path).read
      if stored.status = .corrupt then readInbox faults records paths
      else if stored.status ≠ .success then pure none
      else
        match decodeAlarmFrame stored.bytes with
        | .error _ =>
          if ← putAway stored.path (faults path) then readInbox faults records paths
          else pure none
        | .ok frame =>
          match decodeReliablePayload frame with
          | none =>
            if ← putAway stored.path (faults path) then readInbox faults records paths
            else pure none
          | some record =>
            readInbox faults (records ++ [⟨stored.path, frame, record⟩]) paths

/-- The second loop of `recover_inbox`: hand the sorted records to the engine. -/
def ingestAll : List RecoveryItem → CrashProgram Collector Bool
  | [] => pure true
  | item :: items => do
      let status ← ingest (identityOf item.frame) item.record
      if ingestSucceeded status then
        accept (identityOf item.frame)
        ingestAll items
      else pure false

/-- `std::sort` by `precedes`; the keys of an inbox are distinct, so the result
does not depend on the algorithm. -/
def sortRecords (records : List RecoveryItem) : List RecoveryItem :=
  records.insertionSort fun lhs rhs => rhs.precedes lhs = false

/-- `recover_inbox`, over the paths the directory iterator returned. -/
def recoverInbox (paths : List Bytes) (faults : Bytes → RecoverFaults) :
    CrashProgram Collector Bool := do
  match ← onSpool (readInbox faults [] paths) with
  | none => pure false
  | some records => ingestAll (sortRecords records)

/-! ## Starting -/

/-- The things outside the recovery that a start depends on: the process id, the
order in which the iterator returns the files, and what may fail. -/
structure StartChoices where
  pid : ℕ
  setup : Option ℤ
  clear : AlarmSpool.MoveFaults
  iterate : Option ℤ
  order : List Bytes
  recover : Bytes → RecoverFaults
  listen : Option ℤ

/-- `collect_recovery_paths`: the files of the inbox, in some order. -/
def collectRecoveryPaths (spool : AlarmSpool) (order : List Bytes) : List Bytes :=
  if order.Perm (spool.data.files.map Prod.fst) then order else spool.data.files.map Prod.fst

/-- `ReliableAlarmCollector::Impl::initialize`: a new object has accepted nothing
yet, and serves only after the inbox has been recovered. -/
def initializeCollector (choices : StartChoices) : CrashProgram Collector Bool := do
  .atomic fun collector =>
    ((), { collector with accepted := [], ingested := [], active := false })
  let collector ← .peek id
  if !collector.engine.phase.acceptsDataWrite then pure false
  else
    onSpool (AlarmSpool.initializeSpool choices.pid choices.setup choices.clear)
    let collector ← .peek id
    if !collector.spool.ready then pure false
    else
      match choices.iterate with
      | some _ => pure false
      | none =>
        let recovered ←
          recoverInbox (collectRecoveryPaths collector.spool choices.order) choices.recover
        if !recovered then pure false
        else
          match choices.listen with
          | some _ => pure false
          | none =>
            .atomic fun collector => ((), { collector with active := true })
            pure true

/-! ## What a recovery can do -/

def RecoverSound (faults : Bytes → RecoverFaults) (name content : Bytes) : Prop :=
  Sound (faults name).read content

instance (faults : Bytes → RecoverFaults) (name content : Bytes) :
    Decidable (RecoverSound faults name content) :=
  inferInstanceAs (Decidable (Sound _ _))

/-- Files have left the inbox at most, and the sound ones have stayed. -/
structure Cleared (faults : Bytes → RecoverFaults) (first later : AlarmSpool) : Prop where
  kind : later.kind = first.kind
  mayHold : ∀ name content, later.data.MayHold name (some content) →
    first.data.MayHold name (some content)
  visible : ∀ name content, later.data.lookup name = some content →
    first.data.lookup name = some content ∧
      ∀ found, later.data.MayHold name found → first.data.MayHold name found
  kept : ∀ name content, first.data.lookup name = some content →
    Sound (faults name).read content → later.data.lookup name = some content

variable {faults : Bytes → RecoverFaults}

lemma Cleared.of_data_eq {first late : AlarmSpool} (hkind : late.kind = first.kind)
    (hdata : late.data = first.data) : Cleared faults first late :=
  ⟨hkind, fun _ _ hmay => hdata ▸ hmay, fun _ _ hget => ⟨hdata ▸ hget, fun _ hmay => hdata ▸ hmay⟩,
    fun _ _ hget _ => hdata.symm ▸ hget⟩

lemma Cleared.trans {first second third : AlarmSpool} (hearly : Cleared faults first second)
    (hlate : Cleared faults second third) : Cleared faults first third where
  kind := hlate.kind.trans hearly.kind
  mayHold := fun name body hmay => hearly.mayHold name body (hlate.mayHold name body hmay)
  visible := fun name body hget => by
    obtain ⟨hsecond, hmay⟩ := hlate.visible name body hget
    obtain ⟨hfirst, hmay'⟩ := hearly.visible name body hsecond
    exact ⟨hfirst, fun found hfound => hmay' found (hmay found hfound)⟩
  kept := fun name body hget hs =>
    hlate.kept name body (hearly.kept name body hget hs) hs

lemma Cleared.of_removes {first late : AlarmSpool} {path : Bytes}
    (hrem : AlarmSpool.Removes path first late)
    (hkept : ∀ body, first.data.lookup path = some body → Sound (faults path).read body →
      late.data = first.data) : Cleared faults first late where
  kind := hrem.kind
  mayHold := fun name body hmay => (hrem.data.mayHold_some hmay).resolve_right (by simp)
  visible := fun name body hget => by
    by_cases hname : name = path
    · subst hname
      exact hrem.data.of_lookup_eq_some hget
    · exact ⟨hrem.data.lookup_of_ne hname ▸ hget,
        fun found hmay => hrem.data.mayHold_of_ne hname hmay⟩
  kept := fun name body hget hs => by
    by_cases hname : name = path
    · subst hname
      rw [hkept body hget hs, hget]
    · rw [hrem.data.lookup_of_ne hname, hget]

def FoundIn (spool : AlarmSpool) (item : RecoveryItem) : Prop :=
  ∃ content, spool.data.lookup item.path = some content ∧
    decodeAlarmFrame content = .ok item.frame ∧ decodeReliablePayload item.frame = some item.record

lemma putAway_meets {first sp : AlarmSpool} {path body : Bytes}
    (hcleared : Cleared faults first sp) (hget : sp.data.lookup path = some body)
    (hrecord : recordOf body = none) :
    (putAway path (faults path)).Meets sp (Cleared faults first) fun _ late =>
      Cleared faults first late := by
  have haway : ∀ late, AlarmSpool.Removes path sp late → Cleared faults first late := by
    refine fun late hrem => hcleared.trans (.of_removes hrem ?_)
    intro found hfound hs
    rw [hget, Option.some_inj] at hfound
    simp [← hfound, Sound, hrecord] at hs
  refine meets_bind ((AlarmSpool.quarantine_meets path _ _ sp).mono haway
    fun _ late hrem => haway late hrem) ?_
  exact fun _ late hlat => meets_pure hlat

/-- The item was read from a sound file, so it is there as long as nothing but a recovery
happens. -/
def ReadFrom (faults : Bytes → RecoverFaults) (spool : AlarmSpool) (item : RecoveryItem) : Prop :=
  ∀ later, Cleared faults spool later → FoundIn later item

/-- The first loop keeps every sound file, and its items are read from such files. -/
lemma readInbox_meets (first : AlarmSpool) (paths : List Bytes) :
    ∀ (records : List RecoveryItem) (sp : AlarmSpool), Cleared faults first sp →
      (∀ item ∈ records, ReadFrom faults first item) →
      (readInbox faults records paths).Meets sp (Cleared faults first) fun read late =>
        Cleared faults first late ∧
          ∀ items, read = some items → ∀ item ∈ items, ReadFrom faults first item := by
  induction paths with
  | nil =>
    intro records sp hcleared hrecords
    refine meets_pure ⟨hcleared, ?_⟩
    rintro items ⟨rfl⟩
    exact hrecords
  | cons path paths ih =>
    intro records sp hcleared hrecords
    have hintact : ∀ body, sp.data.lookup path = some body →
        Sound (faults path).read body → AlarmSpool.Intact sp path (faults path).read := by
      intro body hget hs other hother
      rw [hget, Option.some_inj] at hother
      exact hother ▸ hs.1
    refine meets_bind ((AlarmSpool.read_meets path (faults path).read sp).mono
      (fun late hlat => hcleared.trans (.of_removes hlat.1 fun body hget hs =>
        hlat.2 (hintact body hget hs))) fun _ _ hpost => hpost) ?_
    intro stored late hpost
    have hlat : Cleared faults first late :=
      hcleared.trans (.of_removes hpost.removes fun body hget hs =>
        hpost.intact (hintact body hget hs))
    split_ifs with hcorrupt hfailed
    · exact ih records late hlat hrecords
    · exact meets_pure ⟨hlat, by simp⟩
    obtain ⟨hpath, hdata, hget, hwire⟩ := hpost.success (not_not.mp hfailed)
    rw [hpath]
    have hskip : recordOf stored.bytes = none →
        (do if ← putAway path (faults path) then readInbox faults records paths
            else pure none : CrashProgram AlarmSpool (Option (List RecoveryItem))).Meets late
          (Cleared faults first) fun read late => Cleared faults first late ∧
            ∀ items, read = some items → ∀ item ∈ items, ReadFrom faults first item := by
      intro hrecord
      refine meets_bind (putAway_meets hlat (by rw [hdata, hget]) hrecord) ?_
      intro quarantined latest hlatest
      split_ifs
      · exact ih records latest hlatest hrecords
      · exact meets_pure ⟨hlatest, by simp⟩
    cases hdecode : decodeAlarmFrame stored.bytes with
    | error status => exact hskip (by simp [recordOf, hdecode])
    | ok frame =>
      dsimp only
      cases hreliable : decodeReliablePayload frame with
      | none => exact hskip (by simp [recordOf, hdecode, hreliable])
      | some record =>
        refine ih _ late hlat ?_
        intro item hitem
        rcases mem_append.mp hitem with hitem | hitem
        · exact hrecords item hitem
        · obtain rfl := mem_singleton.mp hitem
          have hsound : Sound (faults path).read stored.bytes :=
            ⟨hwire, by simp [recordOf, hdecode, hreliable]⟩
          exact fun later hlater => ⟨stored.bytes,
            hlater.kept path _ (hcleared.visible path _ hget).1 hsound, hdecode, hreliable⟩

/-- Records of these items are given to the engine. -/
structure Ingesting (items : List RecoveryItem) (first later : Collector) : Prop where
  spool : later.spool = first.spool
  entries : ∀ entry ∈ later.ingested, entry ∈ first.ingested ∨
    ∃ item ∈ items, entry.identity = identityOf item.frame ∧ entry.record = item.record
  accepted : ∀ identity ∈ later.accepted, identity ∈ first.accepted ∨
    ∃ entry ∈ later.ingested, entry.identity = identity ∧ ingestSucceeded entry.status = true

lemma Ingesting.refl (items : List RecoveryItem) (coll : Collector) : Ingesting items coll coll :=
  ⟨rfl, fun _ h => .inl h, fun _ h => .inl h⟩

/-- The second loop gives the engine items, and accepts what the engine took. -/
lemma ingestAll_meets (items : List RecoveryItem) (first : Collector) (rest : List RecoveryItem)
    (hrest : ∀ item ∈ rest, item ∈ items) : ∀ s, Ingesting items first s →
      (ingestAll rest).Meets s (Ingesting items first) fun _ late =>
        Ingesting items first late := by
  induction rest with
  | nil => exact fun s hstate => meets_pure hstate
  | cons item rest ih =>
    intro s hstate
    obtain ⟨hitem, hrest⟩ := forall_mem_cons.mp hrest
    have hentries : ∀ (coll : Collector) (status : UpdateStatus), coll.spool = s.spool →
        coll.ingested = s.ingested ++ [⟨identityOf item.frame, item.record, status⟩] →
        (∀ ident ∈ coll.accepted, ident ∈ s.accepted ∨
          ident = identityOf item.frame ∧ ingestSucceeded status) →
        Ingesting items first coll := by
      intro coll status hspool hingested haccepted
      refine ⟨hspool.trans hstate.spool, fun e hent => ?_, fun ident hmem => ?_⟩
      · rw [hingested] at hent
        rcases mem_append.mp hent with hent | hent
        · exact hstate.entries e hent
        · obtain rfl := mem_singleton.mp hent
          exact .inr ⟨item, hitem, rfl, rfl⟩
      · rw [hingested]
        rcases haccepted ident hmem with hmem | ⟨rfl, hok⟩
        · refine (hstate.accepted ident hmem).imp id ?_
          rintro ⟨e, hent, hfacts⟩
          exact ⟨e, mem_append_left _ hent, hfacts⟩
        · exact .inr ⟨_, mem_append_right _ (mem_singleton_self _), rfl, hok⟩
    refine meets_atomic_bind (hentries _ _ rfl rfl fun _ h => .inl h) ?_
    split_ifs with hok
    · have hnext : Ingesting items first { s with
          engine := (ingestDecodedRecord s.engine item.record true default).2
          ingested := s.ingested ++ [⟨identityOf item.frame, item.record,
            (ingestDecodedRecord s.engine item.record true default).1.status⟩]
          accepted := s.accepted.insert (identityOf item.frame) } := by
        refine hentries _ _ rfl rfl fun ident hmem => ?_
        rcases mem_insert_iff.mp hmem with rfl | hmem
        · exact .inr ⟨rfl, hok⟩
        · exact .inl hmem
      exact meets_atomic_bind hnext (ih hrest _ hnext)
    · exact meets_pure (hentries _ _ rfl rfl fun _ h => .inl h)

/-- Records of files that stay are given to the engine. -/
structure Recovering (faults : Bytes → RecoverFaults) (first later : Collector) : Prop where
  cleared : Cleared faults first.spool later.spool
  entries : ∀ entry ∈ later.ingested, entry ∈ first.ingested ∨ ∃ item,
    FoundIn later.spool item ∧ entry.identity = identityOf item.frame ∧ entry.record = item.record
  accepted : ∀ identity ∈ later.accepted, identity ∈ first.accepted ∨
    ∃ entry ∈ later.ingested, entry.identity = identity ∧ ingestSucceeded entry.status = true

lemma mem_sortRecords {records : List RecoveryItem} {item : RecoveryItem} :
    item ∈ sortRecords records ↔ item ∈ records :=
  mem_insertionSort _

lemma recoverInbox_meets (paths : List Bytes) (faults : Bytes → RecoverFaults) (first : Collector) :
    (recoverInbox paths faults).Meets first (Recovering faults first) fun _ late =>
      Recovering faults first late := by
  have hspool : ∀ sp, Cleared faults first.spool sp →
      Recovering faults first { first with spool := sp } :=
    fun sp hcleared => ⟨hcleared, fun _ h => .inl h, fun _ h => .inl h⟩
  refine meets_bind ((onSpool_meets (readInbox_meets first.spool paths [] first.spool
    (.of_data_eq rfl rfl) (by simp))).mono ?_ fun _ _ hpost => hpost) ?_
  · rintro s ⟨sp, hcleared, rfl⟩
    exact hspool sp hcleared
  rintro read s ⟨sp, ⟨hcleared, hitems⟩, rfl⟩
  cases read with
  | none => exact meets_pure (hspool sp hcleared)
  | some records =>
    have hdone : ∀ late, Ingesting (sortRecords records) { first with spool := sp } late →
        Recovering faults first late := by
      intro late hlat
      refine ⟨hlat.spool ▸ hcleared, fun e hent => ?_, hlat.accepted⟩
      refine (hlat.entries e hent).imp id ?_
      rintro ⟨item, hitem, hfacts⟩
      have hread := hitems records rfl item (mem_sortRecords.mp hitem)
      exact ⟨item, hlat.spool ▸ hread sp hcleared, hfacts⟩
    exact (ingestAll_meets _ _ (sortRecords records) (fun _ h => h) _ (.refl _ _)).mono hdone
      fun _ late hlat => hdone late hlat

/-- The same, from an empty memory. -/
structure Starting (choices : StartChoices) (first later : Collector) : Prop where
  cleared : Cleared choices.recover first.spool later.spool
  entries : ∀ entry ∈ later.ingested, ∃ item,
    FoundIn later.spool item ∧ entry.identity = identityOf item.frame ∧ entry.record = item.record
  accepted : ∀ identity ∈ later.accepted,
    ∃ entry ∈ later.ingested, entry.identity = identity ∧ ingestSucceeded entry.status = true

lemma initializeCollector_meets (ch : StartChoices) (first : Collector) :
    (initializeCollector ch).Meets first (Starting ch first) fun _ late =>
      Starting ch first late := by
  have hspool : ∀ sp, first.spool.Reopened sp → Starting ch first
      { first with accepted := [], ingested := [], active := false, spool := sp } :=
    fun sp hsame => ⟨.of_data_eq hsame.kind hsame.data, by simp, by simp⟩
  refine meets_atomic_bind (hspool first.spool ⟨rfl, rfl, rfl⟩) ?_
  refine meets_peek_bind ?_
  split_ifs
  · exact meets_pure (hspool first.spool ⟨rfl, rfl, rfl⟩)
  have hsetup := @onSpool_meets _ _ { first with accepted := [], ingested := [], active := false }
    _ _ (AlarmSpool.initializeSpool_meets ch.pid ch.setup ch.clear first.spool)
  refine meets_bind (hsetup.mono ?_ fun _ _ hpost => hpost) ?_
  · rintro s ⟨sp, hsame, rfl⟩
    exact hspool sp hsame
  rintro - s ⟨sp, hsame, rfl⟩
  refine meets_peek_bind ?_
  split_ifs
  · exact meets_pure (hspool sp hsame)
  split
  · exact meets_pure (hspool sp hsame)
  have hdone : ∀ late, Recovering ch.recover
      { first with accepted := [], ingested := [], active := false, spool := sp } late →
      Starting ch first late := by
    intro late hlat
    exact ⟨(Cleared.of_data_eq hsame.1 hsame.2).trans hlat.cleared,
      fun e hent => (hlat.entries e hent).resolve_left (by simp),
      fun ident hmem => (hlat.accepted ident hmem).resolve_left (by simp)⟩
  refine meets_bind ((recoverInbox_meets _ ch.recover _).mono hdone
    fun _ late hlat => hdone late hlat) ?_
  intro recovered late hlat
  split_ifs
  · exact meets_pure hlat
  split
  · exact meets_pure hlat
  · have hactive : Starting ch first { late with active := true } :=
      { hlat with }
    exact meets_atomic_bind hactive (meets_pure hactive)

end Collector

end Tlss.Monitor
