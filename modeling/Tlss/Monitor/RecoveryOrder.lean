import Tlss.Library.LastWrite
import Tlss.Monitor.Publisher
import Tlss.Monitor.Recovery

/-!
# What a recovery leaves in the store

Over an inbox of reliable alarms `recover_inbox` reads every file, in whatever
order the iterator returns them, and writes the records into the store in the
order of milliseconds, source and message id. A write replaces what is stored
under its key, so a key ends with the record that is greatest in that order.

The order knows milliseconds only. Where two changes of one key fall into the
same millisecond the message id decides, and that is random: the later change may
lose (`sameMillisecond_recovers_earlier`).
-/

namespace Tlss.Monitor

open Library List DurableDirectory
open CrashProgram (meets_atomic_bind meets_bind meets_peek_bind meets_pure)

namespace Collector

/-! ## The order -/

namespace RecoveryItem

lemma precedes_iff (lhs rhs : RecoveryItem) :
    lhs.precedes rhs = true ↔ lhs.frame.timestampMs < rhs.frame.timestampMs ∨
      lhs.frame.timestampMs = rhs.frame.timestampMs ∧
        (lhs.frame.sourceId < rhs.frame.sourceId ∨ lhs.frame.sourceId = rhs.frame.sourceId ∧
          lhs.frame.messageId.bytes < rhs.frame.messageId.bytes) := by
  simp [precedes]

/-- The relation `sortRecords` sorts by. -/
def NotAfter (lhs rhs : RecoveryItem) : Prop := rhs.precedes lhs = false

instance : DecidableRel NotAfter := fun _ _ => inferInstanceAs (Decidable (_ = false))

instance : Std.Total NotAfter where
  total lhs rhs := by
    simp only [NotAfter, ← Bool.not_eq_true, precedes_iff]
    grind

instance : IsTrans RecoveryItem NotAfter where
  trans first second third := by
    simp only [NotAfter, ← Bool.not_eq_true, precedes_iff]
    grind

end RecoveryItem

open RecoveryItem

lemma RecoveryItem.NotAfter.precedes {lhs rhs : RecoveryItem} (hnot : lhs.NotAfter rhs)
    (hne : identityOf lhs.frame ≠ identityOf rhs.frame) : lhs.precedes rhs := by
  have hid : lhs.frame.sourceId = rhs.frame.sourceId →
      lhs.frame.messageId.bytes ≠ rhs.frame.messageId.bytes := by
    intro hsource hmessage
    exact hne (by rw [identityOf, identityOf, hsource, AlarmMessageId.ext_bytes hmessage])
  simp only [NotAfter, ← Bool.not_eq_true, precedes_iff] at hnot ⊢
  grind

/-! ## The two loops when nothing goes wrong -/

lemma read_clean_meets {sp : AlarmSpool} {path content : Bytes} (hready : sp.ready)
    (hget : sp.data.lookup path = some content) (hwire : isAlarmWire content) :
    (AlarmSpool.read path .clean).Meets sp (fun _ => True) fun result later =>
      result = ⟨.success, path, content, 0⟩ ∧ later = sp := by
  have hlength := AlarmSpool.length_of_isAlarmWire hwire
  refine meets_peek_bind ?_
  dsimp only [id_eq]
  rw [hget]
  simp only [hready, AlarmSpool.ReadFaults.clean, AlarmSpool.ReadFaults.content, Option.or_none,
    Bool.not_true, Bool.false_eq_true, if_false, hwire, if_true]
  rw [if_neg (by simpa using hlength)]
  exact meets_pure ⟨rfl, rfl⟩

lemma readInbox_clean_meets {sp : AlarmSpool} (hready : sp.ready)
    (items : List RecoveryItem) (hitems : ∀ item ∈ items, FoundIn sp item) :
    ∀ records, (readInbox (fun _ => .clean) records (items.map RecoveryItem.path)).Meets sp
      (fun _ => True) fun read later => read = some (records ++ items) ∧ later = sp := by
  induction items with
  | nil => exact fun records => meets_pure ⟨by simp, rfl⟩
  | cons item items ih =>
    intro records
    obtain ⟨⟨content, hget, hdecode, hrel⟩, hrest⟩ := forall_mem_cons.mp hitems
    have htype : item.frame.type = .alarm := by
      by_contra htype
      simp [decodeReliablePayload, htype] at hrel
    have hwire : isAlarmWire content = true := by simp [isAlarmWire, hdecode, htype]
    refine meets_bind (read_clean_meets hready hget hwire) ?_
    rintro _ _ ⟨rfl, rfl⟩
    simp only [reduceCtorEq, if_false, ne_eq, not_true_eq_false, hdecode, hrel]
    refine (ih hrest _).mono (fun _ h => h) ?_
    rintro read later ⟨rfl, rfl⟩
    exact ⟨by simp, rfl⟩

def writeItem (store : MonitorStore) (item : RecoveryItem) : MonitorStore :=
  (store.update item.record.data true (item.record.time default)).2

lemma ingestAll_accepts_meets (items : List RecoveryItem) :
    ∀ (s : Collector) (store : MonitorStore), s.engine.phase.acceptsDataWrite →
      s.engine.context = some store →
      (ingestAll items).Meets s (fun _ => True) fun recovered later =>
        recovered ∧ later.engine.context = some (items.foldl writeItem store) ∧
          ∀ ident, ident ∈ later.accepted ↔
            ident ∈ s.accepted ∨ ∃ item ∈ items, identityOf item.frame = ident := by
  induction items with
  | nil =>
    intro s store _ hcontext
    exact meets_pure ⟨rfl, hcontext, by simp⟩
  | cons item items ih =>
    intro s store hphase hcontext
    have hwrite := @ingestDecodedRecord_of_accepts _ item.record default _ hphase hcontext
    have hok : ingestSucceeded
        (ingestDecodedRecord s.engine item.record true default).1.status :=
      ingestSucceeded_iff.mpr ⟨hphase, by simp [hcontext]⟩
    refine meets_atomic_bind trivial ?_
    simp only [hok, if_true]
    refine meets_atomic_bind trivial ?_
    refine (ih _ (writeItem store item) ?_ ?_).mono (fun _ h => h) ?_
    · simpa [hwrite] using hphase
    · simp [hwrite, writeItem]
    · rintro recovered later ⟨hrecovered, hstore, haccepted⟩
      refine ⟨hrecovered, hstore, fun ident => ?_⟩
      rw [haccepted, mem_insert_iff]
      simp [or_assoc, or_left_comm, eq_comm]

/-! ## The whole recovery -/

/-- The frame has the milliseconds of its record, as `enqueue` gives them to it. -/
def RecoveryItem.Dated (item : RecoveryItem) : Prop :=
  ∃ changedAt, item.record.changedAt = some changedAt ∧
    timestampMilliseconds changedAt = some item.frame.timestampMs

/-- Every file is a dated record under its own name. -/
structure ReliableInbox (spool : AlarmSpool) : Prop where
  ready : spool.ready = true
  files : ∀ path ∈ spool.data.files.map Prod.fst, ∃ item : RecoveryItem, item.path = path ∧
    FoundIn spool item ∧ path = (identityOf item.frame).inboxPath ∧ item.Dated

variable {sp : AlarmSpool} {collector : Collector} {item other : RecoveryItem}

lemma FoundIn.path_mem (hfound : FoundIn sp item) : item.path ∈ sp.data.files.map Prod.fst := by
  obtain ⟨content, hget, -⟩ := hfound
  exact mem_map.mpr ⟨_, lookup_eq_some_iff.mp hget, rfl⟩

lemma FoundIn.unique (hitem : FoundIn sp item)
    (hother : FoundIn sp other) (hpath : item.path = other.path) : item = other := by
  obtain ⟨content, hget, hdecode, hrel⟩ := hitem
  obtain ⟨content', hlookup', hdecode', hreliable'⟩ := hother
  rw [hpath, hlookup', Option.some_inj] at hget
  rw [← hget, hdecode', Except.ok.injEq] at hdecode
  rw [← hdecode, hreliable', Option.some_inj] at hrel
  cases item
  cases other
  simp_all

lemma ReliableInbox.of_foundIn (hinbox : ReliableInbox sp) (hfound : FoundIn sp item) :
    item.path = (identityOf item.frame).inboxPath ∧ item.Dated := by
  obtain ⟨other, hpath, hother, hid, hdated⟩ := hinbox.files _ hfound.path_mem
  obtain rfl := hother.unique hfound hpath
  exact ⟨hid, hdated⟩

lemma ReliableInbox.eq_of_identity (hinbox : ReliableInbox sp)
    (hitem : FoundIn sp item) (hother : FoundIn sp other)
    (hid : identityOf item.frame = identityOf other.frame) : item = other := by
  refine hitem.unique hother ?_
  rw [(hinbox.of_foundIn hitem).1, (hinbox.of_foundIn hother).1, hid]

lemma ReliableInbox.exists_items (hinbox : ReliableInbox sp) (paths : List Bytes)
    (hpaths : ∀ path ∈ paths, path ∈ sp.data.files.map Prod.fst) :
    ∃ items : List RecoveryItem, items.map RecoveryItem.path = paths ∧
      ∀ item ∈ items, FoundIn sp item := by
  induction paths with
  | nil => exact ⟨[], rfl, by simp⟩
  | cons path paths ih =>
    obtain ⟨hpath, hrest⟩ := forall_mem_cons.mp hpaths
    obtain ⟨items, hmap, hitems⟩ := ih hrest
    obtain ⟨item, rfl, hitem, -⟩ := hinbox.files path hpath
    exact ⟨item :: items, by rw [map_cons, hmap], forall_mem_cons.mpr ⟨hitem, hitems⟩⟩

lemma recoverInbox_clean {items : List RecoveryItem} {store : MonitorStore}
    (hready : collector.spool.ready) (hphase : collector.engine.phase.acceptsDataWrite)
    (hcontext : collector.engine.context = some store)
    (hitems : ∀ item ∈ items, FoundIn collector.spool item) :
    (recoverInbox (items.map RecoveryItem.path) (fun _ => .clean)).Meets collector
      (fun _ => True) fun recovered later => recovered ∧
        later.engine.context = some ((sortRecords items).foldl writeItem store) ∧
        ∀ ident, ident ∈ later.accepted ↔
          ident ∈ collector.accepted ∨ ∃ item ∈ items, identityOf item.frame = ident := by
  have hread := onSpool_meets (readInbox_clean_meets hready items hitems [])
  refine meets_bind (hread.mono (fun _ _ => trivial) fun _ _ hpost => hpost) ?_
  rintro read s ⟨sp, ⟨rfl, rfl⟩, rfl⟩
  refine (ingestAll_accepts_meets _ _ store hphase hcontext).mono (fun _ h => h) ?_
  simp [mem_sortRecords]

lemma contentAt_foldl_writeItem (store : MonitorStore) (items : List RecoveryItem)
    (key : MonitorKey) : (items.foldl writeItem store).contentAt key =
      ((lastWrite (fun item : RecoveryItem => item.record.data.key) key items).map
        fun item => item.record.data.value.content).or (store.contentAt key) :=
  view_foldl (fun store item => contentAt_update_force store item.record.data _)
    (fun store item _ hkey => contentAt_update_of_ne store item.record.data true _ hkey) store items

lemma RecoveryItem.Dated.timestampMs_le (hitem : item.Dated) (hother : other.Dated)
    (hle : (item.record.time default).count ≤ (other.record.time default).count) :
    item.frame.timestampMs ≤ other.frame.timestampMs := by
  obtain ⟨changedAt, htime, hms⟩ := hitem
  obtain ⟨changedAt', htime', hms'⟩ := hother
  simp only [DecodedRecord.time, htime, htime', Option.getD_some] at hle
  exact UInt64.le_iff_toNat_le.mpr (timestampMilliseconds_mono hms hms' hle)

def Greatest (spool : AlarmSpool) (item : RecoveryItem) : Prop :=
  ∀ other, FoundIn spool other → other.record.data.key = item.record.data.key → other ≠ item →
    other.precedes item = true

def AloneInMillisecond (spool : AlarmSpool) (item : RecoveryItem) : Prop :=
  ∀ other, FoundIn spool other → other.record.data.key = item.record.data.key →
    other.frame.timestampMs = item.frame.timestampMs → other = item

def Latest (spool : AlarmSpool) (item : RecoveryItem) : Prop :=
  ∀ other, FoundIn spool other → other.record.data.key = item.record.data.key →
    (other.record.time default).count ≤ (item.record.time default).count

lemma Greatest.eq_of_latest {greatest latest : RecoveryItem} (hinbox : ReliableInbox sp)
    (hgreatest : Greatest sp greatest) (hfound : FoundIn sp greatest)
    (hlatest : Latest sp latest) (hfound' : FoundIn sp latest)
    (hkey : latest.record.data.key = greatest.record.data.key)
    (halone : AloneInMillisecond sp latest) : greatest = latest := by
  by_contra hne
  have hprecedes := hgreatest latest hfound' hkey (Ne.symm hne)
  have hle := RecoveryItem.Dated.timestampMs_le (hinbox.of_foundIn hfound).2
    (hinbox.of_foundIn hfound').2 (hlatest greatest hfound hkey.symm)
  refine hne (halone greatest hfound hkey.symm ?_)
  rw [precedes_iff] at hprecedes
  grind

/-- A recovery in which nothing goes wrong accepts every identity of the inbox and
leaves under each key the value of its greatest item; keys without an item keep
their value. -/
theorem recoverInbox_restores_greatest (collector : Collector) (paths : List Bytes)
    (hinbox : ReliableInbox collector.spool) (haccepts : collector.engine.Accepts)
    (hnew : collector.accepted = [])
    (hpaths : paths.Perm (collector.spool.data.files.map Prod.fst)) :
    let done := (recoverInbox paths fun _ => .clean).exec collector
    done.value = true ∧
    (∀ identity, identity ∈ done.final.accepted ↔
      ∃ item, FoundIn collector.spool item ∧ identityOf item.frame = identity) ∧
    ∀ key,
      (∀ item, FoundIn collector.spool item → item.record.data.key ≠ key) ∧
          done.final.engine.contentAt key = collector.engine.contentAt key ∨
        ∃ greatest, FoundIn collector.spool greatest ∧ greatest.record.data.key = key ∧
          Greatest collector.spool greatest ∧
          done.final.engine.contentAt key = some greatest.record.data.value.content ∧
          ∀ latest, FoundIn collector.spool latest → latest.record.data.key = key →
            Latest collector.spool latest → AloneInMillisecond collector.spool latest →
            greatest = latest := by
  intro done
  obtain ⟨hphase, hcontext⟩ := haccepts
  obtain ⟨store, hstore⟩ := Option.isSome_iff_exists.mp hcontext
  obtain ⟨items, hmap, hitems⟩ :=
    hinbox.exists_items paths fun path hpath => hpaths.mem_iff.mp hpath
  have hall : ∀ item, FoundIn collector.spool item ↔ item ∈ items := by
    refine fun item => ⟨fun hfound => ?_, hitems item⟩
    have hpath : item.path ∈ items.map RecoveryItem.path :=
      hmap ▸ hpaths.mem_iff.mpr hfound.path_mem
    obtain ⟨other, hother, hsame⟩ := mem_map.mp hpath
    exact (hitems other hother).unique hfound hsame ▸ hother
  obtain ⟨-, hvalue, hfinal, haccepted⟩ :=
    recoverInbox_clean hinbox.ready hphase hstore hitems
  rw [hmap] at hvalue hfinal haccepted
  refine ⟨hvalue, fun identity => ?_, fun key => ?_⟩
  · rw [haccepted, hnew]
    simp [hall]
  have hcontent : done.final.engine.contentAt key = _ :=
    (congrArg (fun context => context.bind fun store => store.contentAt key) hfinal).trans
      (contentAt_foldl_writeItem store (sortRecords items) key)
  rw [hcontent]
  cases hlast : lastWrite (fun item : RecoveryItem => item.record.data.key) key
      (sortRecords items) with
  | none =>
    refine .inl ⟨fun item hfound => ?_, by simp [Engine.contentAt, hstore]⟩
    exact lastWrite_eq_none_iff.mp hlast item (mem_sortRecords.mpr ((hall item).mp hfound))
  | some greatest =>
    obtain ⟨hmem, hkey⟩ := mem_of_lastWrite hlast
    have hfound := (hall greatest).mpr (mem_sortRecords.mp hmem)
    have hgreatest : Greatest collector.spool greatest := by
      intro other hother hsame hne
      have horder := related_lastWrite ((pairwise_insertionSort NotAfter items)) hlast other
        (mem_sortRecords.mpr ((hall other).mp hother)) (hsame.trans hkey)
      exact (horder.resolve_left hne).precedes fun hidentity =>
        hne (hinbox.eq_of_identity hother hfound hidentity)
    refine .inr ⟨greatest, hfound, hkey, hgreatest, rfl, ?_⟩
    intro latest hfound' hkey' hlatest halone
    exact hgreatest.eq_of_latest hinbox hfound hlatest hfound' (hkey'.trans hkey.symm) halone

/-! ## Two changes in one millisecond -/

def sampleChange (value : UInt32) (nanoseconds : Fin 1000000) : StoredRecord where
  data := ⟨⟨1, 1, 1, 1⟩, [], .numeric ⟨value, 2⟩⟩
  changedAt := ⟨nanoseconds, by omega, by omega⟩

def sampleMessageId (byte : UInt8) : AlarmMessageId :=
  ⟨replicate alarmMessageIdSize byte, length_replicate⟩

def sampleFrame (value : UInt32) (nanoseconds : Fin 1000000) (byte : UInt8) : AlarmFrame :=
  alarmFrameOf 1 0 (v2Wire (sampleChange value nanoseconds)) (sampleMessageId byte)

def sampleItem (value : UInt32) (nanoseconds : Fin 1000000) (byte : UInt8) : RecoveryItem :=
  ⟨(identityOf (sampleFrame value nanoseconds byte)).inboxPath,
    sampleFrame value nanoseconds byte, (sampleChange value nanoseconds).decoded⟩

def earlierChange : RecoveryItem := sampleItem 1 1 0xff

def laterChange : RecoveryItem := sampleItem 2 2 0

def sameMillisecond : Collector where
  engine := ⟨.running, some .empty⟩
  spool :=
    { AlarmSpool.fresh .inbox 0 1 with
      data := (DurableDirectory.empty.put earlierChange.path (alarmWire earlierChange.frame)).put
        laterChange.path (alarmWire laterChange.frame) }
  accepted := []
  active := false
  ingested := []

lemma foundIn_of_lookup {sourceId : UInt64} {record : StoredRecord} {messageId : AlarmMessageId}
    (hframe : frameOfRecord sourceId record messageId = some item.frame)
    (hrecord : item.record = record.decoded)
    (hget : sp.data.lookup item.path = some (alarmWire item.frame)) : FoundIn sp item := by
  obtain ⟨hvalid, -, -, hrel⟩ := frameOfRecord_spec hframe
  exact ⟨_, hget, decodeAlarmFrame_encode hvalid, hrecord ▸ hrel⟩

lemma frameOfRecord_earlierChange :
    frameOfRecord 1 (sampleChange 1 1) (sampleMessageId 0xff) = some earlierChange.frame := by
  decide

lemma frameOfRecord_laterChange :
    frameOfRecord 1 (sampleChange 2 2) (sampleMessageId 0) = some laterChange.frame := by
  decide

lemma foundIn_earlierChange : FoundIn sameMillisecond.spool earlierChange := by
  refine foundIn_of_lookup frameOfRecord_earlierChange rfl ?_
  unfold sameMillisecond
  rw [lookup_put_of_ne _ _ (by decide), lookup_put_self]

lemma foundIn_laterChange : FoundIn sameMillisecond.spool laterChange :=
  foundIn_of_lookup frameOfRecord_laterChange rfl (lookup_put_self _ _ _)

lemma files_sameMillisecond :
    sameMillisecond.spool.data.files.map Prod.fst = [earlierChange.path, laterChange.path] := by
  decide

lemma reliableInbox_sameMillisecond : ReliableInbox sameMillisecond.spool where
  ready := rfl
  files := by
    intro path hpath
    rw [files_sameMillisecond] at hpath
    simp only [mem_cons, not_mem_nil, or_false] at hpath
    rcases hpath with rfl | rfl
    · exact ⟨earlierChange, rfl, foundIn_earlierChange, rfl, _, rfl, rfl⟩
    · exact ⟨laterChange, rfl, foundIn_laterChange, rfl, _, rfl, rfl⟩

/-- The two changes of one key are a nanosecond apart and in one millisecond; the
recovery leaves the value of the earlier one. -/
theorem sameMillisecond_recovers_earlier : ReliableInbox sameMillisecond.spool ∧
    FoundIn sameMillisecond.spool earlierChange ∧ FoundIn sameMillisecond.spool laterChange ∧
    earlierChange.record.data.key = laterChange.record.data.key ∧
    (earlierChange.record.time default).count < (laterChange.record.time default).count ∧
    ((recoverInbox [earlierChange.path, laterChange.path] fun _ => .clean).exec
      sameMillisecond).final.engine.contentAt laterChange.record.data.key =
        some earlierChange.record.data.value.content ∧
    earlierChange.record.data.value.content ≠ laterChange.record.data.value.content := by
  refine ⟨reliableInbox_sameMillisecond, foundIn_earlierChange, foundIn_laterChange, rfl,
    by decide, ?_, by decide⟩
  have hitems : ∀ item ∈ [earlierChange, laterChange], FoundIn sameMillisecond.spool item := by
    simpa using ⟨foundIn_earlierChange, foundIn_laterChange⟩
  obtain ⟨-, -, hfinal, -⟩ := recoverInbox_clean reliableInbox_sameMillisecond.ready rfl rfl hitems
  have hsorted : sortRecords [earlierChange, laterChange] = [laterChange, earlierChange] := by
    decide
  simp only [map_cons, map_nil] at hfinal
  rw [Engine.contentAt, hfinal, hsorted]
  exact contentAt_update_force _ earlierChange.record.data _

theorem recoverInbox_restores_greatest_sameMillisecond :
    ((recoverInbox [laterChange.path, earlierChange.path] fun _ => .clean).exec
      sameMillisecond).value = true ∧
    ∀ identity, identity ∈ ((recoverInbox [laterChange.path, earlierChange.path] fun _ =>
      .clean).exec sameMillisecond).final.accepted ↔
        ∃ item, FoundIn sameMillisecond.spool item ∧ identityOf item.frame = identity := by
  have hrestored := recoverInbox_restores_greatest sameMillisecond
    [laterChange.path, earlierChange.path] reliableInbox_sameMillisecond ⟨rfl, rfl⟩ rfl
    (files_sameMillisecond ▸ List.Perm.swap _ _ _)
  exact ⟨hrestored.1, hrestored.2.1⟩

end Collector

end Tlss.Monitor
