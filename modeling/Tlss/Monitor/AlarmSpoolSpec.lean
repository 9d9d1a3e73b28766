import Mathlib.Data.List.Induction
import Tlss.Monitor.AlarmSpool

/-!
# What the spool operations do

For each operation of the spool, what it can have done to the data directory at
any moment, a crash included, and what it has done when it returns
(`store_meets`, `read_meets`, `remove_meets`, `quarantine_meets`,
`initializeSpool_meets`). Only the entry an operation is about is touched; a
store that succeeds leaves a durable entry; an intact file stays where it is.
-/

namespace Tlss.Monitor

open Library List
open CrashProgram (meets_atomic meets_atomic_bind meets_bind meets_peek_bind meets_pure)

/-! ## The data directory -/

namespace AlarmSpool

/-- Only `tmp`, `corrupt` and the counter have changed. -/
structure Aside (earlier later : AlarmSpool) : Prop where
  kind : later.kind = earlier.kind
  maxBytes : later.maxBytes = earlier.maxBytes
  ready : later.ready = earlier.ready
  data : later.data = earlier.data

lemma Aside.refl (sp : AlarmSpool) : sp.Aside sp := ⟨rfl, rfl, rfl, rfl⟩

lemma Aside.trans {first second third : AlarmSpool} (hearly : first.Aside second)
    (hlate : second.Aside third) : first.Aside third :=
  ⟨hlate.kind.trans hearly.kind, hlate.maxBytes.trans hearly.maxBytes,
    hlate.ready.trans hearly.ready, hlate.data.trans hearly.data⟩

/-- The data directory has changed at most under `name`, where every new content
is allowed. -/
structure Within (name : Bytes) (allowed : Bytes → Prop) (earlier later : AlarmSpool) : Prop where
  kind : later.kind = earlier.kind
  maxBytes : later.maxBytes = earlier.maxBytes
  ready : later.ready = earlier.ready
  data : earlier.data.Touched name allowed later.data

variable {name par path wire : Bytes} {allowed allowed' : Bytes → Prop}
  {first sp late : AlarmSpool} {sourceId : UInt64} {mid : AlarmMessageId}
  {scan : ScanResult} {faults : StoreFaults}

lemma Within.refl (name : Bytes) (allowed : Bytes → Prop) (sp : AlarmSpool) :
    Within name allowed sp sp := ⟨rfl, rfl, rfl, .refl⟩

lemma Within.aside (hwithin : Within name allowed first sp)
    (haside : sp.Aside late) : Within name allowed first late :=
  ⟨haside.kind.trans hwithin.kind, haside.maxBytes.trans hwithin.maxBytes,
    haside.ready.trans hwithin.ready, haside.data ▸ hwithin.data⟩

lemma Within.trans (hearly : Within name allowed first sp)
    (hlate : Within name allowed sp late) : Within name allowed first late :=
  ⟨hlate.kind.trans hearly.kind, hlate.maxBytes.trans hearly.maxBytes,
    hlate.ready.trans hearly.ready, hearly.data.trans hlate.data⟩

lemma Within.mono (hwithin : Within name allowed first sp)
    (himp : ∀ body, allowed body → allowed' body) : Within name allowed' first sp :=
  { hwithin with data := hwithin.data.mono himp }

lemma Within.of_data_eq {name' : Bytes}
    (hwithin : Within name allowed first sp) (hdata : sp.data = first.data) :
    Within name' allowed' first sp :=
  { hwithin with data := hdata ▸ .refl }

lemma tryCreate_meets (fault : Option ℤ) (sp : AlarmSpool) :
    (tryCreate fault).Meets sp sp.Aside fun _ => sp.Aside := by
  have haside : sp.Aside (((tryCreate fault).exec sp).final) := by
    simp only [tryCreate, CrashProgram.atomic]
    split
    · exact ⟨rfl, rfl, rfl, rfl⟩
    · cases fault <;> exact ⟨rfl, rfl, rfl, rfl⟩
  exact meets_atomic haside haside

lemma createTemporary_meets (fault : Option ℤ) (attempts : ℕ) (sp : AlarmSpool) :
    (createTemporary fault attempts).Meets sp sp.Aside fun _ => sp.Aside := by
  induction attempts generalizing sp with
  | zero => exact meets_pure (.refl sp)
  | succ attempts ih =>
    refine meets_bind (tryCreate_meets fault sp) ?_
    intro created late haside
    cases created with
    | taken =>
      exact (ih late).mono (fun _ => haside.trans) fun _ _ => haside.trans
    | failed error | created name => exact meets_pure haside

lemma writeAll_meets (name wire : Bytes) (fault : Option (ℕ × ℤ)) (sp : AlarmSpool) :
    (writeAll name wire fault).Meets sp sp.Aside fun _ => sp.Aside := by
  cases fault <;> exact meets_atomic ⟨rfl, rfl, rfl, rfl⟩ ⟨rfl, rfl, rfl, rfl⟩

lemma removeTemporary_meets (name : Bytes) (fails : Bool) (sp : AlarmSpool) :
    (removeTemporary name fails).Meets sp sp.Aside fun _ => sp.Aside := by
  cases fails <;> exact meets_atomic ⟨rfl, rfl, rfl, rfl⟩ ⟨rfl, rfl, rfl, rfl⟩

lemma syncTmp_meets (fault : Option ℤ) (sp : AlarmSpool) :
    (syncTmp fault).Meets sp sp.Aside fun _ => sp.Aside := by
  cases fault <;> exact meets_atomic ⟨rfl, rfl, rfl, rfl⟩ ⟨rfl, rfl, rfl, rfl⟩

lemma syncCorrupt_meets (fault : Option ℤ) (sp : AlarmSpool) :
    (syncCorrupt fault).Meets sp sp.Aside fun _ => sp.Aside := by
  cases fault <;> exact meets_atomic ⟨rfl, rfl, rfl, rfl⟩ ⟨rfl, rfl, rfl, rfl⟩

lemma meets_within_of_aside {α : Type} {program : CrashProgram AlarmSpool α}
    (hmeets : program.Meets sp sp.Aside fun _ => sp.Aside)
    (hwithin : Within name allowed first sp) :
    program.Meets sp (Within name allowed first) fun _ late =>
      Within name allowed first late ∧ late.data = sp.data :=
  hmeets.mono (fun _ haside => hwithin.aside haside)
    fun _ _ haside => ⟨hwithin.aside haside, haside.data⟩

lemma syncData_meets (par : Bytes) (fault : Option ℤ) (hwithin : Within name allowed first sp) :
    (syncData par fault).Meets sp (Within name allowed first) fun failed late =>
      Within name allowed first late ∧ late.data.lookup = sp.data.lookup ∧
        (failed = none → late.data = sp.data.sync par.isPrefixOf) := by
  cases fault with
  | some error => exact meets_atomic hwithin ⟨hwithin, rfl, by simp⟩
  | none =>
    have hsynced : Within name allowed first
        { sp with data := sp.data.sync par.isPrefixOf } :=
      { hwithin with data := hwithin.data.sync _ }
    exact meets_atomic hsynced ⟨hsynced, rfl, fun _ => rfl⟩

lemma unlinkData_meets (fails : Bool) (hwithin : Within name allowed first sp) :
    (unlinkData name fails).Meets sp (Within name allowed first) fun _ late =>
      Within name allowed first late ∧ (fails = false → late.data.lookup name = none) := by
  cases fails with
  | true => exact meets_atomic hwithin ⟨hwithin, by simp⟩
  | false =>
    have hdropped : Within name allowed first { sp with data := sp.data.drop name } :=
      { hwithin with data := hwithin.data.drop }
    exact meets_atomic hdropped ⟨hdropped, fun _ => by simp⟩

/-! ### Storing -/

/-- What holds when an operation that stores `wire` under the free path `path`
returns. A store that fails leaves the path free, unless the unlink of the
roll-back fails as well. -/
structure StorePost (path wire : Bytes) (allowed : Bytes → Prop) (faults : StoreFaults)
    (first : AlarmSpool) (result : AlarmSpoolPathResult) (later : AlarmSpool) : Prop where
  within : Within path allowed first later
  success : result.status = .success → result.path = path ∧ later.data.Durable path wire
  duplicate : result.status ≠ .duplicate
  failed : result.status ≠ .success → faults.unlinkFinal = false → later.data.lookup path = none

lemma StorePost.ioError {error : ℤ} (hwithin : Within path allowed first sp)
    (hfree : faults.unlinkFinal = false → sp.data.lookup path = none) :
    StorePost path wire allowed faults first ⟨.ioError, [], error⟩ sp :=
  ⟨hwithin, by simp, by simp, fun _ => hfree⟩

lemma rollBack_meets (faults : StoreFaults) (error : ℤ) (hwithin : Within path allowed first sp) :
    (rollBack par path faults error).Meets sp (Within path allowed first)
      (StorePost path wire allowed faults first) := by
  refine meets_bind (unlinkData_meets faults.unlinkFinal hwithin) ?_
  rintro - unlinked ⟨hunlinked, hfree⟩
  refine meets_bind (syncData_meets par _ hunlinked) ?_
  rintro - late ⟨hlat, hlookup, -⟩
  exact meets_pure (.ioError hlat (hlookup ▸ hfree))

lemma commit_meets (temporary : Bytes) (faults : StoreFaults)
    (hparent : par.isPrefixOf path) (hallowed : allowed wire)
    (hwithin : Within path allowed first sp) (hfree : sp.data.lookup path = none) :
    (commit par path temporary wire faults).Meets sp (Within path allowed first)
      (StorePost path wire allowed faults first) := by
  unfold commit
  split
  · refine meets_bind (meets_within_of_aside (removeTemporary_meets _ _ sp) hwithin) ?_
    rintro - late ⟨hlat, hdata⟩
    exact meets_pure (.ioError hlat fun _ => hdata ▸ hfree)
  · -- after the rename the file is visible, after the sync of its directory durable
    have hpublish : (publish temporary path wire).Meets sp (Within path allowed first)
        fun _ late => Within path allowed first late ∧ late.data.lookup path = some wire := by
      have hput : Within path allowed first { sp with
          tmp := sp.tmp.drop temporary, data := sp.data.put path wire } :=
        { hwithin with data := hwithin.data.put hallowed }
      exact meets_atomic hput ⟨hput, by simp⟩
    refine meets_bind hpublish ?_
    rintro - renamed ⟨hrenamed, hvisible⟩
    refine meets_bind (syncData_meets par faults.syncParent hrenamed) ?_
    rintro failed synced ⟨hsynced, -, hdata⟩
    cases failed with
    | some error => exact rollBack_meets faults error hsynced
    | none =>
      have hdurable : synced.data.Durable path wire := by
        rw [hdata rfl]
        exact DurableDirectory.durable_sync hparent hvisible
      refine meets_bind (meets_within_of_aside (syncTmp_meets faults.syncTmp synced) hsynced) ?_
      rintro failed late ⟨hlat, hkept⟩
      cases failed with
      | some error => exact rollBack_meets faults error hlat
      | none =>
        refine meets_pure ⟨hlat, fun _ => ⟨rfl, ?_⟩, by simp, by simp⟩
        rw [hkept]
        exact hdurable

lemma writeAndCommit_meets (faults : StoreFaults) (hparent : par.isPrefixOf path)
    (hallowed : allowed wire) (hwithin : Within path allowed first sp)
    (hfree : sp.data.lookup path = none) :
    (writeAndCommit par path wire faults).Meets sp (Within path allowed first)
      (StorePost path wire allowed faults first) := by
  refine meets_bind (meets_within_of_aside (createTemporary_meets faults.create 100 sp) hwithin) ?_
  rintro created opened ⟨hopened, hdata⟩
  rw [← hdata] at hfree
  cases created with
  | error error => exact meets_pure (.ioError hopened fun _ => hfree)
  | ok temporary =>
    refine meets_bind
      (meets_within_of_aside (writeAll_meets temporary wire faults.write opened) hopened) ?_
    rintro failed written ⟨hwritten, hdata⟩
    rw [← hdata] at hfree
    have hgiveUp : ∀ error : ℤ, CrashProgram.Meets
        (do removeTemporary temporary faults.unlinkTemporary
            pure (AlarmSpoolPathResult.mk .ioError [] error))
        written (Within path allowed first) (StorePost path wire allowed faults first) := by
      intro error
      refine meets_bind (meets_within_of_aside (removeTemporary_meets _ _ written) hwritten) ?_
      rintro - late ⟨hlat, hdata⟩
      exact meets_pure (.ioError hlat fun _ => hdata ▸ hfree)
    cases failed with
    | some error => exact hgiveUp error
    | none =>
      cases hsync : faults.fdatasync.or faults.close with
      | some error => simpa only [hsync] using hgiveUp error
      | none =>
        simpa only [hsync] using commit_meets temporary faults hparent hallowed hwritten hfree

/-- The frame check of `store`: the bytes are an `ALARM` frame of this identity. -/
def Storable (sourceId : UInt64) (messageId : AlarmMessageId) (wire : Bytes) : Prop :=
  ∃ frame, decodeAlarmFrame wire = .ok frame ∧ frame.type = .alarm ∧ frame.sourceId = sourceId ∧
    frame.messageId = messageId

def StoreAllowed (sourceId : UInt64) (messageId : AlarmMessageId) (wire content : Bytes) : Prop :=
  content = wire ∧ Storable sourceId messageId wire

/-- What `store` may have done at any moment: a path that is taken is not touched. -/
structure StoreBounds (path : Bytes) (allowed : Bytes → Prop) (first later : AlarmSpool) :
    Prop where
  within : Within path allowed first later
  taken : (first.data.lookup path).isSome = true → later.data = first.data

/-- What `store` has done when it returns. -/
structure StoreEnd (path wire : Bytes) (allowed : Bytes → Prop) (faults : StoreFaults)
    (first : AlarmSpool) (result : AlarmSpoolPathResult) (later : AlarmSpool) : Prop where
  bounds : StoreBounds path allowed first later
  success : result.status = .success → result.path = path ∧ later.data.Durable path wire ∧
    first.data.lookup path = none
  duplicate : result.status = .duplicate →
    result.path = path ∧ (first.data.lookup path).isSome = true
  failed : result.status ≠ .success → faults.unlinkFinal = false →
    later.data.lookup path = first.data.lookup path

lemma spoolParent_isPrefixOf (kind : AlarmSpoolKind) (sourceId : UInt64) (mid : AlarmMessageId) :
    (spoolParent kind sourceId).isPrefixOf (spoolPath kind sourceId mid) := by
  rw [List.isPrefixOf_iff_prefix]
  exact prefix_append _ _

lemma StoreEnd.unchanged {res : AlarmSpoolPathResult} (hsuccess : res.status ≠ .success)
    (hduplicate : res.status = .duplicate → res.path = path ∧ (sp.data.lookup path).isSome) :
    StoreEnd path wire allowed faults sp res sp :=
  ⟨⟨.refl _ _ _, fun _ => rfl⟩, fun h => absurd h hsuccess, hduplicate, fun _ _ => rfl⟩

def totalBytes (spool : AlarmSpool) : ℕ := (spool.data.files.map fun entry => entry.2.length).sum

/-- The capacity check of `store` lets the bytes pass. -/
def Fits (spool : AlarmSpool) (wire : Bytes) : Prop :=
  spool.maxBytes = 0 ∨ spool.totalBytes + wire.length ≤ spool.maxBytes

lemma scan_append {entries : List (Bytes × Bytes)} {e : Bytes × Bytes}
    (hscan : (entries ++ [e]).foldl scanEntry (.ok ⟨0, 0, none⟩) = .ok scan) :
    ∃ before, entries.foldl scanEntry (.ok ⟨0, 0, none⟩) = .ok before ∧
      scanEntry (.ok before) e = .ok scan := by
  rw [foldl_append, foldl_cons, foldl_nil] at hscan
  cases hbefore : entries.foldl scanEntry (.ok ⟨0, 0, none⟩) with
  | error error => simp [hbefore, scanEntry] at hscan
  | ok before => exact ⟨before, rfl, hbefore ▸ hscan⟩

lemma bytes_scan (entries : List (Bytes × Bytes))
    (hscan : entries.foldl scanEntry (.ok ⟨0, 0, none⟩) = .ok scan) :
    scan.bytes = (entries.map fun e => e.2.length).sum := by
  induction entries using reverseRecOn generalizing scan with
  | nil => exact congrArg ScanResult.bytes (Except.ok.inj hscan).symm
  | append_singleton entries e ih =>
    obtain ⟨before, hbefore, hlast⟩ := scan_append hscan
    simp only [scanEntry] at hlast
    split_ifs at hlast
    obtain rfl := Except.ok.inj hlast
    simp [ih hbefore]

lemma scan_of_ok {faults : ScanFaults} (hscan : scanRegularFiles faults sp.data = .ok scan) :
    (sp.data.files.filter fun e => !faults.skipped.contains e.1).foldl scanEntry
      (.ok ⟨0, 0, none⟩) = .ok scan := by
  unfold scanRegularFiles at hscan
  split at hscan
  · cases hscan
  · exact hscan

lemma fits_of_scan {faults : ScanFaults}
    (hscan : scanRegularFiles faults sp.data = .ok scan) (hroom : ¬ sp.exceeds scan wire)
    (hskipped : faults.skipped = []) : sp.Fits wire := by
  have hbytes := bytes_scan _ (scan_of_ok hscan)
  simp only [hskipped, contains_nil, Bool.not_false, filter_true] at hbytes
  simp only [exceeds, Bool.or_eq_true, decide_eq_true_eq, not_or, not_lt, gt_iff_lt] at hroom
  refine .inr ?_
  rw [totalBytes, ← hbytes]
  omega

lemma storeLocked_meets (faults : StoreFaults) (sp : AlarmSpool)
    (hallowed : (faults.scan.skipped = [] → sp.Fits wire) → allowed wire) :
    (storeLocked sourceId mid wire faults).Meets sp
      (StoreBounds (spoolPath sp.kind sourceId mid) allowed sp)
      (StoreEnd (spoolPath sp.kind sourceId mid) wire allowed faults sp) := by
  refine meets_peek_bind ?_
  dsimp only [id_eq]
  split
  · exact meets_pure (.unchanged (by simp) (by simp))
  · split_ifs with htaken hlimit
    · exact meets_pure (.unchanged (by simp) fun _ => ⟨rfl, htaken⟩)
    all_goals
      have hfree : sp.data.lookup (spoolPath sp.kind sourceId mid) = none := by
        simpa using htaken
      have hwrite (hfits : faults.scan.skipped = [] → sp.Fits wire) :
          (writeAndCommit (spoolParent sp.kind sourceId) (spoolPath sp.kind sourceId mid) wire
            faults).Meets sp
          (StoreBounds (spoolPath sp.kind sourceId mid) allowed sp)
          (StoreEnd (spoolPath sp.kind sourceId mid) wire allowed faults sp) := by
        refine (writeAndCommit_meets faults
          (spoolParent_isPrefixOf sp.kind sourceId mid) (hallowed hfits)
          (Within.refl _ allowed sp) hfree).mono ?_ ?_
        · exact fun late hwithin => ⟨hwithin, fun h => absurd h htaken⟩
        · exact fun res late hpost => ⟨⟨hpost.within, fun h => absurd h htaken⟩,
            fun h => ⟨(hpost.success h).1, (hpost.success h).2, hfree⟩,
            fun h => absurd h hpost.duplicate,
            fun hfailed hunlink => (hpost.failed hfailed hunlink).trans hfree.symm⟩
    · exact hwrite fun _ => .inl hlimit
    · split
      · exact meets_pure (.unchanged (by simp) (by simp))
      · split_ifs with hfull
        · exact meets_pure (.unchanged (by simp) (by simp))
        · exact hwrite (fits_of_scan ‹_› hfull)

/-- `store` touches its own path alone, and only if it is free; a success leaves a
durable entry, a duplicate was visible before, and a failure leaves nothing unless
it cannot be taken back. -/
lemma store_meets_of (faults : StoreFaults) (sp : AlarmSpool)
    (hallowed : Storable sourceId mid wire →
      (faults.scan.skipped = [] → sp.Fits wire) → allowed wire) :
    (store sourceId mid wire faults).Meets sp
      (StoreBounds (spoolPath sp.kind sourceId mid) allowed sp)
      (StoreEnd (spoolPath sp.kind sourceId mid) wire allowed faults sp) := by
  refine meets_peek_bind ?_
  split_ifs
  · exact meets_pure (.unchanged (by simp) (by simp))
  · exact meets_pure (.unchanged (by simp) (by simp))
  · cases hdecode : decodeAlarmFrame wire with
    | error error => exact meets_pure (.unchanged (by simp) (by simp))
    | ok frame =>
      dsimp only
      split_ifs with htype hidentity
      · exact meets_pure (.unchanged (by simp) (by simp))
      · exact meets_pure (.unchanged (by simp) (by simp))
      · push Not at htype hidentity
        exact storeLocked_meets faults sp (hallowed ⟨frame, hdecode, htype, hidentity⟩)

lemma store_meets (sourceId : UInt64) (mid : AlarmMessageId) (wire : Bytes)
    (faults : StoreFaults) (sp : AlarmSpool) : (store sourceId mid wire faults).Meets sp
      (StoreBounds (spoolPath sp.kind sourceId mid) (StoreAllowed sourceId mid wire) sp)
      (StoreEnd (spoolPath sp.kind sourceId mid) wire (StoreAllowed sourceId mid wire) faults sp) :=
  store_meets_of faults sp fun hstorable _ => ⟨rfl, hstorable⟩

/-! ### Reading and taking out -/

/-- The data directory has lost at most the entry `path`. -/
def Removes (path : Bytes) (earlier later : AlarmSpool) : Prop :=
  Within path (fun _ => False) earlier later

lemma Removes.refl (path : Bytes) (sp : AlarmSpool) : Removes path sp sp :=
  Within.refl _ _ sp

lemma renameToCorrupt_data_meets (target : Bytes) (hrem : Removes path first sp) :
    (renameToCorrupt .data path target).Meets sp (Removes path first) fun _ late =>
      Removes path first late := by
  have hafter : Removes path first (((renameToCorrupt .data path target).exec sp).final) := by
    simp only [renameToCorrupt, CrashProgram.atomic]
    split
    · exact hrem
    · exact { hrem with data := hrem.data.drop }
  exact meets_atomic hafter hafter

lemma moveToCorrupt_data_meets (faults : MoveFaults) (suffix attempts : ℕ)
    (hrem : Removes path first sp) :
    (moveToCorrupt .data path faults suffix attempts).Meets sp (Removes path first)
      fun _ => Removes path first := by
  induction attempts generalizing suffix with
  | zero => exact meets_pure hrem
  | succ attempts ih =>
    refine meets_peek_bind ?_
    dsimp only [id_eq]
    split_ifs
    · exact ih (suffix + 1)
    · split
      · exact meets_pure hrem
      · refine meets_bind (renameToCorrupt_data_meets _ hrem) ?_
        intro _ renamed hrenamed
        refine meets_bind
          (meets_within_of_aside (syncCorrupt_meets faults.syncCorrupt renamed) hrenamed) ?_
        rintro failed synced ⟨hsynced, -⟩
        cases failed with
        | some error => exact meets_pure hsynced
        | none =>
          refine meets_bind (syncData_meets (parentPath path) faults.syncSource hsynced) ?_
          rintro failed late ⟨hlat, -, -⟩
          cases failed <;> exact meets_pure hlat

lemma moveToCorrupt_tmp_meets (path : Bytes) (faults : MoveFaults) (suffix attempts : ℕ)
    (sp : AlarmSpool) : (moveToCorrupt .tmp path faults suffix attempts).Meets sp sp.Aside
      fun _ => sp.Aside := by
  induction attempts generalizing suffix with
  | zero => exact meets_pure (.refl sp)
  | succ attempts ih =>
    refine meets_peek_bind ?_
    dsimp only [id_eq]
    split_ifs
    · exact ih (suffix + 1)
    · split
      · exact meets_pure (.refl sp)
      · have hrename : ∀ target, (renameToCorrupt .tmp path target).Meets sp sp.Aside
            fun _ => sp.Aside := by
          intro target
          have hafter : sp.Aside (((renameToCorrupt .tmp path target).exec sp).final) := by
            simp only [renameToCorrupt, CrashProgram.atomic]
            split
            · exact .refl sp
            · exact ⟨rfl, rfl, rfl, rfl⟩
          exact meets_atomic hafter hafter
        refine meets_bind (hrename _) ?_
        intro _ renamed hrenamed
        refine meets_bind ((syncCorrupt_meets faults.syncCorrupt renamed).mono
          (fun _ => hrenamed.trans) fun _ _ => hrenamed.trans) ?_
        intro failed synced hsynced
        cases failed with
        | some error => exact meets_pure hsynced
        | none =>
          refine meets_bind ((syncTmp_meets faults.syncSource synced).mono
            (fun _ => hsynced.trans) fun _ _ => hsynced.trans) ?_
          intro failed late hlat
          cases failed <;> exact meets_pure hlat

/-- What the medium returns for a file is a complete frame, or the file is moved. -/
def Intact (spool : AlarmSpool) (path : Bytes) (faults : ReadFaults) : Prop :=
  ∀ content, spool.data.lookup path = some content → isAlarmWire (faults.content content) = true

lemma Removes.lookup_eq (hrem : Removes path first late) {content : Bytes}
    (hget : first.data.lookup name = some content) (hthere : late.data.lookup name ≠ none) :
    late.data.lookup name = some content := by
  obtain ⟨found, hfound⟩ := Option.ne_none_iff_exists'.mp hthere
  by_cases hname : name = path
  · rw [hfound, ← hget, hname, (hrem.data.of_lookup_eq_some (hname ▸ hfound)).1]
  · rw [hrem.data.lookup_of_ne hname, hget]

/-- The files that were found corrupt and moved away: what was read of them was not sound, and
they are gone. -/
def corruptFiles (sound : Bytes → Bytes → Prop) [∀ name content, Decidable (sound name content)]
    (earlier later : AlarmSpool) : List Bytes :=
  (earlier.data.files.filter fun (name, content) =>
    ¬ sound name content ∧ later.data.lookup name = none).map Prod.fst

lemma mem_corruptFiles_or {sound : Bytes → Bytes → Prop}
    [∀ name content, Decidable (sound name content)] {content : Bytes}
    (hget : first.data.lookup name = some content)
    (hkept : sound name content → late.data.lookup name ≠ none) :
    name ∈ corruptFiles sound first late ∨ late.data.lookup name ≠ none := by
  by_cases hgone : late.data.lookup name = none
  · have hmem := DurableDirectory.lookup_eq_some_iff.mp hget
    have hunsound : ¬ sound name content := fun hsound => hkept hsound hgone
    exact .inl (mem_map.mpr ⟨_, mem_filter.mpr ⟨hmem, by simp [hunsound, hgone]⟩, rfl⟩)
  · exact .inr hgone

/-- What `read` has done when it returns. -/
structure ReadEnd (path : Bytes) (faults : ReadFaults) (first : AlarmSpool)
    (result : AlarmSpoolReadResult) (later : AlarmSpool) : Prop where
  removes : Removes path first later
  intact : Intact first path faults → later.data = first.data
  success : result.status = .success → result.path = path ∧ later.data = first.data ∧
    first.data.lookup path = some result.bytes ∧ isAlarmWire (faults.content result.bytes) = true

lemma length_of_isAlarmWire {bytes : Bytes} (hwire : isAlarmWire bytes) :
    bytes.length ≠ 0 ∧ bytes.length ≤ alarmMaxFrameSize := by
  unfold isAlarmWire at hwire
  split at hwire
  · rename_i frame hdecode
    have hann := ((decodeAlarmFrame_eq_ok_iff bytes frame).mp hdecode).1
    have hheader := hann.header
    unfold alarmHeaderSize at hheader
    exact ⟨by omega, hann.size_le⟩
  · exact absurd hwire (by decide)

lemma content_eq_of_isAlarmWire {faults : ReadFaults} {body : Bytes}
    (hwire : isAlarmWire (faults.content body)) : faults.content body = body := by
  unfold ReadFaults.content at hwire ⊢
  split
  · rename_i damaged hdamage
    rw [hdamage] at hwire
    dsimp only at hwire
    split_ifs at hwire ⊢ with hbad
    · rfl
    · exact absurd hwire hbad
  · rfl

lemma setAside_meets (faults : MoveFaults) (sp : AlarmSpool) :
    (setAside path faults).Meets sp (Removes path sp) fun res late =>
      Removes path sp late ∧ res.status ≠ .success := by
  refine meets_bind (moveToCorrupt_data_meets faults 0 1000 (.refl path sp)) ?_
  intro moved late hlat
  cases moved <;> exact meets_pure ⟨hlat, by simp⟩

/-- `read` returns the visible bytes of an intact file and leaves it where it is;
a damaged one is taken away, and nothing else is touched. -/
lemma read_meets (path : Bytes) (faults : ReadFaults) (sp : AlarmSpool) :
    (read path faults).Meets sp
      (fun late => Removes path sp late ∧ (Intact sp path faults → late.data = sp.data))
      (ReadEnd path faults sp) := by
  have hquiet : ∀ res : AlarmSpoolReadResult, res.status ≠ .success →
      CrashProgram.Meets (pure res) sp (fun late => Removes path sp late ∧
        (Intact sp path faults → late.data = sp.data)) (ReadEnd path faults sp) :=
    fun res hfailed => meets_pure ⟨.refl path sp, fun _ => rfl, fun h => absurd h hfailed⟩
  have haside : ¬ Intact sp path faults → (setAside path faults.move).Meets sp
      (fun late => Removes path sp late ∧ (Intact sp path faults → late.data = sp.data))
      (ReadEnd path faults sp) := fun hdamaged =>
    (setAside_meets faults.move sp).mono (fun late hrem => ⟨hrem, fun h => absurd h hdamaged⟩)
      fun res late hpost => ⟨hpost.1, fun h => absurd h hdamaged, fun h => absurd h hpost.2⟩
  refine meets_peek_bind ?_
  dsimp only [id_eq]
  split_ifs
  · exact hquiet _ (by simp)
  · cases hlookup : sp.data.lookup path with
    | none => exact hquiet _ (by simp)
    | some body =>
      dsimp only
      split
      · exact hquiet _ (by simp)
      · split_ifs with hsize hwire
        · refine haside fun hintact => ?_
          have hlen := length_of_isAlarmWire (hintact body hlookup)
          simp only [Bool.or_eq_true, decide_eq_true_eq] at hsize
          omega
        · split
          · exact hquiet _ (by simp)
          · exact meets_pure ⟨.refl path sp, fun _ => rfl, fun _ =>
              ⟨rfl, rfl, by rw [hlookup, content_eq_of_isAlarmWire hwire],
                (content_eq_of_isAlarmWire hwire).symm ▸ hwire⟩⟩
        · split
          · exact hquiet _ (by simp)
          · exact haside fun hintact => hwire (hintact body hlookup)

lemma remove_meets (path : Bytes) (faults : RemoveFaults) (sp : AlarmSpool) :
    (remove path faults).Meets sp (Removes path sp) fun res late =>
      Removes path sp late ∧ (res.status = .success → late.data.lookup path = none) := by
  have hrefl := Removes.refl path sp
  refine meets_peek_bind ?_
  split_ifs
  · exact meets_pure ⟨hrefl, by simp⟩
  · split
    · exact meets_pure ⟨hrefl, by simp⟩
    · split
      · exact meets_pure ⟨hrefl, by simp⟩
      · refine meets_bind (unlinkData_meets false hrefl) ?_
        rintro - unlinked ⟨hunlinked, hgone⟩
        refine meets_bind (syncData_meets (parentPath path) faults.syncParent hunlinked) ?_
        rintro failed late ⟨hlat, hlookup, -⟩
        have hgone' : late.data.lookup path = none := by rw [hlookup, hgone rfl]
        cases failed <;> exact meets_pure ⟨hlat, fun _ => hgone'⟩

lemma quarantine_meets (path : Bytes) (resolveFault : Option ℤ) (faults : MoveFaults)
    (sp : AlarmSpool) : (quarantine path resolveFault faults).Meets sp (Removes path sp)
      fun _ late => Removes path sp late := by
  have hrefl := Removes.refl path sp
  refine meets_peek_bind ?_
  split_ifs
  · exact meets_pure hrefl
  · split
    · exact meets_pure hrefl
    · split
      · exact meets_pure hrefl
      · refine meets_bind (moveToCorrupt_data_meets faults 0 1000 hrefl) ?_
        intro moved late hlat
        cases moved <;> exact meets_pure hlat

lemma clearTemporaries_meets (faults : MoveFaults) (names : List Bytes) (sp : AlarmSpool) :
    (clearTemporaries faults names).Meets sp sp.Aside fun _ => sp.Aside := by
  induction names generalizing sp with
  | nil => exact meets_pure (.refl sp)
  | cons name names ih =>
    refine meets_bind (moveToCorrupt_tmp_meets name faults 0 1000 sp) ?_
    intro moved late hlat
    cases moved with
    | error error => exact meets_pure hlat
    | ok target => exact (ih late).mono (fun _ => hlat.trans) fun _ _ => hlat.trans

/-- The files are as before. -/
structure Reopened (earlier later : AlarmSpool) : Prop where
  kind : later.kind = earlier.kind
  data : later.data = earlier.data
  maxBytes : later.maxBytes = earlier.maxBytes

lemma initializeSpool_meets (pid : ℕ) (setupFault : Option ℤ) (faults : MoveFaults)
    (sp : AlarmSpool) : (initializeSpool pid setupFault faults).Meets sp (Reopened sp)
      fun _ => Reopened sp := by
  refine meets_atomic_bind ⟨rfl, rfl, rfl⟩ ?_
  generalize hreset' : { sp with
    pid := pid, temporarySequence := 0, ready := false, setupError := 0 } = reset
  have hreset : Reopened sp reset := by
    subst hreset'
    exact ⟨rfl, rfl, rfl⟩
  split
  · exact meets_atomic { hreset with } { hreset with }
  · refine meets_peek_bind ?_
    have hstays : ∀ late, reset.Aside late → Reopened sp late := fun _ haside =>
      ⟨haside.kind.trans hreset.kind, haside.data.trans hreset.data,
        haside.maxBytes.trans hreset.maxBytes⟩
    refine meets_bind ((clearTemporaries_meets faults _ reset).mono hstays fun _ => hstays) ?_
    intro failed late hlat
    cases failed <;> exact meets_atomic { hlat with } { hlat with }

end AlarmSpool

/-! ## Names -/

lemma hexDigit_injective : ∀ left < 16, ∀ right < 16,
    hexDigit left = hexDigit right → left = right := by
  decide

@[simp] lemma length_hexDigits (n value : ℕ) : (hexDigits n value).length = n := by
  induction n generalizing value with
  | zero => rfl
  | succ n ih => simp [hexDigits, ih]

lemma hexDigits_injective (n : ℕ) {left right : ℕ} (hleft : left < 16 ^ n)
    (hright : right < 16 ^ n) (hdigits : hexDigits n left = hexDigits n right) : left = right := by
  induction n generalizing left right with
  | zero => omega
  | succ n ih =>
    rw [pow_succ] at hleft hright
    obtain ⟨hfront, hlast⟩ := append_inj' hdigits rfl
    have hquotient := ih (by omega) (by omega) hfront
    have hremainder := hexDigit_injective _ (Nat.mod_lt left (by decide)) _
      (Nat.mod_lt right (by decide)) (by simpa using hlast)
    omega

lemma hexU64_injective {left right : UInt64} (hhex : hexU64 left = hexU64 right) : left = right :=
  UInt64.toNat_inj.mp (hexDigits_injective 16 left.toNat_lt right.toNat_lt hhex)

lemma hexByte_injective {left right : UInt8} (hhex : hexByte left = hexByte right) :
    left = right := by
  have hleft : left.toNat < 256 := left.toNat_lt
  have hright : right.toNat < 256 := right.toNat_lt
  simp only [hexByte, cons.injEq, and_true] at hhex
  have hhigh := hexDigit_injective _ (by omega) _ (by omega) hhex.1
  have hlow := hexDigit_injective _ (Nat.mod_lt _ (by decide)) _ (Nat.mod_lt _ (by decide)) hhex.2
  exact UInt8.toNat_inj.mp (by omega)

lemma flatMap_hexByte_injective {left right : Bytes} (hlen : left.length = right.length)
    (hhex : left.flatMap hexByte = right.flatMap hexByte) : left = right := by
  induction left generalizing right with
  | nil => exact (eq_nil_of_length_eq_zero hlen.symm).symm
  | cons byte left ih =>
    cases right with
    | nil => simp at hlen
    | cons other right =>
      rw [flatMap_cons, flatMap_cons] at hhex
      obtain ⟨hbyte, hrest⟩ := append_inj hhex rfl
      rw [hexByte_injective hbyte, ih (by simpa using hlen) hrest]

lemma hexMessageId_injective {left right : AlarmMessageId}
    (hhex : hexMessageId left = hexMessageId right) : left = right :=
  AlarmMessageId.ext_bytes
    (flatMap_hexByte_injective (left.length_eq.trans right.length_eq.symm) hhex)

variable {mid messageId' : AlarmMessageId}

lemma spoolPath_injective {kind : AlarmSpoolKind} {sourceId sourceId' : UInt64}
    (hpath : spoolPath kind sourceId mid = spoolPath kind sourceId' messageId') :
    sourceId = sourceId' ∧ mid = messageId' := by
  have hparent : (spoolParent kind sourceId).length = (spoolParent kind sourceId').length := by
    cases kind <;> simp [spoolParent, hexU64]
  obtain ⟨hsource, hrest⟩ := append_inj (append_inj hpath hparent).2 (by simp [hexU64])
  obtain ⟨hid, -⟩ := append_inj' (cons.inj hrest).2 rfl
  exact ⟨hexU64_injective hsource, hexMessageId_injective hid⟩

end Tlss.Monitor
