import Tlss.Monitor.Data

/-!
# The monitor store

`MonitorStore::update_impl` and the two front ends that call it. The store's
`std::map` is a function from keys to optional records. One call of
`updateImpl` is one critical section: the mutex is held from the first lookup to
the return, and the prepare callback runs inside it.

The callback is the caller's code. It may change state of its own, here `σ`,
and it may return or throw; `PrepareUpdate` keeps the empty `std::function`
apart from one that can be called, and a null pointer is the absence of both.

The update path leaves the map alone until the callback has returned `true`.
The insert path does not: the node is inserted first, because its allocation may
fail, and taken out again when the callback refuses.
-/

namespace Tlss.Monitor

open Function (update)

inductive PrepareOutcome where
  | returned (accepted : Bool)
  | thrown
deriving DecidableEq, Repr

/-- `MonitorStore::PrepareUpdate`, a `std::function` that may be empty. -/
abbrev PrepareUpdate (σ : Type*) := Option (StoredRecord → σ → PrepareOutcome × σ)

structure MonitorStore where
  records : MonitorKey → Option StoredRecord

def MonitorStore.empty : MonitorStore := ⟨fun _ => none⟩

variable {key : MonitorKey}

namespace MonitorStore

def find (store : MonitorStore) (key : MonitorKey) : Option StoredRecord :=
  store.records key

def emplace (store : MonitorStore) (key : MonitorKey) (record : StoredRecord) : MonitorStore :=
  ⟨update store.records key (some record)⟩

def erase (store : MonitorStore) (key : MonitorKey) : MonitorStore :=
  ⟨update store.records key none⟩

@[simp] lemma records_emplace (store : MonitorStore) (key : MonitorKey) (r : StoredRecord) :
    (store.emplace key r).records = update store.records key (some r) := rfl

@[ext] lemma ext {left right : MonitorStore} (hrecords : left.records = right.records) :
    left = right := by
  cases left
  cases right
  exact congrArg mk hrecords

lemma erase_emplace {store : MonitorStore} (r : StoredRecord)
    (habsent : store.records key = none) : (store.emplace key r).erase key = store := by
  ext1
  simp [emplace, erase, ← habsent]

end MonitorStore

/-- `same_monitor_value`: numbers are compared without their state, strings in
full, and a number never equals a string. -/
def sameMonitorValue (incoming : MonitorData) (stored : StoredRecord) : Bool :=
  match incoming.value, stored.data.value with
  | .numeric incomingNumeric, .numeric storedNumeric =>
    storedNumeric.value == incomingNumeric.value
  | .string incomingString, .string storedString => incomingString == storedString
  | _, _ => false

lemma sameMonitorValue_iff (incoming : MonitorData) (stored : StoredRecord) :
    sameMonitorValue incoming stored = true ↔
      stored.data.value.content = incoming.value.content := by
  unfold sameMonitorValue MonitorValue.content
  cases incoming.value <;> cases stored.data.value <;> simp only [beq_iff_eq, reduceCtorEq,
    ValueContent.number.injEq, ValueContent.text.injEq, Bool.false_eq_true]
  exact eq_comm

section Prepare

variable {σ : Type*}

/-- `run_prepare`: no callback means nothing to prepare, an empty one, a refusal
and an exception all mean failure. -/
def runPrepare (prepare : Option (PrepareUpdate σ)) (candidate : StoredRecord) (world : σ) :
    Bool × σ :=
  match prepare with
  | none => (true, world)
  | some none => (false, world)
  | some (some callback) =>
    match callback candidate world with
    | (.returned accepted, world) => (accepted, world)
    | (.thrown, world) => (false, world)

/-- First-time numeric zeros are not worth a record unless forced. -/
def ignoresInitialZero (data : MonitorData) (force : Bool) : Bool :=
  match data.value with
  | .numeric number => number.value == 0 && !force
  | .string _ => false

variable (store : MonitorStore)

/-- `MonitorStore::update_impl`. Returns the result, the store and whatever the
callback left behind. -/
def updateImpl (data : MonitorData) (force : Bool)
    (timestamp : MonitorTimestamp) (prepare : Option (PrepareUpdate σ)) (world : σ) :
    UpdateResult × MonitorStore × σ :=
  let key := data.key
  match store.records key with
  | none =>
    if ignoresInitialZero data force then
      (⟨.ignoredInitialZero, none⟩, store, world)
    else
      let candidate : StoredRecord := ⟨data, timestamp⟩
      -- the node is allocated before the callback runs, so that nothing after
      -- a successful callback can fail
      let inserted := store.emplace key candidate
      let (prepared, world) := runPrepare prepare candidate world
      if prepared then
        (⟨.inserted, some candidate⟩, inserted, world)
      else
        (⟨.durabilityFailed, none⟩, inserted.erase key, world)
  | some existing =>
    if sameMonitorValue data existing then
      (⟨.unchanged, some existing⟩, store, world)
    else
      let candidate : StoredRecord := ⟨data, timestamp⟩
      let (prepared, world) := runPrepare prepare candidate world
      if prepared then
        (⟨.updated, some candidate⟩, ⟨update store.records key (some candidate)⟩, world)
      else
        (⟨.durabilityFailed, none⟩, store, world)

def MonitorStore.update (data : MonitorData) (force : Bool)
    (timestamp : MonitorTimestamp) : UpdateResult × MonitorStore :=
  let (result, store, _) := updateImpl store data force timestamp none ()
  (result, store)

def MonitorStore.updatePrepared (data : MonitorData) (force : Bool)
    (timestamp : MonitorTimestamp) (prepare : PrepareUpdate σ) (world : σ) :
    UpdateResult × MonitorStore × σ :=
  updateImpl store data force timestamp (some prepare) world

/-! ## What one critical section can do -/

def MonitorStore.wants (data : MonitorData) (force : Bool) : Bool :=
  match store.records data.key with
  | none => !ignoresInitialZero data force
  | some existing => !sameMonitorValue data existing

/-- The status of a commit: `INSERTED` for a new key, `UPDATED` for a known one. -/
def MonitorStore.commitStatus (key : MonitorKey) : UpdateStatus :=
  match store.records key with
  | none => .inserted
  | some _ => .updated

def MonitorStore.keepResult (key : MonitorKey) : UpdateResult :=
  match store.records key with
  | none => ⟨.ignoredInitialZero, none⟩
  | some existing => ⟨.unchanged, some existing⟩

variable {store : MonitorStore} {d : MonitorData} {force : Bool} {t : MonitorTimestamp}
  {prepare : Option (PrepareUpdate σ)} {world : σ}

lemma updateImpl_of_not_wants (hwants : store.wants d force = false) :
    updateImpl store d force t prepare world = (store.keepResult d.key, store, world) := by
  unfold MonitorStore.wants at hwants
  unfold updateImpl MonitorStore.keepResult
  cases hfound : store.records d.key with
  | none | some existing => simp_all

lemma updateImpl_of_wants (hwants : store.wants d force) :
    updateImpl store d force t prepare world =
      let (prepared, world') := runPrepare prepare ⟨d, t⟩ world
      if prepared then
        (⟨store.commitStatus d.key, some ⟨d, t⟩⟩, store.emplace d.key ⟨d, t⟩, world')
      else (⟨.durabilityFailed, none⟩, store, world') := by
  unfold MonitorStore.wants at hwants
  unfold updateImpl MonitorStore.commitStatus
  cases hfound : store.records d.key with
  | none =>
    simp only [hfound, Bool.not_eq_true'] at hwants
    simp only [hfound, hwants, Bool.false_eq_true, if_false, MonitorStore.erase_emplace _ hfound]
  | some existing =>
    simp only [hfound, Bool.not_eq_true'] at hwants
    simp only [hfound, hwants, Bool.false_eq_true, if_false, MonitorStore.emplace]

lemma wants_force_iff : store.wants d true = true ↔
      ∀ existing, store.records d.key = some existing →
        existing.data.value.content ≠ d.value.content := by
  unfold MonitorStore.wants ignoresInitialZero
  cases store.records d.key with
  | none => cases d.value <;> simp
  | some existing =>
    have hsame := sameMonitorValue_iff d existing
    cases h : sameMonitorValue d existing <;> simp_all

lemma keepResult_status (store : MonitorStore) (key : MonitorKey) :
    (store.keepResult key).status = .ignoredInitialZero ∨
      (store.keepResult key).status = .unchanged := by
  unfold MonitorStore.keepResult
  cases store.records key <;> simp

lemma changed_of_commitStatus (store : MonitorStore) (key : MonitorKey)
    (r : Option StoredRecord) : (UpdateResult.mk (store.commitStatus key) r).changed := by
  unfold MonitorStore.commitStatus UpdateResult.changed
  cases store.records key <;> rfl

/-- Whatever happens, the map either stays exactly as it was or gains the
candidate under its key, and the latter is what a changed result reports. -/
lemma updateImpl_records :
    let outcome := updateImpl store d force t prepare world
    (outcome.1.changed = false ∧ outcome.2.1 = store) ∨
      (outcome.1.changed ∧ outcome.1.record = some ⟨d, t⟩ ∧
        outcome.2.1 = store.emplace d.key ⟨d, t⟩) := by
  cases hwants : store.wants d force with
  | false =>
    rw [updateImpl_of_not_wants hwants]
    refine Or.inl ⟨?_, rfl⟩
    rcases keepResult_status store d.key with h | h <;>
      simp [UpdateResult.changed, h]
  | true =>
    rw [updateImpl_of_wants hwants]
    dsimp only
    split
    · exact Or.inr ⟨changed_of_commitStatus _ _ _, rfl, rfl⟩
    · exact Or.inl ⟨rfl, rfl⟩

/-! ## Forced updates without a callback -/

/-- A forced `update` with no callback always leaves the value of the datum in
the store: it either was there already or has just been written. -/
lemma content_update_force (store : MonitorStore) (d : MonitorData)
    (t : MonitorTimestamp) : ∃ r, (store.update d true t).2.records d.key = some r ∧
      r.data.value.content = d.value.content := by
  unfold MonitorStore.update
  cases hwants : store.wants d true with
  | false =>
    rw [updateImpl_of_not_wants hwants]
    have hnot : ¬ store.wants d true = true := by simp [hwants]
    rw [wants_force_iff] at hnot
    push Not at hnot
    exact hnot
  | true =>
    rw [updateImpl_of_wants hwants]
    exact ⟨⟨d, t⟩, by simp [runPrepare], rfl⟩

lemma records_update_of_ne (store : MonitorStore) (d : MonitorData) (force : Bool)
    (t : MonitorTimestamp) (hkey : key ≠ d.key) :
    (store.update d force t).2.records key = store.records key := by
  unfold MonitorStore.update
  have hrecords := @updateImpl_records Unit store d force t none ()
  rcases hrecords with ⟨-, h⟩ | ⟨-, -, h⟩
  · simp only [h]
  · simp only [h, MonitorStore.records_emplace, Function.update_of_ne hkey]

lemma status_update_force (store : MonitorStore) (d : MonitorData)
    (t : MonitorTimestamp) : (store.update d true t).1.status = .inserted ∨
      (store.update d true t).1.status = .updated ∨
      (store.update d true t).1.status = .unchanged := by
  unfold MonitorStore.update
  cases hwants : store.wants d true with
  | false =>
    rw [updateImpl_of_not_wants hwants]
    unfold MonitorStore.wants ignoresInitialZero at hwants
    unfold MonitorStore.keepResult
    cases hfound : store.records d.key with
    | none => cases hvalue : d.value <;> simp [hfound, hvalue] at hwants
    | some existing => simp
  | true =>
    rw [updateImpl_of_wants hwants]
    simp only [runPrepare, if_true, MonitorStore.commitStatus]
    cases store.records d.key <;> simp

end Prepare

def MonitorStore.contentAt (store : MonitorStore) (key : MonitorKey) : Option ValueContent :=
  (store.find key).map fun record => record.data.value.content

lemma contentAt_update_force (store : MonitorStore) (d : MonitorData) (t : MonitorTimestamp) :
    (store.update d true t).2.contentAt d.key = some d.value.content := by
  obtain ⟨r, hrecord, hcontent⟩ := content_update_force store d t
  simp [MonitorStore.contentAt, MonitorStore.find, hrecord, hcontent]

lemma contentAt_update_of_ne (store : MonitorStore) (d : MonitorData) (force : Bool)
    (t : MonitorTimestamp) (hkey : key ≠ d.key) :
    (store.update d force t).2.contentAt key = store.contentAt key := by
  simp only [MonitorStore.contentAt, MonitorStore.find, records_update_of_ne store d force t hkey]

end Tlss.Monitor
