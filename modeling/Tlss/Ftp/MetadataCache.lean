import Tlss.Cache.HashArcCache
import Tlss.Library.Decimal

/-!
# The metadata cache

`MetadataCache` keeps three banks of query results: directory listings, download
hashes and `cd` paths. Its reads and writes are coordinated by 64 gates, one for all
directories whose key has the same hash; a gate is a lock and a generation. A write
holds the lock exclusively and advances the generation before it releases it, and a
listing or a hash counts as a hit only while its generation is the one of its gate.

The calls run on any number of threads. A thread proceeds from one lock, probe, loader
or release to the next, so a run is a list of events that say which call goes on. The
mutex of a gate is not a field here: who holds it is what the calls are doing, and
`admits` says when a call can get it.
-/

namespace Tlss.Ftp

open Library Cache

/-- What the standard library and the machine fix: the hash of strings, the number of
units that run at once and two sizes of types. -/
structure Platform where
  hash : Bytes → ℕ
  hardwareConcurrency : ℕ
  sizeOfFileList : ℕ
  sizeOfFileInfo : ℕ

structure FileInfo where
  fileName : Bytes
  type : Bytes
  createAt : Bytes
  updateAt : Bytes
deriving DecidableEq

/-- The result of a query: a listing is a `FileList`, a download hash and a path are
strings. -/
inductive Value
  | files (list : List FileInfo)
  | text (string : Bytes)
deriving DecidableEq

structure StorageContext where
  success : Bool
  result : Value
deriving DecidableEq

/-- `MetadataCacheConfig`, with the validity periods in milliseconds. -/
structure MetadataCacheConfig where
  listCapacity : ℕ := 1024
  downloadCapacity : ℕ := 4096
  cdCapacity : ℕ := 4096
  arcShards : ℕ := 16
  listTtl : ℤ := 5000
  downloadTtl : ℤ := 30000
  cdTtl : ℤ := 60000
  maxListBytes : ℕ := 64 * 1024

structure MetadataCacheCounters where
  requests : UInt64 := 0
  hits : UInt64 := 0
  misses : UInt64 := 0
  loads : UInt64 := 0
  coalesced : UInt64 := 0
  admissionSkips : UInt64 := 0

/-! ## Keys and gates -/

def appendField (key field : Bytes) : Bytes := key ++ lengthPrefixed field

def makeKey (username directory : Bytes) : Bytes :=
  appendField (appendField [] username) directory

def makeArgumentKey (username directory argument : Bytes) : Bytes :=
  appendField (makeKey username directory) argument

def directoryGateCount : ℕ := 64

/-- `DirectoryGate`, without its mutex. -/
structure DirectoryGate where
  generation : UInt64 := 0
  versionedCacheEnabled : Bool := true

/-- `DirectoryGate::advance`. The last generation is not left again. -/
def DirectoryGate.advance (gate : DirectoryGate) : DirectoryGate :=
  if gate.generation = 18446744073709551615 then { gate with versionedCacheEnabled := false }
  else { gate with generation := gate.generation + 1 }

def gateIndex (platform : Platform) (namespaceKey : Bytes) : Fin directoryGateCount :=
  ⟨platform.hash namespaceKey % directoryGateCount, Nat.mod_lt _ (by decide)⟩

/-! ## Banks -/

/-- A result in the cache. The call whose loader returned it is only recorded. -/
structure Snapshot where
  value : Value
  source : ℕ
deriving DecidableEq

structure Entry where
  value : Option Snapshot
  expiresAt : ℤ
  generation : UInt64
deriving DecidableEq

structure Bank where
  enabled : Bool
  ttl : ℤ
  maxBytes : ℕ
  arc : HashArcCache Bytes Entry
  counters : MetadataCacheCounters := {}

def ttlMessage : String := "The cache validity period must be between zero and twenty-four hours."

def checkedTtl (ttl : ℤ) : Except String ℤ :=
  if ttl < 0 ∨ ttl > 24 * 60 * 60 * 1000 then .error ttlMessage else .ok ttl

/-- The default of `byte_limit`, the largest `std::size_t`. -/
def noByteLimit : ℕ := 2 ^ 64 - 1

def Bank.new (platform : Platform) (capacity shards : ℕ) (lifetime : ℤ) (byteLimit : ℕ) :
    Except String Bank := do
  let enabled := capacity ≠ 0 ∧ lifetime > 0
  let ttl ← checkedTtl lifetime
  return {
    enabled, ttl, maxBytes := byteLimit
    arc := .new platform.hardwareConcurrency (if enabled then capacity else 0) shards }

/-- The loop of `fits` over the sizes, which compares before it adds. -/
def fitsFrom (limit : ℕ) : ℕ → List ℕ → Bool
  | _, [] => true
  | used, bytes :: sizes =>
    if bytes > limit - used then false else fitsFrom limit (used + bytes) sizes

def fits (platform : Platform) (value : Value) (limit : ℕ) : Bool :=
  match value with
  | .text string => string.length ≤ limit
  | .files list =>
    if platform.sizeOfFileList > limit then false
    else
      fitsFrom limit platform.sizeOfFileList (list.flatMap fun file =>
        [platform.sizeOfFileInfo, file.fileName.length, file.type.length, file.createAt.length,
          file.updateAt.length])

def jitteredTtl (platform : Platform) (ttl : ℤ) (key : Bytes) : ℤ :=
  let percentage : ℤ := (platform.hash key % 21 : ℕ) - 10
  ttl + (ttl.tdiv 100) * percentage

/-- The banks: `_lists`, `_downloads` and `_cd_paths`. -/
inductive Kind
  | list
  | download
  | cd
deriving DecidableEq

/-- The argument `versioned` of the reads of a bank. -/
def Kind.versioned : Kind → Bool
  | .list | .download => true
  | .cd => false

inductive Probe
  | miss
  | stale
  | hit (snapshot : Snapshot)
deriving DecidableEq

def Entry.probe (entry : Entry) (gate : DirectoryGate) (versioned : Bool) (now : ℤ) : Probe :=
  match entry.value with
  | none => .stale
  | some snapshot =>
    if entry.expiresAt ≤ now ∨ (versioned ∧ entry.generation ≠ gate.generation) then .stale
    else .hit snapshot

structure MetadataCache where
  gates : Fin directoryGateCount → DirectoryGate := fun _ => {}
  banks : Kind → Bank

def MetadataCache.new (platform : Platform) (config : MetadataCacheConfig) :
    Except String MetadataCache := do
  let lists ← Bank.new platform config.listCapacity config.arcShards config.listTtl
    config.maxListBytes
  let downloads ← Bank.new platform config.downloadCapacity config.arcShards config.downloadTtl
    noByteLimit
  let cdPaths ← Bank.new platform config.cdCapacity config.arcShards config.cdTtl noByteLimit
  return { banks := fun
    | .list => lists
    | .download => downloads
    | .cd => cdPaths }

def MetadataCache.setBank (cache : MetadataCache) (kind : Kind) (bank : Bank) : MetadataCache :=
  { cache with banks := Function.update cache.banks kind bank }

def MetadataCache.count (cache : MetadataCache) (kind : Kind)
    (increment : MetadataCacheCounters → MetadataCacheCounters) : MetadataCache :=
  cache.setBank kind { cache.banks kind with counters := increment (cache.banks kind).counters }

def MetadataCache.setArc (cache : MetadataCache) (kind : Kind) (arc : HashArcCache Bytes Entry) :
    MetadataCache :=
  cache.setBank kind { cache.banks kind with arc }

/-! ## Calls -/

inductive Request
  | list (username directory : Bytes)
  | download (username directory filename : Bytes)
  | cd (username directory argument : Bytes)
  | write (username directory : Bytes)
deriving DecidableEq

namespace Request

def read? : Request → Option (Kind × Bytes)
  | list username directory => some (.list, makeKey username directory)
  | download username directory filename =>
    some (.download, makeArgumentKey username directory filename)
  | cd username directory argument => some (.cd, makeArgumentKey username directory argument)
  | write _ _ => none

def username : Request → Bytes
  | list username _ | download username _ _ | cd username _ _ | write username _ => username

def directory : Request → Bytes
  | list _ directory | download _ directory _ | cd _ directory _ | write _ directory => directory

def namespaceKey (request : Request) : Bytes := makeKey request.username request.directory

def gate (platform : Platform) (request : Request) : Fin directoryGateCount :=
  gateIndex platform request.namespaceKey

end Request

inductive Mode
  | shared
  | exclusive
deriving DecidableEq

/-- How a call ended: with the result of the loader that a call ran, with the result of
the writer, or with an exception. -/
inductive Outcome
  | returned (result : StorageContext) (source : ℕ)
  | wrote (success : Bool)
  | threw
deriving DecidableEq

inductive Phase
  | waiting (mode : Mode)
  | probing (mode : Mode)
  | fetched (mode : Mode) (entry : Entry)
  | probed (mode : Mode) (probe : Probe)
  /-- The loader runs, under the exclusive lock unless the bank is disabled. -/
  | loading (locked : Bool)
  | loaded (result : Option StorageContext)
  | stored (result : StorageContext)
  | writing
  | written (outcome : Outcome)
  | advanced (outcome : Outcome)
  | done (outcome : Outcome)
deriving DecidableEq

def Phase.holds : Phase → Option Mode
  | waiting _ | loading false | done _ => none
  | probing mode | fetched mode _ | probed mode _ => some mode
  | loading true | loaded _ | stored _ | writing | written _ | advanced _ => some .exclusive

/-- A call and the times at which it began, began to load and ended, with the result of
its loader. -/
structure Call where
  request : Request
  phase : Phase
  began : ℕ
  loadBegan : Option ℕ := none
  loaded : Option StorageContext := none
  ended : Option ℕ := none
deriving DecidableEq

/-- The cache and all calls so far. The time is the number of steps taken. -/
structure Calls where
  cache : MetadataCache
  calls : List Call := []
  now : ℕ := 0

namespace Calls

variable (platform : Platform)

/-- A call gets the mutex of a gate: shared if no one holds it exclusively, exclusively
if no one holds it at all. -/
def admits (state : Calls) (mode : Mode) (gate : Fin directoryGateCount) : Bool :=
  state.calls.all fun call => call.request.gate platform ≠ gate ||
    match mode with
    | .shared => call.phase.holds ≠ some .exclusive
    | .exclusive => call.phase.holds = none

def setCall (state : Calls) (index : ℕ) (call : Call) : Calls :=
  { state with calls := state.calls.set index call }

def goOn (state : Calls) (index : ℕ) (call : Call) (phase : Phase) : Calls :=
  state.setCall index { call with phase }

def finish (state : Calls) (index : ℕ) (call : Call) (outcome : Outcome) : Calls :=
  state.setCall index { call with phase := .done outcome, ended := some state.now }

def count (state : Calls) (kind : Kind)
    (increment : MetadataCacheCounters → MetadataCacheCounters) : Calls :=
  { state with cache := state.cache.count kind increment }

def operate (state : Calls) (kind : Kind) (operation : ArcCache.Operation Bytes Entry) : Calls :=
  { state with
    cache := state.cache.setArc kind ((state.cache.banks kind).arc.step platform.hash operation) }

def gate (state : Calls) (request : Request) : DirectoryGate :=
  state.cache.gates (request.gate platform)

/-- A thread calls `list`, `download`, `cd` or `write`. -/
def enter (state : Calls) (request : Request) : Calls :=
  match request.read? with
  | none =>
    { state with
      calls := state.calls ++ [{ request, phase := .waiting .exclusive, began := state.now }] }
  | some (kind, _) =>
    let state := state.count kind fun c => { c with requests := c.requests + 1 }
    if (state.cache.banks kind).enabled then
      { state with
        calls := state.calls ++ [{ request, phase := .waiting .shared, began := state.now }] }
    else
      let state := state.count kind fun c =>
        { c with misses := c.misses + 1, loads := c.loads + 1 }
      { state with
        calls := state.calls ++ [{
          request, phase := .loading false, began := state.now, loadBegan := some state.now }] }

/-- `read` goes on from one lock, probe or release to the next. -/
def resumeRead (state : Calls) (index : ℕ) (call : Call) (kind : Kind) (key : Bytes)
    (clock : ℤ) : Calls :=
  let gate := state.gate platform call.request
  let bank := state.cache.banks kind
  match call.phase with
  | .waiting mode =>
    if state.admits platform mode (call.request.gate platform) then
      state.goOn index call (.probing mode)
    else state
  | .probing mode =>
    if kind.versioned && !gate.versionedCacheEnabled then
      state.goOn index call (.probed mode .miss)
    else
      let phase := match (bank.arc.get platform.hash key).1 with
        | none => .probed mode .miss
        | some entry => .fetched mode entry
      (state.operate platform kind (.get key)).goOn index call phase
  | .fetched mode entry =>
    state.goOn index call (.probed mode (entry.probe gate kind.versioned clock))
  | .probed .shared (.hit snapshot) =>
    (state.count kind fun c => { c with hits := c.hits + 1 }).finish index call
      (.returned ⟨true, snapshot.value⟩ snapshot.source)
  | .probed .shared _ =>
    (state.count kind fun c => { c with misses := c.misses + 1 }).goOn index call
      (.waiting .exclusive)
  | .probed .exclusive (.hit snapshot) =>
    (state.count kind fun c => { c with coalesced := c.coalesced + 1 }).finish index call
      (.returned ⟨true, snapshot.value⟩ snapshot.source)
  | .probed .exclusive probe =>
    let state := match probe with
      | .stale => state.operate platform kind (.erase key)
      | _ => state
    (state.count kind fun c => { c with loads := c.loads + 1 }).setCall index
      { call with phase := .loading true, loadBegan := some state.now }
  | .loaded none => state.finish index call .threw
  | .loaded (some result) =>
    if !result.success then state.finish index call (.returned result index)
    else if (kind.versioned && !gate.versionedCacheEnabled) ||
        !fits platform result.result bank.maxBytes then
      (state.count kind fun c => { c with admissionSkips := c.admissionSkips + 1 }).finish
        index call (.returned result index)
    else
      let entry : Entry := {
        value := some ⟨result.result, index⟩
        generation := gate.generation
        expiresAt := clock + 1000000 * jitteredTtl platform bank.ttl key }
      (state.operate platform kind (.put key entry)).goOn index call (.stored result)
  | .stored result => state.finish index call (.returned result index)
  | _ => state

/-- `write` goes on: the destructor of `InvalidateOnExit` runs before the one of the lock. -/
def resumeWrite (state : Calls) (index : ℕ) (call : Call) : Calls :=
  match call.phase with
  | .waiting _ =>
    if state.admits platform .exclusive (call.request.gate platform) then
      state.goOn index call .writing
    else state
  | .written outcome =>
    let index' := call.request.gate platform
    let cache := { state.cache with
      gates := Function.update state.cache.gates index' (state.cache.gates index').advance }
    { state with cache }.goOn index call (.advanced outcome)
  | .advanced outcome => state.finish index call outcome
  | _ => state

def resume (state : Calls) (index : ℕ) (call : Call) (clock : ℤ) : Calls :=
  match call.request.read? with
  | none => state.resumeWrite platform index call
  | some (kind, key) => state.resumeRead platform index call kind key clock

def loaderEnds (state : Calls) (index : ℕ) (call : Call) (result : Option StorageContext) : Calls :=
  match call.phase with
  | .loading true => state.setCall index { call with phase := .loaded result, loaded := result }
  | .loading false =>
    state.finish index { call with loaded := result }
      (match result with
      | none => .threw
      | some result => .returned result index)
  | _ => state

def writerEnds (state : Calls) (index : ℕ) (call : Call) (success : Option Bool) : Calls :=
  match call.phase with
  | .writing =>
    state.goOn index call (.written (match success with
      | none => .threw
      | some success => .wrote success))
  | _ => state

inductive Event
  | enter (request : Request)
  | resume (index : ℕ) (clock : ℤ)
  | loaderEnds (index : ℕ) (result : Option StorageContext)
  | writerEnds (index : ℕ) (success : Option Bool)

def act (state : Calls) : Event → Calls
  | .enter request => state.enter request
  | .resume index clock =>
    match state.calls[index]? with
    | none => state
    | some call => state.resume platform index call clock
  | .loaderEnds index result =>
    match state.calls[index]? with
    | none => state
    | some call => state.loaderEnds index call result
  | .writerEnds index success =>
    match state.calls[index]? with
    | none => state
    | some call => state.writerEnds index call success

def step (state : Calls) (event : Event) : Calls :=
  { state.act platform event with now := state.now + 1 }

end Calls

end Tlss.Ftp
