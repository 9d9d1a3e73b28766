import Tlss.Ftp.MetadataInvariant
import Tlss.Ftp.VirtualFiles

/-!
# Metadata through the cache

`MetadataService` answers the questions of all users from the table of virtual files and
from a cache in front of it. Here the calls come one after the other, as the gates of the
cache arrange them: a call of the cache is what `Calls` does without any other call between
its steps. The counters are left out.

A user's `commit` registers the upload of an earlier `prepare` of the same user, and so gets
the id of the directory from there.
-/

namespace Tlss.Ftp

open Library Cache

/-! ## Calls of the cache -/

structure Clocks where
  first : ℤ := 0
  second : ℤ := 0
  stored : ℤ := 0
deriving DecidableEq

namespace MetadataCache

variable (platform : Platform)

variable (cache : MetadataCache)

def operate (kind : Kind) (operation : ArcCache.Operation Bytes Entry) : MetadataCache :=
  cache.setArc kind ((cache.banks kind).arc.step platform.hash operation)

def probe (cache : MetadataCache) (kind : Kind) (key : Bytes) (gate : DirectoryGate)
    (clock : ℤ) : Probe × MetadataCache :=
  if kind.versioned && !gate.versionedCacheEnabled then (.miss, cache)
  else
    (match ((cache.banks kind).arc.get platform.hash key).1 with
    | none => .miss
    | some entry => entry.probe gate kind.versioned clock,
    cache.operate platform kind (.get key))

/-- The end of `read`: a success is stored if it fits. -/
def store (kind : Kind) (key : Bytes) (gate : DirectoryGate)
    (clock : ℤ) (loaded : StorageContext) : MetadataCache :=
  if !loaded.success then cache
  else if (kind.versioned && !gate.versionedCacheEnabled) ||
      !fits platform loaded.result (cache.banks kind).maxBytes then cache
  else
    cache.operate platform kind <| .put key {
      value := some ⟨loaded.result, 0⟩
      generation := gate.generation
      expiresAt := clock + 1000000 * jitteredTtl platform (cache.banks kind).ttl key }

/-- The second part of `read`, under the exclusive lock. -/
def reload (kind : Kind) (key : Bytes) (gate : DirectoryGate)
    (clocks : Clocks) (loaded : StorageContext) : StorageContext × MetadataCache :=
  match cache.probe platform kind key gate clocks.second with
  | (.hit snapshot, cache) => (⟨true, snapshot.value⟩, cache)
  | (.stale, cache) =>
    (loaded, (cache.operate platform kind (.erase key)).store platform kind key gate
      clocks.stored loaded)
  | (.miss, cache) => (loaded, cache.store platform kind key gate clocks.stored loaded)

/-- `read`; `loaded` is what the loader returns if it is called. -/
def read (kind : Kind) (key : Bytes) (gate : DirectoryGate)
    (clocks : Clocks) (loaded : StorageContext) : StorageContext × MetadataCache :=
  if !(cache.banks kind).enabled then (loaded, cache)
  else
    match cache.probe platform kind key gate clocks.first with
    | (.hit snapshot, cache) => (⟨true, snapshot.value⟩, cache)
    | (_, cache) => cache.reload platform kind key gate clocks loaded

/-- `list`, `download` and `cd`; a `write` is not read. -/
def ask (request : Request) (clocks : Clocks) (loaded : StorageContext) :
    StorageContext × MetadataCache :=
  match request.read? with
  | none => (loaded, cache)
  | some (kind, key) =>
    cache.read platform kind key (cache.gates (request.gate platform)) clocks loaded

/-- What `write` does to the gate of the directory, whatever the writer returns. -/
def advance (cache : MetadataCache) (username directory : Bytes) : MetadataCache :=
  let gate := (Request.write username directory).gate platform
  { cache with gates := Function.update cache.gates gate (cache.gates gate).advance }

end MetadataCache

/-! ## Operations of a user -/

/-- The operations; `commit` names the earlier operation that prepared the upload. -/
inductive MetadataOp
  | signup
  | list (directory : Bytes)
  | cd (directory name : Bytes)
  | mkdir (directory name : Bytes)
  | prepare (directory name : Bytes)
  | commit (prepared : ℕ) (directory name hash : Bytes)
  | download (directory name : Bytes)
deriving DecidableEq

/-- The directory in which a row may be inserted. -/
def MetadataOp.written? : MetadataOp → Option Bytes
  | mkdir directory _ | commit _ directory _ _ => some directory
  | _ => none

inductive MetadataResult
  | read (result : StorageContext)
  | done (success : Bool)
  | parent (id : Option ℕ)
deriving DecidableEq

def FileInfo.erase (file : FileInfo) : FileInfo := { file with createAt := [], updateAt := [] }

def Value.erase : Value → Value
  | files list => .files (list.map FileInfo.erase)
  | text string => .text string

def MetadataResult.erase : MetadataResult → MetadataResult
  | read result => .read { result with result := result.result.erase }
  | done success => .done success
  | parent id => .parent (id.map fun _ => 0)

/-- What the environment decides about an operation: the ids that the database leaves out,
the time that it writes into a row, and the clocks of the cache. -/
structure OpChoices where
  skipped : ℕ := 0
  now : Bytes := []
  clocks : Clocks := {}
deriving DecidableEq

/-- The insertion of an operation, which the database does not refuse by itself. -/
def OpChoices.insert (choices : OpChoices) : InsertChoices :=
  { skipped := choices.skipped, now := choices.now }

namespace VirtualFiles

variable {Weight : Type*} [DecidableEq Weight] (collation : Collation Weight)

def load (table : VirtualFiles) : Request → StorageContext
  | .list username directory =>
    match table.findFileByCurrentDir collation username directory with
    | none => ⟨false, .files []⟩
    | some files => ⟨true, .files files⟩
  | .download username directory filename =>
    match table.findDownloadHash collation username directory filename with
    | none => ⟨false, .text []⟩
    | some hash => ⟨true, .text hash⟩
  | .cd username directory argument =>
    match table.moveDirByCurrentDir collation username directory argument with
    | none => ⟨false, .text []⟩
    | some path => ⟨true, .text path⟩
  | .write _ _ => ⟨false, .text []⟩

end VirtualFiles

/-- A user that asks for something; or a failure that is found before. -/
inductive ReadCheck
  | answered (result : StorageContext)
  | asks (request : Request)

/-- The checks of `find_file_by_current_dir`, `move_dir_by_current_dir` and
`find_download_hash` before the cache. -/
def checkRead (username : Bytes) : MetadataOp → Option ReadCheck
  | .list directory =>
    some <|
      if username.isEmpty || directory.isEmpty then .answered ⟨false, .files []⟩
      else .asks (.list username directory)
  | .cd directory name =>
    some <|
      if username.isEmpty || directory.isEmpty || name.isEmpty then .answered ⟨false, .text []⟩
      else if directory = ascii "/" && name = ascii ".." then .answered ⟨true, .text (ascii "/")⟩
      else .asks (.cd username directory name)
  | .download directory name =>
    some <|
      if username.isEmpty || directory.isEmpty || !validName name then
        .answered ⟨false, .text []⟩
      else .asks (.download username directory name)
  | _ => none

def preparedId (results : List MetadataResult) (prepared : ℕ) : Option ℕ :=
  match results[prepared]? with
  | some (.parent (some id)) => some id
  | _ => none

/-- What a write inserts: the table if it succeeds, and whether the gate is advanced. -/
structure Written where
  table : Option VirtualFiles
  directory : Option Bytes

section Writes

variable {Weight : Type*} [DecidableEq Weight] (collation : Collation Weight)

/-- The writes: the root of a user, `create_dir` and `commit_upload`. -/
def writeOp (table : VirtualFiles) (username : Bytes) (results : List MetadataResult)
    (choices : InsertChoices) : MetadataOp → Option Written
  | .signup => some ⟨table.createRoot collation username choices, none⟩
  | .mkdir directory name =>
    some <|
      if username.isEmpty || directory.isEmpty || name.isEmpty then ⟨none, none⟩
      else ⟨table.createDir collation username directory name choices, some directory⟩
  | .commit prepared directory name hash =>
    some <|
      match preparedId results prepared with
      | none => ⟨none, none⟩
      | some id =>
        if username.isEmpty || directory.isEmpty || !validName name || !validHash hash then
          ⟨none, none⟩
        else ⟨table.commitUpload collation username id directory name hash choices, some directory⟩
  | _ => none

end Writes

/-! ## The service -/

structure MetadataService where
  table : VirtualFiles := {}
  cache : MetadataCache
  log : List (Bytes × MetadataResult) := []

structure MetadataCall where
  username : Bytes
  op : MetadataOp
  choices : OpChoices := {}
deriving DecidableEq

namespace MetadataService

variable {Weight : Type*} [DecidableEq Weight] (platform : Platform)
  (collation : Collation Weight)

variable (service : MetadataService)

def resultsOf (username : Bytes) : List MetadataResult :=
  (service.log.filter fun entry => entry.1 = username).map Prod.snd

def answer (username : Bytes) (result : MetadataResult) : MetadataService :=
  { service with log := service.log ++ [(username, result)] }

/-- A read: a failure that is found at once, or the cache with its loader. -/
def performRead (username : Bytes) (clocks : Clocks) :
    ReadCheck → MetadataService
  | .answered result => service.answer username (.read result)
  | .asks request =>
    let (result, cache) :=
      service.cache.ask platform request clocks (service.table.load collation request)
    { service with cache }.answer username (.read result)

def performWrite (username : Bytes) (written : Written) : MetadataService :=
  let cache := match written.directory with
    | none => service.cache
    | some directory => service.cache.advance platform username directory
  { service with table := written.table.getD service.table, cache }.answer username
    (.done written.table.isSome)

def step (call : MetadataCall) : MetadataService :=
  match checkRead call.username call.op with
  | some check => service.performRead platform collation call.username call.choices.clocks check
  | none =>
    match writeOp collation service.table call.username (service.resultsOf call.username)
        call.choices.insert call.op with
    | some written => service.performWrite platform call.username written
    | none =>
      match call.op with
      | .prepare directory name =>
        service.answer call.username
          (.parent (service.table.prepareUpload collation call.username directory name))
      | _ => service

end MetadataService

end Tlss.Ftp
