import Tlss.Library.CrashProgram
import Tlss.Library.DurableDirectory
import Tlss.Monitor.AlarmProtocol

/-!
# The alarm spool

`alarm_spool.cpp`: a directory of complete `ALARM` frames with a `tmp` and a
`corrupt` directory beside it. `store` writes a temporary file, syncs it,
renames it to its final name and syncs both directories; `next` looks for the
least path; `read` checks what it reads and moves a damaged file away; `remove`
and `quarantine` take a file out.

Each operation is a program whose steps are the system calls that change a
directory, so that the process can die between any two of them. Every system
call may fail; the `…Faults` records say which do, and `damage` is what the
medium returns in place of a file that has gone bad. Paths are relative to the
data directory. Symbolic links and other things that only an outsider could put
there are not modelled.
-/

namespace Tlss.Monitor

open Library

/-! ## Names -/

def slash : UInt8 := 0x2f

def hexDigit (nibble : ℕ) : UInt8 :=
  [0x30, 0x31, 0x32, 0x33, 0x34, 0x35, 0x36, 0x37, 0x38, 0x39, 0x61, 0x62, 0x63, 0x64, 0x65,
    0x66].getD nibble 0

/-- The loop of `hex_u64`: the last digit first, then the number without it. -/
def hexDigits : ℕ → ℕ → Bytes
  | 0, _ => []
  | n + 1, value => hexDigits n (value / 16) ++ [hexDigit (value % 16)]

def hexU64 (value : UInt64) : Bytes := hexDigits 16 value.toNat

def hexByte (byte : UInt8) : Bytes := [hexDigit (byte.toNat / 16), hexDigit (byte.toNat % 16)]

def hexMessageId (messageId : AlarmMessageId) : Bytes := messageId.bytes.flatMap hexByte

def alarmSuffix : Bytes := [0x2e, 0x61, 0x6c, 0x61, 0x72, 0x6d]

def alarmFilename (sourceId : UInt64) (messageId : AlarmMessageId) : Bytes :=
  hexU64 sourceId ++ (0x2d :: (hexMessageId messageId ++ alarmSuffix))

/-- The decimal digits of a number, as `std::to_string` writes them. -/
def decimal (value : ℕ) : Bytes := (Nat.toDigits 10 value).map fun digit => UInt8.ofNat digit.toNat

variable (path : Bytes)

def fileName : Bytes := (path.reverse.takeWhile (· != slash)).reverse

/-- `path::parent_path`, with its final slash; empty for the data directory itself. -/
def parentPath : Bytes := path.take (path.length - (fileName path).length)

/-! ## Spools -/

inductive AlarmSpoolKind where
  | outbox
  | inbox
deriving DecidableEq, Repr

inductive AlarmSpoolStatus where
  | success
  | duplicate
  | full
  | empty
  | invalidArgument
  | notReady
  | notFound
  | outsideRoot
  | invalidFrame
  | corrupt
  | ioError
deriving DecidableEq, Repr

/-- `AlarmSpoolStoreResult` and `AlarmSpoolPathResult`. -/
structure AlarmSpoolPathResult where
  status : AlarmSpoolStatus
  path : Bytes
  systemError : ℤ
deriving DecidableEq, Repr

structure AlarmSpoolReadResult where
  status : AlarmSpoolStatus
  path : Bytes
  bytes : Bytes
  systemError : ℤ
deriving DecidableEq, Repr

/-- A spool: its configuration, the state of the object and its three
directories. A limit of zero means no limit. -/
structure AlarmSpool where
  kind : AlarmSpoolKind
  maxBytes : ℕ
  ready : Bool
  setupError : ℤ
  pid : ℕ
  temporarySequence : ℕ
  data : DurableDirectory Bytes Bytes
  tmp : DurableDirectory Bytes Bytes
  corrupt : DurableDirectory Bytes Bytes

/-- The directory of the final path, with its final slash: an inbox has one
directory for each source. -/
def spoolParent (kind : AlarmSpoolKind) (sourceId : UInt64) : Bytes :=
  match kind with
  | .outbox => []
  | .inbox => hexU64 sourceId ++ [slash]

def spoolPath (kind : AlarmSpoolKind) (sourceId : UInt64) (messageId : AlarmMessageId) : Bytes :=
  spoolParent kind sourceId ++ alarmFilename sourceId messageId

/-- The errors `EIO`, `EEXIST` and `EOVERFLOW`. -/
def eio : ℤ := 5

@[inherit_doc eio]
def eexist : ℤ := 17

@[inherit_doc eio]
def eoverflow : ℤ := 75

def isAlarmWire (bytes : Bytes) : Bool :=
  match decodeAlarmFrame bytes with
  | .ok frame => frame.type == .alarm
  | .error _ => false

/-! ## Scanning -/

structure ScanResult where
  files : ℕ
  bytes : ℕ
  first : Option Bytes
deriving DecidableEq, Repr

def scanEntry (result : Except ℤ ScanResult) (entry : Bytes × Bytes) : Except ℤ ScanResult :=
  match result with
  | .error error => .error error
  | .ok result =>
    if result.bytes > 2 ^ 64 - 1 - entry.2.length then .error eoverflow
    else
      .ok ⟨result.files + 1, result.bytes + entry.2.length,
        match result.first with
        | none => some entry.1
        | some first => if entry.1 < first then some entry.1 else some first⟩

/-- What may go wrong in a scan. The iterator or `file_size` fails with an error; a file whose
`symlink_status` fails is skipped, since nobody looks at that error. -/
structure ScanFaults where
  failure : Option ℤ
  skipped : List Bytes
deriving DecidableEq, Repr

def ScanFaults.clean : ScanFaults := ⟨none, []⟩

/-- `scan_regular_files`. -/
def scanRegularFiles (faults : ScanFaults) (directory : DurableDirectory Bytes Bytes) :
    Except ℤ ScanResult :=
  match faults.failure with
  | some error => .error error
  | none =>
    let seen := directory.files.filter fun entry => !faults.skipped.contains entry.1
    seen.foldl scanEntry (.ok ⟨0, 0, none⟩)

def AlarmSpool.next (spool : AlarmSpool) (faults : ScanFaults) : AlarmSpoolPathResult :=
  if !spool.ready then ⟨.notReady, [], spool.setupError⟩
  else
    match scanRegularFiles faults spool.data with
    | .error error => ⟨.ioError, [], error⟩
    | .ok scan =>
      match scan.first with
      | none => ⟨.empty, [], 0⟩
      | some path => ⟨.success, path, 0⟩

/-! ## Storing -/

/-- What may go wrong in `store`, call by call. A failing write leaves the
number of bytes it has written, and the two clean-ups may fail silently. -/
structure StoreFaults where
  ensureDirectory : Option ℤ
  existsCheck : Option ℤ
  scan : ScanFaults
  create : Option ℤ
  write : Option (ℕ × ℤ)
  fdatasync : Option ℤ
  close : Option ℤ
  rename : Option ℤ
  syncParent : Option ℤ
  syncTmp : Option ℤ
  unlinkFinal : Bool
  unlinkTemporary : Bool
  resyncParent : Bool
deriving DecidableEq, Repr

def StoreFaults.clean : StoreFaults :=
  ⟨none, none, .clean, none, none, none, none, none, none, none, false, false, false⟩

def temporaryName (pid sequence : ℕ) : Bytes :=
  decimal pid ++ (0x2d :: (decimal sequence ++ [0x2e, 0x74, 0x6d, 0x70]))

namespace AlarmSpool

/-- How an attempt to create a temporary file ends. -/
inductive Creation where
  | taken
  | failed (error : ℤ)
  | created (name : Bytes)

/-- One attempt to create a temporary file with `O_EXCL`. -/
def tryCreate (fault : Option ℤ) : CrashProgram AlarmSpool Creation :=
  .atomic fun spool =>
    let spool := { spool with temporarySequence := spool.temporarySequence + 1 }
    let name := temporaryName spool.pid spool.temporarySequence
    if (spool.tmp.lookup name).isSome then (.taken, spool)
    else
      match fault with
      | some error => (.failed error, spool)
      | none => (.created name, { spool with tmp := spool.tmp.put name [] })

def createTemporary (fault : Option ℤ) : ℕ → CrashProgram AlarmSpool (Except ℤ Bytes)
  | 0 => pure (.error eexist)
  | attempts + 1 => do
      match ← tryCreate fault with
      | .taken => createTemporary fault attempts
      | .failed error => pure (.error error)
      | .created name => pure (.ok name)

def writeAll (name wire : Bytes) (fault : Option (ℕ × ℤ)) : CrashProgram AlarmSpool (Option ℤ) :=
  .atomic fun spool =>
    match fault with
    | some (count, error) =>
      (some error, { spool with tmp := spool.tmp.put name (wire.take count) })
    | none => (none, { spool with tmp := spool.tmp.put name wire })

def removeTemporary (name : Bytes) (fails : Bool) : CrashProgram AlarmSpool Unit :=
  .atomic fun spool => ((), if fails then spool else { spool with tmp := spool.tmp.drop name })

def publish (name path wire : Bytes) : CrashProgram AlarmSpool Unit :=
  .atomic fun spool =>
    ((), { spool with tmp := spool.tmp.drop name, data := spool.data.put path wire })

/-- `sync_directory` of a directory inside the data directory. -/
def syncData (parent : Bytes) (fault : Option ℤ) : CrashProgram AlarmSpool (Option ℤ) :=
  .atomic fun spool =>
    match fault with
    | some error => (some error, spool)
    | none => (none, { spool with data := spool.data.sync parent.isPrefixOf })

def syncTmp (fault : Option ℤ) : CrashProgram AlarmSpool (Option ℤ) :=
  .atomic fun spool =>
    match fault with
    | some error => (some error, spool)
    | none => (none, { spool with tmp := spool.tmp.sync fun _ => true })

def syncCorrupt (fault : Option ℤ) : CrashProgram AlarmSpool (Option ℤ) :=
  .atomic fun spool =>
    match fault with
    | some error => (some error, spool)
    | none => (none, { spool with corrupt := spool.corrupt.sync fun _ => true })

def unlinkData (fails : Bool) : CrashProgram AlarmSpool Bool :=
  .atomic fun spool =>
    if fails then (false, spool) else (true, { spool with data := spool.data.drop path })

/-- Take back a rename whose directories could not be synced. -/
def rollBack (parent path : Bytes) (faults : StoreFaults) (error : ℤ) :
    CrashProgram AlarmSpool AlarmSpoolPathResult := do
  let _ ← unlinkData path faults.unlinkFinal
  let _ ← syncData parent (if faults.resyncParent then some eio else none)
  pure ⟨.ioError, [], error⟩

/-- The end of `store`: rename and make the rename durable. -/
def commit (parent path name wire : Bytes) (faults : StoreFaults) :
    CrashProgram AlarmSpool AlarmSpoolPathResult := do
  match faults.rename with
  | some error =>
    removeTemporary name faults.unlinkTemporary
    pure ⟨.ioError, [], error⟩
  | none =>
    publish name path wire
    match ← syncData parent faults.syncParent with
    | some error => rollBack parent path faults error
    | none =>
      match ← syncTmp faults.syncTmp with
      | some error => rollBack parent path faults error
      | none => pure ⟨.success, path, 0⟩

/-- The part of `store` behind the capacity check. -/
def writeAndCommit (parent path wire : Bytes) (faults : StoreFaults) :
    CrashProgram AlarmSpool AlarmSpoolPathResult := do
  match ← createTemporary faults.create 100 with
  | .error error => pure ⟨.ioError, [], error⟩
  | .ok name =>
    match ← writeAll name wire faults.write with
    | some error =>
      removeTemporary name faults.unlinkTemporary
      pure ⟨.ioError, [], error⟩
    | none =>
      -- the data is on disk before the file gets its final name
      match faults.fdatasync.or faults.close with
      | some error =>
        removeTemporary name faults.unlinkTemporary
        pure ⟨.ioError, [], error⟩
      | none => commit parent path name wire faults

/-- The capacity check of `store`. -/
def exceeds (spool : AlarmSpool) (scan : ScanResult) (wire : Bytes) : Bool :=
  scan.bytes > spool.maxBytes || wire.length > spool.maxBytes - scan.bytes

/-- The part of `store` that runs under the mutex. -/
def storeLocked (sourceId : UInt64) (messageId : AlarmMessageId) (wire : Bytes)
    (faults : StoreFaults) : CrashProgram AlarmSpool AlarmSpoolPathResult := do
  let spool ← .peek id
  let parent := spoolParent spool.kind sourceId
  let path := spoolPath spool.kind sourceId messageId
  match (if spool.kind = .inbox then faults.ensureDirectory else none).or faults.existsCheck with
  | some error => pure ⟨.ioError, [], error⟩
  | none =>
    -- a message that is there already is a duplicate even if the spool is full
    if (spool.data.lookup path).isSome then pure ⟨.duplicate, path, 0⟩
    else if spool.maxBytes = 0 then writeAndCommit parent path wire faults
    else
      match scanRegularFiles faults.scan spool.data with
      | .error error => pure ⟨.ioError, [], error⟩
      | .ok scan =>
        if spool.exceeds scan wire then pure ⟨.full, [], 0⟩
        else writeAndCommit parent path wire faults

def store (sourceId : UInt64) (messageId : AlarmMessageId) (wire : Bytes) (faults : StoreFaults) :
    CrashProgram AlarmSpool AlarmSpoolPathResult := do
  let spool ← .peek id
  if !spool.ready then pure ⟨.notReady, [], spool.setupError⟩
  else if wire.isEmpty || wire.length > alarmMaxFrameSize then pure ⟨.invalidArgument, [], 0⟩
  else
    match decodeAlarmFrame wire with
    | .error _ => pure ⟨.invalidFrame, [], 0⟩
    | .ok frame =>
      if frame.type ≠ .alarm then pure ⟨.invalidFrame, [], 0⟩
      else if frame.sourceId ≠ sourceId ∨ frame.messageId ≠ messageId then
        pure ⟨.invalidArgument, [], 0⟩
      else storeLocked sourceId messageId wire faults

/-! ## Reading and taking out -/

/-- What may go wrong in `move_to_corrupt`. -/
structure MoveFaults where
  existsCheck : Option ℤ
  rename : Option ℤ
  syncCorrupt : Option ℤ
  syncSource : Option ℤ
deriving DecidableEq, Repr

def MoveFaults.clean : MoveFaults := ⟨none, none, none, none⟩

/-- The directories a file can be moved to `corrupt` from. -/
inductive MoveSource where
  | data
  | tmp
deriving DecidableEq, Repr

def MoveSource.directory (source : MoveSource) (spool : AlarmSpool) :
    DurableDirectory Bytes Bytes :=
  match source with
  | .data => spool.data
  | .tmp => spool.tmp

def renameToCorrupt (source : MoveSource) (path target : Bytes) : CrashProgram AlarmSpool Unit :=
  .atomic fun spool =>
    match (source.directory spool).lookup path with
    | none => ((), spool)
    | some content =>
      let spool := { spool with corrupt := spool.corrupt.put target content }
      match source with
      | .data => ((), { spool with data := spool.data.drop path })
      | .tmp => ((), { spool with tmp := spool.tmp.drop path })

def syncSource (source : MoveSource) (path : Bytes) (fault : Option ℤ) :
    CrashProgram AlarmSpool (Option ℤ) :=
  match source with
  | .data => syncData (parentPath path) fault
  | .tmp => syncTmp fault

/-- The name of attempt `suffix` in the `corrupt` directory. -/
def corruptName (suffix : ℕ) : Bytes :=
  if suffix = 0 then fileName path else fileName path ++ (0x2e :: decimal suffix)

/-- `move_to_corrupt`: the loop over `suffix`, with the attempts that are left. A check that
fails counts as a name that is free. -/
def moveToCorrupt (source : MoveSource) (path : Bytes) (faults : MoveFaults) (suffix : ℕ) :
    ℕ → CrashProgram AlarmSpool (Except ℤ Bytes)
  | 0 => pure (.error eexist)
  | attempts + 1 => do
      let spool ← .peek id
      let target := corruptName path suffix
      if (spool.corrupt.lookup target).isSome && faults.existsCheck.isNone then
        moveToCorrupt source path faults (suffix + 1) attempts
      else
        match faults.rename with
        | some error => pure (.error error)
        | none =>
          renameToCorrupt source path target
          match ← syncCorrupt faults.syncCorrupt with
          | some error => pure (.error error)
          | none =>
            match ← syncSource source path faults.syncSource with
            | some error => pure (.error error)
            | none => pure (.ok target)

/-- What may go wrong in `read`. `damage` is what the medium returns in place of
a file that has gone bad; damage that the checksum does not see is left out. -/
structure ReadFaults where
  resolve : Option ℤ
  openFile : Option ℤ
  damage : Option Bytes
  readAll : Option ℤ
  move : MoveFaults
deriving DecidableEq, Repr

def ReadFaults.clean : ReadFaults := ⟨none, none, none, none, .clean⟩

def ReadFaults.content (faults : ReadFaults) (content : Bytes) : Bytes :=
  match faults.damage with
  | some damaged => if isAlarmWire damaged then content else damaged
  | none => content

def setAside (faults : MoveFaults) :
    CrashProgram AlarmSpool AlarmSpoolReadResult := do
  match ← moveToCorrupt .data path faults 0 1000 with
  | .error error => pure ⟨.ioError, [], [], error⟩
  | .ok target => pure ⟨.corrupt, target, [], 0⟩

def read (faults : ReadFaults) : CrashProgram AlarmSpool AlarmSpoolReadResult := do
  let spool ← .peek id
  if !spool.ready then pure ⟨.notReady, [], [], spool.setupError⟩
  else
    match spool.data.lookup path with
    | none => pure ⟨.notFound, [], [], 2⟩
    | some content =>
      match faults.resolve.or faults.openFile with
      | some error => pure ⟨.ioError, [], [], error⟩
      | none =>
        let bytes := faults.content content
        if bytes.length = 0 || bytes.length > alarmMaxFrameSize then setAside path faults.move
        else
          match faults.readAll with
          | some error => pure ⟨.ioError, [], [], error⟩
          | none =>
            if isAlarmWire bytes then pure ⟨.success, path, bytes, 0⟩
            else setAside path faults.move

structure RemoveFaults where
  resolve : Option ℤ
  unlink : Option ℤ
  syncParent : Option ℤ
deriving DecidableEq, Repr

def RemoveFaults.clean : RemoveFaults := ⟨none, none, none⟩

def remove (faults : RemoveFaults) :
    CrashProgram AlarmSpool AlarmSpoolPathResult := do
  let spool ← .peek id
  if !spool.ready then pure ⟨.notReady, [], spool.setupError⟩
  else
    match spool.data.lookup path with
    | none => pure ⟨.notFound, [], 2⟩
    | some _ =>
      match faults.resolve.or faults.unlink with
      | some error => pure ⟨.ioError, [], error⟩
      | none =>
        let _ ← unlinkData path false
        match ← syncData (parentPath path) faults.syncParent with
        | some error => pure ⟨.ioError, [], error⟩
        | none => pure ⟨.success, path, 0⟩

def quarantine (resolveFault : Option ℤ) (faults : MoveFaults) :
    CrashProgram AlarmSpool AlarmSpoolPathResult := do
  let spool ← .peek id
  if !spool.ready then pure ⟨.notReady, [], spool.setupError⟩
  else
    match spool.data.lookup path with
    | none => pure ⟨.notFound, [], 2⟩
    | some _ =>
      match resolveFault with
      | some error => pure ⟨.ioError, [], error⟩
      | none =>
        match ← moveToCorrupt .data path faults 0 1000 with
        | .error error => pure ⟨.ioError, [], error⟩
        | .ok target => pure ⟨.success, target, 0⟩

/-! ## Starting up -/

/-- Move what a dead process left in `tmp` to `corrupt`. -/
def clearTemporaries (faults : MoveFaults) :
    List Bytes → CrashProgram AlarmSpool (Option ℤ)
  | [] => pure none
  | name :: names => do
      match ← moveToCorrupt .tmp name faults 0 1000 with
      | .error error => pure (some error)
      | .ok _ => clearTemporaries faults names

/-- The rest of `AlarmSpool::Impl::initialize`, once the directories are there:
`setupFault` is a failure to create one of them. -/
def initializeSpool (pid : ℕ) (setupFault : Option ℤ) (faults : MoveFaults) :
    CrashProgram AlarmSpool Unit := do
  .atomic fun spool =>
    ((), { spool with pid := pid, temporarySequence := 0, ready := false, setupError := 0 })
  match setupFault with
  | some error => .atomic fun spool => ((), { spool with setupError := error })
  | none =>
    let spool ← .peek id
    match ← clearTemporaries faults (spool.tmp.files.map Prod.fst) with
    | some error => .atomic fun spool => ((), { spool with setupError := error })
    | none => .atomic fun spool => ((), { spool with ready := true })

end AlarmSpool

def AlarmSpool.fresh (kind : AlarmSpoolKind) (maxBytes pid : ℕ) : AlarmSpool :=
  ⟨kind, maxBytes, true, 0, pid, 0, .empty, .empty, .empty⟩

end Tlss.Monitor
