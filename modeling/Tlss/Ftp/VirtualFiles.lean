import Tlss.Ftp.ServerOutput

/-!
# The table of virtual files

The directories and files of all users are rows of one table, `virtual_files`. A row has
its path as a string, and the id of the row of its directory. The functions here are the
statements that `MetadataService` prepares, on a list of rows in the order of their ids.

The database compares strings by the weights of their collation, in which letters that
differ in case or accent are alike. The collation is a parameter; of it only the slash
matters, which has a weight of its own and is weighed apart from what is around it.
-/

namespace Tlss.Ftp

open Library

/-! ## Comparing strings -/

/-- How the database compares strings: equal are those with the same weights. -/
structure Collation (Weight : Type*) where
  weights : Bytes → List Weight
  slash : Weight
  weights_nil : weights [] = []
  weights_append : ∀ left right,
    weights (left ++ 47 :: right) = weights left ++ slash :: weights right

/-- Weights that make no difference between capital and small ASCII letters. -/
def asciiCollation : Collation UInt8 where
  weights text := text.map fun byte => if 65 ≤ byte && byte ≤ 90 then byte + 32 else byte
  slash := 47
  weights_nil := rfl
  weights_append left right := by simp

/-! ## The table -/

inductive FileType
  | file
  | directory
deriving DecidableEq

def FileType.text : FileType → Bytes
  | file => ascii "file"
  | directory => ascii "directory"

/-- A row of `virtual_files`; the parent of a root, which is -1, is `none`. -/
structure VirtualFile where
  id : ℕ
  fileName : Bytes
  username : Bytes
  parentId : Option ℕ
  path : Bytes
  fileType : FileType
  objectHash : Option Bytes := none
  createdAt : Bytes := []
  updatedAt : Bytes := []
deriving DecidableEq

/-- The table, with the next value of its `AUTO_INCREMENT`. -/
structure VirtualFiles where
  rows : List VirtualFile := []
  nextId : ℕ := 1
deriving DecidableEq

/-- What the database decides about an insertion: whether it fails for a reason that is not
in the table, how many ids it leaves out, and the time. -/
structure InsertChoices where
  accepted : Bool := true
  skipped : ℕ := 0
  now : Bytes := []
deriving DecidableEq

def joinPath (directory name : Bytes) : Bytes :=
  if directory = ascii "/" then directory ++ name else directory ++ ascii "/" ++ name

def validHash (hash : Bytes) : Bool :=
  hash.length = 64 && hash.all fun byte => (48 ≤ byte && byte ≤ 57) || (97 ≤ byte && byte ≤ 102)

namespace VirtualFiles

variable {Weight : Type*} [DecidableEq Weight] (collation : Collation Weight)

def same (left right : Bytes) : Bool := collation.weights left = collation.weights right

def checked (row : VirtualFile) : Bool :=
  match row.parentId with
  | none =>
    same collation row.fileName (ascii "/") && same collation row.path (ascii "/") &&
      row.fileType = .directory
  | some _ => !same collation row.path (ascii "/")

def sibling (row other : VirtualFile) : Bool :=
  same collation other.username row.username && other.parentId = row.parentId &&
    same collation other.fileName row.fileName

variable (table : VirtualFiles)

/-- `INSERT`: the row gets its id and the time. -/
def insert (row : VirtualFile) (choices : InsertChoices) : Option VirtualFiles :=
  if choices.accepted && checked collation row && !table.rows.any (sibling collation row) then
    let id := table.nextId + choices.skipped
    let row := { row with id, createdAt := choices.now, updatedAt := choices.now }
    some { rows := table.rows ++ [row], nextId := id + 1 }
  else none

/-! ## Statements -/

/-- The root of a user, as `create_user_with_root` inserts it. -/
def createRoot (username : Bytes) (choices : InsertChoices) : Option VirtualFiles :=
  table.insert collation
    { id := 0, fileName := ascii "/", username, parentId := none, path := ascii "/",
      fileType := .directory } choices

def atPath (username path : Bytes) (row : VirtualFile) : Bool :=
  same collation row.username username && same collation row.path path

def childOf (username : Bytes) (parent : ℕ) (row : VirtualFile) : Bool :=
  same collation row.username username && row.parentId = some parent

def findFileByCurrentDir (username currentDirectory : Bytes) : Option (List FileInfo) :=
  if username.isEmpty || currentDirectory.isEmpty then none
  else
    match table.rows.find? (atPath collation username currentDirectory) with
    | none => none
    | some directory =>
      some <| (table.rows.filter (childOf collation username directory.id)).map fun row =>
        ⟨row.fileName, row.fileType.text, row.createdAt, row.updatedAt⟩

/-- The parent of the join, `parent.id = child.parent_id AND parent.username =
child.username`, which is a directory. -/
def parentOf (child parent : VirtualFile) : Bool :=
  child.parentId = some parent.id && same collation parent.username child.username &&
    parent.fileType = .directory

/-- The query of `move_dir_by_current_dir_db` for a directory in the current one. -/
def selectChild (username name currentDirectory : Bytes) : Option Bytes :=
  (table.rows.find? fun child =>
    same collation child.username username && same collation child.fileName name &&
      child.fileType = .directory && table.rows.any fun parent =>
        parentOf collation child parent && same collation parent.path currentDirectory).map
    VirtualFile.path

/-- The query of `move_dir_by_current_dir_db` for the parent of the current directory. -/
def selectParent (username currentDirectory : Bytes) : Option Bytes :=
  table.rows.findSome? fun child =>
    if atPath collation username currentDirectory child && child.fileType = .directory then
      (table.rows.find? (parentOf collation child)).map VirtualFile.path
    else none

def moveDirByCurrentDir (username currentDirectory dirName : Bytes) : Option Bytes :=
  if username.isEmpty || currentDirectory.isEmpty || dirName.isEmpty then none
  else if dirName = ascii ".." && currentDirectory = ascii "/" then some (ascii "/")
  else
    let path :=
      if dirName ≠ ascii ".." then table.selectChild collation username dirName currentDirectory
      else table.selectParent collation username currentDirectory
    path.filter fun path => !path.isEmpty

def createDir (username currentDirectory directory : Bytes)
    (choices : InsertChoices) : Option VirtualFiles :=
  if username.isEmpty || currentDirectory.isEmpty || directory.isEmpty then none
  else
    match table.rows.find? (atPath collation username currentDirectory) with
    | none => none
    | some parent =>
      table.insert collation
        { id := 0, fileName := directory, username, parentId := some parent.id,
          path := joinPath currentDirectory directory, fileType := .directory } choices

def prepareUpload (username directory fileName : Bytes) : Option ℕ :=
  if username.isEmpty || directory.isEmpty || !validName fileName then none
  else if (joinPath directory fileName).length > 1024 then none
  else
    (table.rows.find? fun parent =>
      atPath collation username directory parent && parent.fileType = .directory &&
        !table.rows.any fun file =>
          same collation file.username parent.username && file.parentId = some parent.id &&
            same collation file.fileName fileName).map VirtualFile.id

def commitUpload (username : Bytes) (parentId : ℕ)
    (directory fileName hash : Bytes) (choices : InsertChoices) : Option VirtualFiles :=
  if !validName fileName || !validHash hash then none
  else if (joinPath directory fileName).length > 1024 then none
  else
    match table.rows.find? fun parent =>
        parent.id = parentId && atPath collation username directory parent &&
          parent.fileType = .directory with
    | none => none
    | some parent =>
      table.insert collation
        { id := 0, fileName, username := parent.username, parentId := some parent.id,
          path := joinPath directory fileName, fileType := .file, objectHash := some hash }
        choices

def findDownloadHash (username directory fileName : Bytes) : Option Bytes :=
  if !validName fileName then none
  else
    match table.rows.find? fun file =>
        same collation file.username username && same collation file.fileName fileName &&
          file.fileType = .file && table.rows.any fun parent =>
            parentOf collation file parent && same collation parent.path directory with
    | none => none
    | some file => file.objectHash.filter validHash

end VirtualFiles

end Tlss.Ftp
