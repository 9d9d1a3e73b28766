import Tlss.Ftp.CommandLine
import Tlss.Ftp.VirtualFiles

/-!
# Directories by their paths

A session holds its current directory as a string, and the table of virtual files is asked
for the row with that path. The keys of the table only make names unique among siblings.
Paths are unique because they spell the names from the root on, as long as no name contains
a slash as the collation weighs it: the last slash of a path then ends the path of its
directory (`Tree.path_unique`).

The server checks the names of uploads, but takes any name for `mkdir`. With `a/b` there
are two rows with the path `/a/b`.
-/

namespace Tlss.Ftp

open Library List

/-! ## Sessions and their tasks -/

inductive PathCommand
  | cd (name : Bytes)
  | mkdir (name : Bytes)
  | upload (name : Bytes)
deriving DecidableEq

def PathCommand.accepted : PathCommand → Bool
  | cd name | mkdir name => mkdirName name
  | upload name => validName name

def PathCommand.isCd : PathCommand → Bool
  | cd _ => true
  | mkdir _ | upload _ => false

inductive PathTask
  | cd (session : ℕ) (username directory name : Bytes)
  | mkdir (username directory name : Bytes)
  | prepare (username directory name : Bytes)
  | commit (username : Bytes) (parentId : ℕ) (directory name : Bytes)
deriving DecidableEq

structure PathSession where
  username : Bytes
  currentDirectory : Bytes := ascii "/"
  directoryChangePending : Bool := false
deriving DecidableEq

structure DirectoryTree where
  table : VirtualFiles := {}
  sessions : ℕ → Option PathSession := fun _ => none
  tasks : List PathTask := []

/-- How a task ends: whether the database answers, what it decides about an insertion, and
the hash of an upload. -/
structure TaskChoices where
  available : Bool := true
  insert : InsertChoices := {}
  hash : Bytes := []
deriving DecidableEq

namespace DirectoryTree

variable {Weight : Type*} [DecidableEq Weight] (collation : Collation Weight)

def task (index : ℕ) (session : PathSession) : PathCommand → PathTask
  | .cd name => .cd index session.username session.currentDirectory name
  | .mkdir name => .mkdir session.username session.currentDirectory name
  | .upload name => .prepare session.username session.currentDirectory name

/-- A session submits the task of a command, unless it waits for a `cd`. -/
def submit (tree : DirectoryTree) (index : ℕ) (session : PathSession) (command : PathCommand) :
    DirectoryTree :=
  if session.directoryChangePending || !command.accepted then tree
  else
    { tree with
      tasks := tree.tasks ++ [task index session command]
      sessions := Function.update tree.sessions index <| some
        { session with directoryChangePending := command.isCd } }

/-- The callback of `move_file_by_cur_dir`. -/
def moved (tree : DirectoryTree) (index : ℕ) (path : Option Bytes) : DirectoryTree :=
  match tree.sessions index with
  | none => tree
  | some session =>
    { tree with
      sessions := Function.update tree.sessions index <| some
        { session with
          directoryChangePending := false
          currentDirectory := path.getD session.currentDirectory } }

/-- A worker runs a task. Where the database does not answer, the task fails. -/
def perform (tree : DirectoryTree) (task : PathTask) (choices : TaskChoices) : DirectoryTree :=
  match task with
  | .cd session username directory name =>
    tree.moved session <|
      if choices.available then tree.table.moveDirByCurrentDir collation username directory name
      else none
  | .mkdir username directory name =>
    match tree.table.createDir collation username directory name choices.insert with
    | none => tree
    | some table => { tree with table }
  | .prepare username directory name =>
    match tree.table.prepareUpload collation username directory name with
    | none => tree
    | some parentId =>
      { tree with tasks := tree.tasks ++ [.commit username parentId directory name] }
  | .commit username parentId directory name =>
    match tree.table.commitUpload collation username parentId directory name choices.hash
      choices.insert with
    | none => tree
    | some table => { tree with table }

inductive Event
  | signup (username : Bytes) (choices : InsertChoices)
  | login (session : ℕ) (username : Bytes)
  | command (session : ℕ) (command : PathCommand)
  | perform (index : ℕ) (choices : TaskChoices)
deriving DecidableEq

def hasRoot (tree : DirectoryTree) (username : Bytes) : Bool :=
  tree.table.rows.any fun row => row.parentId = none && row.username = username

/-- One step. A user logs in on a new session with the name that is in the table, once the
signup has inserted the root. -/
def step (tree : DirectoryTree) : Event → DirectoryTree
  | .signup username choices =>
    match tree.table.createRoot collation username choices with
    | none => tree
    | some table => { tree with table }
  | .login session username =>
    if tree.hasRoot username && (tree.sessions session).isNone then
      { tree with sessions := Function.update tree.sessions session (some { username }) }
    else tree
  | .command index command =>
    match tree.sessions index with
    | none => tree
    | some session => tree.submit index session command
  | .perform index choices =>
    match tree.tasks[index]? with
    | none => tree
    | some task => { tree with tasks := tree.tasks.eraseIdx index }.perform collation task choices

def Plain (name : Bytes) : Prop := collation.slash ∉ collation.weights name

/-- The event gives `mkdir` or `upload` no name with a slash. -/
def PlainEvent : Event → Prop
  | .command _ (.mkdir name) | .command _ (.upload name) => Plain collation name
  | _ => True

instance decidablePlainEvent (event : Event) : Decidable (PlainEvent collation event) := by
  unfold PlainEvent Plain
  split <;> infer_instance

end DirectoryTree

/-! ## Paths spell names -/

lemma append_separator_inj {α : Type*} {separator : α} {left right last last' : List α}
    (hlast : separator ∉ last) (hlast' : separator ∉ last')
    (heq : left ++ separator :: last = right ++ separator :: last') :
    left = right ∧ last = last' := by
  induction left generalizing right with
  | nil =>
    cases right with
    | nil => exact ⟨rfl, (cons.inj heq).2⟩
    | cons head right =>
      have htail : last = right ++ separator :: last' := (cons.inj heq).2
      exact absurd (htail ▸ by simp : separator ∈ last) hlast
  | cons head left ih =>
    cases right with
    | nil =>
      have htail : left ++ separator :: last = last' := (cons.inj heq).2
      exact absurd (htail ▸ by simp : separator ∈ last') hlast'
    | cons head' right =>
      obtain ⟨hhead, htail⟩ := cons.inj heq
      obtain ⟨hleft, hlasts⟩ := ih htail
      exact ⟨by rw [hhead, hleft], hlasts⟩

namespace VirtualFiles

variable {Weight : Type*} [DecidableEq Weight] {collation : Collation Weight} {table : VirtualFiles}
  {r y : VirtualFile}

@[simp] lemma same_iff {left right : Bytes} :
    same collation left right = true ↔ collation.weights left = collation.weights right := by
  simp [same]

omit [DecidableEq Weight] in
lemma weights_root : collation.weights (ascii "/") = [collation.slash] := by
  have hslash := collation.weights_append [] []
  rw [collation.weights_nil] at hslash
  exact hslash

def childWeights (collation : Collation Weight) (parent : VirtualFile) (name : Bytes) :
    List Weight :=
  if parent.parentId = none then collation.slash :: collation.weights name
  else collation.weights parent.path ++ collation.slash :: collation.weights name

/-- A table in which every row is a root, or is where its parent and its name say. -/
structure Tree (collation : Collation Weight) (table : VirtualFiles) : Prop where
  ids : ∀ row ∈ table.rows, ∀ other ∈ table.rows, row.id = other.id → row = other
  fresh : ∀ row ∈ table.rows, row.id < table.nextId
  siblings : ∀ row ∈ table.rows, ∀ other ∈ table.rows,
    sibling collation row other = true → row = other
  roots : ∀ row ∈ table.rows, row.parentId = none →
    row.path = ascii "/" ∧ row.fileName = ascii "/" ∧ row.fileType = .directory
  names : ∀ row ∈ table.rows, row.parentId ≠ none → DirectoryTree.Plain collation row.fileName
  paths : ∀ row ∈ table.rows, row.parentId ≠ none →
    collation.weights row.path ≠ [collation.slash]
  placed : ∀ row ∈ table.rows, ∀ id, row.parentId = some id → ∃ parent ∈ table.rows,
    parent.id = id ∧ collation.weights parent.username = collation.weights row.username ∧
    parent.fileType = .directory ∧
    collation.weights row.path = childWeights collation parent row.fileName

/-- The weights before the last slash of a path: those of the directory, or none if that is
a root. -/
def directoryWeights (collation : Collation Weight) (parent : VirtualFile) : List Weight :=
  if parent.parentId = none then [] else collation.weights parent.path

omit [DecidableEq Weight] in
lemma childWeights_eq (par : VirtualFile) (name : Bytes) : childWeights collation par name =
      directoryWeights collation par ++ collation.slash :: collation.weights name := by
  unfold childWeights directoryWeights
  split <;> rfl

lemma Tree.weights_ne_nil (htree : Tree collation table)
    (hrow : r ∈ table.rows) : collation.weights r.path ≠ [] := by
  cases hparent : r.parentId with
  | none =>
    rw [(htree.roots r hrow hparent).1, weights_root]
    simp
  | some id =>
    obtain ⟨par, _, _, _, _, hpath⟩ := htree.placed r hrow id hparent
    rw [hpath, childWeights_eq]
    simp

/-- Two directories with the same weights before the last slash are both roots, or both have
a path with these weights. -/
lemma Tree.directoryWeights_inj (htree : Tree collation table)
    (hrow : r ∈ table.rows) (hne : y ∈ table.rows)
    (heq : directoryWeights collation r = directoryWeights collation y) :
    collation.weights r.path = collation.weights y.path := by
  unfold directoryWeights at heq
  split at heq
  · rename_i hroot
    split at heq
    · rename_i hroot'
      rw [(htree.roots r hrow hroot).1, (htree.roots y hne hroot').1]
    · exact absurd heq.symm (htree.weights_ne_nil hne)
  · split at heq
    · exact absurd heq (htree.weights_ne_nil hrow)
    · exact heq

lemma Tree.path_unique (htree : Tree collation table) (hrow : r ∈ table.rows) (hne : y ∈ table.rows)
    (huser : collation.weights r.username = collation.weights y.username)
    (hpath : collation.weights r.path = collation.weights y.path) : r = y := by
  -- The path of the directory is shorter, so the induction is on the length of the weights.
  induction hlength : (collation.weights r.path).length using Nat.strong_induction_on
    generalizing r y with
  | _ length ih =>
    cases hparent : r.parentId with
    | none =>
      have hroot := htree.roots r hrow hparent
      have hparent' : y.parentId = none := by
        by_contra hparent'
        apply htree.paths y hne hparent'
        rw [← hpath, hroot.1, weights_root]
      have hroot' := htree.roots y hne hparent'
      apply htree.siblings r hrow y hne
      simp [sibling, huser, hparent, hparent', hroot.2.1, hroot'.2.1]
    | some id =>
      cases hparent' : y.parentId with
      | none =>
        exfalso
        apply htree.paths r hrow (by simp [hparent])
        rw [hpath, (htree.roots y hne hparent').1, weights_root]
      | some id' =>
        obtain ⟨par, hmem, hid, hname, _, hweights⟩ := htree.placed r hrow id hparent
        obtain ⟨parent', hmem', hid', hname', _, hweights'⟩ :=
          htree.placed y hne id' hparent'
        rw [childWeights_eq] at hweights hweights'
        have hsplit := append_separator_inj (htree.names r hrow (by simp [hparent]))
          (htree.names y hne (by simp [hparent']))
          (hweights.symm.trans (hpath.trans hweights'))
        have hdirectory : par = parent' := by
          have hsame := htree.directoryWeights_inj hmem hmem' hsplit.1
          by_cases hroot : par.parentId = none
          · have hroot' : parent'.parentId = none := by
              by_contra hroot'
              apply htree.paths parent' hmem' hroot'
              rw [← hsame, (htree.roots par hmem hroot).1, weights_root]
            apply htree.siblings par hmem parent' hmem'
            simp [sibling, hname, hname', huser, hroot, hroot',
              (htree.roots par hmem hroot).2.1, (htree.roots parent' hmem' hroot').2.1]
          · apply ih (collation.weights par.path).length ?_ hmem hmem' ?_ hsame rfl
            · rw [← hlength, hweights, directoryWeights, if_neg hroot]
              simp
            · rw [hname, hname', huser]
        apply htree.siblings r hrow y hne
        have hids : id' = id := by rw [← hid, ← hid', hdirectory]
        simp [sibling, huser, hparent, hparent', hids, hsplit.2]

end VirtualFiles

end Tlss.Ftp
