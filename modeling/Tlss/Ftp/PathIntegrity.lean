import Tlss.Ftp.PathStatements

/-!
# Every path is one directory

In every run in which `mkdir` and `upload` are given no name with a slash, the table is a
`Tree`, and every directory that a session or a task holds as a string is the path of a
directory of its user.
-/

namespace Tlss.Ftp

open Library List Function

variable {Weight : Type*} [DecidableEq Weight] {collation : Collation Weight}

/-! ## Runs -/

namespace DirectoryTree

open VirtualFiles

variable {tree : DirectoryTree} {table after : VirtualFiles} {task : PathTask}

/-- What a task captured is the path of a directory, and what it adds has a plain name. -/
def TaskSound (collation : Collation Weight) (table : VirtualFiles) : PathTask → Prop
  | .cd _ username directory _ => Held collation table username directory
  | .mkdir username directory name | .prepare username directory name
  | .commit username _ directory name =>
    Held collation table username directory ∧ Plain collation name

/-- What holds in every state of a run with plain names. -/
structure Sound (collation : Collation Weight) (tree : DirectoryTree) : Prop where
  grown : Tree collation tree.table
  sessions : ∀ index session, tree.sessions index = some session →
    Held collation tree.table session.username session.currentDirectory
  tasks : ∀ task ∈ tree.tasks, TaskSound collation tree.table task
  moves : ∀ index username directory name, .cd index username directory name ∈ tree.tasks →
    ∃ session, tree.sessions index = some session ∧ session.username = username

omit [DecidableEq Weight] in
lemma TaskSound.mono
    (htask : TaskSound collation table task) (hrows : ∀ row ∈ table.rows, row ∈ after.rows) :
    TaskSound collation after task := by
  cases task with
  | cd session username d name => exact Held.mono htask hrows
  | mkdir username d name | prepare username d name
  | commit username parentId d name => exact ⟨htask.1.mono hrows, htask.2⟩

section

variable (hsound : Sound collation tree)
include hsound

lemma Sound.withTable {table : VirtualFiles}
    (htree : Tree collation table) (hrows : ∀ row ∈ tree.table.rows, row ∈ table.rows) :
    Sound collation { tree with table } where
  grown := htree
  sessions index session hsess := (hsound.sessions index session hsess).mono hrows
  tasks task htask := (hsound.tasks task htask).mono hrows
  moves := hsound.moves

variable {ch : InsertChoices} {index : ℕ} {username : Bytes} {row : VirtualFile}
  {event : Event} {session : PathSession}

omit hsound in
lemma insert_rows (hinsert : table.insert collation row ch = some after) :
    ∀ j ∈ table.rows, j ∈ after.rows := by
  intro j hother
  rw [(insert_spec hinsert).2.2.1]
  exact mem_append_left _ hother

omit hsound in
lemma createDir_rows {path name : Bytes}
    (hcreate : table.createDir collation username path name ch = some after) :
    ∀ j ∈ table.rows, j ∈ after.rows := by
  unfold createDir at hcreate
  split at hcreate
  · simp at hcreate
  · split at hcreate
    · simp at hcreate
    · exact insert_rows hcreate

omit hsound in
lemma commitUpload_rows {path name hash : Bytes} {parentId : ℕ}
    (hcom : table.commitUpload collation username parentId path name hash ch = some after) :
    ∀ j ∈ table.rows, j ∈ after.rows := by
  unfold commitUpload at hcom
  split at hcom
  · simp at hcom
  · split at hcom
    · simp at hcom
    · split at hcom
      · simp at hcom
      · exact insert_rows hcom

omit hsound in
lemma perform_rows {ch : TaskChoices} :
    ∀ row ∈ tree.table.rows, row ∈ (tree.perform collation task ch).table.rows := by
  intro row hrow
  cases task with
  | cd session username d name =>
    simp only [perform, moved]
    split <;> exact hrow
  | mkdir username d name =>
    simp only [perform]
    split
    · exact hrow
    · rename_i table hcreate
      exact createDir_rows hcreate row hrow
  | prepare username d name =>
    simp only [perform]
    split <;> exact hrow
  | commit username parentId d name =>
    simp only [perform]
    split
    · exact hrow
    · rename_i table hcom
      exact commitUpload_rows hcom row hrow

omit hsound in
lemma step_rows : ∀ row ∈ tree.table.rows, row ∈ (tree.step collation event).table.rows := by
  intro row hrow
  cases event with simp only [step]
  | signup username ch =>
    split
    · exact hrow
    · rename_i table hcreate
      exact insert_rows hcreate row hrow
  | login session username =>
    split <;> exact hrow
  | command index command =>
    split
    · exact hrow
    · unfold submit
      split <;> exact hrow
  | perform index ch =>
    split
    · exact hrow
    · exact perform_rows row hrow

omit hsound in
lemma run_rows (events : List Event) (hrow : row ∈ tree.table.rows) :
    row ∈ (run (step collation) tree events).table.rows := by
  have hstep : ∀ (tree : DirectoryTree) event, row ∈ tree.table.rows →
      row ∈ (tree.step collation event).table.rows := fun _ _ hrow => step_rows row hrow
  exact run_invariant hstep hrow events

lemma Sound.onSession {after : PathSession}
    (hsess : tree.sessions index = some session) (huser : after.username = session.username)
    (hheld : Held collation tree.table session.username after.currentDirectory) : Sound collation
      { tree with sessions := Function.update tree.sessions index (some after) } where
  grown := hsound.grown
  sessions j otherSession hother := by
    dsimp only at hother ⊢
    by_cases hi : j = index
    · subst hi
      rw [update_self] at hother
      obtain rfl := Option.some.inj hother
      rw [huser]
      exact hheld
    · rw [update_of_ne hi] at hother
      exact hsound.sessions j otherSession hother
  tasks := hsound.tasks
  moves j username d name htask := by
    obtain ⟨captured, hcaptured, hname⟩ := hsound.moves j username d name htask
    by_cases hi : j = index
    · subst hi
      rw [hsess] at hcaptured
      obtain rfl := Option.some.inj hcaptured
      exact ⟨after, update_self .., huser.trans hname⟩
    · exact ⟨captured, (update_of_ne hi ..).trans hcaptured, hname⟩

lemma Sound.addTask (htask : TaskSound collation tree.table task)
    (hmove : ∀ index username d name, task = .cd index username d name →
      ∃ session, tree.sessions index = some session ∧ session.username = username) :
    Sound collation { tree with tasks := tree.tasks ++ [task] } where
  grown := hsound.grown
  sessions := hsound.sessions
  tasks j hother := by
    rcases mem_append.mp hother with hold | hnew
    · exact hsound.tasks j hold
    · rw [mem_singleton.mp hnew]
      exact htask
  moves index username d name hother := by
    rcases mem_append.mp hother with hold | hnew
    · exact hsound.moves index username d name hold
    · exact hmove index username d name (mem_singleton.mp hnew).symm

lemma Sound.submit {command : PathCommand} (hsess : tree.sessions index = some session)
    (hplain : PlainEvent collation (.command index command)) :
    Sound collation (tree.submit index session command) := by
  have hheld := hsound.sessions index session hsess
  unfold DirectoryTree.submit
  split
  · exact hsound
  · have hsession' : Sound collation { tree with
        sessions := update tree.sessions index <| some
          { session with directoryChangePending := command.isCd } } :=
      hsound.onSession hsess rfl hheld
    refine hsession'.addTask ?_ ?_
    · cases command with
      | cd name => exact hheld
      | mkdir name | upload name => exact ⟨hheld, hplain⟩
    · intro j username d name htask
      cases command with
      | cd name =>
        injection htask with hi husername
        subst hi
        exact ⟨_, update_self .., husername⟩
      | mkdir name | upload name => simp [task] at htask

lemma Sound.moved {path : Option Bytes} (hheld : ∀ result, path = some result →
      Held collation tree.table username result)
    (howner : ∃ session, tree.sessions index = some session ∧ session.username = username) :
    Sound collation (tree.moved index path) := by
  obtain ⟨session, hsess, hname⟩ := howner
  unfold DirectoryTree.moved
  rw [hsess]
  refine hsound.onSession hsess ?_ ?_
  · rfl
  · cases path with
    | none => exact hsound.sessions index session hsess
    | some result =>
      rw [hname]
      exact hheld result rfl

lemma Sound.perform {ch : TaskChoices} (htask : TaskSound collation tree.table task)
    (hmove : ∀ index username d name, task = .cd index username d name →
      ∃ session, tree.sessions index = some session ∧ session.username = username) :
    Sound collation (tree.perform collation task ch) := by
  cases task with
  | cd index username d name =>
    refine hsound.moved ?_ (hmove index username d name rfl)
    intro result hresult
    split at hresult
    · exact Held.moveDir htask hresult
    · simp at hresult
  | mkdir username d name =>
    simp only [perform]
    split
    · exact hsound
    · rename_i table hcreate
      exact hsound.withTable (hsound.grown.createDir htask.1 htask.2 hcreate)
        (createDir_rows hcreate)
  | prepare username d name =>
    simp only [perform]
    split
    · exact hsound
    · exact hsound.addTask htask (by simp)
  | commit username parentId d name =>
    simp only [perform]
    split
    · exact hsound
    · rename_i table hcom
      exact hsound.withTable (hsound.grown.commitUpload htask.1 htask.2 hcom)
        (commitUpload_rows hcom)

lemma Sound.login (hroot : tree.hasRoot username) (hnew : tree.sessions index = none) :
    Sound collation
      { tree with sessions := Function.update tree.sessions index (some { username }) } where
  grown := hsound.grown
  sessions j session hsess := by
    dsimp only at hsess ⊢
    by_cases hi : j = index
    · subst hi
      rw [update_self] at hsess
      obtain rfl := Option.some.inj hsess
      simp only [hasRoot, any_eq_true, Bool.and_eq_true, decide_eq_true_eq] at hroot
      obtain ⟨row, hrow, hparent, hname⟩ := hroot
      obtain ⟨hpath, _, hdirectory⟩ := hsound.grown.roots row hrow hparent
      exact ⟨row, hrow, by rw [hname], hpath, hdirectory⟩
    · rw [update_of_ne hi] at hsess
      exact hsound.sessions j session hsess
  tasks := hsound.tasks
  moves j username' d name htask := by
    obtain ⟨session, hsess, hname⟩ := hsound.moves j username' d name htask
    have hi : j ≠ index := by
      intro hi
      rw [hi, hnew] at hsess
      simp at hsess
    exact ⟨session, (update_of_ne hi ..).trans hsess, hname⟩

lemma Sound.step
    (hplain : PlainEvent collation event) : Sound collation (tree.step collation event) := by
  cases event with simp only [step]
  | signup username ch =>
    split
    · exact hsound
    · rename_i table hcreate
      exact hsound.withTable (hsound.grown.createRoot hcreate) (insert_rows hcreate)
  | login index username =>
    split
    · rename_i hlogin
      rw [Bool.and_eq_true, Option.isNone_iff_eq_none] at hlogin
      exact hsound.login hlogin.1 hlogin.2
    · exact hsound
  | command index command =>
    split
    · exact hsound
    · rename_i session hsess
      exact hsound.submit hsess hplain
  | perform index ch =>
    split
    · exact hsound
    · rename_i task htask
      have hmem : task ∈ tree.tasks := mem_of_getElem? htask
      have herased : Sound collation { tree with tasks := tree.tasks.eraseIdx index } :=
        ⟨hsound.grown, hsound.sessions, fun j hother => hsound.tasks j (mem_of_mem_eraseIdx hother),
          fun j username d name hother =>
            hsound.moves j username d name (mem_of_mem_eraseIdx hother)⟩
      apply herased.perform (hsound.tasks task hmem)
      intro j username d name hcd
      exact hsound.moves j username d name (hcd ▸ hmem)

omit hsound in
lemma sound_init : Sound collation {} where
  grown :=
    { ids := by simp
      fresh := by simp
      siblings := by simp
      roots := by simp
      names := by simp
      paths := by simp
      placed := by simp }
  sessions := by simp
  tasks := by simp
  moves := by simp

lemma Sound.run {events : List Event} (hplain : ∀ event ∈ events, PlainEvent collation event) :
    Sound collation (run (DirectoryTree.step collation) tree events) := by
  induction events generalizing tree with
  | nil => exact hsound
  | cons event events ih =>
    apply ih (hsound.step (hplain event (by simp)))
    intro j hother
    exact hplain j (mem_cons_of_mem _ hother)

end

/-- If `mkdir` and `upload` are given no name with a slash: no two rows of a user have the same
path; the current directory of a session is the path of one row, which is a directory; and `cd ..`
leads back from where a `cd` led to. -/
theorem namespace_integrity (collation : Collation Weight) (events : List Event)
    (hplain : ∀ event ∈ events, PlainEvent collation event) :
    let tree := Library.run (step collation) {} events
    (∀ row ∈ tree.table.rows, ∀ other ∈ tree.table.rows,
      same collation row.username other.username = true →
        same collation row.path other.path = true → row = other) ∧
    (∀ index session, tree.sessions index = some session →
      ∃! row, row ∈ tree.table.rows ∧ atPath collation session.username
        session.currentDirectory row = true ∧ row.fileType = .directory) ∧
    ∀ index session name path later, tree.sessions index = some session → name ≠ ascii ".." →
      tree.table.moveDirByCurrentDir collation session.username session.currentDirectory name =
        some path →
      (∀ event ∈ later, PlainEvent collation event) →
        (Library.run (step collation) tree later).table.moveDirByCurrentDir
          collation session.username path (ascii "..") = some session.currentDirectory := by
  intro tree
  have hsound : Sound collation tree := sound_init.run hplain
  refine ⟨?_, ?_, ?_⟩
  · intro row hrow other hother huser hpath
    exact hsound.grown.path_unique hrow hother (same_iff.mp huser) (same_iff.mp hpath)
  · intro index session hsession
    obtain ⟨row, hnames⟩ := hsound.sessions index session hsession
    refine ⟨row, ⟨hnames.mem, ?_, hnames.directory⟩, ?_⟩
    · simp [atPath, hnames.user, hnames.path_eq]
    · rintro other ⟨hother, hpath, _⟩
      exact hsound.grown.eq_of_atPath hnames hother hpath
  · intro index session name path later hsession hname hmove hlater
    exact hsound.grown.moveDir_back (hsound.run hlater).grown (fun row => run_rows later)
      (hsound.sessions index session hsession) hname hmove

def nestedEvents : List Event :=
  [.signup (ascii "ann") {}, .login 0 (ascii "ann"), .command 0 (.mkdir (ascii "a")),
    .perform 0 {}, .command 0 (.cd (ascii "a")), .perform 0 {}, .command 0 (.mkdir (ascii "b")),
    .perform 0 {}, .command 0 (.cd (ascii "..")), .perform 0 {}]

theorem namespace_integrity_nested : (∀ event ∈ nestedEvents, PlainEvent asciiCollation event) ∧
      (Library.run (step asciiCollation) {} nestedEvents).table.rows.map
        VirtualFile.path = [ascii "/", ascii "/a", ascii "/a/b"] ∧
      ∀ index session, (Library.run (step asciiCollation) {} nestedEvents).sessions
        index = some session → ∃! row,
            row ∈ (Library.run (step asciiCollation) {} nestedEvents).table.rows ∧
            atPath asciiCollation session.username session.currentDirectory row = true ∧
            row.fileType = .directory :=
  ⟨by decide, by decide, (namespace_integrity asciiCollation nestedEvents (by decide)).2.1⟩

theorem mkdir_slash_not_unique : ¬∀ row ∈ (Library.run (step asciiCollation) {}
          (nestedEvents ++ [.command 0 (.mkdir (ascii "a/b")), .perform 0 {}])).table.rows,
        ∀ other ∈ (Library.run (step asciiCollation) {}
          (nestedEvents ++ [.command 0 (.mkdir (ascii "a/b")), .perform 0 {}])).table.rows,
        row.username = other.username → row.path = other.path → row = other := by
  decide

end DirectoryTree

end Tlss.Ftp
