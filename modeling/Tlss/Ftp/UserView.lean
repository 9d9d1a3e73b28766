import Tlss.Ftp.MetadataService
import Tlss.Ftp.PathStatements
import Tlss.Library.View

/-!
# What a user sees of the table

A user alone with a table of their own would number their rows otherwise, but see the same:
`View` relates the shared table to such a table. Every statement that `MetadataService`
prepares asks for rows of one user, so it has the same answer on both, up to the numbers and
times of the rows; and it inserts rows of that user only.
-/

namespace Tlss.Ftp

open Library List Function Bool

variable {Weight : Type*} [DecidableEq Weight] {coll : Collation Weight}

namespace VirtualFiles

def owned (collation : Collation Weight) (username : Bytes) (row : VirtualFile) : Bool :=
  same collation row.username username

def shape (number : ℕ → ℕ) (row : VirtualFile) : VirtualFile :=
  { row with
    id := number row.id
    parentId := row.parentId.map number
    createdAt := []
    updatedAt := [] }

/-- The second table has the rows of the user in the first one, under other numbers. -/
structure View (collation : Collation Weight) (username : Bytes) (number : ℕ → ℕ)
    (table mine : VirtualFiles) : Prop where
  rows : mine.rows = (table.rows.filter (owned collation username)).map (shape number)
  injective : ∀ row ∈ table.rows, ∀ other ∈ table.rows, owned collation username row = true →
    owned collation username other = true → number row.id = number other.id → row.id = other.id
  fresh : ∀ row ∈ table.rows, owned collation username row = true → number row.id < mine.nextId
  below : ∀ row ∈ table.rows, row.id < table.nextId
  parents : ∀ row ∈ table.rows, owned collation username row = true → ∀ id,
    row.parentId = some id → ∃ parent ∈ table.rows, owned collation username parent = true ∧
      parent.id = id

variable {username : Bytes} {n : ℕ → ℕ} {tbl mine after : VirtualFiles}

section

variable (hview : View coll username n tbl mine)
include hview

lemma View.parentId_iff {r par : VirtualFile} (hrow : r ∈ tbl.rows)
    (howned : owned coll username r) (hpar : par ∈ tbl.rows) (hmine : owned coll username par) :
    r.parentId.map n = some (n par.id) ↔ r.parentId = some par.id := by
  constructor
  · intro heq
    obtain ⟨id, hid, hnumber⟩ := Option.map_eq_some_iff.mp heq
    obtain ⟨other, hother, hotherOwned, hotherId⟩ := hview.parents r hrow howned id hid
    rw [← hotherId] at hnumber
    rw [hid, ← hotherId, hview.injective other hother par hpar hotherOwned hmine hnumber]
  · intro heq
    rw [heq]
    rfl

/-! ## Queries -/

section Searches

variable {test seen : VirtualFile → Bool}
  (howned : ∀ r ∈ tbl.rows, test r → owned coll username r)
  (hseen : ∀ r ∈ tbl.rows, owned coll username r → seen (shape n r) = test r)
include howned hseen

lemma View.find? : mine.rows.find? seen = (tbl.rows.find? test).map (shape n) := by
  rw [hview.rows]
  exact find?_view howned hseen

lemma View.any : mine.rows.any seen = tbl.rows.any test := by
  rw [hview.rows]
  exact any_view howned hseen

lemma View.filter : mine.rows.filter seen = (tbl.rows.filter test).map (shape n) := by
  rw [hview.rows]
  exact filter_view howned hseen

end Searches

lemma View.find_atPath (path : Bytes) : mine.rows.find? (atPath coll username path) =
      (tbl.rows.find? (atPath coll username path)).map (shape n) := by
  apply hview.find?
  · intro r _ hrow
    simp only [atPath, and_eq_true] at hrow
    exact hrow.1
  · intro r _ _
    rfl

lemma View.filter_childOf {par : VirtualFile} (hpar : par ∈ tbl.rows)
    (hmine : owned coll username par) : mine.rows.filter (childOf coll username (n par.id)) =
      (tbl.rows.filter (childOf coll username par.id)).map (shape n) := by
  apply hview.filter
  · intro r _ hrow
    simp only [childOf, Bool.and_eq_true] at hrow
    exact hrow.1
  · intro r hrow howned
    rw [Bool.eq_iff_iff]
    simp only [childOf, shape, Bool.and_eq_true, decide_eq_true_eq,
      hview.parentId_iff hrow howned hpar hmine]

lemma View.findFileByCurrentDir (d : Bytes) : mine.findFileByCurrentDir coll username d =
      (tbl.findFileByCurrentDir coll username d).map (List.map FileInfo.erase) := by
  unfold VirtualFiles.findFileByCurrentDir
  split
  · rfl
  · rw [hview.find_atPath]
    cases hfind : tbl.rows.find? (atPath coll username d) with
    | none => rfl
    | some par =>
      have hfound := find?_some hfind
      simp only [atPath, and_eq_true] at hfound
      have hchildren := hview.filter_childOf (mem_of_find?_eq_some hfind) hfound.1
      change some ((mine.rows.filter (childOf coll username (n par.id))).map _) = _
      rw [hchildren, Option.map_some, map_map, map_map]
      rfl

lemma View.parentOf_shape {child par : VirtualFile} (hchild : child ∈ tbl.rows)
    (howned : owned coll username child) (hpar : par ∈ tbl.rows) (hmine : owned coll username par) :
    parentOf coll (shape n child) (shape n par) = parentOf coll child par := by
  unfold parentOf
  congr 2
  exact decide_eq_decide.mpr (hview.parentId_iff hchild howned hpar hmine)

omit hview in
lemma owned_of_parentOf {child par : VirtualFile} (howned : owned coll username child)
    (hpar : parentOf coll child par) : owned coll username par := by
  simp only [owned, parentOf, and_eq_true, same_iff] at *
  exact hpar.1.2.trans howned

lemma View.any_parent {child : VirtualFile} (hchild : child ∈ tbl.rows)
    (howned : owned coll username child) (d : Bytes) :
    (mine.rows.any fun par => parentOf coll (shape n child) par &&
        same coll par.path d) = tbl.rows.any fun par => parentOf coll child par &&
        same coll par.path d := by
  apply hview.any
  · intro par _ hpar
    rw [and_eq_true] at hpar
    exact owned_of_parentOf howned hpar.1
  · intro par hpar hmine
    rw [hview.parentOf_shape hchild howned hpar hmine]
    rfl

def named (collation : Collation Weight) (table : VirtualFiles)
    (username name directory : Bytes) (type : FileType) (row : VirtualFile) : Bool :=
  same collation row.username username && same collation row.fileName name &&
    row.fileType = type && table.rows.any fun parent =>
      parentOf collation row parent && same collation parent.path directory

lemma View.find_named (name d : Bytes) (type : FileType) :
    mine.rows.find? (named coll mine username name d type) =
      (tbl.rows.find? (named coll tbl username name d type)).map (shape n) := by
  apply hview.find?
  · intro r _ hfound
    simp only [named, and_eq_true] at hfound
    exact hfound.1.1.1
  · intro r hrow howned
    unfold named
    rw [hview.any_parent hrow howned]
    rfl

lemma View.selectChild (name d : Bytes) : mine.selectChild coll username name d =
      tbl.selectChild coll username name d := by
  change (mine.rows.find? (named coll mine username name d .directory)).map _ =
    (tbl.rows.find? (named coll tbl username name d .directory)).map _
  rw [hview.find_named, Option.map_map]
  rfl

lemma View.selectParent (d : Bytes) : mine.selectParent coll username d =
      tbl.selectParent coll username d := by
  have hparents : ∀ child ∈ tbl.rows, owned coll username child →
      (mine.rows.find? (parentOf coll (shape n child))).map VirtualFile.path =
        (tbl.rows.find? (parentOf coll child)).map VirtualFile.path := by
    intro child hchild howned
    rw [hview.find? (fun par _ hpar => owned_of_parentOf howned hpar)
      (fun par hpar hmine => hview.parentOf_shape hchild howned hpar hmine),
      Option.map_map]
    rfl
  have hsearch : ∀ find : VirtualFile → Option Bytes,
      (∀ child ∈ tbl.rows, owned coll username child →
        find (shape n child) =
          if atPath coll username d child && child.fileType = .directory then
            (tbl.rows.find? (parentOf coll child)).map VirtualFile.path
          else none) →
        mine.rows.findSome? find = tbl.selectParent coll username d := by
    intro find hfind
    rw [hview.rows]
    apply findSome?_view
    · intro child _ hother
      have hpath : atPath coll username d child = false := by
        simp only [owned] at hother
        simp [atPath, hother]
      simp [hpath]
    · exact hfind
  apply hsearch
  intro child hchild howned
  rw [hparents child hchild howned]
  rfl

lemma View.moveDirByCurrentDir (d name : Bytes) : mine.moveDirByCurrentDir coll username d name =
      tbl.moveDirByCurrentDir coll username d name := by
  unfold VirtualFiles.moveDirByCurrentDir
  rw [hview.selectChild, hview.selectParent]

lemma View.findDownloadHash (d name : Bytes) : mine.findDownloadHash coll username d name =
      tbl.findDownloadHash coll username d name := by
  unfold VirtualFiles.findDownloadHash
  split
  · rfl
  · have hfind := hview.find_named name d .file
    unfold named at hfind
    rw [hfind]
    cases tbl.rows.find? _ with
    | none | some file => rfl

lemma View.any_sibling {par : VirtualFile} (hpar : par ∈ tbl.rows)
    (hmine : owned coll username par) (name : Bytes) :
    (mine.rows.any fun file => same coll file.username par.username &&
        file.parentId = some (n par.id) && same coll file.fileName name) =
      tbl.rows.any fun file => same coll file.username par.username &&
        file.parentId = some par.id && same coll file.fileName name := by
  apply hview.any
  · intro file _ hfile
    simp only [Bool.and_eq_true, same_iff] at hfile
    simp only [owned, same_iff] at hmine ⊢
    exact hfile.1.1.trans hmine
  · intro file hfile howned
    rw [Bool.eq_iff_iff]
    simp only [shape, Bool.and_eq_true, decide_eq_true_eq,
      hview.parentId_iff hfile howned hpar hmine]

lemma View.prepareUpload (d name : Bytes) : mine.prepareUpload coll username d name =
      (tbl.prepareUpload coll username d name).map n := by
  unfold VirtualFiles.prepareUpload
  split
  · rfl
  · split
    · rfl
    · have hfind : mine.rows.find? (fun par =>
            atPath coll username d par && par.fileType = .directory &&
              !mine.rows.any fun file =>
                same coll file.username par.username && file.parentId = some par.id &&
                  same coll file.fileName name) =
          (tbl.rows.find? fun par =>
            atPath coll username d par && par.fileType = .directory &&
              !tbl.rows.any fun file =>
                same coll file.username par.username && file.parentId = some par.id &&
                  same coll file.fileName name).map (shape n) := by
        apply hview.find?
        · intro par _ hfound
          simp only [atPath, and_eq_true] at hfound
          exact hfound.1.1.1
        · intro par hpar hmine
          have hsibling := hview.any_sibling hpar hmine name
          change (_ && _ && !(mine.rows.any fun file =>
            same coll file.username par.username &&
              file.parentId = some (n par.id) && same coll file.fileName name)) = _
          rw [hsibling]
          rfl
      rw [hfind, Option.map_map, Option.map_map]
      rfl

omit hview in
lemma prepareUpload_spec {d name : Bytes} {id : ℕ}
    (hprepare : tbl.prepareUpload coll username d name = some id) :
    ∃ par ∈ tbl.rows, owned coll username par ∧ par.id = id := by
  unfold prepareUpload at hprepare
  split at hprepare
  · simp at hprepare
  · split at hprepare
    · simp at hprepare
    · obtain ⟨par, hfind, hid⟩ := Option.map_eq_some_iff.mp hprepare
      have hfound := find?_some hfind
      simp only [atPath, and_eq_true] at hfound
      exact ⟨par, mem_of_find?_eq_some hfind, hfound.1.1.1, hid⟩

/-! ## Insertions -/

lemma View.insert_other {r : VirtualFile} {ch : InsertChoices}
    (hinsert : tbl.insert coll r ch = some after)
    (hother : owned coll username r = false) : View coll username n after mine := by
  obtain ⟨_, _, hrows, hnext⟩ := insert_spec hinsert
  have hnew : owned coll username (tbl.inserted r ch) = false := hother
  have hold : ∀ other ∈ after.rows, owned coll username other →
      other ∈ tbl.rows := by
    intro other hmem howned
    rw [hrows, mem_append, mem_singleton] at hmem
    rcases hmem with hmem | rfl
    · exact hmem
    · rw [hnew] at howned
      simp at howned
  have hmem : ∀ other ∈ tbl.rows, other ∈ after.rows := by
    intro other hother
    rw [hrows]
    exact mem_append_left _ hother
  refine ⟨?_, ?_, ?_, ?_, ?_⟩
  · rw [hrows, filter_append, filter_cons_of_neg (by simp [hnew]), filter_nil, append_nil]
    exact hview.rows
  · intro first hfirst second hsec hfirstOwned hsecondOwned
    exact hview.injective first (hold first hfirst hfirstOwned) second
      (hold second hsec hsecondOwned) hfirstOwned hsecondOwned
  · intro other hother howned
    exact hview.fresh other (hold other hother howned) howned
  · intro other hother
    rw [hrows, mem_append, mem_singleton] at hother
    rw [hnext]
    rcases hother with hother | rfl
    · have hbelow := hview.below other hother
      omega
    · simp [inserted]
  · intro other hother howned id hid
    obtain ⟨par, hpar, hfacts⟩ :=
      hview.parents other (hold other hother howned) howned id hid
    exact ⟨par, hmem par hpar, hfacts⟩

/-- The same row under another number. -/
structure Twin (number : ℕ → ℕ) (row twin : VirtualFile) : Prop where
  fileName : twin.fileName = row.fileName
  username : twin.username = row.username
  parentId : twin.parentId = row.parentId.map number
  path : twin.path = row.path
  fileType : twin.fileType = row.fileType
  objectHash : twin.objectHash = row.objectHash

variable {r twin : VirtualFile} {ch : InsertChoices}

lemma View.any_siblings (htwin : Twin n r twin) (howned : owned coll username r)
    (hparents : ∀ id, r.parentId = some id → ∃ par ∈ tbl.rows,
      owned coll username par ∧ par.id = id) :
    mine.rows.any (sibling coll twin) = tbl.rows.any (sibling coll r) := by
  apply hview.any
  · intro other _ hother
    simp only [sibling, Bool.and_eq_true, same_iff] at hother
    simp only [owned, same_iff] at howned ⊢
    exact hother.1.1.trans howned
  · intro other hother hmine
    have hiff : other.parentId.map n = r.parentId.map n ↔
        other.parentId = r.parentId := by
      cases hrow : r.parentId with
      | none => simp
      | some id =>
        obtain ⟨par, hpar, hparentOwned, hid⟩ := hparents id hrow
        rw [← hid]
        exact hview.parentId_iff hother hmine hpar hparentOwned
    rw [Bool.eq_iff_iff]
    simp [sibling, shape, htwin.username, htwin.fileName, htwin.parentId, hiff]

lemma View.extended {ch : InsertChoices} {number' : ℕ → ℕ}
    (htwin : Twin n r twin) (howned : owned coll username r)
    (hparents : ∀ id, r.parentId = some id → ∃ par ∈ tbl.rows,
      owned coll username par ∧ par.id = id)
    (hsame : ∀ other ∈ tbl.rows, number' other.id = n other.id)
    (hnumber : number' (tbl.nextId + ch.skipped) = mine.nextId) : View coll username number'
      ⟨tbl.rows ++ [tbl.inserted r ch], tbl.nextId + ch.skipped + 1⟩
      ⟨mine.rows ++ [mine.inserted twin {}], mine.nextId + 0 + 1⟩ := by
  have hparentsSame : ∀ other : VirtualFile, (∀ id, other.parentId = some id →
      ∃ par ∈ tbl.rows, owned coll username par ∧ par.id = id) →
      other.parentId.map number' = other.parentId.map n := by
    intro other hother
    cases hpar : other.parentId with
    | none => rfl
    | some id =>
      obtain ⟨par, hmem, _, hid⟩ := hother id hpar
      rw [Option.map_some, Option.map_some, ← hid, hsame par hmem]
  have hnewOwned : owned coll username (tbl.inserted r ch) := howned
  have hcases : ∀ other ∈ tbl.rows ++ [tbl.inserted r ch],
      other ∈ tbl.rows ∨ other = tbl.inserted r ch := by
    intro other hother
    rw [mem_append, mem_singleton] at hother
    exact hother
  have hnewNumber : number' (tbl.inserted r ch).id = mine.nextId := hnumber
  refine ⟨?_, ?_, ?_, ?_, ?_⟩
  · have hshapes : (tbl.rows.filter (owned coll username)).map (shape number') =
        (tbl.rows.filter (owned coll username)).map (shape n) := by
      apply map_congr_left
      intro other hother
      rw [mem_filter] at hother
      have hpar := hparentsSame other (hview.parents other hother.1 hother.2)
      simp only [shape, hsame other hother.1, hpar]
    have hshape : shape number' (tbl.inserted r ch) = mine.inserted twin {} := by
      have hpar := hparentsSame r hparents
      simp only [shape, inserted, hnumber, hpar]
      rw [← htwin.parentId, ← htwin.fileName, ← htwin.username, ← htwin.path, ← htwin.fileType,
        ← htwin.objectHash]
      rfl
    rw [filter_append, filter_cons_of_pos hnewOwned, filter_nil, map_append,
      hshapes, ← hview.rows, map_cons, map_nil, hshape]
  · intro first hfirst second hsec hfirstOwned hsecondOwned hnumbers
    rcases hcases first hfirst with hfirst | rfl
    · rw [hsame first hfirst] at hnumbers
      rcases hcases second hsec with hsec | rfl
      · rw [hsame second hsec] at hnumbers
        exact hview.injective first hfirst second hsec hfirstOwned hsecondOwned hnumbers
      · rw [hnewNumber] at hnumbers
        have hfresh := hview.fresh first hfirst hfirstOwned
        omega
    · rw [hnewNumber] at hnumbers
      rcases hcases second hsec with hsec | rfl
      · rw [hsame second hsec] at hnumbers
        have hfresh := hview.fresh second hsec hsecondOwned
        omega
      · rfl
  · intro other hother hotherOwned
    rcases hcases other hother with hother | rfl
    · rw [hsame other hother]
      have hfresh := hview.fresh other hother hotherOwned
      dsimp only
      omega
    · rw [hnewNumber]
      simp
  · intro other hother
    rcases hcases other hother with hother | rfl
    · have hbelow := hview.below other hother
      dsimp only
      omega
    · simp [inserted]
  · intro other hother hotherOwned id hid
    have hfound : ∃ par ∈ tbl.rows, owned coll username par ∧
        par.id = id := by
      rcases hcases other hother with hother | rfl
      · exact hview.parents other hother hotherOwned id hid
      · exact hparents id hid
    obtain ⟨par, hmem, hfacts⟩ := hfound
    exact ⟨par, mem_append_left _ hmem, hfacts⟩

/-- A statement fails on both tables, or succeeds on both and leaves the one a view of the
other. -/
def Follows (collation : Collation Weight) (username : Bytes) (number : ℕ → ℕ)
    (table : VirtualFiles) (result own : Option VirtualFiles) : Prop :=
  (result = none ∧ own = none) ∨
    ∃ after after' number', result = some after ∧ own = some after' ∧
      View collation username number' after after' ∧
      ∀ other ∈ table.rows, number' other.id = number other.id

lemma View.insert {ch : InsertChoices} (hacc : ch.accepted)
    (htwin : Twin n r twin) (howned : owned coll username r)
    (hparents : ∀ id, r.parentId = some id → ∃ par ∈ tbl.rows,
      owned coll username par ∧ par.id = id) :
    Follows coll username n tbl (tbl.insert coll r ch) (mine.insert coll twin {}) := by
  have hsiblings := hview.any_siblings htwin howned hparents
  have hchecked : checked coll twin = checked coll r := by
    unfold checked
    rw [htwin.parentId, htwin.fileName, htwin.path, htwin.fileType]
    cases r.parentId with
    | none | some id => rfl
  have hmineChecks : ∀ own, mine.insert coll twin {} = own ↔
      (if checked coll r && !tbl.rows.any (sibling coll r) then
        some ⟨mine.rows ++ [mine.inserted twin {}], mine.nextId + 0 + 1⟩ else none) = own := by
    intro own
    unfold VirtualFiles.insert
    rw [hchecked, hsiblings]
    rfl
  by_cases hconditions : (checked coll r && !tbl.rows.any (sibling coll r)) = true
  · right
    let number' := update n (tbl.nextId + ch.skipped) mine.nextId
    have hsame : ∀ other ∈ tbl.rows, number' other.id = n other.id := by
      intro other hother
      have hbelow := hview.below other hother
      exact update_of_ne (by omega) _ _
    refine ⟨⟨tbl.rows ++ [tbl.inserted r ch], tbl.nextId + ch.skipped + 1⟩,
      ⟨mine.rows ++ [mine.inserted twin {}], mine.nextId + 0 + 1⟩, number', ?_, ?_, ?_, hsame⟩
    · unfold VirtualFiles.insert
      rw [hacc, Bool.true_and, if_pos hconditions]
      rfl
    · rw [hmineChecks, if_pos hconditions]
    · exact hview.extended htwin howned hparents hsame (update_self ..)
  · left
    constructor
    · unfold VirtualFiles.insert
      rw [hacc, Bool.true_and, if_neg hconditions]
    · rw [hmineChecks, if_neg hconditions]

/-! ## Writes -/

lemma View.createRoot (hacc : ch.accepted) :
    Follows coll username n tbl (tbl.createRoot coll username ch)
      (mine.createRoot coll username {}) := by
  apply hview.insert hacc
  · exact ⟨rfl, rfl, rfl, rfl, rfl, rfl⟩
  · simp [owned]
  · intro id hid
    simp at hid

lemma View.createDir (hacc : ch.accepted) (d name : Bytes) :
    Follows coll username n tbl (tbl.createDir coll username d name ch)
      (mine.createDir coll username d name {}) := by
  unfold VirtualFiles.createDir
  split
  · exact .inl ⟨rfl, rfl⟩
  · rw [hview.find_atPath]
    cases hfind : tbl.rows.find? (atPath coll username d) with
    | none => exact .inl ⟨rfl, rfl⟩
    | some par =>
      have hfound := find?_some hfind
      simp only [atPath, and_eq_true] at hfound
      apply hview.insert hacc
      · exact ⟨rfl, rfl, rfl, rfl, rfl, rfl⟩
      · simp [owned]
      · intro id hid
        exact ⟨par, mem_of_find?_eq_some hfind, hfound.1, Option.some.inj hid⟩

lemma View.commitUpload (hacc : ch.accepted) {target : VirtualFile} (htarget : target ∈ tbl.rows)
    (howned : owned coll username target) (d name hash : Bytes) : Follows coll username n tbl
      (tbl.commitUpload coll username target.id d name hash ch)
      (mine.commitUpload coll username (n target.id) d name hash {}) := by
  unfold VirtualFiles.commitUpload
  split
  · exact .inl ⟨rfl, rfl⟩
  · split
    · exact .inl ⟨rfl, rfl⟩
    · have hsearch : mine.rows.find? (fun par => par.id = n target.id &&
            atPath coll username d par && par.fileType = .directory) =
          (tbl.rows.find? fun par => par.id = target.id &&
            atPath coll username d par && par.fileType = .directory).map
            (shape n) := by
        apply hview.find?
        · intro par _ hfound
          simp only [atPath, and_eq_true] at hfound
          exact hfound.1.2.1
        · intro par hpar hmine
          have hiff : n par.id = n target.id ↔ par.id = target.id :=
            ⟨hview.injective par hpar target htarget hmine howned, fun heq => by rw [heq]⟩
          congr 2
          exact decide_eq_decide.mpr hiff
      rw [hsearch]
      cases hfind : tbl.rows.find? fun par => par.id = target.id &&
          atPath coll username d par && par.fileType = .directory with
      | none => exact .inl ⟨rfl, rfl⟩
      | some par =>
        have hfound := find?_some hfind
        simp only [atPath, and_eq_true] at hfound
        apply hview.insert hacc
        · exact ⟨rfl, rfl, rfl, rfl, rfl, rfl⟩
        · exact hfound.1.2.1
        · intro id hid
          exact ⟨par, mem_of_find?_eq_some hfind, hfound.1.2.1, Option.some.inj hid⟩

end

lemma createDir_spec {d name : Bytes}
    (hcreate : tbl.createDir coll username d name ch = some after) :
    ∃ par ∈ tbl.rows, atPath coll username d par ∧ tbl.insert coll
        { id := 0, fileName := name, username, parentId := some par.id,
          path := joinPath d name, fileType := .directory } ch = some after := by
  unfold createDir at hcreate
  split at hcreate
  · simp at hcreate
  · split at hcreate
    · simp at hcreate
    · rename_i par hfind
      exact ⟨par, mem_of_find?_eq_some hfind, find?_some hfind, hcreate⟩

lemma commitUpload_spec {id : ℕ} {d name hash : Bytes}
    (hcommit : tbl.commitUpload coll username id d name hash ch = some after) :
    ∃ par ∈ tbl.rows, atPath coll username d par ∧ tbl.insert coll
        { id := 0, fileName := name, username := par.username, parentId := some par.id,
          path := joinPath d name, fileType := .file, objectHash := some hash }
        ch = some after := by
  unfold commitUpload at hcommit
  split at hcommit
  · simp at hcommit
  · split at hcommit
    · simp at hcommit
    · split at hcommit
      · simp at hcommit
      · rename_i par hfind
        have hfound := find?_some hfind
        simp only [and_eq_true] at hfound
        exact ⟨par, mem_of_find?_eq_some hfind, hfound.1.2, hcommit⟩

/-- Every write inserts a row of its user, in a directory whose path is the one it names; a
root is in none. -/
lemma writeOp_spec {results : List MetadataResult} {op : MetadataOp} {written : Written}
    (hwrite : writeOp coll tbl username results ch op = some written)
    (hafter : written.table = some after) : ∃ r, tbl.insert coll r ch = some after ∧
      owned coll username r ∧ (r.parentId = none ∨ ∃ d, written.directory = some d ∧
        op.written? = some d ∧ ∃ par ∈ tbl.rows, r.parentId = some par.id ∧
          atPath coll username d par) := by
  cases op with
  | signup =>
    obtain rfl := Option.some.inj hwrite
    exact ⟨_, hafter, by simp [owned], .inl rfl⟩
  | mkdir d name =>
    obtain rfl := Option.some.inj hwrite
    split at hafter
    · simp at hafter
    · rename_i hargs
      obtain ⟨par, hpar, hpath, hinsert⟩ := createDir_spec hafter
      refine ⟨_, hinsert, by simp [owned], .inr ⟨d, ?_, rfl, par, hpar, rfl, hpath⟩⟩
      rw [if_neg hargs]
  | commit prepared d name hash =>
    obtain rfl := Option.some.inj hwrite
    split at hafter
    · simp at hafter
    · split at hafter
      · simp at hafter
      · rename_i hargs
        obtain ⟨par, hpar, hpath, hinsert⟩ := commitUpload_spec hafter
        have howned : owned coll username par := by
          simp only [atPath, and_eq_true] at hpath
          exact hpath.1
        refine ⟨_, hinsert, howned, .inr ⟨d, ?_, rfl, par, hpar, rfl, hpath⟩⟩
        rw [if_neg hargs]
  | list d | cd d name | prepare d name | download d name =>
    simp [writeOp] at hwrite

end VirtualFiles

end Tlss.Ftp
