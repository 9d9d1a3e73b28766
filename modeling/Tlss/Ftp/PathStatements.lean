import Tlss.Ftp.DirectoryTree

/-!
# Statements that keep the tree

Every insertion puts a row where its parent and its name say, so the table stays a `Tree`.
A string that a session holds is the path of a directory of its user (`Held`); in a tree it
is the path of that row only. A `cd` leads from such a string to another, and `cd ..` back.
-/

namespace Tlss.Ftp

open Library List Bool

variable {Weight : Type*} [DecidableEq Weight] {coll : Collation Weight}

namespace VirtualFiles

variable {tbl after : VirtualFiles} {ch : InsertChoices} {r : VirtualFile}

/-! ## Insertions -/

def inserted (table : VirtualFiles) (row : VirtualFile) (choices : InsertChoices) : VirtualFile :=
  { row with
    id := table.nextId + choices.skipped, createdAt := choices.now, updatedAt := choices.now }

lemma insert_spec (hinsert : tbl.insert coll r ch = some after) :
    checked coll r ∧ tbl.rows.any (sibling coll r) = false ∧
      after.rows = tbl.rows ++ [tbl.inserted r ch] ∧
      after.nextId = tbl.nextId + ch.skipped + 1 := by
  unfold insert at hinsert
  split at hinsert
  · rename_i hconditions
    simp only [and_eq_true, not_eq_true'] at hconditions
    obtain rfl := Option.some.inj hinsert
    exact ⟨hconditions.1.2, hconditions.2, rfl, rfl⟩
  · simp at hinsert

lemma sibling_symm {r other : VirtualFile} (hsibling : sibling coll r other) :
    sibling coll other r := by
  simp only [sibling, and_eq_true, same_iff, decide_eq_true_eq] at hsibling ⊢
  exact ⟨⟨hsibling.1.1.symm, hsibling.1.2.symm⟩, hsibling.2.symm⟩

section

variable (htree : Tree coll tbl)
include htree

lemma Tree.insert (hinsert : tbl.insert coll r ch = some after) (hroots : r.parentId = none →
      r.path = ascii "/" ∧ r.fileName = ascii "/" ∧ r.fileType = .directory)
    (hnames : r.parentId ≠ none → DirectoryTree.Plain coll r.fileName)
    (hplaced : ∀ id, r.parentId = some id → ∃ par ∈ tbl.rows,
      par.id = id ∧ coll.weights par.username = coll.weights r.username ∧
      par.fileType = .directory ∧
      coll.weights r.path = childWeights coll par r.fileName) : Tree coll after := by
  obtain ⟨hchecked, hsiblings, hrows, hnext⟩ := insert_spec hinsert
  have hcases : ∀ other ∈ after.rows,
      other ∈ tbl.rows ∨ other = tbl.inserted r ch := by
    intro other hother
    rw [hrows, mem_append, mem_singleton] at hother
    exact hother
  have hold : ∀ other ∈ tbl.rows, other ∈ after.rows := by
    intro other hother
    rw [hrows]
    exact mem_append_left _ hother
  have hnew : ∀ other ∈ tbl.rows, other.id ≠ (tbl.inserted r ch).id := by
    intro other hother hid
    have hfresh := htree.fresh other hother
    rw [hid] at hfresh
    simp only [inserted] at hfresh
    omega
  have halone : ∀ other ∈ tbl.rows,
      sibling coll (tbl.inserted r ch) other = false := by
    intro other hother
    rw [any_eq_false] at hsiblings
    exact eq_false_of_not_eq_true (hsiblings other hother)
  refine ⟨?_, ?_, ?_, ?_, ?_, ?_, ?_⟩
  · intro first hfirst second hsec hid
    rcases hcases first hfirst with hfirst | rfl
    · rcases hcases second hsec with hsec | rfl
      · exact htree.ids first hfirst second hsec hid
      · exact absurd hid (hnew first hfirst)
    · rcases hcases second hsec with hsec | rfl
      · exact absurd hid.symm (hnew second hsec)
      · rfl
  · intro other hother
    rw [hnext]
    rcases hcases other hother with hother | rfl
    · have hfresh := htree.fresh other hother
      omega
    · simp [inserted]
  · intro first hfirst second hsec hsibling
    rcases hcases first hfirst with hfirst | rfl
    · rcases hcases second hsec with hsec | rfl
      · exact htree.siblings first hfirst second hsec hsibling
      · have halone' := halone first hfirst
        rw [sibling_symm hsibling] at halone'
        simp at halone'
    · rcases hcases second hsec with hsec | rfl
      · rw [halone second hsec] at hsibling
        simp at hsibling
      · rfl
  · intro other hother hpar
    rcases hcases other hother with hother | rfl
    · exact htree.roots other hother hpar
    · exact hroots hpar
  · intro other hother hpar
    rcases hcases other hother with hother | rfl
    · exact htree.names other hother hpar
    · exact hnames hpar
  · intro other hother hpar
    rcases hcases other hother with hother | rfl
    · exact htree.paths other hother hpar
    · obtain ⟨id, hid⟩ := Option.ne_none_iff_exists'.mp hpar
      have hid' : r.parentId = some id := hid
      simp only [checked, hid', not_eq_true', ← not_eq_true, same_iff, weights_root] at hchecked
      exact hchecked
  · intro other hother id hpar
    rcases hcases other hother with hother | rfl
    · obtain ⟨par, hpar, hfacts⟩ := htree.placed other hother id hpar
      exact ⟨par, hold par hpar, hfacts⟩
    · obtain ⟨par, hpar, hfacts⟩ := hplaced id hpar
      exact ⟨par, hold par hpar, hfacts⟩

/-! ## Strings that name a directory -/

/-- The row is the directory of the user at this path. -/
structure Names (collation : Collation Weight) (table : VirtualFiles) (username path : Bytes)
    (row : VirtualFile) : Prop where
  mem : row ∈ table.rows
  user : collation.weights row.username = collation.weights username
  path_eq : row.path = path
  directory : row.fileType = .directory

def Held (collation : Collation Weight) (table : VirtualFiles) (username path : Bytes) : Prop :=
  ∃ row, Names collation table username path row

omit htree [DecidableEq Weight] in
lemma Held.mono {username path : Bytes} (hheld : Held coll tbl username path)
    (hrows : ∀ r ∈ tbl.rows, r ∈ after.rows) : Held coll after username path := by
  obtain ⟨r, hnames⟩ := hheld
  exact ⟨r, hrows r hnames.mem, hnames.user, hnames.path_eq, hnames.directory⟩

lemma Tree.eq_of_atPath {username path : Bytes}
    {r other : VirtualFile} (hnames : Names coll tbl username path r)
    (hother : other ∈ tbl.rows) (hpath : atPath coll username path other) : other = r := by
  simp only [atPath, and_eq_true, same_iff] at hpath
  apply htree.path_unique hother hnames.mem
  · rw [hpath.1, hnames.user]
  · rw [hpath.2, hnames.path_eq]

lemma Tree.weights_joinPath {username path name : Bytes} (hnames : Names coll tbl username path r) :
    coll.weights (joinPath path name) = childWeights coll r name := by
  unfold joinPath childWeights
  by_cases hpar : r.parentId = none
  · have hroot : path = ascii "/" := by
      rw [← hnames.path_eq]
      exact (htree.roots r hnames.mem hpar).1
    rw [if_pos hroot, if_pos hpar, hroot]
    have hslash := coll.weights_append [] name
    rw [coll.weights_nil] at hslash
    exact hslash
  · have hroot : path ≠ ascii "/" := by
      intro hroot
      apply htree.paths r hnames.mem hpar
      rw [hnames.path_eq, hroot, weights_root]
    rw [if_neg hroot, if_neg hpar, hnames.path_eq, append_assoc]
    exact coll.weights_append path name

lemma Tree.insert_child {username path name : Bytes} {par r : VirtualFile}
    (hnames : Names coll tbl username path par) (hplain : DirectoryTree.Plain coll name)
    (hinsert : tbl.insert coll r ch = some after) (hpar : r.parentId = some par.id)
    (huser : coll.weights r.username = coll.weights par.username)
    (hname : r.fileName = name) (hpath : r.path = joinPath path name) : Tree coll after := by
  apply htree.insert hinsert
  · intro hroot
    rw [hpar] at hroot
    simp at hroot
  · intro _
    rw [hname]
    exact hplain
  · intro id hid
    rw [hpar] at hid
    refine ⟨par, hnames.mem, Option.some.inj hid, huser.symm, hnames.directory, ?_⟩
    rw [hpath, hname, htree.weights_joinPath hnames]

/-! ## Statements -/

lemma Tree.createRoot {username : Bytes}
    (hcreate : tbl.createRoot coll username ch = some after) : Tree coll after := by
  apply htree.insert hcreate
  · exact fun _ => ⟨rfl, rfl, rfl⟩
  · exact fun hpar => absurd rfl hpar
  · intro id hid
    simp at hid

lemma Tree.createDir {username path name : Bytes} (hheld : Held coll tbl username path)
    (hplain : DirectoryTree.Plain coll name)
    (hcreate : tbl.createDir coll username path name ch = some after) : Tree coll after := by
  unfold VirtualFiles.createDir at hcreate
  split at hcreate
  · simp at hcreate
  · split at hcreate
    · simp at hcreate
    · rename_i par hfind
      obtain ⟨r, hnames⟩ := hheld
      have hrow : par = r := htree.eq_of_atPath hnames (mem_of_find?_eq_some hfind)
        (find?_some hfind)
      subst hrow
      exact htree.insert_child hnames hplain hcreate rfl hnames.user.symm rfl rfl

lemma Tree.commitUpload {username path name hash : Bytes} {parentId : ℕ}
    (hheld : Held coll tbl username path) (hplain : DirectoryTree.Plain coll name)
    (hcom : tbl.commitUpload coll username parentId path name hash ch = some after) :
    Tree coll after := by
  unfold VirtualFiles.commitUpload at hcom
  split at hcom
  · simp at hcom
  · split at hcom
    · simp at hcom
    · split at hcom
      · simp at hcom
      · rename_i par hfind
        obtain ⟨r, hnames⟩ := hheld
        have hfound := find?_some hfind
        simp only [and_eq_true] at hfound
        have hrow : par = r := htree.eq_of_atPath hnames (mem_of_find?_eq_some hfind) hfound.1.2
        subst hrow
        exact htree.insert_child hnames hplain hcom rfl rfl rfl rfl

omit htree in
lemma selectChild_spec {username name path child : Bytes}
    (hselect : tbl.selectChild coll username name path = some child) :
    ∃ r ∈ tbl.rows, ∃ par ∈ tbl.rows, r.path = child ∧ r.fileType = .directory ∧
      coll.weights r.username = coll.weights username ∧ r.parentId = some par.id ∧
      coll.weights par.username = coll.weights username ∧
      coll.weights par.path = coll.weights path := by
  obtain ⟨r, hfind, hpath⟩ := Option.map_eq_some_iff.mp hselect
  have hfound := find?_some hfind
  simp only [and_eq_true, any_eq_true, same_iff, decide_eq_true_eq, parentOf] at hfound
  obtain ⟨⟨⟨huser, _⟩, hdir⟩, par, hpar, ⟨⟨hid, hname⟩, _⟩, hcur⟩ := hfound
  exact ⟨r, mem_of_find?_eq_some hfind, par, hpar, hpath, hdir, huser, hid, hname.trans huser, hcur⟩

omit htree in
lemma selectParent_spec {username path res : Bytes}
    (hselect : tbl.selectParent coll username path = some res) :
    ∃ child ∈ tbl.rows, atPath coll username path child ∧
      ∃ par ∈ tbl.rows, parentOf coll child par ∧ par.path = res := by
  obtain ⟨child, hchild, hres⟩ := exists_of_findSome?_eq_some hselect
  split at hres
  · rename_i hfound
    rw [and_eq_true] at hfound
    obtain ⟨par, hfind, hpath⟩ := Option.map_eq_some_iff.mp hres
    exact ⟨child, hchild, hfound.1, par, mem_of_find?_eq_some hfind, find?_some hfind, hpath⟩
  · simp at hres

variable {username path name res : Bytes}

omit htree in
lemma moveDirByCurrentDir_cases
    (hmove : tbl.moveDirByCurrentDir coll username path name = some res) :
    (name = ascii ".." ∧ path = ascii "/" ∧ res = ascii "/") ∨
      (name ≠ ascii ".." ∧ tbl.selectChild coll username name path = some res) ∨
      (name = ascii ".." ∧ tbl.selectParent coll username path = some res) := by
  unfold moveDirByCurrentDir at hmove
  split at hmove
  · simp at hmove
  · split at hmove
    · rename_i hstay
      rw [and_eq_true, decide_eq_true_eq, decide_eq_true_eq] at hstay
      exact .inl ⟨hstay.1, hstay.2, (Option.some.inj hmove).symm⟩
    · rw [Option.filter_eq_some_iff] at hmove
      by_cases hname : name = ascii ".."
      · rw [if_neg (not_not.mpr hname)] at hmove
        exact .inr (.inr ⟨hname, hmove.1⟩)
      · rw [if_pos hname] at hmove
        exact .inr (.inl ⟨hname, hmove.1⟩)

omit htree in
lemma Held.moveDir (hheld : Held coll tbl username path)
    (hmove : tbl.moveDirByCurrentDir coll username path name = some res) :
    Held coll tbl username res := by
  rcases moveDirByCurrentDir_cases hmove with ⟨_, hroot, hres⟩ | ⟨_, hselect⟩ | ⟨_, hselect⟩
  · rw [hres, ← hroot]
    exact hheld
  · obtain ⟨r, hrow, par, _, hpath, hdir, huser, _⟩ := selectChild_spec hselect
    exact ⟨r, hrow, huser, hpath, hdir⟩
  · obtain ⟨child, _, hchild, par, hpar, hjoin, hpath⟩ := selectParent_spec hselect
    simp only [atPath, parentOf, and_eq_true, same_iff, decide_eq_true_eq] at hchild hjoin
    exact ⟨par, hpar, hjoin.1.2.trans hchild.1, hpath, hjoin.2⟩

/-! ## There and back -/

omit htree in
lemma findSome?_eq_some_of_forall {α β : Type*} {list : List α} {find : α → Option β} {value : β}
    (hexists : ∃ item ∈ list, find item = some value)
    (hforall : ∀ item ∈ list, ∀ other, find item = some other → other = value) :
    list.findSome? find = some value := by
  cases hfind : list.findSome? find with
  | none =>
    obtain ⟨item, hitem, hvalue⟩ := hexists
    rw [findSome?_eq_none_iff.mp hfind item hitem] at hvalue
    simp at hvalue
  | some other =>
    obtain ⟨item, hitem, hother⟩ := exists_of_findSome?_eq_some hfind
    rw [hforall item hitem other hother]

lemma Tree.selectParent_eq {username path : Bytes}
    {child par : VirtualFile} (hnames : Names coll tbl username path child)
    (hpar : par ∈ tbl.rows) (hid : child.parentId = some par.id) :
    tbl.selectParent coll username path = some par.path := by
  have hjoin : ∀ other ∈ tbl.rows, parentOf coll child other → other = par := by
    intro other hother hjoin
    simp only [parentOf, and_eq_true, decide_eq_true_eq] at hjoin
    have hids : some other.id = some par.id := hjoin.1.1.symm.trans hid
    exact htree.ids other hother par hpar (Option.some.inj hids)
  obtain ⟨placed, hplaced, hplacedId, huser, hdir, _⟩ :=
    htree.placed child hnames.mem par.id hid
  have hplacedEq : placed = par := htree.ids placed hplaced par hpar hplacedId
  subst hplacedEq
  have hself : parentOf coll child placed := by
    simp [parentOf, hid, huser, hdir]
  have hfind : tbl.rows.find? (parentOf coll child) = some placed := by
    cases hfind : tbl.rows.find? (parentOf coll child) with
    | none =>
      have hnone := find?_eq_none.mp hfind placed hplaced
      exact absurd hself hnone
    | some other =>
      rw [hjoin other (mem_of_find?_eq_some hfind) (find?_some hfind)]
  apply findSome?_eq_some_of_forall
  · refine ⟨child, hnames.mem, ?_⟩
    rw [if_pos, hfind]
    · rfl
    · simp [atPath, hnames.user, hnames.path_eq, hnames.directory]
  · intro other hother res hres
    split at hres
    · rename_i hfound
      rw [and_eq_true] at hfound
      have hchild := htree.eq_of_atPath hnames hother hfound.1
      rw [hchild, hfind] at hres
      exact (Option.some.inj hres).symm
    · simp at hres

/-- `cd ..` leads back to the directory from which a `cd` led here, also in a table to which
rows have been added. -/
lemma Tree.moveDir_back (hafter : Tree coll after) (hrows : ∀ r ∈ tbl.rows, r ∈ after.rows)
    (hheld : Held coll tbl username path) (hname : name ≠ ascii "..")
    (hmove : tbl.moveDirByCurrentDir coll username path name = some res) :
    after.moveDirByCurrentDir coll username res (ascii "..") = some path := by
  obtain ⟨current, hcur⟩ := hheld
  have huser : username.isEmpty = false := by
    by_contra huser
    rw [not_eq_false] at huser
    simp [moveDirByCurrentDir, huser] at hmove
  have hselect : tbl.selectChild coll username name path = some res := by
    rcases moveDirByCurrentDir_cases hmove with ⟨hup, _⟩ | ⟨_, hselect⟩ | ⟨hup, _⟩
    · exact absurd hup hname
    · exact hselect
    · exact absurd hup hname
  obtain ⟨child, hchild, par, hpar, hpath, hdir, hchildUser, hid, hparentUser,
    hparentPath⟩ := selectChild_spec hselect
  have hback : par = current := by
    apply htree.path_unique hpar hcur.mem
    · rw [hparentUser, hcur.user]
    · rw [hparentPath, hcur.path_eq]
  have hnonroot : child.parentId ≠ none := by simp [hid]
  have hroot : res ≠ ascii "/" := by
    intro hroot
    apply htree.paths child hchild hnonroot
    rw [hpath, hroot, weights_root]
  have hres : res.isEmpty = false := by
    cases hempty : res with
    | nil =>
      have hweights := htree.weights_ne_nil hchild
      rw [hpath, hempty, coll.weights_nil] at hweights
      exact absurd rfl hweights
    | cons byte rest => rfl
  have hpathEmpty : path.isEmpty = false := by
    cases hempty : path with
    | nil =>
      have hweights := htree.weights_ne_nil hcur.mem
      rw [hcur.path_eq, hempty, coll.weights_nil] at hweights
      exact absurd rfl hweights
    | cons byte rest => rfl
  have hparentEq : after.selectParent coll username res = some path := by
    have hup := hafter.selectParent_eq
      ⟨hrows child hchild, hchildUser, hpath, hdir⟩ (hrows par hpar) hid
    rw [hup, hback, hcur.path_eq]
  have hdots : (ascii "..").isEmpty = false := by decide
  unfold moveDirByCurrentDir
  rw [huser, hres, hdots, hparentEq]
  simp [hroot, hpathEmpty]

end

end VirtualFiles

end Tlss.Ftp
