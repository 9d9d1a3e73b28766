import Tlss.Ftp.MetadataFresh
import Tlss.Ftp.UserView

/-!
# What the cache keeps for a user

A read of a user through the cache has the result that the table would give now
(`Coherent.ask`), if a listing names its directory as the writes do. Rows are only added,
so a path or a hash that was found is found again; a listing changes only by a write to its
directory, and that write advances the gate of the listing.
-/

namespace Tlss.Ftp

open Library Cache List Option Bool

variable {Weight : Type*} [DecidableEq Weight] {coll : Collation Weight} {req : Request}

/-! ## Rows are only added -/

namespace VirtualFiles

variable {username : Bytes} {tbl after : VirtualFiles} {row : VirtualFile}

/-- The row was added after the rows of the user, so it is not their parent. -/
structure Appended (collation : Collation Weight) (username : Bytes)
    (table after : VirtualFiles) (row : VirtualFile) : Prop where
  rows : after.rows = table.rows ++ [row]
  parents : ∀ other ∈ table.rows, owned collation username other = true →
    other.parentId ≠ some row.id

section

variable (happended : Appended coll username tbl after row)
include happended

lemma Appended.parentOf_eq_false {child : VirtualFile} (hchild : child ∈ tbl.rows)
    (howned : owned coll username child) : parentOf coll child row = false := by
  simp [parentOf, happended.parents child hchild howned]

lemma Appended.find_named {name d : Bytes} {type : FileType} {found : VirtualFile}
    (hfind : tbl.rows.find? (named coll tbl username name d type) = some found) :
    after.rows.find? (named coll after username name d type) = some found := by
  rw [happended.rows]
  apply find?_append_of_some hfind
  intro other hother
  by_cases howned : same coll other.username username = true
  · unfold named
    rw [happended.rows, any_append]
    simp [happended.parentOf_eq_false hother howned]
  · simp [named, howned]

lemma Appended.selectParent {d path : Bytes}
    (hselect : tbl.selectParent coll username d = some path) :
    after.selectParent coll username d = some path := by
  unfold VirtualFiles.selectParent at hselect ⊢
  rw [happended.rows]
  apply findSome?_append_of_some hselect
  intro child hchild
  split
  · rename_i hfound
    simp only [atPath, and_eq_true] at hfound
    rw [find?_append, find?_cons_of_neg
      (by simp [happended.parentOf_eq_false hchild hfound.1.1]), find?_nil, or_none]
  · rfl

lemma Appended.moveDirByCurrentDir {d name path : Bytes}
    (hmove : tbl.moveDirByCurrentDir coll username d name = some path) :
    after.moveDirByCurrentDir coll username d name = some path := by
  unfold VirtualFiles.moveDirByCurrentDir at hmove ⊢
  split at hmove
  · simp at hmove
  · rename_i hargs
    rw [if_neg hargs]
    split at hmove
    · rename_i hstay
      rw [if_pos hstay]
      exact hmove
    · rename_i hstay
      rw [if_neg hstay]
      rw [filter_eq_some_iff] at hmove ⊢
      refine ⟨?_, hmove.2⟩
      split
      · rename_i hname
        rw [if_pos hname] at hmove
        obtain ⟨child, hfind, hpath⟩ := map_eq_some_iff.mp hmove.1
        exact map_eq_some_iff.mpr ⟨child, happended.find_named hfind, hpath⟩
      · rename_i hname
        rw [if_neg hname] at hmove
        exact happended.selectParent hmove.1

lemma Appended.findDownloadHash {d name hash : Bytes}
    (hdownload : tbl.findDownloadHash coll username d name = some hash) :
    after.findDownloadHash coll username d name = some hash := by
  unfold VirtualFiles.findDownloadHash at hdownload ⊢
  split at hdownload
  · simp at hdownload
  · rename_i hname
    rw [if_neg hname]
    split at hdownload
    · simp at hdownload
    · rename_i file hfind
      have hagain := happended.find_named hfind
      unfold named at hagain
      rw [hagain]
      exact hdownload

lemma Appended.findFileByCurrentDir {d : Bytes} {files : List FileInfo}
    (hlist : tbl.findFileByCurrentDir coll username d = some files)
    (hchild : ∀ par ∈ tbl.rows, atPath coll username d par →
      childOf coll username par.id row = false) :
    after.findFileByCurrentDir coll username d = some files := by
  unfold VirtualFiles.findFileByCurrentDir at hlist ⊢
  split at hlist
  · simp at hlist
  · rename_i hargs
    rw [if_neg hargs]
    split at hlist
    · simp at hlist
    · rename_i par hfind
      have hagain : after.rows.find? (atPath coll username d) = some par := by
        rw [happended.rows]
        exact find?_append_of_some hfind fun _ _ => rfl
      have hnot := hchild par (mem_of_find?_eq_some hfind) (find?_some hfind)
      rw [hagain, happended.rows]
      dsimp only
      rw [filter_append, filter_cons_of_neg (by simp [hnot]), filter_nil, append_nil]
      exact hlist

/-- A read of the user that succeeds still has the same result, unless it lists the
directory of the new row. -/
lemma Appended.load {v : Value} (huser : req.username = username)
    (hload : tbl.load coll req = ⟨true, v⟩)
    (hchild : ∀ d, req = .list username d → ∀ par ∈ tbl.rows,
      atPath coll username d par → childOf coll username par.id row = false) :
    after.load coll req = ⟨true, v⟩ := by
  cases req with
  | list user d =>
    obtain rfl : user = username := huser
    simp only [load] at hload ⊢
    split at hload
    · simp at hload
    · rename_i files hfiles
      rw [happended.findFileByCurrentDir hfiles (hchild d rfl)]
      exact hload
  | download user d name =>
    obtain rfl : user = username := huser
    simp only [load] at hload ⊢
    split at hload
    · simp at hload
    · rename_i hash hhash
      rw [happended.findDownloadHash hhash]
      exact hload
  | cd user d name =>
    obtain rfl : user = username := huser
    simp only [load] at hload ⊢
    split at hload
    · simp at hload
    · rename_i path hpath
      rw [happended.moveDirByCurrentDir hpath]
      exact hload
  | write user d => simp [load] at hload

end

end VirtualFiles

/-! ## Entries -/

namespace MetadataCache

variable {p : Platform} {c : MetadataCache} {tbl after : VirtualFiles}
  {asked : Request → Prop}

/-- What an entry has to be for a request: covered by its gate, and as long as it counts as a
hit, what the table gives. -/
structure EntryCoherent (platform : Platform) (collation : Collation Weight)
    (cache : MetadataCache) (table : VirtualFiles) (request : Request) (kind : Kind)
    (entry : Entry) : Prop where
  covers : kind.versioned = true →
    (cache.gates (request.gate platform)).Covers entry.generation
  current : (kind.versioned = true →
      (cache.gates (request.gate platform)).Accepts entry.generation) →
    ∀ snapshot, entry.value = some snapshot → table.load collation request = ⟨true, snapshot.value⟩

/-- The entries of these requests are coherent. -/
structure Coherent (platform : Platform) (collation : Collation Weight) (asked : Request → Prop)
    (cache : MetadataCache) (table : VirtualFiles) : Prop where
  wellFormed : ∀ kind, (cache.banks kind).arc.WellFormed
  entries : ∀ request kind key entry, asked request → request.read? = some (kind, key) →
    (cache.banks kind).arc.value platform.hash key = some entry →
      EntryCoherent platform collation cache table request kind entry

lemma operate_arc (c : MetadataCache) (kind other : Kind)
    (op : ArcCache.Operation Bytes Entry) : ((c.operate p kind op).banks other).arc =
      if other = kind then (c.banks kind).arc.step p.hash op else (c.banks other).arc := by
  by_cases heq : other = kind
  · subst heq
    simp [operate, setArc, setBank]
  · simp [operate, setArc, setBank, heq]

section

variable (hcoh : Coherent p coll asked c tbl)
include hcoh

lemma Coherent.operate (kind : Kind) (op : ArcCache.Operation Bytes Entry)
    (hput : ∀ key e, op = .put key e → ∀ req, asked req → req.read? = some (kind, key) →
      EntryCoherent p coll c tbl req kind e) : Coherent p coll asked (c.operate p kind op) tbl where
  wellFormed other := by
    rw [operate_arc]
    split
    · exact (HashArcCache.step_wellFormed (hcoh.wellFormed kind) op).1
    · exact hcoh.wellFormed other
  entries req other key e hasked hread hvalue := by
    have hbefore : EntryCoherent p coll c tbl req other e := by
      rw [operate_arc] at hvalue
      split at hvalue
      · rename_i heq
        subst heq
        have hafter := HashArcCache.step_value (hcoh.wellFormed other) op hvalue
        cases op with
        | put target stored =>
          simp only [ArcCache.Operation.after] at hafter
          split at hafter
          · rename_i hkey
            obtain rfl := some.inj hafter
            subst hkey
            exact hput _ _ rfl req hasked hread
          · exact hcoh.entries req other key e hasked hread hafter
        | get target =>
          exact hcoh.entries req other key e hasked hread hafter
        | erase target =>
          simp only [ArcCache.Operation.after] at hafter
          split at hafter
          · simp at hafter
          · exact hcoh.entries req other key e hasked hread hafter
      · exact hcoh.entries req other key e hasked hread hvalue
    exact { hbefore with }

lemma Coherent.probe (kind : Kind) (key : Bytes) (gate : DirectoryGate) (clock : ℤ) :
    Coherent p coll asked (c.probe p kind key gate clock).2 tbl := by
  unfold MetadataCache.probe
  split
  · exact hcoh
  · exact hcoh.operate kind (.get key) (by simp)

omit hcoh in
lemma probe_gates (p : Platform) (c : MetadataCache) (kind : Kind) (key : Bytes)
    (gate : DirectoryGate) (clock : ℤ) : (c.probe p kind key gate clock).2.gates = c.gates := by
  unfold probe
  split <;> rfl

variable {kind : Kind} {key : Bytes} {gate : DirectoryGate}

lemma Coherent.hit_eq {clock : ℤ} {snapshot : Snapshot}
    (hasked : asked req) (hread : req.read? = some (kind, key))
    (hhit : (c.probe p kind key (c.gates (req.gate p)) clock).1 =
      .hit snapshot) : tbl.load coll req = ⟨true, snapshot.value⟩ := by
  unfold MetadataCache.probe at hhit
  split at hhit
  · simp at hhit
  · rename_i henabled
    rw [HashArcCache.get_fst (hcoh.wellFormed kind)] at hhit
    split at hhit
    · simp at hhit
    · rename_i e hvalue
      have hent := hcoh.entries req kind key e hasked hread hvalue
      unfold Entry.probe at hhit
      split at hhit
      · simp at hhit
      · rename_i stored hstored
        split at hhit
        · simp at hhit
        · rename_i hfresh
          obtain rfl : stored = snapshot := by injection hhit
          refine hent.current ?_ stored hstored
          intro hvers
          simp only [hvers, Bool.true_and, Bool.not_eq_true', Bool.not_eq_false] at henabled
          push Not at hfresh
          exact ⟨henabled, hfresh.2 hvers⟩

lemma Coherent.store (clock : ℤ) (hread : req.read? = some (kind, key))
    (hgate : gate = c.gates (req.gate p)) : Coherent p coll asked
      (c.store p kind key gate clock (tbl.load coll req)) tbl := by
  unfold MetadataCache.store
  split
  · exact hcoh
  · rename_i hsuccess
    split
    · exact hcoh
    · apply hcoh.operate
      intro target e hput other _ hother
      injection hput with htarget hent
      subst htarget hent hgate
      -- A key belongs to one request only, so the entry is for this one.
      obtain rfl := Request.read?_inj hread hother
      refine ⟨fun _ => le_refl _, ?_⟩
      intro _ snapshot hsnapshot
      obtain rfl := some.inj hsnapshot
      simp only [not_eq_true', not_eq_false] at hsuccess
      rw [← hsuccess]

lemma Coherent.reload (clocks : Clocks) (hread : req.read? = some (kind, key))
    (hgate : gate = c.gates (req.gate p)) :
    let answer := c.reload p kind key gate clocks (tbl.load coll req)
    Coherent p coll asked answer.2 tbl ∧ (asked req → answer.1 = tbl.load coll req) := by
  subst hgate
  have hprobe := hcoh.probe kind key (c.gates (req.gate p)) clocks.second
  have hgates := probe_gates p c kind key (c.gates (req.gate p)) clocks.second
  unfold reload
  rcases hres : c.probe p kind key (c.gates (req.gate p))
    clocks.second with ⟨_ | _ | snapshot, after⟩
  all_goals
    rw [hres] at hprobe hgates
    dsimp only at hprobe hgates ⊢
  · exact ⟨hprobe.store clocks.stored hread (by rw [hgates]), fun _ => rfl⟩
  · have herase := hprobe.operate kind (.erase key) (by simp)
    exact ⟨herase.store clocks.stored hread (by rw [← hgates]; rfl), fun _ => rfl⟩
  · exact ⟨hprobe, fun hasked => (hcoh.hit_eq hasked hread (by rw [hres])).symm⟩

/-- A read keeps the entries coherent, and has the result that the table gives. -/
lemma Coherent.ask (req : Request) (clocks : Clocks) :
    let answer := c.ask p req clocks (tbl.load coll req)
    Coherent p coll asked answer.2 tbl ∧ (asked req → answer.1 = tbl.load coll req) := by
  unfold MetadataCache.ask
  cases hread : req.read? with
  | none => exact ⟨hcoh, fun _ => rfl⟩
  | some target =>
    obtain ⟨kind, key⟩ := target
    dsimp only
    unfold read
    split
    · exact ⟨hcoh, fun _ => rfl⟩
    · have hprobe := hcoh.probe kind key (c.gates (req.gate p)) clocks.first
      have hgates := probe_gates p c kind key (c.gates (req.gate p)) clocks.first
      rcases hres : c.probe p kind key (c.gates (req.gate p))
        clocks.first with ⟨_ | _ | snapshot, after⟩
      all_goals
        rw [hres] at hprobe hgates
        dsimp only at hprobe hgates ⊢
      · exact hprobe.reload clocks hread (by rw [hgates])
      · exact hprobe.reload clocks hread (by rw [hgates])
      · exact ⟨hprobe, fun hasked => (hcoh.hit_eq hasked hread (by rw [hres])).symm⟩

/-! ## Writes -/

lemma Coherent.withTable (hload : ∀ req v, asked req →
      tbl.load coll req = ⟨true, v⟩ → after.load coll req = ⟨true, v⟩) :
    Coherent p coll asked c after where
  wellFormed := hcoh.wellFormed
  entries req kind key e hasked hread hvalue := by
    have hent := hcoh.entries req kind key e hasked hread hvalue
    refine ⟨hent.covers, fun haccepts snapshot hsnapshot => ?_⟩
    exact hload req snapshot.value hasked (hent.current haccepts snapshot hsnapshot)

/-- A write advances its gate, which then accepts no entry; what the other entries say has to
stay. -/
lemma Coherent.advance (writer d : Bytes)
    (hload : ∀ req v, asked req →
      (∀ kind key, req.read? = some (kind, key) → kind.versioned →
        req.gate p ≠ (Request.write writer d).gate p) →
      tbl.load coll req = ⟨true, v⟩ → after.load coll req = ⟨true, v⟩) :
    Coherent p coll asked (c.advance p writer d) after where
  wellFormed := hcoh.wellFormed
  entries req kind key e hasked hread hvalue := by
    have hent := hcoh.entries req kind key e hasked hread hvalue
    by_cases hgate : req.gate p = (Request.write writer d).gate p
    · have hadvanced : (c.advance p writer d).gates (req.gate p) =
          (c.gates (req.gate p)).advance := by
        rw [hgate]
        exact Function.update_self ..
      constructor
      · intro hvers
        rw [hadvanced]
        exact (hent.covers hvers).advance
      · intro haccepts snapshot hsnapshot
        cases hvers : kind.versioned with
        | true =>
          have haccepted := haccepts hvers
          rw [hadvanced] at haccepted
          exact absurd haccepted (hent.covers hvers).not_accepts_advance
        | false =>
          refine hload req snapshot.value hasked ?_ ?_
          · intro other otherKey hother hotherVersioned
            rw [hread] at hother
            obtain rfl : kind = other := congrArg Prod.fst (some.inj hother)
            rw [hvers] at hotherVersioned
            simp at hotherVersioned
          · exact hent.current (by simp [hvers]) snapshot hsnapshot
    · have hkept : (c.advance p writer d).gates (req.gate p) =
          c.gates (req.gate p) := Function.update_of_ne hgate ..
      constructor
      · rw [hkept]
        exact hent.covers
      · rw [hkept]
        intro haccepts snapshot hsnapshot
        exact hload req snapshot.value hasked (fun _ _ _ _ => hgate)
          (hent.current haccepts snapshot hsnapshot)

end

end MetadataCache

end Tlss.Ftp
