import Tlss.Ftp.CacheCoherence

/-!
# Users do not see each other

The results of a user are those that the user would get alone, with a table of their own and
no cache (`alone`): other users neither change the rows of the user nor what the cache
answers for them.

This needs that the user lists a directory under the string under which the user writes to it,
as the paths of sessions are meant to. A listing under a second string that the database takes
for the same stays in the cache when the first one is written to, and then others decide how
long (`listing_depends_on_others`).
-/

namespace Tlss.Ftp

open Library Cache List Option MetadataResult

variable {Weight : Type*} [DecidableEq Weight] {platform : Platform} {collation : Collation Weight}
  {username user : Bytes} {ops : List MetadataOp} {n : ℕ → ℕ} {s : MetadataService}
  {own : Solitary} {ch : InsertChoices} {op : MetadataOp} {cache : MetadataCache}
  {written : Written} {call : MetadataCall} {tbl after mine : VirtualFiles}
  {results : List MetadataResult} {config : MetadataCacheConfig} {history : List MetadataCall}
  {req : Request} {r : VirtualFile}

/-! ## A user alone -/

structure Solitary where
  table : VirtualFiles := {}
  results : List MetadataResult := []

/-- An operation of the user, on the table and without a cache. -/
def Solitary.step (collation : Collation Weight) (username : Bytes) (own : Solitary)
    (op : MetadataOp) : Solitary :=
  match checkRead username op with
  | some (.answered result) => { own with results := own.results ++ [.read result] }
  | some (.asks request) =>
    { own with results := own.results ++ [.read (own.table.load collation request)] }
  | none =>
    match writeOp collation own.table username own.results {} op with
    | some written =>
      { table := written.table.getD own.table
        results := own.results ++ [.done written.table.isSome] }
    | none =>
      match op with
      | .prepare directory name =>
        { own with
          results := own.results ++
            [.parent (own.table.prepareUpload collation username directory name)] }
      | _ => own

/-- The results of a user's operations without anyone else. -/
def alone (collation : Collation Weight) (username : Bytes) (ops : List MetadataOp) :
    List MetadataResult :=
  (run (Solitary.step collation username) {} ops).results.map erase

def opsOf (username : Bytes) (history : List MetadataCall) : List MetadataOp :=
  (history.filter fun call => call.username = username).map MetadataCall.op

/-- No write names the directory by another string. -/
def OneName (collation : Collation Weight) (ops : List MetadataOp) (directory : Bytes) : Prop :=
  ∀ op ∈ ops, ∀ other, op.written? = some other →
    collation.weights directory = collation.weights other → directory = other

def ListsOneName (collation : Collation Weight) (ops : List MetadataOp) : Prop :=
  ∀ directory, .list directory ∈ ops → OneName collation ops directory

/-- The reads of the user for which the cache is to be right. -/
def Asked (collation : Collation Weight) (username : Bytes) (ops : List MetadataOp)
    (request : Request) : Prop :=
  request.username = username ∧
    ∀ directory, request = .list username directory → OneName collation ops directory

/-! ## Results alike -/

/-- The second result is the first one, in the numbers of the user's own table. -/
structure Mirrors (collation : Collation Weight) (username : Bytes) (table : VirtualFiles)
    (number : ℕ → ℕ) (result own : MetadataResult) : Prop where
  erase_eq : own.erase = result.erase
  parent : ∀ id, result = .parent (some id) → own = .parent (some (number id)) ∧
    ∃ row ∈ table.rows, VirtualFiles.owned collation username row = true ∧ row.id = id

lemma Mirrors.later {number' : ℕ → ℕ}
    {res own : MetadataResult} (hmirrors : Mirrors collation username tbl n res own)
    (hrows : ∀ r ∈ tbl.rows, r ∈ after.rows) (hnumber : ∀ r ∈ tbl.rows, number' r.id = n r.id) :
    Mirrors collation username after number' res own where
  erase_eq := hmirrors.erase_eq
  parent id hid := by
    obtain ⟨hown, r, hrow, howned, hrowId⟩ := hmirrors.parent id hid
    refine ⟨?_, r, hrows r hrow, howned, hrowId⟩
    rw [hown, ← hrowId, hnumber r hrow]

lemma preparedId_mirrors {own : List MetadataResult}
    (hmirrors : List.Forall₂ (Mirrors collation username tbl n) results own) (prepared : ℕ) :
    (preparedId results prepared = none ∧ preparedId own prepared = none) ∨
      ∃ r ∈ tbl.rows, VirtualFiles.owned collation username r ∧
        preparedId results prepared = some r.id ∧ preparedId own prepared = some (n r.id) := by
  induction hmirrors generalizing prepared with
  | nil => exact .inl ⟨rfl, rfl⟩
  | @cons res twin results own hresult _ ih =>
    cases prepared with
    | succ prepared => exact ih prepared
    | zero =>
      rcases hresult with ⟨herase, hparent⟩
      cases res with
      | parent id =>
        cases id with
        | some id =>
          obtain ⟨htwin, r, hrow, howned, hid⟩ := hparent id rfl
          subst htwin hid
          exact .inr ⟨r, hrow, howned, rfl, rfl⟩
        | none =>
          cases twin with
          | parent own =>
            cases own with
            | none => exact .inl ⟨rfl, rfl⟩
            | some id => simp [erase] at herase
          | read v | done success => simp [erase] at herase
      | read v | done success =>
        cases twin with
        | parent own => simp [erase] at herase
        | read v | done success => exact .inl ⟨rfl, rfl⟩

lemma VirtualFiles.View.load (hview : View collation username n tbl mine)
    (huser : req.username = username) : mine.load collation req = { tbl.load collation req with
        result := (tbl.load collation req).result.erase } := by
  cases req with
  | list user d =>
    obtain rfl : user = username := huser
    simp only [load, hview.findFileByCurrentDir]
    cases tbl.findFileByCurrentDir collation user d with
    | none | some files => rfl
  | download user d name =>
    obtain rfl : user = username := huser
    simp only [load, hview.findDownloadHash]
    cases tbl.findDownloadHash collation user d name with
    | none | some hash => rfl
  | cd user d name =>
    obtain rfl : user = username := huser
    simp only [load, hview.moveDirByCurrentDir]
    cases tbl.moveDirByCurrentDir collation user d name with
    | none | some path => rfl
  | write user d => rfl

lemma Value.erase_erase (v : Value) : v.erase.erase = v.erase := by
  cases v with
  | files list => simp [Value.erase, FileInfo.erase]
  | text string => rfl

/-! ## The service and the user alone -/

open VirtualFiles MetadataCache MetadataService

/-- The service answers the user as if the user were alone. -/
structure Simulates (platform : Platform) (collation : Collation Weight) (username : Bytes)
    (ops : List MetadataOp) (number : ℕ → ℕ) (service : MetadataService) (own : Solitary) :
    Prop where
  view : View collation username number service.table own.table
  results : List.Forall₂ (Mirrors collation username service.table number)
    (service.resultsOf username) own.results
  coherent : Coherent platform collation (Asked collation username ops) service.cache service.table
  distinct : ∀ row ∈ service.table.rows, ∀ other ∈ service.table.rows,
    row.id = other.id → row = other

lemma resultsOf_answer (res : MetadataResult) :
    (s.answer username res).resultsOf username = s.resultsOf username ++ [res] := by
  simp [answer, resultsOf]

lemma resultsOf_answer_of_ne (hne : user ≠ username) (res : MetadataResult) :
    (s.answer user res).resultsOf username = s.resultsOf username := by
  simp [answer, resultsOf, hne]

lemma insert_appended (hview : View collation username n tbl mine)
    (hinsert : tbl.insert collation r ch = some after) :
    Appended collation username tbl after (tbl.inserted r ch) := by
  refine ⟨(insert_spec hinsert).2.2.1, ?_⟩
  intro other hother howned hparent
  obtain ⟨parent, hmem, _, hid⟩ := hview.parents other hother howned _ hparent
  have hbelow := hview.below parent hmem
  rw [hid] at hbelow
  simp only [inserted] at hbelow
  omega

lemma insert_distinct (hview : View collation username n tbl mine)
    (hdistinct : ∀ r ∈ tbl.rows, ∀ other ∈ tbl.rows, r.id = other.id → r = other)
    (hinsert : tbl.insert collation r ch = some after) :
    ∀ r ∈ after.rows, ∀ other ∈ after.rows, r.id = other.id → r = other := by
  have hnew : ∀ other ∈ tbl.rows, other.id ≠ (tbl.inserted r ch).id := by
    intro other hother hid
    have hbelow := hview.below other hother
    rw [hid] at hbelow
    simp only [inserted] at hbelow
    omega
  rw [(insert_spec hinsert).2.2.1]
  intro first hfirst second hsecond hid
  rw [mem_append, mem_singleton] at hfirst hsecond
  rcases hfirst with hfirst | rfl
  · rcases hsecond with hsecond | rfl
    · exact hdistinct first hfirst second hsecond hid
    · exact absurd hid (hnew first hfirst)
  · rcases hsecond with hsecond | rfl
    · exact absurd hid.symm (hnew second hsecond)
    · rfl

/-! ### Reads -/

lemma checkRead_asks (hcheck : checkRead user op = some (.asks req)) :
    req.username = user ∧ ∀ d, req = .list user d → op = .list d := by
  cases op with
  | list d =>
    simp only [checkRead, some.injEq] at hcheck
    split at hcheck
    · simp at hcheck
    · injection hcheck with hrequest
      subst hrequest
      exact ⟨rfl, fun _ hlist => congrArg MetadataOp.list (Request.list.inj hlist).2⟩
  | download d name =>
    simp only [checkRead, some.injEq] at hcheck
    split at hcheck
    · simp at hcheck
    · injection hcheck with hrequest
      subst hrequest
      exact ⟨rfl, nofun⟩
  | cd d name =>
    simp only [checkRead, some.injEq] at hcheck
    split at hcheck
    · simp at hcheck
    · split at hcheck
      · simp at hcheck
      · injection hcheck with hrequest
        subst hrequest
        exact ⟨rfl, nofun⟩
  | signup | mkdir d name | prepare d name | commit prepared d name hash =>
    simp [checkRead] at hcheck

section

variable (hsim : Simulates platform collation username ops n s own)
include hsim

lemma Simulates.answer {res twin : MetadataResult}
    (hcoh : Coherent platform collation (Asked collation username ops) cache s.table)
    (hmirrors : Mirrors collation username s.table n res twin) :
    Simulates platform collation username ops n ({ s with cache }.answer username res)
      { own with results := own.results ++ [twin] } where
  view := hsim.view
  results := by
    rw [resultsOf_answer]
    exact rel_append hsim.results (.cons hmirrors .nil)
  coherent := hcoh
  distinct := hsim.distinct

omit hsim in
lemma mirrors_read {res twin : StorageContext}
    (hsuccess : twin.success = res.success) (hresult : twin.result.erase = res.result.erase) :
    Mirrors collation username tbl n (.read res) (.read twin) where
  erase_eq := by simp [erase, hsuccess, hresult]
  parent id hid := by simp at hid

lemma Simulates.read {check : ReadCheck} (clocks : Clocks)
    (hcheck : checkRead username op = some check) (hop : op ∈ ops)
    (hone : ListsOneName collation ops) :
    Simulates platform collation username ops n
      (s.performRead platform collation username clocks check)
      (own.step collation username op) := by
  unfold Solitary.step
  rw [hcheck]
  cases check with
  | answered res =>
    exact hsim.answer hsim.coherent (mirrors_read rfl rfl)
  | asks req =>
    obtain ⟨huser, hlists⟩ := checkRead_asks hcheck
    obtain ⟨hcoh, hanswer⟩ := hsim.coherent.ask req clocks
    have hresult := hanswer ⟨huser, fun d hlist => hone d (hlists d hlist ▸ hop)⟩
    have hown := hsim.view.load huser
    simp only [performRead, hresult]
    apply hsim.answer hcoh
    apply mirrors_read
    · rw [hown]
    · rw [hown]
      exact Value.erase_erase _

/-! ### Writes -/

omit hsim in
lemma writeOp_follows {twins : List MetadataResult} (hview : View collation username n tbl mine)
    (hmirrors : List.Forall₂ (Mirrors collation username tbl n) results twins)
    (hacc : ch.accepted) (hwrite : writeOp collation tbl username results ch op = some written) :
    ∃ twin, writeOp collation mine username twins {} op = some twin ∧
      Follows collation username n tbl written.table twin.table := by
  cases op with
  | signup =>
    obtain rfl := some.inj hwrite
    exact ⟨_, rfl, hview.createRoot hacc⟩
  | mkdir d name =>
    simp only [writeOp, some.injEq] at hwrite
    refine ⟨_, rfl, ?_⟩
    subst hwrite
    split
    · exact .inl ⟨rfl, rfl⟩
    · exact hview.createDir hacc d name
  | commit prepared d name hash =>
    simp only [writeOp, some.injEq] at hwrite
    refine ⟨_, rfl, ?_⟩
    subst hwrite
    rcases preparedId_mirrors hmirrors prepared with
      ⟨hnone, hnone'⟩ | ⟨r, hrow, howned, hsome, hsome'⟩
    · rw [hnone, hnone']
      exact .inl ⟨rfl, rfl⟩
    · rw [hsome, hsome']
      dsimp only
      split
      · exact .inl ⟨rfl, rfl⟩
      · exact hview.commitUpload hacc hrow howned d name hash
  | list d | cd d name | prepare d name | download d name =>
    simp [writeOp] at hwrite

/-- The cache after a write whose row does not belong to a listing of the user that stays
valid. -/
lemma Simulates.coherent_write
    (hrows : ∀ after, written.table = some after → ∃ r, ∃ ch : InsertChoices,
      s.table.insert collation r ch = some after ∧ ∀ d, OneName collation ops d →
        (∀ target, written.directory = some target → (Request.list username d).gate platform ≠
            (Request.write user target).gate platform) →
        ∀ parent ∈ s.table.rows, atPath collation username d parent →
          childOf collation username parent.id (s.table.inserted r ch) = false) :
    Coherent platform collation (Asked collation username ops)
      (s.performWrite platform user written).cache
      (s.performWrite platform user written).table := by
  have hload : ∀ req v, Asked collation username ops req →
      (∀ target, written.directory = some target → ∀ kind key,
        req.read? = some (kind, key) → kind.versioned →
          req.gate platform ≠ (Request.write user target).gate platform) →
      s.table.load collation req = ⟨true, v⟩ →
        (written.table.getD s.table).load collation req = ⟨true, v⟩ := by
    intro req v hasked hgate hload
    cases hafter : written.table with
    | none => exact hload
    | some after =>
      obtain ⟨r, ch, hinsert, hchild⟩ := hrows after hafter
      apply (insert_appended hsim.view hinsert).load hasked.1 hload
      intro d hlist
      subst hlist
      exact hchild d (hasked.2 d rfl) fun target htarget => hgate target htarget .list _ rfl rfl
  unfold performWrite
  cases hdir : written.directory with
  | none =>
    apply hsim.coherent.withTable
    intro req v hasked
    apply hload req v hasked
    intro target htarget
    rw [hdir] at htarget
    simp at htarget
  | some d =>
    apply hsim.coherent.advance user d
    intro req v hasked hgate
    apply hload req v hasked
    intro target htarget kind key hread hversioned
    rw [hdir] at htarget
    obtain rfl := some.inj htarget
    exact hgate kind key hread hversioned

lemma Simulates.write (hop : op ∈ ops) (hacc : ch.accepted)
    (hcheck : checkRead username op = none)
    (hwrite : writeOp collation s.table username (s.resultsOf username) ch op = some written) :
    ∃ number', Simulates platform collation username ops number'
      (s.performWrite platform username written) (own.step collation username op) := by
  have hcoh : Coherent platform collation (Asked collation username ops)
      (s.performWrite platform username written).cache
      (s.performWrite platform username written).table := by
    apply hsim.coherent_write
    intro after hafter
    obtain ⟨r, hinsert, _, hplace⟩ := writeOp_spec hwrite hafter
    refine ⟨r, ch, hinsert, ?_⟩
    intro d hname hgate parent hparent hpath
    by_contra hchild
    rw [Bool.not_eq_false] at hchild
    simp only [childOf, Bool.and_eq_true, decide_eq_true_eq] at hchild
    have hparentId : r.parentId = some parent.id := hchild.2
    rcases hplace with hroot | ⟨target, htarget, hdir, other, hother, hid, hotherPath⟩
    · rw [hroot] at hparentId
      simp at hparentId
    · have hsame : other = parent := by
        rw [hid] at hparentId
        exact hsim.distinct other hother parent hparent (some.inj hparentId)
      subst hsame
      simp only [atPath, Bool.and_eq_true, same_iff] at hpath hotherPath
      have hequal : d = target := hname op hop target hdir (hpath.2.symm.trans hotherPath.2)
      subst hequal
      exact hgate d htarget rfl
  obtain ⟨twin, htwin, hfollows⟩ := writeOp_follows hsim.view hsim.results hacc hwrite
  unfold Solitary.step
  rw [hcheck, htwin]
  rcases hfollows with ⟨hnone, hnone'⟩ | ⟨after, after', number', hsome, hsome', hview, hsame⟩
  · refine ⟨n, ?_, ?_, hcoh, ?_⟩
    · simp only [performWrite, hnone, hnone']
      exact hsim.view
    · simp only [performWrite, resultsOf_answer, hnone, hnone']
      apply rel_append hsim.results
      exact .cons ⟨rfl, by simp⟩ .nil
    · simp only [performWrite, hnone]
      exact hsim.distinct
  · obtain ⟨r, hinsert, _, _⟩ := writeOp_spec hwrite hsome
    have hrows : ∀ other ∈ s.table.rows, other ∈ after.rows := by
      intro other hother
      rw [(insert_spec hinsert).2.2.1]
      exact mem_append_left _ hother
    refine ⟨number', ?_, ?_, hcoh, ?_⟩
    · simp only [performWrite, hsome, hsome']
      exact hview
    · simp only [performWrite, resultsOf_answer, hsome, hsome']
      apply rel_append
      · exact hsim.results.imp fun _ _ hmirrors => hmirrors.later hrows hsame
      · exact .cons ⟨rfl, by simp⟩ .nil
    · simp only [performWrite, hsome]
      exact insert_distinct hsim.view hsim.distinct hinsert

lemma Simulates.step_own (huser : call.username = username) (hop : call.op ∈ ops)
    (hone : ListsOneName collation ops) :
    ∃ number', Simulates platform collation username ops number'
      (s.step platform collation call) (own.step collation username call.op) := by
  unfold step
  rw [huser]
  cases hcheck : checkRead username call.op with
  | some check => exact ⟨n, hsim.read call.choices.clocks hcheck hop hone⟩
  | none =>
    cases hwrite : writeOp collation s.table username (s.resultsOf username)
        call.choices.insert call.op with
    | some written => exact hsim.write hop rfl hcheck hwrite
    | none =>
      refine ⟨n, ?_⟩
      cases hop : call.op with
      | prepare d name =>
        have hprepare := hsim.view.prepareUpload d name
        apply hsim.answer hsim.coherent
        rw [hprepare]
        refine ⟨?_, ?_⟩
        · simp [erase, Function.comp_def]
        · intro id hid
          have hsome := parent.inj hid
          refine ⟨by rw [hsome]; rfl, prepareUpload_spec hsome⟩
      | signup | mkdir d name => rw [hop] at hwrite; simp [writeOp] at hwrite
      | commit prepared d name hash =>
        rw [hop] at hwrite; simp [writeOp] at hwrite
      | list d | cd d name | download d name =>
        rw [hop] at hcheck; simp [checkRead] at hcheck

omit hsim in
lemma writeOp_other (hother : same collation user username = false)
    (hwrite : writeOp collation tbl user results ch op = some written)
    (hafter : written.table = some after) : ∃ r, tbl.insert collation r ch = some after ∧
      owned collation username r = false := by
  obtain ⟨r, hinsert, howned, _⟩ := writeOp_spec hwrite hafter
  refine ⟨r, hinsert, ?_⟩
  by_contra hmine
  rw [Bool.not_eq_false] at hmine
  simp only [owned, same_iff] at howned hmine
  rw [← Bool.not_eq_true, same_iff] at hother
  exact hother (howned.symm.trans hmine)

lemma Simulates.answer_other (hne : user ≠ username)
    (hcoh : Coherent platform collation (Asked collation username ops) cache s.table)
    (res : MetadataResult) : Simulates platform collation username ops n
      ({ s with cache }.answer user res) own where
  view := hsim.view
  results := by
    rw [resultsOf_answer_of_ne hne]
    exact hsim.results
  coherent := hcoh
  distinct := hsim.distinct

lemma Simulates.write_other (hother : same collation user username = false)
    (hwrite : writeOp collation s.table user results ch op = some written) :
    Simulates platform collation username ops n (s.performWrite platform user written) own := by
  have hne : user ≠ username := by
    intro heq
    rw [heq, ← Bool.not_eq_true, same_iff] at hother
    exact hother rfl
  have hcoh : Coherent platform collation (Asked collation username ops)
      (s.performWrite platform user written).cache
      (s.performWrite platform user written).table := by
    apply hsim.coherent_write
    intro after hafter
    obtain ⟨r, hinsert, hrow⟩ := writeOp_other hother hwrite hafter
    refine ⟨r, ch, hinsert, ?_⟩
    intro d _ _ parent _ _
    have hnot : same collation r.username username = false := hrow
    simp [childOf, inserted, hnot]
  cases hafter : written.table with
  | none =>
    refine ⟨?_, ?_, hcoh, ?_⟩
    · simp only [performWrite, hafter]
      exact hsim.view
    · simp only [performWrite, hafter, resultsOf_answer_of_ne hne]
      exact hsim.results
    · simp only [performWrite, hafter]
      exact hsim.distinct
  | some after =>
    obtain ⟨r, hinsert, hrow⟩ := writeOp_other hother hwrite hafter
    have hrows : ∀ other ∈ s.table.rows, other ∈ after.rows := by
      intro other hmem
      rw [(insert_spec hinsert).2.2.1]
      exact mem_append_left _ hmem
    refine ⟨?_, ?_, hcoh, ?_⟩
    · simp only [performWrite, hafter]
      exact hsim.view.insert_other hinsert hrow
    · simp only [performWrite, hafter, resultsOf_answer_of_ne hne]
      exact hsim.results.imp fun _ _ hmirrors => hmirrors.later hrows fun _ _ => rfl
    · simp only [performWrite, hafter]
      exact insert_distinct hsim.view hsim.distinct hinsert

lemma Simulates.step_other (hother : same collation call.username username = false) :
    Simulates platform collation username ops n (s.step platform collation call) own := by
  have hne : call.username ≠ username := by
    intro heq
    rw [heq, ← Bool.not_eq_true, same_iff] at hother
    exact hother rfl
  unfold step
  split
  · rename_i check _
    cases check with
    | answered res => exact hsim.answer_other hne hsim.coherent _
    | asks req => exact hsim.answer_other hne (hsim.coherent.ask req _).1 _
  · split
    · rename_i written hwrite
      exact hsim.write_other hother hwrite
    · split
      · exact hsim.answer_other hne hsim.coherent _
      · exact hsim

end

/-- No operation of another user creates, changes or hides a row of the user. -/
lemma rows_step_other (hother : same collation call.username username = false) :
    (s.step platform collation call).table.rows.filter (owned collation username) =
      s.table.rows.filter (owned collation username) := by
  unfold step
  split
  · rename_i check _
    cases check with
    | answered res | asks req => rfl
  · split
    · rename_i written hwrite
      cases hafter : written.table with
      | none => simp only [performWrite, hafter]; rfl
      | some after =>
        obtain ⟨r, hinsert, hrow⟩ := writeOp_other hother hwrite hafter
        have hnew : owned collation username
            (s.table.inserted r call.choices.insert) = false := hrow
        simp only [performWrite, hafter]
        change after.rows.filter _ = _
        rw [(insert_spec hinsert).2.2.1, filter_append,
          filter_cons_of_neg (by simp [hnew]), filter_nil, append_nil]
    · split <;> rfl

/-! ## Histories -/

lemma opsOf_cons_of_eq (history : List MetadataCall) (huser : call.username = username) :
    opsOf username (call :: history) = call.op :: opsOf username history := by
  simp [opsOf, huser]

lemma opsOf_cons_of_ne (history : List MetadataCall) (huser : call.username ≠ username) :
    opsOf username (call :: history) = opsOf username history := by
  simp [opsOf, huser]

lemma Simulates.run (hsim : Simulates platform collation username ops n s
      own) (hone : ListsOneName collation ops) (hops : ∀ op ∈ opsOf username history, op ∈ ops)
    (husers : ∀ call ∈ history, same collation call.username username → call.username = username) :
    ∃ number', Simulates platform collation username ops number'
      (run (step platform collation) s history)
      (run (Solitary.step collation username) own (opsOf username history)) := by
  induction history generalizing s own n with
  | nil => exact ⟨n, hsim⟩
  | cons call history ih =>
    have hrest : ∀ call ∈ history, same collation call.username username →
        call.username = username :=
      fun other hmem => husers other (mem_cons_of_mem _ hmem)
    by_cases huser : call.username = username
    · rw [opsOf_cons_of_eq history huser] at hops ⊢
      obtain ⟨number', hstep⟩ := hsim.step_own huser (hops _ mem_cons_self) hone
      exact ih hstep (fun op hop => hops op (mem_cons_of_mem _ hop)) hrest
    · rw [opsOf_cons_of_ne history huser] at hops ⊢
      have hother : same collation call.username username = false := by
        by_contra hsame
        rw [Bool.not_eq_false] at hsame
        exact huser (husers call mem_cons_self hsame)
      exact ih (hsim.step_other hother) hops hrest

lemma simulates_init (hnew : MetadataCache.new platform config = .ok cache) :
    Simulates platform collation username ops id { cache } {} where
  view :=
    { rows := rfl
      injective := by simp
      fresh := by simp
      below := by simp
      parents := by simp }
  results := .nil
  coherent :=
    { wellFormed := (Calls.new_sound hnew).wellFormed
      entries := by
        intro req kind key entry _ _ hvalue
        obtain ⟨size, harc⟩ := Calls.new_arcs hnew kind
        rw [harc] at hvalue
        have hnone := HashArcCache.run_value _ _ _ [] hvalue
        simp [HashArcCache.latest] at hnone }
  distinct := by simp

lemma results_eq_alone (hnew : MetadataCache.new platform config = .ok cache)
    (hone : ListsOneName collation (opsOf username history))
    (husers : ∀ call ∈ history, same collation call.username username → call.username = username) :
    ((run (step platform collation) { cache } history).resultsOf username).map
        erase = alone collation username (opsOf username history) := by
  obtain ⟨n, hsim⟩ := (simulates_init hnew).run hone (fun _ hop => hop) husers
  have herase := hsim.results.imp fun _ _ hmirrors => hmirrors.erase_eq.symm
  unfold alone
  rw [← forall₂_eq_eq_eq, forall₂_map_left_iff, forall₂_map_right_iff]
  exact herase

/-- Two histories with the same operations of a user, who lists no directory under another
string than it is written to, give that user the same results, up to the ids and the times of
rows; and no operation of another user creates, changes or hides a row of the user. -/
theorem user_isolation (platform : Platform) (collation : Collation Weight)
    (config : MetadataCacheConfig) {cache : MetadataCache}
    (hnew : MetadataCache.new platform config = .ok cache) (username : Bytes)
    (first second : List MetadataCall)
    (hfirst : ∀ call ∈ first, same collation call.username username = true →
      call.username = username)
    (hsecond : ∀ call ∈ second, same collation call.username username = true →
      call.username = username) (hops : opsOf username first = opsOf username second)
    (hone : ListsOneName collation (opsOf username first)) :
    ((Library.run (step platform collation) { cache } first).resultsOf
        username).map erase =
      ((Library.run (step platform collation) { cache } second).resultsOf
        username).map erase ∧ ∀ (history : List MetadataCall) (call : MetadataCall),
      same collation call.username username = false →
        (Library.run (step platform collation) { cache }
          (history ++ [call])).table.rows.filter (owned collation username) =
        (Library.run (step platform collation) { cache }
          history).table.rows.filter (owned collation username) := by
  constructor
  · rw [results_eq_alone hnew hone hfirst, hops, results_eq_alone hnew (hops ▸ hone) hsecond]
  · intro history call hother
    rw [run_concat]
    exact rows_step_other hother

/-! ## Two strings for a directory -/

/-- A hash that looks at one byte of a key, the third from its end. -/
def bytePlatform : Platform where
  hash key := (key.reverse.getD 2 0).toNat
  hardwareConcurrency := 1
  sizeOfFileList := 24
  sizeOfFileInfo := 128

def smallConfig : MetadataCacheConfig :=
  { listCapacity := 2, downloadCapacity := 2, cdCapacity := 2, arcShards := 1 }

def smallCache : MetadataCache where
  banks
    | .list => ⟨true, 5000, 64 * 1024, .new 1 2 1, {}⟩
    | .download => ⟨true, 30000, noByteLimit, .new 1 2 1, {}⟩
    | .cd => ⟨true, 60000, noByteLimit, .new 1 2 1, {}⟩

/-- Two users, of whom the second one works in a directory of the same path. -/
def sharedHistory : List MetadataCall :=
  [⟨ascii "bob", .signup, {}⟩, ⟨ascii "cat", .signup, {}⟩,
    ⟨ascii "bob", .mkdir (ascii "/") (ascii "a"), {}⟩,
    ⟨ascii "cat", .mkdir (ascii "/") (ascii "a"), {}⟩, ⟨ascii "bob", .list (ascii "/a"), {}⟩,
    ⟨ascii "cat", .mkdir (ascii "/a") (ascii "b"), {}⟩, ⟨ascii "bob", .list (ascii "/a"), {}⟩]

lemma listsOneName_shared : ListsOneName asciiCollation (opsOf (ascii "bob") sharedHistory) := by
  have hops : opsOf (ascii "bob") sharedHistory =
      [.signup, .mkdir (ascii "/") (ascii "a"), .list (ascii "/a"), .list (ascii "/a")] := by
    decide
  rw [hops]
  intro directory hlist op hop other hwritten
  obtain rfl : directory = ascii "/a" := by simpa using hlist
  simp only [mem_cons, not_mem_nil, or_false] at hop
  rcases hop with rfl | rfl | rfl | rfl <;>
    simp only [MetadataOp.written?, reduceCtorEq, some.injEq] at hwritten
  subst hwritten
  decide

theorem user_isolation_shared : opsOf (ascii "bob") sharedHistory =
      [.signup, .mkdir (ascii "/") (ascii "a"), .list (ascii "/a"), .list (ascii "/a")] ∧
    ((Library.run (step bytePlatform asciiCollation) { cache := smallCache }
        sharedHistory).resultsOf (ascii "bob")).map erase =
      ((Library.run (step bytePlatform asciiCollation) { cache := smallCache }
        (sharedHistory.filter fun call => call.username = ascii "bob")).resultsOf
        (ascii "bob")).map erase := by
  refine ⟨by decide, (user_isolation bytePlatform asciiCollation smallConfig rfl (ascii "bob")
    sharedHistory (sharedHistory.filter fun call => call.username = ascii "bob") (by decide)
    (by decide) (by decide) listsOneName_shared).1⟩

/-- Bob makes the directory `a/b` in the root beside `b` in `a`, lists the one and makes a
directory in it under the path of the other. -/
def lonelyHistory : List MetadataCall :=
  [⟨ascii "bob", .signup, {}⟩, ⟨ascii "bob", .mkdir (ascii "/") (ascii "a"), {}⟩,
    ⟨ascii "bob", .mkdir (ascii "/a") (ascii "b"), {}⟩,
    ⟨ascii "bob", .mkdir (ascii "/") (ascii "A/b"), {}⟩, ⟨ascii "bob", .list (ascii "/a/b"), {}⟩,
    ⟨ascii "bob", .mkdir (ascii "/A/b") (ascii "x"), {}⟩,
    ⟨ascii "bob", .list (ascii "/a/b"), {}⟩]

/-- The same with another user, who writes to a directory with the gate of the listing. -/
def visitedHistory : List MetadataCall :=
  [⟨ascii "cat", .signup, {}⟩, ⟨ascii "cat", .mkdir (ascii "/") (ascii "a"), {}⟩,
    ⟨ascii "cat", .mkdir (ascii "/a") (ascii "b"), {}⟩] ++ lonelyHistory.take 6 ++
    [⟨ascii "cat", .mkdir (ascii "/a/b") (ascii "y"), {}⟩] ++ lonelyHistory.drop 6

theorem listing_depends_on_others : (∀ call ∈ lonelyHistory ++ visitedHistory,
      same asciiCollation call.username (ascii "bob") = true → call.username = ascii "bob") ∧
    opsOf (ascii "bob") lonelyHistory = opsOf (ascii "bob") visitedHistory ∧
    ((Library.run (step bytePlatform asciiCollation) { cache := smallCache }
        lonelyHistory).resultsOf (ascii "bob")).map erase ≠
      ((Library.run (step bytePlatform asciiCollation) { cache := smallCache }
        visitedHistory).resultsOf (ascii "bob")).map erase := by
  refine ⟨by decide, by decide, ?_⟩
  decide +kernel

/-! ## The cache is transparent -/

/-- For a user who lists no directory under another string than it is written to: whatever all
users have done before, a listing, a download or a `cd` through the cache has the result that the
table has now. -/
theorem cache_transparent (platform : Platform) (collation : Collation Weight)
    (config : MetadataCacheConfig) {cache : MetadataCache}
    (hnew : MetadataCache.new platform config = .ok cache) (history : List MetadataCall)
    (request : Request) (clocks : Clocks)
    (husers : ∀ call ∈ history, same collation call.username request.username = true →
      call.username = request.username)
    (hone : ListsOneName collation (opsOf request.username history))
    (hlist : ∀ directory, request = .list request.username directory →
      OneName collation (opsOf request.username history) directory) :
    let service := run (step platform collation) { cache } history
    (service.cache.ask platform request clocks (service.table.load collation request)).1 =
      service.table.load collation request := by
  obtain ⟨number, hsim⟩ := (simulates_init hnew).run hone (fun _ hop => hop) husers
  exact (hsim.coherent.ask request clocks).2 ⟨rfl, hlist⟩

/-- The listing is a hit: what is loaded plays no part. -/
theorem cache_transparent_shared :
    let service := run (step bytePlatform asciiCollation) { cache := smallCache }
      sharedHistory
    let request := Request.list (ascii "bob") (ascii "/a")
    let answer := fun loaded => (service.cache.ask bytePlatform request {} loaded).1
    answer ⟨false, .files []⟩ = answer (service.table.load asciiCollation request) ∧
      answer (service.table.load asciiCollation request) =
        service.table.load asciiCollation request := by
  refine ⟨by decide +kernel, cache_transparent bytePlatform asciiCollation smallConfig rfl
    sharedHistory _ {} (by decide) listsOneName_shared fun directory hrequest => ?_⟩
  obtain rfl : ascii "/a" = directory := (Request.list.inj hrequest).2
  exact listsOneName_shared _ (by decide)

end Tlss.Ftp
