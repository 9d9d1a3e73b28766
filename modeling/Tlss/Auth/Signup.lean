import Tlss.Base.DbConnection
import Tlss.Library.BigEndian
import Tlss.Library.Run

/-!
# Signing up

`AuthService::signup` checks the request, hashes the password, and lets
`MySqlUserRepository::create_user_with_root` insert the user and the root directory in one
transaction. Every way out of the repository runs the destructor of the transaction, and
every way out of the service ends in a status.

Whatever the database does, the status is true (`Truthful`): it says `k_created` only if
both rows are committed, a failure only if nothing is, and `k_outcome_unknown` whenever a
`COMMIT` was sent and not acknowledged. The connection goes back to the idle queue of the
pool only without a transaction.
-/

namespace Tlss.Auth

open Library Base List Option DbSession

/-! ## The service -/

structure PasswordCredentials where
  salt : Bytes
  passwordHash : Bytes
deriving DecidableEq, Repr

/-- The rows a signup inserts: one of `users`, one of `virtual_files`. -/
inductive SignupRow where
  | user (username : Bytes) (credentials : PasswordCredentials)
  | root (username : Bytes)
deriving DecidableEq, Repr

inductive UserCreateStatus where
  | created
  | usernameTaken
  | backendUnavailable
  | outcomeUnknown
deriving DecidableEq, Repr

structure UserCreateResult where
  status : UserCreateStatus := .backendUnavailable
  userId : ℕ := 0
deriving DecidableEq, Repr

inductive SignupStatus where
  | created
  | invalidUsername
  | invalidPassword
  | usernameTaken
  | backendUnavailable
  | outcomeUnknown
deriving DecidableEq, Repr

structure SignupRequest where
  username : Bytes
  password : Bytes
deriving DecidableEq, Repr

structure SignupResult where
  status : SignupStatus := .backendUnavailable
  userId : ℕ := 0
  username : Bytes := []
deriving DecidableEq, Repr

def validSignupUsername (username : Bytes) : Bool :=
  if username.length < 3 || username.length > 64 then false
  else username.all fun ch =>
    (0x61 ≤ ch && ch ≤ 0x7a) || (0x41 ≤ ch && ch ≤ 0x5a) || (0x30 ≤ ch && ch ≤ 0x39) || ch == 0x5f

def validSignupPassword (password : Bytes) : Bool :=
  if password.length < 8 || password.length > 128 then false
  else password.all fun ch => 0x20 ≤ ch && ch != 0x7f

/-- The loop of `signup` that maps capital letters to small ones. -/
def lowercase (username : Bytes) : Bytes :=
  username.map fun ch => if 0x41 ≤ ch && ch ≤ 0x5a then ch - 0x41 + 0x61 else ch

def erDupEntry : ℕ := 1062

inductive Provided where
  | thrown
  | absent
  | connection (connection : DbConnection SignupRow)

/-- What the environment decides in a signup: the outcome of `hash_password`, which may
throw, and of each call of the database. -/
structure SignupChoices where
  credentials : Option PasswordCredentials
  begins : DbReply
  insertUser : DbInsert
  insertRoot : DbInsert
  commit : DbReply
  rollback : DbReply
  cleanup : DbReply
deriving DecidableEq, Repr

/-- `MetadataService::create_root_in_transaction`; `none` if an exception leaves it. -/
def createRootInTransaction (session : DbSession SignupRow) (username : Bytes)
    (outcome : DbInsert) : Option Bool × DbSession SignupRow :=
  let (root, session) := session.executePrepared (.root username) outcome
  (root.map fun result => result.success && result.affectedRows == 1, session)

/-- The body of `create_user_with_root` behind the construction of the transaction, with
the flag of the transaction at the end; `none` if an exception leaves it. -/
def createInTransaction (active : Bool) (session : DbSession SignupRow) (username : Bytes)
    (credentials : PasswordCredentials) (choices : SignupChoices) :
    Option UserCreateResult × Bool × DbSession SignupRow :=
  if !active then (some { }, active, session)
  else
    match session.executePrepared (.user username credentials) choices.insertUser with
    | (none, session) => (none, active, session)
    | (some user, session) =>
      if !user.success then
        if user.errorCode = erDupEntry then
          let (done, session) := session.rollback active choices.rollback
          if !done then (some { }, false, session)
          else (some ⟨.usernameTaken, 0⟩, false, session)
        else (some { }, active, session)
      else if user.insertId = 0 || user.affectedRows ≠ 1 then (some { }, active, session)
      else
        match createRootInTransaction session username choices.insertRoot with
        | (none, session) => (none, active, session)
        | (some false, session) => (some { }, active, session)
        | (some true, session) =>
          match session.commit active choices.commit with
          | (.committed, session) => (some ⟨.created, user.insertId⟩, false, session)
          | (.outcomeUnknown, session) => (some ⟨.outcomeUnknown, 0⟩, false, session)
          | (.notActive, session) => (some { }, false, session)

/-- `MySqlUserRepository::create_user_with_root`; there is a session if there was a
connection. -/
def createUserWithRoot (provided : Provided) (username : Bytes)
    (credentials : PasswordCredentials) (choices : SignupChoices) :
    Option UserCreateResult × Option (DbSession SignupRow) :=
  match provided with
  | .thrown => (none, none)
  | .absent => (some { }, none)
  | .connection connection =>
    let (active, session) := (DbSession.borrow connection).beginTransaction choices.begins
    let (result, active, session) :=
      createInTransaction active session username credentials choices
    -- the destructor of the transaction
    (result, some (session.rollback active choices.cleanup).2)

def signup (provided : Provided) (request : SignupRequest) (choices : SignupChoices) :
    SignupResult × Option (DbSession SignupRow) :=
  if !validSignupUsername request.username then (⟨.invalidUsername, 0, []⟩, none)
  else if !validSignupPassword request.password then (⟨.invalidPassword, 0, []⟩, none)
  else
    let username := lowercase request.username
    match choices.credentials with
    | none => ({ }, none)
    | some credentials =>
      match createUserWithRoot provided username credentials choices with
      | (none, session) => ({ }, session)
      | (some result, session) =>
        match result.status with
        | .created =>
          (if result.userId = 0 then { } else ⟨.created, result.userId, username⟩, session)
        | .usernameTaken => (⟨.usernameTaken, 0, []⟩, session)
        | .outcomeUnknown => (⟨.outcomeUnknown, 0, []⟩, session)
        | .backendUnavailable => ({ }, session)

/-! ## The repository -/

/-- The result of `create_user_with_root` tells what the call has committed. -/
inductive Reports (username : Bytes) : Option UserCreateResult → DbSession SignupRow → Prop where
  | created {session : DbSession SignupRow} {userId : ℕ} {credentials : PasswordCredentials}
      (hid : userId ≠ 0)
      (hcommitted : session.committed = [.user username credentials, .root username])
      (hlost : session.commitLost = false) : Reports username (some ⟨.created, userId⟩) session
  | unknown {session : DbSession SignupRow} (hlost : session.commitLost = true) :
      Reports username (some ⟨.outcomeUnknown, 0⟩) session
  | failed {result : Option UserCreateResult} {session : DbSession SignupRow}
      (hresult : ∀ value, result = some value →
        value.status = .usernameTaken ∨ value.status = .backendUnavailable)
      (hcommitted : session.committed = []) (hlost : session.commitLost = false) :
      Reports username result session

variable {username : Bytes} {sess : DbSession SignupRow} {connection : DbConnection SignupRow}

lemma Reports.unavailable (hdone : sess.committed = [])
    (hlost : sess.commitLost = false) : Reports username (some { }) sess :=
  .failed (fun value hvalue => .inr (by rw [← some.inj hvalue])) hdone hlost

lemma Reports.thrown (hdone : sess.committed = [])
    (hlost : sess.commitLost = false) : Reports username none sess :=
  .failed nofun hdone hlost

lemma Reports.rollback {res : Option UserCreateResult} (h : Reports username res sess)
    (htracked : sess.connection.Tracked) (active : Bool) (reply : DbReply) :
    Reports username res (sess.rollback active reply).2 := by
  obtain ⟨-, hdone, hlost⟩ := rollback_keeps htracked active reply
  cases h with
  | created hid hrows hnot => exact .created hid (hdone.trans hrows) (hlost.trans hnot)
  | unknown hknown => exact .unknown (hlost.trans hknown)
  | failed hres hrows hnot => exact .failed hres (hdone.trans hrows) (hlost.trans hnot)

lemma createRootInTransaction_cases {rows : List SignupRow} (h : sess.InTransaction rows)
    (username : Bytes) (out : DbInsert) :
    ((createRootInTransaction sess username out).1 = some true ∧
        (createRootInTransaction sess username out).2.InTransaction (rows ++ [.root username])) ∨
      (createRootInTransaction sess username out).1 ≠ some true ∧
        (createRootInTransaction sess username out).2.committed = [] ∧
        (createRootInTransaction sess username out).2.commitLost = false := by
  unfold createRootInTransaction
  rcases executePrepared_cases h (.root username) out with
    ⟨affectedRows, insertId, hres, hrows⟩ | ⟨hfailed, hdone, hlost⟩
  · dsimp only
    rw [hres]
    by_cases hone : affectedRows = 1
    · subst hone
      exact .inl ⟨rfl, hrows⟩
    · exact .inr ⟨by simp [hone], hrows.nothing⟩
  · refine .inr ⟨fun htrue => ?_, hdone, hlost⟩
    obtain ⟨res, hres, hsuccess⟩ := map_eq_some_iff.mp htrue
    simp [hfailed res hres] at hsuccess

lemma createRootInTransaction_tracked (h : sess.connection.Tracked) (username : Bytes)
    (out : DbInsert) : (createRootInTransaction sess username out).2.connection.Tracked :=
  tracked_executePrepared h _ out

lemma createRoot_commit_reports {credentials : PasswordCredentials}
    (h : sess.InTransaction [.user username credentials]) {insertId : ℕ} (hid : insertId ≠ 0)
    (choices : SignupChoices) :
    let final : Option UserCreateResult × Bool × DbSession SignupRow :=
      match createRootInTransaction sess username choices.insertRoot with
      | (none, sess) => (none, true, sess)
      | (some false, sess) => (some { }, true, sess)
      | (some true, sess) =>
        match sess.commit true choices.commit with
        | (.committed, sess) => (some ⟨.created, insertId⟩, false, sess)
        | (.outcomeUnknown, sess) => (some ⟨.outcomeUnknown, 0⟩, false, sess)
        | (.notActive, sess) => (some { }, false, sess)
    final.2.2.connection.Tracked ∧ Reports username final.1 final.2.2 := by
  have hroot := createRootInTransaction_cases h username choices.insertRoot
  have hkeeps := createRootInTransaction_tracked h.tracked username choices.insertRoot
  generalize createRootInTransaction sess username choices.insertRoot = rooted at hroot hkeeps
  obtain ⟨created, rooted⟩ := rooted
  rcases hroot with ⟨hcreated, hrows⟩ | ⟨hnot, hdone, hlost⟩
  · cases hcreated
    have hcommit := commit_cases hrows choices.commit
    have hafter := tracked_commit hkeeps true choices.commit
    dsimp only at hcommit hafter ⊢
    generalize rooted.commit true choices.commit = out at hcommit hafter
    obtain ⟨status, final⟩ := out
    rcases hcommit with ⟨hstatus, hdone, hlost⟩ | ⟨hstatus, hlost⟩
    · cases hstatus
      exact ⟨hafter, .created hid hdone hlost⟩
    · cases hstatus
      exact ⟨hafter, .unknown hlost⟩
  · match created, hnot with
    | none, _ => exact ⟨hkeeps, .thrown hdone hlost⟩
    | some false, _ => exact ⟨hkeeps, .unavailable hdone hlost⟩
    | some true, hnot => exact absurd rfl hnot

lemma createInTransaction_reports (h : sess.InTransaction [])
    (credentials : PasswordCredentials) (choices : SignupChoices) :
    (createInTransaction true sess username credentials choices).2.2.connection.Tracked ∧
      Reports username (createInTransaction true sess username credentials choices).1
        (createInTransaction true sess username credentials choices).2.2 := by
  have hinsert := executePrepared_cases h (.user username credentials) choices.insertUser
  have hkeeps := tracked_executePrepared h.tracked (.user username credentials)
    choices.insertUser
  unfold createInTransaction
  rw [if_neg (by decide)]
  generalize sess.executePrepared (.user username credentials) choices.insertUser = inserted
    at hinsert hkeeps
  obtain ⟨user, inserted⟩ := inserted
  cases user with
  | none =>
    rcases hinsert with ⟨affectedRows, insertId, hres, -⟩ | ⟨-, hdone, hlost⟩
    · cases hres
    · exact ⟨hkeeps, .thrown hdone hlost⟩
  | some user =>
    rcases hinsert with ⟨affectedRows, insertId, hres, hrows⟩ | ⟨hfailed, hdone, hlost⟩
    · obtain rfl := some.inj hres
      dsimp only at hrows hkeeps ⊢
      rw [if_neg (by decide)]
      split_ifs with hodd
      · exact ⟨hkeeps, .unavailable hrows.nothing.1 hrows.nothing.2⟩
      · simp only [Bool.or_eq_true, decide_eq_true_eq, not_or, not_not] at hodd
        obtain ⟨hid, rfl⟩ := hodd
        exact createRoot_commit_reports hrows hid choices
    · -- the insertion has failed
      have hfalse : user.success = false := hfailed user rfl
      have hrolled := rollback_keeps hkeeps true choices.rollback
      simp only [hfalse, Bool.not_false, if_true] at hkeeps hdone hlost hrolled ⊢
      rw [hdone, hlost] at hrolled
      by_cases hduplicate : user.errorCode = erDupEntry
      · rw [if_pos hduplicate]
        generalize inserted.rollback true choices.rollback = rolled at hrolled
        obtain ⟨done, rolled⟩ := rolled
        cases done with
        | false => exact ⟨hrolled.1, .unavailable hrolled.2.1 hrolled.2.2⟩
        | true =>
          refine ⟨hrolled.1, .failed (fun value hvalue => .inl ?_) hrolled.2.1 hrolled.2.2⟩
          rw [← some.inj hvalue]
      · rw [if_neg hduplicate]
        exact ⟨hkeeps, .unavailable hdone hlost⟩

lemma createUserWithRoot_reports (h : connection.Tracked)
    (username : Bytes) (credentials : PasswordCredentials) (choices : SignupChoices) :
    ∃ res sess, createUserWithRoot (.connection connection) username credentials choices =
          (res, some sess) ∧ sess.connection.Tracked ∧ Reports username res sess := by
  have hbegin := beginTransaction_cases connection choices.begins
  have htracked : (borrow connection).connection.Tracked := h
  have hkeeps := tracked_beginTransaction htracked choices.begins
  unfold createUserWithRoot
  dsimp only
  generalize (borrow connection).beginTransaction choices.begins = begun at hbegin hkeeps
  obtain ⟨active, begun⟩ := begun
  have hbody :
      (createInTransaction active begun username credentials choices).2.2.connection.Tracked ∧
      Reports username (createInTransaction active begun username credentials choices).1
        (createInTransaction active begun username credentials choices).2.2 := by
    rcases hbegin with ⟨hactive, hrows⟩ | ⟨hactive, hdone, hlost⟩
    · cases hactive
      exact createInTransaction_reports hrows credentials choices
    · cases hactive
      exact ⟨hkeeps, .unavailable hdone hlost⟩
  refine ⟨_, _, rfl, ?_, hbody.2.rollback hbody.1 _ _⟩
  exact (rollback_keeps hbody.1 _ _).1

/-! ## The status -/

structure SignupOutcome where
  request : SignupRequest
  result : SignupResult
  committed : List SignupRow
  commitLost : Bool
deriving DecidableEq, Repr

def outcomeOf (request : SignupRequest)
    (answer : SignupResult × Option (DbSession SignupRow)) : SignupOutcome :=
  ⟨request, answer.1, (answer.2.map DbSession.committed).getD [],
    (answer.2.map DbSession.commitLost).getD false⟩

/-- What the client is told agrees with what was committed. -/
structure Truthful (outcome : SignupOutcome) : Prop where
  created : outcome.result.status = .created →
    (∃ credentials, .user (lowercase outcome.request.username) credentials ∈ outcome.committed) ∧
      .root (lowercase outcome.request.username) ∈ outcome.committed
  failed : outcome.result.status = .usernameTaken ∨ outcome.result.status = .invalidUsername ∨
      outcome.result.status = .invalidPassword ∨ outcome.result.status = .backendUnavailable →
    outcome.committed = []
  lost : outcome.commitLost = true → outcome.result.status = .outcomeUnknown

lemma truthful_of_nothing {out : SignupOutcome} (hdone : out.committed = [])
    (hlost : out.commitLost = false) (hstatus : out.result.status ≠ .created) : Truthful out :=
  ⟨fun hcreated => absurd hcreated hstatus, fun _ => hdone,
    fun hcommitLost => absurd hcommitLost (by rw [hlost]; decide)⟩

/-- `signup` answers truthfully, and its connection has no transaction the flag does not
know of. -/
lemma signup_reports {provided : Provided}
    (h : ∀ connection, provided = .connection connection → connection.Tracked)
    (req : SignupRequest) (choices : SignupChoices) :
    Truthful (outcomeOf req (signup provided req choices)) ∧
      ∀ sess, (signup provided req choices).2 = some sess → sess.connection.Tracked := by
  unfold signup
  split_ifs with husername hpassword
  · exact ⟨truthful_of_nothing rfl rfl nofun, nofun⟩
  · exact ⟨truthful_of_nothing rfl rfl nofun, nofun⟩
  · cases hcredentials : choices.credentials with
    | none => exact ⟨truthful_of_nothing rfl rfl nofun, nofun⟩
    | some credentials =>
      cases provided with
      | thrown | absent => exact ⟨truthful_of_nothing rfl rfl nofun, nofun⟩
      | connection connection =>
        obtain ⟨res, sess, heq, htracked, hreports⟩ :=
          createUserWithRoot_reports (h connection rfl) (lowercase req.username) credentials choices
        dsimp only
        rw [heq]
        have hsession : ∀ other, some sess = some other → other.connection.Tracked :=
          fun other hother => some.inj hother ▸ htracked
        cases hreports with
        | created hid hdone hlost =>
          dsimp only
          rw [if_neg hid]
          refine ⟨⟨fun _ => ?_, ?_, fun hcommitLost => ?_⟩, hsession⟩
          · simp [outcomeOf, hdone]
          · rintro (hstatus | hstatus | hstatus | hstatus) <;> cases hstatus
          · exact absurd (hlost.symm.trans hcommitLost) (by decide)
        | unknown hlost =>
          refine ⟨⟨nofun, ?_, fun _ => rfl⟩, hsession⟩
          rintro (hstatus | hstatus | hstatus | hstatus) <;> cases hstatus
        | failed hres hdone hlost =>
          cases res with
          | none => exact ⟨truthful_of_nothing hdone hlost nofun, hsession⟩
          | some value =>
            dsimp only
            rcases hres value rfl with hstatus | hstatus
            · rw [hstatus]
              exact ⟨truthful_of_nothing hdone hlost nofun, hsession⟩
            · rw [hstatus]
              exact ⟨truthful_of_nothing hdone hlost nofun, hsession⟩

/-! ## Runs over a pool -/

/-- The connections of the pool that lie idle or are with calls, and the signups that have
ended. -/
structure SignupPool where
  stopping : Bool
  idle : List (DbConnection SignupRow)
  borrowed : List (DbConnection SignupRow)
  outcomes : List SignupOutcome

namespace SignupPool

/-- What the connection provider gives a call: a connection that was borrowed for it, or
none, or it throws. -/
inductive Source where
  | thrown
  | absent
  | borrowed (index : ℕ)
deriving DecidableEq, Repr

inductive Event where
  | produce
  | expire (index : ℕ)
  /-- A call takes the first idle connection, which is closed if it does not answer. -/
  | borrow (alive : Bool)
  /-- A call of `signup` does everything it does, and its connection is released. -/
  | signup (source : Source) (request : SignupRequest) (choices : SignupChoices)
  | stop
deriving DecidableEq, Repr

def new : SignupPool := ⟨false, [], [], []⟩

def releaseConnection (pool : SignupPool) (connection : DbConnection SignupRow) : SignupPool :=
  if !pool.stopping && connection.isReusable then
    { pool with idle := pool.idle ++ [connection] }
  else pool

def provide (pool : SignupPool) : Source → Provided
  | .thrown => .thrown
  | .absent => .absent
  | .borrowed index =>
    match pool.borrowed[index]? with
    | some connection => .connection connection
    | none => .absent

def giveBack (pool : SignupPool) : Source → SignupPool
  | .borrowed index => { pool with borrowed := pool.borrowed.eraseIdx index }
  | _ => pool

def step (pool : SignupPool) : Event → SignupPool
  | .produce => if pool.stopping then pool else { pool with idle := pool.idle ++ [.fresh] }
  | .expire index => { pool with idle := pool.idle.eraseIdx index }
  | .borrow alive =>
    match pool.idle with
    | [] => pool
    | connection :: rest =>
      if pool.stopping then pool
      else
        { pool with
          idle := rest
          borrowed := if alive then pool.borrowed ++ [connection] else pool.borrowed }
  | .signup source request choices =>
    let answer := signup (pool.provide source) request choices
    let ended := { pool with outcomes := pool.outcomes ++ [outcomeOf request answer] }
    match answer.2 with
    | none => ended
    | some session => (ended.giveBack source).releaseConnection session.connection
  | .stop => { pool with stopping := true }

/-- All signups were answered truthfully, no idle connection has a transaction, and the
flags of all connections are right. -/
structure Sound (pool : SignupPool) : Prop where
  truthful : ∀ outcome ∈ pool.outcomes, Truthful outcome
  idle : ∀ connection ∈ pool.idle, connection.isReusable = true ∧ connection.Tracked
  borrowed : ∀ connection ∈ pool.borrowed, connection.Tracked

variable {pool : SignupPool}

lemma sound_new : new.Sound := by
  constructor <;> simp [new]

lemma Sound.releaseConnection (h : pool.Sound)
    (htracked : connection.Tracked) : (pool.releaseConnection connection).Sound := by
  unfold SignupPool.releaseConnection
  split_ifs with hkept
  · refine ⟨h.truthful, ?_, h.borrowed⟩
    rw [Bool.and_eq_true] at hkept
    exact forall_mem_append.mpr ⟨h.idle, forall_mem_singleton.mpr ⟨hkept.2, htracked⟩⟩
  · exact h

lemma Sound.giveBack (h : pool.Sound) (source : Source) : (pool.giveBack source).Sound := by
  cases source with
  | thrown | absent => exact h
  | borrowed index =>
    exact ⟨h.truthful, h.idle, fun connection hmem => h.borrowed connection
      (mem_of_mem_eraseIdx hmem)⟩

lemma Sound.step (h : pool.Sound) (event : Event) : (pool.step event).Sound := by
  cases event with
  | produce =>
    simp only [SignupPool.step]
    split_ifs
    · exact h
    · refine ⟨h.truthful, ?_, h.borrowed⟩
      have hfresh : (DbConnection.fresh : DbConnection SignupRow).isReusable ∧
          (DbConnection.fresh : DbConnection SignupRow).Tracked :=
        ⟨rfl, fun hopened => absurd rfl hopened⟩
      exact forall_mem_append.mpr ⟨h.idle, forall_mem_singleton.mpr hfresh⟩
  | expire index =>
    exact ⟨h.truthful, fun connection hmem => h.idle connection
      (mem_of_mem_eraseIdx hmem), h.borrowed⟩
  | borrow alive =>
    simp only [SignupPool.step]
    split
    · exact h
    · rename_i connection rest hidle
      split_ifs with hstopping halive
      · exact h
      all_goals
        have hmem := h.idle
        rw [hidle, forall_mem_cons] at hmem
      · exact ⟨h.truthful, hmem.2,
          forall_mem_append.mpr ⟨h.borrowed, forall_mem_singleton.mpr hmem.1.2⟩⟩
      · exact ⟨h.truthful, hmem.2, h.borrowed⟩
  | signup source req choices =>
    have hprovided : ∀ connection, pool.provide source = .connection connection →
        connection.Tracked := by
      intro connection hconnection
      cases source with
      | thrown | absent => cases hconnection
      | borrowed index =>
        simp only [provide] at hconnection
        split at hconnection
        · rename_i other hother
          cases hconnection
          exact h.borrowed connection (mem_of_getElem? hother)
        · cases hconnection
    obtain ⟨htruthful, htracked⟩ := signup_reports hprovided req choices
    have hended : Sound { pool with outcomes := pool.outcomes ++
        [outcomeOf req (signup (pool.provide source) req choices)] } := by
      exact ⟨forall_mem_append.mpr ⟨h.truthful, forall_mem_singleton.mpr htruthful⟩,
        h.idle, h.borrowed⟩
    simp only [SignupPool.step]
    split
    · exact hended
    · rename_i sess hsession
      exact (hended.giveBack source).releaseConnection (htracked sess hsession)
  | stop => exact { h with }

/-- In every run, whatever the database does: each signup is answered truthfully, and no
idle connection of the pool has an open transaction. -/
theorem signup_outcomes_truthful (events : List Event) :
    (∀ outcome ∈ (run step new events).outcomes, (outcome.result.status = .created → (∃ credentials,
            .user (lowercase outcome.request.username) credentials ∈ outcome.committed) ∧
          .root (lowercase outcome.request.username) ∈ outcome.committed) ∧
      (outcome.result.status = .usernameTaken ∨ outcome.result.status = .invalidUsername ∨
          outcome.result.status = .invalidPassword ∨
          outcome.result.status = .backendUnavailable → outcome.committed = []) ∧
      (outcome.commitLost = true → outcome.result.status = .outcomeUnknown)) ∧
    ∀ connection ∈ (run step new events).idle,
      connection.isReusable = true ∧ connection.opened = none := by
  have hstep : ∀ (pool : SignupPool) event, pool.Sound → (pool.step event).Sound :=
    fun pool event h => h.step event
  have hsound : (run step new events).Sound :=
    run_invariant hstep sound_new events
  refine ⟨fun outcome hmem => ?_, fun connection hmem => ?_⟩
  · have htruthful := hsound.truthful outcome hmem
    exact ⟨htruthful.created, htruthful.failed, htruthful.lost⟩
  · obtain ⟨hreusable, htracked⟩ := hsound.idle connection hmem
    exact ⟨hreusable, htracked.opened_of_isReusable hreusable⟩

/-- A `COMMIT` that was executed without an answer: both rows are there, and the status says
that the outcome is unknown. -/
example :
    let request : SignupRequest := ⟨[0x41, 0x6e, 0x6e], replicate 8 0x78⟩
    let choices : SignupChoices := ⟨some ⟨[], []⟩, .acknowledged, .done 1 7, .done 1 9, .lost true,
      .acknowledged, .acknowledged⟩
    let pool := run step new [.produce, .borrow true, .signup (.borrowed 0) request choices]
    pool.outcomes.map (fun outcome => (outcome.result.status, outcome.committed.length)) =
      [(.outcomeUnknown, 2)] ∧ pool.idle = [] := by
  decide

end SignupPool

end Tlss.Auth
