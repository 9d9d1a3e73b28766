import Mathlib.Data.List.Basic

/-!
# Database connections and transactions

`DbConnection` keeps a flag for the transaction it has begun; the server keeps the
transaction. A transaction takes effect if the server executes `COMMIT`, and it is undone
by `ROLLBACK` or when the connection is closed. A statement whose answer is lost may have
been executed or not, and then the connection is closed at once.

The rows are those of some type `ρ`. A `DbSession` is a connection together with what has
been committed through it, so that the two can be compared: as long as the server holds a
transaction the flag is set (`Tracked`), hence a connection that `is_reusable` has none.
-/

namespace Tlss.Base

/-- How the server answers a statement that begins or ends a transaction. -/
inductive DbReply where
  | acknowledged
  /-- The answer is lost; `executed` tells what the server has done. -/
  | lost (executed : Bool)
deriving DecidableEq, Repr

/-- What a statement has done to the transaction of the server when the client sees it
fail. -/
inductive DbDamage where
  | nothing
  | executed
  | rolledBack
deriving DecidableEq, Repr

/-- How an `INSERT` ends: the client is told the numbers of affected rows and of the new
row, or an error, or an exception leaves `execute_prepared`. -/
inductive DbInsert where
  | done (affectedRows insertId : ℕ)
  | failed (errorCode : ℕ) (damage : DbDamage)
  | thrown (damage : DbDamage)
deriving DecidableEq, Repr

structure DbExecuteResult where
  success : Bool
  errorCode : ℕ
  affectedRows : ℕ
  insertId : ℕ
deriving DecidableEq, Repr

inductive DbCommitStatus where
  | committed
  | notActive
  | outcomeUnknown
deriving DecidableEq, Repr

def crServerGoneError : ℕ := 2006

/-- `DbConnection`: `conn` tells whether `_conn` is not null. `opened` is the transaction
the server holds for the connection, with the rows inserted in it. -/
structure DbConnection (ρ : Type*) where
  conn : Bool
  connected : Bool
  transactionActive : Bool
  opened : Option (List ρ)
deriving DecidableEq, Repr

namespace DbConnection

variable {ρ : Type*}

def fresh : DbConnection ρ := ⟨true, true, false, none⟩

def isReusable (connection : DbConnection ρ) : Bool :=
  connection.conn && connection.connected && !connection.transactionActive

/-- `invalidate`; the server undoes what was not committed. -/
def invalidate (_connection : DbConnection ρ) : DbConnection ρ := ⟨false, false, false, none⟩

/-- While the server holds a transaction the flag is set. -/
def Tracked (connection : DbConnection ρ) : Prop :=
  connection.opened ≠ none → connection.transactionActive = true

lemma Tracked.opened_of_isReusable {connection : DbConnection ρ} (h : connection.Tracked)
    (hreusable : connection.isReusable) : connection.opened = none := by
  by_contra hopened
  have hactive := h hopened
  simp [isReusable, hactive] at hreusable

end DbConnection

/-- A connection in the hands of a call, with the rows the call has committed.
`commitLost` records that a `COMMIT` of the call was not acknowledged. -/
structure DbSession (ρ : Type*) where
  connection : DbConnection ρ
  committed : List ρ
  commitLost : Bool

namespace DbSession

variable {ρ : Type*} {sess : DbSession ρ} {rows : List ρ}

def borrow (connection : DbConnection ρ) : DbSession ρ := ⟨connection, [], false⟩

def invalidate (session : DbSession ρ) : DbSession ρ :=
  { session with connection := session.connection.invalidate }

/-! ## Statements -/

/-- The server inserts rows: into the open transaction, or at once if there is none. -/
def insert (session : DbSession ρ) (rows : List ρ) : DbSession ρ :=
  match session.connection.opened with
  | some pending =>
    { session with
      connection := { session.connection with opened := some (pending ++ rows) } }
  | none => { session with committed := session.committed ++ rows }

/-- What the server has done although the client sees a failure. -/
def damage (session : DbSession ρ) (row : ρ) : DbDamage → DbSession ρ
  | .nothing => session
  | .executed => session.insert [row]
  | .rolledBack => { session with connection := { session.connection with opened := none } }

/-- `execute_prepared` with an `INSERT` of one row; `none` if an exception leaves it. -/
def executePrepared (session : DbSession ρ) (row : ρ) (outcome : DbInsert) :
    Option DbExecuteResult × DbSession ρ :=
  if !session.connection.connected || !session.connection.conn then
    (some ⟨false, crServerGoneError, 0, 0⟩, session)
  else
    match outcome with
    | .done affectedRows insertId =>
      (some ⟨true, 0, affectedRows, insertId⟩, session.insert (List.replicate affectedRows row))
    | .failed errorCode damage => (some ⟨false, errorCode, 0, 0⟩, session.damage row damage)
    | .thrown damage => (none, session.damage row damage)

def beginTransaction (session : DbSession ρ) (reply : DbReply) : Bool × DbSession ρ :=
  if !session.connection.connected || !session.connection.conn ||
      session.connection.transactionActive then (false, session)
  else
    match reply with
    | .acknowledged =>
      (true, { session with
        connection := { session.connection with transactionActive := true, opened := some [] } })
    | .lost _ => (false, session.invalidate)

def serverCommit (session : DbSession ρ) : DbSession ρ :=
  { session with
    connection := { session.connection with opened := none }
    committed := session.committed ++ session.connection.opened.getD [] }

def commitTransaction (session : DbSession ρ) (reply : DbReply) : DbCommitStatus × DbSession ρ :=
  if !session.connection.transactionActive then (.notActive, session)
  else if !session.connection.connected || !session.connection.conn then
    (.outcomeUnknown, session.invalidate)
  else
    match reply with
    | .acknowledged =>
      (.committed, { session.serverCommit with
        connection := { session.serverCommit.connection with transactionActive := false } })
    | .lost executed =>
      (.outcomeUnknown,
        { (if executed then session.serverCommit else session).invalidate with
          commitLost := true })

def rollbackTransaction (session : DbSession ρ) (reply : DbReply) : Bool × DbSession ρ :=
  if !session.connection.transactionActive then (true, session)
  else if !session.connection.connected || !session.connection.conn then
    (false, session.invalidate)
  else
    match reply with
    | .acknowledged =>
      (true, { session with
        connection := { session.connection with transactionActive := false, opened := none } })
    | .lost _ => (false, session.invalidate)

/-! ## `DbTransaction`

The object holds a flag `active_`; its destructor rolls back if the flag is set. -/

/-- `DbTransaction::commit`, which clears the flag. -/
def commit (session : DbSession ρ) (active : Bool) (reply : DbReply) :
    DbCommitStatus × DbSession ρ :=
  if !active then (.notActive, session) else session.commitTransaction reply

/-- `DbTransaction::rollback`, which clears the flag. -/
def rollback (session : DbSession ρ) (active : Bool) (reply : DbReply) : Bool × DbSession ρ :=
  if !active then (true, session) else session.rollbackTransaction reply

/-! ## What the operations keep -/

lemma tracked_invalidate (sess : DbSession ρ) : sess.invalidate.connection.Tracked :=
  fun hopened => absurd rfl hopened

section

variable (h : sess.connection.Tracked)
include h

lemma tracked_insert (rows : List ρ) : (sess.insert rows).connection.Tracked := by
  unfold insert
  split
  · rename_i pending hpending
    exact fun _ => h (by rw [hpending]; nofun)
  · exact h

lemma tracked_executePrepared (row : ρ) (out : DbInsert) :
    (sess.executePrepared row out).2.connection.Tracked := by
  unfold executePrepared
  split_ifs
  · exact h
  · cases out with
    | done affectedRows insertId => exact tracked_insert h _
    | failed errorCode damage | thrown damage =>
      cases damage with
      | nothing => exact h
      | executed => exact tracked_insert h [row]
      | rolledBack => exact fun hopened => absurd rfl hopened

lemma tracked_beginTransaction (reply : DbReply) :
    (sess.beginTransaction reply).2.connection.Tracked := by
  unfold beginTransaction
  split_ifs
  · exact h
  · cases reply with
    | acknowledged => exact fun _ => rfl
    | lost executed => exact tracked_invalidate sess

lemma tracked_commit (active : Bool) (reply : DbReply) :
    (sess.commit active reply).2.connection.Tracked := by
  unfold commit commitTransaction
  split_ifs
  · exact h
  · exact h
  · exact tracked_invalidate sess
  · cases reply <;> exact fun hopened => absurd rfl hopened

lemma rollback_keeps (active : Bool) (reply : DbReply) :
    (sess.rollback active reply).2.connection.Tracked ∧
      (sess.rollback active reply).2.committed = sess.committed ∧
      (sess.rollback active reply).2.commitLost = sess.commitLost := by
  unfold rollback rollbackTransaction
  split_ifs
  · exact ⟨h, rfl, rfl⟩
  · exact ⟨h, rfl, rfl⟩
  · exact ⟨tracked_invalidate sess, rfl, rfl⟩
  · cases reply <;> exact ⟨fun hopened => absurd rfl hopened, rfl, rfl⟩

end

/-! ## Inside of a transaction -/

def InTransaction (session : DbSession ρ) (rows : List ρ) : Prop :=
  session = ⟨⟨true, true, true, some rows⟩, [], false⟩

lemma InTransaction.nothing (h : sess.InTransaction rows) :
    sess.committed = [] ∧ sess.commitLost = false := by
  rw [h]
  exact ⟨rfl, rfl⟩

lemma InTransaction.tracked (h : sess.InTransaction rows) : sess.connection.Tracked := by
  exact fun _ => by rw [h]

lemma beginTransaction_cases (connection : DbConnection ρ) (reply : DbReply) :
    (((borrow connection).beginTransaction reply).1 ∧
        ((borrow connection).beginTransaction reply).2.InTransaction []) ∨
      ((borrow connection).beginTransaction reply).1 = false ∧
        ((borrow connection).beginTransaction reply).2.committed = [] ∧
        ((borrow connection).beginTransaction reply).2.commitLost = false := by
  obtain ⟨conn, connected, transactionActive, opened⟩ := connection
  unfold beginTransaction borrow
  cases conn <;> cases connected <;> cases transactionActive <;> cases reply <;>
    simp [InTransaction, invalidate]

lemma executePrepared_cases (h : sess.InTransaction rows) (row : ρ) (out : DbInsert) :
    (∃ affectedRows insertId,
      (sess.executePrepared row out).1 = some ⟨true, 0, affectedRows, insertId⟩ ∧
        (sess.executePrepared row out).2.InTransaction (rows ++ List.replicate affectedRows row)) ∨
      (∀ result, (sess.executePrepared row out).1 = some result → result.success = false) ∧
        (sess.executePrepared row out).2.committed = [] ∧
        (sess.executePrepared row out).2.commitLost = false := by
  subst h
  cases out with
  | done affectedRows insertId => exact .inl ⟨affectedRows, insertId, rfl, rfl⟩
  | failed errorCode damage =>
    refine .inr ⟨fun result hresult => ?_, ?_⟩
    · rw [← Option.some.inj hresult]
    · cases damage <;> exact ⟨rfl, rfl⟩
  | thrown damage =>
    refine .inr ⟨nofun, ?_⟩
    cases damage <;> exact ⟨rfl, rfl⟩

lemma commit_cases (h : sess.InTransaction rows) (reply : DbReply) :
    ((sess.commit true reply).1 = .committed ∧ (sess.commit true reply).2.committed = rows ∧
        (sess.commit true reply).2.commitLost = false) ∨
      (sess.commit true reply).1 = .outcomeUnknown ∧ (sess.commit true reply).2.commitLost := by
  subst h
  cases reply with
  | acknowledged => exact .inl ⟨rfl, rfl, rfl⟩
  | lost executed => exact .inr ⟨rfl, rfl⟩

end DbSession

end Tlss.Base
