import Mathlib.Algebra.Order.BigOperators.Group.List
import Mathlib.Data.List.Nodup
import Tlss.Ftp.DiskExecutor
import Tlss.Library.Slots

/-!
# Who is responsible for an adapter

For every adapter five numbers are counted over the whole executor: the tasks and calls
that will still look after it (queued, about to be posted, or with a worker that has not
ended it), the reads among them, the workers that are closing its file, those that are about
to release its token, and its entries in the registry. `Custody` ties them to the flags of
the state. A busy adapter has exactly one task or call; one that is not terminal is
registered; a terminal one is registered as long as a worker is on its way to the release.

Each step changes the numbers of one adapter, and `Local` says how.
-/

namespace Tlss.Ftp

open Library Base List Option Bool RunningTask

/-! ## Counting -/

def DiskTask.weight (index : ℕ) (task : DiskTask) : ℕ := if task.state = index then 1 else 0

lemma DiskTask.weight_self (t : DiskTask) : t.weight t.state = 1 := if_pos rfl

variable {i : ℕ} {t : DiskTask}

lemma DiskTask.weight_ne (hne : i ≠ t.state) : t.weight i = 0 := if_neg (Ne.symm hne)

def DiskTask.reads (index : ℕ) (task : DiskTask) : ℕ :=
  match task.job with
  | .runRead _ _ => task.weight index
  | .execute _ | .runInitialize | .cleanup => 0

def CancelCall.weight (index : ℕ) : CancelCall → ℕ
  | .posting state => if state = index then 1 else 0
  | .entering _ _ => 0

def ShutdownCall.weight (index : ℕ) : ShutdownCall → ℕ
  | .posting state _ => if state = index then 1 else 0
  | .entering | .hooks _ | .returned _ => 0

def RunningTask.active (index : ℕ) (task : RunningTask) : ℕ :=
  match task.stage with
  | .taken | .checked _ | .ran _ _ => task.toDiskTask.weight index
  | .closing | .releasing => 0

def RunningTask.closing (index : ℕ) (task : RunningTask) : ℕ :=
  match task.stage with
  | .closing => task.toDiskTask.weight index
  | .taken | .checked _ | .ran _ _ | .releasing => 0

def RunningTask.releasing (index : ℕ) (task : RunningTask) : ℕ :=
  match task.stage with
  | .releasing => task.toDiskTask.weight index
  | .taken | .checked _ | .ran _ _ | .closing => 0

def RunningTask.reads (index : ℕ) (task : RunningTask) : ℕ :=
  match task.stage with
  | .releasing => 0
  | .taken | .checked _ | .ran _ _ | .closing => task.toDiskTask.reads index

lemma DiskTask.reads_le (i : ℕ) (t : DiskTask) : t.reads i ≤ t.weight i := by
  unfold reads
  split
  · exact le_refl _
  · exact Nat.zero_le _
  · exact Nat.zero_le _
  · exact Nat.zero_le _

lemma DiskTask.reads_ne (hne : i ≠ t.state) : t.reads i = 0 :=
  Nat.eq_zero_of_le_zero (weight_ne hne ▸ t.reads_le i)

lemma RunningTask.reads_le (i : ℕ) (t : RunningTask) : t.reads i ≤ t.active i + t.closing i := by
  obtain ⟨t, stage⟩ := t
  have hle := t.reads_le i
  cases stage <;> simp only [reads, active, closing] <;> omega

@[ext] structure Tally where
  pending : ℕ
  reads : ℕ
  closing : ℕ
  releasing : ℕ
  registered : ℕ

/-- The flags of an adapter say who is at work for it. -/
structure Custody (state : AdapterState) (tally : Tally) : Prop where
  busy : tally.pending + tally.closing = state.busy.toNat
  once : tally.registered ≤ 1
  live : state.terminal = false →
    tally.closing = 0 ∧ tally.releasing = 0 ∧ tally.registered = if state.token = 0 then 0 else 1
  ended : state.terminal = true →
    tally.pending = 0 ∧ tally.closing + tally.releasing = tally.registered
  cancelled : state.cancelled = true → state.terminal = false → state.token ≠ 0 →
    state.busy = true
  completion : state.completion = true → tally.reads = 1
  unattached : state.token = 0 → state.busy = false ∧ state.terminal = false

namespace Custody

variable {s : AdapterState} {tally : Tally}

section

variable (h : Custody s tally)
include h

lemma registered_of_busy (hbusy : s.busy) : tally.registered = 1 := by
  have hcount := h.busy
  have honce := h.once
  rw [hbusy, toNat_true] at hcount
  have htoken : s.token ≠ 0 := fun hzero => by
    rw [(h.unattached hzero).1] at hbusy
    exact false_ne_true hbusy
  cases hterm : s.terminal with
  | false => rw [(h.live hterm).2.2, if_neg htoken]
  | true =>
    obtain ⟨hpending, hreg⟩ := h.ended hterm
    omega

lemma busy_of_completion
    (hreads : tally.reads ≤ tally.pending + tally.closing) (hset : s.completion) : s.busy := by
  have hread := h.completion hset
  have hcount := h.busy
  refine eq_true_of_not_eq_false fun hidle => ?_
  rw [hidle, toNat_false] at hcount
  omega

variable {reads : ℕ} {new : AdapterState}

lemma enqueue (htoken : s.token ≠ 0) (hbusy : s.busy = false) (hterm : s.terminal = false)
    (cancelled completion : Bool) (hreads : completion → reads = 1) :
    Custody { s with busy := true, cancelled := cancelled, completion := completion }
      { tally with pending := tally.pending + 1, reads := reads } := by
  have hcount := h.busy
  rw [hbusy, toNat_false] at hcount
  refine ⟨?_, h.once, h.live, fun hended => ?_, fun _ _ _ => rfl, hreads,
    fun hzero => absurd hzero htoken⟩
  · dsimp only [toNat_true]
    omega
  · exact absurd (hterm.symm.trans hended) false_ne_true

lemma cancel (hother : s.token = 0 ∨ s.terminal ∨ s.busy) :
    Custody { s with cancelled := true, completion := false } tally := by
  refine ⟨h.busy, h.once, h.live, h.ended, fun _ hterm htoken => ?_,
    fun hcompletion => absurd hcompletion false_ne_true, h.unattached⟩
  rcases hother with hzero | hended | hbusy
  · exact absurd hzero htoken
  · exact absurd (hterm.symm.trans hended) false_ne_true
  · exact hbusy

lemma conclude (hpending : 0 < tally.pending)
    (hcancelled : s.cancelled = false) (htoken : new.token = s.token)
    (hbusy : new.busy = false) (hflag : new.cancelled = s.cancelled)
    (hterm : new.terminal = s.terminal) (hcompletion : new.completion = false) : Custody new
    { tally with pending := tally.pending - 1, reads := reads } := by
  have hcount := h.busy
  have hle := s.busy.toNat_le
  refine ⟨?_, h.once, ?_, fun hended => ?_, fun hset => ?_, fun hset => ?_, fun hzero => ?_⟩
  · simp only [hbusy, toNat_false]
    omega
  · rw [hterm, htoken]
    exact h.live
  · rw [hterm] at hended
    exact absurd (h.ended hended).1 (ne_of_gt hpending)
  · rw [hflag, hcancelled] at hset
    exact absurd hset false_ne_true
  · rw [hcompletion] at hset
    exact absurd hset false_ne_true
  · rw [htoken] at hzero
    exact ⟨hbusy, hterm.trans (h.unattached hzero).2⟩

lemma finish (hpending : 0 < tally.pending) : Custody { s with terminal := true }
      { tally with pending := tally.pending - 1, closing := tally.closing + 1 } := by
  have hcount := h.busy
  have hle := s.busy.toNat_le
  have hterm : s.terminal = false := by
    refine eq_false_iff.mpr fun hended => ?_
    exact absurd (h.ended hended).1 (ne_of_gt hpending)
  have hbusy : s.busy := by
    refine eq_true_of_not_eq_false fun hidle => ?_
    rw [hidle, toNat_false] at hcount
    omega
  have hreg := h.registered_of_busy hbusy
  obtain ⟨hclosing, hreleasing, -⟩ := h.live hterm
  refine ⟨?_, h.once, fun hlive => absurd hlive Bool.noConfusion, fun _ => ?_,
    fun _ hlive => absurd hlive Bool.noConfusion, h.completion, fun hzero => ?_⟩
  · dsimp only
    omega
  · dsimp only
    omega
  · rw [(h.unattached hzero).1] at hbusy
    exact absurd hbusy false_ne_true

lemma close (hclosing : 0 < tally.closing) (htoken : new.token = s.token) (hbusy : new.busy = false)
    (hterm : new.terminal = s.terminal) (hcompletion : new.completion = false) : Custody new
      { tally with
        reads := reads, closing := tally.closing - 1, releasing := tally.releasing + 1 } := by
  have hcount := h.busy
  have hle := s.busy.toNat_le
  have hended : s.terminal := by
    refine eq_true_of_not_eq_false fun hlive => ?_
    exact absurd (h.live hlive).1 (ne_of_gt hclosing)
  obtain ⟨hpending, hreg⟩ := h.ended hended
  refine ⟨?_, h.once, fun hlive => ?_, fun _ => ?_, fun _ hlive => ?_, fun hset => ?_,
    fun hzero => ?_⟩
  · simp only [hbusy, toNat_false]
    omega
  · exact absurd (hended.symm.trans (hterm.symm.trans hlive)) Bool.noConfusion
  · dsimp only
    omega
  · exact absurd (hended.symm.trans (hterm.symm.trans hlive)) Bool.noConfusion
  · rw [hcompletion] at hset
    exact absurd hset false_ne_true
  · rw [htoken] at hzero
    exact absurd (hended.symm.trans (h.unattached hzero).2) Bool.noConfusion

lemma release (hreleasing : 0 < tally.releasing) :
    Custody s { tally with releasing := tally.releasing - 1, registered := 0 } ∧
      tally.registered = 1 := by
  have honce := h.once
  have hended : s.terminal := by
    refine eq_true_of_not_eq_false fun hlive => ?_
    exact absurd (h.live hlive).2.1 (ne_of_gt hreleasing)
  obtain ⟨hpending, hreg⟩ := h.ended hended
  refine ⟨{ h with once := Nat.zero_le _, live := fun hlive => ?_, ended := fun _ => ⟨hpending, ?_⟩
    }, by omega⟩
  · exact absurd (hended.symm.trans hlive) Bool.noConfusion
  · dsimp only
    omega

end

end Custody

/-- In the order in which they happen: a token is released once, and then only the loop
posts for its adapter. -/
def DiskEffect.mayPrecede : DiskEffect → DiskEffect → Prop
  | .released token, .released other => token ≠ other
  | .released token, .posted other byLoop => token = other → byLoop = true
  | .released _, .rejected _ _ | .posted _ _, _ | .rejected _ _, _ => True

namespace DiskExecutor

variable {disk later : DiskExecutor} {s : AdapterState}

def tally (disk : DiskExecutor) (index : ℕ) : Tally where
  pending :=
    (disk.queue.map (DiskTask.weight index)).sum +
      (disk.cancels.map (CancelCall.weight index)).sum +
      (disk.shutdowns.map (ShutdownCall.weight index)).sum +
      (disk.running.map (active index)).sum
  reads :=
    (disk.queue.map (DiskTask.reads index)).sum + (disk.running.map (reads index)).sum
  closing := (disk.running.map (closing index)).sum
  releasing := (disk.running.map (releasing index)).sum
  registered := (disk.receivers.map fun entry => if entry.2 = index then 1 else 0).sum

lemma tally_reads_le (disk : DiskExecutor) (i : ℕ) :
    (disk.tally i).reads ≤ (disk.tally i).pending + (disk.tally i).closing := by
  have hqueue : (disk.queue.map (DiskTask.reads i)).sum ≤
      (disk.queue.map (DiskTask.weight i)).sum :=
    sum_le_sum fun t _ => t.reads_le i
  have hrunning : (disk.running.map (reads i)).sum ≤
      (disk.running.map fun t => t.active i + t.closing i).sum :=
    sum_le_sum fun t _ => t.reads_le i
  rw [sum_map_add] at hrunning
  simp only [tally]
  omega

def tokens (disk : DiskExecutor) : List ℕ := disk.states.map AdapterState.token

/-- The registry and the trace fit the tokens, and nothing was rejected that had to be
accepted. -/
structure Ledger (tokens : List ℕ) (receivers : List (ℕ × ℕ)) (nextToken : ℕ)
    (trace : List DiskEffect) : Prop where
  entries : ∀ entry ∈ receivers, tokens[entry.2]? = some entry.1
  limit : receivers.length ≤ maxReceivers
  positive : 0 < nextToken
  fresh : ∀ token ∈ tokens, token < nextToken
  distinct : ∀ index other token : ℕ, tokens[index]? = some token →
    tokens[other]? = some token → token ≠ 0 → index = other
  released : ∀ token, .released token ∈ trace →
    token < nextToken ∧ ∀ entry ∈ receivers, entry.1 ≠ token
  ordered : trace.Pairwise DiskEffect.mayPrecede
  rejections : ∀ cleanup phase, .rejected cleanup phase ∈ trace →
    cleanup = false ∧ phase ≠ .running
  kept : ∀ token ∈ tokens, token ≠ 0 →
    (∃ entry ∈ receivers, entry.1 = token) ∨ .released token ∈ trace

/-- Every adapter is in custody, and the books are in order. -/
structure Accounts (disk : DiskExecutor) : Prop
    extends Ledger disk.tokens disk.receivers disk.nextToken disk.trace where
  custody : ∀ index state, disk.states[index]? = some state → Custody state (disk.tally index)
  outside : ∀ index, disk.states.length ≤ index → disk.tally index = ⟨0, 0, 0, 0, 0⟩
  intact : disk.terminated = false

lemma accounts_new : new.Accounts := by
  refine ⟨⟨?_, Nat.zero_le _, Nat.one_pos, ?_, ?_, ?_, .nil, ?_, ?_⟩, ?_, ?_, rfl⟩ <;>
    simp [new, tally, tokens]

/-! ## Steps that touch no adapter -/

/-- Nothing that is accounted for changes. -/
structure Quiet (disk later : DiskExecutor) : Prop where
  states : later.states = disk.states
  receivers : later.receivers = disk.receivers
  nextToken : later.nextToken = disk.nextToken
  trace : later.trace = disk.trace
  terminated : later.terminated = disk.terminated
  tally : ∀ index, later.tally index = disk.tally index

lemma Accounts.quiet (h : disk.Accounts) (hquiet : disk.Quiet later) : later.Accounts := by
  have htokens : later.tokens = disk.tokens := by rw [tokens, tokens, hquiet.states]
  have hledger := h.toLedger
  rw [← htokens, ← hquiet.receivers, ← hquiet.nextToken, ← hquiet.trace] at hledger
  refine ⟨hledger, fun i s hst => ?_, fun i hlength => ?_, hquiet.terminated.trans h.intact⟩
  · rw [hquiet.tally]
    exact h.custody i s (hquiet.states ▸ hst)
  · rw [hquiet.tally]
    exact h.outside i (hquiet.states ▸ hlength)

/-! ## Steps that touch one adapter -/

inductive Allowed (state : AdapterState) : DiskEffect → Prop
  | byLoop : Allowed state (.posted state.token true)
  | busy (byLoop : Bool) (hbusy : state.busy = true) : Allowed state (.posted state.token byLoop)
  | rejected (phase : DiskPhase) (hphase : phase ≠ .running) :
      Allowed state (.rejected false phase)

/-- The state of one adapter goes from `old` to `new`, and its numbers with it. -/
structure Local (disk later : DiskExecutor) (index : ℕ) (old new : AdapterState) : Prop where
  state : disk.states[index]? = some old
  states : later.states = disk.states.set index new
  token : new.token = old.token
  receivers : later.receivers = disk.receivers
  nextToken : later.nextToken = disk.nextToken
  terminated : later.terminated = disk.terminated
  others : ∀ other, other ≠ index → later.tally other = disk.tally other
  custody : Custody old (disk.tally index) → Custody new (later.tally index)
  trace : ∃ effects, later.trace = disk.trace ++ effects ∧ ∀ effect ∈ effects, Allowed old effect

lemma Local.tokens {old new : AdapterState} (h : disk.Local later i old new) :
    later.tokens = disk.tokens := by
  obtain ⟨hlt, -⟩ := List.getElem?_eq_some_iff.mp h.state
  rw [DiskExecutor.tokens, DiskExecutor.tokens, h.states]
  refine ext_getElem? fun y => ?_
  rw [getElem?_map, getElem?_map]
  by_cases heq : y = i
  · rw [heq, getElem?_set_self hlt, h.state, map_some, map_some, h.token]
  · rw [getElem?_set_ne (Ne.symm heq)]

lemma Accounts.entry_mem (h : disk.Accounts)
    (hst : disk.states[i]? = some s) (hreg : (disk.tally i).registered = 1) :
    (s.token, i) ∈ disk.receivers := by
  rw [tally, sum_map_ite_eq_count] at hreg
  obtain ⟨entry, hmem, heq⟩ :=
    mem_map.mp (count_pos_iff.mp (hreg ▸ Nat.one_pos))
  have htoken := h.entries entry hmem
  rw [tokens, getElem?_map, heq, hst] at htoken
  have hpair : entry = (s.token, i) :=
    Prod.ext (some.inj htoken).symm heq
  exact hpair ▸ hmem

lemma Accounts.not_released (h : disk.Accounts)
    (hst : disk.states[i]? = some s) (hreg : (disk.tally i).registered = 1) :
    .released s.token ∉ disk.trace := fun hmem =>
  (h.released _ hmem).2 _ (h.entry_mem hst hreg) rfl

lemma Accounts.local {old new : AdapterState} (h : disk.Accounts)
    (hlocal : disk.Local later i old new) : later.Accounts := by
  obtain ⟨hlt, -⟩ := List.getElem?_eq_some_iff.mp hlocal.state
  have hold := h.custody i old hlocal.state
  obtain ⟨effects, htrace, hallowed⟩ := hlocal.trace
  have hnew : ∀ token, .released token ∉ effects := by
    intro token hmem
    cases hallowed _ hmem
  refine ⟨?_, fun y s hst => ?_, fun y hlength => ?_, hlocal.terminated.trans h.intact⟩
  · rw [hlocal.tokens, hlocal.receivers, hlocal.nextToken, htrace]
    refine { h.toLedger with released := ?_, ordered := ?_, rejections := ?_, kept := ?_ }
    · intro token hmem
      exact h.released token ((mem_append.mp hmem).resolve_right (hnew token))
    · -- a post by another thread comes from a busy adapter, whose token is not released
      refine pairwise_append.mpr ⟨h.ordered, ?_, fun earlier hearlier effect heffect => ?_⟩
      · refine pairwise_of_forall_mem_list fun earlier hearlier effect _ => ?_
        cases hallowed earlier hearlier <;> trivial
      · cases hallowed effect heffect with
        | byLoop => cases earlier <;> simp [DiskEffect.mayPrecede]
        | rejected phase hphase => cases earlier <;> trivial
        | busy byLoop hbusy =>
          cases earlier with
          | released token =>
            intro heq
            subst heq
            exact absurd hearlier (h.not_released hlocal.state (hold.registered_of_busy hbusy))
          | posted token byLoop | rejected cleanup phase => trivial
    · intro cleanup phase hmem
      rcases mem_append.mp hmem with hbefore | hafter
      · exact h.rejections cleanup phase hbefore
      · cases hallowed _ hafter with
        | rejected phase hphase => exact ⟨rfl, hphase⟩
    · exact fun token hmem hne => (h.kept token hmem hne).imp_right (mem_append_left _)
  · by_cases heq : y = i
    · subst heq
      rw [hlocal.states, getElem?_set_self hlt] at hst
      exact some.inj hst ▸ hlocal.custody hold
    · rw [hlocal.states, getElem?_set_ne (Ne.symm heq)] at hst
      rw [hlocal.others y heq]
      exact h.custody y s hst
  · rw [hlocal.states, length_set] at hlength
    rw [hlocal.others y (by omega)]
    exact h.outside y hlength

end DiskExecutor

end Tlss.Ftp
