import Mathlib.Data.List.Nodup
import Tlss.Net.WriteBounds

/-!
# The accounts of the file tasks

For every `enqueue_file` call an observer keeps an account: the notifications that
were posted, the bytes of the task the socket accepted, and whether the task was
removed because it was complete. The account of a task in the queue agrees with the
task's own counters and has no notification; once the task has left the queue, or
never entered it, there is exactly one. `Accounted` says so of all the calls, and
every move keeps it.

A scheduler that has stopped has nothing in its queue and does no more than refuse.
-/

namespace Tlss.Net

open Library Relation List Option Effect

/-! ## Accounts -/

structure Account where
  posts : List (Option Errno × ℕ)
  sent : ℕ
  completed : Bool
deriving DecidableEq, Repr

namespace Account

def empty : Account := ⟨[], 0, false⟩

def record (number : ℕ) (account : Account) : Effect → Account
  | .sent (some other) bytes =>
    if other = number then { account with sent := account.sent + bytes.length } else account
  | .completed other => if other = number then { account with completed := true } else account
  | .posted other error sent =>
    if other = number then { account with posts := account.posts ++ [(error, sent)] }
    else account
  | _ => account

end Account

def Effect.subject : Effect → Option ℕ
  | .sent number _ => number
  | .completed number | .posted number _ _ => some number
  | _ => none

def WriteTask.number (task : WriteTask) : Option ℕ :=
  task.fileProgress.map FileProgress.number

variable {number : ℕ} {effect : Effect} {effects : List Effect} {task : WriteTask}
  {progress : FileProgress} {tasks : List WriteTask} {request : FileRequest}

lemma Account.record_of_ne (hne : effect.subject ≠ some number) (account : Account) :
    account.record number effect = account := by
  cases effect with
  | sent y bytes =>
    cases y with
    | none => rfl
    | some y => exact if_neg fun heq => hne (congrArg some heq)
  | completed y | posted y err sent => exact if_neg fun heq => hne (congrArg some heq)
  | accepted | writeInterest | highWater | drained | failed => rfl

def Account.after (number : ℕ) (account : Account) (effects : List Effect) : Account :=
  effects.foldl (record number) account

lemma Account.after_of_ne
    (hne : ∀ effect ∈ effects, effect.subject ≠ some number) (account : Account) :
    account.after number effects = account := by
  induction effects with
  | nil => rfl
  | cons effect effects ih =>
    rw [forall_mem_cons] at hne
    unfold after at ih ⊢
    rw [foldl_cons, record_of_ne hne.1, ih hne.2]

lemma WriteTask.subject_of_mem_posts {err : Option Errno}
    (hmem : effect ∈ task.posts err) : effect.subject = task.number := by
  unfold posts at hmem
  unfold number
  cases hprog : task.fileProgress with
  | none => simp [hprog] at hmem
  | some progress =>
    simp only [hprog] at hmem
    split_ifs at hmem
    · rw [mem_singleton.mp hmem]
      rfl
    · cases hmem

lemma Account.after_posts
    (hprog : task.fileProgress = some progress) (err : Option Errno) (account : Account) :
    account.after progress.number (task.posts err) = { account with
        posts := account.posts ++ if progress.callback then [(err, progress.sent)] else [] } := by
  unfold WriteTask.posts after
  simp only [hprog]
  split_ifs <;> simp [record]

lemma Account.after_flatMap_posts_of_ne
    (hne : ∀ task ∈ tasks, task.number ≠ some number) (err : Option Errno) (account : Account) :
    account.after number (tasks.flatMap (·.posts err)) = account := by
  refine after_of_ne (fun effect hmem => ?_) account
  obtain ⟨task, htask, hposted⟩ := mem_flatMap.mp hmem
  rw [WriteTask.subject_of_mem_posts hposted]
  exact hne task htask

lemma Account.after_append (number : ℕ) (account : Account) (first second : List Effect) :
    account.after number (first ++ second) = (account.after number first).after number second :=
  foldl_append

lemma Account.after_flatMap_posts (hnumbers : (tasks.filterMap WriteTask.number).Nodup)
    (htask : task ∈ tasks) (hprog : task.fileProgress = some progress) (err : Option Errno)
    (account : Account) : account.after progress.number (tasks.flatMap (·.posts err)) =
      { account with
        posts := account.posts ++ if progress.callback then [(err, progress.sent)] else [] } := by
  -- the numbers differ, so the tasks before and behind this one do not count
  have hnumber : task.number = some progress.number := by simp [WriteTask.number, hprog]
  obtain ⟨front, back, rfl⟩ := append_of_mem htask
  rw [filterMap_append, filterMap_cons_some hnumber, nodup_middle,
    nodup_cons, mem_append, not_or] at hnumbers
  obtain ⟨⟨hfront, hback⟩, -⟩ := hnumbers
  have hother : ∀ others : List WriteTask, progress.number ∉ others.filterMap WriteTask.number →
      ∀ y ∈ others, y.number ≠ some progress.number :=
    fun others hnot y hmem heq => hnot (mem_filterMap.mpr ⟨y, hmem, heq⟩)
  rw [flatMap_append, flatMap_cons, after_append, after_append,
    after_flatMap_posts_of_ne (hother front hfront), after_posts hprog,
    after_flatMap_posts_of_ne (hother back hback)]

/-- The account of a task in the queue: no notification, and the counters of the task. -/
structure Account.Open (account : Account) (progress : FileProgress) (request : FileRequest) :
    Prop where
  account_eq : account = ⟨[], progress.sent, false⟩
  callback_eq : progress.callback = request.callback
  count_eq : progress.sent + progress.remaining = request.count

/-- The account of a task that is not in the queue: one notification, if there is a
callback, with the bytes that were sent. -/
def Account.Closed (account : Account) (request : FileRequest) : Prop :=
  ∃ error, account.posts = (if request.callback then [(error, account.sent)] else []) ∧
    (error = none ↔ account.sent = request.count ∧ account.completed = true)

lemma Account.Open.cancelled {account : Account} (h : account.Open progress request)
    (err : Errno) : Account.Closed { account with
      posts := account.posts ++ if progress.callback then [(some err, progress.sent)] else [] }
      request := by
  refine ⟨some err, ?_, ?_⟩
  · simp [h.account_eq, h.callback_eq]
  · simp [h.account_eq]

namespace WriteScheduler

def account (scheduler : WriteScheduler) (number : ℕ) : Account :=
  Account.empty.after number scheduler.trace

/-- Each request is in the queue with an open account, or its account is closed. -/
structure Accounted (scheduler : WriteScheduler) : Prop where
  numbers : (scheduler.writes.filterMap WriteTask.number).Nodup
  queued : ∀ task ∈ scheduler.writes, ∀ progress, task.fileProgress = some progress →
    ∃ request, scheduler.requests[progress.number]? = some request ∧
      (scheduler.account progress.number).Open progress request
  settled : ∀ number request, scheduler.requests[number]? = some request →
    (∀ task ∈ scheduler.writes, task.number ≠ some number) →
      (scheduler.account number).Closed request
  fresh : ∀ number, scheduler.requests.length ≤ number → scheduler.account number = .empty

variable {known : FileProgress → ReadProgress → Bytes → Prop}
  {scheduler pre after : WriteScheduler} {rest : List WriteTask}

lemma new_accounted : new.Accounted := by
  constructor <;> simp [new, account, Account.after]

lemma account_append (htrace : after.trace = pre.trace ++ effects)
    (number : ℕ) : after.account number = (pre.account number).after number effects := by
  unfold account
  rw [htrace, Account.after_append]

lemma account_of_ne (htrace : after.trace = pre.trace ++ effects)
    (hne : ∀ effect ∈ effects, effect.subject ≠ some number) :
    after.account number = pre.account number := by
  rw [account_append htrace, Account.after_of_ne hne]

lemma Accounted.number_lt (h : scheduler.Accounted)
    (hmem : task ∈ scheduler.writes) (hnumber : task.number = some number) :
    number < scheduler.requests.length := by
  obtain ⟨progress, hprog, rfl⟩ := map_eq_some_iff.mp hnumber
  obtain ⟨request, hreq, -⟩ := h.queued task hmem progress hprog
  exact (List.getElem?_eq_some_iff.mp hreq).1

/-- Nothing that matters to the accounts has changed; tasks without an account may
have entered the queue. -/
lemma Accounted.congr (h : pre.Accounted) (htrace : after.trace = pre.trace ++ effects)
    (hsubject : ∀ effect ∈ effects, effect.subject = none)
    (hwr : after.writes = pre.writes ++ tasks) (htasks : ∀ task ∈ tasks, task.fileProgress = none)
    (hrequests : after.requests = pre.requests) : after.Accounted := by
  have haccount : ∀ number, after.account number = pre.account number := fun number =>
    account_of_ne htrace fun effect hmem => by simp [hsubject effect hmem]
  have hnumbers : tasks.filterMap WriteTask.number = [] :=
    filterMap_eq_nil_iff.mpr fun task hmem => by simp [WriteTask.number, htasks task hmem]
  constructor
  · rw [hwr, filterMap_append, hnumbers, append_nil]
    exact h.numbers
  · rw [hwr, forall_mem_append]
    refine ⟨?_, fun task hmem progress hprog => ?_⟩
    · simpa only [hrequests, haccount] using h.queued
    · rw [htasks task hmem] at hprog
      cases hprog
  · intro number request hreq hnone
    rw [hwr, forall_mem_append] at hnone
    rw [haccount]
    exact h.settled number request (hrequests ▸ hreq) hnone.1
  · simpa only [hrequests, haccount] using h.fresh

lemma Accounted.setFront (h : pre.Accounted) {task changed : WriteTask}
    (hwr : pre.writes = task :: rest)
    (hlater : after.writes = changed :: rest) (hrequests : after.requests = pre.requests)
    (htrace : after.trace = pre.trace ++ effects)
    (hsubject : ∀ effect ∈ effects, effect.subject = task.number)
    (hnumber : changed.number = task.number)
    (hopen : ∀ progress request, changed.fileProgress = some progress →
      (∃ old, task.fileProgress = some old ∧ (pre.account progress.number).Open old request) →
        (after.account progress.number).Open progress request) : after.Accounted := by
  have hnumbers := h.numbers
  have hqueued := h.queued
  have hsettled := h.settled
  rw [hwr] at hnumbers hqueued hsettled
  have haccount : ∀ number, task.number ≠ some number →
      after.account number = pre.account number := fun number hne =>
    account_of_ne htrace fun effect hmem => by rwa [hsubject effect hmem]
  constructor
  · rw [hlater]
    simpa only [filterMap_cons, hnumber] using hnumbers
  · rw [hlater, hrequests]
    refine forall_mem_cons.mpr ⟨fun progress hprog => ?_, fun y hother progress hprog => ?_⟩
    · have hsame : task.number = some progress.number := by
        rw [← hnumber, WriteTask.number, hprog, map_some]
      obtain ⟨old, hold, heq⟩ := map_eq_some_iff.mp hsame
      obtain ⟨request, hreq, haccounted⟩ := hqueued task mem_cons_self old hold
      rw [heq] at hreq haccounted
      exact ⟨request, hreq, hopen progress request hprog ⟨old, hold, haccounted⟩⟩
    · obtain ⟨request, hreq, haccounted⟩ :=
        hqueued y (mem_cons_of_mem _ hother) progress hprog
      refine ⟨request, hreq, ?_⟩
      rwa [haccount]
      -- the numbers in the queue differ
      intro hsame
      rw [filterMap_cons_some hsame, nodup_cons] at hnumbers
      exact hnumbers.1 (mem_filterMap.mpr ⟨y, hother, by simp [WriteTask.number, hprog]⟩)
  · intro number request hreq hnone
    rw [hlater, forall_mem_cons, hnumber] at hnone
    rw [hrequests] at hreq
    rw [haccount number hnone.1]
    exact hsettled number request hreq (forall_mem_cons.mpr hnone)
  · intro number hle
    rw [hrequests] at hle
    rw [haccount number fun hsame => ?_]
    · exact h.fresh number hle
    · have hlt := h.number_lt (by rw [hwr]; exact mem_cons_self) hsame
      omega

lemma Accounted.setRead (h : pre.Accounted) {read changed : ReadProgress}
    (hwr : pre.writes = .asyncReader progress read :: rest)
    (hlater : after.writes = .asyncReader progress changed :: rest)
    (hrequests : after.requests = pre.requests) (htrace : after.trace = pre.trace) :
    after.Accounted := by
  rw [← append_nil pre.trace] at htrace
  refine h.setFront hwr hlater hrequests htrace nofun rfl ?_
  rintro progress' request hprog ⟨old, hold, hopen⟩
  cases hprog
  cases hold
  rwa [account_of_ne htrace nofun]

lemma Accounted.leave (h : pre.Accounted) {left : List WriteTask}
    (hwr : pre.writes = left ++ after.writes) (hrequests : after.requests = pre.requests)
    (haccount : ∀ number, (∀ task ∈ left, task.number ≠ some number) →
      after.account number = pre.account number)
    (hclosed : ∀ task ∈ left, ∀ progress request, task.fileProgress = some progress →
      (pre.account progress.number).Open progress request →
        (after.account progress.number).Closed request) : after.Accounted := by
  have hnumbers := h.numbers
  rw [hwr, filterMap_append, nodup_append] at hnumbers
  -- a task that stays has another number than those that leave
  have hstays : ∀ task ∈ after.writes, ∀ number, task.number = some number →
      ∀ y ∈ left, y.number ≠ some number := fun task hmem number hnumber y hother heq =>
    hnumbers.2.2 number (mem_filterMap.mpr ⟨y, hother, heq⟩) number
      (mem_filterMap.mpr ⟨task, hmem, hnumber⟩) rfl
  constructor
  · exact hnumbers.2.1
  · intro task hmem progress hprog
    obtain ⟨request, hreq, hopen⟩ :=
      h.queued task (by rw [hwr]; exact mem_append_right _ hmem) progress hprog
    refine ⟨request, by rwa [hrequests], ?_⟩
    rwa [haccount _ (hstays task hmem _ (by simp [WriteTask.number, hprog]))]
  · intro number request hreq hnone
    rw [hrequests] at hreq
    by_cases hleft : ∀ task ∈ left, task.number ≠ some number
    · rw [haccount number hleft]
      refine h.settled number request hreq ?_
      rw [hwr]
      exact forall_mem_append.mpr ⟨hleft, hnone⟩
    · push Not at hleft
      obtain ⟨task, hmem, hnumber⟩ := hleft
      obtain ⟨progress, hprog, rfl⟩ := map_eq_some_iff.mp hnumber
      obtain ⟨request', hrequest', hopen⟩ :=
        h.queued task (by rw [hwr]; exact mem_append_left _ hmem) progress hprog
      rw [hreq] at hrequest'
      cases hrequest'
      exact hclosed task hmem progress request hprog hopen
  · intro number hle
    rw [hrequests] at hle
    rw [haccount number fun task hmem hnumber => ?_]
    · exact h.fresh number hle
    · have hlt := h.number_lt (by rw [hwr]; exact mem_append_left _ hmem) hnumber
      omega

lemma number_task (request : FileRequest) (number : ℕ) :
    (request.task number).number = some number := by
  cases request <;> rfl

lemma open_task (request : FileRequest) (number : ℕ)
    (hprog : (request.task number).fileProgress = some progress) :
    progress.number = number ∧ Account.empty.Open progress request := by
  cases request <;> cases hprog <;> exact ⟨rfl, rfl, rfl, zero_add _⟩

lemma Accounted.enter (h : pre.Accounted) (hrequests : after.requests = pre.requests ++ [request])
    (hwr : after.writes = pre.writes ++ tasks) (htrace : after.trace = pre.trace ++ effects)
    (hsubject : ∀ effect ∈ effects, ∀ number, effect.subject = some number →
      number = pre.requests.length) (htasks : tasks = [request.task pre.requests.length] ∧
        (∀ effect ∈ effects, effect.subject = none) ∨
      tasks = [] ∧ (after.account pre.requests.length).Closed request) : after.Accounted := by
  have haccount : ∀ number, number ≠ pre.requests.length →
      after.account number = pre.account number := fun number hne =>
    account_of_ne htrace fun effect hmem heq => hne (hsubject effect hmem number heq)
  have hold : ∀ task ∈ pre.writes, ∀ progress, task.fileProgress = some progress →
      ∃ request, after.requests[progress.number]? = some request ∧
        (after.account progress.number).Open progress request := by
    intro task hmem progress hprog
    have hlt := h.number_lt hmem (by rw [WriteTask.number, hprog, map_some])
    obtain ⟨request, hreq, hopen⟩ := h.queued task hmem progress hprog
    refine ⟨request, ?_, by rwa [haccount _ (Nat.ne_of_lt hlt)]⟩
    rwa [hrequests, getElem?_append_left hlt]
  have hsettled : ∀ number request', number ≠ pre.requests.length →
      after.requests[number]? = some request' →
      (∀ task ∈ pre.writes, task.number ≠ some number) →
        (after.account number).Closed request' := by
    intro number request' hne hreq hnone
    have hlt : number < pre.requests.length := by
      have := (List.getElem?_eq_some_iff.mp hreq).1
      rw [hrequests, length_append, length_singleton] at this
      omega
    rw [hrequests, getElem?_append_left hlt] at hreq
    rw [haccount number hne]
    exact h.settled number request' hreq hnone
  have hfresh : ∀ number, after.requests.length ≤ number → after.account number = .empty := by
    intro number hle
    rw [hrequests, length_append, length_singleton] at hle
    rw [haccount number (by omega)]
    exact h.fresh number (by omega)
  have hnew : after.requests[pre.requests.length]? = some request := by simp [hrequests]
  rcases htasks with ⟨rfl, hquiet⟩ | ⟨rfl, hclosed⟩
  · have hempty : after.account pre.requests.length = .empty := by
      rw [account_of_ne htrace, h.fresh _ (le_refl _)]
      intro effect hmem heq
      rw [hquiet effect hmem] at heq
      cases heq
    constructor
    · rw [hwr, filterMap_append, nodup_append]
      refine ⟨h.numbers, by simp [number_task], ?_⟩
      intro number hnumber number' hnumber' heq
      obtain ⟨task, hmem, hsome⟩ := mem_filterMap.mp hnumber
      have hlt := h.number_lt hmem hsome
      simp only [filterMap_cons_some (number_task request _), filterMap_nil,
        mem_singleton] at hnumber'
      omega
    · rw [hwr, forall_mem_append]
      refine ⟨hold, ?_⟩
      simp only [mem_singleton, forall_eq]
      intro progress hprog
      obtain ⟨hnumber, hopen⟩ := open_task request _ hprog
      exact ⟨request, hnumber ▸ hnew, by rwa [hnumber, hempty]⟩
    · intro number request' hreq hnone
      rw [hwr, forall_mem_append] at hnone
      refine hsettled number request' (fun heq => ?_) hreq hnone.1
      exact hnone.2 _ (mem_singleton_self _) (heq ▸ number_task request _)
    · exact hfresh
  · rw [append_nil] at hwr
    constructor
    · rw [hwr]
      exact h.numbers
    · rw [hwr]
      exact hold
    · intro number request' hreq hnone
      rw [hwr] at hnone
      by_cases heq : number = pre.requests.length
      · rw [heq, hnew] at hreq
        cases hreq
        rwa [heq]
      · exact hsettled number request' heq hreq hnone
    · exact hfresh

lemma fileProgress_advance (task : WriteTask) (written : ℕ) : (task.advance written).fileProgress =
      task.fileProgress.map fun progress => progress.advance written := by
  cases task <;> rfl

lemma remaining_of_completed
    (hprog : task.fileProgress = some progress) (hcompleted : task.completed) :
    progress.remaining = 0 := by
  cases task with
  | memory write => cases hprog
  | sendFile _ | asyncReader _ _ =>
    cases hprog
    exact of_decide_eq_true hcompleted

lemma Accounted.send (h : pre.Accounted) (hbnd : pre.Bounded) {written : ℕ}
    (hwr : pre.writes = task :: rest) (havailable : written ≤ task.available.length) :
    Accounted { pre with
      writes := task.advance written :: rest
      trace := pre.trace ++
        [.sent (task.fileProgress.map FileProgress.number) (task.available.take written)] } := by
  refine h.setFront hwr rfl rfl rfl ?_ ((by cases task <;> rfl)) ?_
  · intro effect hmem
    rw [mem_singleton.mp hmem]
    rfl
  · rintro progress request hprog ⟨old, hold, hopen⟩
    rw [fileProgress_advance, hold, map_some, some.injEq] at hprog
    subst hprog
    have hle : written ≤ old.remaining :=
      le_trans havailable ((hbnd.reserved task
        (by rw [hwr]; exact mem_cons_self)).written_le hold)
    have htaken : (task.available.take written).length = written :=
      length_take_of_le havailable
    rw [account_append rfl, show (old.advance written).number = old.number from rfl] at *
    have hcount := hopen.count_eq
    refine ⟨?_, hopen.callback_eq, ?_⟩
    · simp [Account.after, Account.record, hold, hopen.account_eq, htaken, FileProgress.advance]
    · simp only [FileProgress.advance, wrapSub_of_le hle]
      omega

lemma Accounted.complete (h : pre.Accounted)
    (hwr : pre.writes = task :: rest) (hcompleted : task.completed)
    (hlater : after.writes = rest) (hrequests : after.requests = pre.requests)
    (htrace : after.trace = pre.trace ++
      (task.fileProgress.map fun progress => completed progress.number).toList ++
      task.posts none) : after.Accounted := by
  rw [append_assoc] at htrace
  have hleft : pre.writes = [task] ++ after.writes := by
    rw [hwr, hlater, singleton_append]
  refine h.leave hleft hrequests (fun number hne => ?_) ?_
  · refine account_of_ne htrace fun effect hmem heq => ?_
    have hsubject : effect.subject = task.number := by
      rcases mem_append.mp hmem with hmem | hmem
      · obtain ⟨progress, hprog, rfl⟩ := map_eq_some_iff.mp (mem_toList.mp hmem)
        simp [subject, WriteTask.number, hprog]
      · exact WriteTask.subject_of_mem_posts hmem
    exact hne task (mem_singleton_self _) (hsubject ▸ heq)
  · simp only [mem_singleton, forall_eq]
    intro progress request hprog hopen
    have hdone := remaining_of_completed hprog hcompleted
    have hcount := hopen.count_eq
    rw [account_append htrace, Account.after_append, Account.after_posts hprog]
    refine ⟨none, ?_, ?_⟩
    · simp [hprog, Account.after, Account.record, hopen.account_eq, hopen.callback_eq]
    · simp [hprog, Account.after, Account.record, hopen.account_eq]
      omega

lemma Move.accounted (hbnd : pre.Bounded) (h : pre.Accounted)
    (hmove : Move known pre after) : after.Accounted := by
  cases hmove with
  | signal enabled hsignal =>
    exact h.congr rfl (by simpa using (by cases hsignal <;> rfl)) (append_nil _).symm nofun rfl
  | highWaterMark bytes =>
    exact h.congr (append_nil _).symm nofun (append_nil _).symm nofun rfl
  | acceptMemory hrun hdata htasks hroom =>
    refine h.congr rfl ?_ rfl ?_ rfl
    · simp [subject]
    · simp [WriteTask.fileProgress]
  | acceptFile request hrun hprepared htasks hfiles hroom =>
    refine h.enter rfl rfl rfl ?_ (.inl ⟨rfl, ?_⟩)
    · simp [subject]
    · simp [subject]
  | refuse request err =>
    refine h.enter rfl (append_nil _).symm rfl ?_ (.inr ⟨rfl, ?_⟩)
    · intro effect hmem number hnumber
      rw [WriteTask.subject_of_mem_posts hmem, number_task] at hnumber
      exact (some.inj hnumber).symm
    · obtain ⟨progress, hprog⟩ :=
        isSome_iff_exists.mp (isSome_fileProgress_task request pre.requests.length)
      obtain ⟨hnumber, hopen⟩ := open_task request _ hprog
      have hclosed := hopen.cancelled err
      rw [← Account.after_posts hprog (some err) Account.empty, hnumber,
        ← h.fresh _ (le_refl _)] at hclosed
      rwa [account_append rfl]
  | cancel err =>
    refine h.leave (append_nil _).symm rfl (fun number hne => ?_) ?_
    · rw [account_append rfl, Account.after_flatMap_posts_of_ne hne]
    · intro task hmem progress request hprog hopen
      rw [account_append rfl, Account.after_flatMap_posts h.numbers hmem hprog]
      exact hopen.cancelled err
  | complete hwr hcompleted => exact h.complete hwr hcompleted rfl rfl rfl
  | send hwr hsome havailable => exact h.send hbnd hwr havailable
  | beginRead hwr hdata hidle hremaining | dropRead hwr hpending
  | deliver hwr hpending hsize hremaining hroom hknown => exact h.setRead hwr rfl rfl rfl
  | drain hrun hwr =>
    exact h.congr rfl (by simp [subject]) (append_nil _).symm nofun rfl

lemma step_accounted (hbnd : scheduler.Bounded) (h : scheduler.Accounted) (event : Event) :
    (scheduler.step event).Accounted := by
  have hmoves : Moves (fun _ _ _ => True) scheduler (scheduler.step event) :=
    moves_step scheduler event fun _ _ _ _ _ _ _ _ _ _ => trivial
  have hmove : ∀ pre after : WriteScheduler, pre.Bounded ∧ pre.Accounted →
      Move (fun _ _ _ => True) pre after → after.Bounded ∧ after.Accounted :=
    fun _ _ hinv hmove => ⟨hmove.bounded hinv.1, hmove.accounted hinv.1 hinv.2⟩
  exact (hmoves.invariant hmove ⟨hbnd, h⟩).2

/-! ## After the end -/

/-- Nothing was sent, completed or drained: hooks were called, and tasks refused
without a byte of them sent. -/
structure Halted (before after : WriteScheduler) : Prop where
  stopped : after.stopped = true
  writes : after.writes = []
  trace : ∃ effects, after.trace = before.trace ++ effects ∧
    ∀ effect ∈ effects, effect.IsSignal ∨ ∃ number error, effect = .posted number (some error) 0

lemma Halted.refl (hstopped : scheduler.stopped) (hwr : scheduler.writes = []) :
    Halted scheduler scheduler :=
  ⟨hstopped, hwr, [], by simp, nofun⟩

lemma Halted.trans {middle : WriteScheduler} (hfirst : Halted pre middle)
    (hsecond : Halted middle after) : Halted pre after := by
  obtain ⟨first, hfirst_eq, hfirst_all⟩ := hfirst.trace
  obtain ⟨second, hsecond_eq, hsecond_all⟩ := hsecond.trace
  refine ⟨hsecond.stopped, hsecond.writes, first ++ second, ?_, ?_⟩
  · rw [hsecond_eq, hfirst_eq, append_assoc]
  · exact forall_mem_append.mpr ⟨hfirst_all, hsecond_all⟩

lemma eq_of_mem_posts_task {err : Errno} (hmem : effect ∈ (request.task number).posts (some err)) :
    effect = .posted number (some err) 0 := by
  cases request with
  | sendFile opened file offset count callback | asyncReader hasReader file offset count callback =>
    cases callback with
    | false => cases hmem
    | true => exact mem_singleton.mp hmem

/-- A move of a scheduler that has stopped: its queue is empty, so only hooks, refusals
and further cancellations are left. -/
lemma Move.halted (hbnd : pre.Bounded) (hstopped : pre.stopped)
    (hmove : Move known pre after) : Halted pre after := by
  have hwr := hbnd.stopped hstopped
  cases hmove with
  | signal enabled hsignal =>
    exact ⟨hstopped, hwr, [_], rfl, fun effect hmem =>
      .inl (mem_singleton.mp hmem ▸ hsignal)⟩
  | highWaterMark bytes => exact ⟨hstopped, hwr, [], (append_nil _).symm, nofun⟩
  | acceptMemory hrun | acceptFile request hrun | drain hrun =>
    simp [hstopped] at hrun
  | refuse request err =>
    exact ⟨hstopped, hwr, _, rfl, fun effect hmem =>
      .inr ⟨_, err, eq_of_mem_posts_task hmem⟩⟩
  | cancel err => exact ⟨rfl, rfl, [], by simp [hwr], nofun⟩
  | complete hfront | send hfront | beginRead hfront | dropRead hfront | deliver hfront =>
    simp [hwr] at hfront

lemma Moves.halted (hbnd : pre.Bounded) (hstopped : pre.stopped)
    (hmoves : Moves known pre after) : Halted pre after := by
  have hmove : ∀ middle later : WriteScheduler, middle.Bounded ∧ Halted pre middle →
      Move known middle later → later.Bounded ∧ Halted pre later :=
    fun _ _ hinv hmove =>
      ⟨hmove.bounded hinv.1, hinv.2.trans (hmove.halted hinv.1 hinv.2.stopped)⟩
  exact (hmoves.invariant hmove ⟨hbnd, .refl hstopped (hbnd.stopped hstopped)⟩).2

lemma run_moves (scheduler : WriteScheduler) (events : List Event) :
    Moves (fun _ _ _ => True) scheduler (run step scheduler events) := by
  induction events generalizing scheduler with
  | nil => exact .refl
  | cons event events ih =>
    exact (moves_step scheduler event fun _ _ _ _ _ _ _ _ _ _ => trivial).trans (ih _)

/-- Every `enqueue_file` call with a callback gets at most one notification, and has it when the
queue is empty or the scheduler has stopped. It has no error just when all bytes of the task were
sent. A scheduler that has stopped sends nothing and refuses what is enqueued. -/
theorem fileTasks_accounted (events : List Event) :
    (∀ number request, (run step new events).requests[number]? = some request →
      request.callback = true → (((run step new events).account number).posts.length ≤ 1 ∧
        ((run step new events).stopped = true ∨ (run step new events).writes = [] →
          ((run step new events).account number).posts.length = 1) ∧
        ∀ error sent, (error, sent) ∈ ((run step new events).account number).posts →
          sent = ((run step new events).account number).sent ∧
            (error = none ↔ sent = request.count ∧
              ((run step new events).account number).completed = true))) ∧
    (∀ inner outer, Moves (fun _ _ _ => True) (run step new events) inner →
      inner.stopped = true → Moves (fun _ _ _ => True) inner outer → Halted inner outer) ∧
    ((run step new events).stopped = true →
      (∀ later, Halted (run step new events) (run step new (events ++ later))) ∧
      (∀ request accepting, (run step new events).enqueueFile request accepting =
        { run step new events with
          requests := (run step new events).requests ++ [request]
          trace := (run step new events).trace ++
            if request.callback then
              [.posted (run step new events).requests.length (some .ENOTCONN) 0]
            else [] }) ∧
      ∀ data, (run step new events).enqueueMemory data = run step new events) := by
  have hinv : (run step new events).Bounded ∧ (run step new events).Accounted := by
    have hstep : ∀ (scheduler : WriteScheduler) event, scheduler.Bounded ∧ scheduler.Accounted →
        (scheduler.step event).Bounded ∧ (scheduler.step event).Accounted :=
      fun scheduler event h => ⟨step_bounded h.1 event, step_accounted h.1 h.2 event⟩
    exact run_invariant hstep ⟨new_bounded, new_accounted⟩ events
  obtain ⟨hbounded, haccounted⟩ := hinv
  refine ⟨fun number request hrequest hcallback => ?_, fun inner outer hinner hstopped houter => ?_,
    fun hstopped => ⟨fun later => ?_, fun request accepting => ?_, fun data => ?_⟩⟩
  · by_cases hqueued : ∀ task ∈ (run step new events).writes, task.number ≠ some number
    · obtain ⟨error, hposts, herror⟩ := haccounted.settled number request hrequest hqueued
      rw [hcallback, if_pos rfl] at hposts
      simp only [hposts, length_singleton, mem_singleton, Prod.mk.injEq]
      refine ⟨Nat.le_refl 1, fun _ => trivial, ?_⟩
      rintro error' sent ⟨rfl, rfl⟩
      exact ⟨rfl, herror⟩
    · push Not at hqueued
      obtain ⟨task, hmem, hnumber⟩ := hqueued
      obtain ⟨progress, hprogress, rfl⟩ := map_eq_some_iff.mp hnumber
      obtain ⟨_, _, hopen⟩ := haccounted.queued task hmem progress hprogress
      have hbusy : (run step new events).writes ≠ [] := ne_nil_of_mem hmem
      simp only [hopen.account_eq, length_nil, not_mem_nil, false_imp_iff, implies_true,
        and_true, Nat.zero_le, true_and]
      rintro (hstopped | hdrained)
      · exact absurd (hbounded.stopped hstopped) hbusy
      · exact absurd hdrained hbusy
  · exact houter.halted (hinner.bounded hbounded) hstopped
  · rw [run_append]
    exact (run_moves _ later).halted hbounded hstopped
  · simp only [enqueueFile, hstopped, true_or, if_true, notifyFile_eq]
    cases request <;> rfl
  · simp [enqueueMemory, hstopped]

end WriteScheduler

end Tlss.Net
