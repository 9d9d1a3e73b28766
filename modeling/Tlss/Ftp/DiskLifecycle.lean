import Tlss.Ftp.DiskWorkers

/-!
# The life of the disk executor

The registry grows in `attach` and shrinks in `release`; the phases change in `start`,
`begin_shutdown` and `stop`. The call of `begin_shutdown` that sets the phase cancels what
was registered at that moment, and nothing is registered later, so that behind it every
adapter that is left has been cancelled (`Closing`). A cancelled adapter is in custody: a
task of it is queued or with a worker, or the call that cancels it is about to post one.
-/

namespace Tlss.Ftp

open Library Base List

namespace DiskExecutor

variable {disk later : DiskExecutor}

/-! ## Registration -/

lemma custody_new (kind : AdapterKind) (token : ℕ) :
    Custody { kind := kind, token := token } ⟨0, 0, 0, 0, if token = 0 then 0 else 1⟩ := by
  refine ⟨rfl, ?_, fun _ => ⟨rfl, rfl, rfl⟩, fun hset => absurd hset Bool.false_ne_true,
    fun hset => absurd hset Bool.false_ne_true, fun hset => absurd hset Bool.false_ne_true,
    fun _ => ⟨rfl, rfl⟩⟩
  split_ifs <;> decide

section

variable (h : disk.Accounts)
include h

lemma Accounts.grow (kind : AdapterKind) {token nextToken rejected : ℕ}
    {receivers : List (ℕ × ℕ)} (hnext : disk.nextToken ≤ nextToken) (htoken : token < nextToken)
    (hfresh : token = 0 ∨ disk.nextToken ≤ token) (hreceivers : receivers =
      disk.receivers ++ if token = 0 then [] else [(token, disk.states.length)])
    (hlimit : receivers.length ≤ maxReceivers) : Accounts { disk with
      rejected := rejected
      nextToken := nextToken
      receivers := receivers
      states := disk.states ++ [{ kind := kind, token := token }] } := by
  have htally : ∀ i, tally { disk with
        rejected := rejected
        nextToken := nextToken
        receivers := receivers
        states := disk.states ++ [{ kind := kind, token := token }] } i =
      { disk.tally i with
        registered := (disk.tally i).registered +
          if token = 0 then 0 else if disk.states.length = i then 1 else 0 } := by
    intro i
    simp only [tally, hreceivers, map_append, sum_append, Tally.mk.injEq, true_and]
    split_ifs <;> simp_all
  have hlength : disk.tokens.length = disk.states.length := length_map ..
  have htokens : tokens { disk with
      rejected := rejected
      nextToken := nextToken
      receivers := receivers
      states := disk.states ++ [{ kind := kind, token := token }] } = disk.tokens ++ [token] :=
    map_append ..
  have hnew : ∀ other : ℕ, token ≠ 0 → disk.tokens[other]? ≠ some token := by
    intro other hne hother
    have hlt := h.fresh token (mem_of_getElem? hother)
    omega
  refine ⟨⟨fun entry hentry => ?_, hlimit, lt_of_lt_of_le h.positive hnext, fun old hold => ?_,
    fun i other old hi hother hne => ?_, fun old hold => ?_, h.ordered, h.rejections,
    fun old hold hne => ?_⟩, fun i s hst => ?_, fun i hlong => ?_, h.intact⟩
  · rw [htokens]
    rw [hreceivers] at hentry
    rcases mem_append.mp hentry with hbefore | hafter
    · have hrecorded := h.entries entry hbefore
      rw [List.getElem?_append_left (List.getElem?_eq_some_iff.mp hrecorded).1]
      exact hrecorded
    · split_ifs at hafter
      · exact absurd hafter not_mem_nil
      · rw [mem_singleton.mp hafter, ← hlength, getElem?_concat_length]
  · rw [htokens] at hold
    rcases mem_append.mp hold with hbefore | hafter
    · exact lt_of_lt_of_le (h.fresh old hbefore) hnext
    · exact mem_singleton.mp hafter ▸ htoken
  · rw [htokens, getElem?_append] at hi hother
    split_ifs at hi hother with hfirst hsecond hsecond
    · exact h.distinct i other old hi hother hne
    · have heq := mem_singleton.mp (mem_of_getElem? hother)
      exact absurd (heq ▸ hi) (hnew i (heq ▸ hne))
    · have heq := mem_singleton.mp (mem_of_getElem? hi)
      exact absurd (heq ▸ hother) (hnew other (heq ▸ hne))
    · have hfirst' := (List.getElem?_eq_some_iff.mp hi).1
      have hsecond' := (List.getElem?_eq_some_iff.mp hother).1
      rw [List.length_singleton] at hfirst' hsecond'
      omega
  · obtain ⟨hlt, hgone⟩ := h.released old hold
    refine ⟨lt_of_lt_of_le hlt hnext, fun entry hentry => ?_⟩
    rw [hreceivers] at hentry
    rcases mem_append.mp hentry with hbefore | hafter
    · exact hgone entry hbefore
    · split_ifs at hafter with hzero
      · exact absurd hafter not_mem_nil
      · rw [mem_singleton.mp hafter]
        omega
  · rw [htokens] at hold
    rw [hreceivers]
    rcases mem_append.mp hold with hbefore | hafter
    · refine (h.kept old hbefore hne).imp_left ?_
      rintro ⟨entry, hentry, heq⟩
      exact ⟨entry, mem_append_left _ hentry, heq⟩
    · rw [mem_singleton.mp hafter] at hne ⊢
      rw [if_neg hne]
      exact .inl ⟨_, mem_append_right _ (mem_singleton_self _), rfl⟩
  · rw [htally]
    rcases Nat.lt_trichotomy i disk.states.length with hlt | heq | hgt
    · rw [getElem?_append_left hlt] at hst
      rw [if_neg (by omega : disk.states.length ≠ i), ite_self, add_zero]
      exact h.custody i s hst
    · subst heq
      rw [getElem?_concat_length] at hst
      rw [← Option.some.inj hst, h.outside _ (le_refl _), if_pos rfl, zero_add]
      exact custody_new kind token
    · rw [getElem?_eq_none (by simp; omega)] at hst
      exact absurd hst (Option.some_ne_none s).symm
  · simp only [length_append, length_singleton] at hlong
    have hlt : disk.states.length < i := hlong
    rw [htally, h.outside i (le_of_lt hlt), if_neg (by omega : disk.states.length ≠ i), ite_self]

lemma Accounts.attach (kind : AdapterKind) (skipped : ℕ) : (disk.attach kind skipped).Accounts := by
  have hpositive := h.positive
  unfold DiskExecutor.attach
  dsimp only
  split_ifs with hphase hfull hzero
  · exact h.grow kind (le_refl _) hpositive (.inl rfl) (append_nil _).symm h.limit
  · exact h.grow kind (le_refl _) hpositive (.inl rfl) (append_nil _).symm h.limit
  · omega
  · refine h.grow kind (by omega) (Nat.lt_succ_self _) (.inr (Nat.le_add_right _ _))
      (by rw [if_neg hzero]) ?_
    rw [length_append, length_singleton]
    omega

/-! ## The end -/

lemma Accounts.rephase {phase : DiskPhase} {pool : PoolState} {stops : List StopCall} :
    Accounts { disk with phase := phase, pool := pool, stops := stops } :=
  h.quiet ⟨rfl, rfl, rfl, rfl, rfl, fun _ => rfl⟩

lemma Accounts.beginShutdown : disk.beginShutdown.Accounts :=
  h.quiet ⟨rfl, rfl, rfl, rfl, rfl, disk.tally_beginShutdown⟩

lemma Accounts.shutdownStep (hphases : disk.Phases) (call : ℕ) :
    (disk.shutdownStep call).Accounts := by
  unfold DiskExecutor.shutdownStep
  split
  · rename_i hcall
    split_ifs
    · exact h.quiet ⟨rfl, rfl, rfl, rfl, rfl, tally_setShutdown hcall (.returned false)⟩
    · exact h.quiet ⟨rfl, rfl, rfl, rfl, rfl,
        tally_setShutdown hcall (.hooks (disk.receivers.map Prod.snd))⟩
  · rename_i hcall
    exact h.quiet ⟨rfl, rfl, rfl, rfl, rfl, tally_setShutdown hcall (.returned true)⟩
  · rename_i i rest hcall
    have hcalled := tally_setShutdown hcall (.hooks rest)
    cases hst : disk.states[i]? with
    | none =>
      rw [cancelLock, hst]
      exact h.quiet ⟨rfl, rfl, rfl, rfl, rfl, hcalled⟩
    | some s =>
      rw [cancelLock_eq hst]
      by_cases hother : s.token = 0 ∨ s.terminal = true ∨ s.busy = true
      · rw [if_pos hother]
        exact h.local (h.local_cancelled hst hother false hcalled)
      · rw [if_neg hother]
        exact h.local (h.local_cancelling hst hother false
          (tally_setShutdown hcall (.posting i rest)))
  · rename_i i rest hcall
    have hsum := sum_map_eraseIdx hcall (ShutdownCall.weight i)
    have hweight : ShutdownCall.weight i (.posting i rest) = 1 := if_pos rfl
    have hposting : 0 < (disk.cancels.map (CancelCall.weight i)).sum +
        (disk.shutdowns.map (ShutdownCall.weight i)).sum := by omega
    refine (h.cancelPost_eq hphases hposting).symm ▸
      h.quiet_cancelPost (tally_setShutdown hcall (.hooks rest)) ?_
    simp only [tally]
    omega
  · exact h
  · exact h

lemma Accounts.stopStep (call : ℕ) : (disk.stopStep call).Accounts := by
  unfold DiskExecutor.stopStep
  split
  · split_ifs
    · exact h
    · exact h.rephase
    · exact h.beginShutdown.rephase
  · split
    · exact h.rephase
    · exact h
  · split_ifs
    · exact h.rephase
    · exact h
  · exact h.rephase
  · split_ifs
    · exact h.rephase
    · exact h
  · exact h.rephase
  · exact h
  · exact h

lemma Accounts.step (hphases : disk.Phases) (event : Event) : (disk.step event).Accounts := by
  cases event with
  | start fails =>
    rw [DiskExecutor.step, DiskExecutor.start]
    split_ifs
    · exact h
    · exact h.rephase
    · exact h.rephase
  | attach kind skipped => exact h.attach kind skipped
  | launch i operation => exact h.launchJob hphases i .receiver (.execute operation)
  | launchInitialize i => exact h.launchJob hphases i .source .runInitialize
  | request i offset count callback => exact h.request hphases i offset count callback
  | cancel i byLoop =>
    exact h.quiet ⟨rfl, rfl, rfl, rfl, rfl, tally_addCancel disk i byLoop⟩
  | cancelStep call => exact h.cancelStep hphases call
  | take => exact h.take
  | work worker fails size => exact h.work worker fails size
  | beginShutdown => exact h.beginShutdown
  | shutdownStep call => exact h.shutdownStep hphases call
  | stop => exact h.rephase
  | stopStep call => exact h.stopStep call

end

end DiskExecutor

end Tlss.Ftp
