import Tlss.Library.RingBuffer
import Tlss.Library.Run
import Mathlib.Algebra.Order.BigOperators.Group.List
import Mathlib.Algebra.Order.Group.Nat
import Mathlib.Data.List.DropRight

/-!
# Sampling policies

A policy is fed with samples and says after each one what it makes of them. Each of the three
is compared with a definition over all samples so far: the run above the threshold they end
with, the times of those above it, and the window of the accepted ones.

Times are 64-bit integers, and so are their differences: one that leaves this range comes out
negative. What a policy is compared with takes differences in ℤ, and the theorems ask that those
of the samples can be represented (`WellTimed`).
-/

namespace Tlss.Monitor

open Library List

/-- `PolicyTime`, in milliseconds. -/
abbrev PolicyTime := Int64

structure PolicyFeedResult where
  noteworthy : Bool
  value : UInt32
deriving DecidableEq, Repr

structure Sample where
  value : UInt32
  now : PolicyTime
deriving DecidableEq, Repr

/-- The time between two moments, without overflow. -/
def elapsed (earlier later : PolicyTime) : ℤ := later.toInt - earlier.toInt

/-- The times do not decrease, and the difference of two of them fits 64 bits. -/
def WellTimed (samples : List Sample) : Prop :=
  samples.Pairwise fun earlier later =>
    earlier.now ≤ later.now ∧ elapsed earlier.now later.now < 2 ^ 63

instance (samples : List Sample) : Decidable (WellTimed samples) :=
  inferInstanceAs (Decidable (List.Pairwise _ _))

lemma toInt_sub_eq_elapsed {earlier later : PolicyTime} (hle : earlier ≤ later)
    (hfits : elapsed earlier later < 2 ^ 63) : (later - earlier).toInt = elapsed earlier later := by
  rw [Int64.le_iff_toInt_le] at hle
  unfold elapsed at hfits ⊢
  rw [Int64.toInt_sub]
  exact Int.bmod_eq_of_le (by omega) (by omega)

def Sample.exceeds (threshold : UInt32) (sample : Sample) : Bool :=
  decide (threshold < sample.value)

variable {threshold : UInt32} {samples : List Sample} {sample : Sample} {duration : PolicyTime}

lemma Sample.exceeds_iff : sample.exceeds threshold = true ↔ ¬ sample.value ≤ threshold := by
  rw [UInt32.not_le]
  exact decide_eq_true_iff

/-! ## `CONT_FOR` -/

inductive ContForState where
  | idle
  | pending
  | active
deriving DecidableEq, Repr

structure ContForPolicy where
  threshold : UInt32
  duration : PolicyTime
  state : ContForState
  crossedAt : PolicyTime
deriving DecidableEq, Repr

def makeContForPolicy (threshold : UInt32) (duration : PolicyTime) : Option ContForPolicy :=
  if duration < 0 then none else some ⟨threshold, duration, .idle, 0⟩

namespace ContForPolicy

def feed (policy : ContForPolicy) (value : UInt32) (now : PolicyTime) :
    PolicyFeedResult × ContForPolicy :=
  if value ≤ policy.threshold then (⟨false, 0⟩, { policy with state := .idle, crossedAt := 0 })
  else
    match policy.state with
    | .idle => (⟨false, 0⟩, { policy with state := .pending, crossedAt := now })
    | .pending =>
      if now < policy.crossedAt then (⟨false, 0⟩, policy)
      else if now - policy.crossedAt ≥ policy.duration then
        (⟨true, 1⟩, { policy with state := .active })
      else (⟨false, 0⟩, policy)
    | .active => (⟨false, 1⟩, policy)

def value (policy : ContForPolicy) : UInt32 := if policy.state = .active then 1 else 0

def step (policy : ContForPolicy) (sample : Sample) : ContForPolicy :=
  (policy.feed sample.value sample.now).2

end ContForPolicy

/-- The longest run of samples above the threshold at the end. -/
def violation (threshold : UInt32) (samples : List Sample) : List Sample :=
  samples.rtakeWhile (Sample.exceeds threshold)

lemma violation_concat : violation threshold (samples ++ [sample]) =
    if sample.value ≤ threshold then [] else violation threshold samples ++ [sample] := by
  by_cases hbelow : sample.value ≤ threshold <;>
    simp [violation, Sample.exceeds_iff, hbelow]

/-- A later sample of the run is at least the duration behind its first one. -/
def lasted (duration : PolicyTime) : List Sample → Bool
  | [] => false
  | start :: run => run.any fun later => decide (duration.toInt ≤ elapsed start.now later.now)

/-- The policy that has seen a run of samples above the threshold. -/
def ContForPolicy.after (threshold : UInt32) (duration : PolicyTime) (run : List Sample) :
    ContForPolicy :=
  match run with
  | [] => ⟨threshold, duration, .idle, 0⟩
  | start :: _ =>
    ⟨threshold, duration, if lasted duration run then .active else .pending, start.now⟩

lemma ContForPolicy.feed_after {seen : List Sample}
    (htimes : ∀ start ∈ seen, start.now ≤ sample.now ∧ elapsed start.now sample.now < 2 ^ 63) :
    let next := if sample.value ≤ threshold then [] else seen ++ [sample]
    (after threshold duration seen).feed sample.value sample.now =
      (⟨!lasted duration seen && lasted duration next, if lasted duration next then 1 else 0⟩,
        after threshold duration next) := by
  intro next
  by_cases hbelow : sample.value ≤ threshold
  · have hnext : next = [] := if_pos hbelow
    rw [hnext]
    cases seen <;> simp [feed, after, lasted, hbelow]
  · have hnext : next = seen ++ [sample] := if_neg hbelow
    rw [hnext]
    cases seen with
    | nil => simp [feed, after, lasted, hbelow]
    | cons start run =>
      obtain ⟨hle, hfits⟩ := htimes start mem_cons_self
      have hnot : ¬ sample.now < start.now := Int64.not_lt.mpr hle
      have hlong_iff : duration ≤ sample.now - start.now ↔
          duration.toInt ≤ elapsed start.now sample.now := by
        rw [Int64.le_iff_toInt_le, toInt_sub_eq_elapsed hle hfits]
      have hlater : lasted duration (start :: (run ++ [sample])) =
          (lasted duration (start :: run) ||
            decide (duration.toInt ≤ elapsed start.now sample.now)) := by
        simp [lasted]
      cases hlasted : lasted duration (start :: run) with
      | true => simp [feed, after, hbelow, hlasted, hlater]
      | false =>
        by_cases hlong : duration.toInt ≤ elapsed start.now sample.now <;>
          simp [feed, after, hbelow, hnot, hlasted, hlater, hlong, hlong_iff]

lemma violation_le (htimes : WellTimed (samples ++ [sample])) :
    ∀ start ∈ violation threshold samples,
      start.now ≤ sample.now ∧ elapsed start.now sample.now < 2 ^ 63 := by
  intro start hstart
  have hmem : start ∈ samples := (rtakeWhile_suffix _ _).subset hstart
  exact (pairwise_append.mp htimes).2.2 start hmem sample (mem_singleton_self _)

lemma ContForPolicy.run_step (htimes : WellTimed samples) :
    run step ⟨threshold, duration, .idle, 0⟩ samples =
      after threshold duration (violation threshold samples) := by
  induction samples using reverseRecOn with
  | nil => rfl
  | append_singleton samples sample ih =>
    rw [run_concat, ih (pairwise_append.mp htimes).1, violation_concat, step,
      feed_after (violation_le htimes)]

lemma fires_iff (seen : List Sample) :
    (!lasted duration seen && lasted duration (seen ++ [sample])) = true ↔
      ∃ start between, seen ++ [sample] = start :: (between ++ [sample]) ∧
        duration.toInt ≤ elapsed start.now sample.now ∧
        ∀ later ∈ between, ¬ duration.toInt ≤ elapsed start.now later.now := by
  cases seen with
  | nil =>
    refine iff_of_false (by simp [lasted]) ?_
    rintro ⟨start, between, heq, -⟩
    simpa using congrArg length heq
  | cons first run =>
    simp only [lasted, cons_append, Bool.and_eq_true, Bool.not_eq_true', any_append,
      any_eq_false, any_cons, any_nil, decide_eq_true_eq, Bool.or_false,
      Bool.or_eq_true, any_eq_true]
    constructor
    · rintro ⟨hshort, ⟨later, hlater, hlong⟩ | hlong⟩
      · exact absurd hlong (hshort later hlater)
      · exact ⟨first, run, rfl, hlong, hshort⟩
    · rintro ⟨start, between, heq, hlong, hshort⟩
      obtain ⟨rfl, hrun⟩ := cons.inj heq
      obtain rfl := append_cancel_right hrun
      exact ⟨hshort, .inr hlong⟩

/-- A sample is noteworthy just when it ends a run above the threshold, the first sample of the
run is earlier by at least the duration, and no sample between them is so far behind; the value
is 1 from such a sample to the end of the run. -/
theorem contFor_fires_once {policy : ContForPolicy}
    (hmake : makeContForPolicy threshold duration = some policy) (samples : List Sample)
    (sample : Sample) (htimes : WellTimed (samples ++ [sample])) :
    let fed := (run ContForPolicy.step policy samples).feed sample.value sample.now
    let run := violation threshold (samples ++ [sample])
    (fed.1.noteworthy = true ↔ ∃ start between, run = start :: (between ++ [sample]) ∧
        duration.toInt ≤ elapsed start.now sample.now ∧
        ∀ later ∈ between, ¬ duration.toInt ≤ elapsed start.now later.now) ∧
      (fed.1.value = if lasted duration run then 1 else 0) ∧ fed.2.value = fed.1.value := by
  intro fed run
  have hfed : fed = (⟨!lasted duration (violation threshold samples) && lasted duration run,
      if lasted duration run then 1 else 0⟩, .after threshold duration run) := by
    unfold makeContForPolicy at hmake
    split_ifs at hmake
    obtain rfl := Option.some.inj hmake
    simp only [fed, run, ContForPolicy.run_step (pairwise_append.mp htimes).1,
      violation_concat, ContForPolicy.feed_after (violation_le htimes)]
  rw [hfed]
  refine ⟨?_, rfl, ?_⟩
  · simp only [run, violation_concat]
    split_ifs
    · simp [lasted]
    · exact fires_iff _
  · cases run with
    | nil => rfl
    | cons start later => cases hlasted : lasted duration (start :: later) <;>
        simp [ContForPolicy.after, ContForPolicy.value, hlasted]

theorem contFor_fires_once_sample :
    ((run ContForPolicy.step ⟨5, 10, .idle, 0⟩ [⟨6, 0⟩]).feed 7 10).1 = ⟨true, 1⟩ ∧
      ∃ start between, violation 5 [⟨6, 0⟩, ⟨7, 10⟩] = start :: (between ++ [⟨7, 10⟩]) ∧
        10 ≤ elapsed start.now 10 ∧ ∀ later ∈ between, ¬ 10 ≤ elapsed start.now later.now :=
  ⟨by decide, (@contFor_fires_once 5 10 ⟨5, 10, .idle, 0⟩ (by decide) [⟨6, 0⟩] ⟨7, 10⟩
    (by decide)).1.mp (by decide)⟩

/-- The difference of the two times is negative, and the violation never fires. -/
theorem contFor_overflow_silent :
    ((run ContForPolicy.step ⟨5, 10, .idle, 0⟩ [⟨6, Int64.minValue⟩]).feed 7
        Int64.maxValue).1 = ⟨false, 0⟩ ∧
      lasted 10 (violation 5 [⟨6, Int64.minValue⟩, ⟨7, Int64.maxValue⟩]) = true := by
  decide

/-! ## `TIMES_PER_PERIOD` -/

structure TimesPerPeriodPolicy where
  threshold : UInt32
  period : PolicyTime
  /-- `_events` and `_head`. -/
  events : RingBuffer PolicyTime
  eventCount : ℕ
  alerting : Bool
deriving DecidableEq

def makeTimesPerPeriodPolicy (threshold : UInt32) (count : ℕ) (period : PolicyTime) :
    Option TimesPerPeriodPolicy :=
  if count = 0 ∨ period < 0 then none
  else some ⟨threshold, period, ⟨replicate count 0, 0⟩, 0, false⟩

namespace TimesPerPeriodPolicy

def value (policy : TimesPerPeriodPolicy) : UInt32 := if policy.alerting then 1 else 0

def feed (policy : TimesPerPeriodPolicy) (value : UInt32) (now : PolicyTime) :
    PolicyFeedResult × TimesPerPeriodPolicy :=
  if value ≤ policy.threshold then (⟨false, policy.value⟩, policy)
  else
    let events := policy.events.push now
    let eventCount :=
      if policy.eventCount < events.slots.length then policy.eventCount + 1 else policy.eventCount
    let oldest := events.slots.getD events.head 0
    let conditionMet := decide (eventCount = events.slots.length) && decide (oldest ≤ now) &&
      decide (now - oldest ≤ policy.period)
    let next := { policy with events, eventCount, alerting := conditionMet }
    (⟨conditionMet && !policy.alerting, next.value⟩, next)

def step (policy : TimesPerPeriodPolicy) (sample : Sample) : TimesPerPeriodPolicy :=
  (policy.feed sample.value sample.now).2

end TimesPerPeriodPolicy

/-- The times of the samples above the threshold. -/
def exceedances (threshold : UInt32) (samples : List Sample) : List PolicyTime :=
  (samples.filter (Sample.exceeds threshold)).map Sample.now

/-- There are `count` times, and the last `count` of them span at most the period. -/
def bursts (count : ℕ) (period : PolicyTime) (times : List PolicyTime) : Bool :=
  match times[times.length - count]?, times.getLast? with
  | some oldest, some newest =>
    decide (count ≤ times.length) && decide (elapsed oldest newest ≤ period.toInt)
  | _, _ => false

variable {count : ℕ} {period now : PolicyTime} {times : List PolicyTime}
  {ring : RingBuffer PolicyTime}

lemma exceedances_concat : exceedances threshold (samples ++ [sample]) =
    if sample.value ≤ threshold then exceedances threshold samples
    else exceedances threshold samples ++ [sample.now] := by
  by_cases hbelow : sample.value ≤ threshold <;>
    simp [exceedances, filter_append, Sample.exceeds_iff, hbelow]

lemma exceedances_le (htimes : WellTimed (samples ++ [sample])) :
    ∀ time ∈ exceedances threshold samples,
      time ≤ sample.now ∧ elapsed time sample.now < 2 ^ 63 := by
  intro time htime
  obtain ⟨earlier, hearlier, rfl⟩ := mem_map.mp htime
  exact (pairwise_append.mp htimes).2.2 earlier (mem_of_mem_filter hearlier) sample
    (mem_singleton_self _)

/-- The condition that `feed` checks on the ring is the one on the times. -/
lemma bursts_concat (hring : ring.Holds (times ++ [now])) (hsize : ring.slots.length = count)
    (hle : ∀ time ∈ times, time ≤ now ∧ elapsed time now < 2 ^ 63) :
    (decide (min (times ++ [now]).length count = count) &&
        decide (ring.slots.getD ring.head 0 ≤ now) &&
        decide (now - ring.slots.getD ring.head 0 ≤ period)) =
      bursts count period (times ++ [now]) := by
  unfold bursts
  rw [getLast?_concat]
  by_cases hfull : count ≤ (times ++ [now]).length
  · have hcount : 0 < count := hsize ▸ hring.nonempty
    obtain ⟨oldest, holdest⟩ : ∃ oldest,
        (times ++ [now])[(times ++ [now]).length - count]? = some oldest :=
      ⟨_, getElem?_eq_getElem (by omega)⟩
    have hslot := hring.oldest (hsize ▸ hfull) (hsize ▸ holdest)
    obtain ⟨hbefore, hfits⟩ : oldest ≤ now ∧ elapsed oldest now < 2 ^ 63 := by
      rcases mem_append.mp (mem_of_getElem? holdest) with hmem | hmem
      · exact hle oldest hmem
      · rw [mem_singleton.mp hmem]
        exact ⟨Int64.le_refl now, by simp [elapsed]⟩
    simp only [holdest, getD_eq_getElem?_getD, hslot, Option.getD_some, hbefore,
      min_eq_right hfull, hfull, decide_true, Bool.true_and, Int64.le_iff_toInt_le,
      toInt_sub_eq_elapsed hbefore hfits]
  · simp only [min_eq_right_iff, hfull, decide_false, Bool.false_and]
    split <;> rfl

lemma TimesPerPeriodPolicy.feed_spec (hring : ring.Holds times)
    (hsize : ring.slots.length = count)
    (hle : ∀ time ∈ times, time ≤ sample.now ∧ elapsed time sample.now < 2 ^ 63) :
    let next := if sample.value ≤ threshold then times else times ++ [sample.now]
    ∃ ring', ring'.Holds next ∧ ring'.slots.length = count ∧
      feed ⟨threshold, period, ring, min times.length count, bursts count period times⟩
          sample.value sample.now =
        (⟨!bursts count period times && bursts count period next,
          if bursts count period next then 1 else 0⟩,
          ⟨threshold, period, ring', min next.length count, bursts count period next⟩) := by
  intro next
  by_cases hbelow : sample.value ≤ threshold
  · have hnext : next = times := if_pos hbelow
    rw [hnext]
    exact ⟨ring, hring, hsize, by simp [feed, hbelow, value]⟩
  · have hnext : next = times ++ [sample.now] := if_neg hbelow
    have hpushed : (ring.push sample.now).slots.length = count := length_set.trans hsize
    have hcount : (if min times.length count < count then min times.length count + 1
        else min times.length count) = min (times ++ [sample.now]).length count := by
      rw [length_append, length_singleton]
      split_ifs <;> omega
    rw [hnext]
    refine ⟨ring.push sample.now, hring.push _, hpushed, ?_⟩
    simp only [feed, if_neg hbelow, hpushed, hcount, value,
      bursts_concat (hring.push sample.now) hpushed hle, Bool.and_comm]

/-- The alert value is 1 just when the last `count` samples above the threshold lie within the
period, and a feed is noteworthy just when it raises the value. -/
theorem timesPerPeriod_bursts {policy : TimesPerPeriodPolicy}
    (hmake : makeTimesPerPeriodPolicy threshold count period = some policy)
    (samples : List Sample) (sample : Sample) (htimes : WellTimed (samples ++ [sample])) :
    let before := run TimesPerPeriodPolicy.step policy samples
    let fed := before.feed sample.value sample.now
    (fed.1.value =
        if bursts count period (exceedances threshold (samples ++ [sample])) then 1 else 0) ∧
      fed.2.value = fed.1.value ∧
      (fed.1.noteworthy = true ↔ before.value = 0 ∧ fed.1.value = 1) := by
  intro before fed
  unfold makeTimesPerPeriodPolicy at hmake
  split_ifs at hmake with hvalid
  obtain rfl := Option.some.inj hmake
  have hcount : 0 < count := Nat.pos_of_ne_zero fun hzero => hvalid (.inl hzero)
  have hrun : ∀ earlier, WellTimed earlier → ∃ ring,
      ring.Holds (exceedances threshold earlier) ∧ ring.slots.length = count ∧
      run TimesPerPeriodPolicy.step ⟨threshold, period, ⟨replicate count 0, 0⟩, 0, false⟩
        earlier = ⟨threshold, period, ring, min (exceedances threshold earlier).length count,
          bursts count period (exceedances threshold earlier)⟩ := by
    intro earlier
    induction earlier using reverseRecOn with
    | nil =>
      exact fun _ => ⟨⟨replicate count 0, 0⟩, RingBuffer.holds_nil (by simpa) rfl, by simp,
        by simp [exceedances, bursts]⟩
    | append_singleton earlier last ih =>
      intro hearlier
      obtain ⟨ring, hring, hsize, heq⟩ := ih (pairwise_append.mp hearlier).1
      rw [run_concat, heq, exceedances_concat]
      obtain ⟨ring', hring', hsize', hfed⟩ :=
        TimesPerPeriodPolicy.feed_spec hring hsize (exceedances_le hearlier)
      exact ⟨ring', hring', hsize', congrArg Prod.snd hfed⟩
  obtain ⟨ring, hring, hsize, hbefore⟩ := hrun samples (pairwise_append.mp htimes).1
  obtain ⟨ring', -, -, hfed⟩ :=
    TimesPerPeriodPolicy.feed_spec hring hsize (exceedances_le htimes)
  rw [← exceedances_concat, ← hbefore] at hfed
  simp only [fed, before, hfed, hbefore, TimesPerPeriodPolicy.value]
  cases bursts count period (exceedances threshold samples) <;>
    cases bursts count period (exceedances threshold (samples ++ [sample])) <;> simp

theorem timesPerPeriod_bursts_sample :
    ((run TimesPerPeriodPolicy.step ⟨5, 10, ⟨[0, 0], 0⟩, 0, false⟩ [⟨6, 0⟩, ⟨1, 3⟩]).feed 7
      9).1.value = if bursts 2 10 (exceedances 5 [⟨6, 0⟩, ⟨1, 3⟩, ⟨7, 9⟩]) then 1 else 0 :=
  (@timesPerPeriod_bursts 5 2 10 ⟨5, 10, ⟨[0, 0], 0⟩, 0, false⟩ (by decide)
    [⟨6, 0⟩, ⟨1, 3⟩] ⟨7, 9⟩ (by decide)).1

/-- The difference of the two times is negative, and the policy alerts. -/
theorem timesPerPeriod_overflow_alerts :
    ((run TimesPerPeriodPolicy.step ⟨5, 10, ⟨[0, 0], 0⟩, 0, false⟩ [⟨6, Int64.minValue⟩]).feed 7
        Int64.maxValue).1 = ⟨true, 1⟩ ∧
      bursts 2 10 (exceedances 5 [⟨6, Int64.minValue⟩, ⟨7, Int64.maxValue⟩]) = false := by
  decide

/-! ## `SMOOTH_TRIM` -/

structure SmoothTrimPolicy where
  trimThreshold : UInt32
  /-- `_samples` and `_head`. -/
  samples : RingBuffer UInt32
  sampleCount : ℕ
  sum : UInt64
  average : UInt32
deriving DecidableEq

def makeSmoothTrimPolicy (window : ℕ) (trimThreshold : UInt32) : Option SmoothTrimPolicy :=
  if window = 0 then none else some ⟨trimThreshold, ⟨replicate window 0, 0⟩, 0, 0, 0⟩

namespace SmoothTrimPolicy

variable (policy : SmoothTrimPolicy) (value : UInt32)

def difference : UInt32 :=
  if value ≥ policy.average then value - policy.average else policy.average - value

/-- The slot that is written next. -/
def overwritten : UInt32 := policy.samples.slots.getD policy.samples.head 0

/-- The sum once the value is accepted. -/
def nextSum : UInt64 :=
  if policy.sampleCount < policy.samples.slots.length then policy.sum + value.toUInt64
  else policy.sum - policy.overwritten.toUInt64 + value.toUInt64

def feed : PolicyFeedResult × SmoothTrimPolicy :=
  if policy.sampleCount > 0 ∧ policy.difference value > policy.trimThreshold then
    (⟨false, policy.average⟩, policy)
  else
    let sampleCount :=
      if policy.sampleCount < policy.samples.slots.length then policy.sampleCount + 1
      else policy.sampleCount
    let average := (policy.nextSum value / UInt64.ofNat sampleCount).toUInt32
    (⟨decide (average ≠ policy.average), average⟩,
      { policy with
        samples := policy.samples.push value, sampleCount, sum := policy.nextSum value, average })

def step : SmoothTrimPolicy := (policy.feed value).2

/-- Neither the subtraction nor the addition of `nextSum` wraps around. -/
def Exact : Prop :=
  if policy.sampleCount < policy.samples.slots.length then
    policy.sum.toNat + value.toNat < 2 ^ 64
  else policy.overwritten.toNat ≤ policy.sum.toNat ∧
    policy.sum.toNat - policy.overwritten.toNat + value.toNat < 2 ^ 64

end SmoothTrimPolicy

def total (items : List UInt32) : ℕ := (items.map UInt32.toNat).sum

/-- The floor of the mean; of no items, 0. -/
def mean (items : List UInt32) : ℕ := total items / items.length

/-- The last `size` items, or all if there are fewer. -/
def lastItems (size : ℕ) (items : List UInt32) : List UInt32 := items.drop (items.length - size)

/-- The first value is accepted, and every one that is near enough to the mean. -/
def accept (size : ℕ) (trimThreshold : UInt32) (accepted : List UInt32) (value : UInt32) :
    List UInt32 :=
  if accepted = [] ∨
      ((value.toNat : ℤ) - mean (lastItems size accepted)).natAbs ≤ trimThreshold.toNat then
    accepted ++ [value]
  else accepted

/-- The policy keeps the last samples and their sum. -/
structure SmoothTrimPolicy.Follows (size : ℕ) (trimThreshold : UInt32) (accepted : List UInt32)
    (policy : SmoothTrimPolicy) : Prop where
  trimThreshold_eq : policy.trimThreshold = trimThreshold
  holds : policy.samples.Holds accepted
  size_eq : policy.samples.slots.length = size
  sampleCount_eq : policy.sampleCount = min accepted.length size
  sum_eq : policy.sum.toNat = total (lastItems size accepted)
  average_eq : policy.average.toNat = mean (lastItems size accepted)

variable {size : ℕ} {trimThreshold : UInt32} {accepted items : List UInt32}

lemma length_lastItems : (lastItems size accepted).length = min accepted.length size := by
  rw [lastItems, length_drop]
  omega

lemma total_bounds {low high : ℕ} (hitems : ∀ item ∈ items, low ≤ item.toNat ∧ item.toNat ≤ high) :
    items.length * low ≤ total items ∧ total items ≤ items.length * high := by
  constructor
  · simpa [total] using card_nsmul_le_sum (items.map UInt32.toNat) low
      (by simpa using fun item hitem => (hitems item hitem).1)
  · simpa [total] using sum_le_card_nsmul (items.map UInt32.toNat) high
      (by simpa using fun item hitem => (hitems item hitem).2)

lemma total_le (items : List UInt32) : total items ≤ items.length * (2 ^ 32 - 1) :=
  (total_bounds fun item _ => ⟨Nat.zero_le _, Nat.le_pred_of_lt item.toNat_lt⟩).2

/-- Another value takes the place of the oldest one, once the window is full. -/
lemma total_lastItems_concat (hpos : 0 < size) (value : UInt32) :
    ∃ rest, total (lastItems size (accepted ++ [value])) = rest + value.toNat ∧
      total (lastItems size accepted) = rest + if accepted.length < size then 0
        else (accepted[accepted.length - size]?.getD 0).toNat := by
  unfold lastItems
  rw [length_append, length_singleton, drop_append_of_le_length (by omega)]
  refine ⟨total (accepted.drop (accepted.length + 1 - size)), by simp [total], ?_⟩
  split_ifs with hlt
  · rw [show accepted.length + 1 - size = 0 by omega, show accepted.length - size = 0 by omega]
    rfl
  · have hfirst : accepted.length - size < accepted.length := by omega
    rw [drop_eq_getElem_cons hfirst, getElem?_eq_getElem hfirst,
      show accepted.length + 1 - size = accepted.length - size + 1 by omega]
    exact add_comm _ _

lemma difference_toNat (policy : SmoothTrimPolicy) (value : UInt32) :
    (policy.difference value).toNat = ((value.toNat : ℤ) - (policy.average.toNat : ℤ)).natAbs := by
  unfold SmoothTrimPolicy.difference
  split_ifs with hge
  · have hle : policy.average.toNat ≤ value.toNat := UInt32.le_iff_toNat_le.mp hge
    rw [UInt32.toNat_sub_of_le _ _ hge]
    omega
  · have hlt : value.toNat < policy.average.toNat :=
      not_le.mp fun hle => hge (UInt32.le_iff_toNat_le.mpr hle)
    rw [UInt32.toNat_sub_of_le _ _ (UInt32.le_iff_toNat_le.mpr hlt.le)]
    omega

namespace SmoothTrimPolicy

variable {policy : SmoothTrimPolicy} (h : policy.Follows size trimThreshold accepted)
  (hsize : 1 ≤ size ∧ size ≤ 2 ^ 32)
include h hsize

lemma Follows.sum (value : UInt32) : policy.Exact value ∧
      (policy.nextSum value).toNat = total (lastItems size (accepted ++ [value])) := by
  have hbound : total (lastItems size (accepted ++ [value])) < 2 ^ 64 := by
    have hle := total_le (lastItems size (accepted ++ [value]))
    rw [length_lastItems] at hle
    omega
  obtain ⟨rest, hnext, hbefore⟩ := @total_lastItems_concat size accepted hsize.1 value
  rw [hnext] at hbound ⊢
  rw [← h.sum_eq] at hbefore
  unfold Exact nextSum
  rw [h.sampleCount_eq, h.size_eq]
  by_cases hlt : accepted.length < size
  · have hfilling : min accepted.length size < size := by omega
    rw [if_pos hlt, add_zero] at hbefore
    rw [if_pos hfilling, if_pos hfilling, UInt64.toNat_add, UInt32.toNat_toUInt64, hbefore,
      Nat.mod_eq_of_lt hbound]
    exact ⟨hbound, rfl⟩
  · have hfull : ¬ min accepted.length size < size := by omega
    have hslot : policy.overwritten = accepted[accepted.length - size]?.getD 0 := by
      have hfirst : accepted.length - size < accepted.length := by omega
      have holdest := h.holds.oldest (h.size_eq ▸ not_lt.mp hlt)
        (by rw [h.size_eq, getElem?_eq_getElem hfirst])
      rw [overwritten, getD_eq_getElem?_getD, holdest, getElem?_eq_getElem hfirst]
    rw [if_neg hlt, ← hslot] at hbefore
    have hle : policy.overwritten.toUInt64 ≤ policy.sum := by
      rw [UInt64.le_iff_toNat_le, UInt32.toNat_toUInt64]
      omega
    rw [if_neg hfull, if_neg hfull, UInt64.toNat_add, UInt64.toNat_sub_of_le _ _ hle,
      UInt32.toNat_toUInt64, UInt32.toNat_toUInt64, hbefore, Nat.add_sub_cancel,
      Nat.mod_eq_of_lt hbound]
    exact ⟨⟨Nat.le_add_left _ _, hbound⟩, rfl⟩

lemma Follows.rejects_iff (value : UInt32) :
    (policy.sampleCount > 0 ∧ policy.difference value > policy.trimThreshold) ↔ ¬ (accepted = [] ∨
        ((value.toNat : ℤ) - mean (lastItems size accepted)).natAbs ≤ trimThreshold.toNat) := by
  rw [not_or, gt_iff_lt, gt_iff_lt, UInt32.lt_iff_toNat_lt, difference_toNat, h.average_eq,
    h.trimThreshold_eq, h.sampleCount_eq, not_le, ← length_eq_zero_iff]
  refine and_congr_left fun _ => ?_
  omega

lemma Follows.feed (value : UInt32) :
    (policy.step value).Follows size trimThreshold (accept size trimThreshold accepted value) ∧
      (policy.feed value).1.value = (policy.step value).average ∧
      ((policy.feed value).1.noteworthy = true ↔ (policy.feed value).1.value ≠ policy.average) ∧
      (accept size trimThreshold accepted value = accepted → policy.step value = policy) := by
  unfold step SmoothTrimPolicy.feed accept
  by_cases hreject : policy.sampleCount > 0 ∧ policy.difference value > policy.trimThreshold
  · rw [if_pos hreject, if_neg ((h.rejects_iff hsize value).mp hreject)]
    exact ⟨h, rfl, by simp, fun _ => rfl⟩
  · rw [if_neg hreject, if_pos (not_not.mp (mt (h.rejects_iff hsize value).mpr hreject))]
    have hsum := (h.sum hsize value).2
    have hlength := @length_lastItems size (accepted ++ [value])
    have hcount : (if policy.sampleCount < policy.samples.slots.length then
        policy.sampleCount + 1 else policy.sampleCount) =
        (lastItems size (accepted ++ [value])).length := by
      rw [hlength, h.sampleCount_eq, h.size_eq, length_append, length_singleton]
      split_ifs <;> omega
    refine ⟨⟨h.trimThreshold_eq, h.holds.push value, length_set.trans h.size_eq,
      hcount.trans hlength, hsum, ?_⟩, rfl, decide_eq_true_iff, fun hsame => ?_⟩
    · have hmean : mean (lastItems size (accepted ++ [value])) ≤ 2 ^ 32 - 1 :=
        Nat.div_le_of_le_mul (total_le _)
      rw [hcount, UInt64.toNat_toUInt32, UInt64.toNat_div, hsum,
        UInt64.toNat_ofNat_of_lt' (show _ < 2 ^ 64 by omega)]
      exact Nat.mod_eq_of_lt (show mean _ < 2 ^ 32 by omega)
    · simp at hsame

end SmoothTrimPolicy

/-- The value is the mean of the last accepted values; the sum is exact; a value that is not
accepted changes nothing. -/
theorem smoothTrim_averages {policy : SmoothTrimPolicy} (hsize : 1 ≤ size ∧ size ≤ 2 ^ 32)
    (hmake : makeSmoothTrimPolicy size trimThreshold = some policy) (values : List UInt32)
    (value : UInt32) :
    let before := run SmoothTrimPolicy.step policy values
    let fed := before.feed value
    let earlier := values.foldl (accept size trimThreshold) []
    let accepted := accept size trimThreshold earlier value
    fed.1.value.toNat = mean (lastItems size accepted) ∧ fed.2.average = fed.1.value ∧
      fed.2.sum.toNat = total (lastItems size accepted) ∧ before.Exact value ∧
      (∀ low high, (∀ item ∈ lastItems size accepted, low ≤ item ∧ item ≤ high) →
        low ≤ fed.1.value ∧ fed.1.value ≤ high) ∧
      (accepted = earlier → fed.2 = before) ∧
      (fed.1.noteworthy = true ↔ fed.1.value ≠ before.average) := by
  intro before fed earlier accepted
  have hrun : before.Follows size trimThreshold earlier := by
    unfold makeSmoothTrimPolicy at hmake
    split_ifs at hmake with hzero
    obtain rfl := Option.some.inj hmake
    induction values using reverseRecOn with
    | nil =>
      exact ⟨rfl, RingBuffer.holds_nil (length_replicate ▸ hsize.1) rfl,
        length_replicate, (Nat.zero_min _).symm,
        by simp [before, earlier, lastItems, total],
        by simp [before, earlier, lastItems, mean]⟩
    | append_singleton values last ih =>
      simp only [before, earlier, run_concat, foldl_concat]
      exact (ih.feed hsize last).1
  obtain ⟨hnext, hvalue, hnoteworthy, hsame⟩ := hrun.feed hsize value
  have haverage : fed.1.value.toNat = mean (lastItems size accepted) :=
    (congrArg UInt32.toNat hvalue).trans hnext.average_eq
  have hsome : 0 < (lastItems size accepted).length := by
    have haccepted : accepted ≠ [] := by
      simp only [accepted, accept]
      split_ifs with hnear
      · simp
      · exact fun hnil => hnear (.inl hnil)
    have hpos := length_pos_iff.mpr haccepted
    rw [length_lastItems]
    omega
  refine ⟨haverage, hvalue.symm, hnext.sum_eq, (hrun.sum hsize value).1, fun low high hitems => ?_,
    hsame, hnoteworthy⟩
  simp only [UInt32.le_iff_toNat_le, haverage] at hitems ⊢
  obtain ⟨hlow, hhigh⟩ := total_bounds hitems
  exact ⟨(Nat.le_div_iff_mul_le hsome).mpr (Nat.mul_comm _ _ ▸ hlow), Nat.div_le_of_le_mul hhigh⟩

theorem smoothTrim_averages_sample :
    ((run SmoothTrimPolicy.step ⟨5, ⟨[0, 0], 0⟩, 0, 0, 0⟩ [10, 12]).feed 90).1.value.toNat =
      mean (lastItems 2 (accept 2 5 ([10, 12].foldl (accept 2 5) []) 90)) :=
  (@smoothTrim_averages 2 5 ⟨5, ⟨[0, 0], 0⟩, 0, 0, 0⟩ (by decide) (by decide) [10, 12] 90).1

end Tlss.Monitor
