import Tlss.Cache.ArcCache
import Mathlib.Data.List.Induction

/-!
# The cache in slices

`HashArcCache` spreads its capacity over slices, each an `ArcCache` with a lock of
its own, and sends a key to the slice its hash selects. Every slice has a capacity
of at least one, so a value that is put stays for the next read.
-/

namespace Tlss.Cache

open Library ArcCache List

structure HashArcCache (Key Value : Type*) where
  capacity : ℕ
  sliceNum : ℕ
  slices : List (ArcCache Key Value)

namespace HashArcCache

variable {Key Value : Type*} [DecidableEq Key] {cap : ℕ} {stored : Value}

/-- The default of the threshold in `ArcCache(cap, trans)`. -/
def defaultThreshold : ℕ := 2

/-- The number of slices: as many as asked for, or one for each unit the hardware
runs at once, but not more than there is capacity for. -/
def sliceCount (hardwareConcurrency cap sliceNum : ℕ) : ℕ :=
  min (if sliceNum > 0 then sliceNum else max 1 hardwareConcurrency) cap

def sliceSize (cap sliceNum index : ℕ) : ℕ :=
  cap / sliceNum + if index < cap % sliceNum then 1 else 0

/-- `HashArcCache(cap, slice_num)` on a machine that reports this concurrency. -/
def new (hardwareConcurrency cap sliceNum : ℕ) : HashArcCache Key Value :=
  if cap = 0 then ⟨0, 0, []⟩
  else
    let count := sliceCount hardwareConcurrency cap sliceNum
    ⟨cap, count, (range count).map fun index =>
      .new (sliceSize cap count index) defaultThreshold⟩

variable (hash : Key → ℕ)

variable (cache : HashArcCache Key Value)

def sliceIndex (key : Key) : ℕ := hash key % cache.sliceNum

def put (cache : HashArcCache Key Value) (key : Key) (value : Value) : HashArcCache Key Value :=
  if cache.sliceNum = 0 then cache
  else
    { cache with slices := cache.slices.modify (cache.sliceIndex hash key) (·.put key value) }

def get (cache : HashArcCache Key Value) (key : Key) : Option Value × HashArcCache Key Value :=
  if cache.sliceNum = 0 then (none, cache)
  else
    match cache.slices[cache.sliceIndex hash key]? with
    | none => (none, cache)
    | some slice =>
      let (found, slice) := slice.get key
      (found, { cache with slices := cache.slices.set (cache.sliceIndex hash key) slice })

def erase (cache : HashArcCache Key Value) (key : Key) : Bool × HashArcCache Key Value :=
  if cache.sliceNum = 0 then (false, cache)
  else
    match cache.slices[cache.sliceIndex hash key]? with
    | none => (false, cache)
    | some slice =>
      let (removed, slice) := slice.erase key
      (removed, { cache with slices := cache.slices.set (cache.sliceIndex hash key) slice })

def step : Operation Key Value → HashArcCache Key Value
  | .put key value => cache.put hash key value
  | .get key => (cache.get hash key).2
  | .erase key => (cache.erase hash key).2

/-- The value of the last put of the key, unless the key was erased since. -/
def latest (key : Key) (operations : List (Operation Key Value)) : Option Value :=
  operations.foldl (fun current operation => operation.after key current) none

def value (cache : HashArcCache Key Value) (key : Key) : Option Value :=
  cache.slices[cache.sliceIndex hash key]?.bind fun slice => slice.view.value key

/-- There are as many slices as counted, all in order and with a capacity. -/
structure WellFormed (cache : HashArcCache Key Value) : Prop where
  length_eq : cache.slices.length = cache.sliceNum
  slices : ∀ slice ∈ cache.slices, slice.WellFormed ∧ slice.capacity ≠ 0

lemma sliceCount_pos (hardwareConcurrency sliceNum : ℕ) (hcap : cap ≠ 0) :
    0 < sliceCount hardwareConcurrency cap sliceNum := by
  unfold sliceCount
  split_ifs <;> omega

lemma sliceSize_pos (hardwareConcurrency sliceNum index : ℕ) (hcap : cap ≠ 0) :
    0 < sliceSize cap (sliceCount hardwareConcurrency cap sliceNum) index := by
  have hdiv : 0 < cap / sliceCount hardwareConcurrency cap sliceNum := by
    apply Nat.div_pos
    · exact min_le_right _ _
    · exact sliceCount_pos hardwareConcurrency sliceNum hcap
  exact lt_of_lt_of_le hdiv (Nat.le_add_right _ _)

lemma new_wellFormed (hardwareConcurrency cap sliceNum : ℕ) :
    (new hardwareConcurrency cap sliceNum : HashArcCache Key Value).WellFormed := by
  unfold new
  split_ifs with hcap
  · exact ⟨rfl, by simp⟩
  · refine ⟨by simp, fun slice hslice => ?_⟩
    obtain ⟨index, -, rfl⟩ := mem_map.mp hslice
    exact ⟨ArcCache.new_wellFormed _ _,
      Nat.pos_iff_ne_zero.mp (sliceSize_pos hardwareConcurrency sliceNum index hcap)⟩

omit [DecidableEq Key] in
lemma new_sliceNum_ne_zero (hardwareConcurrency sliceNum : ℕ) (hcap : cap ≠ 0) :
    (new hardwareConcurrency cap sliceNum : HashArcCache Key Value).sliceNum ≠ 0 := by
  unfold new
  rw [if_neg hcap]
  exact Nat.pos_iff_ne_zero.mp (sliceCount_pos hardwareConcurrency sliceNum hcap)

variable {hash} {cache : HashArcCache Key Value} {key y : Key} {slice : ArcCache Key Value}
  {op : Operation Key Value}

lemma WellFormed.exists_slice (h : cache.WellFormed) (hash : Key → ℕ)
    (hnum : cache.sliceNum ≠ 0) (key : Key) :
    ∃ slice, cache.slices[cache.sliceIndex hash key]? = some slice ∧ slice.WellFormed ∧
      slice.capacity ≠ 0 := by
  have hlt : cache.sliceIndex hash key < cache.slices.length := by
    rw [h.length_eq]
    exact Nat.mod_lt _ (Nat.pos_of_ne_zero hnum)
  exact ⟨_, getElem?_eq_getElem hlt, h.slices _ (getElem_mem hlt)⟩

def withSlice (hash : Key → ℕ) (cache : HashArcCache Key Value) (key : Key)
    (slice : ArcCache Key Value) : HashArcCache Key Value :=
  { cache with slices := cache.slices.set (cache.sliceIndex hash key) slice }

lemma WellFormed.withSlice (h : cache.WellFormed) (key : Key) (hslice : slice.WellFormed)
    (hcap : slice.capacity ≠ 0) : (cache.withSlice hash key slice).WellFormed where
  length_eq := by simp [HashArcCache.withSlice, h.length_eq]
  slices y hother := by
    rcases mem_or_eq_of_mem_set hother with hold | rfl
    · exact h.slices y hold
    · exact ⟨hslice, hcap⟩

lemma value_withSlice (h : cache.WellFormed) (hnum : cache.sliceNum ≠ 0) :
    (cache.withSlice hash key slice).value hash y =
      if cache.sliceIndex hash key = cache.sliceIndex hash y then slice.view.value y
      else cache.value hash y := by
  have hlt : cache.sliceIndex hash key < cache.slices.length := by
    rw [h.length_eq]
    exact Nat.mod_lt _ (Nat.pos_of_ne_zero hnum)
  have hindex : (cache.withSlice hash key slice).sliceIndex hash y = cache.sliceIndex hash y := rfl
  unfold value
  rw [hindex]
  simp only [withSlice, getElem?_set]
  split_ifs <;> simp_all

def target : Operation Key Value → Key
  | .put key _ | .get key | .erase key => key

lemma step_eq (hnum : cache.sliceNum ≠ 0) (op : Operation Key Value)
    (hslice : cache.slices[cache.sliceIndex hash (target op)]? = some slice) :
    cache.step hash op = cache.withSlice hash (target op) (slice.step op) := by
  cases op with
  | put key value =>
    simp only [step, put, if_neg hnum, withSlice, target, ArcCache.step] at hslice ⊢
    rw [modify_eq_set_getElem?, hslice]
    rfl
  | get key =>
    simp only [target] at hslice
    simp only [step, get, if_neg hnum, withSlice, target, ArcCache.step, hslice]
  | erase key =>
    simp only [target] at hslice
    simp only [step, erase, if_neg hnum, withSlice, target, ArcCache.step, hslice]

lemma step_of_sliceNum_eq_zero (hzero : cache.sliceNum = 0) (op : Operation Key Value) :
    cache.step hash op = cache := by
  cases op <;> simp [step, put, get, erase, hzero]

lemma get_fst (h : cache.WellFormed) (key : Key) :
    (cache.get hash key).1 = cache.value hash key := by
  by_cases hzero : cache.sliceNum = 0
  · have hnil : cache.slices = [] := length_eq_zero_iff.mp (h.length_eq.trans hzero)
    simp [get, value, hzero, hnil]
  · obtain ⟨slice, hslice, hwell, -⟩ := h.exists_slice hash hzero key
    simp [get, value, hzero, hslice, (ArcCache.get_spec hwell key).1]

lemma step_wellFormed (h : cache.WellFormed) (op : Operation Key Value) :
    (cache.step hash op).WellFormed ∧ (cache.step hash op).sliceNum = cache.sliceNum := by
  by_cases hzero : cache.sliceNum = 0
  · rw [step_of_sliceNum_eq_zero hzero]
    exact ⟨h, rfl⟩
  · obtain ⟨slice, hslice, hwell, hcap⟩ := h.exists_slice hash hzero (target op)
    obtain ⟨hwell', hcap'⟩ := ArcCache.step_wellFormed hwell op
    rw [step_eq hzero op hslice]
    exact ⟨h.withSlice _ hwell' (hcap' ▸ hcap), rfl⟩

lemma after_of_ne (hne : target op ≠ key)
    (current : Option Value) : op.after key current = current := by
  cases op <;> simp_all [target, Operation.after]

/-- A call shows nothing that a map that loses nothing would not show. -/
lemma step_value (h : cache.WellFormed) (op : Operation Key Value)
    (hvalue : (cache.step hash op).value hash key = some stored) :
    op.after key (cache.value hash key) = some stored := by
  by_cases hzero : cache.sliceNum = 0
  · have hnil : cache.slices = [] := length_eq_zero_iff.mp (h.length_eq.trans hzero)
    rw [step_of_sliceNum_eq_zero hzero, value, hnil] at hvalue
    cases hvalue
  · obtain ⟨slice, hslice, hwell, hcap⟩ := h.exists_slice hash hzero (target op)
    rw [step_eq hzero op hslice, value_withSlice h hzero] at hvalue
    split_ifs at hvalue with hindex
    · have hsame : cache.value hash key = slice.view.value key := by
        rw [value, ← hindex, hslice]
        rfl
      rw [hsame]
      exact ArcCache.step_value hwell hcap op hvalue
    · have hne : target op ≠ key := fun hkey => hindex (by rw [hkey])
      rw [after_of_ne hne]
      exact hvalue

lemma run_wellFormed (hash : Key → ℕ) (hardwareConcurrency cap sliceNum : ℕ)
    (operations : List (Operation Key Value)) :
    (run (step hash) (new hardwareConcurrency cap sliceNum) operations).WellFormed ∧
      (run (step hash) (new hardwareConcurrency cap sliceNum) operations).sliceNum =
        (new hardwareConcurrency cap sliceNum : HashArcCache Key Value).sliceNum := by
  have hstep : ∀ (cache : HashArcCache Key Value) op,
      cache.WellFormed ∧ cache.sliceNum =
          (new hardwareConcurrency cap sliceNum : HashArcCache Key Value).sliceNum →
        (cache.step hash op).WellFormed ∧ (cache.step hash op).sliceNum =
          (new hardwareConcurrency cap sliceNum : HashArcCache Key Value).sliceNum := by
    rintro cache op ⟨hwell, hnum⟩
    exact (step_wellFormed hwell op).imp_right fun heq => heq.trans hnum
  exact run_invariant hstep ⟨new_wellFormed _ _ _, rfl⟩ operations

lemma latest_concat (operations : List (Operation Key Value)) (op : Operation Key Value) :
    latest key (operations ++ [op]) = op.after key (latest key operations) := by
  simp [latest]

lemma after_mono {before current : Option Value}
    (hle : ∀ value, before = some value → current = some value)
    (hafter : op.after key before = some stored) : op.after key current = some stored := by
  cases op with
  | put y value =>
    simp only [Operation.after] at hafter ⊢
    split_ifs at hafter ⊢
    · exact hafter
    · exact hle stored hafter
  | get y => exact hle stored hafter
  | erase y =>
    simp only [Operation.after] at hafter ⊢
    split_ifs at hafter ⊢
    exact hle stored hafter

/-- What the cache holds after any calls was put last and not erased since. -/
lemma run_value (hardwareConcurrency cap sliceNum : ℕ) (operations : List (Operation Key Value))
    (hvalue : (run (step hash) (new hardwareConcurrency cap sliceNum) operations).value hash key =
      some stored) : latest key operations = some stored := by
  induction operations using reverseRecOn generalizing stored with
  | nil =>
    have hempty : (new hardwareConcurrency cap sliceNum : HashArcCache Key Value).value hash key =
        none := by
      unfold value new
      split_ifs with hcap
      · rfl
      · rw [Option.bind_eq_none_iff]
        intro slice hslice
        obtain ⟨index, -, rfl⟩ := mem_map.mp (mem_of_getElem? hslice)
        rfl
    rw [run_nil, hempty] at hvalue
    cases hvalue
  | append_singleton operations op ih =>
    rw [run_concat] at hvalue
    rw [latest_concat]
    exact after_mono (fun value => ih)
      (step_value (run_wellFormed hash hardwareConcurrency cap sliceNum operations).1 op hvalue)

lemma value_step_of_slice (h : cache.WellFormed) (hnum : cache.sliceNum ≠ 0)
    (op : Operation Key Value)
    (hkept : ∀ slice : ArcCache Key Value, slice.WellFormed → slice.capacity ≠ 0 →
      slice.view.value (target op) = cache.value hash (target op) →
      (slice.step op).view.value (target op) = some stored) :
    (cache.step hash op).value hash (target op) = some stored := by
  obtain ⟨slice, hslice, hwell, hcap⟩ := h.exists_slice hash hnum (target op)
  rw [step_eq hnum op hslice, value_withSlice h hnum, if_pos rfl]
  refine hkept slice hwell hcap ?_
  rw [value, hslice]
  rfl

lemma latest_erase_append (early late : List (Operation Key Value))
    (hlate : ∀ value, .put key value ∉ late) : latest key (early ++ .erase key :: late) = none := by
  induction late using reverseRecOn with
  | nil =>
    rw [latest_concat]
    exact if_pos rfl
  | append_singleton late op ih =>
    rw [← cons_append, ← append_assoc, latest_concat,
      ih fun value hmem => hlate value (mem_append_left _ hmem)]
    cases op with
    | put y value =>
      have hne : y ≠ key := by
        rintro rfl
        exact hlate value (by simp)
      simp [Operation.after, hne]
    | get y => rfl
    | erase y => simp [Operation.after]

/-- A get returns only the value of the last put of its key that no erase has
followed. With a capacity, the get right after a put of the key, or after a get
that found it, finds it; after an erase no get does until the next put. -/
theorem hashArcCache_coherent (hash : Key → ℕ) (hardwareConcurrency cap sliceNum : ℕ)
    (operations : List (Operation Key Value)) (key : Key) :
    (∀ value, ((run (step hash) (new hardwareConcurrency cap sliceNum) operations).get
        hash key).1 = some value → latest key operations = some value) ∧
      (1 ≤ cap → ∀ value, ((run (step hash) (new hardwareConcurrency cap sliceNum)
        (operations ++ [.put key value])).get hash key).1 = some value) ∧
      (1 ≤ cap → ∀ value, ((run (step hash) (new hardwareConcurrency cap sliceNum) operations).get
          hash key).1 = some value → ((run (step hash) (new hardwareConcurrency cap sliceNum)
          (operations ++ [.get key])).get hash key).1 = some value) ∧
      ∀ late, (∀ value, .put key value ∉ late) →
        ((run (step hash) (new hardwareConcurrency cap sliceNum)
          (operations ++ .erase key :: late)).get hash key).1 = none := by
  have hwell := fun operations : List (Operation Key Value) =>
    (run_wellFormed hash hardwareConcurrency cap sliceNum operations).1
  have hnum : 1 ≤ cap → (run (step hash) (new hardwareConcurrency cap sliceNum)
      operations).sliceNum ≠ 0 := by
    intro hcap
    rw [(run_wellFormed hash hardwareConcurrency cap sliceNum operations).2]
    exact new_sliceNum_ne_zero _ _ (by omega)
  refine ⟨fun value hfound => ?_, fun hcap value => ?_, fun hcap value hfound => ?_,
    fun late hlate => ?_⟩
  · rw [get_fst (hwell operations)] at hfound
    exact run_value hardwareConcurrency cap sliceNum operations hfound
  · rw [get_fst (hwell _), run_concat]
    refine value_step_of_slice (hwell operations) (hnum hcap) (.put key value) ?_
    intro slice hslice hslice_cap _
    exact (ArcCache.put_spec hslice hslice_cap key value).2.value_self
  · rw [get_fst (hwell operations)] at hfound
    rw [get_fst (hwell _), run_concat]
    refine value_step_of_slice (hwell operations) (hnum hcap) (.get key) ?_
    intro slice hslice _ hsame
    exact (ArcCache.get_spec hslice key).2.2.1.trans (hsame.trans hfound)
  · rw [get_fst (hwell _)]
    cases hvalue : (run (step hash) (new hardwareConcurrency cap sliceNum)
        (operations ++ .erase key :: late)).value hash key with
    | none => rfl
    | some stored =>
      have hlatest := run_value hardwareConcurrency cap sliceNum _ hvalue
      rw [latest_erase_append operations late hlate] at hlatest
      cases hlatest

theorem hashArcCache_coherent_twoSlices :
    ((run (step id) (new 0 2 2 : HashArcCache ℕ ℕ) [.put 1 7]).get id 1).1 = some 7 ∧
      ((run (step id) (new 0 2 2 : HashArcCache ℕ ℕ) [.put 1 7, .get 1]).get id 1).1 = some 7 ∧
      ((run (step id) (new 0 2 2 : HashArcCache ℕ ℕ) [.put 1 7, .erase 1, .put 3 8]).get id 1).1 =
        none ∧ latest 1 ([.put 1 7] : List (Operation ℕ ℕ)) = some 7 := by
  have hfound := (hashArcCache_coherent id 0 2 2 [] 1).2.1 (by decide) 7
  have hcoherent := hashArcCache_coherent id 0 2 2 [.put 1 7] 1
  exact ⟨hfound, hcoherent.2.2.1 (by decide) 7 hfound,
    hcoherent.2.2.2 [.put 3 8] (by simp), hcoherent.1 7 hfound⟩

end HashArcCache

end Tlss.Cache
