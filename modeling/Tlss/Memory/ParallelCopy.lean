import Mathlib.Data.List.Nodup
import Mathlib.Data.Int.Notation

/-!
# Copying with a pool of workers

`execute_parallel_copy` looks up the workers of the caller's CPU, cuts the range into an
unaligned head, a body of whole blocks and a tail, and gives every worker some blocks of the
body. The caller copies the tail while the workers are at theirs.

A call is modelled by the calls of the copy kernels it makes, in the order in which they end;
for the workers and the tail this is any order (`Schedule`). Since all of them read the source,
which nobody writes, it only matters what they cover (`foldl_apply`).
-/

namespace Tlss.Memory

open List

/-! ## Workers -/

inductive CpuCoreType where
  | unknown
  | intelCore
  | intelAtom
deriving DecidableEq

structure PhysicalCore where
  packageId : ℤ
  coreId : ℤ
  coreType : CpuCoreType
  logicalCpuIds : List ℤ

/-- `CpuTopology`; of the CPUs only the ids are used. -/
structure CpuTopology where
  cpuIds : List ℤ
  physicalCores : List PhysicalCore

def PhysicalCore.worker? (core : PhysicalCore) : Option ℤ :=
  if core.coreType = .intelCore then core.logicalCpuIds.head? else none

namespace CpuTopology

variable (topology : CpuTopology)

def findPhysicalCore (cpu : ℤ) : Option PhysicalCore :=
  topology.physicalCores.find? fun core => cpu ∈ core.logicalCpuIds

def selectMasterWorkerCpuIds : List ℤ := topology.physicalCores.filterMap PhysicalCore.worker?

/-- The `intel_core_cpu_ids` of `select_worker_candidates`: not those of the caller's core. -/
def selectWorkerCandidates (caller : ℤ) : List ℤ :=
  (topology.physicalCores.filter fun core => !(topology.findPhysicalCore caller).any fun other =>
    core.packageId = other.packageId && core.coreId = other.coreId).filterMap PhysicalCore.worker?

def selectActiveWorkers (selected : List ℤ) : List ℕ :=
  selected.filterMap fun cpu => topology.selectMasterWorkerCpuIds.findIdx? (· = cpu)

/-- `find_runtime_worker_plan` on what `build_runtime_worker_plans` has built: the workers for a
desired number, if the plan of the caller's CPU is valid. -/
def runtimeWorkers (caller : ℤ) (desired : ℕ) : Option (List ℕ) :=
  let selected count := (topology.selectWorkerCandidates caller).take count
  let active count := topology.selectActiveWorkers (selected count)
  if 0 ≤ caller ∧ caller ∈ topology.cpuIds ∧ (active 4).length = (selected 4).length ∧
      (active 8).length = (selected 8).length then
    if desired = 4 then some (active 4) else if desired = 8 then some (active 8) else none
  else none

end CpuTopology

/-! ## Ranges -/

structure CopyPartition where
  prefixSize : ℕ
  bodySize : ℕ
  tailSize : ℕ

/-- The `prefix_size` of `make_copy_partition`: the bytes up to an aligned address. -/
def headSize (dst size : ℕ) : ℕ :=
  min (if dst % 32 ≠ 0 then 32 - dst % 32 else 0) size

def makeCopyPartition (dst size workerCount : ℕ) : CopyPartition :=
  if dst = 0 ∨ size = 0 ∨ workerCount = 0 then ⟨0, 0, 0⟩
  else
    let prefixSize := headSize dst size
    let remaining := size - prefixSize
    let blockCount := remaining / 8192
    if blockCount < workerCount then ⟨prefixSize, 0, remaining⟩
    else ⟨prefixSize, blockCount * 8192, remaining - blockCount * 8192⟩

structure CopyTask where
  dst : ℕ
  src : ℕ
  size : ℕ

def part (dst src offset size : ℕ) : List CopyTask :=
  if size ≠ 0 then [⟨dst + offset, src + offset, size⟩] else []

def directNtCopy (dst src size : ℕ) : List CopyTask :=
  let partition := makeCopyPartition dst size 1
  if partition.bodySize = 0 then part dst src 0 size
  else part dst src 0 partition.prefixSize ++
    part dst src partition.prefixSize partition.bodySize ++
    part dst src (partition.prefixSize + partition.bodySize) partition.tailSize

/-! ## The pool -/

structure ParallelCopyPool where
  workerCount : ℕ
  stopping : Bool
  taskInFlight : Bool

def validateRequest (dst src size : ℕ) : Except String Unit :=
  if dst = 0 then .error "dst must not be null"
  else if src = 0 then .error "src must not be null"
  else if size = 0 then .error "size must be greater than zero"
  else if dst % 32 ≠ 0 then .error "dst must be 32-byte aligned"
  else if size % 8192 ≠ 0 then .error "copy size must be divisible by 8192 bytes"
  else .ok ()

def checkWorkers (workerCount : ℕ) : List ℕ → Except String Unit
  | [] => .ok ()
  | worker :: workers =>
    if workerCount ≤ worker then .error "active worker index out of range"
    else if worker ∈ workers then .error "duplicate active worker index"
    else checkWorkers workerCount workers

/-- The loop of `dispatch_copy` over the ranks: the tasks of the workers, and the offset. -/
def assign (base extra dst src : ℕ) : ℕ → ℕ → List ℕ → List (ℕ × CopyTask) × ℕ
  | _, offset, [] => ([], offset)
  | rank, offset, worker :: workers =>
    let size := (base + if rank < extra then 1 else 0) * 8192
    let rest := assign base extra dst src (rank + 1) (offset + size) workers
    ((worker, ⟨dst + offset, src + offset, size⟩) :: rest.1, rest.2)

def dispatchCopy (pool : ParallelCopyPool) (active : List ℕ) (dst src size : ℕ) :
    Except String (List (ℕ × CopyTask)) := do
  validateRequest dst src size
  if active = [] then throw "active worker set is empty"
  checkWorkers pool.workerCount active
  let blockCount := size / 8192
  if blockCount < active.length then throw "not enough NT blocks for active workers"
  if pool.stopping then throw "parallel copy pool is stopping"
  if pool.taskInFlight then throw "previous copy task is still in flight"
  let assigned :=
    assign (blockCount / active.length) (blockCount % active.length) dst src 0 0 active
  if assigned.2 ≠ size then throw "parallel copy task partition mismatch"
  return assigned.1

/-- The order in which kernels that run at the same time end. -/
structure Schedule where
  order : List CopyTask → List CopyTask
  perm : ∀ tasks, (order tasks).Perm tasks

def parallelNtCopy (pool : ParallelCopyPool) (schedule : Schedule) (active : List ℕ)
    (dst src size : ℕ) : Except String (List CopyTask) := do
  if size = 0 then return []
  if active = [] then return part dst src 0 size
  let partition := makeCopyPartition dst size active.length
  let head := part dst src 0 partition.prefixSize
  if partition.bodySize = 0 then return head ++ part dst src 0 size
  let tasks ← dispatchCopy pool active (dst + partition.prefixSize) (src + partition.prefixSize)
    partition.bodySize
  let tail := part dst src (partition.prefixSize + partition.bodySize) partition.tailSize
  return head ++ schedule.order (tail ++ tasks.map Prod.snd)

/-- The pool of a runtime while no call holds `master_pool_busy_`: every call that has
dispatched a copy has waited for it. -/
def masterPool (topology : CpuTopology) : ParallelCopyPool :=
  ⟨topology.selectMasterWorkerCpuIds.length, false, false⟩

/-- `MemoryRuntime::execute_parallel_copy`; `busy` if another call has the pool. -/
def executeParallelCopy (topology : CpuTopology) (schedule : Schedule) (caller : ℤ)
    (desired : ℕ) (busy : Bool) (dst src size : ℕ) : Except String (List CopyTask) :=
  match topology.runtimeWorkers caller desired with
  | none => .ok (directNtCopy dst src size)
  | some active =>
    if active.length < 2 ∨ busy then .ok (directNtCopy dst src size)
    else parallelNtCopy (masterPool topology) schedule active dst src size

/-! ## What the kernels write -/

abbrev Contents := ℕ → UInt8

def CopyTask.covers (task : CopyTask) (address : ℕ) : Prop :=
  task.dst ≤ address ∧ address < task.dst + task.size

instance (task : CopyTask) (address : ℕ) : Decidable (task.covers address) :=
  inferInstanceAs (Decidable (_ ∧ _))

def CopyTask.apply (memory : Contents) (task : CopyTask) : Contents := fun address =>
  if task.covers address then memory (task.src + (address - task.dst)) else memory address

def PartOf (dst src size : ℕ) (task : CopyTask) : Prop :=
  ∃ offset, task.dst = dst + offset ∧ task.src = src + offset ∧ offset + task.size ≤ size

variable {dst src size workerCount : ℕ} {tasks : List CopyTask} {active : List ℕ}
  {topology : CpuTopology}

lemma foldl_apply (hapart : dst + size ≤ src ∨ src + size ≤ dst)
    (htasks : ∀ t ∈ tasks, PartOf dst src size t) (memory : Contents) (addr : ℕ) :
    tasks.foldl CopyTask.apply memory addr =
      if ∃ t ∈ tasks, t.covers addr then memory (src + (addr - dst)) else memory addr := by
  induction tasks generalizing memory with
  | nil => simp
  | cons t tasks ih =>
    obtain ⟨⟨off, hdst, hsrc, hsize⟩, hrest⟩ := forall_mem_cons.mp htasks
    rw [foldl_cons, ih hrest]
    simp only [exists_mem_cons_iff]
    by_cases hlater : ∃ other ∈ tasks, other.covers addr
    · -- the byte of the source is not touched by the first task
      rw [if_pos hlater, if_pos (.inr hlater)]
      obtain ⟨other, hmem, hcovers⟩ := hlater
      obtain ⟨offset', hdst', -, hsize'⟩ := hrest other hmem
      refine if_neg fun hfirst => ?_
      simp only [CopyTask.covers] at hcovers hfirst
      omega
    · rw [if_neg hlater]
      by_cases hfirst : t.covers addr
      · rw [if_pos (.inl hfirst), CopyTask.apply, if_pos hfirst, hdst, hsrc]
        simp only [CopyTask.covers] at hfirst
        congr 1
        omega
      · rw [if_neg (by simp [hfirst, hlater]), CopyTask.apply, if_neg hfirst]

/-- Parts of the copy that cover it. -/
structure Copies (dst src size : ℕ) (tasks : List CopyTask) : Prop where
  partOf : ∀ task ∈ tasks, PartOf dst src size task
  covered : ∀ offset < size, ∃ task ∈ tasks, task.covers (dst + offset)

lemma Copies.perm {others : List CopyTask} (h : Copies dst src size tasks)
    (hperm : others.Perm tasks) : Copies dst src size others where
  partOf t hmem := h.partOf t (hperm.mem_iff.mp hmem)
  covered off hlt := (h.covered off hlt).imp fun _ => And.imp_left hperm.mem_iff.mpr

lemma Copies.memcpy (h : Copies dst src size tasks)
    (hapart : dst + size ≤ src ∨ src + size ≤ dst) (memory : Contents) (addr : ℕ) :
    tasks.foldl CopyTask.apply memory addr =
      if dst ≤ addr ∧ addr < dst + size then memory (src + (addr - dst)) else memory addr := by
  rw [foldl_apply hapart h.partOf]
  refine if_congr ⟨?_, fun hin => ?_⟩ rfl rfl
  · rintro ⟨t, hmem, hcovers⟩
    obtain ⟨off, hdst, -, hsize⟩ := h.partOf t hmem
    simp only [CopyTask.covers] at hcovers
    omega
  · have hcovered := h.covered (addr - dst) (by omega)
    rwa [Nat.add_sub_cancel' hin.1] at hcovered

inductive Tiles (dst src : ℕ) : ℕ → ℕ → List CopyTask → Prop
  | nil (offset : ℕ) : Tiles dst src offset offset []
  | cons {offset size final : ℕ} {tasks : List CopyTask}
      (hrest : Tiles dst src (offset + size) final tasks) :
      Tiles dst src offset final (⟨dst + offset, src + offset, size⟩ :: tasks)

namespace Tiles

variable {off middle final : ℕ} {more : List CopyTask}

lemma le (h : Tiles dst src off final tasks) : off ≤ final := by
  induction h with
  | nil => exact Nat.le_refl _
  | cons _ ih => omega

lemma append (h : Tiles dst src off middle tasks) (hmore : Tiles dst src middle final more) :
    Tiles dst src off final (tasks ++ more) := by
  induction h with
  | nil => exact hmore
  | cons _ ih => exact .cons (ih hmore)

lemma part (dst src off size : ℕ) : Tiles dst src off (off + size) (part dst src off size) :=
  iteInduction (fun _ => .cons (.nil _)) fun hzero => by
    obtain rfl : size = 0 := by simpa using hzero
    exact .nil _

lemma bounds (h : Tiles dst src off final tasks) {t : CopyTask} (hmem : t ∈ tasks) :
    ∃ start, t.dst = dst + start ∧ t.src = src + start ∧ off ≤ start ∧ start + t.size ≤ final := by
  induction h with
  | nil => cases hmem
  | cons hrest ih =>
    rcases mem_cons.mp hmem with rfl | hmem
    · exact ⟨_, rfl, rfl, Nat.le_refl _, hrest.le⟩
    · obtain ⟨start, hdst, hsrc, hle, hfinal⟩ := ih hmem
      exact ⟨start, hdst, hsrc, by omega, hfinal⟩

lemma covered (h : Tiles dst src off final tasks) {place : ℕ} (hle : off ≤ place)
    (hlt : place < final) : ∃ t ∈ tasks, t.covers (dst + place) := by
  induction h with
  | nil => omega
  | @cons off size final tasks _ ih =>
    by_cases hfirst : place < off + size
    · refine ⟨_, mem_cons_self, ?_⟩
      simp only [CopyTask.covers]
      omega
    · obtain ⟨t, hmem, hcovers⟩ := ih (by omega) hlt
      exact ⟨t, mem_cons_of_mem _ hmem, hcovers⟩

lemma disjoint (h : Tiles dst src off final tasks) :
    tasks.Pairwise fun left right => left.dst + left.size ≤ right.dst := by
  induction h with
  | nil => exact .nil
  | cons hrest ih =>
    refine .cons (fun t hmem => ?_) ih
    obtain ⟨start, hdst, -, hle, -⟩ := hrest.bounds hmem
    simp only [hdst]
    omega

lemma shift {start : ℕ} (h : Tiles (dst + start) (src + start) off final tasks) :
    Tiles dst src (start + off) (start + final) tasks := by
  induction h with
  | nil => exact .nil _
  | cons _ ih =>
    rw [Nat.add_assoc dst, Nat.add_assoc src]
    rw [← Nat.add_assoc] at ih
    exact .cons ih

lemma copies (h : Tiles dst src 0 size tasks) : Copies dst src size tasks where
  partOf t hmem := by
    obtain ⟨start, hdst, hsrc, -, hfinal⟩ := h.bounds hmem
    exact ⟨start, hdst, hsrc, hfinal⟩
  covered _ hlt := h.covered (Nat.zero_le _) hlt

end Tiles

/-! ## The parts of a call -/

lemma headSize_spec (dst size : ℕ) :
    headSize dst size ≤ size ∧ ((dst + headSize dst size) % 32 = 0 ∨ headSize dst size = size) := by
  unfold headSize
  split_ifs <;> omega

lemma makeCopyPartition_spec
    (hbody : (makeCopyPartition dst size workerCount).bodySize ≠ 0) :
    let partition := makeCopyPartition dst size workerCount
    partition.prefixSize + partition.bodySize + partition.tailSize = size ∧
      (dst + partition.prefixSize) % 32 = 0 ∧ partition.bodySize % 8192 = 0 ∧
      workerCount ≤ partition.bodySize / 8192 ∧ dst ≠ 0 ∧ workerCount ≠ 0 := by
  obtain ⟨hle, haligned⟩ := headSize_spec dst size
  unfold makeCopyPartition at hbody ⊢
  generalize headSize dst size = head at hbody hle haligned ⊢
  by_cases hnone : dst = 0 ∨ size = 0 ∨ workerCount = 0
  · rw [if_pos hnone] at hbody
    exact absurd rfl hbody
  · by_cases hfew : (size - head) / 8192 < workerCount
    · rw [if_neg hnone, if_pos hfew] at hbody
      exact absurd rfl hbody
    · rw [if_neg hnone, if_neg hfew] at hbody ⊢
      dsimp only at hbody ⊢
      omega

lemma prefixSize_le (dst size workerCount : ℕ) :
    (makeCopyPartition dst size workerCount).prefixSize ≤ size := by
  have hle := (headSize_spec dst size).1
  unfold makeCopyPartition
  dsimp only
  split_ifs
  · exact Nat.zero_le _
  · exact hle
  · exact hle

lemma part_copies (dst src size : ℕ) : Copies dst src size (part dst src 0 size) := by
  have htiles := Tiles.part dst src 0 size
  rw [Nat.zero_add] at htiles
  exact htiles.copies

lemma Tiles.parts {first body last : ℕ} (hsum : first + body + last = size)
    (hbody : Tiles dst src first (first + body) tasks) : Tiles dst src 0 size
      (Memory.part dst src 0 first ++ (tasks ++ Memory.part dst src (first + body) last)) := by
  have hhead := Tiles.part dst src 0 first
  rw [Nat.zero_add] at hhead
  exact hhead.append (hbody.append (hsum ▸ .part ..))

lemma directNtCopy_copies (dst src size : ℕ) : Copies dst src size (directNtCopy dst src size) := by
  unfold directNtCopy
  by_cases hbody : (makeCopyPartition dst size 1).bodySize = 0
  · rw [if_pos hbody]
    exact part_copies ..
  rw [if_neg hbody, append_assoc]
  exact (Tiles.parts (makeCopyPartition_spec hbody).1 (.part ..)).copies

lemma assign_spec (base extra : ℕ) (workers : List ℕ) (rank off : ℕ) :
    let assigned := assign base extra dst src rank off workers
    Tiles dst src off assigned.2 (assigned.1.map Prod.snd) ∧ assigned.1.map Prod.fst = workers ∧
      assigned.2 = off + (base * workers.length + min (extra - rank) workers.length) * 8192 ∧
      (off % 8192 = 0 → ∀ t ∈ assigned.1.map Prod.snd, base * 8192 ≤ t.size ∧
        t.size % 8192 = 0 ∧ (t.dst - dst) % 8192 = 0 ∧ dst ≤ t.dst) := by
  induction workers generalizing rank off with
  | nil => simp [assign, Tiles.nil]
  | cons wk workers ih =>
    obtain ⟨htiles, hworkers, hfinal, hsizes⟩ :=
      ih (rank + 1) (off + (base + if rank < extra then 1 else 0) * 8192)
    refine ⟨.cons htiles, congrArg (wk :: ·) hworkers, ?_, fun hoffset => ?_⟩
    · change (assign base extra dst src (rank + 1) _ workers).2 = _
      rw [hfinal, length_cons, Nat.mul_add base, Nat.mul_one]
      split_ifs <;> omega
    · refine forall_mem_cons.mpr ⟨?_, hsizes (by omega)⟩
      dsimp only
      omega

lemma checkWorkers_ok {workers : List ℕ} (hnodup : workers.Nodup)
    (hrange : ∀ wk ∈ workers, wk < workerCount) : checkWorkers workerCount workers = .ok () := by
  induction workers with
  | nil => rfl
  | cons wk workers ih =>
    obtain ⟨hnew, hrest⟩ := nodup_cons.mp hnodup
    obtain ⟨hfirst, hrange⟩ := forall_mem_cons.mp hrange
    rw [checkWorkers, if_neg (by omega), if_neg hnew]
    exact ih hrest hrange

/-- Each worker has one part, of whole blocks. -/
structure Dispatched (active : List ℕ) (dst src size : ℕ) (tasks : List (ℕ × CopyTask)) : Prop where
  workers : tasks.map Prod.fst = active
  tiles : Tiles dst src 0 size (tasks.map Prod.snd)
  blocks : ∀ task ∈ tasks.map Prod.snd, 0 < task.size ∧ 8192 ∣ task.size ∧ 32 ∣ task.dst

lemma dispatchCopy_ok (hnodup : active.Nodup)
    (hrange : ∀ wk ∈ active, wk < topology.selectMasterWorkerCpuIds.length)
    (hactive : active ≠ []) (hdst : dst ≠ 0) (hsrc : src ≠ 0) (haligned : dst % 32 = 0)
    (hblocks : size % 8192 = 0) (henough : active.length ≤ size / 8192) :
    ∃ tasks, dispatchCopy (masterPool topology) active dst src size = .ok tasks ∧
      Dispatched active dst src size tasks := by
  have hpositive : 0 < active.length := length_pos_iff.mpr hactive
  have hbase : 1 ≤ size / 8192 / active.length := (Nat.one_le_div_iff hpositive).mpr henough
  have hsum := Nat.div_add_mod (size / 8192) active.length
  have hextra := Nat.mod_lt (size / 8192) hpositive
  obtain ⟨htiles, hworkers, hfinal, hsizes⟩ := @assign_spec dst src (size / 8192 / active.length)
    (size / 8192 % active.length) active 0 0
  have hall : (assign (size / 8192 / active.length) (size / 8192 % active.length) dst src 0 0
      active).2 = size := by
    rw [hfinal, Nat.mul_comm (size / 8192 / active.length), Nat.sub_zero,
      Nat.min_eq_left (Nat.le_of_lt hextra), hsum]
    omega
  rw [hall] at htiles
  refine ⟨_, ?_, hworkers, htiles, fun t hmem => ?_⟩
  · have hcheck := checkWorkers_ok hnodup hrange
    have hrequest : validateRequest dst src size = .ok () := by
      simp only [validateRequest, hdst, hsrc, haligned, hblocks]
      rw [if_neg (by simp), if_neg (by simp), if_neg (by omega)]
      rfl
    have hnot : ¬ size / 8192 < active.length := Nat.not_lt.mpr henough
    simp only [dispatchCopy, masterPool, hrequest, hcheck, hactive, hnot, hall, ne_eq,
      not_true_eq_false, Bool.false_eq_true, if_false]
    rfl
  · obtain ⟨hbig, hmultiple, hplace, hle⟩ := hsizes rfl t hmem
    refine ⟨?_, Nat.dvd_of_mod_eq_zero hmultiple, Nat.dvd_of_mod_eq_zero (by omega)⟩
    omega

/-! ## The workers of a plan -/

lemma nodup_worker? {cores : List PhysicalCore}
    (h : cores.Pairwise (Function.onFun List.Disjoint PhysicalCore.logicalCpuIds)) :
    (cores.filterMap PhysicalCore.worker?).Nodup := by
  refine pairwise_filterMap.mpr (h.imp ?_)
  intro core other hdisjoint cpu hcpu cpu' hcpu' heq
  have hmem : ∀ {core : PhysicalCore} {cpu : ℤ}, core.worker? = some cpu →
      cpu ∈ core.logicalCpuIds := by
    intro core cpu hworker
    unfold PhysicalCore.worker? at hworker
    split_ifs at hworker
    exact mem_of_head? hworker
  exact hdisjoint (hmem hcpu) (heq ▸ hmem hcpu')

lemma selectActiveWorkers_spec (topology : CpuTopology) {selected : List ℤ}
    (hselected : selected.Nodup) : (topology.selectActiveWorkers selected).Nodup ∧
      ∀ wk ∈ topology.selectActiveWorkers selected,
        wk < topology.selectMasterWorkerCpuIds.length := by
  constructor
  · refine hselected.filterMap fun cpu cpu' wk hcpu hcpu' => ?_
    obtain ⟨hlt, hfound, -⟩ := findIdx?_eq_some_iff_getElem.mp hcpu
    obtain ⟨_, hfound', _⟩ := findIdx?_eq_some_iff_getElem.mp hcpu'
    exact (of_decide_eq_true hfound).symm.trans (of_decide_eq_true hfound')
  · intro wk hmem
    obtain ⟨cpu, -, hcpu⟩ := mem_filterMap.mp hmem
    exact (findIdx?_eq_some_iff_getElem.mp hcpu).1

section

variable {caller : ℤ} {desired : ℕ}
  (hdistinct : (topology.physicalCores.flatMap PhysicalCore.logicalCpuIds).Nodup)
  (hactive : topology.runtimeWorkers caller desired = some active)
include hdistinct hactive

lemma runtimeWorkers_spec :
    active.Nodup ∧ ∀ wk ∈ active, wk < topology.selectMasterWorkerCpuIds.length := by
  have hcandidates : (topology.selectWorkerCandidates caller).Nodup :=
    nodup_worker? ((nodup_flatMap.mp hdistinct).2.filter _)
  unfold CpuTopology.runtimeWorkers at hactive
  dsimp only at hactive
  split_ifs at hactive
  all_goals
    cases hactive
    exact selectActiveWorkers_spec topology (hcandidates.sublist (take_sublist _ _))

variable (hsrc : src ≠ 0)
include hsrc

lemma dispatch_plan (hbody : (makeCopyPartition dst size active.length).bodySize ≠ 0) :
    let partition := makeCopyPartition dst size active.length
    ∃ tasks, dispatchCopy (masterPool topology) active (dst + partition.prefixSize)
        (src + partition.prefixSize) partition.bodySize = .ok tasks ∧
      Dispatched active (dst + partition.prefixSize) (src + partition.prefixSize)
        partition.bodySize tasks := by
  obtain ⟨-, haligned, hblocks, henough, hdst, hcount⟩ := makeCopyPartition_spec hbody
  obtain ⟨hnodup, hrange⟩ := runtimeWorkers_spec hdistinct hactive
  exact dispatchCopy_ok hnodup hrange (fun hnil => hcount (by rw [hnil]; rfl)) (by omega)
    (by omega) haligned hblocks henough

lemma parallelNtCopy_copies (schedule : Schedule) :
    ∃ tasks, parallelNtCopy (masterPool topology) schedule active dst src size = .ok tasks ∧
      Copies dst src size tasks := by
  unfold parallelNtCopy
  by_cases hsize : size = 0
  · subst hsize
    exact ⟨_, if_pos rfl, (Tiles.nil 0).copies⟩
  rw [if_neg hsize]
  by_cases hnil : active = []
  · exact ⟨_, if_pos hnil, part_copies ..⟩
  rw [if_neg hnil]
  by_cases hbody : (makeCopyPartition dst size active.length).bodySize = 0
  · -- the head is copied twice
    have hle := prefixSize_le dst size active.length
    have hwhole := part_copies dst src size
    refine ⟨_, if_pos hbody, fun t hmem => ?_, fun off hlt => ?_⟩
    · rcases mem_append.mp hmem with hmem | hmem
      · obtain ⟨start, hdst, hsrc, -, hfinal⟩ := (Tiles.part ..).bounds hmem
        exact ⟨start, hdst, hsrc, by omega⟩
      · exact hwhole.partOf t hmem
    · obtain ⟨t, hmem, hcovers⟩ := hwhole.covered off hlt
      exact ⟨t, mem_append_right _ hmem, hcovers⟩
  · obtain ⟨tasks, hok, -, htiles, -⟩ := dispatch_plan hdistinct hactive hsrc hbody
    refine ⟨_, (if_neg hbody).trans (by rw [hok]; rfl), ?_⟩
    refine (Tiles.parts (makeCopyPartition_spec hbody).1 htiles.shift).copies.perm ?_
    exact ((schedule.perm _).trans perm_append_comm).append_left _

end

/-! ## The whole call -/

/-- `execute_parallel_copy` is `memcpy`, for every address, size, topology and caller, whoever has
the pool and however the kernels are scheduled. Where the workers copy a body their segments lie
side by side and cover it, each some blocks at an aligned address. -/
theorem parallel_copy_eq_memcpy (topology : CpuTopology)
    (hdistinct : (topology.physicalCores.flatMap PhysicalCore.logicalCpuIds).Nodup)
    (schedule : Schedule) (caller : ℤ) (desired : ℕ) (busy : Bool) (dst src size : ℕ)
    (hapart : dst + size ≤ src ∨ src + size ≤ dst) (hsrc : src ≠ 0) :
    (∃ tasks, executeParallelCopy topology schedule caller desired busy dst src size = .ok tasks ∧
      ∀ memory address, tasks.foldl CopyTask.apply memory address =
        if dst ≤ address ∧ address < dst + size then memory (src + (address - dst))
        else memory address) ∧
    ∀ active, topology.runtimeWorkers caller desired = some active →
      let partition := makeCopyPartition dst size active.length
      partition.bodySize ≠ 0 →
        partition.prefixSize + partition.bodySize + partition.tailSize = size ∧
        ∃ tasks, dispatchCopy (masterPool topology) active (dst + partition.prefixSize)
            (src + partition.prefixSize) partition.bodySize = .ok tasks ∧
          tasks.map Prod.fst = active ∧
          ((tasks.map Prod.snd).Pairwise fun left right => left.dst + left.size ≤ right.dst) ∧
          (∀ address, (∃ task ∈ tasks.map Prod.snd, task.covers address) ↔
            dst + partition.prefixSize ≤ address ∧
              address < dst + partition.prefixSize + partition.bodySize) ∧
          ∀ task ∈ tasks.map Prod.snd, 0 < task.size ∧ 8192 ∣ task.size ∧ 32 ∣ task.dst := by
  constructor
  · have hdirect : ∃ tasks, Except.ok (directNtCopy dst src size) = Except.ok (ε := String) tasks ∧
        Copies dst src size tasks := ⟨_, rfl, directNtCopy_copies ..⟩
    obtain ⟨tasks, hok, hcopies⟩ : ∃ tasks, executeParallelCopy topology schedule caller desired
        busy dst src size = .ok tasks ∧ Copies dst src size tasks := by
      unfold executeParallelCopy
      cases hactive : topology.runtimeWorkers caller desired with
      | none => exact hdirect
      | some active =>
        dsimp only
        split_ifs
        · exact hdirect
        · exact parallelNtCopy_copies hdistinct hactive hsrc schedule
    exact ⟨tasks, hok, hcopies.memcpy hapart⟩
  · intro active hactive
    dsimp only
    intro hbody
    obtain ⟨tasks, hok, hworkers, htiles, hblocks⟩ := dispatch_plan hdistinct hactive hsrc hbody
    refine ⟨(makeCopyPartition_spec hbody).1, tasks, hok, hworkers, htiles.disjoint, ?_, hblocks⟩
    intro address
    constructor
    · rintro ⟨task, hmem, hcovers⟩
      obtain ⟨start, hdst, -, -, hfinal⟩ := htiles.bounds hmem
      simp only [CopyTask.covers] at hcovers
      omega
    · intro hin
      have hcovered := htiles.covered (Nat.zero_le (address -
        (dst + (makeCopyPartition dst size active.length).prefixSize))) (by omega)
      rwa [Nat.add_sub_cancel' hin.1] at hcovered

def threeCores : CpuTopology :=
  ⟨[0, 1, 2], [⟨0, 0, .intelCore, [0]⟩, ⟨0, 1, .intelCore, [1]⟩, ⟨0, 2, .intelCore, [2]⟩]⟩

theorem parallel_copy_eq_memcpy_threeCores : threeCores.runtimeWorkers 0 4 = some [1, 2] ∧
      ∃ tasks, executeParallelCopy threeCores ⟨id, fun _ => .refl _⟩ 0 4 false 40 100000 16500 =
        .ok tasks ∧ ∀ memory address, tasks.foldl CopyTask.apply memory address =
          if 40 ≤ address ∧ address < 40 + 16500 then memory (100000 + (address - 40))
          else memory address :=
  ⟨by decide, (parallel_copy_eq_memcpy threeCores (by decide) ⟨id, fun _ => .refl _⟩ 0 4 false 40
    100000 16500 (.inl (by decide)) (by decide)).1⟩

end Tlss.Memory
