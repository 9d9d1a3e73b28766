import Mathlib.Data.List.NodupEquivFin

/-!
# Directories that reach the disk only when they are synced

A directory has the entries a program sees, in the order an iterator would
return them, and for every change since the last sync the entry it replaced.
A power loss may bring any of those back: each name ends up with the entry that
was visible or with one of the unsynced ones. A crash of the program alone
changes nothing, since the system keeps what the program saw.

Everything a power loss can do to a name is collected in `MayHold`. A name is
durable, `Durable`, if only one content is left for it; syncing makes it so, and
from then on only an operation on that very name can change it.
-/

namespace Tlss.Library

open List Option

variable {ν γ : Type*}

/-- A directory with its entries and the entries that changes have replaced
since they were last synced. -/
structure DurableDirectory (ν γ : Type*) where
  files : List (ν × γ)
  nodup : (files.map Prod.fst).Nodup
  unsynced : List (ν × Option γ)

namespace DurableDirectory

def empty : DurableDirectory ν γ := ⟨[], nodup_nil, []⟩

variable [DecidableEq ν]

def lookup (dir : DurableDirectory ν γ) (name : ν) : Option γ :=
  (dir.files.find? fun entry => entry.1 == name).map Prod.snd

def others (dir : DurableDirectory ν γ) (name : ν) : List (ν × γ) :=
  dir.files.filter fun entry => entry.1 != name

lemma nodup_others (d : DurableDirectory ν γ) (name : ν) : ((d.others name).map Prod.fst).Nodup :=
  d.nodup.sublist (filter_sublist.map Prod.fst)

lemma notMem_others (d : DurableDirectory ν γ) (name : ν) :
    name ∉ (d.others name).map Prod.fst := by
  simp [others]

/-- Give a name a new content: a file is created there or renamed to it. -/
def put (dir : DurableDirectory ν γ) (name : ν) (content : γ) : DurableDirectory ν γ where
  files := dir.others name ++ [(name, content)]
  nodup := by
    rw [map_append, nodup_append]
    refine ⟨dir.nodup_others name, by simp, ?_⟩
    intro left hleft right hright
    rw [map_singleton, mem_singleton] at hright
    subst hright
    rintro rfl
    exact dir.notMem_others _ hleft
  unsynced := (name, dir.lookup name) :: dir.unsynced

/-- Take a name away: the file is unlinked or renamed to another directory. -/
def drop (dir : DurableDirectory ν γ) (name : ν) : DurableDirectory ν γ where
  files := dir.others name
  nodup := dir.nodup_others name
  unsynced := (name, dir.lookup name) :: dir.unsynced

def sync (dir : DurableDirectory ν γ) (covered : ν → Bool) : DurableDirectory ν γ :=
  { dir with unsynced := dir.unsynced.filter fun entry => !covered entry.1 }

/-- The directory after a power loss in which nothing was brought back. -/
def settle (dir : DurableDirectory ν γ) : DurableDirectory ν γ :=
  { dir with unsynced := [] }

variable [DecidableEq γ]

/-- Give a name one of the contents a power loss may leave there. -/
def revert (dir : DurableDirectory ν γ) (choice : ν × Option γ) : DurableDirectory ν γ :=
  if choice ∈ dir.unsynced then
    match choice.2 with
    | some content => dir.put choice.1 content
    | none => dir.drop choice.1
  else dir

/-- A power loss that brings back the chosen unsynced entries, in turn. -/
def powerLoss (dir : DurableDirectory ν γ) (choices : List (ν × Option γ)) : DurableDirectory ν γ :=
  (choices.foldl revert dir).settle

omit [DecidableEq γ]

/-! ## Lookups -/

def MayHold (dir : DurableDirectory ν γ) (name : ν) (content : Option γ) : Prop :=
  dir.lookup name = content ∨ (name, content) ∈ dir.unsynced

def Durable (dir : DurableDirectory ν γ) (name : ν) (content : γ) : Prop :=
  ∀ other, dir.MayHold name other → other = some content

variable {d : DurableDirectory ν γ} {body : γ} {found : Option γ} {covered : ν → Bool}
  {name y : ν}

lemma lookup_eq_some_iff : d.lookup name = some body ↔ (name, body) ∈ d.files := by
  unfold lookup
  constructor
  · intro hget
    obtain ⟨e, hfind, rfl⟩ := map_eq_some_iff.mp hget
    have hname : e.1 = name := by simpa using find?_some hfind
    rw [← hname]
    exact mem_of_find?_eq_some hfind
  · intro hmem
    cases hfind : d.files.find? fun e => e.1 == name with
    | none =>
      have hnone := find?_eq_none.mp hfind (name, body) hmem
      simp at hnone
    | some e =>
      have hname : e.1 = name := by simpa using find?_some hfind
      have hentry : e = (name, body) :=
        inj_on_of_nodup_map d.nodup (mem_of_find?_eq_some hfind) hmem hname
      rw [hentry]
      rfl

lemma mem_others {e : ν × γ} : e ∈ d.others name ↔ e ∈ d.files ∧ e.1 ≠ name := by
  simp [others]

lemma lookup_congr {left right : DurableDirectory ν γ}
    (hmem : ∀ body, (name, body) ∈ left.files ↔ (y, body) ∈ right.files) :
    left.lookup name = right.lookup y := by
  apply ext
  intro body
  rw [lookup_eq_some_iff, lookup_eq_some_iff]
  exact hmem body

@[simp] lemma lookup_put_self (d : DurableDirectory ν γ) (name : ν) (body : γ) :
    (d.put name body).lookup name = some body := by
  rw [lookup_eq_some_iff]
  simp [put]

lemma lookup_put_of_ne (d : DurableDirectory ν γ) (body : γ)
    (hne : y ≠ name) : (d.put name body).lookup y = d.lookup y := by
  apply lookup_congr
  intro found
  simp [put, mem_others, hne]

@[simp] lemma lookup_drop_self (d : DurableDirectory ν γ) (name : ν) :
    (d.drop name).lookup name = none := by
  rw [eq_none_iff_forall_ne_some]
  intro body hsome
  rw [lookup_eq_some_iff] at hsome
  simp [drop, mem_others] at hsome

lemma lookup_drop_of_ne (d : DurableDirectory ν γ) (hne : y ≠ name) :
    (d.drop name).lookup y = d.lookup y := by
  apply lookup_congr
  intro found
  simp [drop, mem_others, hne]

@[simp] lemma lookup_sync (d : DurableDirectory ν γ) (covered : ν → Bool) (name : ν) :
    (d.sync covered).lookup name = d.lookup name := rfl

/-! ## What a power loss may leave -/

lemma mayHold_lookup (d : DurableDirectory ν γ) (name : ν) :
    d.MayHold name (d.lookup name) := Or.inl rfl

lemma MayHold.of_put (hmay : (d.put name body).MayHold y found) :
    (y = name ∧ found = some body) ∨ d.MayHold y found := by
  rcases hmay with hget | hmem
  · by_cases hname : y = name
    · subst hname
      rw [lookup_put_self] at hget
      exact Or.inl ⟨rfl, hget.symm⟩
    · rw [lookup_put_of_ne _ _ hname] at hget
      exact Or.inr (Or.inl hget)
  · rcases mem_cons.mp hmem with hnew | hold
    · obtain ⟨rfl, rfl⟩ := Prod.mk.inj hnew
      exact Or.inr (mayHold_lookup d y)
    · exact Or.inr (Or.inr hold)

lemma MayHold.of_drop (hmay : (d.drop name).MayHold y found) :
    (y = name ∧ found = none) ∨ d.MayHold y found := by
  rcases hmay with hget | hmem
  · by_cases hname : y = name
    · subst hname
      rw [lookup_drop_self] at hget
      exact Or.inl ⟨rfl, hget.symm⟩
    · rw [lookup_drop_of_ne _ hname] at hget
      exact Or.inr (Or.inl hget)
  · rcases mem_cons.mp hmem with hnew | hold
    · obtain ⟨rfl, rfl⟩ := Prod.mk.inj hnew
      exact Or.inr (mayHold_lookup d y)
    · exact Or.inr (Or.inr hold)

lemma MayHold.of_sync (hmay : (d.sync covered).MayHold name found) : d.MayHold name found :=
  hmay.imp id fun hmem => mem_of_mem_filter hmem

lemma MayHold.eq_lookup_of_sync (hcovered : covered name)
    (hmay : (d.sync covered).MayHold name found) : found = d.lookup name := by
  rcases hmay with hget | hmem
  · exact hget.symm
  · have hnot := (mem_filter.mp hmem).2
    simp [hcovered] at hnot

lemma MayHold.of_revert [DecidableEq γ] {choice : ν × Option γ}
    (hmay : (d.revert choice).MayHold name found) : d.MayHold name found := by
  obtain ⟨chosen, body⟩ := choice
  unfold revert at hmay
  split at hmay
  · rename_i hmem
    cases body with
    | some body =>
      rcases hmay.of_put with ⟨rfl, rfl⟩ | hold
      · exact Or.inr hmem
      · exact hold
    | none =>
      rcases hmay.of_drop with ⟨rfl, rfl⟩ | hold
      · exact Or.inr hmem
      · exact hold
  · exact hmay

lemma MayHold.of_powerLoss [DecidableEq γ] {ch : List (ν × Option γ)}
    (hmay : (d.powerLoss ch).MayHold name found) : d.MayHold name found := by
  have hget : (ch.foldl revert d).MayHold name found := by
    rcases hmay with hget | hmem
    · exact Or.inl hget
    · simp [powerLoss, settle] at hmem
  clear hmay
  induction ch generalizing d with
  | nil => exact hget
  | cons choice ch ih => exact (ih hget).of_revert

/-! ## Durable names -/

lemma Durable.lookup (hdurable : d.Durable name body) : d.lookup name = some body :=
  hdurable _ (d.mayHold_lookup name)

lemma Durable.powerLoss [DecidableEq γ]
    (ch : List (ν × Option γ)) (hdurable : d.Durable name body) :
    (d.powerLoss ch).Durable name body :=
  fun found hmay => hdurable found hmay.of_powerLoss

lemma durable_sync (hcovered : covered name) (hget : d.lookup name = some body) :
    (d.sync covered).Durable name body := by
  intro found hmay
  rw [hmay.eq_lookup_of_sync hcovered, hget]

def Synced (dir : DurableDirectory ν γ) (name : ν) : Prop := ∀ entry ∈ dir.unsynced, entry.1 ≠ name

instance (dir : DurableDirectory ν γ) (name : ν) : Decidable (dir.Synced name) :=
  inferInstanceAs (Decidable (∀ entry ∈ dir.unsynced, entry.1 ≠ name))

lemma Synced.durable (hsynced : d.Synced name) (hget : d.lookup name = some body) :
    d.Durable name body := by
  rintro found (hfound | hfound)
  · rw [← hfound, hget]
  · exact absurd rfl (hsynced _ hfound)

/-! ## Operations on one name -/

/-- `later` comes from `earlier` by operations on `name` alone, where every
content given to it satisfies `allowed`, and by syncs. -/
inductive Touched (name : ν) (allowed : γ → Prop) (earlier : DurableDirectory ν γ) :
    DurableDirectory ν γ → Prop
  | refl : Touched name allowed earlier earlier
  | put {later : DurableDirectory ν γ} {content : γ} (hallowed : allowed content)
      (hbefore : Touched name allowed earlier later) :
      Touched name allowed earlier (later.put name content)
  | drop {later : DurableDirectory ν γ} (hbefore : Touched name allowed earlier later) :
      Touched name allowed earlier (later.drop name)
  | sync {later : DurableDirectory ν γ} (covered : ν → Bool)
      (hbefore : Touched name allowed earlier later) :
      Touched name allowed earlier (later.sync covered)

namespace Touched

variable {name y : ν} {allowed : γ → Prop} {earlier later : DurableDirectory ν γ}

section

variable (htouched : Touched name allowed earlier later)
include htouched

lemma mono {allowed' : γ → Prop} (himp : ∀ body, allowed body → allowed' body) :
    Touched name allowed' earlier later := by
  induction htouched with
  | refl => exact .refl
  | put hallowed _ ih => exact .put (himp _ hallowed) ih
  | drop _ ih => exact .drop ih
  | sync covered _ ih => exact .sync covered ih

omit htouched in
lemma trans {latest : DurableDirectory ν γ} (hearly : Touched name allowed earlier later)
    (hlate : Touched name allowed later latest) : Touched name allowed earlier latest := by
  induction hlate with
  | refl => exact hearly
  | put hallowed _ ih => exact .put hallowed ih
  | drop _ ih => exact .drop ih
  | sync covered _ ih => exact .sync covered ih

lemma others_eq : later.others name = earlier.others name := by
  induction htouched with
  | refl => rfl
  | put _ _ ih => simpa [others, DurableDirectory.put] using ih
  | drop _ ih => simpa [others, DurableDirectory.drop] using ih
  | sync _ _ ih => exact ih

lemma files : later.files = earlier.files ∨ later.files = earlier.others name ∨
    ∃ body, allowed body ∧ later.files = earlier.others name ++ [(name, body)] := by
  induction htouched with
  | refl => exact .inl rfl
  | put hallowed hbefore _ =>
    refine .inr (.inr ⟨_, hallowed, ?_⟩)
    rw [← hbefore.others_eq]
    rfl
  | drop hbefore _ => exact .inr (.inl hbefore.others_eq)
  | sync _ _ ih => exact ih

lemma lookup_of_ne (hne : y ≠ name) : later.lookup y = earlier.lookup y := by
  induction htouched with
  | refl => rfl
  | put _ _ ih => rw [lookup_put_of_ne _ _ hne, ih]
  | drop _ ih => rw [lookup_drop_of_ne _ hne, ih]
  | sync _ _ ih => rw [lookup_sync, ih]

lemma lookup_self (hget : later.lookup name = some body) :
    earlier.lookup name = some body ∨ allowed body := by
  induction htouched with
  | refl => exact .inl hget
  | put hallowed _ _ =>
    rw [lookup_put_self, some_inj] at hget
    exact .inr (hget ▸ hallowed)
  | drop _ _ => simp at hget
  | sync covered _ ih => exact ih hget

lemma mayHold_of_ne (hne : y ≠ name) (hmay : later.MayHold y found) : earlier.MayHold y found := by
  induction htouched with
  | refl => exact hmay
  | put _ _ ih => exact ih (hmay.of_put.resolve_left fun hsame => hne hsame.1)
  | drop _ ih => exact ih (hmay.of_drop.resolve_left fun hsame => hne hsame.1)
  | sync _ _ ih => exact ih hmay.of_sync

lemma durable_of_ne (hne : y ≠ name) (hdurable : earlier.Durable y body) : later.Durable y body :=
  fun found hmay => hdurable found (htouched.mayHold_of_ne hne hmay)

lemma mayHold_self (hmay : later.MayHold name found) : earlier.MayHold name found ∨ found = none ∨
      ∃ body, allowed body ∧ found = some body := by
  induction htouched with
  | refl => exact Or.inl hmay
  | put hallowed _ ih =>
    rcases hmay.of_put with ⟨-, rfl⟩ | hold
    · exact Or.inr (Or.inr ⟨_, hallowed, rfl⟩)
    · exact ih hold
  | drop _ ih =>
    rcases hmay.of_drop with ⟨-, rfl⟩ | hold
    · exact Or.inr (Or.inl rfl)
    · exact ih hold
  | sync _ _ ih => exact ih hmay.of_sync

lemma mayHold_some (hmay : later.MayHold y (some body)) :
    earlier.MayHold y (some body) ∨ (y = name ∧ allowed body) := by
  by_cases hname : y = name
  · subst hname
    rcases htouched.mayHold_self hmay with hold | hnone | ⟨found, hallowed, hfound⟩
    · exact Or.inl hold
    · exact absurd hnone (by simp)
    · rw [some_inj.mp hfound]
      exact Or.inr ⟨rfl, hallowed⟩
  · exact Or.inl (htouched.mayHold_of_ne hname hmay)

end

lemma of_lookup_eq_some (htouched : Touched name (fun _ => False) earlier later)
    (hget : later.lookup name = some body) : earlier.lookup name = some body ∧
      ∀ found, later.MayHold name found → earlier.MayHold name found := by
  induction htouched with
  | refl => exact ⟨hget, fun _ hmay => hmay⟩
  | put hallowed _ _ => exact hallowed.elim
  | drop _ _ => simp at hget
  | sync covered _ ih =>
    obtain ⟨hearlier, hmay⟩ := ih hget
    exact ⟨hearlier, fun found hfound => hmay found hfound.of_sync⟩

end Touched

end DurableDirectory

end Tlss.Library
