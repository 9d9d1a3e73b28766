import Mathlib.Data.List.Basic

/-!
# Programs that can crash between two steps

A program over a state `σ` is a sequence of atomic steps. Running it gives the
value it returns, the state it ends in and the states it passes through on the
way, so that a crash in the middle of the program is a choice among these.

`Meets` is a triple with a crash condition: from `start`, every state on the way
satisfies `crash`, and the value and the last state satisfy `post`. The rules
follow the syntax: a value, a step, a sequence, and weakening.
-/

namespace Tlss.Library

open List

universe u

structure Execution (σ α : Type*) where
  visited : List σ
  final : σ
  value : α

structure CrashProgram (σ α : Type*) where
  exec : σ → Execution σ α

namespace CrashProgram

variable {σ : Type*} {α β : Type u} {crash : σ → Prop} {start : σ} {post : α → σ → Prop}
  {next : α → CrashProgram σ β} {program : CrashProgram σ α} {step : σ → α × σ}

def done (value : α) : CrashProgram σ α := ⟨fun start => ⟨[], start, value⟩⟩

def atomic (step : σ → α × σ) : CrashProgram σ α :=
  ⟨fun start => ⟨[(step start).2], (step start).2, (step start).1⟩⟩

def peek (view : σ → α) : CrashProgram σ α := ⟨fun start => ⟨[], start, view start⟩⟩

def andThen (first : CrashProgram σ α) (next : α → CrashProgram σ β) : CrashProgram σ β :=
  ⟨fun start =>
    let early := first.exec start
    let late := (next early.value).exec early.final
    ⟨early.visited ++ late.visited, late.final, late.value⟩⟩

def zoom {τ : Type*} (get : σ → τ) (set : τ → σ → σ) (program : CrashProgram τ α) :
    CrashProgram σ α :=
  ⟨fun start =>
    let inner := program.exec (get start)
    ⟨inner.visited.map fun part => set part start, set inner.final start, inner.value⟩⟩

instance : Monad (CrashProgram σ) where
  pure := done
  bind := andThen

/-- From `start` every state on the way satisfies `crash`, and the program ends
in `post`. -/
def Meets (program : CrashProgram σ α) (start : σ) (crash : σ → Prop) (post : α → σ → Prop) :
    Prop :=
  (∀ state ∈ (program.exec start).visited, crash state) ∧
    post (program.exec start).value (program.exec start).final

lemma meets_pure {v : α} (hpost : post v start) : Meets (pure v) start crash post :=
  ⟨by simp [pure, done], hpost⟩

lemma meets_atomic (hcrash : crash (step start).2) (hpost : post (step start).1 (step start).2) :
    Meets (atomic step) start crash post :=
  ⟨by simpa [atomic] using hcrash, hpost⟩

lemma meets_bind {first : CrashProgram σ α} {mid : α → σ → Prop} {post : β → σ → Prop}
    (hfirst : first.Meets start crash mid) (hnext : ∀ v s, mid v s → (next v).Meets s crash post) :
    Meets (first >>= next) start crash post := by
  obtain ⟨hearly, hmid⟩ := hfirst
  obtain ⟨hlate, hpost⟩ := hnext _ _ hmid
  refine ⟨?_, hpost⟩
  intro s hmem
  rcases mem_append.mp hmem with hmem | hmem
  · exact hearly s hmem
  · exact hlate s hmem

lemma meets_peek_bind {view : σ → α} {post : β → σ → Prop}
    (hnext : (next (view start)).Meets start crash post) :
    Meets (peek view >>= next) start crash post :=
  hnext

lemma meets_atomic_bind {post : β → σ → Prop} (hcrash : crash (step start).2)
    (hnext : (next (step start).1).Meets (step start).2 crash post) :
    Meets (atomic step >>= next) start crash post := by
  have hstep : (atomic step).Meets start crash fun v s =>
      v = (step start).1 ∧ s = (step start).2 := meets_atomic hcrash ⟨rfl, rfl⟩
  refine meets_bind hstep ?_
  rintro _ _ ⟨rfl, rfl⟩
  exact hnext

lemma meets_zoom {τ : Type*} {get : σ → τ} {set : τ → σ → σ} {program : CrashProgram τ α}
    {crash : τ → Prop} {post : α → τ → Prop} (hmeets : program.Meets (get start) crash post) :
    (zoom get set program).Meets start (fun s => ∃ part, crash part ∧ s = set part start)
      fun v s => ∃ part, post v part ∧ s = set part start := by
  refine ⟨?_, _, hmeets.2, rfl⟩
  intro s hmem
  obtain ⟨part, hpart, rfl⟩ := mem_map.mp hmem
  exact ⟨part, hmeets.1 part hpart, rfl⟩

lemma Meets.mono {crash crash' : σ → Prop}
    {post post' : α → σ → Prop} (hmeets : program.Meets start crash post)
    (hcrash : ∀ s, crash s → crash' s) (hpost : ∀ v s, post v s → post' v s) :
    program.Meets start crash' post' :=
  ⟨fun s hmem => hcrash s (hmeets.1 s hmem), hpost _ _ hmeets.2⟩

/-- A crash hits a program in one of the states it passes through, or in a state
that is no worse. -/
lemma Meets.getD_visited {start fallback : σ}
    (hmeets : program.Meets start crash post) (hfallback : crash fallback)
    (moment : ℕ) : crash ((program.exec start).visited.getD moment fallback) := by
  rw [getD_eq_getElem?_getD]
  cases hget : (program.exec start).visited[moment]? with
  | none => exact hfallback
  | some s => exact hmeets.1 s (mem_of_getElem? hget)

end CrashProgram

end Tlss.Library
