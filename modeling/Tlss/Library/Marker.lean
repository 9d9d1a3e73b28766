import Mathlib.Data.List.Basic

/-!
# Frames behind a marker

A stream carries plain elements and frames; a frame is a marker, a payload and a
terminator. `nextSymbol` reads the first symbol of what has arrived, unless it takes
more elements to know it: the rest of a frame, or the rest of what may become a marker.

A symbol that can be read does not change when more arrives, `nextSymbol_append`. So
whatever the pieces in which a stream arrives, a reader that reads on as long as it can
has read the symbols of the whole stream: `Emits.append` and `Emits.rest_of_stuck`.
-/

namespace Tlss.Library

open List Option

variable {α : Type*}

inductive Symbol (α : Type*) where
  | plain (element : α)
  | frame (payload : List α)
deriving DecidableEq

variable [DecidableEq α] {elems early late : List α} {terminator : α}

def findMarker (marker : List α) : List α → Option ℕ
  | [] => if marker = [] then some 0 else none
  | element :: rest =>
    if marker <+: element :: rest then some 0 else (findMarker marker rest).map (· + 1)

def splitAtFirst (terminator : α) : List α → Option (List α × List α)
  | [] => none
  | element :: rest =>
    if element = terminator then some ([], rest)
    else (splitAtFirst terminator rest).map fun (early, late) => (element :: early, late)

lemma splitAtFirst_eq_some (hearly : terminator ∉ early) (late : List α) :
    splitAtFirst terminator (early ++ terminator :: late) = some (early, late) := by
  induction early with
  | nil => simp [splitAtFirst]
  | cons x early ih =>
    rw [mem_cons, not_or] at hearly
    simp [splitAtFirst, Ne.symm hearly.1, ih hearly.2]

lemma splitAtFirst_eq_none (h : splitAtFirst terminator elems = none) : terminator ∉ elems := by
  induction elems with
  | nil => simp
  | cons x rest ih =>
    simp only [splitAtFirst] at h
    split_ifs at h with heq
    exact fun hmem => (mem_cons.mp hmem).elim (fun h' => heq h'.symm) (ih (map_eq_none_iff.mp h))

lemma splitAtFirst_spec (h : splitAtFirst terminator elems = some (early, late)) :
    elems = early ++ terminator :: late ∧ terminator ∉ early := by
  induction elems generalizing early with
  | nil => cases h
  | cons x rest ih =>
    simp only [splitAtFirst] at h
    split_ifs at h with heq
    · cases h
      simp [heq]
    · obtain ⟨⟨early', late'⟩, hsplit, hpair⟩ := map_eq_some_iff.mp h
      cases hpair
      obtain ⟨hrest, hearly⟩ := ih hsplit
      exact ⟨by rw [hrest]; rfl, by simp [hearly, Ne.symm heq]⟩

lemma splitOn_of_notMem (h : terminator ∉ elems) : elems.splitOn terminator = [elems] := by
  apply splitOnP_eq_singleton
  intro x hmem
  exact beq_false_of_ne (ne_of_mem_of_not_mem hmem h)

lemma splitOn_append_cons (hearly : terminator ∉ early) (late : List α) :
    (early ++ terminator :: late).splitOn terminator = early :: late.splitOn terminator := by
  have hfirst := splitOn_of_notMem hearly
  rw [splitOn] at hfirst
  rw [splitOn, splitOnP_append_cons _ _ (by simp), hfirst]
  rfl

lemma splitAtFirst_append (h : splitAtFirst terminator elems = some (early, late)) (more : List α) :
    splitAtFirst terminator (elems ++ more) = some (early, late ++ more) := by
  obtain ⟨rfl, hearly⟩ := splitAtFirst_spec h
  rw [append_assoc, cons_append]
  exact splitAtFirst_eq_some hearly _

variable (marker : List α) (terminator : α)

def nextSymbol (elements : List α) : Option (Symbol α × List α) :=
  if marker <+: elements then
    (splitAtFirst terminator (elements.drop marker.length)).map fun (payload, rest) =>
      (.frame payload, rest)
  else if elements <+: marker then none
  else
    match elements with
    | [] => none
    | element :: rest => some (.plain element, rest)

inductive Emits : List α → List (Symbol α) → List α → Prop
  | refl (elements : List α) : Emits elements [] elements
  | step {elements rest final : List α} {symbol : Symbol α} {symbols : List (Symbol α)}
      (hnext : nextSymbol marker terminator elements = some (symbol, rest))
      (hrest : Emits rest symbols final) : Emits elements (symbol :: symbols) final

variable {marker terminator} {rest : List α} {x : α}

lemma nextSymbol_of_marker (h : marker <+: elems) : nextSymbol marker terminator elems =
      (splitAtFirst terminator (elems.drop marker.length)).map fun (payload, rest) =>
        (.frame payload, rest) :=
  if_pos h

lemma nextSymbol_cons (hmarker : ¬ marker <+: x :: rest) (hbegun : ¬ x :: rest <+: marker) :
    nextSymbol marker terminator (x :: rest) = some (.plain x, rest) := by
  unfold nextSymbol
  rw [if_neg hmarker, if_neg hbegun]

lemma nextSymbol_of_begun (h : elems <+: marker)
    (hne : elems ≠ marker) : nextSymbol marker terminator elems = none := by
  have hmarker : ¬ marker <+: elems := fun hmarker =>
    hne (h.eq_of_length (Nat.le_antisymm h.length_le hmarker.length_le))
  unfold nextSymbol
  rw [if_neg hmarker, if_pos h]

lemma nextSymbol_eq_plain (h : nextSymbol marker terminator elems = some (.plain x, rest)) :
    elems = x :: rest ∧ ¬ marker <+: elems ∧ ¬ elems <+: marker := by
  unfold nextSymbol at h
  split_ifs at h with hmarker hbegun
  · simp at h
  · cases elems with
    | nil => cases h
    | cons first tail =>
      cases h
      exact ⟨rfl, hmarker, hbegun⟩

/-- What cannot be read yet may become a marker, or is a frame without its end. -/
lemma nextSymbol_eq_none (h : nextSymbol marker terminator elems = none) :
    elems <+: marker ∧ elems ≠ marker ∨
      marker <+: elems ∧ terminator ∉ elems.drop marker.length := by
  unfold nextSymbol at h
  split_ifs at h with hmarker hbegun
  · exact .inr ⟨hmarker, splitAtFirst_eq_none (map_eq_none_iff.mp h)⟩
  · exact .inl ⟨hbegun, fun heq => hmarker (heq ▸ prefix_rfl)⟩
  · cases elems with
    | nil => exact absurd nil_prefix hbegun
    | cons first tail => cases h

lemma nextSymbol_append {symbol : Symbol α}
    (h : nextSymbol marker terminator elems = some (symbol, rest)) (more : List α) :
    nextSymbol marker terminator (elems ++ more) = some (symbol, rest ++ more) := by
  unfold nextSymbol at h
  split_ifs at h with hmarker hbegun
  · obtain ⟨⟨payload, late⟩, hsplit, heq⟩ := map_eq_some_iff.mp h
    cases heq
    have hmarker' := hmarker.trans (prefix_append elems more)
    rw [nextSymbol_of_marker hmarker', drop_append_of_le_length hmarker.length_le,
      splitAtFirst_append hsplit]
    rfl
  · -- neither is a prefix of the other, so they differ within what has arrived
    have hmarker' : ¬ marker <+: elems ++ more := fun hlong =>
      (List.prefix_or_prefix_of_prefix hlong (prefix_append elems more)).elim hmarker hbegun
    have hbegun' : ¬ elems ++ more <+: marker := fun hlong =>
      hbegun ((prefix_append elems more).trans hlong)
    cases elems with
    | nil => cases h
    | cons x tail =>
      cases h
      exact nextSymbol_cons hmarker' hbegun'

namespace Emits

variable {elems rest final text : List α} {symbols : List (Symbol α)}

lemma trans {more : List (Symbol α)} (h : Emits marker terminator elems symbols rest)
    (h' : Emits marker terminator rest more final) :
    Emits marker terminator elems (symbols ++ more) final := by
  induction h with
  | refl elems => exact h'
  | step hnext _ ih => exact .step hnext (ih h')

lemma append (h : Emits marker terminator elems symbols rest) (more : List α) :
    Emits marker terminator (elems ++ more) symbols (rest ++ more) := by
  induction h with
  | refl elems => exact .refl _
  | step hnext _ ih => exact .step (nextSymbol_append hnext more) ih

lemma rest_of_stuck {others : List (Symbol α)} (h : Emits marker terminator elems symbols rest)
    (h' : Emits marker terminator elems others final)
    (hstuck : nextSymbol marker terminator final = none) :
    ∃ more, others = symbols ++ more ∧ Emits marker terminator rest more final := by
  induction h generalizing others with
  | refl elems => exact ⟨others, rfl, h'⟩
  | step hnext _ ih =>
    cases h' with
    | refl =>
      rw [hstuck] at hnext
      cases hnext
    | step hnext' hrest' =>
      cases hnext.symm.trans hnext'
      obtain ⟨more, rfl, hmore⟩ := ih hrest'
      exact ⟨more, rfl, hmore⟩

lemma eq_nil_of_stuck (h : Emits marker terminator elems symbols rest)
    (hstuck : nextSymbol marker terminator elems = none) : symbols = [] ∧ elems = rest := by
  cases h with
  | refl => exact ⟨rfl, rfl⟩
  | step hnext _ =>
    rw [hstuck] at hnext
    cases hnext

lemma eq_append (h : Emits marker terminator elems (text.map .plain) rest) :
    elems = text ++ rest := by
  induction text generalizing elems with
  | nil =>
    cases h
    rfl
  | cons x text ih =>
    cases h with
    | step hnext hrest => rw [(nextSymbol_eq_plain hnext).1, ih hrest, cons_append]

lemma not_begun (h : Emits marker terminator elems (symbols ++ (x :: text).map .plain) rest) :
    ¬ marker <+: x :: text ++ rest ∧ ¬ x :: text ++ rest <+: marker := by
  induction symbols generalizing elems with
  | cons symbol symbols ih =>
    cases h with
    | step _ hrest => exact ih hrest
  | nil =>
    rw [← h.eq_append]
    cases h with
    | step hnext _ => exact (nextSymbol_eq_plain hnext).2

end Emits

/-! ## Reading plain elements in bulk -/

lemma emits_take {count : ℕ}
    (h : ∀ i < count, ¬ marker <+: elems.drop i ∧ ¬ elems.drop i <+: marker) :
    Emits marker terminator elems ((elems.take count).map .plain) (elems.drop count) := by
  induction count generalizing elems with
  | zero => exact .refl _
  | succ count ih =>
    have hfirst := h 0 (Nat.succ_pos _)
    cases elems with
    | nil => exact absurd nil_prefix hfirst.2
    | cons x rest =>
      refine .step (nextSymbol_cons hfirst.1 hfirst.2) (ih fun i hi => ?_)
      exact h (i + 1) (by omega)

lemma not_prefix_of_findMarker_eq_none
    (h : findMarker marker elems = none) (i : ℕ) : ¬ marker <+: elems.drop i := by
  induction elems generalizing i with
  | nil =>
    unfold findMarker at h
    split_ifs at h with hmarker
    simpa using hmarker
  | cons x rest ih =>
    simp only [findMarker] at h
    split_ifs at h with hbegun
    cases i with
    | zero => exact hbegun
    | succ i => exact ih (map_eq_none_iff.mp h) i

lemma findMarker_spec {position : ℕ} (h : findMarker marker elems = some position) :
    marker <+: elems.drop position ∧ position ≤ elems.length ∧
      ∀ i < position, ¬ marker <+: elems.drop i := by
  induction elems generalizing position with
  | nil =>
    unfold findMarker at h
    split_ifs at h with hmarker
    cases h
    simp [hmarker]
  | cons x rest ih =>
    simp only [findMarker] at h
    split_ifs at h with hbegun
    · cases h
      simpa using hbegun
    · obtain ⟨before, hbefore, rfl⟩ := map_eq_some_iff.mp h
      obtain ⟨hfound, hle, hfirst⟩ := ih hbefore
      refine ⟨hfound, by simpa using hle, fun i hi => ?_⟩
      cases i with
      | zero => exact hbegun
      | succ i => exact hfirst i (by omega)

end Tlss.Library
