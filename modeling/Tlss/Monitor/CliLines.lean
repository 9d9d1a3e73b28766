import Tlss.Library.BigEndian
import Tlss.Library.Marker
import Mathlib.Data.List.Induction

/-!
# The lines of a command-line session

`CliServer::process_input` takes the lines from the input of a session and passes them to the
registry. The limit is tested on a whole line without its carriage return, and on the beginning
of a line, which may end in a carriage return whose newline has not come yet. Both tests mean
the same (`unfinishedTooLong_iff`).
-/

namespace Tlss.Monitor

open Library List

def cliMaxLineSize : ℕ := 255

/-- The input of a session and the lines that were dispatched. `tooLong` stands for a session
that ended with `CLI_LINE_TOO_LONG_RESPONSE`. -/
structure CliSession where
  input : Bytes := []
  dispatched : List Bytes := []
  tooLong : Bool := false

namespace CliSession

def lineContent (raw : Bytes) : Bytes := if raw.getLast? = some 13 then raw.dropLast else raw

def unfinishedTooLong (input : Bytes) : Bool :=
  let possibleCrlf := input.length = cliMaxLineSize + 1 && input.getLast? = some 13
  input.length > cliMaxLineSize && !possibleCrlf

/-- Every turn but the last has taken a line from the input, so its length bounds their
number. -/
def processInput : ℕ → CliSession → CliSession
  | 0, session => session
  | fuel + 1, session =>
    match splitAtFirst 10 session.input with
    | none => { session with tooLong := unfinishedTooLong session.input }
    | some (raw, rest) =>
      let line := lineContent raw
      if line.length > cliMaxLineSize then { session with tooLong := true }
      else
        processInput fuel
          { session with
            input := rest
            dispatched := if line = [] then session.dispatched else session.dispatched ++ [line] }

/-- One receive of `handle_client_ready`. -/
def receive (session : CliSession) (bytes : Bytes) : CliSession :=
  if session.tooLong then session
  else
    let input := session.input ++ bytes
    processInput input.length { session with input }

/-- The lines that a whole stream dispatches, and whether one of its lines or the rest behind
them is too long. -/
def specification (stream : Bytes) : List Bytes × Bool :=
  let pieces := stream.splitOn 10
  let lines := pieces.dropLast.map lineContent
  ((lines.takeWhile (·.length ≤ cliMaxLineSize)).filter (· ≠ []),
    lines.any (·.length > cliMaxLineSize) || unfinishedTooLong (pieces.getLastD []))

variable {raw rest total : Bytes} {session : CliSession}

lemma specification_of_rest (hrest : 10 ∉ rest) :
    specification rest = ([], unfinishedTooLong rest) := by
  simp [specification, splitOn_of_notMem hrest]

lemma specification_of_line (hraw : 10 ∉ raw) (tail : Bytes) : specification (raw ++ 10 :: tail) =
      if (lineContent raw).length > cliMaxLineSize then ([], true) else
        ([lineContent raw].filter (· ≠ []) ++ (specification tail).1, (specification tail).2) := by
  obtain ⟨piece, pieces, hpieces⟩ := exists_cons_of_ne_nil (splitOnP_ne_nil (· == 10) tail)
  rw [← splitOn] at hpieces
  rw [specification, splitOn_append_cons hraw, specification, hpieces]
  split_ifs with hlong
  · simp [hlong]
  · simp [hlong, not_lt.mp hlong, ← filter_append]

lemma unfinishedTooLong_iff :
    unfinishedTooLong rest = true ↔ (lineContent rest).length > cliMaxLineSize := by
  unfold unfinishedTooLong lineContent
  split_ifs with hreturn
  · simp [hreturn]
    omega
  · simp [hreturn]

lemma length_lineContent_append (rest more : Bytes) :
    (lineContent rest).length ≤ (lineContent (rest ++ more)).length := by
  rcases eq_or_ne more [] with rfl | hmore
  · rw [append_nil]
  · have hpos := length_pos_of_ne_nil hmore
    unfold lineContent
    split_ifs <;> simp only [length_dropLast, length_append] <;> omega

/-- The beginning of a line that is too long: whatever follows, the line is too long as well. -/
lemma specification_of_long (hrest : 10 ∉ rest) (hlong : unfinishedTooLong rest) (more : Bytes) :
    specification (rest ++ more) = ([], true) := by
  rw [unfinishedTooLong_iff] at hlong
  cases hsplit : splitAtFirst 10 more with
  | none =>
    have hall : 10 ∉ rest ++ more := by simp [hrest, splitAtFirst_eq_none hsplit]
    have hlonger := lt_of_lt_of_le hlong (length_lineContent_append rest more)
    rw [specification_of_rest hall, unfinishedTooLong_iff.mpr hlonger]
  | some parts =>
    obtain ⟨early, late⟩ := parts
    obtain ⟨rfl, hearly⟩ := splitAtFirst_spec hsplit
    have hraw : 10 ∉ rest ++ early := by simp [hrest, hearly]
    have hlonger := lt_of_lt_of_le hlong (length_lineContent_append rest early)
    rw [← append_assoc, specification_of_line hraw, if_pos hlonger]

/-- What a session has made of the stream so far: with whatever follows, the specification goes
on from here. -/
def Follows (total : Bytes) (session : CliSession) : Prop :=
  ∀ more, specification (total ++ more) =
    if session.tooLong then (session.dispatched, true)
    else
      let ahead := specification (session.input ++ more)
      (session.dispatched ++ ahead.1, ahead.2)

/-- Between two receives the input is the beginning of a line. -/
def Waits (session : CliSession) : Prop :=
  session.tooLong = false → 10 ∉ session.input ∧ unfinishedTooLong session.input = false

lemma Follows.processInput {fuel : ℕ} (hfuel : session.input.length ≤ fuel)
    (hopen : session.tooLong = false) (hfollows : Follows total session) :
    Follows total (processInput fuel session) ∧ (processInput fuel session).Waits := by
  induction fuel generalizing session with
  | zero =>
    have hnil : session.input = [] := eq_nil_of_length_eq_zero (by omega)
    exact ⟨hfollows, fun _ => by rw [CliSession.processInput, hnil]; decide⟩
  | succ fuel ih =>
    rw [CliSession.processInput]
    simp only [Follows, hopen, Bool.false_eq_true, if_false] at hfollows
    cases hsplit : splitAtFirst 10 session.input with
    | none =>
      have hrest := splitAtFirst_eq_none hsplit
      refine ⟨fun more => ?_, fun hshort => ⟨hrest, hshort⟩⟩
      rw [hfollows]
      dsimp only
      split_ifs with hlong
      · rw [specification_of_long hrest hlong, append_nil]
      · rfl
    | some parts =>
      obtain ⟨raw, rest⟩ := parts
      obtain ⟨hinput, hraw⟩ := splitAtFirst_spec hsplit
      -- The specification takes the same line from the stream.
      simp only [hinput, append_assoc, cons_append, specification_of_line hraw] at hfollows
      rw [hinput, length_append, length_cons] at hfuel
      dsimp only
      split_ifs with hlong hempty
      · refine ⟨fun more => ?_, nofun⟩
        simp [hfollows, hlong]
      all_goals
        refine ih (by dsimp only; omega) hopen fun more => ?_
        simp [hfollows, hlong, hopen, hempty]

lemma Follows.receive (hfollows : Follows total session) (hwaits : session.Waits) (bytes : Bytes) :
    Follows (total ++ bytes) (session.receive bytes) ∧ (session.receive bytes).Waits := by
  unfold CliSession.receive
  split_ifs with hlong
  · refine ⟨fun more => ?_, hwaits⟩
    rw [append_assoc, hfollows, if_pos hlong, if_pos hlong]
  · refine Follows.processInput (le_refl _) (by simpa using hlong) fun more => ?_
    rw [append_assoc, hfollows, if_neg hlong, if_neg hlong, append_assoc]

/-- However a stream is cut into receives, the lines that are dispatched, and whether the session
ends because a line is too long, are those of the specification for the whole stream. -/
theorem cli_lines_framed (chunks : List Bytes) :
    let session := chunks.foldl receive {}
    (session.dispatched, session.tooLong) = specification chunks.flatten := by
  intro session
  have hsession : Follows chunks.flatten session ∧ session.Waits := by
    induction chunks using reverseRecOn with
    | nil => exact ⟨fun _ => rfl, fun _ => by decide⟩
    | append_singleton chunks bytes ih =>
      rw [flatten_append, flatten_singleton, show session = _ from foldl_concat ..]
      exact ih.1.receive ih.2 bytes
  obtain ⟨hfollows, hwaits⟩ := hsession
  have hspec := hfollows []
  rw [append_nil] at hspec
  rw [hspec]
  split_ifs with hlong
  · rw [hlong]
  · rw [Bool.not_eq_true] at hlong
    obtain ⟨hrest, hshort⟩ := hwaits hlong
    simp [specification_of_rest hrest, hshort, hlong]

end CliSession

end Tlss.Monitor
