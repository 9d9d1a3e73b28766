import Tlss.Ftp.CommandLine

/-!
# How the input of a session becomes command lines

`StorageService::on_message` on a session without a transfer: it hands the lines of the
buffer to their handlers, one after the other, and closes the connection at a line that is
too long. A handler is a parameter; all that matters here is whether it shuts the connection
down, which depends on the lines so far.

The limit is tested in two ways: on a whole line without its carriage return, and on the
beginning of a line, which may end in a carriage return whose newline has not come yet. Both
mean the same lines (`framing_of_long`).
-/

namespace Tlss.Ftp

open Library List

/-- Whether lines are read. `closed` stands for the `force_close` at a line that is too long,
after which no input is delivered, and `shut` for a connection that a handler has shut down. -/
inductive ReaderState
  | reading
  | closed
  | shut
deriving DecidableEq

/-- The input buffer of the connection and the lines that were handed to the handlers. -/
structure CommandReader where
  buffer : Bytes := []
  handled : List Bytes := []
  state : ReaderState := .reading

namespace CommandReader

variable (shuts : List Bytes → Bool)

/-- The loop of `on_message`. Every further turn has taken a line from the buffer. -/
def messageLoop : ℕ → CommandReader → CommandReader
  | 0, reader => reader
  | fuel + 1, reader =>
    if reader.state ≠ .reading ∨ reader.buffer = [] then reader
    else
      match splitAtFirst 10 reader.buffer with
      | none =>
        if reader.buffer.length > maxControlBytes + 1 then
          { reader with buffer := [], state := .closed }
        else reader
      | some (raw, rest) =>
        if (withoutReturn raw).length > maxControlBytes then
          { reader with buffer := [], state := .closed }
        else
          let handled := reader.handled ++ [withoutReturn raw]
          messageLoop fuel
            { buffer := rest, handled, state := if shuts handled then .shut else .reading }

def onMessage (reader : CommandReader) (bytes : Bytes) : CommandReader :=
  if reader.state = .closed then reader
  else
    let buffer := reader.buffer ++ bytes
    messageLoop shuts buffer.length { reader with buffer }

/-! ## The specification -/

/-- What becomes of lines and the unterminated rest behind them: the lines are handled in their
order, up to the first one that is too long or shuts the connection down. -/
def handleLines (rest : Bytes) : List Bytes → List Bytes → List Bytes × ReaderState
  | handled, [] => (handled, if rest.length > maxControlBytes + 1 then .closed else .reading)
  | handled, raw :: lines =>
    if (withoutReturn raw).length > maxControlBytes then (handled, .closed)
    else if shuts (handled ++ [withoutReturn raw]) then (handled ++ [withoutReturn raw], .shut)
    else handleLines rest (handled ++ [withoutReturn raw]) lines

def framing (handled : List Bytes) (stream : Bytes) : List Bytes × ReaderState :=
  handleLines shuts ((stream.splitOn 10).getLastD []) handled (stream.splitOn 10).dropLast

variable {shuts} {handled : List Bytes} {rest total : Bytes} {reader : CommandReader}

lemma framing_of_rest (hrest : 10 ∉ rest) : framing shuts handled rest =
    (handled, if rest.length > maxControlBytes + 1 then .closed else .reading) := by
  simp [framing, splitOn_of_notMem hrest, handleLines]

lemma framing_of_line {raw : Bytes} (hraw : 10 ∉ raw) (tail : Bytes) :
    framing shuts handled (raw ++ 10 :: tail) =
      if (withoutReturn raw).length > maxControlBytes then (handled, .closed)
      else if shuts (handled ++ [withoutReturn raw]) then (handled ++ [withoutReturn raw], .shut)
      else framing shuts (handled ++ [withoutReturn raw]) tail := by
  have hsplit := splitOn_append_cons hraw tail
  have hne : tail.splitOn 10 ≠ [] := splitOnP_ne_nil _ _
  obtain ⟨piece, pieces, hpieces⟩ := exists_cons_of_ne_nil hne
  simp [framing, hsplit, hpieces, handleLines]

lemma length_le_withoutReturn (raw : Bytes) : raw.length ≤ (withoutReturn raw).length + 1 := by
  unfold withoutReturn
  split_ifs
  · rw [length_dropLast]
    omega
  · omega

/-- The beginning of a line that is too long: whatever follows, the line is too long as well,
with or without its newline. -/
lemma framing_of_long (hrest : 10 ∉ rest) (hlong : rest.length > maxControlBytes + 1)
    (more : Bytes) : framing shuts handled (rest ++ more) = (handled, .closed) := by
  cases hsplit : splitAtFirst 10 more with
  | none =>
    have hall : 10 ∉ rest ++ more := by simp [hrest, splitAtFirst_eq_none hsplit]
    rw [framing_of_rest hall, if_pos (by rw [length_append]; omega)]
  | some parts =>
    obtain ⟨early, late⟩ := parts
    obtain ⟨rfl, hearly⟩ := splitAtFirst_spec hsplit
    have hraw : 10 ∉ rest ++ early := by simp [hrest, hearly]
    have hlength := length_le_withoutReturn (rest ++ early)
    rw [length_append] at hlength
    rw [← append_assoc, framing_of_line hraw, if_pos (by omega)]

/-! ## Segmentation -/

/-- What the reader has made of the stream so far: with whatever follows, the specification
goes on from here. -/
structure Follows (shuts : List Bytes → Bool) (total : Bytes) (reader : CommandReader) : Prop where
  reading : reader.state = .reading → ∀ more,
    framing shuts [] (total ++ more) = framing shuts reader.handled (reader.buffer ++ more)
  ended : reader.state ≠ .reading → ∀ more,
    framing shuts [] (total ++ more) = (reader.handled, reader.state)
  unterminated : reader.state = .reading →
    10 ∉ reader.buffer ∧ reader.buffer.length ≤ maxControlBytes + 1

lemma follows_messageLoop {fuel : ℕ} (hfuel : reader.buffer.length ≤ fuel)
    (hreading : reader.state = .reading → ∀ more,
      framing shuts [] (total ++ more) = framing shuts reader.handled (reader.buffer ++ more))
    (hended : reader.state ≠ .reading → ∀ more,
      framing shuts [] (total ++ more) = (reader.handled, reader.state)) :
    Follows shuts total (messageLoop shuts fuel reader) := by
  induction fuel generalizing reader with
  | zero =>
    have hnil : reader.buffer = [] := eq_nil_of_length_eq_zero (by omega)
    exact ⟨hreading, hended, fun _ => by simp [messageLoop, hnil]⟩
  | succ fuel ih =>
    rw [messageLoop]
    by_cases hstop : reader.state ≠ .reading ∨ reader.buffer = []
    · rw [if_pos hstop]
      refine ⟨hreading, hended, fun hst => ?_⟩
      simp [hstop.resolve_left (not_not.mpr hst)]
    · rw [if_neg hstop]
      obtain ⟨hst, -⟩ : reader.state = .reading ∧ reader.buffer ≠ [] := by simpa using hstop
      replace hreading := hreading hst
      cases hsplit : splitAtFirst 10 reader.buffer with
      | none =>
        have hrest := splitAtFirst_eq_none hsplit
        dsimp only
        split_ifs with hlong
        · refine ⟨by simp, fun _ more => ?_, by simp⟩
          rw [hreading, framing_of_long hrest hlong]
        · exact ⟨fun _ => hreading, fun hne => absurd hst hne, fun _ => ⟨hrest, by omega⟩⟩
      | some parts =>
        obtain ⟨raw, rest⟩ := parts
        obtain ⟨hbuffer, hraw⟩ := splitAtFirst_spec hsplit
        -- The specification takes the same line from the stream.
        have hline : ∀ more, framing shuts [] (total ++ more) =
            framing shuts reader.handled (raw ++ 10 :: (rest ++ more)) := by
          intro more
          rw [hreading, hbuffer, append_assoc, cons_append]
        simp only [framing_of_line hraw] at hline
        rw [hbuffer, length_append, length_cons] at hfuel
        dsimp only
        split_ifs with hlong hshuts
        · refine ⟨by simp, fun _ more => ?_, by simp⟩
          rw [hline, if_pos hlong]
        · refine ih (by dsimp only; omega) (by simp) fun _ more => ?_
          rw [hline, if_neg hlong, if_pos hshuts]
        · refine ih (by dsimp only; omega) (fun _ more => ?_) (by simp)
          rw [hline, if_neg hlong, if_neg hshuts]

lemma Follows.onMessage (hfollows : Follows shuts total reader) (bytes : Bytes) :
    Follows shuts (total ++ bytes) (onMessage shuts reader bytes) := by
  unfold CommandReader.onMessage
  split_ifs with hclosed
  · have hne : reader.state ≠ .reading := by simp [hclosed]
    refine ⟨fun hst => absurd hst hne, fun _ more => ?_, fun hst => absurd hst hne⟩
    rw [append_assoc, hfollows.ended hne]
  · refine follows_messageLoop (Nat.le_refl _) (fun hst more => ?_) fun hne more => ?_
    · rw [append_assoc, hfollows.reading hst, append_assoc]
    · rw [append_assoc, hfollows.ended hne]

/-- However a stream is cut into calls of `on_message`, the lines that are handled, and whether
the connection is closed for a line that is too long, are those of the specification for the
whole stream. -/
theorem commands_framed (shuts : List Bytes → Bool) (chunks : List Bytes) :
    let reader := chunks.foldl (CommandReader.onMessage shuts) {}
    (reader.handled, reader.state) = framing shuts [] chunks.flatten := by
  intro reader
  have hfollows : ∀ (chunks : List Bytes) (total : Bytes) (start : CommandReader),
      Follows shuts total start →
        Follows shuts (total ++ chunks.flatten)
          (chunks.foldl (CommandReader.onMessage shuts) start) := by
    intro chunks
    induction chunks with
    | nil => simp
    | cons bytes chunks ih =>
      intro total start hstart
      rw [foldl_cons, flatten_cons, ← append_assoc]
      exact ih _ _ (hstart.onMessage bytes)
  have hstart : Follows shuts [] {} := ⟨fun _ _ => rfl, fun hne => absurd rfl hne, by simp⟩
  have hreader : Follows shuts chunks.flatten reader := hfollows chunks [] {} hstart
  by_cases hstate : reader.state = .reading
  · obtain ⟨hrest, hshort⟩ := hreader.unterminated hstate
    have hframing := hreader.reading hstate []
    rw [append_nil, append_nil, framing_of_rest hrest, if_neg (by omega)] at hframing
    rw [hframing, hstate]
  · have hframing := hreader.ended hstate []
    rw [append_nil] at hframing
    exact hframing.symm

end CommandReader

end Tlss.Ftp
