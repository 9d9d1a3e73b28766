import Tlss.Ftp.ClientInput

/-!
# Responses and the pieces in which they arrive

`Replays` says symbol by symbol what is to be done with a stream, from a state of the client.
It goes on where more arrives (`Replays.append`), and it has one outcome only
(`Replays.unique`). A call of `on_message` does what it says with the buffer, in larger
steps (`messageLoop_replays`).
-/

namespace Tlss.Ftp.Client

open Library List

/-! ## What the client keeps back -/

lemma keepFrom_le (bs : Bytes) (bound : ℕ) : keepFrom bs bound ≤ bound := by
  induction bound with
  | zero => exact le_refl _
  | succ bound ih =>
    unfold keepFrom
    split_ifs
    · exact le_refl _
    · exact Nat.le_succ_of_le ih

variable {bs : Bytes} {responder : Responder} {fed : Option ℕ} {cl : Client}

lemma drop_keepFrom (bound : ℕ) : bs.drop (bs.length - keepFrom bs bound) =
      responsePrefix.take (keepFrom bs bound) := by
  induction bound with
  | zero => simp [keepFrom]
  | succ bound ih =>
    unfold keepFrom
    split_ifs with heq
    · exact heq
    · exact ih

lemma drop_ne_of_keepFrom_lt {bound count : ℕ}
    (hlt : keepFrom bs bound < count) (hle : count ≤ bound) :
    bs.drop (bs.length - count) ≠ responsePrefix.take count := by
  induction bound with
  | zero => omega
  | succ bound ih =>
    unfold keepFrom at hlt
    split_ifs at hlt with heq
    · omega
    · rcases Nat.lt_or_eq_of_le hle with hlt' | rfl
      · exact ih hlt (by omega)
      · exact heq

lemma length_responsePrefix : responsePrefix.length = 7 := by decide

lemma keep_le (bs : Bytes) : keep bs ≤ bs.length ∧ keep bs ≤ 6 := by
  have hle := keepFrom_le bs (min bs.length (responsePrefix.length - 1))
  rw [length_responsePrefix] at hle
  exact ⟨le_trans hle (min_le_left _ _), le_trans hle (min_le_right _ _)⟩

lemma nextSymbol_kept (bs : Bytes) :
    nextSymbol responsePrefix 10 (bs.drop (bs.length - keep bs)) = none := by
  have hkept : bs.drop (bs.length - keep bs) = responsePrefix.take (keep bs) :=
    drop_keepFrom _
  rw [hkept]
  refine nextSymbol_of_begun (List.take_prefix _ _) fun heq => ?_
  have hlen := congrArg length heq
  have := (keep_le bs).2
  rw [length_take, length_responsePrefix] at hlen
  omega

lemma emits_print (hnone : findMarker responsePrefix bs = none) :
    Emits responsePrefix 10 bs ((bs.take (bs.length - keep bs)).map .plain)
      (bs.drop (bs.length - keep bs)) := by
  refine emits_take fun i hi => ?_
  have hmarker := not_prefix_of_findMarker_eq_none hnone i
  refine ⟨hmarker, fun hbegun => ?_⟩
  -- an end of the bytes that begins a marker is not longer than what is kept
  have hle : (bs.drop i).length ≤ 7 := length_responsePrefix ▸ hbegun.length_le
  have htake : bs.drop i = responsePrefix.take (bs.drop i).length :=
    prefix_iff_eq_take.mp hbegun
  rw [length_drop] at hle htake
  by_cases hfull : bs.length - i = 7
  · rw [hfull, ← length_responsePrefix, take_length] at htake
    exact hmarker (htake ▸ prefix_refl _)
  · have hdrop : bs.drop (bs.length - (bs.length - i)) =
        responsePrefix.take (bs.length - i) := by
      have hindex : bs.length - (bs.length - i) = i := by omega
      rw [hindex]
      exact htake
    have hlt : keepFrom bs (min bs.length (responsePrefix.length - 1)) <
        bs.length - i := by
      change keep bs < _
      omega
    refine drop_ne_of_keepFrom_lt hlt ?_ hdrop
    rw [length_responsePrefix]
    omega

lemma emits_before {position : ℕ} (hfound : findMarker responsePrefix bs = some position) :
    Emits responsePrefix 10 bs ((bs.take position).map .plain) (bs.drop position) := by
  obtain ⟨hmarker, hle, hfirst⟩ := findMarker_spec hfound
  refine emits_take fun i hi => ⟨hfirst i hi, fun hbegun => ?_⟩
  have hlong := hmarker.length_le
  have hshort := hbegun.length_le
  rw [length_drop] at hlong hshort
  omega

/-- A control frame that is too long, or already longer than allowed without an end. -/
def TooLong (buffer : Bytes) : Prop :=
  responsePrefix <+: buffer ∧
    match splitAtFirst 10 (buffer.drop responsePrefix.length) with
    | none => buffer.length > maxControlBytes
    | some (line, _) => responsePrefix.length + line.length > maxControlBytes

/-! ## What is to be done with a stream -/

/-- What is read from the bytes in a state: the symbols, the failure that ends it, and the state
and the bytes at the end. Nothing is read while a file body is expected. -/
inductive Replays (responder : Responder) : FileTransferState → Bytes →
    List (Symbol UInt8) → Option ClientFailure → FileTransferState → Bytes → Prop
  | wait {state bytes} (hwait : state.receivesBody = true ∨
      nextSymbol responsePrefix 10 bytes = none ∧ ¬ TooLong bytes) :
      Replays responder state bytes [] none state bytes
  | tooLong {state bytes} (hbody : state.receivesBody = false) (hlong : TooLong bytes) :
      Replays responder state bytes [] (some .responseTooLong) state bytes
  | failed {state bytes line rest} (hbody : state.receivesBody = false) (hshort : ¬ TooLong bytes)
      (hnext : nextSymbol responsePrefix 10 bytes = some (.frame line, rest))
      (hrespond : responder.respond state line = none) :
      Replays responder state bytes [.frame line] (some .responseFailed) state rest
  | plain {state bytes byte rest symbols failure state' final}
      (hbody : state.receivesBody = false)
      (hnext : nextSymbol responsePrefix 10 bytes = some (.plain byte, rest))
      (hrest : Replays responder state rest symbols failure state' final) :
      Replays responder state bytes (.plain byte :: symbols) failure state' final
  | frame {state bytes line rest next symbols failure state' final}
      (hbody : state.receivesBody = false) (hshort : ¬ TooLong bytes)
      (hnext : nextSymbol responsePrefix 10 bytes = some (.frame line, rest))
      (hrespond : responder.respond state line = some next)
      (hrest : Replays responder next rest symbols failure state' final) :
      Replays responder state bytes (.frame line :: symbols) failure state' final

variable {state state' : FileTransferState} {bs final rest line : Bytes}
  {symbols : List (Symbol UInt8)} {failure : Option ClientFailure}

/-! ## Frames that are too long -/

lemma tooLong_iff : TooLong bs ↔ responsePrefix <+: bs ∧ 4097 ≤ bs.length ∧
    10 ∉ (bs.take 4097).drop responsePrefix.length := by
  refine and_congr_right fun hmarker => ?_
  have hlen := hmarker.length_le
  rw [drop_take, length_responsePrefix] at *
  have htotal : bs.length = 7 + (bs.drop 7).length := by
    rw [length_drop]
    omega
  cases hsplit : splitAtFirst 10 (bs.drop 7) with
  | none =>
    have hnone : 10 ∉ (bs.drop 7).take 4090 :=
      fun hmem => splitAtFirst_eq_none hsplit (mem_of_mem_take hmem)
    simp only [maxControlBytes, hnone, not_false_eq_true, and_true]
    omega
  | some parts =>
    obtain ⟨heq, hline⟩ := splitAtFirst_spec hsplit
    rw [heq, length_append, length_cons] at htotal
    rw [heq]
    simp only [maxControlBytes]
    by_cases hle : 4090 ≤ parts.1.length
    · have hnone : 10 ∉ (parts.1 ++ 10 :: parts.2).take 4090 := by
        rw [take_append_of_le_length hle]
        exact fun hmem => hline (mem_of_mem_take hmem)
      simp only [hnone, not_false_eq_true, and_true]
      omega
    · have hmem : (10 : UInt8) ∈ (parts.1 ++ 10 :: parts.2).take 4090 := by
        rw [take_append, take_of_length_le (by omega), mem_append,
          show 4090 - parts.1.length = (4089 - parts.1.length) + 1 by omega, take_succ_cons]
        exact .inr mem_cons_self
      simp only [hmem, not_true_eq_false, and_false, iff_false]
      omega

lemma tooLong_append (hlong : TooLong bs) (more : Bytes) : TooLong (bs ++ more) := by
  rw [tooLong_iff] at hlong ⊢
  obtain ⟨hmarker, hlen, hnone⟩ := hlong
  refine ⟨hmarker.trans (prefix_append _ _), ?_, ?_⟩
  · rw [length_append]
    omega
  · rwa [take_append_of_le_length hlen]

lemma not_tooLong_append (hshort : ¬ TooLong bs)
    (hnext : nextSymbol responsePrefix 10 bs = some (.frame line, rest)) (more : Bytes) :
    ¬ TooLong (bs ++ more) := by
  rintro ⟨-, hlen⟩
  unfold nextSymbol at hnext
  split_ifs at hnext with hmarker
  · obtain ⟨parts, hsplit, -⟩ := Option.map_eq_some_iff.mp hnext
    rw [drop_append_of_le_length hmarker.length_le, splitAtFirst_append hsplit] at hlen
    exact hshort ⟨hmarker, by simpa only [hsplit] using hlen⟩
  · cases bs <;> simp at hnext

/-! ## One outcome, which goes on -/

section

variable (hreplays : Replays responder state bs symbols failure state' final)
include hreplays

lemma Replays.append (more : Bytes) : (failure.isSome →
      Replays responder state (bs ++ more) symbols failure state' (final ++ more)) ∧
    ∀ {symbols' failure' state'' final'}, failure = none →
      Replays responder state' (final ++ more) symbols' failure' state'' final' →
        Replays responder state (bs ++ more) (symbols ++ symbols') failure' state'' final' := by
  induction hreplays with
  | wait hwait => exact ⟨by simp, fun _ hrest => hrest⟩
  | tooLong hbody hlong => exact ⟨fun _ => .tooLong hbody (tooLong_append hlong more), by simp⟩
  | failed hbody hshort hnext hrespond =>
    exact ⟨fun _ => .failed hbody (not_tooLong_append hshort hnext more)
      (nextSymbol_append hnext more) hrespond, by simp⟩
  | plain hbody hnext _ ih =>
    exact ⟨fun hsome => .plain hbody (nextSymbol_append hnext more) (ih.1 hsome),
      fun hnone hrest => .plain hbody (nextSymbol_append hnext more) (ih.2 hnone hrest)⟩
  | frame hbody hshort hnext hrespond _ ih =>
    have hshort' := not_tooLong_append hshort hnext more
    have hnext' := nextSymbol_append hnext more
    exact ⟨fun hsome => .frame hbody hshort' hnext' hrespond (ih.1 hsome),
      fun hnone hrest => .frame hbody hshort' hnext' hrespond (ih.2 hnone hrest)⟩

omit hreplays in
lemma not_tooLong_of_plain {byte : UInt8}
    (hnext : nextSymbol responsePrefix 10 bs = some (.plain byte, rest)) : ¬ TooLong bs :=
  fun hlong => (nextSymbol_eq_plain hnext).2.1 hlong.1

lemma Replays.unique {others : List (Symbol UInt8)} {other : Option ClientFailure}
    {state'' : FileTransferState} {final' : Bytes}
    (hother : Replays responder state bs others other state'' final') :
    symbols = others ∧ failure = other ∧ state' = state'' ∧ final = final' := by
  induction hreplays generalizing others with
  | wait | failed => cases hother <;> simp_all
  | tooLong hbody hlong =>
    cases hother with
    | plain _ hnext => exact absurd hlong (not_tooLong_of_plain hnext)
    | _ => simp_all
  | plain hbody hnext _ ih =>
    have hshort := not_tooLong_of_plain hnext
    cases hother with
    | plain _ hnext' hrest =>
      cases hnext.symm.trans hnext'
      obtain ⟨rfl, hsame⟩ := ih hrest
      exact ⟨rfl, hsame⟩
    | _ => simp_all
  | frame hbody hshort hnext hrespond _ ih =>
    cases hother with
    | frame _ _ hnext' hrespond' hrest =>
      cases hnext.symm.trans hnext'
      cases hrespond.symm.trans hrespond'
      obtain ⟨rfl, hsame⟩ := ih hrest
      exact ⟨rfl, hsame⟩
    | _ => simp_all

/-! ## What is read -/

lemma Replays.emits : Emits responsePrefix 10 bs symbols final := by
  induction hreplays with
  | wait | tooLong => exact .refl _
  | failed _ _ hnext => exact .step hnext (.refl _)
  | plain _ hnext _ ih | frame _ _ hnext _ _ ih => exact .step hnext ih

omit hreplays in
lemma length_takeFrame_lt
    (hsplit : splitAtFirst 10 (cl.buffer.drop responsePrefix.length) = some (line, rest)) :
    rest.length < cl.buffer.length := by
  have hlen := congrArg length (splitAtFirst_spec hsplit).1
  rw [length_drop, length_append, length_cons] at hlen
  omega

lemma Replays.waits (hnone : failure = none) : state'.receivesBody ∨
      nextSymbol responsePrefix 10 final = none ∧ ¬ TooLong final := by
  induction hreplays with
  | wait hwait => exact hwait
  | tooLong | failed => cases hnone
  | plain _ _ _ ih | frame _ _ _ _ _ ih => exact ih hnone

lemma Replays.tooLong_of_failure (hfailure : failure = some .responseTooLong) : TooLong final := by
  induction hreplays with
  | wait | failed => cases hfailure
  | tooLong _ hlong => exact hlong
  | plain _ _ _ ih | frame _ _ _ _ _ ih => exact ih hfailure

lemma Replays.short (hline : .frame line ∈ symbols) :
    responsePrefix.length + line.length ≤ maxControlBytes := by
  have hframe : ∀ {bs line rest}, ¬ TooLong bs →
      nextSymbol responsePrefix 10 bs = some (.frame line, rest) →
        responsePrefix.length + line.length ≤ maxControlBytes := by
    intro bs line rest hshort hnext
    unfold nextSymbol at hnext
    split_ifs at hnext with hmarker
    · obtain ⟨parts, hsplit, hpair⟩ := Option.map_eq_some_iff.mp hnext
      cases hpair
      by_contra hlong
      exact hshort ⟨hmarker, by simpa only [hsplit, not_le] using hlong⟩
    · cases bs <;> simp at hnext
  induction hreplays with
  | wait | tooLong => simp at hline
  | failed _ hshort hnext =>
    obtain rfl := Symbol.frame.inj (mem_singleton.mp hline)
    exact hframe hshort hnext
  | plain _ _ _ ih => exact ih ((mem_cons.mp hline).resolve_left (by simp))
  | frame _ hshort hnext _ _ ih =>
    rcases mem_cons.mp hline with heq | hmem
    · obtain rfl := Symbol.frame.inj heq
      exact hframe hshort hnext
    · exact ih hmem

end

lemma Replays.text {text : Bytes} (hbody : state.receivesBody = false)
    (hemits : Emits responsePrefix 10 bs (text.map .plain) rest)
    (hrest : Replays responder state rest symbols failure state' final) :
    Replays responder state bs (text.map .plain ++ symbols) failure state' final := by
  induction text generalizing bs with
  | nil =>
    cases hemits
    exact hrest
  | cons byte text ih =>
    cases hemits with
    | step hnext hmore => exact .plain hbody hnext (ih hmore)

lemma nextSymbol_takeFrame (hmarker : responsePrefix <+: bs)
    (hsplit : splitAtFirst 10 (bs.drop responsePrefix.length) = some (line, rest)) :
    nextSymbol responsePrefix 10 bs = some (.frame line, rest) := by
  rw [nextSymbol_of_marker hmarker, hsplit]
  rfl

/-- A call of `on_message` does with its buffer what `Replays` says; by induction on the turns of
the loop, each of which reads a text or a frame. -/
lemma messageLoop_replays {fuel : ℕ} (hfuel : cl.buffer.length ≤ fuel)
    (hst : cl.transferState ≠ .receivingDownload) (hfailure : cl.failure = none) :
    let after := messageLoop responder fed fuel cl
    ∃ symbols state', after.observed = cl.observed ++ symbols ∧
      Replays responder cl.transferState cl.buffer symbols after.failure state' after.buffer ∧
      (after.failure = none → after.transferState = state' ∧ state' ≠ .receivingDownload) := by
  have hempty : nextSymbol responsePrefix 10 [] = none ∧ ¬ TooLong [] :=
    ⟨by decide, fun hlong => absurd hlong.1 (by decide)⟩
  induction fuel generalizing cl with
  | zero =>
    have hnil := length_eq_zero_iff.mp (Nat.le_zero.mp hfuel)
    refine ⟨[], cl.transferState, (append_nil _).symm, ?_, fun _ => ⟨rfl, hst⟩⟩
    simp only [messageLoop, hfailure, hnil]
    exact .wait (.inr hempty)
  | succ fuel ih =>
    have hstays : (cl.transferState.receivesBody ∨
        nextSymbol responsePrefix 10 cl.buffer = none ∧ ¬ TooLong cl.buffer) →
        ∃ symbols state', cl.observed = cl.observed ++ symbols ∧
          Replays responder cl.transferState cl.buffer symbols cl.failure state' cl.buffer ∧
          (cl.failure = none → cl.transferState = state' ∧ state' ≠ .receivingDownload) := by
      intro hwait
      refine ⟨[], _, (append_nil _).symm, ?_, fun _ => ⟨rfl, hst⟩⟩
      rw [hfailure]
      exact .wait hwait
    rw [messageLoop]
    by_cases hnil : cl.buffer = []
    · rw [if_pos hnil]
      exact hstays (.inr (hnil ▸ hempty))
    rw [if_neg hnil]
    by_cases hwaiting : cl.transferState = .preparingDownload ∨
        cl.transferState = .finalizingDownload
    · rw [if_pos hwaiting]
      refine hstays (.inl ?_)
      rcases hwaiting with h | h <;> rw [h] <;> rfl
    rw [if_neg hwaiting, if_neg hst]
    have hbody : cl.transferState.receivesBody = false := by
      rw [not_or] at hwaiting
      revert hst hwaiting
      cases cl.transferState <;> simp [FileTransferState.receivesBody]
    cases hfind : findMarker responsePrefix cl.buffer with
    | none =>
      have hshort : ¬ TooLong (cl.buffer.drop (cl.buffer.length - keep cl.buffer)) :=
        fun hlong => not_prefix_of_findMarker_eq_none hfind _ hlong.1
      refine ⟨_, cl.transferState, rfl, ?_, fun _ => ⟨rfl, hst⟩⟩
      rw [show (cl.print _).failure = none from hfailure, ← append_nil (map _ _)]
      exact .text hbody (emits_print hfind) (.wait (.inr ⟨nextSymbol_kept _, hshort⟩))
    | some position =>
      cases position with
      | zero =>
        have hmarker : responsePrefix <+: cl.buffer := (findMarker_spec hfind).1
        cases hsplit : splitAtFirst 10 (cl.buffer.drop responsePrefix.length) with
        | none =>
          split_ifs with hlong
          · exact ⟨[], cl.transferState, (append_nil _).symm,
              .tooLong hbody ⟨hmarker, by simpa only [hsplit] using hlong⟩, nofun⟩
          · refine hstays (.inr ⟨?_, fun h => hlong (by simpa only [hsplit] using h.2)⟩)
            rw [nextSymbol_of_marker hmarker, hsplit]
            rfl
        | some pair =>
          obtain ⟨line, rest⟩ := pair
          have hnext := nextSymbol_takeFrame hmarker hsplit
          simp only
          by_cases hlong : responsePrefix.length + line.length > maxControlBytes
          · rw [if_pos hlong]
            exact ⟨[], cl.transferState, (append_nil _).symm,
              .tooLong hbody ⟨hmarker, by simpa only [hsplit] using hlong⟩, nofun⟩
          rw [if_neg hlong]
          have hshort : ¬ TooLong cl.buffer :=
            fun h => hlong (by simpa only [hsplit] using h.2)
          cases hrespond : responder.respond cl.transferState line with
          | none => exact ⟨_, _, rfl, .failed hbody hshort hnext hrespond, nofun⟩
          | some next =>
            have hless := length_takeFrame_lt hsplit
            obtain ⟨symbols, state', hobserved, hreplays, hend⟩ :=
              @ih { cl.takeFrame line rest with transferState := next }
                (by dsimp only [takeFrame]; omega)
                (fun h => responder.respond_ne _ _ (hrespond.trans (congrArg some h))) hfailure
            exact ⟨.frame line :: symbols, state', hobserved.trans (by simp [takeFrame]),
              .frame hbody hshort hnext hrespond hreplays, hend⟩
      | succ position =>
        obtain ⟨symbols, state', hobserved, hreplays, hend⟩ :=
          @ih (cl.print (position + 1)) (by simp only [print, length_drop]; omega) hst hfailure
        exact ⟨_, state', hobserved.trans (by simp [print]),
          .text hbody (emits_before hfind) hreplays, hend⟩

/-! ## Segmentation -/

/-- A call of `on_message`, unless an earlier one has failed and closed the connection. -/
def feed (responder : Responder) (fed : Option ℕ) (client : Client) (bytes : Bytes) : Client :=
  if client.failure.isSome then client else client.onMessage responder bytes fed

lemma foldl_feed_replays (chunks : List Bytes) {total : Bytes}
    (hst : cl.failure = none → cl.transferState ≠ .receivingDownload)
    (hreplays : ∃ state' final,
      Replays responder state total cl.observed cl.failure state' final ∧
        (cl.failure = none → cl.transferState = state' ∧ cl.buffer = final)) :
    let after := chunks.foldl (feed responder fed) cl
    ∃ state' final,
      Replays responder state (total ++ chunks.flatten) after.observed after.failure state' final ∧
        (after.failure = none → after.transferState = state' ∧ after.buffer = final) := by
  induction chunks generalizing cl total with
  | nil => simpa using hreplays
  | cons bs chunks ih =>
    obtain ⟨state', final, hreplays, hend⟩ := hreplays
    rw [foldl_cons, flatten_cons, ← append_assoc]
    unfold feed
    split_ifs with hfailed
    · refine ih hst ⟨state', final ++ bs, (hreplays.append bs).1 hfailed, fun hnone => ?_⟩
      simp [hnone] at hfailed
    · have hnone := Option.not_isSome_iff_eq_none.mp hfailed
      obtain ⟨rfl, rfl⟩ := hend hnone
      obtain ⟨symbols, state'', hobserved, hmore, hend'⟩ :=
        @messageLoop_replays responder fed
          { cl with buffer := cl.buffer ++ bs, failure := none } _ (le_refl _)
          (hst hnone) rfl
      have hwhole := (hreplays.append bs).2 hnone hmore
      rw [← hobserved] at hwhole
      exact ih (fun h => (hend' h).1 ▸ (hend' h).2)
        ⟨state'', _, hwhole, fun h => ⟨(hend' h).1, rfl⟩⟩

/-- A proper prefix of the marker, or a frame without its end. -/
def Begun (bytes : Bytes) : Prop :=
  bytes <+: responsePrefix ∧ bytes ≠ responsePrefix ∨
    responsePrefix <+: bytes ∧ 10 ∉ bytes.drop responsePrefix.length

/-- What is printed, what is handled and whether a response is too long do not depend on how the
bytes are cut into calls, up to the first failure: they are the symbols of the stream, and what is
kept back is the longest end that may become a frame. -/
theorem responses_unsegmented (responder : Responder) (fed : Option ℕ) (state : FileTransferState)
    (hstate : state.receivesBody = false) (chunks : List Bytes) :
    let start : Client := { transferState := state }
    let whole := start.onMessage responder chunks.flatten fed
    let parts := chunks.foldl (feed responder fed) start
    (parts.observed = whole.observed ∧ parts.failure = whole.failure ∧
      (whole.failure = none →
        parts.transferState = whole.transferState ∧ parts.buffer = whole.buffer)) ∧
    Emits responsePrefix 10 chunks.flatten whole.observed whole.buffer ∧
    (∀ line, .frame line ∈ whole.observed → responsePrefix.length + line.length ≤ maxControlBytes) ∧
    (whole.failure = some .responseTooLong → responsePrefix <+: whole.buffer ∧
      4097 ≤ whole.buffer.length ∧
      10 ∉ (whole.buffer.take 4097).drop responsePrefix.length) ∧
    (whole.failure = none → whole.transferState.receivesBody = false →
      (Begun whole.buffer ∧ ¬ TooLong whole.buffer) ∧
        ∀ symbols byte text, whole.observed = symbols ++ (byte :: text).map .plain →
          ¬ Begun (byte :: text ++ whole.buffer)) := by
  intro start whole parts
  have hready : state ≠ .receivingDownload := by
    rintro rfl
    cases hstate
  have hstart : ∃ state' final, Replays responder state [] start.observed start.failure state'
      final ∧ (start.failure = none → start.transferState = state' ∧ start.buffer = final) :=
    ⟨state, [], .wait (.inr ⟨by decide, fun hlong => absurd hlong.1 (by decide)⟩),
      fun _ => ⟨rfl, rfl⟩⟩
  obtain ⟨state', final, hparts, hpartsEnd⟩ :=
    @foldl_feed_replays responder fed start state chunks [] (fun _ => hready) hstart
  obtain ⟨symbols, state'', hobserved, hwhole, hwholeEnd⟩ :=
    @messageLoop_replays responder fed { start with buffer := chunks.flatten } _ (Nat.le_refl _)
      hready rfl
  rw [nil_append] at hobserved
  rw [← hobserved] at hwhole
  obtain ⟨hsymbols, hfailure, rfl, rfl⟩ := hparts.unique hwhole
  refine ⟨⟨hsymbols, hfailure, fun hnone => ?_⟩, hwhole.emits, fun line => hwhole.short,
    fun htoo => tooLong_iff.mp (hwhole.tooLong_of_failure htoo), fun hnone hbody => ?_⟩
  · obtain ⟨hlast, hbuffer⟩ := hpartsEnd (hfailure.trans hnone)
    exact ⟨hlast.trans (hwholeEnd hnone).1.symm, hbuffer⟩
  · rw [show whole.transferState = _ from (hwholeEnd hnone).1] at hbody
    obtain ⟨hnext, hshort⟩ := (hwhole.waits hnone).resolve_left (by simp [hbody])
    refine ⟨⟨nextSymbol_eq_none hnext, hshort⟩, fun symbols byte text htext hbegun => ?_⟩
    have hemits : Emits responsePrefix 10 chunks.flatten whole.observed whole.buffer := hwhole.emits
    rw [htext] at hemits
    exact hbegun.elim (fun h => hemits.not_begun.2 h.1) fun h => hemits.not_begun.1 h.1

def idleResponder : Responder := ⟨fun _ _ => some .idle, by simp⟩

theorem responses_unsegmented_split :
    ([ascii "hi\n@TL", ascii "SS OK\n"].foldl (feed idleResponder none) {}).observed =
      (({} : Client).onMessage idleResponder (ascii "hi\n@TLSS OK\n") none).observed :=
  (responses_unsegmented idleResponder none .idle rfl [ascii "hi\n@TL", ascii "SS OK\n"]).1.1

end Tlss.Ftp.Client
