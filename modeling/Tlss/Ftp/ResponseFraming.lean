import Tlss.Ftp.ResponseSegments

/-!
# Frames and text at the client

The client reads the stream of the server symbol by symbol, as far as it can be read:
`messageLoop_reads`.

The stream of the server means what the server meant, as long as no listing shows a name
that begins with `@TLSS`: `readAs_wire`. A directory with such a name is listed on a line
of its own behind a newline, and the client takes the line for a control frame.
-/

namespace Tlss.Ftp

open Library List

namespace Client

/-! ## What the client has read -/

/-- The client has read the symbols of the bytes that have arrived; it has read all that
can be read, unless it waits for a file or was interrupted. -/
structure Reads (total : Bytes) (client : Client) : Prop where
  emits : Emits responsePrefix 10 total client.observed client.buffer
  stuck : client.failure = none → client.transferState.receivesBody = false →
    nextSymbol responsePrefix 10 client.buffer = none
  tooLong : client.failure = some .responseTooLong → TooLong client.buffer

variable {responder : Responder} {fed : Option ℕ} {total : Bytes} {cl : Client}

lemma messageLoop_reads {fuel : ℕ} (hfuel : cl.buffer.length ≤ fuel)
    (hstate : cl.transferState ≠ .receivingDownload) (hfailure : cl.failure = none)
    (hemits : Emits responsePrefix 10 total cl.observed cl.buffer) :
    Reads total (messageLoop responder fed fuel cl) := by
  obtain ⟨symbols, state, hobserved, hreplays, hend⟩ :=
    @messageLoop_replays responder fed cl fuel hfuel hstate hfailure
  refine ⟨?_, fun hnone hbody => ?_, hreplays.tooLong_of_failure⟩
  · rw [hobserved]
    exact hemits.trans hreplays.emits
  · rw [(hend hnone).1] at hbody
    exact ((hreplays.waits hnone).resolve_left (by simp [hbody])).1

lemma Reads.receive (h : Reads total cl) (hbody : cl.transferState.receivesBody = false)
    (bytes : Bytes) (fed : Option ℕ) :
    Reads (total ++ bytes) (cl.onMessage responder bytes fed) := by
  refine messageLoop_reads (Nat.le_refl _) ?_ rfl (h.emits.append bytes)
  intro hstate
  rw [show cl.transferState = .receivingDownload from hstate] at hbody
  cases hbody

def Attentive (client : Client) (_ : Event) : Prop := client.transferState.receivesBody = false

instance (client : Client) (event : Event) : Decidable (client.Attentive event) :=
  inferInstanceAs (Decidable (_ = _))

lemma run_reads {events : List Event} (h : Reads total cl)
    (hattentive : StepsMeet (step responder) Attentive cl events) :
    Reads (total ++ received events) (run (step responder) cl events) := by
  induction events generalizing total cl with
  | nil => simpa [received] using h
  | cons event events ih =>
    obtain ⟨hbody, hrest⟩ := hattentive
    cases event with
    | receive bytes fed =>
      have hnext := ih (h.receive hbody bytes fed) hrest
      rwa [append_assoc] at hnext
    | turn state remaining =>
      refine ih ⟨h.emits, fun hfailure _ => h.stuck hfailure hbody, h.tooLong⟩ hrest

end Client

/-! ## What the server means -/

lemma nextSymbol_newline {rest : Bytes} (h : Innocent rest) :
    nextSymbol responsePrefix 10 (10 :: rest) = some (.plain 10, rest) := by
  have hmarker : responsePrefix = 10 :: markerTail := by decide
  rw [hmarker]
  refine nextSymbol_cons ?_ ?_
  · rw [cons_prefix_cons]
    exact fun hlong => h.1 hlong.2
  · rw [cons_prefix_cons]
    exact fun hlong => h.2 hlong.2

lemma nextSymbol_of_ne {byte : UInt8} (hne : byte ≠ 10) (rest : Bytes) :
    nextSymbol responsePrefix 10 (byte :: rest) = some (.plain byte, rest) := by
  have hmarker : responsePrefix = 10 :: markerTail := by decide
  rw [hmarker]
  refine nextSymbol_cons ?_ ?_
  · rw [cons_prefix_cons]
    exact fun hlong => hne hlong.1.symm
  · rw [cons_prefix_cons]
    exact fun hlong => hne hlong.1

/-- The bytes are read as these symbols, of which at most a last newline is kept back. -/
def ReadAs (bytes : Bytes) (symbols : List (Symbol UInt8)) : Prop :=
  ∃ read withheld, Emits responsePrefix 10 bytes read withheld ∧
    symbols = read ++ withheld.map .plain ∧ (withheld = [] ∨ withheld = [10])

lemma ReadAs.text {text rest : Bytes} {symbols : List (Symbol UInt8)} (hclean : Clean text)
    (hrest : ReadAs rest symbols) (hfirst : rest = [] ∨ Innocent rest) :
    ReadAs (text ++ rest) (text.map .plain ++ symbols) := by
  induction text with
  | nil => exact hrest
  | cons byte text ih =>
    obtain ⟨read, withheld, hemits, heq, hwithheld⟩ := ih hclean.2
    have hstep : nextSymbol responsePrefix 10 (byte :: (text ++ rest)) =
        some (.plain byte, text ++ rest) → ReadAs (byte :: text ++ rest)
          ((byte :: text).map .plain ++ symbols) := fun hnext =>
      ⟨.plain byte :: read, withheld, .step hnext hemits, by simp [heq], hwithheld⟩
    by_cases hnewline : byte = 10
    · subst hnewline
      have htail : text ++ rest = [] ∨ Innocent (text ++ rest) := by
        rcases hclean.1 rfl with rfl | hinnocent
        · exact hfirst
        · exact .inr (hinnocent.append rest)
      rcases htail with hnil | hinnocent
      · -- the last newline of the stream is kept back
        rw [hnil] at hemits
        obtain ⟨rfl, rfl⟩ := hemits.eq_nil_of_stuck (by decide)
        refine ⟨[], [10], ?_, by simpa using heq, .inr rfl⟩
        rw [cons_append, hnil]
        exact .refl _
      · exact hstep (nextSymbol_newline hinnocent)
    · exact hstep (nextSymbol_of_ne hnewline _)

lemma ReadAs.control (payload : ControlPayload) {rest : Bytes} {symbols : List (Symbol UInt8)}
    (hrest : ReadAs rest symbols) :
    ReadAs (controlFrame payload.payload ++ rest) (.frame payload.payload :: symbols) := by
  obtain ⟨read, withheld, hemits, heq, hwithheld⟩ := hrest
  refine ⟨.frame payload.payload :: read, withheld, .step ?_ hemits, by simp [heq], hwithheld⟩
  have hframe : controlFrame payload.payload ++ rest =
      responsePrefix ++ (payload.payload ++ 10 :: rest) := by
    simp [controlFrame, ascii]
  rw [hframe, nextSymbol_of_marker (prefix_append _ _), drop_left,
    splitAtFirst_eq_some payload.line]
  rfl

/-- No listing shows a name that looks like a frame. -/
def Output.Harmless : Output → Prop
  | text reply => reply.Harmless
  | control _ => True

lemma readAs_wire {outputs : List Output} (h : ∀ output ∈ outputs, output.Harmless) :
    ReadAs (wire outputs) (meaning outputs) ∧ (wire outputs = [] ∨ Innocent (wire outputs)) := by
  induction outputs with
  | nil => exact ⟨⟨[], [], .refl _, rfl, .inl rfl⟩, .inl rfl⟩
  | cons output outputs ih =>
    obtain ⟨hread, hfirst⟩ := ih fun other hother => h other (mem_cons_of_mem _ hother)
    have hharmless := h output (by simp)
    cases output with
    | text reply =>
      obtain ⟨hclean, hinnocent⟩ := Reply.clean_bytes hharmless
      exact ⟨.text hclean hread hfirst, .inr (hinnocent.append _)⟩
    | control payload =>
      refine ⟨.control payload hread, .inr ?_⟩
      obtain ⟨rest, hrest⟩ : ∃ rest, wire (.control payload :: outputs) = 10 :: rest :=
        ⟨_, rfl⟩
      rw [hrest]
      exact innocent_of_head (by decide)

lemma short_of_mem_meaning {outputs : List Output} {payload : Bytes}
    (h : .frame payload ∈ meaning outputs) :
    responsePrefix.length + payload.length ≤ maxControlBytes := by
  obtain ⟨output, -, hmem⟩ := mem_flatMap.mp h
  cases output with
  | text reply =>
    obtain ⟨byte, -, heq⟩ := mem_map.mp hmem
    cases heq
  | control sent =>
    cases mem_singleton.mp hmem
    exact sent.short

namespace Client

variable {total : Bytes} {cl : Client} {outputs : List Output}

lemma Reads.rest (h : Reads total cl) (hread : ReadAs (wire outputs) (meaning outputs))
    {more : Bytes} (hmore : total ++ more = wire outputs) :
    ∃ symbols withheld, meaning outputs = cl.observed ++ symbols ++ withheld.map .plain ∧
      Emits responsePrefix 10 (cl.buffer ++ more) symbols withheld ∧
      (withheld = [] ∨ withheld = [10]) := by
  obtain ⟨read, withheld, hemits, heq, hwithheld⟩ := hread
  have hclient := h.emits.append more
  rw [hmore] at hclient
  obtain ⟨symbols, rfl, hrest⟩ := hclient.rest_of_stuck hemits ((by rcases hwithheld with rfl | rfl
      <;> decide))
  exact ⟨symbols, withheld, heq, hrest, hwithheld⟩

lemma TooLong.payload {buffer more payload rest : Bytes} (h : TooLong buffer)
    (hsplit : splitAtFirst 10 ((buffer ++ more).drop responsePrefix.length) =
      some (payload, rest)) : responsePrefix.length + payload.length > maxControlBytes := by
  have hlong := (tooLong_append h more).2
  simpa only [hsplit] using hlong

lemma Reads.not_tooLong (h : Reads total cl)
    (hread : ReadAs (wire outputs) (meaning outputs)) (htotal : total <+: wire outputs) :
    cl.failure ≠ some .responseTooLong := by
  intro hfailure
  have hlong := h.tooLong hfailure
  obtain ⟨more, hmore⟩ := htotal
  obtain ⟨symbols, withheld, heq, hemits, hwithheld⟩ := h.rest hread hmore
  have hmarker := hlong.1.trans (prefix_append cl.buffer more)
  cases hemits with
  | refl =>
    have hlength := hmarker.length_le
    rw [length_responsePrefix] at hlength
    rcases hwithheld with hnil | hnewline
    · simp [hnil] at hlength
    · simp [hnewline] at hlength
  | step hnext _ =>
    rw [nextSymbol_of_marker hmarker] at hnext
    obtain ⟨⟨payload, rest⟩, hsplit, hpair⟩ := Option.map_eq_some_iff.mp hnext
    cases hpair
    have hmem : .frame payload ∈ meaning outputs := by
      rw [heq]
      simp
    exact absurd (short_of_mem_meaning hmem) (Nat.not_le_of_gt (hlong.payload hsplit))

/-- However the stream of harmless outputs is cut, a client that looks for frames has printed the
texts and handled the control frames of a first part of it, in order; in the end it has all but what
may be the beginning of a marker. -/
theorem responses_demultiplexed (responder : Responder) {outputs : List Output}
    (hharmless : ∀ output ∈ outputs, output.Harmless) {events : List Event}
    (hreceived : received events <+: wire outputs)
    (hattentive : StepsMeet (step responder) Attentive {} events) :
    (run (step responder) {} events).observed <+: meaning outputs ∧
      (run (step responder) {} events).failure ≠ some .responseTooLong ∧
      (received events = wire outputs → (run (step responder) {} events).failure = none →
        (run (step responder) {} events).transferState.receivesBody = false →
        ∃ withheld, meaning outputs =
            (run (step responder) {} events).observed ++ withheld.map .plain ∧
          withheld <+: responsePrefix ∧ withheld ≠ responsePrefix) := by
  have hstart : Reads [] {} := ⟨.refl _, fun _ _ => by decide, nofun⟩
  have hreads := run_reads hstart hattentive
  rw [nil_append] at hreads
  have hread := (readAs_wire hharmless).1
  refine ⟨?_, hreads.not_tooLong hread hreceived, fun hall hfailure hbody => ?_⟩
  · obtain ⟨more, hmore⟩ := hreceived
    obtain ⟨symbols, withheld, heq, -, -⟩ := hreads.rest hread hmore
    exact ⟨symbols ++ withheld.map .plain, by rw [heq, append_assoc]⟩
  · have hmore : received events ++ [] = wire outputs := by rw [append_nil, hall]
    obtain ⟨symbols, withheld, heq, hemits, hwithheld⟩ := hreads.rest hread hmore
    rw [append_nil] at hemits
    obtain ⟨rfl, -⟩ := hemits.eq_nil_of_stuck (hreads.stuck hfailure hbody)
    rw [append_nil] at heq
    refine ⟨withheld, heq, ?_⟩
    rcases hwithheld with rfl | rfl <;> decide

def samplePlace : Place where
  name := ascii "ann"
  currentDirectory := ascii "/"
  name_line := by decide
  directory_line := by decide
  directory_head := by decide

def sampleFile (name : Bytes) (h : validName name) : ListedFile where
  info := ⟨name, ascii "file", ascii "2026-01-01 08:00:00", ascii "2026-01-01 08:00:00"⟩
  accepted := .inl h
  type_eq := .inl rfl
  createAt_line := by
    change 10 ∉ ascii "2026-01-01 08:00:00"
    decide
  updateAt_line := by
    change 10 ∉ ascii "2026-01-01 08:00:00"
    decide

def sampleOutputs : List Output :=
  [.text (.notice .pleaseWait), .control ⟨ascii "AUTH_OK", by decide, by decide⟩,
    .text (.prompt .loginSuccessful samplePlace),
    .text (.listing [sampleFile (ascii "@TLS") (by decide)] samplePlace)]

/-- The stream arrives in two pieces, cut in the marker. -/
def sampleEvents : List Event :=
  [.receive ((wire sampleOutputs).take 17) none, .receive ((wire sampleOutputs).drop 17) none]

def sampleResponder : Responder where
  respond state _ := if state = .receivingDownload then none else some state
  respond_ne state _ := by split_ifs <;> simp_all

theorem responses_demultiplexed_sampleEvents : ∃ withheld, meaning sampleOutputs =
        (run (step sampleResponder) {} sampleEvents).observed ++ withheld.map .plain ∧
      withheld <+: responsePrefix ∧ withheld ≠ responsePrefix := by
  have hharmless : ∀ output ∈ sampleOutputs, output.Harmless := by
    have hname : HarmlessName (ascii "@TLS") := by decide
    simpa [sampleOutputs, Output.Harmless, Reply.Harmless, sampleFile] using hname
  have hall : received sampleEvents = wire sampleOutputs := by decide +kernel
  exact (responses_demultiplexed sampleResponder hharmless (hall ▸ prefix_refl _)
    (by decide +kernel)).2.2 hall (by decide +kernel) (by decide +kernel)

/-- A listing of two files, one of them named like a response. -/
def forgingOutputs : List Output :=
  [.text (.listing [sampleFile (ascii "a") (by decide), sampleFile (ascii "@TLSS OK") (by decide)]
    samplePlace)]

/-- The server sends only text, but the client handles a line of the listing as a response
and does not print it. -/
theorem listing_forges_response : (∀ payload, .frame payload ∉ meaning forgingOutputs) ∧
      .frame (ascii "OK  file       2026-01-01 08:00:00  2026-01-01 08:00:00\r") ∈
        (run (step sampleResponder) {} [.receive (wire forgingOutputs) none]).observed := by
  refine ⟨fun payload hmem => ?_, by decide +kernel⟩
  simp [meaning, forgingOutputs, Output.symbols] at hmem

end Client

end Tlss.Ftp
