import Tlss.Ftp.TransferConnection
import Mathlib.Data.Nat.Digits.Lemmas

/-!
# Requests for a transfer

The lines with which a client asks for an upload or a download, and what the server reads from
them. A name is sent as a quoted field, with a backslash in front of every quote in it. The
bytes that `valid_name` excludes are those that end a line, so a request is one line and gives
its name back, whatever blanks and quotes it has.
-/

namespace Tlss.Ftp

open Library List

def escaped (value : Bytes) : Bytes :=
  value.flatMap fun byte => if byte = 34 || byte = 92 then [92, byte] else [byte]

/-- `out << std::quoted(value)`. -/
def quote (value : Bytes) : Bytes := 34 :: escaped value ++ [34]

/-- What `Client::upload` sends between `@TLSS ` and the newline. -/
def uploadText (request : UploadRequest) : Bytes :=
  ascii "UPLOAD " ++ decimal request.size ++ ascii " " ++ quote request.name

/-- What `Client::download` sends between `@TLSS ` and the newline. -/
def downloadText (name : Bytes) : Bytes := ascii "DOWNLOAD " ++ quote name

variable {name rest word : Bytes} {request : UploadRequest}

/-! ## Reading -/

lemma readQuoted_escaped (name rest : Bytes) :
    readQuoted (escaped name ++ 34 :: rest) = some (name, rest) := by
  induction name with
  | nil => simp [escaped, readQuoted]
  | cons byte name ih =>
    rw [escaped, flatMap_cons, ← escaped, append_assoc]
    split_ifs with hspecial
    · simp [readQuoted, ih]
    · simp only [Bool.or_eq_true, decide_eq_true_eq, not_or] at hspecial
      rw [singleton_append, readQuoted]
      · simp [ih]
      all_goals simp [hspecial]

lemma parseName_quote (hname : validName name) : parseName (quote name) = .ok name := by
  have hfield : readField (quote name) = .ok (name, []) := by
    simp [readField, quote, skipSpace, isSpace, readQuoted_escaped]
  rw [parseName, hfield]
  change (if validName name then _ else _) = _
  rw [if_pos hname]

lemma parseName_space (input : Bytes) : parseName (32 :: input) = parseName input := by
  simp [parseName, readField, skipSpace, isSpace]

section

variable (hword : word ≠ [] ∧ word.any isSpace = false)
include hword

lemma skipSpace_append : skipSpace (word ++ rest) = word ++ rest := by
  obtain ⟨byte, tail, rfl⟩ := exists_cons_of_ne_nil hword.1
  have hfirst := any_eq_false.mp hword.2 byte (by simp)
  simp [skipSpace, hfirst]

lemma readWord_append : readWord (word ++ 32 :: rest) = (word, 32 :: rest) := by
  have hall : ∀ byte ∈ word, (!isSpace byte) = true := by simpa using any_eq_false.mp hword.2
  rw [readWord, skipSpace_append hword, span_eq_takeWhile_dropWhile, takeWhile_append_of_pos hall,
    dropWhile_append_of_pos hall]
  simp [isSpace]

end

lemma isSpace_of_isDigit {byte : UInt8} (hdigit : isDigit byte) : isSpace byte = false := by
  simp only [isDigit, Bool.and_eq_true, decide_eq_true_eq] at hdigit
  simp only [isSpace, Bool.or_eq_false_iff, Bool.and_eq_false_iff, decide_eq_false_iff_not,
    UInt8.le_iff_toNat_le, ← UInt8.toNat_inj, UInt8.reduceToNat]
  omega

lemma decimal_word (number : ℕ) : decimal number ≠ [] ∧ (decimal number).any isSpace = false := by
  constructor
  · unfold decimal
    split_ifs with hzero
    · simp
    · simpa using Nat.digits_ne_nil_iff_ne_zero.mpr hzero
  · rw [any_eq_false]
    intro byte hbyte
    simp [isSpace_of_isDigit (isDigit_of_mem_decimal hbyte)]

lemma parseUploadRequest_quote (hsize : request.size ≤ 2 ^ 63 - 1)
    (hname : validName request.name) :
    parseUploadRequest (decimal request.size ++ 32 :: quote request.name) = .ok request := by
  have hword := decimal_word request.size
  have hdigits : (decimal request.size).all isDigit :=
    all_eq_true.mpr fun _ => isDigit_of_mem_decimal
  have hparse : parseSize (decimal request.size) = .ok request.size := by
    rw [parseSize, decimalValue_decimal, if_pos ⟨hword.1, hdigits, hsize⟩]
  rw [parseUploadRequest, readWord_append hword]
  simp only [if_neg hword.1, hparse, parseName_space, parseName_quote hname]
  rfl

lemma parseUploadRequest_sound {args : Bytes} (hparse : parseUploadRequest args = .ok request) :
    request.size ≤ 2 ^ 63 - 1 ∧ validName request.name := by
  simp only [parseUploadRequest, parseSize, parseName, bind, Except.bind, pure,
    Except.pure] at hparse
  grind

/-! ## Framing -/

lemma quote_framed (hname : validName name) : 10 ∉ quote name ∧ (quote name).length ≤ 512 := by
  simp only [validName, Bool.and_eq_true, decide_eq_true_eq, all_eq_true] at hname
  obtain ⟨⟨⟨⟨-, hlength⟩, -⟩, -⟩, hbytes⟩ := hname
  have hescaped : (escaped name).length ≤ 2 * name.length := by
    clear hbytes hlength
    induction name with
    | nil => simp [escaped]
    | cons byte name ih =>
      rw [escaped, flatMap_cons, ← escaped, length_append, length_cons]
      split_ifs <;> simp <;> omega
  have hline : 10 ∉ escaped name := by
    intro hmem
    obtain ⟨byte, hbyte, hin⟩ := mem_flatMap.mp hmem
    have hlow := hbytes byte hbyte
    split_ifs at hin <;> simp at hin <;> simp [← hin] at hlow
  constructor
  · simp [quote, hline]
  · simp only [quote, length_append, length_cons, length_nil]
    omega

namespace TransferConnection

/-- A session that takes a request, with `buffer` to read. -/
structure Awaits (conn : TransferConnection) (buffer : Bytes) : Prop where
  state : conn.state = .connected
  authenticated : conn.authenticated = true
  transfer : conn.transfer = none
  directory : conn.directoryPending = false
  buffer : conn.buffer = buffer

/-- The connection from which a control line was taken. -/
def takeControl (conn : TransferConnection) (text : Bytes) : TransferConnection :=
  (conn.takeLine (ascii "@TLSS " ++ text)).endWindow

variable {conn : TransferConnection} {front more : Bytes} {choices : Choices} {fuel : ℕ}

/-- A control line that ends with a quoted name is taken as one line. -/
lemma messageLoop_of_control (hname : validName name) (hfront : 10 ∉ front)
    (hlength : front.length ≤ 80)
    (h : conn.Awaits (ascii "@TLSS " ++ (front ++ quote name) ++ 10 :: more))
    {next : TransferConnection}
    (hnext : (conn.takeLine (ascii "@TLSS " ++ (front ++ quote name))).handleTransferControl
      (front ++ quote name) choices conn.position = (true, next)) :
    messageLoop choices (fuel + 1) conn = messageLoop choices fuel next := by
  obtain ⟨hquoted, hshort⟩ := quote_framed hname
  have hmarker : (ascii "@TLSS ").length = 6 := by decide
  have hraw : 10 ∉ ascii "@TLSS " ++ (front ++ quote name) := by
    rw [mem_append, mem_append, not_or, not_or]
    exact ⟨by decide, hfront, hquoted⟩
  have hwhole : withoutReturn (ascii "@TLSS " ++ (front ++ quote name)) =
      ascii "@TLSS " ++ (front ++ quote name) := by
    rw [withoutReturn, quote, ← append_assoc, ← append_assoc, getLast?_concat, if_neg (by decide)]
  have hfits : ¬ (ascii "@TLSS " ++ (front ++ quote name)).length > maxControlBytes := by
    rw [length_append, length_append, hmarker, maxControlBytes]
    omega
  rw [messageLoop, if_neg (by simp [h.state, h.buffer])]
  simp only [phase, h.transfer, h.buffer, splitAtFirst_eq_some hraw more, handleLine, hwhole,
    if_neg hfits, h.authenticated, decide_eq_true (prefix_append _ _), Bool.and_self, if_true,
    drop_left' hmarker, hnext]

lemma Awaits.control {buffer args : Bytes} {start : ℕ} (h : conn.Awaits buffer) (raw verb : Bytes)
    (hverb : verb ≠ [] ∧ verb.any isSpace = false) (hargs : skipSpace args = args) :
    (conn.takeLine raw).handleTransferControl (verb ++ 32 :: args) choices start =
      let conn := (conn.takeLine raw).endWindow
      if verb = ascii "UPLOAD" then (true, conn.handleUpload args (choices.accepted start))
      else if verb = ascii "DOWNLOAD" then
        (true, conn.handleDownload args (choices.opened start))
      else (true, conn.transferFailed "unknown transfer command") := by
  have htransfer : (conn.takeLine raw).transfer = none := h.transfer
  have hskip : skipSpace (32 :: args) = args := hargs
  simp only [handleTransferControl, readWord_append hverb, htransfer, hskip]

lemma Awaits.whenReady {buffer text : Bytes} (h : conn.Awaits buffer)
    (proceed : TransferConnection) : (conn.takeControl text).whenReady proceed = proceed := by
  have hauthenticated : (conn.takeControl text).authenticated = true := h.authenticated
  have htransfer : (conn.takeControl text).transfer = none := h.transfer
  have hdirectory : (conn.takeControl text).directoryPending = false := h.directory
  simp [TransferConnection.whenReady, hauthenticated, htransfer, hdirectory]

/-- A request with a valid name is one line, within the limit, and starts a transfer of exactly
the size and the name that were asked for, whatever else is in the buffer. What is accepted as
the arguments of an upload is a size that an `off_t` can hold and a valid name. -/
theorem transfer_requests_recovered :
    (∀ (request : UploadRequest) (conn : TransferConnection) (choices : Choices) (fuel : ℕ)
        (more : Bytes), request.size ≤ 2 ^ 63 - 1 → validName request.name →
      conn.Awaits (ascii "@TLSS " ++ uploadText request ++ 10 :: more) →
      messageLoop choices (fuel + 1) conn = messageLoop choices fuel
        (((conn.takeControl (uploadText request)).createTask .upload .preparingUpload request.name
          request.size).startUpload conn.count (choices.accepted conn.position))) ∧
      (∀ (name : Bytes) (conn : TransferConnection) (choices : Choices) (fuel : ℕ) (more : Bytes),
        validName name → conn.Awaits (ascii "@TLSS " ++ downloadText name ++ 10 :: more) →
        messageLoop choices (fuel + 1) conn = messageLoop choices fuel
          (((conn.takeControl (downloadText name)).createTask .download .preparingDownload name
            0).startDownload conn.count (choices.opened conn.position))) ∧
      ∀ args request, parseUploadRequest args = .ok request →
        request.size ≤ 2 ^ 63 - 1 ∧ validName request.name := by
  refine ⟨fun request conn choices fuel more hsize hname h => ?_,
    fun name conn choices fuel more hname h => ?_, fun _ _ => parseUploadRequest_sound⟩
  · have hdigits : (decimal request.size).length ≤ 19 := by
      unfold decimal
      split_ifs
      · simp
      · rw [length_reverse, length_map, Nat.digits_length_le_iff (by decide)]
        omega
    refine messageLoop_of_control hname ?_ ?_ h ?_
    · simp only [mem_append, not_or]
      refine ⟨⟨by decide, fun hmem => ?_⟩, by decide⟩
      exact absurd (isDigit_of_mem_decimal hmem) (by decide)
    · have hverb : (ascii "UPLOAD ").length = 7 := by decide
      have hspace : (ascii " ").length = 1 := by decide
      rw [length_append, length_append, hverb, hspace]
      omega
    · have htext : ascii "UPLOAD " ++ decimal request.size ++ ascii " " ++ quote request.name =
          ascii "UPLOAD" ++ 32 :: (decimal request.size ++ 32 :: quote request.name) := by
        rw [append_assoc, append_assoc]
        rfl
      rw [uploadText, htext, h.control _ (ascii "UPLOAD") (by decide)
        (skipSpace_append (decimal_word _)), if_pos rfl, handleUpload,
        parseUploadRequest_quote hsize hname]
      exact congrArg (Prod.mk true) (h.whenReady _)
  · refine messageLoop_of_control hname (by decide) (by decide) h ?_
    have htext : ascii "DOWNLOAD " ++ quote name = ascii "DOWNLOAD" ++ 32 :: quote name := rfl
    rw [htext, h.control _ (ascii "DOWNLOAD") (by decide) rfl, if_neg (by decide), if_pos rfl,
      handleDownload, parseName_quote hname]
    exact congrArg (Prod.mk true) (h.whenReady _)

/-- A client that is logged in uploads a file whose name has a blank and a quote in it. -/
theorem transfer_requests_recovered_upload :
    let request : UploadRequest := ⟨5, ascii "a \"b"⟩
    let conn := { new with
      authenticated := true
      buffer := ascii "@TLSS " ++ uploadText request ++ [10] }
    validName request.name ∧ messageLoop ⟨fun _ => true, fun _ => none, fun _ => 0⟩ 1 conn =
      ((conn.takeControl (uploadText request)).createTask .upload .preparingUpload request.name
        5).startUpload 0 true :=
  ⟨by decide, transfer_requests_recovered.1 ⟨5, ascii "a \"b"⟩ _ _ 0 [] (by decide) (by decide)
    ⟨rfl, rfl, rfl, rfl, rfl⟩⟩

end TransferConnection

end Tlss.Ftp
