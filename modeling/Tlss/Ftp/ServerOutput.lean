import Tlss.Ftp.MetadataCache
import Tlss.Library.Marker

/-!
# What the server writes to a client

The replies of the storage service are text: prompts, messages and directory listings.
Between them stand control frames, which begin with a newline and `@TLSS `. Text and
frames share the connection, so a client tells them apart by that marker alone.

A text is `Clean` if no newline in it begins a marker, whatever is written after it. All
texts of the server are, apart from a listing with a name that begins with `@TLSS`.
-/

namespace Tlss.Ftp

open Library List

def ascii (text : String) : Bytes := text.toList.map fun char => UInt8.ofNat char.toNat

def responsePrefix : Bytes := ascii "\n@TLSS "

def maxControlBytes : ℕ := 4096

/-- What `Transfer::send_control` writes. -/
def controlFrame (payload : Bytes) : Bytes := responsePrefix ++ payload ++ ascii "\n"

def validName (name : Bytes) : Bool :=
  name ≠ [] && name.length ≤ 255 && name ≠ ascii "." && name ≠ ascii ".." &&
    name.all fun byte => byte ≥ 32 && byte ≠ 127 && byte ≠ 47 && byte ≠ 92

def isSpace (byte : UInt8) : Bool := byte = 32 || (9 ≤ byte && byte ≤ 13)

/-- The arguments of a command line: what follows the command, without leading blanks. A
line has no newline. -/
def validArgument (argument : Bytes) : Bool :=
  10 ∉ argument && !(argument.head?.any isSpace)

def mkdirName (name : Bytes) : Bool := name ≠ [] && validArgument name

/-! ## Replies -/

inductive Notice
  | welcome | choose | chooseHelp | pleaseWait | bye | cdUsage | invalidCommand | busy
  | cannotChangeDirectory | createDirFailed
  | username | usernameLength | password | passwordLength | invalidCredentials | loginUnavailable
  | newUsername | usernameForm | usernameTaken | newPassword | passwordForm | confirmPassword
  | passwordMismatch | signupSuccessful | signupUnknown | signupUnavailable
deriving DecidableEq

def Notice.text : Notice → String
  | welcome => "Welcome to TLSS.\r\n"
  | choose => "Please enter login or signup:\r\ntlss>"
  | chooseHelp => "Commands : login or signup\r\ntlss>"
  | pleaseWait => "Please wait.\r\n"
  | bye => "bye!\r\n"
  | cdUsage => "Usage: cd <directory>"
  | invalidCommand => "Invalid command"
  | busy => "Server busy. Please retry.\r\n"
  | cannotChangeDirectory => "Cannot change directory.\r\n"
  | createDirFailed => "create dir failed\r\n"
  | username => "Username:"
  | usernameLength => "Username must contain 1 to 64 bytes.\r\nUsername:"
  | password => "Password:"
  | passwordLength => "Password must contain 1 to 128 bytes.\r\nPassword:"
  | invalidCredentials => "Invalid username or password.\r\nUsername:"
  | loginUnavailable => "Service unavailable. Please retry.\r\nUsername:"
  | newUsername => "New username (3-64 letters, digits or underscore):"
  | usernameForm => "Use 3-64 letters, digits or underscore.\r\nNew username:"
  | usernameTaken => "Username is already taken.\r\nNew username:"
  | newPassword => "New password (8-128 bytes, no control characters):"
  | passwordForm => "Use 8-128 bytes without control characters.\r\nNew password:"
  | confirmPassword => "Confirm password:"
  | passwordMismatch => "Passwords do not match.\r\nNew password:"
  | signupSuccessful => "Signup successful. Please log in.\r\n"
  | signupUnknown => "Signup result is unknown. Try logging in before signing up again.\r\n"
  | signupUnavailable => "Service unavailable. Please retry.\r\n"

inductive Lead
  | nothing | newLine | help | busy | loginSuccessful | queryFailed
deriving DecidableEq

def Lead.text : Lead → String
  | nothing => ""
  | newLine => "\r\n"
  | help => "Commands : ls pwd cd mkdir upload or download\r\n"
  | busy => "Server busy. Please retry.\r\n"
  | loginSuccessful => "Login successful.\r\n"
  | queryFailed => "Query failed.\r\n"

/-- A session as its prompt shows it. The name was entered in a line, and a directory is
a path of such names. -/
structure Place where
  name : Bytes
  currentDirectory : Bytes
  name_line : 10 ∉ name
  directory_line : 10 ∉ currentDirectory
  directory_head : currentDirectory.head? = some 47

def Place.prompt (place : Place) : Bytes :=
  ascii "tlss@" ++ place.name ++ ascii ":" ++ place.currentDirectory ++ ascii ">"

/-- A file or directory as `ls` shows it: the name was accepted by an upload or by
`mkdir`, the type is one of two, the times come from the database. -/
structure ListedFile where
  info : FileInfo
  accepted : validName info.fileName ∨ mkdirName info.fileName
  type_eq : info.type = ascii "file" ∨ info.type = ascii "directory"
  createAt_line : 10 ∉ info.createAt
  updateAt_line : 10 ∉ info.updateAt

/-- `std::left << std::setw(width)`. -/
def padRight (width : ℕ) (field : Bytes) : Bytes :=
  field ++ replicate (width - field.length) 32

def FileInfo.line (file : FileInfo) : Bytes :=
  padRight 8 file.fileName ++ ascii "  " ++ padRight 9 file.type ++ ascii "  " ++
    file.createAt ++ ascii "  " ++ file.updateAt ++ ascii "\r\n"

inductive Reply
  | notice (notice : Notice)
  | prompt (lead : Lead) (place : Place)
  | pwd (place : Place)
  /-- `lookup_file_by_cur_dir`. -/
  | listing (files : List ListedFile) (place : Place)

def Reply.bytes : Reply → Bytes
  | notice message => ascii message.text
  | prompt lead place => ascii lead.text ++ place.prompt
  | pwd place => place.currentDirectory ++ ascii "\r\n" ++ place.prompt
  | listing files place => (files.flatMap fun file => file.info.line) ++ place.prompt

/-- A control frame that fits: no newline in the payload, and not longer than a client
accepts. -/
structure ControlPayload where
  payload : Bytes
  line : 10 ∉ payload
  short : responsePrefix.length + payload.length ≤ maxControlBytes

/-- What the server writes to a connection, apart from file bodies. -/
inductive Output
  | text (reply : Reply)
  | control (payload : ControlPayload)

def Output.bytes : Output → Bytes
  | text reply => reply.bytes
  | control payload => controlFrame payload.payload

def Output.symbols : Output → List (Symbol UInt8)
  | text reply => reply.bytes.map .plain
  | control payload => [.frame payload.payload]

def wire (outputs : List Output) : Bytes := outputs.flatMap Output.bytes

def meaning (outputs : List Output) : List (Symbol UInt8) := outputs.flatMap Output.symbols

/-! ## Texts without a marker -/

def markerTail : Bytes := ascii "@TLSS "

def Innocent (bytes : Bytes) : Prop := ¬ markerTail <+: bytes ∧ ¬ bytes <+: markerTail

instance (bytes : Bytes) : Decidable (Innocent bytes) :=
  inferInstanceAs (Decidable (¬ _ ∧ ¬ _))

/-- No newline of the text begins a marker, whatever follows the text; what follows a last
newline is left open. -/
def Clean : Bytes → Prop
  | [] => True
  | byte :: rest => (byte = 10 → rest = [] ∨ Innocent rest) ∧ Clean rest

instance decidableClean : ∀ bytes : Bytes, Decidable (Clean bytes)
  | [] => inferInstanceAs (Decidable True)
  | _ :: rest => @instDecidableAnd _ _ _ (decidableClean rest)

lemma Innocent.append {bs : Bytes} (h : Innocent bs) (more : Bytes) : Innocent (bs ++ more) :=
  ⟨fun hlong => (List.prefix_or_prefix_of_prefix hlong (prefix_append bs more)).elim
      h.1 h.2,
    fun hlong => h.2 ((prefix_append bs more).trans hlong)⟩

lemma innocent_of_head {byte : UInt8} {rest : Bytes} (hne : byte ≠ 64) :
    Innocent (byte :: rest) := by
  have htail : markerTail = 64 :: ascii "TLSS " := by decide
  rw [Innocent, htail, cons_prefix_cons, cons_prefix_cons]
  exact ⟨fun h => hne h.1.symm, fun h => hne h.1⟩

lemma clean_of_notMem {bs : Bytes} (h : 10 ∉ bs) : Clean bs := by
  induction bs with
  | nil => trivial
  | cons byte rest ih =>
    rw [mem_cons, not_or] at h
    exact ⟨fun heq => absurd heq.symm h.1, ih h.2⟩

lemma Clean.append {early late : Bytes} (hearly : Clean early) (hlate : Clean late)
    (hfirst : late = [] ∨ Innocent late) : Clean (early ++ late) := by
  induction early with
  | nil => exact hlate
  | cons byte rest ih =>
    refine ⟨fun heq => ?_, ih hearly.2⟩
    rcases hearly.1 heq with rfl | hinnocent
    · exact hfirst
    · exact .inr (hinnocent.append late)

lemma Place.innocent_prompt (place : Place) : Innocent place.prompt := by
  have hprompt : place.prompt = 116 :: (ascii "lss@" ++ place.name ++ ascii ":" ++
      place.currentDirectory ++ ascii ">") := rfl
  rw [hprompt]
  exact innocent_of_head (by decide)

lemma Place.clean_prompt (place : Place) : Clean place.prompt := by
  refine clean_of_notMem ?_
  have htext : 10 ∉ ascii "tlss@" ∧ 10 ∉ ascii ":" ∧ 10 ∉ ascii ">" := by decide
  simp [Place.prompt, place.name_line, place.directory_line, htext]

/-- The line of a file with this name does not look like a frame. -/
def HarmlessName (name : Bytes) : Prop := ¬ markerTail <+: padRight 8 name

instance (name : Bytes) : Decidable (HarmlessName name) := inferInstanceAs (Decidable (¬ _))

lemma ListedFile.notMem_fileName (file : ListedFile) : 10 ∉ file.info.fileName := by
  rcases file.accepted with hvalid | hmkdir
  · intro hmem
    simp only [validName, Bool.and_eq_true, all_eq_true] at hvalid
    exact absurd (hvalid.2 10 hmem) (by decide)
  · simp only [mkdirName, validArgument, Bool.and_eq_true, decide_eq_true_eq] at hmkdir
    exact hmkdir.2.1

lemma notMem_padRight {width : ℕ} {field : Bytes} (h : 10 ∉ field) : 10 ∉ padRight width field := by
  simp [padRight, h]

lemma innocent_line (file : FileInfo) (h : HarmlessName file.fileName) : Innocent file.line := by
  have hname : Innocent (padRight 8 file.fileName) := by
    refine ⟨h, fun hlong => ?_⟩
    have hlength := hlong.length_le
    have htail : markerTail.length = 6 := by decide
    simp only [padRight, length_append, length_replicate, htail] at hlength
    omega
  simp only [FileInfo.line, append_assoc]
  exact hname.append _

lemma ListedFile.clean_line (file : ListedFile) : Clean file.info.line := by
  refine Clean.append (clean_of_notMem ?_) (by decide) (.inr (by decide))
  have htype : 10 ∉ file.info.type := by
    rcases file.type_eq with h | h <;> rw [h] <;> decide
  have hblank : 10 ∉ ascii "  " := by decide
  simp [notMem_padRight file.notMem_fileName, notMem_padRight htype, hblank, file.createAt_line,
    file.updateAt_line]

/-- No file of a listing has a name that looks like a frame. -/
def Reply.Harmless : Reply → Prop
  | listing files _ => ∀ file ∈ files, HarmlessName file.info.fileName
  | _ => True

lemma clean_listing {files : List ListedFile}
    (h : ∀ file ∈ files, HarmlessName file.info.fileName) (place : Place) :
    Clean ((files.flatMap fun file => file.info.line) ++ place.prompt) ∧
      Innocent ((files.flatMap fun file => file.info.line) ++ place.prompt) := by
  induction files with
  | nil => exact ⟨place.clean_prompt, place.innocent_prompt⟩
  | cons file files ih =>
    obtain ⟨hclean, hinnocent⟩ := ih fun other hother => h other (mem_cons_of_mem _ hother)
    rw [flatMap_cons, append_assoc]
    exact ⟨file.clean_line.append hclean (.inr hinnocent),
      (innocent_line file.info (h file (by simp))).append _⟩

lemma Reply.clean_bytes {reply : Reply} (h : reply.Harmless) :
    Clean reply.bytes ∧ Innocent reply.bytes := by
  cases reply with
  | notice message => cases message <;> decide
  | prompt lead place =>
    refine ⟨Clean.append ?_ place.clean_prompt (.inr place.innocent_prompt), ?_⟩
    · cases lead <;> decide
    · cases lead with
      | nothing => exact place.innocent_prompt
      | _ => exact Innocent.append (by decide) _
  | pwd place =>
    obtain ⟨rest, hrest⟩ := head?_eq_some_iff.mp place.directory_head
    refine ⟨Clean.append ?_ place.clean_prompt (.inr place.innocent_prompt), ?_⟩
    · exact Clean.append (clean_of_notMem place.directory_line) (by decide) (.inr (by decide))
    · simp only [Reply.bytes, hrest, cons_append]
      exact innocent_of_head (by decide)
  | listing files place => exact clean_listing h place

end Tlss.Ftp
