import Tlss.Ftp.ServerOutput

/-!
# Command lines

What the server reads from a line: words and quoted fields, as an `std::istringstream` gives
them, and the requests for an upload or a download. An exception is an error with the text
of its `what()`.
-/

namespace Tlss.Ftp

open Library

def skipSpace (input : Bytes) : Bytes := input.dropWhile isSpace

/-- `input >> word`: the word, which is empty at the end of the input, and the rest. -/
def readWord (input : Bytes) : Bytes × Bytes :=
  (skipSpace input).span fun byte => !isSpace byte

def requireEnd (input : Bytes) : Except String Unit :=
  if skipSpace input = [] then .ok () else .error "unexpected trailing arguments"

/-- `std::quoted`, behind the opening quote: `none` if there is no closing one. -/
def readQuoted : Bytes → Option (Bytes × Bytes)
  | [] => none
  | 34 :: rest => some ([], rest)
  | [92] => none
  | 92 :: escaped :: rest => (readQuoted rest).map fun (value, rest) => (escaped :: value, rest)
  | byte :: rest => (readQuoted rest).map fun (value, rest) => (byte :: value, rest)

def readField (input : Bytes) : Except String (Bytes × Bytes) :=
  match skipSpace input with
  | [] => .error "missing argument"
  | 34 :: rest =>
    match readQuoted rest with
    | none => .error "missing argument"
    | some field => .ok field
  | rest => .ok (readWord rest)

def parseSize (text : Bytes) : Except String ℕ :=
  if text ≠ [] ∧ text.all isDigit ∧ decimalValue text ≤ 2 ^ 63 - 1 then .ok (decimalValue text)
  else .error "invalid file size"

def parseName (input : Bytes) : Except String Bytes := do
  let (name, rest) ← readField input
  requireEnd rest
  if validName name then .ok name else .error "invalid remote filename"

structure UploadRequest where
  size : ℕ
  name : Bytes
deriving DecidableEq

def parseUploadRequest (args : Bytes) : Except String UploadRequest := do
  let (sizeText, rest) := readWord args
  if sizeText = [] then .error "missing file size"
  let size ← parseSize sizeText
  let name ← parseName rest
  return { size, name }

inductive HandleCommand
  | login
  | signup
  | cd
  | ls
  | pwd
  | mkdir
  | download
  | upload
  | unknown
deriving DecidableEq

def stringToCommand (command : Bytes) : HandleCommand :=
  if command = ascii "login" then .login
  else if command = ascii "signup" then .signup
  else if command = ascii "cd" then .cd
  else if command = ascii "ls" then .ls
  else if command = ascii "pwd" then .pwd
  else if command = ascii "mkdir" then .mkdir
  else if command = ascii "download" then .download
  else if command = ascii "upload" then .upload
  else .unknown

def splitCommand (line : Bytes) : Bytes × Bytes :=
  let (command, rest) := readWord line
  (command, skipSpace rest)

def withoutReturn (raw : Bytes) : Bytes := if raw.getLast? = some 13 then raw.dropLast else raw

/-- A control line that acknowledges a download, from behind its marker. -/
def isAcknowledgement (line : Bytes) : Bool :=
  (readWord line).1 = ascii "ACK" && skipSpace (readWord line).2 = []

end Tlss.Ftp
