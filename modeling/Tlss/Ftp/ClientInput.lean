import Tlss.Ftp.ServerOutput

/-!
# The client reads the connection

`Client::on_message` takes the input buffer apart: text is printed, the payload of a
control frame is given to `handle_transfer_response`, and while a file is received the
buffer belongs to its writer. A text that may be the beginning of a marker is kept back
until more has arrived.

`handle_transfer_response` is a parameter: it takes the client to another state or throws.
What is printed and what is handled are kept together in the order in which it happens.
-/

namespace Tlss.Ftp

open Library

inductive FileTransferState
  | idle
  | preparingUploadSource
  | waitingUploadReady
  | waitingUploadResult
  | waitingDownloadHeader
  | preparingDownload
  | receivingDownload
  | waitingDownloadDone
  | finalizingDownload
  | waitingDownloadOk
deriving DecidableEq

def FileTransferState.receivesBody : FileTransferState → Bool
  | preparingDownload | receivingDownload | finalizingDownload => true
  | _ => false

inductive ClientFailure
  | receiverMissing
  | receiverFailed
  | responseTooLong
  | responseFailed
deriving DecidableEq

/-- The part of `Client` that `on_message` works on. `remaining` is what the download
writer still expects, if there is one; `failure` is the exception that ended the last
`on_message`. -/
structure Client where
  transferState : FileTransferState := .idle
  buffer : Bytes := []
  remaining : Option ℕ := none
  failure : Option ClientFailure := none
  observed : List (Symbol UInt8) := []

namespace Client

/-- `handle_transfer_response`: the next state, unless it throws. It never begins to
receive a body: a download is prepared first, and a callback goes on. -/
structure Responder where
  respond : FileTransferState → Bytes → Option FileTransferState
  respond_ne : ∀ state line, respond state line ≠ some .receivingDownload

def print (client : Client) (count : ℕ) : Client :=
  { client with
    buffer := client.buffer.drop count
    observed := client.observed ++ (client.buffer.take count).map .plain }

/-- The handler of `on_message`, with `reset_transfer`. -/
def fail (client : Client) (failure : ClientFailure) : Client :=
  { client with transferState := .idle, remaining := none, failure := some failure }

/-- A frame is taken from the buffer, for `handle_transfer_response`. -/
def takeFrame (client : Client) (line rest : Bytes) : Client :=
  { client with buffer := rest, observed := client.observed ++ [.frame line] }

/-- The loop that looks for the longest end of the bytes which begins a marker. -/
def keepFrom (bytes : Bytes) : ℕ → ℕ
  | 0 => 0
  | keep + 1 =>
    if bytes.drop (bytes.length - (keep + 1)) = responsePrefix.take (keep + 1) then keep + 1
    else keepFrom bytes keep

def keep (bytes : Bytes) : ℕ := keepFrom bytes (min bytes.length (responsePrefix.length - 1))

/-- The branch for a file body; `fed` is what `AsyncReceiver::feed` takes, unless it
throws. -/
def receiveBody (client : Client) (fed : Option ℕ) : Client :=
  match client.remaining with
  | none => client.fail .receiverMissing
  | some remaining =>
    match fed with
    | none => client.fail .receiverFailed
    | some count =>
      let count := min count (min remaining client.buffer.length)
      { client with
        buffer := client.buffer.drop count
        remaining := some (remaining - count)
        transferState :=
          if remaining - count = 0 then .waitingDownloadDone else client.transferState }

/-- The loop of `on_message`. Every further turn has taken something from the buffer, so
its length bounds their number. -/
def messageLoop (responder : Responder) (fed : Option ℕ) : ℕ → Client → Client
  | 0, client => client
  | fuel + 1, client =>
    if client.buffer = [] then client
    else if client.transferState = .preparingDownload ∨
        client.transferState = .finalizingDownload then client
    else if client.transferState = .receivingDownload then client.receiveBody fed
    else
      match findMarker responsePrefix client.buffer with
      | none => client.print (client.buffer.length - keep client.buffer)
      | some 0 =>
        match splitAtFirst 10 (client.buffer.drop responsePrefix.length) with
        | none =>
          if client.buffer.length > maxControlBytes then client.fail .responseTooLong
          else client
        | some (line, rest) =>
          if responsePrefix.length + line.length > maxControlBytes then
            client.fail .responseTooLong
          else
            match responder.respond client.transferState line with
            | none => (client.takeFrame line rest).fail .responseFailed
            | some transferState =>
              messageLoop responder fed fuel { client.takeFrame line rest with transferState }
      | some position => messageLoop responder fed fuel (client.print position)

def onMessage (responder : Responder) (client : Client) (bytes : Bytes) (fed : Option ℕ) : Client :=
  let buffer := client.buffer ++ bytes
  messageLoop responder fed buffer.length { client with buffer, failure := none }

/-- What happens to the client: input, and changes of state by commands and callbacks. -/
inductive Event
  | receive (bytes : Bytes) (fed : Option ℕ)
  | turn (state : FileTransferState) (remaining : Option ℕ)

def step (responder : Responder) (client : Client) : Event → Client
  | .receive bytes fed => client.onMessage responder bytes fed
  | .turn transferState remaining => { client with transferState, remaining }

def received (events : List Event) : Bytes :=
  events.flatMap fun
    | .receive bytes _ => bytes
    | .turn _ _ => []

end Client

end Tlss.Ftp
