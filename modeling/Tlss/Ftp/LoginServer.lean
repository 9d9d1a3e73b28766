import Tlss.Auth.Login
import Tlss.Ftp.TransferConnection

/-!
# Sessions and their logins

The sessions of a storage service: its connections come and go, and each has a session in
the table of the service, which is keyed by the address of the connection object. A line
of a client is handled by the login while the session is not authenticated, and by the
commands after that.

A login or a signup is a task of the thread pool. Its result, and that of a timeout in the
queue, come back as a callback of the event loop. Here every task that was ever taken may
be run at any time and again, every callback may be delivered at any time and again, and an
address is used again once its connection is down.

The observer keeps the line that was taken as the username, the request of the latest login
attempt, the calls of `authenticate` that returned, and what was done for the clients.
-/

namespace Tlss.Ftp

open Library Auth

/-! ## The state -/

inductive LoginState
  | awaitChoice
  | awaitUsername
  | awaitPassword
  | verifying
  | signupUsername
  | signupPassword
  | signupConfirm
  | registering
  | authenticated
deriving DecidableEq

/-- `ConnectionSession`. `usernameLine` and `attempted` are the observer's; `transfer` says
that there is one. -/
structure ConnectionSession where
  loginState : LoginState := .awaitChoice
  pendingUsername : Bytes := []
  signupPassword : Bytes := []
  authAttempt : ℕ := 0
  name : Bytes := []
  userId : ℕ := 0
  currentDirectory : Bytes := ascii "/"
  directoryChangePending : Bool := false
  transfer : Bool := false
  usernameLine : Bytes := []
  attempted : Option LoginRequest := none
deriving DecidableEq

/-- A connection object; `room` is the number of replies that its write queue still takes. -/
structure ClientConnection where
  address : ℕ
  state : ConnectionState := .disconnected
  room : ℕ := 0
deriving DecidableEq

/-- What a task of the thread pool asks the `AuthService` for. -/
inductive AuthRequest
  | login (request : LoginRequest)
  | signup (request : SignupRequest)
deriving DecidableEq

/-- A task of the thread pool, with the weak references and the attempt that it captured. -/
structure AuthTask where
  session : ℕ
  connection : ℕ
  attempt : ℕ
  request : AuthRequest
deriving DecidableEq

inductive AuthOutcome
  | login (result : AuthResult)
  | signup (result : SignupResult)
deriving DecidableEq

structure AuthCallback where
  session : ℕ
  connection : ℕ
  attempt : ℕ
  outcome : AuthOutcome
deriving DecidableEq

def AuthTask.timeout (task : AuthTask) : AuthCallback :=
  ⟨task.session, task.connection, task.attempt,
    match task.request with
    | .login _ => .login {}
    | .signup _ => .signup {}⟩

structure AuthCall where
  session : ℕ
  attempt : ℕ
  request : LoginRequest
  choices : LoginChoices
deriving DecidableEq

inductive FileCommand
  | cd (directory : Bytes)
  | ls
  | pwd
  | mkdir (directory : Bytes)
  | upload (request : UploadRequest)
  | download (name : Bytes)
  | acknowledge
deriving DecidableEq

structure Executed where
  session : ℕ
  userId : ℕ
  username : Bytes
  directory : Bytes
  command : FileCommand
deriving DecidableEq

inductive ServerText
  | text (bytes : Bytes)
  | frame (frame : Frame)
deriving DecidableEq

/-- The part of `StorageService` that deals with sessions. The objects are numbered; a
session that was not made yet is as `make_shared` will leave it. `moves` are the callbacks
of `move_file_by_cur_dir`, with their session and connection. -/
structure LoginServer where
  connections : ℕ → ClientConnection := fun _ => { address := 0 }
  opened : ℕ := 0
  sessions : ℕ → ConnectionSession := fun _ => {}
  created : ℕ := 0
  table : ℕ → Option ℕ := fun _ => none
  tasks : List AuthTask := []
  callbacks : List AuthCallback := []
  moves : List (ℕ × ℕ) := []
  returned : List AuthCall := []
  executed : List Executed := []
  output : List (ℕ × ServerText) := []

namespace LoginServer

/-! ## Connections -/

variable (server : LoginServer)

def sessionOf (conn : ℕ) : Option ℕ :=
  server.table (server.connections conn).address

def onSession (session : ℕ) (change : ConnectionSession → ConnectionSession) : LoginServer :=
  { server with
    sessions := Function.update server.sessions session (change (server.sessions session)) }

def onConnection (conn : ℕ) (change : ClientConnection → ClientConnection) : LoginServer :=
  { server with
    connections := Function.update server.connections conn (change (server.connections conn)) }

/-- `handle_close`, with the branch of `on_connection` for a connection that is down. -/
def handleClose (conn : ℕ) : LoginServer :=
  if (server.connections conn).state = .disconnected then server
  else
    { server.onConnection conn fun connection => { connection with state := .disconnected } with
      table := Function.update server.table (server.connections conn).address none }

/-- `TcpConnection::send`: what does not fit into the write queue closes the connection. -/
def send (conn : ℕ) (text : ServerText) : LoginServer :=
  if (server.connections conn).state ≠ .connected then server
  else if (server.connections conn).room = 0 then server.handleClose conn
  else
    { server.onConnection conn fun connection =>
        { connection with room := connection.room - 1 } with
      output := server.output ++ [(conn, text)] }

def sendNotice (conn : ℕ) (notice : Notice) : LoginServer :=
  server.send conn (.text (ascii notice.text))

def sendPrompt (conn session : ℕ) (lead : Bytes) : LoginServer :=
  server.send conn <| .text <| lead ++ ascii "tlss@" ++ (server.sessions session).name ++
    ascii ":" ++ (server.sessions session).currentDirectory ++ ascii ">"

def shutdow (conn : ℕ) : LoginServer :=
  if (server.connections conn).state ≠ .connected then server
  else server.onConnection conn fun connection => { connection with state := .disconnecting }

/-- The branch of `on_connection` for a new connection. -/
def onConnected (address room : ℕ) : LoginServer :=
  let conn := server.opened
  let session := server.created
  let server := { server with
    connections := Function.update server.connections conn ⟨address, .connected, room⟩
    opened := conn + 1
    created := session + 1
    table :=
      if (server.table address).isSome then server.table
      else Function.update server.table address (some session) }
  (server.sendNotice conn .welcome).sendNotice conn .choose

/-! ## Results of the login -/

/-- The checks with which `finish_authentication` and `finish_signup` begin: the connection
is up and the session is the one in its table. -/
def holds (session conn : ℕ) : Bool :=
  (server.connections conn).state = .connected && server.sessionOf conn = some session

def logIn (session : ConnectionSession) (result : AuthResult) : ConnectionSession :=
  { session with
    pendingUsername := []
    userId := result.userId
    name := result.username
    currentDirectory := ascii "/"
    directoryChangePending := false
    loginState := .authenticated }

def finishAuthentication (session conn attempt : ℕ) (result : AuthResult) : LoginServer :=
  if !server.holds session conn then server
  else if (server.sessions session).loginState ≠ .verifying ||
      (server.sessions session).authAttempt ≠ attempt then server
  else if result.status = .authenticated then
    let server := server.onSession session fun session => logIn session result
    (server.send conn (.frame .authOk)).sendPrompt conn session (ascii Lead.loginSuccessful.text)
  else
    let server := server.onSession session fun session =>
      { session with
        pendingUsername := []
        userId := 0
        name := []
        currentDirectory := ascii "/"
        loginState := .awaitUsername }
    if result.status = .invalidCredentials then server.sendNotice conn .invalidCredentials
    else server.sendNotice conn .loginUnavailable

def clearSignup (session : ConnectionSession) : ConnectionSession :=
  { session with
    signupPassword := []
    name := []
    userId := 0
    currentDirectory := ascii "/"
    directoryChangePending := false }

def finishSignup (session conn attempt : ℕ) (result : SignupResult) : LoginServer :=
  if !server.holds session conn then server
  else if (server.sessions session).loginState ≠ .registering ||
      (server.sessions session).authAttempt ≠ attempt then server
  else
    match result.status with
    | .invalidPassword =>
      (server.onSession session fun session =>
        { clearSignup session with loginState := .signupPassword }).sendNotice conn .passwordForm
    | .usernameTaken =>
      (server.onSession session fun session =>
        { clearSignup session with
          pendingUsername := [], loginState := .signupUsername }).sendNotice conn .usernameTaken
    | .invalidUsername =>
      (server.onSession session fun session =>
        { clearSignup session with
          pendingUsername := [], loginState := .signupUsername }).sendNotice conn .usernameForm
    | status =>
      let server := server.onSession session fun session =>
        { clearSignup session with pendingUsername := [], loginState := .awaitChoice }
      let server :=
        if status = .created then server.sendNotice conn .signupSuccessful
        else if status = .outcomeUnknown then server.sendNotice conn .signupUnknown
        else server.sendNotice conn .signupUnavailable
      server.sendNotice conn .choose

def finish (callback : AuthCallback) : LoginServer :=
  match callback.outcome with
  | .login result =>
    server.finishAuthentication callback.session callback.connection callback.attempt result
  | .signup result =>
    server.finishSignup callback.session callback.connection callback.attempt result

/-! ## The lines of a login -/

/-- The pool takes a task of the session's current attempt. -/
def submit (conn session : ℕ) (request : AuthRequest) : LoginServer :=
  let attempt := (server.sessions session).authAttempt
  { server with tasks := server.tasks ++ [⟨session, conn, attempt, request⟩] }

/-- `handle_signup_command`; `accepted` is what the thread pool says. -/
def handleSignupCommand (conn session : ℕ) (command : Bytes) (accepted : Bool) : LoginServer :=
  if (server.sessions session).loginState = .signupUsername then
    if !validSignupUsername command then server.sendNotice conn .usernameForm
    else
      (server.onSession session fun session =>
        { session with
          pendingUsername := command
          loginState := .signupPassword }).sendNotice conn .newPassword
  else if (server.sessions session).loginState = .signupPassword then
    if !validSignupPassword command then server.sendNotice conn .passwordForm
    else
      (server.onSession session fun session =>
        { session with
          signupPassword := command
          loginState := .signupConfirm }).sendNotice conn .confirmPassword
  else if command ≠ (server.sessions session).signupPassword then
    (server.onSession session fun session =>
      { session with
        signupPassword := []
        loginState := .signupPassword }).sendNotice conn .passwordMismatch
  else
    let request : SignupRequest :=
      ⟨(server.sessions session).pendingUsername, (server.sessions session).signupPassword⟩
    let server := server.onSession session fun session =>
      { session with
        signupPassword := []
        loginState := .registering
        authAttempt := session.authAttempt + 1 }
    if accepted then server.submit conn session (.signup request)
    else server.finishSignup session conn (server.sessions session).authAttempt {}

/-- The end of `handle_auth_command`: a line for the password. -/
def handlePassword (conn session : ℕ) (command : Bytes) (accepted : Bool) : LoginServer :=
  if command.isEmpty || command.length > 128 then server.sendNotice conn .passwordLength
  else
    let request : LoginRequest := ⟨(server.sessions session).pendingUsername, command⟩
    let server := server.onSession session fun session =>
      { session with
        loginState := .verifying
        authAttempt := session.authAttempt + 1
        attempted := some ⟨session.usernameLine, command⟩ }
    if accepted then server.submit conn session (.login request)
    else server.finishAuthentication session conn (server.sessions session).authAttempt {}

/-- `handle_auth_command`; `none` leaves the line to the commands. -/
def handleAuthCommand (conn session : ℕ) (command : Bytes) (accepted : Bool) : Option LoginServer :=
  match (server.sessions session).loginState with
  | .authenticated => none
  | .awaitChoice =>
    some <|
      if command = ascii "login" then
        (server.onSession session fun session =>
          { session with
            pendingUsername := []
            name := []
            userId := 0
            loginState := .awaitUsername }).sendNotice conn .username
      else if command = ascii "signup" then
        (server.onSession session fun session =>
          { session with
            pendingUsername := []
            signupPassword := []
            name := []
            userId := 0
            loginState := .signupUsername }).sendNotice conn .newUsername
      else if command = ascii "help" || command = ascii "h" then
        server.sendNotice conn .chooseHelp
      else server.sendNotice conn .choose
  | .awaitUsername =>
    some <|
      if command.isEmpty || command.length > 64 then server.sendNotice conn .usernameLength
      else
        (server.onSession session fun session =>
          { session with
            pendingUsername := command
            loginState := .awaitPassword
            usernameLine := command }).sendNotice conn .password
  | .verifying | .registering => some (server.sendNotice conn .pleaseWait)
  | .signupUsername | .signupPassword | .signupConfirm =>
    some (server.handleSignupCommand conn session command accepted)
  | .awaitPassword => some (server.handlePassword conn session command accepted)

/-! ## Commands -/

/-- What a line meets: whether the pool takes its task, whether the transfer waits for its
acknowledgement, and the failure of creating and starting a transfer. -/
structure LineChoices where
  accepted : Bool := true
  waiting : Bool := false
  thrown : Option String := none
deriving DecidableEq

def execute (session : ℕ) (command : FileCommand) : LoginServer :=
  let owner := server.sessions session
  { server with
    executed := server.executed ++
      [⟨session, owner.userId, owner.name, owner.currentDirectory, command⟩] }

def transferFailed (conn session : ℕ) (error : String) : LoginServer :=
  ((server.onSession session fun session => { session with transfer := false }).send conn
    (.frame (.error error))).sendPrompt conn session []

/-- The checks with which `handle_upload` and `handle_download` begin, and their end: the
task is created and started. Where the connection is closed by force, it is closed later. -/
def startTransfer (conn session : ℕ)
    (request : Except String FileCommand) (thrown : Option String) : LoginServer :=
  if (server.sessions session).loginState ≠ .authenticated then
    server.transferFailed conn session "login required"
  else if (server.sessions session).transfer then server
  else if (server.sessions session).directoryChangePending then
    server.transferFailed conn session "session is busy"
  else
    match request with
    | .error error => server.transferFailed conn session error
    | .ok command =>
      let server := (server.execute session command).onSession session fun session =>
        { session with transfer := true }
      match thrown with
      | none => server
      | some error => server.transferFailed conn session error

def handleUpload (conn session : ℕ) (args : Bytes) (thrown : Option String) : LoginServer :=
  server.startTransfer conn session ((parseUploadRequest args).map .upload) thrown

def handleDownload (conn session : ℕ) (args : Bytes) (thrown : Option String) : LoginServer :=
  server.startTransfer conn session ((parseName args).map .download) thrown

def handleTransferControl (conn session : ℕ) (line : Bytes) (choices : LineChoices) : LoginServer :=
  if (server.sessions session).transfer then
    if choices.waiting && isAcknowledgement line then server.execute session .acknowledge
    else server
  else
    let (verb, args) := splitCommand line
    if verb = ascii "UPLOAD" then server.handleUpload conn session args choices.thrown
    else if verb = ascii "DOWNLOAD" then server.handleDownload conn session args choices.thrown
    else server.transferFailed conn session "unknown transfer command"

def handleCd (conn session : ℕ) (directory : Bytes) (accepted : Bool) : LoginServer :=
  if (server.sessions session).loginState ≠ .authenticated then server
  else if accepted then
    { (server.execute session (.cd directory)).onSession session fun session =>
        { session with directoryChangePending := true } with
      moves := server.moves ++ [(session, conn)] }
  else
    (server.onSession session fun session =>
      { session with
        directoryChangePending := false }).sendPrompt conn session (ascii Lead.busy.text)

/-- `handle_ls` and `handle_mkdir`, which only submit a task. -/
def handleTask (conn session : ℕ) (command : FileCommand) (accepted : Bool) : LoginServer :=
  if (server.sessions session).loginState ≠ .authenticated then server
  else if accepted then server.execute session command
  else server.sendNotice conn .busy

def handlePwd (conn session : ℕ) : LoginServer :=
  if (server.sessions session).loginState ≠ .authenticated then server
  else
    (server.execute session .pwd).sendPrompt conn session
      ((server.sessions session).currentDirectory ++ ascii "\r\n")

/-- The `switch` of `dispatch_task`, with the prompt that `on_message` adds where it returns
`false`. -/
def handleCommand (conn session : ℕ) (command : Bytes) (choices : LineChoices) : LoginServer :=
  let (word, args) := splitCommand command
  match stringToCommand word with
  | .cd =>
    if args.isEmpty then
      (server.sendNotice conn .cdUsage).sendPrompt conn session (ascii Lead.newLine.text)
    else server.handleCd conn session args choices.accepted
  | .ls => server.handleTask conn session .ls choices.accepted
  | .pwd => server.handlePwd conn session
  | .mkdir => server.handleTask conn session (.mkdir args) choices.accepted
  | .download => server.handleDownload conn session args choices.thrown
  | .upload => server.handleUpload conn session args choices.thrown
  | .login | .signup | .unknown =>
    (server.sendNotice conn .invalidCommand).sendPrompt conn session (ascii Lead.newLine.text)

def dispatchTask (conn session : ℕ) (command : Bytes) (choices : LineChoices) : LoginServer :=
  match server.handleAuthCommand conn session command choices.accepted with
  | some server => server
  | none =>
    if (server.sessions session).directoryChangePending then server.sendNotice conn .pleaseWait
    else if command.isEmpty then server.sendPrompt conn session []
    else if command = ascii "q" || command = ascii "quit" then
      (server.sendNotice conn .bye).shutdow conn
    else if command = ascii "help" || command = ascii "h" then
      server.sendPrompt conn session (ascii Lead.help.text)
    else server.handleCommand conn session command choices

/-- The part of `on_message` that handles a line. While a transfer does not wait for its
acknowledgement the input is not read as lines; where the connection is closed by force,
it is closed later. -/
def handleLine (conn session : ℕ) (raw : Bytes) (choices : LineChoices) : LoginServer :=
  let command := withoutReturn raw
  if (server.sessions session).transfer && !choices.waiting then server
  else if command.length > maxControlBytes then server
  else if (server.sessions session).loginState = .authenticated && ascii "@TLSS " <+: command then
    server.handleTransferControl conn session (command.drop 6) choices
  else if (server.sessions session).transfer then server
  else server.dispatchTask conn session command choices

def onMessage (conn : ℕ) (raw : Bytes) (choices : LineChoices) : LoginServer :=
  if (server.connections conn).state ≠ .connected then server
  else
    match server.sessionOf conn with
    | none => server
    | some session => server.handleLine conn session raw choices

/-! ## Tasks and callbacks -/

structure WorkerAnswer where
  login : LoginChoices
  signup : SignupResult

def work (task : AuthTask) (answer : WorkerAnswer) : LoginServer :=
  match task.request with
  | .login request =>
    let result := authenticate request answer.login
    { server with
      returned := server.returned ++ [⟨task.session, task.attempt, request, answer.login⟩]
      callbacks := server.callbacks ++
        [⟨task.session, task.connection, task.attempt, .login result⟩] }
  | .signup _ =>
    { server with
      callbacks := server.callbacks ++
        [⟨task.session, task.connection, task.attempt, .signup answer.signup⟩] }

/-- The callback of `move_file_by_cur_dir`; `none` is a failure. -/
def moved (session conn : ℕ) (directory : Option Bytes) : LoginServer :=
  if (server.connections conn).state ≠ .connected then server
  else
    let server := server.onSession session fun session =>
      { session with
        directoryChangePending := false
        currentDirectory := directory.getD session.currentDirectory }
    let server := if directory.isSome then server else server.sendNotice conn .cannotChangeDirectory
    server.sendPrompt conn session []

/-- What can happen. Whatever sends to a connection comes with the room in its queue. -/
inductive Event
  | connect (address room : ℕ)
  | disconnect (conn : ℕ)
  | line (conn : ℕ) (raw : Bytes) (choices : LineChoices) (room : ℕ)
  | work (index : ℕ) (answer : WorkerAnswer)
  | timeout (index : ℕ)
  | deliver (index room : ℕ)
  | moved (index : ℕ) (directory : Option Bytes) (room : ℕ)
  | transferOver (session : ℕ)

/-- The write queue of a connection takes so many replies. -/
def withRoom (conn room : ℕ) : LoginServer :=
  server.onConnection conn fun connection => { connection with room }

def inUse (address : ℕ) : Bool :=
  (List.range server.opened).any fun conn =>
    (server.connections conn).state ≠ .disconnected && (server.connections conn).address = address

def step : Event → LoginServer
  | .connect address room =>
    if server.inUse address then server else server.onConnected address room
  | .disconnect conn => server.handleClose conn
  | .line conn raw choices room => (server.withRoom conn room).onMessage conn raw choices
  | .work index answer =>
    match server.tasks[index]? with
    | none => server
    | some task => server.work task answer
  | .timeout index =>
    match server.tasks[index]? with
    | none => server
    | some task => { server with callbacks := server.callbacks ++ [task.timeout] }
  | .deliver index room =>
    match server.callbacks[index]? with
    | none => server
    | some callback => (server.withRoom callback.connection room).finish callback
  | .moved index directory room =>
    match server.moves[index]? with
    | none => server
    | some (session, conn) => (server.withRoom conn room).moved session conn directory
  | .transferOver session =>
    server.onSession session fun session => { session with transfer := false }

end LoginServer

end Tlss.Ftp
