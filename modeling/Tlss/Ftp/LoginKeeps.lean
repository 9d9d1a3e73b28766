import Tlss.Ftp.LoginServer

/-!
# What changes no identity

Most of what the service does is `Quiet`: it starts no attempt to log in, brings no session
into the authenticated state or out of it, and executes only what belongs to an
authenticated session. Replies are quiet, and so are all commands, the results of signups
and the logins that fail.
-/

namespace Tlss.Ftp

open Library Auth

/-! ## What most callbacks leave alone -/

/-- A session in which the username to be checked is the line that was entered, and which
has a transfer only if it is authenticated. -/
structure WellFormed (session : ConnectionSession) : Prop where
  username : session.loginState = .awaitPassword → session.pendingUsername = session.usernameLine
  transfer : session.transfer = true → session.loginState = .authenticated

/-- No attempt begins, and no identity is gained, changed or lost. -/
structure Keeps (before after : ConnectionSession) : Prop where
  attempt : after.authAttempt = before.authAttempt
  attempted : after.attempted = before.attempted
  identity : before.loginState = .authenticated →
    after.loginState = .authenticated ∧ after.userId = before.userId ∧ after.name = before.name
  gains : after.loginState = .authenticated → before.loginState = .authenticated
  wellFormed : WellFormed before → WellFormed after

lemma Keeps.refl (sess : ConnectionSession) : Keeps sess sess :=
  ⟨rfl, rfl, fun hst => ⟨hst, rfl, rfl⟩, id, id⟩

lemma Keeps.trans {first second third : ConnectionSession} (hfirst : Keeps first second)
    (hsec : Keeps second third) : Keeps first third where
  attempt := hsec.attempt.trans hfirst.attempt
  attempted := hsec.attempted.trans hfirst.attempted
  identity hst := by
    obtain ⟨hmiddle, huser, hname⟩ := hfirst.identity hst
    obtain ⟨hlast, huser', hname'⟩ := hsec.identity hmiddle
    exact ⟨hlast, huser'.trans huser, hname'.trans hname⟩
  gains hst := hfirst.gains (hsec.gains hst)
  wellFormed hformed := hsec.wellFormed (hfirst.wellFormed hformed)

lemma Keeps.of_dialogue {pre after : ConnectionSession}
    (hattempt : after.authAttempt = pre.authAttempt)
    (hattempted : after.attempted = pre.attempted) (htransfer : after.transfer = pre.transfer)
    (hbefore : pre.loginState ≠ .authenticated) (hafter : after.loginState ≠ .authenticated)
    (husername : after.loginState = .awaitPassword → after.pendingUsername = after.usernameLine) :
    Keeps pre after where
  attempt := hattempt
  attempted := hattempted
  identity hst := absurd hst hbefore
  gains hst := absurd hst hafter
  wellFormed hformed :=
    { username := husername
      transfer := fun hbusy => absurd (hformed.transfer (htransfer ▸ hbusy)) hbefore }

namespace LoginServer

/-- The session is logged in as the user of the command. -/
structure Owns (server : LoginServer) (entry : Executed) : Prop where
  authenticated : (server.sessions entry.session).loginState = .authenticated
  userId : (server.sessions entry.session).userId = entry.userId
  username : (server.sessions entry.session).name = entry.username

/-- Every session keeps what `Keeps` says, no task or result appears, and whatever is
executed belongs to an authenticated session. -/
structure Quiet (before after : LoginServer) : Prop where
  sessions : ∀ index, Keeps (before.sessions index) (after.sessions index)
  tasks : after.tasks = before.tasks
  callbacks : after.callbacks = before.callbacks
  returned : after.returned = before.returned
  executed : ∀ entry ∈ after.executed, entry ∈ before.executed ∨ before.Owns entry

lemma Quiet.refl (s : LoginServer) : Quiet s s :=
  ⟨fun _ => .refl _, rfl, rfl, rfl, fun _ => .inl⟩

lemma Owns.of_keeps {pre after : LoginServer} {e : Executed}
    (hkeeps : Keeps (pre.sessions e.session) (after.sessions e.session))
    (howns : pre.Owns e) : after.Owns e := by
  obtain ⟨hst, huser, hname⟩ := hkeeps.identity howns.authenticated
  exact ⟨hst, huser.trans howns.userId, hname.trans howns.username⟩

lemma Owns.of_keeps_back {pre after : LoginServer} {e : Executed}
    (hkeeps : Keeps (pre.sessions e.session) (after.sessions e.session))
    (howns : after.Owns e) : pre.Owns e := by
  have hbefore := hkeeps.gains howns.authenticated
  obtain ⟨_, huser, hname⟩ := hkeeps.identity hbefore
  exact ⟨hbefore, huser.symm.trans howns.userId, hname.symm.trans howns.username⟩

lemma Quiet.trans {first second third : LoginServer} (hfirst : Quiet first second)
    (hsec : Quiet second third) : Quiet first third where
  sessions i := (hfirst.sessions i).trans (hsec.sessions i)
  tasks := hsec.tasks.trans hfirst.tasks
  callbacks := hsec.callbacks.trans hfirst.callbacks
  returned := hsec.returned.trans hfirst.returned
  executed e hentry := by
    rcases hsec.executed e hentry with hmiddle | howns
    · exact hfirst.executed e hmiddle
    · exact .inr (howns.of_keeps_back (hfirst.sessions e.session))

variable (s : LoginServer) (c sess : ℕ)

@[simp] lemma onSession_self (change : ConnectionSession → ConnectionSession) :
    (s.onSession sess change).sessions sess = change (s.sessions sess) := by
  simp [onSession]

lemma onSession_of_ne {i : ℕ} (change : ConnectionSession → ConnectionSession)
    (hne : i ≠ sess) : (s.onSession sess change).sessions i = s.sessions i := by
  simp [onSession, Function.update_of_ne hne]

variable {s c sess} {command : FileCommand} {choices : LineChoices} {accepted : Bool}
  {attempt : ℕ}

lemma quiet_onSession {change : ConnectionSession → ConnectionSession}
    (hkeeps : Keeps (s.sessions sess) (change (s.sessions sess))) :
    Quiet s (s.onSession sess change) where
  sessions i := by
    by_cases hindex : i = sess
    · subst hindex
      rw [onSession_self]
      exact hkeeps
    · rw [onSession_of_ne s sess change hindex]
      exact .refl _
  tasks := rfl
  callbacks := rfl
  returned := rfl
  executed _ := .inl

lemma quiet_handleClose : Quiet s (s.handleClose c) := by
  unfold handleClose
  split
  · exact .refl s
  · exact ⟨fun _ => .refl _, rfl, rfl, rfl, fun _ => .inl⟩

lemma quiet_send {text : ServerText} : Quiet s (s.send c text) := by
  unfold send
  split
  · exact .refl s
  · split
    · exact quiet_handleClose
    · exact ⟨fun _ => .refl _, rfl, rfl, rfl, fun _ => .inl⟩

lemma quiet_sendNotice {notice : Notice} : Quiet s (s.sendNotice c notice) :=
  quiet_send

lemma quiet_sendPrompt {lead : Bytes} : Quiet s (s.sendPrompt c sess lead) :=
  quiet_send

lemma quiet_shutdow : Quiet s (s.shutdow c) := by
  unfold shutdow
  split
  · exact .refl s
  · exact ⟨fun _ => .refl _, rfl, rfl, rfl, fun _ => .inl⟩

lemma quiet_withRoom {room : ℕ} : Quiet s (s.withRoom c room) :=
  ⟨fun _ => .refl _, rfl, rfl, rfl, fun _ => .inl⟩

lemma quiet_onConnected {address room : ℕ} : Quiet s (s.onConnected address room) := by
  refine Quiet.trans ?_ (quiet_sendNotice.trans quiet_sendNotice)
  exact ⟨fun _ => .refl _, rfl, rfl, rfl, fun _ => .inl⟩

lemma quiet_execute (hst : (s.sessions sess).loginState = .authenticated) :
    Quiet s (s.execute sess command) where
  sessions _ := .refl _
  tasks := rfl
  callbacks := rfl
  returned := rfl
  executed e hentry := by
    rcases List.mem_append.mp hentry with hold | hnew
    · exact .inl hold
    · rw [List.mem_singleton] at hnew
      subst hnew
      exact .inr ⟨hst, rfl, rfl⟩

/-! ## Results that do not authenticate -/

lemma quiet_finishSignup {result : SignupResult} :
    Quiet s (s.finishSignup sess c attempt result) := by
  unfold finishSignup
  split
  · exact .refl s
  · split
    · exact .refl s
    · rename_i hcurrent
      have hst : (s.sessions sess).loginState ≠ .authenticated := by
        intro hst
        simp [hst] at hcurrent
      split
      · refine Quiet.trans (quiet_onSession ?_) quiet_sendNotice
        exact .of_dialogue rfl rfl rfl hst (by simp) (by simp)
      · refine Quiet.trans (quiet_onSession ?_) quiet_sendNotice
        exact .of_dialogue rfl rfl rfl hst (by simp) (by simp)
      · refine Quiet.trans (quiet_onSession ?_) quiet_sendNotice
        exact .of_dialogue rfl rfl rfl hst (by simp) (by simp)
      · refine Quiet.trans ?_ quiet_sendNotice
        split_ifs
        all_goals
          refine Quiet.trans (quiet_onSession ?_) quiet_sendNotice
          exact .of_dialogue rfl rfl rfl hst (by simp) (by simp)

lemma quiet_finishAuthentication {result : AuthResult} (hresult : result.status ≠ .authenticated) :
    Quiet s (s.finishAuthentication sess c attempt result) := by
  unfold finishAuthentication
  split
  · exact .refl s
  · split
    · exact .refl s
    · rename_i hcurrent
      have hst : (s.sessions sess).loginState ≠ .authenticated := by
        intro hst
        simp [hst] at hcurrent
      split_ifs
      all_goals
        refine Quiet.trans (quiet_onSession ?_) quiet_sendNotice
        exact .of_dialogue rfl rfl rfl hst (by simp) (by simp)

/-! ## Commands -/

lemma quiet_transferFailed {error : String} : Quiet s (s.transferFailed c sess error) := by
  refine Quiet.trans (quiet_onSession ?_) (quiet_send.trans quiet_sendPrompt)
  exact ⟨rfl, rfl, fun hst => ⟨hst, rfl, rfl⟩, id,
    fun hformed => ⟨hformed.username, fun hbusy => absurd hbusy Bool.false_ne_true⟩⟩

lemma quiet_startTransfer {request : Except String FileCommand} {thrown : Option String} :
    Quiet s (s.startTransfer c sess request thrown) := by
  unfold startTransfer
  by_cases hst : (s.sessions sess).loginState = .authenticated
  · rw [if_neg (not_not.mpr hst)]
    split
    · exact .refl s
    · split
      · exact quiet_transferFailed
      · cases request with
        | error error => exact quiet_transferFailed
        | ok command =>
          have hstart : Quiet s ((s.execute sess command).onSession sess
              fun sess => { sess with transfer := true }) :=
            (quiet_execute hst).trans (quiet_onSession
              ⟨rfl, rfl, fun hst => ⟨hst, rfl, rfl⟩, id,
                fun hformed => ⟨hformed.username, fun _ => hst⟩⟩)
          cases thrown with
          | none => exact hstart
          | some error => exact hstart.trans quiet_transferFailed
  · rw [if_pos hst]
    exact quiet_transferFailed

lemma quiet_handleTransferControl {line : Bytes}
    (hst : (s.sessions sess).loginState = .authenticated) :
    Quiet s (s.handleTransferControl c sess line choices) := by
  unfold handleTransferControl
  dsimp only
  split
  · split
    · exact quiet_execute hst
    · exact .refl s
  · split
    · exact quiet_startTransfer
    · split
      · exact quiet_startTransfer
      · exact quiet_transferFailed

lemma keeps_directory (pre : ConnectionSession) (pending : Bool) (dir : Bytes) :
    Keeps pre { pre with directoryChangePending := pending, currentDirectory := dir } :=
  ⟨rfl, rfl, fun hst => ⟨hst, rfl, rfl⟩, id, fun hformed => { hformed with }⟩

lemma quiet_handleCd {dir : Bytes} : Quiet s (s.handleCd c sess dir accepted) := by
  unfold handleCd
  by_cases hst : (s.sessions sess).loginState = .authenticated
  · rw [if_neg (not_not.mpr hst)]
    split
    · have hchange : Quiet s ((s.execute sess (.cd dir)).onSession sess
          fun sess => { sess with directoryChangePending := true }) :=
        (quiet_execute hst).trans (quiet_onSession (keeps_directory _ true _))
      exact ⟨hchange.sessions, rfl, rfl, rfl, hchange.executed⟩
    · refine Quiet.trans (quiet_onSession ?_) quiet_sendPrompt
      exact keeps_directory _ false _
  · rw [if_pos hst]
    exact .refl s

lemma quiet_handleTask : Quiet s (s.handleTask c sess command accepted) := by
  unfold handleTask
  by_cases hst : (s.sessions sess).loginState = .authenticated
  · rw [if_neg (not_not.mpr hst)]
    split
    · exact quiet_execute hst
    · exact quiet_sendNotice
  · rw [if_pos hst]
    exact .refl s

lemma quiet_handleCommand {command : Bytes} : Quiet s (s.handleCommand c sess command choices) := by
  unfold handleCommand
  dsimp only
  split
  · split
    · exact quiet_sendNotice.trans quiet_sendPrompt
    · exact quiet_handleCd
  · exact quiet_handleTask
  · unfold handlePwd
    by_cases hst : (s.sessions sess).loginState = .authenticated
    · rw [if_neg (not_not.mpr hst)]
      exact (quiet_execute hst).trans quiet_sendPrompt
    · rw [if_pos hst]
      exact .refl s
  · exact quiet_handleTask
  · exact quiet_startTransfer
  · exact quiet_startTransfer
  all_goals exact quiet_sendNotice.trans quiet_sendPrompt

lemma quiet_moved {dir : Option Bytes} : Quiet s (s.moved sess c dir) := by
  unfold moved
  split
  · exact .refl s
  · refine Quiet.trans ?_ quiet_sendPrompt
    split
    · exact quiet_onSession (keeps_directory _ false _)
    · refine Quiet.trans (quiet_onSession ?_) quiet_sendNotice
      exact keeps_directory _ false _

end LoginServer

end Tlss.Ftp
