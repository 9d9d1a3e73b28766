import Tlss.Ftp.LoginKeeps

/-!
# Who is logged in

A new attempt leaves every earlier task and result behind, because its number is greater
than theirs. The only way in is the delivery of a result whose attempt is current, and such
a result comes from a task with the request of the latest attempt.
-/

namespace Tlss.Ftp

open Library Auth List Option

namespace LoginServer

variable {server pre after : LoginServer} {c sess attempt : ℕ}
  {change : ConnectionSession → ConnectionSession} {callback : AuthCallback} {command : Bytes}
  {result : AuthResult} {acc : Bool} {req : LoginRequest} {entry : Executed}

/-! ## Attempts -/

/-- The request belongs to an attempt that has begun, and if that is the latest one it is
the request of the latest login attempt. -/
structure Recent (server : LoginServer) (session attempt : ℕ) (request : LoginRequest) : Prop where
  begun : attempt ≤ (server.sessions session).authAttempt
  latest : attempt = (server.sessions session).authAttempt →
    (server.sessions session).attempted = some request

/-- The result is what the call gives. -/
structure Answers (call : AuthCall) (session attempt : ℕ) (result : AuthResult) : Prop where
  session_eq : call.session = session
  attempt_eq : call.attempt = attempt
  result_eq : authenticate call.request call.choices = result

/-- Whoever is authenticated has passed a check of the latest attempt. -/
structure Sound (server : LoginServer) : Prop where
  wellFormed : ∀ index, WellFormed (server.sessions index)
  tasks : ∀ task ∈ server.tasks, ∀ request, task.request = .login request →
    server.Recent task.session task.attempt request
  returned : ∀ call ∈ server.returned, server.Recent call.session call.attempt call.request
  callbacks : ∀ callback ∈ server.callbacks, ∀ result, callback.outcome = .login result →
    result.status = .authenticated →
      ∃ call ∈ server.returned, Answers call callback.session callback.attempt result
  identified : ∀ index, (server.sessions index).loginState = .authenticated →
    ∃ call ∈ server.returned, Answers call index (server.sessions index).authAttempt
      ⟨.authenticated, (server.sessions index).userId, (server.sessions index).name⟩
  executed : ∀ entry ∈ server.executed, server.Owns entry

lemma Recent.of_keeps (hkeeps : Keeps (pre.sessions sess) (after.sessions sess))
    (hrecent : pre.Recent sess attempt req) : after.Recent sess attempt req where
  begun := hkeeps.attempt ▸ hrecent.begun
  latest := by
    rw [hkeeps.attempt, hkeeps.attempted]
    exact hrecent.latest

lemma Recent.congr (hrecent : pre.Recent sess attempt req)
    (hsessions : after.sessions = pre.sessions) : after.Recent sess attempt req :=
  hrecent.of_keeps (hsessions ▸ .refl _)

lemma Owns.congr (howns : pre.Owns entry)
    (hsessions : after.sessions = pre.sessions) : after.Owns entry :=
  howns.of_keeps (hsessions ▸ .refl _)

lemma Sound.of_quiet (hsound : Sound pre) (hquiet : Quiet pre after) : Sound after where
  wellFormed i := (hquiet.sessions i).wellFormed (hsound.wellFormed i)
  tasks t htask req hreq := by
    rw [hquiet.tasks] at htask
    exact (hsound.tasks t htask req hreq).of_keeps (hquiet.sessions t.session)
  returned call hcall := by
    rw [hquiet.returned] at hcall
    exact (hsound.returned call hcall).of_keeps (hquiet.sessions call.session)
  callbacks callback hcallback := by
    rw [hquiet.callbacks] at hcallback
    rw [hquiet.returned]
    exact hsound.callbacks callback hcallback
  identified i hst := by
    have hbefore := (hquiet.sessions i).gains hst
    obtain ⟨_, huser, hname⟩ := (hquiet.sessions i).identity hbefore
    rw [hquiet.returned, (hquiet.sessions i).attempt, huser, hname]
    exact hsound.identified i hbefore
  executed entry hent := by
    have howns : pre.Owns entry := by
      rcases hquiet.executed entry hent with hold | howns
      · exact hsound.executed entry hold
      · exact howns
    exact howns.of_keeps (hquiet.sessions entry.session)

section

variable (hsound : Sound server)
include hsound

/-- A session that is not authenticated changes. The change may begin an attempt, and what
was begun before belongs to an earlier attempt then; or it may bring an identity that was
returned for the session's attempt. -/
lemma Sound.onSession (hst : (server.sessions sess).loginState ≠ .authenticated)
    (hbegun : (server.sessions sess).authAttempt ≤ (change (server.sessions sess)).authAttempt)
    (hlatest : (change (server.sessions sess)).authAttempt = (server.sessions sess).authAttempt →
        (change (server.sessions sess)).attempted = (server.sessions sess).attempted)
    (hformed : WellFormed (change (server.sessions sess)))
    (hidentified : (change (server.sessions sess)).loginState = .authenticated →
      ∃ call ∈ server.returned,
        Answers call sess (change (server.sessions sess)).authAttempt ⟨.authenticated,
          (change (server.sessions sess)).userId, (change (server.sessions sess)).name⟩) :
    Sound (server.onSession sess change) := by
  have hrecent : ∀ {i attempt : ℕ} {req : LoginRequest},
      server.Recent i attempt req → (server.onSession sess change).Recent i attempt req := by
    intro i attempt req hrecent
    by_cases hi : i = sess
    · subst hi
      refine ⟨?_, fun hattempt => ?_⟩
      · rw [onSession_self]
        exact hrecent.begun.trans hbegun
      · rw [onSession_self] at hattempt ⊢
        have hsame := le_antisymm (hattempt ▸ hrecent.begun) hbegun
        rw [hlatest hsame]
        exact hrecent.latest (hattempt.trans hsame)
    · constructor <;> rw [onSession_of_ne server sess change hi]
      · exact hrecent.begun
      · exact hrecent.latest
  refine ⟨?_, ?_, ?_, hsound.callbacks, ?_, ?_⟩
  · intro i
    by_cases hi : i = sess
    · rwa [hi, onSession_self]
    · rw [onSession_of_ne server sess change hi]
      exact hsound.wellFormed i
  · exact fun t htask req hreq => hrecent (hsound.tasks t htask req hreq)
  · exact fun call hcall => hrecent (hsound.returned call hcall)
  · intro i hauthenticated
    by_cases hi : i = sess
    · subst hi
      rw [onSession_self] at hauthenticated ⊢
      exact hidentified hauthenticated
    · rw [onSession_of_ne server sess change hi] at hauthenticated ⊢
      exact hsound.identified i hauthenticated
  · intro entry hent
    have howns := hsound.executed entry hent
    have hi : entry.session ≠ sess := fun hi => hst (hi ▸ howns.authenticated)
    refine howns.of_keeps ?_
    rw [onSession_of_ne server sess change hi]
    exact .refl _

lemma Sound.newAttempt (hst : (server.sessions sess).loginState ≠ .authenticated)
    (hattempt : (change (server.sessions sess)).authAttempt =
      (server.sessions sess).authAttempt + 1)
    (htransfer : (change (server.sessions sess)).transfer = (server.sessions sess).transfer)
    (hafter : (change (server.sessions sess)).loginState ≠ .authenticated)
    (hdialogue : (change (server.sessions sess)).loginState ≠ .awaitPassword) :
    Sound (server.onSession sess change) := by
  refine hsound.onSession hst (by omega) (fun hsame => by omega)
    ⟨fun hawait => absurd hawait hdialogue, fun hbusy => ?_⟩ fun hst => absurd hst hafter
  rw [htransfer] at hbusy
  exact absurd ((hsound.wellFormed sess).transfer hbusy) hst

lemma Sound.submit {req : AuthRequest} (hreq : ∀ login, req = .login login →
      (server.sessions sess).attempted = some login) : Sound (server.submit c sess req) where
  wellFormed := hsound.wellFormed
  tasks t htask login hlogin := by
    rcases mem_append.mp htask with hold | hnew
    · exact (hsound.tasks t hold login hlogin).congr rfl
    · rw [mem_singleton] at hnew
      subst hnew
      exact ⟨le_refl _, fun _ => hreq login hlogin⟩
  returned call hcall := (hsound.returned call hcall).congr rfl
  callbacks := hsound.callbacks
  identified := hsound.identified
  executed entry hent := (hsound.executed entry hent).congr rfl

lemma sound_handlePassword (hst : (server.sessions sess).loginState = .awaitPassword) :
    Sound (server.handlePassword c sess command acc) := by
  unfold handlePassword
  split
  · exact hsound.of_quiet quiet_sendNotice
  · have hattempt : Sound (server.onSession sess fun sess =>
        { sess with
          loginState := .verifying
          authAttempt := sess.authAttempt + 1
          attempted := some ⟨sess.usernameLine, command⟩ }) :=
      hsound.newAttempt (by simp [hst]) rfl rfl (by simp) (by simp)
    split
    · apply hattempt.submit
      intro login hlogin
      injection hlogin with hlogin
      rw [onSession_self, ← hlogin, (hsound.wellFormed sess).username hst]
    · exact hattempt.of_quiet (quiet_finishAuthentication (by simp))

lemma Sound.answered {notice : Notice}
    (hkeeps : Keeps (server.sessions sess) (change (server.sessions sess))) :
    Sound ((server.onSession sess change).sendNotice c notice) :=
  hsound.of_quiet ((quiet_onSession hkeeps).trans quiet_sendNotice)

lemma sound_handleSignupCommand (hst : (server.sessions sess).loginState ≠ .authenticated) :
    Sound (server.handleSignupCommand c sess command acc) := by
  unfold handleSignupCommand
  split
  · split
    · exact hsound.of_quiet quiet_sendNotice
    · exact hsound.answered (.of_dialogue rfl rfl rfl hst (by simp) (by simp))
  · split
    · split
      · exact hsound.of_quiet quiet_sendNotice
      · exact hsound.answered (.of_dialogue rfl rfl rfl hst (by simp) (by simp))
    · split
      · exact hsound.answered (.of_dialogue rfl rfl rfl hst (by simp) (by simp))
      · have hattempt : Sound (server.onSession sess fun sess =>
            { sess with
              signupPassword := []
              loginState := .registering
              authAttempt := sess.authAttempt + 1 }) :=
          hsound.newAttempt hst rfl rfl (by simp) (by simp)
        split
        · apply hattempt.submit
          intro login hlogin
          simp at hlogin
        · exact hattempt.of_quiet quiet_finishSignup

lemma sound_handleAuthCommand {after : LoginServer}
    (hafter : server.handleAuthCommand c sess command acc = some after) : Sound after := by
  unfold handleAuthCommand at hafter
  cases hst : (server.sessions sess).loginState <;> simp only [hst] at hafter
  case authenticated => simp at hafter
  case awaitChoice =>
      obtain rfl := some.inj hafter
      split_ifs
      · exact hsound.answered (.of_dialogue rfl rfl rfl (by simp [hst]) (by simp) (by simp))
      · exact hsound.answered (.of_dialogue rfl rfl rfl (by simp [hst]) (by simp) (by simp))
      · exact hsound.of_quiet quiet_sendNotice
      · exact hsound.of_quiet quiet_sendNotice
  case awaitUsername =>
      obtain rfl := some.inj hafter
      split_ifs
      · exact hsound.of_quiet quiet_sendNotice
      · exact hsound.answered (.of_dialogue rfl rfl rfl (by simp [hst]) (by simp) (by simp))
  case awaitPassword =>
      obtain rfl := some.inj hafter
      exact sound_handlePassword hsound hst
  case verifying | registering =>
      obtain rfl := some.inj hafter
      exact hsound.of_quiet quiet_sendNotice
  all_goals
    obtain rfl := some.inj hafter
    exact sound_handleSignupCommand hsound (by simp [hst])

omit hsound in
lemma quiet_dispatchTask {ch : LineChoices}
    (hnone : server.handleAuthCommand c sess command ch.accepted = none) :
    Quiet server (server.dispatchTask c sess command ch) := by
  unfold dispatchTask
  rw [hnone]
  split_ifs
  · exact quiet_sendNotice
  · exact quiet_sendPrompt
  · exact quiet_sendNotice.trans quiet_shutdow
  · exact quiet_sendPrompt
  · exact quiet_handleCommand

omit hsound in
lemma onMessage_cases (server : LoginServer) (c : ℕ) (raw : Bytes) (ch : LineChoices) :
    Quiet server (server.onMessage c raw ch) ∨
      ∃ sess, server.handleAuthCommand c sess (withoutReturn raw) ch.accepted =
        some (server.onMessage c raw ch) := by
  unfold onMessage
  split
  · exact .inl (.refl server)
  · split
    · exact .inl (.refl server)
    · rename_i sess _
      unfold handleLine
      dsimp only
      split
      · exact .inl (.refl server)
      · split
        · exact .inl (.refl server)
        · split
          · rename_i hcontrol
            rw [Bool.and_eq_true, decide_eq_true_eq] at hcontrol
            exact .inl (quiet_handleTransferControl hcontrol.1)
          · split
            · exact .inl (.refl server)
            · rcases hlogin : server.handleAuthCommand c sess (withoutReturn raw)
                ch.accepted with _ | after
              · exact .inl (quiet_dispatchTask hlogin)
              · refine .inr ⟨sess, ?_⟩
                simp only [dispatchTask, hlogin]

lemma sound_onMessage {raw : Bytes} {ch : LineChoices} : Sound (server.onMessage c raw ch) := by
  rcases onMessage_cases server c raw ch with hquiet | ⟨sess, hlogin⟩
  · exact hsound.of_quiet hquiet
  · exact sound_handleAuthCommand hsound hlogin

/-! ## Results -/

/-- The callback may act: its session is the one of a connection that is up, and its attempt
is the session's latest one. -/
def Current (server : LoginServer) (callback : AuthCallback) : Prop :=
  server.holds callback.session callback.connection = true ∧
    (server.sessions callback.session).authAttempt = callback.attempt

omit hsound in
lemma finish_of_not_current (hstale : ¬server.Current callback) :
    server.finish callback = server := by
  by_cases hholds : server.holds callback.session callback.connection = true
  · have hattempt : (server.sessions callback.session).authAttempt ≠ callback.attempt :=
      fun hattempt => hstale ⟨hholds, hattempt⟩
    unfold finish
    split
    · simp [finishAuthentication, hholds, hattempt]
    · simp [finishSignup, hholds, hattempt]
  · unfold finish
    split
    · simp [finishAuthentication, hholds]
    · simp [finishSignup, hholds]

omit hsound in
lemma finishAuthentication_cases (hres : result.status = .authenticated) :
    server.finishAuthentication sess c attempt result = server ∨
      (server.sessions sess).loginState = .verifying ∧
      (server.sessions sess).authAttempt = attempt ∧
      Quiet (server.onSession sess fun pre => logIn pre result)
        (server.finishAuthentication sess c attempt result) := by
  unfold finishAuthentication
  split
  · exact .inl rfl
  · split
    · exact .inl rfl
    · rename_i hcurrent
      simp only [Bool.or_eq_true, decide_eq_true_eq, not_or, not_not] at hcurrent
      refine .inr ⟨hcurrent.1, hcurrent.2, ?_⟩
      exact quiet_send.trans quiet_sendPrompt

lemma Sound.logIn {call : AuthCall} (hres : result.status = .authenticated)
    (hst : (server.sessions sess).loginState = .verifying)
    (hattempt : (server.sessions sess).authAttempt = attempt) (hcall : call ∈ server.returned)
    (hans : Answers call sess attempt result) :
    Sound (server.onSession sess fun pre => logIn pre result) := by
  refine hsound.onSession (by simp [hst]) (le_refl _) (fun _ => rfl)
    ⟨by simp [LoginServer.logIn], fun _ => rfl⟩ fun _ => ⟨call, hcall, hans.session_eq,
      hans.attempt_eq.trans hattempt.symm, ?_⟩
  rw [hans.result_eq, ← hres]
  rfl

lemma Sound.addCallback
    (hcallback : ∀ result, callback.outcome = .login result → result.status ≠ .authenticated) :
    Sound { server with callbacks := server.callbacks ++ [callback] } where
  wellFormed := hsound.wellFormed
  tasks t htask req hreq :=
    (hsound.tasks t htask req hreq).congr rfl
  returned call hcall := (hsound.returned call hcall).congr rfl
  callbacks other hother result houtcome hstatus := by
    rcases mem_append.mp hother with hold | hnew
    · exact hsound.callbacks other hold result houtcome hstatus
    · rw [mem_singleton] at hnew
      subst hnew
      exact absurd hstatus (hcallback result houtcome)
  identified := hsound.identified
  executed entry hent := (hsound.executed entry hent).congr rfl

lemma sound_finish (hcallback : callback ∈ server.callbacks) : Sound (server.finish callback) := by
  unfold finish
  split
  · rename_i result houtcome
    by_cases hres : result.status = .authenticated
    · obtain ⟨call, hcall, hans⟩ :=
        hsound.callbacks callback hcallback result houtcome hres
      rcases finishAuthentication_cases hres with hsame | ⟨hst, hattempt, hquiet⟩
      · rw [hsame]
        exact hsound
      · exact (hsound.logIn hres hst hattempt hcall hans).of_quiet hquiet
    · exact hsound.of_quiet (quiet_finishAuthentication hres)
  · exact hsound.of_quiet quiet_finishSignup

lemma sound_work {t : AuthTask} {answer : WorkerAnswer}
    (htask : t ∈ server.tasks) : Sound (server.work t answer) := by
  unfold work
  split
  · rename_i req hreq
    have hold : ∀ {sess attempt : ℕ} {result : AuthResult},
        (∃ call ∈ server.returned, Answers call sess attempt result) →
          ∃ call ∈ server.returned ++ [⟨t.session, t.attempt, req, answer.login⟩],
            Answers call sess attempt result := by
      rintro sess attempt result ⟨call, hcall, hans⟩
      exact ⟨call, mem_append_left _ hcall, hans⟩
    refine ⟨hsound.wellFormed, ?_, ?_, ?_, fun i hst => hold (hsound.identified i hst), ?_⟩
    · intro other hother login hlogin
      exact (hsound.tasks other hother login hlogin).congr rfl
    · intro call hcall
      rcases mem_append.mp hcall with hcall | hcall
      · exact (hsound.returned call hcall).congr rfl
      · rw [mem_singleton] at hcall
        subst hcall
        exact (hsound.tasks t htask req hreq).congr rfl
    · intro callback hcallback result houtcome hstatus
      rcases mem_append.mp hcallback with hcallback | hcallback
      · exact hold (hsound.callbacks callback hcallback result houtcome hstatus)
      · rw [mem_singleton] at hcallback
        subst hcallback
        refine ⟨_, mem_append_right _ (mem_singleton_self _), rfl, rfl, ?_⟩
        injection houtcome
    · exact fun entry hent => (hsound.executed entry hent).congr rfl
  · refine hsound.addCallback ?_
    simp

lemma Sound.step (event : Event) : Sound (server.step event) := by
  cases event with rw [LoginServer.step]
  | connect address room =>
    split
    · exact hsound
    · exact hsound.of_quiet quiet_onConnected
  | disconnect c => exact hsound.of_quiet quiet_handleClose
  | line c raw ch room => exact sound_onMessage (hsound.of_quiet quiet_withRoom)
  | work i answer =>
    split
    · exact hsound
    · rename_i t htask
      exact sound_work hsound (mem_of_getElem? htask)
  | timeout i =>
    split
    · exact hsound
    · exact hsound.addCallback fun result houtcome => by
        unfold AuthTask.timeout at houtcome
        split at houtcome
        · injection houtcome with hres
          simp [← hres]
        · simp at houtcome
  | deliver i room =>
    split
    · exact hsound
    · rename_i callback hcallback
      exact sound_finish (hsound.of_quiet quiet_withRoom) (mem_of_getElem? hcallback)
  | moved i directory room =>
    split
    · exact hsound
    · exact hsound.of_quiet (quiet_withRoom.trans quiet_moved)
  | transferOver sess =>
    refine hsound.of_quiet (quiet_onSession ?_)
    exact ⟨rfl, rfl, fun hst => ⟨hst, rfl, rfl⟩, id,
      fun hformed => ⟨hformed.username, fun hbusy => absurd hbusy Bool.false_ne_true⟩⟩

end

lemma sound_init : Sound {} where
  wellFormed _ := ⟨by simp, by simp⟩
  tasks := by simp
  returned := by simp
  callbacks := by simp
  identified := by simp
  executed := by simp

/-! ## What the login does not execute -/

@[simp] lemma handleClose_executed : (server.handleClose c).executed = server.executed := by
  unfold handleClose
  split <;> rfl

@[simp] lemma send_executed {text : ServerText} :
    (server.send c text).executed = server.executed := by
  unfold send
  split
  · rfl
  · split
    · exact handleClose_executed
    · rfl

@[simp] lemma sendNotice_executed {notice : Notice} :
    (server.sendNotice c notice).executed = server.executed := send_executed

@[simp] lemma onSession_executed : (server.onSession sess change).executed = server.executed := rfl

@[simp] lemma finishSignup_executed {result : SignupResult} :
    (server.finishSignup sess c attempt result).executed = server.executed := by
  unfold finishSignup
  split
  · rfl
  · split
    · rfl
    · split
      · simp
      · simp
      · simp
      · split_ifs <;> simp

@[simp] lemma finishAuthentication_executed :
    (server.finishAuthentication sess c attempt result).executed = server.executed := by
  unfold finishAuthentication
  split_ifs
  · rfl
  · rfl
  · exact send_executed.trans send_executed
  · simp
  · simp

lemma handleAuthCommand_executed {after : LoginServer}
    (hafter : server.handleAuthCommand c sess command acc = some after) :
    after.executed = server.executed := by
  unfold handleAuthCommand at hafter
  cases hst : (server.sessions sess).loginState <;> simp only [hst] at hafter
  case authenticated => simp at hafter
  case awaitPassword =>
      obtain rfl := some.inj hafter
      unfold handlePassword submit
      split_ifs <;> simp
  case signupUsername | signupPassword | signupConfirm =>
      obtain rfl := some.inj hafter
      unfold handleSignupCommand submit
      split_ifs <;> simp
  all_goals
    obtain rfl := some.inj hafter
    try split_ifs
    all_goals simp

lemma step_executed {event : Event} (hent : entry ∈ (server.step event).executed) :
    entry ∈ server.executed ∨ server.Owns entry := by
  cases event with rw [step] at hent
  | connect address room =>
    split at hent
    · exact .inl hent
    · exact quiet_onConnected.executed entry hent
  | disconnect c => exact quiet_handleClose.executed entry hent
  | line c raw ch room =>
    rcases onMessage_cases (server.withRoom c room) c raw ch with
      hquiet | ⟨sess, hlogin⟩
    · exact (quiet_withRoom.trans hquiet).executed entry hent
    · rw [handleAuthCommand_executed hlogin] at hent
      exact .inl hent
  | work i answer =>
    split at hent
    · exact .inl hent
    · unfold work at hent
      split at hent <;> exact .inl hent
  | timeout i =>
    split at hent <;> exact .inl hent
  | deliver i room =>
    split at hent
    · exact .inl hent
    · unfold finish at hent
      split at hent
      · rw [finishAuthentication_executed] at hent
        exact .inl hent
      · rw [finishSignup_executed] at hent
        exact .inl hent
  | moved i directory room =>
    split at hent
    · exact .inl hent
    · exact (quiet_withRoom.trans quiet_moved).executed entry hent
  | transferOver sess => exact .inl hent

/-! ## Safety -/

lemma current_withRoom {room : ℕ} :
    (server.withRoom c room).Current callback ↔ server.Current callback := by
  have hconnection : ((server.withRoom c room).connections callback.connection).state =
      (server.connections callback.connection).state ∧
      ((server.withRoom c room).connections callback.connection).address =
      (server.connections callback.connection).address := by
    unfold withRoom onConnection
    by_cases hconn : callback.connection = c
    · subst hconn
      simp
    · simp [Function.update_of_ne hconn]
  unfold Current holds sessionOf
  rw [hconnection.1, hconnection.2]
  rfl

/-- In every run: an authenticated session has the identity that `authenticate` returned for its
latest login attempt; a result that is not current changes no session; and whatever is executed
belongs to a session that is authenticated. -/
theorem session_authentication_safe (events : List Event) :
    let server := run step {} events
    (∀ index, (server.sessions index).loginState = .authenticated →
      ∃ call ∈ server.returned, call.session = index ∧
        call.attempt = (server.sessions index).authAttempt ∧
        (server.sessions index).attempted = some call.request ∧
        authenticate call.request call.choices =
          ⟨.authenticated, (server.sessions index).userId, (server.sessions index).name⟩) ∧
    (∀ index callback room, server.callbacks[index]? = some callback →
      ¬server.Current callback → (server.step (.deliver index room)).sessions = server.sessions) ∧
    (∀ callback result, callback.outcome = .signup result → ∀ index,
      ((server.finish callback).sessions index).loginState = .authenticated →
        (server.sessions index).loginState = .authenticated) ∧
    (∀ event, ∀ entry ∈ (server.step event).executed, entry ∈ server.executed ∨ server.Owns entry) ∧
    (∀ entry ∈ server.executed, server.Owns entry) ∧
    ∀ index, (server.sessions index).transfer = true →
      (server.sessions index).loginState = .authenticated := by
  intro server
  have hsound : Sound server := by
    have hstep : ∀ (server : LoginServer) event, Sound server → Sound (server.step event) :=
      fun _ event hsound => hsound.step event
    exact run_invariant hstep sound_init events
  refine ⟨?_, ?_, ?_, fun event entry hentry => step_executed hentry, hsound.executed,
    fun index => (hsound.wellFormed index).transfer⟩
  · intro index hstate
    obtain ⟨call, hcall, hsession, hattempt, hresult⟩ := hsound.identified index hstate
    have hrecent := hsound.returned call hcall
    rw [hsession] at hrecent
    exact ⟨call, hcall, hsession, hattempt, hrecent.latest hattempt, hresult⟩
  · intro index callback room hcallback hstale
    rw [step, hcallback]
    dsimp only
    rw [finish_of_not_current (current_withRoom.not.mpr hstale)]
    rfl
  · intro callback result houtcome index hstate
    unfold finish at hstate
    rw [houtcome] at hstate
    exact (quiet_finishSignup.sessions index).gains hstate

def loginEvents : List Event :=
  [.connect 7 9, .line 0 (ascii "login") {} 9, .line 0 (ascii "ann") {} 9,
    .line 0 (ascii "secret\r") {} 9,
    .work 0 ⟨⟨some (.found ⟨5, ascii "ann", ⟨[], []⟩⟩), some true⟩, {}⟩, .deliver 0 9,
    .line 0 (ascii "ls") {} 9]

example : (run step {} loginEvents).executed =
    [⟨0, 5, ascii "ann", ascii "/", .ls⟩] := by
  decide

end LoginServer

end Tlss.Ftp
