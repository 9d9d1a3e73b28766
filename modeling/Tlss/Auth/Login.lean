import Tlss.Auth.Signup

/-!
# Logging in

`AuthService::authenticate` looks the user up and verifies the password. It answers
`k_authenticated` only with the identity of the row that the repository found, and only if
the password was verified against the credentials of that row.
-/

namespace Tlss.Auth

open Library

structure LoginRequest where
  username : Bytes
  password : Bytes
deriving DecidableEq, Repr

inductive AuthStatus where
  | authenticated
  | invalidCredentials
  | backendUnavailable
deriving DecidableEq, Repr

structure AuthResult where
  status : AuthStatus := .backendUnavailable
  userId : ℕ := 0
  username : Bytes := []
deriving DecidableEq, Repr

structure UserRecord where
  userId : ℕ := 0
  username : Bytes := []
  credentials : PasswordCredentials
deriving DecidableEq, Repr

inductive UserLookupResult where
  | found (user : UserRecord)
  | notFound
  | backendUnavailable
deriving DecidableEq, Repr

/-- What the environment decides in a login: the answer of `find_active_user` and that of
`verify_password`, where `none` is an exception. -/
structure LoginChoices where
  lookup : Option UserLookupResult
  verified : Option Bool
deriving DecidableEq, Repr

def authenticate (request : LoginRequest) (choices : LoginChoices) : AuthResult :=
  if request.username.isEmpty || request.username.length > 64 || request.password.isEmpty ||
      request.password.length > 128 then ⟨.invalidCredentials, 0, []⟩
  else
    match choices.lookup with
    | none => {}
    | some .notFound => ⟨.invalidCredentials, 0, []⟩
    | some .backendUnavailable => {}
    | some (.found user) =>
      if user.userId = 0 || user.username.isEmpty then {}
      else
        match choices.verified with
        | none => {}
        | some false => ⟨.invalidCredentials, 0, []⟩
        | some true => ⟨.authenticated, user.userId, user.username⟩

end Tlss.Auth
