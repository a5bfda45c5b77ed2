/-
This file models the clients of the poller as far as polling depends on them:
the connection parameters a client is built from, and the responses it gives.
What happens on the wire is not part of the model.
-/

import Gyanam.Reports

namespace Gyanam

/-! ### Connection parameters -/

/-- The base URL of a target. The default port of the scheme is left out. -/
def Target.baseUrl (target : Target) : String :=
  let protocol := if target.useSsl then "https" else "http"
  if (target.useSsl ∧ target.port = 443) ∨ (¬ target.useSsl ∧ target.port = 80) then
    protocol ++ "://" ++ target.host
  else protocol ++ "://" ++ target.host ++ ":" ++ toString target.port

/-- A text without the slashes at its end. -/
def rstripSlash (chars : String) : String :=
  String.ofList (chars.toList.reverse.dropWhile fun char => char = '/').reverse

/-- A client: where it connects to, and as whom. -/
structure RedfishClient where
  baseUrl : String
  username : String
  password : String
  token : Option String
  verifySsl : Bool
  deriving DecidableEq, Repr

/-- The client for a target, with its decrypted credentials. -/
def RedfishClient.forTarget (target : Target) (password : String) (token : Option String) :
    RedfishClient where
  baseUrl := rstripSlash target.baseUrl
  username := target.username
  password := password
  token := token
  verifySsl := target.verifySsl

/-- Decrypt the password of a target. -/
def decryptPassword (decrypt : String → Except PollError String) (target : Target) :
    Except PollError String :=
  decrypt target.encryptedPassword

/-- Decrypt the token of a target, if there is one. -/
def decryptToken (decrypt : String → Except PollError String) (target : Target) :
    Except PollError (Option String) :=
  match target.encryptedToken with
  | none => .ok none
  | some "" => .ok none
  | some encrypted => (decrypt encrypted).map some

/-- The client that a row describes, if its credentials can be decrypted. -/
def RedfishClient.ofTarget (decrypt : String → Except PollError String) (target : Target) :
    Option RedfishClient :=
  match decryptPassword decrypt target, decryptToken decrypt target with
  | .ok password, .ok token => some (.forTarget target password token)
  | _, _ => none

/-! ### Responses -/

/-- What a call of a client returns. -/
structure RedfishResponse where
  success : Bool
  content : List UInt8 := []
  contentType : String := ""
  errorMessage : Option String := none
  deriving DecidableEq, Repr

end Gyanam
