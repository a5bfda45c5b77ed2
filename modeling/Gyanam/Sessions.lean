/-
This file models who may use the pages of the collector: the session cookies and
the tokens of its forms, which it signs and keeps no record of, the passwords it
verifies, and what it makes of a login, a logout and a request for a page behind
a login.

The primitives are parameters: the two hash functions, the check of a password
against its bcrypt hash, and the reading of base64. A token is split around its
last colons, since a user name may have colons in it.
-/

import Gyanam.Lib.Encoding
import Gyanam.Lib.Hex
import Gyanam.Lib.SignedToken

namespace Gyanam

open Json (CodePoint Text)

/-! ### Settings, clocks and requests -/

/-- What the server takes from its libraries. -/
structure Primitives where
  sha256 : List UInt8 → List UInt8
  /-- The digest of a message under a key. -/
  hmacSha256 : List UInt8 → List UInt8 → List UInt8
  /-- Whether a password fits a hash; nothing if the check raises. -/
  checkpw : List UInt8 → List UInt8 → Option Bool
  /-- The octets that a text of base64 stands for; nothing if it raises. -/
  b64decode : Text → Option (List UInt8)

/-- The settings that a login reads. -/
structure AuthSettings where
  encryptionKey : Text
  username : Text
  passwordHash : Text
  /-- The environment variable that permits the default password. -/
  allowDefaultPassword : Option Text := none

/-- What no finite double reaches. -/
def doubleLimit : Nat := 2 ^ 1024

/-- A reading of the wall clock: a finite double. -/
structure Clock where
  seconds : Rat
  finite : -(doubleLimit : Rat) < seconds ∧ seconds < (doubleLimit : Rat)

/-- The whole seconds of a reading, towards zero. -/
def Clock.whole (now : Clock) : Int := now.seconds.num.tdiv now.seconds.den

/-- The parts of a request that are read before its user is known. -/
structure PageRequest where
  path : Text
  cookie : Option Text := none
  authorization : Option Text := none
  accept : Option Text := none

/-- What ends a request before its handler returns. The first two are not handled, and a form
without all its required fields is answered 422. -/
inductive AuthError where
  | typeError
  | unicodeEncodeError
  | missingFields (names : List String)
  | http (status : Nat) (detail : Text) (headers : List (Text × Text))
  | loginRequired (nextUrl : Text)
  deriving DecidableEq

/-- What stands between the parts of a token. -/
def tokenColon : CodePoint := Json.point ':'.toNat

/-- The octets of a text. -/
def encoded (chars : Text) : Except AuthError (List UInt8) :=
  match Encoding.encode chars with
  | some octets => .ok octets
  | none => .error .unicodeEncodeError

/-- Compare two texts; characters beyond ASCII raise. -/
def compareDigest (first second : Text) : Except AuthError Bool :=
  if (first ++ second).all fun point => decide (point.val < 0x80) then .ok (decide (first = second))
  else .error .typeError

/-- The hexadecimal text of a digest. -/
def hexdigest (digest : List UInt8) : Text := digest.flatMap fun octet => Hex.digits 2 octet.toNat

namespace Sessions

variable (primitives : Primitives) (settings : AuthSettings) (now : Clock)

/-! ### Passwords -/

/-- How long a session lasts. -/
def sessionMaxAge : Int := 28800

/-- The hash of the default password. -/
def defaultHash : Text :=
  Json.text "$2b$12$DDVvJVK1RdIj//rkWa7g8Op8Sc00hu64FJ9lwMZ/.8hvlXkF7jLaW"

/-- Has the operator opted into the default password? -/
def defaultPasswordAllowed : Bool :=
  ["1", "true", "yes", "on"].any fun word =>
    Strings.lower (Strings.strip (settings.allowDefaultPassword.getD [])) = Json.text word

/-- Refuse the default password unless it is allowed. -/
def defaultPasswordBlocksLogin : Bool :=
  decide (settings.passwordHash = defaultHash) && !defaultPasswordAllowed settings

/-- Is a text a bcrypt hash? -/
def isValidBcryptHash (chars : Text) : Bool :=
  (["$2a$", "$2b$", "$2y$"].any fun start => (Json.text start).isPrefixOf chars) &&
    decide (chars.length = 60)

/-- Verify a password against its hash. -/
def verifyPassword (plainPassword hashedPassword : Text) : Bool :=
  if hashedPassword = [] then false
  else if isValidBcryptHash hashedPassword = false then false
  else
    match Encoding.encode plainPassword, Encoding.encode hashedPassword with
    | some password, some hashed => (primitives.checkpw password hashed).getD false
    | _, _ => false

/-! ### Session cookies -/

/-- The secret of a kind of token, derived from the encryption key. -/
def derivedSecret (purpose : String) : Except AuthError (List UInt8) := do
  return primitives.sha256 (← encoded (Json.text purpose ++ settings.encryptionKey))

/-- The secret that signs sessions. -/
def getSessionSecret : Except AuthError (List UInt8) := derivedSecret primitives settings "session-"

/-- The signature of a payload. -/
def signature (secret : List UInt8) (payload : Text) : Except AuthError Text := do
  return hexdigest (primitives.hmacSha256 secret (← encoded payload))

/-- The payload of a session: whose it is, and when it ends. -/
def sessionPayload (username expiry : Text) : Text := username ++ tokenColon :: expiry

/-- Create a signed session cookie. -/
def createSessionCookie (username : Text) : Except AuthError Text := do
  let payload := sessionPayload username (Strings.decimal (now.whole + sessionMaxAge))
  let secret ← getSessionSecret primitives settings
  return payload ++ tokenColon :: (← signature primitives secret payload)

/-- Validate a session cookie and return its user. -/
def validateSessionCookie (cookie : Option Text) : Except AuthError (Option Text) := do
  match LastSeparator.rsplit tokenColon 2 (cookie.getD []) with
  | [username, expiryText, found] =>
    let secret ← getSessionSecret primitives settings
    let expected ← signature primitives secret (sessionPayload username expiryText)
    if (← compareDigest found expected) = false then return none
    match Strings.toInt expiryText with
    | none => return none
    | some expiry => return if now.seconds > expiry then none else some username
  | _ => return none

/-! ### Form tokens -/

/-- How long the token of a form is valid. -/
def tokenMaxAge : Int := 3600

/-- The secret that signs the tokens of forms. -/
def getSecret : Except AuthError (List UInt8) := derivedSecret primitives settings "csrf-"

/-- The payload of a form's token: its nonce, and when it was made. -/
def tokenPayload (nonce timestamp : Text) : Text := nonce ++ tokenColon :: timestamp

/-- Generate a signed token; the octets of its nonce are drawn. -/
def generateCsrfToken (nonce : List UInt8) : Except AuthError Text := do
  let payload := tokenPayload (hexdigest nonce) (Strings.decimal now.whole)
  let secret ← getSecret primitives settings
  return payload ++ tokenColon :: (← signature primitives secret payload)

/-- A refusal of a form. -/
def forbidden (detail : String) : AuthError := .http 403 (Json.text detail) []

/-- Validate the token of a form. -/
def validateCsrfToken (token : Text) : Except AuthError Unit := do
  if token = [] then throw (forbidden "Missing CSRF token")
  match Strings.split tokenColon token with
  | [nonce, timestampText, found] =>
    let secret ← getSecret primitives settings
    let expected ← signature primitives secret (tokenPayload nonce timestampText)
    if (← compareDigest found expected) = false then throw (forbidden "Invalid CSRF token")
    match Strings.toInt timestampText with
    | none => throw (forbidden "Invalid CSRF token")
    | some tokenTime =>
      if now.seconds - tokenTime > tokenMaxAge then throw (forbidden "CSRF token expired")
      else return ()
  | _ => throw (forbidden "Invalid CSRF token")

/-! ### Users -/

/-- A name and a password, split at the first tokenColon. -/
def splitCredentials : Text → Option (Text × Text)
  | [] => none
  | point :: rest =>
    if point = tokenColon then some ([], rest)
    else (splitCredentials rest).map fun both => (point :: both.1, both.2)

/-- The credentials in the header of a request. -/
def basicCredentials (request : PageRequest) : Option (Text × Text) := do
  let header := request.authorization.getD []
  if (Json.text "Basic ").isPrefixOf header then
    splitCredentials (← Encoding.decode (← primitives.b64decode (header.drop 6)))
  else none

/-- Check the credentials in the header of a request. -/
def checkBasicAuth (request : PageRequest) : Except AuthError (Option Text) := do
  match basicCredentials primitives request with
  | none => return none
  | some (username, password) =>
    let correctUsername ← compareDigest username settings.username
    if defaultPasswordBlocksLogin settings then return none
    let correctPassword := verifyPassword primitives password settings.passwordHash
    return if correctUsername && correctPassword then some username else none

/-- Is a request one of a program rather than one of a browser? -/
def isApiRequest (request : PageRequest) : Bool :=
  Strings.contains request.path (Json.text "/api") ||
    (let accept := request.accept.getD []
     !accept.isEmpty && !Strings.contains accept (Json.text "text/html"))

/-- The answer to a program without credentials. -/
def unauthorized : AuthError :=
  .http 401 (Json.text "Invalid credentials") [(Json.text "WWW-Authenticate", Json.text "Basic")]

/-- A user whose name is not empty. -/
def named (username : Option Text) : Option Text := username.filter (· ≠ [])

/-- The user of a request. -/
def getCurrentUser (request : PageRequest) : Except AuthError Text := do
  match named (← validateSessionCookie primitives settings now request.cookie) with
  | some username => return username
  | none =>
    if isApiRequest request then
      match named (← checkBasicAuth primitives settings request) with
      | some username => return username
      | none => throw unauthorized
    else throw (.loginRequired request.path)

/-! ### Logins -/

/-- Require the fields of a form. One that is empty counts as missing. -/
def requireFields (fields : List (String × Text)) : Except AuthError Unit :=
  match fields.filter fun field => decide (field.2 = []) with
  | [] => .ok ()
  | missing => .error (.missingFields (missing.map Prod.fst))

/-- The form of a login. -/
structure LoginForm where
  username : Text
  password : Text
  csrfToken : Text

/-- The answers of the server to what it does not refuse. -/
inductive AuthReply where
  /-- A page with a form, and the token in it. -/
  | page (status : Nat) (csrfToken : Text)
  /-- A redirection that sets the cookie of a session. -/
  | signedIn (location cookie : Text)
  /-- A redirection that deletes it. -/
  | signedOut (location : Text)
  /-- The work of a route behind a login. -/
  | served (username : Text)
  deriving DecidableEq

/-- A page with a form in it. -/
def loginPage (nonce : List UInt8) : Except AuthError AuthReply := do
  return .page 200 (← generateCsrfToken primitives settings now nonce)

/-- A login. The nonce is that of the token in the page that refuses it. -/
def login (form : LoginForm) (nonce : List UInt8) : Except AuthError AuthReply := do
  requireFields [("username", form.username), ("password", form.password),
    ("csrf_token", form.csrfToken)]
  validateCsrfToken primitives settings now form.csrfToken
  let usernameValid ← compareDigest form.username settings.username
  let passwordValid := verifyPassword primitives form.password settings.passwordHash &&
    !defaultPasswordBlocksLogin settings
  if usernameValid && passwordValid then
    let sessionCookie ← createSessionCookie primitives settings now settings.username
    return .signedIn (Json.text "/") sessionCookie
  else return .page 401 (← generateCsrfToken primitives settings now nonce)

/-- A logout; the server keeps nothing of a session that it could end. -/
def logout (csrfToken : Text) : Except AuthError AuthReply := do
  requireFields [("csrf_token", csrfToken)]
  validateCsrfToken primitives settings now csrfToken
  return .signedOut (Json.text "/login")

/-- A route behind a login. -/
def visit (request : PageRequest) : Except AuthError AuthReply := do
  return .served (← getCurrentUser primitives settings now request)

/-- A route behind a login that takes a form. -/
def submit (request : PageRequest) (csrfToken : Text) : Except AuthError AuthReply := do
  let username ← getCurrentUser primitives settings now request
  requireFields [("csrf_token", csrfToken)]
  validateCsrfToken primitives settings now csrfToken
  return .served username

end Sessions

end Gyanam
