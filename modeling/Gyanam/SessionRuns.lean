/-
This file runs the server against clients that send what they like, whenever
they like, while it is restarted with other settings and its clock is set at
will. The server remembers nothing of what it signed; the run does.

The clients are bound in one way only: a text with a right signature of the
server holds a payload that the server has signed before. Then whoever is served
has logged in within the session's time, with the password and the form that
were asked for, or sends the password along. And whoever has logged in stays
logged in until the time is over: no logout and no change of the password ends a
session.
-/

import Gyanam.Lib.Machine
import Gyanam.SessionTokens

namespace Gyanam

open Json (CodePoint Text)

namespace Sessions

variable (primitives : Primitives)

/-! ### Exchanges -/

/-- What a client sends. A page with a form in it comes with the nonce that is drawn for it. -/
inductive AuthQuery where
  | openPage (nonce : List UInt8)
  | logIn (form : LoginForm) (nonce : List UInt8)
  | logOut (csrfToken : Text)
  | visit (request : PageRequest)
  | submit (request : PageRequest) (csrfToken : Text)

/-- The answer to a query. -/
def answer (settings : AuthSettings) (now : Clock) : AuthQuery → Except AuthError AuthReply
  | .openPage nonce => loginPage primitives settings now nonce
  | .logIn form nonce => login primitives settings now form nonce
  | .logOut csrfToken => logout primitives settings now csrfToken
  | .visit request => visit primitives settings now request
  | .submit request csrfToken => submit primitives settings now request csrfToken

/-- The texts of a query that are read as tokens. -/
def AuthQuery.presented : AuthQuery → List Text
  | .openPage _ => []
  | .logIn form _ => [form.csrfToken]
  | .logOut csrfToken => [csrfToken]
  | .visit request => request.cookie.toList
  | .submit request csrfToken => csrfToken :: request.cookie.toList

/-- A query with its answer, and the settings and the clock it was answered with. -/
structure AuthExchange where
  settings : AuthSettings
  now : Clock
  query : AuthQuery
  answer : Except AuthError AuthReply

/-- The server signed a payload with a secret in an exchange: the answer holds the token. -/
def AuthExchange.Signed (exchange : AuthExchange) (secret : List UInt8) (payload : Text) : Prop :=
  match exchange.answer with
  | .ok (.page _ token) =>
    getSecret primitives exchange.settings = .ok secret ∧
      (signer primitives secret).sign payload = some token
  | .ok (.signedIn _ cookie) =>
    getSessionSecret primitives exchange.settings = .ok secret ∧
      (signer primitives secret).sign payload = some cookie
  | _ => False

/-- The secrets of the server. -/
def Owns (settings : AuthSettings) (secret : List UInt8) : Prop :=
  getSessionSecret primitives settings = .ok secret ∨ getSecret primitives settings = .ok secret

/-! ### Runs -/

/-- The settings of the server, and what was said so far, the latest first. -/
structure AuthServer where
  settings : AuthSettings
  exchanges : List AuthExchange := []

/-- A query at a time, or a restart. -/
inductive AuthEvent where
  | exchange (now : Clock) (query : AuthQuery)
  | restart (settings : AuthSettings)

def serverStep (server : AuthServer) : AuthEvent → AuthServer
  | .exchange now query =>
    { server with
      exchanges :=
        ⟨server.settings, now, query, answer primitives server.settings now query⟩ ::
          server.exchanges }
  | .restart settings => { server with settings := settings }

/-- The server and its clients. -/
def authMachine : Machine AuthServer AuthEvent where
  step server event := some (serverStep primitives server event)

/-- What a query presents with a right signature of the server was signed by it before. -/
def UnforgedQuery (settings : AuthSettings) (before : List AuthExchange) (query : AuthQuery) :
    Prop :=
  ∀ token ∈ query.presented, ∀ secret payload, Owns primitives settings secret →
    (signer primitives secret).sign payload = some token →
      ∃ exchange ∈ before, exchange.Signed primitives secret payload

def Unforged (server : AuthServer) : AuthEvent → Prop
  | .exchange _ query => UnforgedQuery primitives server.settings server.exchanges query
  | .restart _ => True

/-- A restart keeps the encryption key. -/
def KeepsKey (server : AuthServer) : AuthEvent → Prop
  | .exchange _ _ => True
  | .restart settings => settings.encryptionKey = server.settings.encryptionKey

/-- With the settings of some exchanges, no secret of sessions is a secret of forms. -/
def SecretsApart (exchanges : List AuthExchange) : Prop :=
  ∀ exchange ∈ exchanges, ∀ other ∈ exchanges, ∀ secret,
    getSessionSecret primitives exchange.settings = .ok secret →
      getSecret primitives other.settings ≠ .ok secret

/-! ### What entitles a request -/

/-- Are these the name and the password that the settings ask for? -/
def Verified (settings : AuthSettings) (username password : Text) : Prop :=
  username = settings.username ∧ verifyPassword primitives password settings.passwordHash = true ∧
    defaultPasswordBlocksLogin settings = false

/-- The token is in a page that the server made at most an hour ago. -/
def FreshForm (before : List AuthExchange) (now : Clock) (csrfToken : Text) : Prop :=
  ∃ page ∈ before, ∃ status, page.answer = .ok (.page status csrfToken) ∧
    now.seconds - page.now.whole ≤ (tokenMaxAge : Rat)

/-- The cookie is that of a login at most eight hours ago, in which a fresh form brought the name
and the password that were asked for then. -/
def LoggedIn (before : List AuthExchange) (now : Clock) (username cookie : Text) : Prop :=
  ∃ between login earlier form nonce location, before = between ++ login :: earlier ∧
    login.query = .logIn form nonce ∧ login.answer = .ok (.signedIn location cookie) ∧
    form.username = username ∧ Verified primitives login.settings username form.password ∧
    FreshForm earlier login.now form.csrfToken ∧
    now.seconds ≤ ((login.now.whole + sessionMaxAge : Int) : Rat)

/-- A request of a program that sends the name and the password along. -/
def SendsPassword (settings : AuthSettings) (request : PageRequest) (username : Text) : Prop :=
  isApiRequest request = true ∧ ∃ password,
    basicCredentials primitives request = some (username, password) ∧
      Verified primitives settings username password

/-- What entitles a request to be served for a user. -/
def Entitled (exchange : AuthExchange) (before : List AuthExchange) (request : PageRequest)
    (username : Text) : Prop :=
  (∃ cookie, request.cookie = some cookie ∧
      LoggedIn primitives before exchange.now username cookie) ∨
    SendsPassword primitives exchange.settings request username

variable {primitives}

/-! ### What one exchange needs -/

theorem eq_of_compareDigest {first second : Text} (same : compareDigest first second = .ok true) :
    first = second := by
  rw [compareDigest] at same
  split at same
  · exact of_decide_eq_true (Except.ok.inj same)
  · cases same

theorem eq_of_named {username : Option Text} {name : Text}
    (some_name : named username = some name) :
    username = some name :=
  (Option.filter_eq_some_iff.mp some_name).1

/-- Are these credentials let in? The comparison of the names may raise. -/
def LetIn (primitives : Primitives) (settings : AuthSettings) (username password : Text) : Prop :=
  compareDigest username settings.username = .ok true ∧
    verifyPassword primitives password settings.passwordHash = true ∧
      defaultPasswordBlocksLogin settings = false

theorem LetIn.verified {settings : AuthSettings} {username password : Text}
    (letIn : LetIn primitives settings username password) :
    Verified primitives settings username password :=
  ⟨eq_of_compareDigest letIn.1, letIn.2⟩

/-- The credentials that a program sends along are let in. -/
theorem checkBasicAuth_eq_some {settings : AuthSettings} {request : PageRequest} {username : Text}
    (checked : checkBasicAuth primitives settings request = .ok (some username)) :
    ∃ password, basicCredentials primitives request = some (username, password) ∧
      LetIn primitives settings username password := by
  rw [checkBasicAuth] at checked
  cases credentials : basicCredentials primitives request with
  | none =>
    rw [credentials] at checked
    cases checked
  | some both =>
    obtain ⟨name, password⟩ := both
    simp only [credentials, Fallible.bind_eq_ok] at checked
    obtain ⟨correctUsername, compared, judged⟩ := checked
    split at judged
    · cases judged
    · next permitted =>
      simp only [pure, Except.pure, Except.ok.injEq] at judged
      split at judged
      · next both =>
        rw [Bool.and_eq_true] at both
        obtain rfl := Option.some.inj judged
        refine ⟨password, rfl, both.1 ▸ compared, both.2, ?_⟩
        exact Bool.eq_false_iff.mpr permitted
      · cases judged

/-- The user of a request is that of its cookie, or that of the credentials a program sends. -/
theorem getCurrentUser_eq_ok {settings : AuthSettings} {now : Clock} {request : PageRequest}
    {username : Text} (user : getCurrentUser primitives settings now request = .ok username) :
    validateSessionCookie primitives settings now request.cookie = .ok (some username) ∨
      isApiRequest request = true ∧
        checkBasicAuth primitives settings request = .ok (some username) := by
  simp only [getCurrentUser, Fallible.bind_eq_ok] at user
  obtain ⟨session, validated, user⟩ := user
  split at user
  · next name found =>
    obtain rfl := Except.ok.inj user
    exact .inl (eq_of_named found ▸ validated)
  · split at user
    · next program =>
      simp only [Fallible.bind_eq_ok] at user
      obtain ⟨basic, checked, user⟩ := user
      split at user
      · next name found =>
        obtain rfl := Except.ok.inj user
        exact .inr ⟨program, eq_of_named found ▸ checked⟩
      · cases user
    · cases user

theorem requireFields_eq_ok {fields : List (String × Text)} :
    requireFields fields = .ok () ↔ ∀ field ∈ fields, field.2 ≠ [] := by
  have empties : fields.filter (fun field => decide (field.2 = [])) = [] ↔
      ∀ field ∈ fields, field.2 ≠ [] := by
    simp [List.filter_eq_nil_iff]
  rw [← empties, requireFields]
  cases fields.filter fun field => decide (field.2 = []) with
  | nil => exact ⟨fun _ => rfl, fun _ => rfl⟩
  | cons first rest => exact ⟨nofun, nofun⟩

/-- A login makes a session for the name and the password that the settings ask for, with a form
that passes. None of its fields is empty. -/
theorem login_eq_signedIn {settings : AuthSettings} {now : Clock} {form : LoginForm}
    {nonce : List UInt8} {location cookie : Text}
    (signedIn : login primitives settings now form nonce = .ok (.signedIn location cookie)) :
    (form.username ≠ [] ∧ form.password ≠ []) ∧
      validateCsrfToken primitives settings now form.csrfToken = .ok () ∧
      LetIn primitives settings form.username form.password ∧
      createSessionCookie primitives settings now form.username = .ok cookie := by
  simp only [login, Fallible.bind_eq_ok] at signedIn
  obtain ⟨_, required, _, fresh, usernameValid, compared, judged⟩ := signedIn
  have filled := requireFields_eq_ok.mp required
  simp only [List.forall_mem_cons] at filled
  split at judged
  · next valid =>
    simp only [Bool.and_eq_true, Bool.not_eq_true'] at valid
    obtain ⟨named, fits, permitted⟩ := valid
    rw [named] at compared
    obtain ⟨made, created, replied⟩ := Fallible.bind_eq_ok.mp judged
    cases replied
    exact ⟨⟨filled.1, filled.2.1⟩, fresh, ⟨compared, fits, permitted⟩,
      eq_of_compareDigest compared ▸ created⟩
  · obtain ⟨token, -, replied⟩ := Fallible.bind_eq_ok.mp judged
    cases replied

/-- A page holds the token that was made for it. -/
theorem answer_eq_page {settings : AuthSettings} {now : Clock} {query : AuthQuery} {status : Nat}
    {token : Text} (page : answer primitives settings now query = .ok (.page status token)) :
    ∃ nonce, generateCsrfToken primitives settings now nonce = .ok token := by
  cases query with
  | openPage nonce =>
    obtain ⟨made, generated, replied⟩ := Fallible.bind_eq_ok.mp page
    cases replied
    exact ⟨nonce, generated⟩
  | logIn form nonce =>
    simp only [answer, login, Fallible.bind_eq_ok] at page
    obtain ⟨_, -, _, -, usernameValid, -, judged⟩ := page
    split at judged
    · obtain ⟨made, -, replied⟩ := Fallible.bind_eq_ok.mp judged
      cases replied
    · obtain ⟨made, generated, replied⟩ := Fallible.bind_eq_ok.mp judged
      cases replied
      exact ⟨nonce, generated⟩
  | logOut csrfToken =>
    simp only [answer, logout, Fallible.bind_eq_ok] at page
    obtain ⟨_, -, _, -, replied⟩ := page
    cases replied
  | visit request =>
    obtain ⟨_, -, replied⟩ := Fallible.bind_eq_ok.mp page
    cases replied
  | submit request csrfToken =>
    simp only [answer, submit, Fallible.bind_eq_ok] at page
    obtain ⟨_, -, _, -, _, -, replied⟩ := page
    cases replied

/-- Only a login sets a cookie. -/
theorem answer_eq_signedIn {settings : AuthSettings} {now : Clock} {query : AuthQuery}
    {location cookie : Text}
    (signedIn : answer primitives settings now query = .ok (.signedIn location cookie)) :
    ∃ form nonce, query = .logIn form nonce ∧
      login primitives settings now form nonce = .ok (.signedIn location cookie) := by
  cases query with
  | openPage nonce =>
    obtain ⟨_, -, replied⟩ := Fallible.bind_eq_ok.mp signedIn
    cases replied
  | logIn form nonce => exact ⟨form, nonce, rfl, signedIn⟩
  | logOut csrfToken =>
    simp only [answer, logout, Fallible.bind_eq_ok] at signedIn
    obtain ⟨_, -, _, -, replied⟩ := signedIn
    cases replied
  | visit request =>
    obtain ⟨_, -, replied⟩ := Fallible.bind_eq_ok.mp signedIn
    cases replied
  | submit request csrfToken =>
    simp only [answer, submit, Fallible.bind_eq_ok] at signedIn
    obtain ⟨_, -, _, -, _, -, replied⟩ := signedIn
    cases replied

/-! ### What was said before -/

/-- An exchange whose answer is the server's and whose query forges nothing. -/
def Honest (primitives : Primitives) (exchange : AuthExchange) (before : List AuthExchange) :
    Prop :=
  exchange.answer = answer primitives exchange.settings exchange.now exchange.query ∧
    UnforgedQuery primitives exchange.settings before exchange.query

/-- Every exchange was honest when it was had. -/
def AllHonest (primitives : Primitives) (exchanges : List AuthExchange) : Prop :=
  ∀ later exchange before, exchanges = later ++ exchange :: before →
    Honest primitives exchange before

theorem allHonest_cons {exchange : AuthExchange} {before : List AuthExchange}
    (latest : Honest primitives exchange before) (honest : AllHonest primitives before) :
    AllHonest primitives (exchange :: before) := by
  intro later other rest whole
  cases later with
  | nil =>
    obtain ⟨rfl, rfl⟩ := List.cons.inj whole
    exact latest
  | cons first others => exact honest others other rest (List.cons.inj whole).2

theorem allHonest_of_append {later before : List AuthExchange}
    (honest : AllHonest primitives (later ++ before)) : AllHonest primitives before := by
  rintro between exchange earlier rfl
  exact honest (later ++ between) exchange earlier (List.append_assoc ..).symm

/-- The exchanges of a run are honest. -/
theorem allHonest_of_run {start final : AuthServer} {events : List AuthEvent}
    (silent : start.exchanges = [])
    (unforged : (authMachine primitives).Throughout (Unforged primitives) start events)
    (run : (authMachine primitives).run start events = some final) :
    AllHonest primitives final.exchanges := by
  let honestServer (server : AuthServer) : Prop := AllHonest primitives server.exchanges
  have initial : honestServer start := by
    rintro later exchange before whole
    simp [silent] at whole
  refine (authMachine primitives).run_keeps ?_ initial unforged run
  · intro server event next honest holds step
    obtain rfl := Option.some.inj step
    cases event with
    | exchange now query => exact allHonest_cons ⟨rfl, holds⟩ honest
    | restart settings => exact honest

/-- What was signed is in the answer. -/
theorem signed_cases {exchange : AuthExchange} {secret : List UInt8} {payload : Text}
    (signed : exchange.Signed primitives secret payload) :
    (∃ status token, exchange.answer = .ok (.page status token) ∧
        getSecret primitives exchange.settings = .ok secret ∧
          (signer primitives secret).sign payload = some token) ∨
      ∃ location cookie, exchange.answer = .ok (.signedIn location cookie) ∧
        getSessionSecret primitives exchange.settings = .ok secret ∧
          (signer primitives secret).sign payload = some cookie := by
  rw [AuthExchange.Signed] at signed
  split at signed
  · next status token answered => exact .inl ⟨status, token, answered, signed⟩
  · next location cookie answered => exact .inr ⟨location, cookie, answered, signed⟩
  · exact signed.elim

theorem SecretsApart.sublist {exchanges some : List AuthExchange}
    (apart : SecretsApart primitives exchanges) (within : some ⊆ exchanges) :
    SecretsApart primitives some :=
  fun exchange member other member' => apart exchange (within member) other (within member')

/-- The token of a form that passes is in a page of the last hour. -/
theorem freshForm_of_validate {exchange : AuthExchange} {before : List AuthExchange}
    (apart : SecretsApart primitives (exchange :: before))
    (honest : AllHonest primitives (exchange :: before))
    {csrfToken : Text} (presented : csrfToken ∈ exchange.query.presented)
    (valid : validateCsrfToken primitives exchange.settings exchange.now csrfToken = .ok ()) :
    FreshForm before exchange.now csrfToken := by
  obtain ⟨secret, nonce, timestampText, tokenTime, derived, signed, -, clean, spelled, recent⟩ :=
    validateCsrfToken_eq_ok.mp valid
  obtain ⟨other, member, signedBefore⟩ :=
    (honest [] exchange before rfl).2 csrfToken presented secret _ (.inr derived) signed
  obtain ⟨between, earlier, rfl⟩ := List.append_of_mem member
  rcases signed_cases signedBefore with
    ⟨status, token, answered, derivedBefore, marked⟩ | ⟨location, cookie, -, session, -⟩
  · obtain rfl := Option.some.inj (signed.symm.trans marked)
    have own := (honest (exchange :: between) other earlier rfl).1
    obtain ⟨drawn, generated⟩ := answer_eq_page (own.symm.trans answered)
    obtain ⟨secret', derived', signed'⟩ := generateCsrfToken_eq_ok.mp generated
    obtain rfl := Except.ok.inj (derivedBefore.symm.trans derived')
    obtain ⟨-, rfl⟩ := LastSeparator.append_inj clean (tokenColon_notMem_decimal _)
      ((signer primitives secret).sign_inj signed signed')
    have whole : Strings.toInt (Strings.decimal (other.now.whole + 0)) =
        some (other.now.whole + 0) := toInt_whole other.now (by decide)
    rw [add_zero, spelled] at whole
    obtain rfl := Option.some.inj whole
    exact ⟨other, member, status, answered, recent⟩
  · exact absurd derived (apart other (List.mem_cons_of_mem _ member) exchange List.mem_cons_self
      _ session)

/-- The cookie of a session is that of a login. -/
theorem loggedIn_of_validate {exchange : AuthExchange} {before : List AuthExchange}
    (apart : SecretsApart primitives (exchange :: before))
    (honest : AllHonest primitives (exchange :: before))
    {cookie : Option Text} {username : Text}
    (presented : ∀ token ∈ cookie, token ∈ exchange.query.presented)
    (valid : validateSessionCookie primitives exchange.settings exchange.now cookie =
      .ok (some username)) :
    ∃ token, cookie = some token ∧ LoggedIn primitives before exchange.now username token := by
  obtain ⟨secret, token, expiryText, expiry, derived, rfl, signed, clean, spelled, early⟩ :=
    validateSessionCookie_eq_some.mp valid
  obtain ⟨other, member, signedBefore⟩ :=
    (honest [] exchange before rfl).2 token (presented token rfl) secret _ (.inl derived) signed
  obtain ⟨between, earlier, rfl⟩ := List.append_of_mem member
  have honestBefore : AllHonest primitives (other :: earlier) :=
    allHonest_of_append (show AllHonest primitives ((exchange :: between) ++ other :: earlier) from
      honest)
  rcases signed_cases signedBefore with
    ⟨status, form, -, derivedBefore, -⟩ | ⟨location, cookie, answered, session, marked⟩
  · exact absurd derivedBefore (apart exchange List.mem_cons_self other
      (List.mem_cons_of_mem _ member) _ derived)
  · obtain rfl := Option.some.inj (signed.symm.trans marked)
    have own := (honestBefore [] other earlier rfl).1
    obtain ⟨form, nonce, queried, login⟩ := answer_eq_signedIn (own.symm.trans answered)
    obtain ⟨-, formValid, letIn, created⟩ := login_eq_signedIn login
    obtain ⟨secret', session', signed'⟩ := createSessionCookie_eq_ok.mp created
    obtain rfl := Except.ok.inj (session.symm.trans session')
    obtain ⟨rfl, rfl⟩ := LastSeparator.append_inj clean (tokenColon_notMem_decimal _)
      ((signer primitives secret).sign_inj signed signed')
    obtain rfl := Option.some.inj (spelled.symm.trans (toInt_whole other.now (by decide)))
    have apartBefore : SecretsApart primitives (other :: earlier) :=
      apart.sublist fun _ later => List.mem_cons_of_mem _ (List.mem_append_right _ later)
    have fresh := freshForm_of_validate apartBefore honestBefore
      (queried ▸ List.mem_singleton_self form.csrfToken) formValid
    exact ⟨token, rfl, between, other, earlier, form, nonce, location, rfl, queried, answered, rfl,
      letIn.verified, fresh, early⟩

/-! ### Who is served -/

/-- Whoever is served is entitled to it, and a form that is served has a fresh token, in every run
whose clients forge nothing. -/
theorem served_entitled {start final : AuthServer} {events : List AuthEvent}
    (apart : SecretsApart primitives final.exchanges) (silent : start.exchanges = [])
    (unforged : (authMachine primitives).Throughout (Unforged primitives) start events)
    (run : (authMachine primitives).run start events = some final)
    {later before : List AuthExchange} {exchange : AuthExchange}
    (whole : final.exchanges = later ++ exchange :: before) {username : Text}
    (served : exchange.answer = .ok (.served username)) :
    ∃ request, Entitled primitives exchange before request username ∧
      (exchange.query = .visit request ∨
        ∃ csrfToken, exchange.query = .submit request csrfToken ∧
          FreshForm before exchange.now csrfToken) := by
  have honest : AllHonest primitives (exchange :: before) :=
    allHonest_of_append (whole ▸ allHonest_of_run silent unforged run)
  have apartHere : SecretsApart primitives (exchange :: before) :=
    apart.sublist (whole ▸ List.subset_append_right ..)
  have own := (honest [] exchange before rfl).1.symm.trans served
  have entitled {request : PageRequest}
      (presented : ∀ token ∈ request.cookie, token ∈ exchange.query.presented)
      (user : getCurrentUser primitives exchange.settings exchange.now request = .ok username) :
      Entitled primitives exchange before request username := by
    rcases getCurrentUser_eq_ok user with session | ⟨program, checked⟩
    · exact .inl (loggedIn_of_validate apartHere honest presented session)
    · obtain ⟨password, credentials, letIn⟩ := checkBasicAuth_eq_some checked
      exact .inr ⟨program, password, credentials, letIn.verified⟩
  cases queried : exchange.query with
  | openPage nonce =>
    rw [queried] at own
    obtain ⟨_, -, replied⟩ := Fallible.bind_eq_ok.mp own
    cases replied
  | logIn form nonce =>
    rw [queried] at own
    simp only [answer, login, Fallible.bind_eq_ok] at own
    obtain ⟨_, -, _, -, valid, -, judged⟩ := own
    split at judged
    all_goals
      obtain ⟨_, -, replied⟩ := Fallible.bind_eq_ok.mp judged
      cases replied
  | logOut csrfToken =>
    rw [queried] at own
    simp only [answer, logout, Fallible.bind_eq_ok] at own
    obtain ⟨_, -, _, -, replied⟩ := own
    cases replied
  | visit request =>
    rw [queried] at own
    obtain ⟨name, user, replied⟩ := Fallible.bind_eq_ok.mp own
    cases replied
    refine ⟨request, entitled ?_ user, .inl rfl⟩
    rintro token carried
    rw [queried]
    exact Option.mem_toList.mpr carried
  | submit request csrfToken =>
    rw [queried] at own
    simp only [answer, submit, Fallible.bind_eq_ok] at own
    obtain ⟨name, user, _, -, _, valid, replied⟩ := own
    cases replied
    refine ⟨request, entitled ?_ user, .inr ⟨csrfToken, rfl, ?_⟩⟩
    · rintro token carried
      rw [queried]
      exact List.mem_cons_of_mem _ (Option.mem_toList.mpr carried)
    · exact freshForm_of_validate apartHere honest (queried ▸ List.mem_cons_self) valid

/-! ### A day at the server -/

/-- A digest, read as one number. -/
def digestOf (value : Nat) : List UInt8 :=
  (List.range 32).map fun place => UInt8.ofNat (value / 0x100 ^ (31 - place))

/-- The secret of the sessions of one day. -/
def daySessionSecret : List UInt8 :=
  digestOf 0x876a8c12fe1159a8f88a54566fcf217fe0f079af18bd8526ca57099515217f5f

/-- The hash functions on the messages of one day, and the check of its password. -/
def dayPrimitives : Primitives where
  sha256 message :=
    if message.head? = some 0x73 then daySessionSecret
    else digestOf 0x6408900f53f670293009ed40c8152682e2d2488d13e2fc418f8284d2010376aa
  hmacSha256 secret _ :=
    if secret = daySessionSecret then
      digestOf 0xe7c066e4fff005b4da7cb83f09ee97137ebcf0895c439b94eab0fbd2c59ffd6e
    else digestOf 0x298de0191a356124f1ca459c01f87da7251f6d6d13f40889e262f5ac128f3191
  checkpw password _ := some (decide (Encoding.decode password = some (Json.text "changeme")))
  b64decode chars :=
    if chars = Json.text "YWRtaW46Y2hhbmdlbWU=" then Encoding.encode (Json.text "admin:changeme")
    else none

/-- A server for trials, with the default password permitted. -/
def daySettings : AuthSettings where
  encryptionKey := Json.text "k3y"
  username := Json.text "admin"
  passwordHash := defaultHash
  allowDefaultPassword := some (Json.text " Yes")

/-- So many seconds after the epoch. -/
def dayClock (seconds : Nat) (early : seconds < 2 ^ 32) : Clock where
  seconds := seconds
  finite := by
    have limit : 2 ^ 32 ≤ doubleLimit := by decide +kernel
    constructor
    · exact lt_of_lt_of_le (neg_lt_zero.mpr
        (by exact_mod_cast Nat.lt_of_lt_of_le (by decide) limit))
        (Nat.cast_nonneg seconds)
    · exact_mod_cast Nat.lt_of_lt_of_le early limit

def dayNonce : List UInt8 := (List.range 16).map UInt8.ofNat

def dayToken : Text :=
  Json.text ("000102030405060708090a0b0c0d0e0f:1000:" ++
    "298de0191a356124f1ca459c01f87da7251f6d6d13f40889e262f5ac128f3191")

def dayCookie : Text :=
  Json.text "admin:29801:e7c066e4fff005b4da7cb83f09ee97137ebcf0895c439b94eab0fbd2c59ffd6e"

def dayLogin : LoginForm where
  username := Json.text "admin"
  password := Json.text "changeme"
  csrfToken := dayToken

/-- The page of the login, the login, and a visit at the last second of its session. -/
def dayEvents : List AuthEvent := [
  .exchange (dayClock 1000 (by decide)) (.openPage dayNonce),
  .exchange (dayClock 1001 (by decide)) (.logIn dayLogin []),
  .exchange (dayClock 29801 (by decide))
    (.visit { path := Json.text "/", cookie := some dayCookie })]

def dayPage : AuthExchange where
  settings := daySettings
  now := dayClock 1000 (by decide)
  query := .openPage dayNonce
  answer := .ok (.page 200 dayToken)

def dayLoggedIn : AuthExchange where
  settings := daySettings
  now := dayClock 1001 (by decide)
  query := .logIn dayLogin []
  answer := .ok (.signedIn (Json.text "/") dayCookie)

def dayVisit : AuthExchange where
  settings := daySettings
  now := dayClock 29801 (by decide)
  query := .visit { path := Json.text "/", cookie := some dayCookie }
  answer := .ok (.served (Json.text "admin"))

theorem day_answers :
    answer dayPrimitives daySettings (dayClock 1000 (by decide)) (.openPage dayNonce) =
        .ok (.page 200 dayToken) ∧
      answer dayPrimitives daySettings (dayClock 1001 (by decide)) (.logIn dayLogin []) =
        .ok (.signedIn (Json.text "/") dayCookie) ∧
      answer dayPrimitives daySettings (dayClock 29801 (by decide))
          (.visit { path := Json.text "/", cookie := some dayCookie }) =
        .ok (.served (Json.text "admin")) := by
  refine ⟨?_, ?_, ?_⟩
  · decide +kernel
  · decide +kernel
  · decide +kernel

theorem head?_encode {point : CodePoint} {chars : Text} {octets : List UInt8}
    (ascii : point.val < 0x80) (encoded : Encoding.encode (point :: chars) = some octets) :
    octets.head? = some (Encoding.octet point.val) := by
  simp only [Encoding.encode, Encoding.encodePoint, if_pos ascii, Option.bind_eq_bind,
    Option.bind_some, Option.bind_eq_some_iff, Option.pure_def, Option.some.injEq] at encoded
  obtain ⟨others, -, rfl⟩ := encoded
  rfl

theorem day_sessionSecret {settings : AuthSettings} {secret : List UInt8}
    (derived : getSessionSecret dayPrimitives settings = .ok secret) :
    secret = daySessionSecret := by
  obtain ⟨octets, encoding, made⟩ := Fallible.bind_eq_ok.mp derived
  have head := head?_encode (by decide) (encoded_eq_ok.mp encoding)
  obtain rfl := Except.ok.inj made
  exact if_pos (head.trans (by decide))

theorem day_formSecret {settings : AuthSettings} {secret : List UInt8}
    (derived : getSecret dayPrimitives settings = .ok secret) :
    secret = digestOf 0x6408900f53f670293009ed40c8152682e2d2488d13e2fc418f8284d2010376aa := by
  obtain ⟨octets, encoding, made⟩ := Fallible.bind_eq_ok.mp derived
  have head := head?_encode (by decide) (encoded_eq_ok.mp encoding)
  obtain rfl := Except.ok.inj made
  refine if_neg ?_
  rw [head]
  decide

theorem day_secretsApart (exchanges : List AuthExchange) :
    SecretsApart dayPrimitives exchanges := by
  intro exchange _ other _ secret session form
  exact absurd ((day_sessionSecret session).symm.trans (day_formSecret form)) (by decide +kernel)

/-- What is verified with a right signature was signed. -/
theorem day_unforged : (authMachine dayPrimitives).Throughout (Unforged dayPrimitives)
    { settings := daySettings } dayEvents := by
  obtain ⟨first, second, -⟩ := day_answers
  refine ⟨?_, fun next step => ?_⟩
  · intro token presented
    cases presented
  obtain rfl := Option.some.inj step
  refine ⟨?_, fun next step => ?_⟩
  · intro token presented secret payload owned signed
    obtain rfl := List.mem_singleton.mp presented
    have verified := (signer dayPrimitives secret).verify_eq_some.mpr signed
    refine ⟨_, List.mem_cons_self, ?_⟩
    rw [AuthExchange.Signed, first]
    rcases owned with session | form
    · obtain rfl := day_sessionSecret session
      have refused : (signer dayPrimitives daySessionSecret).verify dayToken = none := by
        decide +kernel
      exact absurd (refused.symm.trans verified) (by simp)
    · exact ⟨form, signed⟩
  obtain rfl := Option.some.inj step
  refine ⟨?_, fun next step => trivial⟩
  intro token presented secret payload owned signed
  obtain rfl := List.mem_singleton.mp presented
  have verified := (signer dayPrimitives secret).verify_eq_some.mpr signed
  refine ⟨_, List.mem_cons_self, ?_⟩
  rw [AuthExchange.Signed]
  simp only [serverStep, second]
  rcases owned with session | form
  · exact ⟨session, signed⟩
  · obtain rfl := day_formSecret form
    have refused : (signer dayPrimitives (digestOf
        0x6408900f53f670293009ed40c8152682e2d2488d13e2fc418f8284d2010376aa)).verify dayCookie =
          none := by
      decide +kernel
    exact absurd (refused.symm.trans verified) (by simp)

theorem day_run : (authMachine dayPrimitives).run { settings := daySettings } dayEvents =
    some { settings := daySettings, exchanges := [dayVisit, dayLoggedIn, dayPage] } := by
  obtain ⟨first, second, third⟩ := day_answers
  simp only [dayEvents, Machine.run, authMachine, Option.bind_some, serverStep,
    first, second, third]
  rfl

/-- The visit of that day is entitled by the login. -/
theorem served_entitled_day : ∃ request,
    Entitled dayPrimitives dayVisit [dayLoggedIn, dayPage] request (Json.text "admin") ∧
      (dayVisit.query = .visit request ∨
        ∃ csrfToken, dayVisit.query = .submit request csrfToken ∧
          FreshForm [dayLoggedIn, dayPage] dayVisit.now csrfToken) :=
  served_entitled (day_secretsApart _) rfl day_unforged day_run (List.nil_append _).symm rfl

/-! ### Sessions end by time only -/

/-- A request without its cookie. -/
def withoutCookie (request : PageRequest) : PageRequest := { request with cookie := none }

/-- The answer is the server's, and it was made under the key that the server has now. -/
def UnderKey (primitives : Primitives) (settings : AuthSettings) (exchange : AuthExchange) : Prop :=
  exchange.answer = answer primitives exchange.settings exchange.now exchange.query ∧
    exchange.settings.encryptionKey = settings.encryptionKey

theorem underKey_of_run {start final : AuthServer} {events : List AuthEvent}
    (silent : start.exchanges = [])
    (keepsKey : (authMachine primitives).Throughout KeepsKey start events)
    (run : (authMachine primitives).run start events = some final) :
    ∀ exchange ∈ final.exchanges, UnderKey primitives final.settings exchange := by
  let underServer (server : AuthServer) : Prop :=
    ∀ exchange ∈ server.exchanges, UnderKey primitives server.settings exchange
  have initial : underServer start := by
    intro exchange member
    simp [silent] at member
  refine (authMachine primitives).run_keeps ?_ initial keepsKey run
  · intro server event next under holds step
    obtain rfl := Option.some.inj step
    cases event with
    | exchange now query => exact List.forall_mem_cons.mpr ⟨⟨rfl, rfl⟩, under⟩
    | restart settings =>
      intro exchange member
      obtain ⟨answered, sameKey⟩ := under exchange member
      exact ⟨answered, sameKey.trans holds.symm⟩

theorem getSessionSecret_congr {settings other : AuthSettings}
    (sameKey : settings.encryptionKey = other.encryptionKey) :
    getSessionSecret primitives settings = getSessionSecret primitives other := by
  rw [getSessionSecret, getSessionSecret, derivedSecret, derivedSecret, sameKey]

/-- A cookie that counts for nothing is as good as none. -/
theorem getCurrentUser_withoutCookie {settings : AuthSettings} {now : Clock} {request : PageRequest}
    (refused : validateSessionCookie primitives settings now request.cookie = .ok none) :
    getCurrentUser primitives settings now request =
      getCurrentUser primitives settings now (withoutCookie request) := by
  have absent : validateSessionCookie primitives settings now (withoutCookie request).cookie =
      .ok none := rfl
  simp only [getCurrentUser, refused, absent]
  rfl

/-- Nothing but time ends a session. Whatever is asked after a login, logouts included, and however
the server is restarted with the same key, with another name or another password, the cookie of the
login is served for its user until the eight hours are over, and counts for nothing from then on. -/
theorem session_outlasts {start final : AuthServer} {events : List AuthEvent}
    (silent : start.exchanges = [])
    (keepsKey : (authMachine primitives).Throughout KeepsKey start events)
    (run : (authMachine primitives).run start events = some final) {login : AuthExchange}
    (had : login ∈ final.exchanges) {form : LoginForm} {nonce : List UInt8} {location cookie : Text}
    (queried : login.query = .logIn form nonce)
    (answered : login.answer = .ok (.signedIn location cookie))
    {request : PageRequest} (carried : request.cookie = some cookie) (now : Clock) :
    visit primitives final.settings now request =
      if now.seconds ≤ ((login.now.whole + sessionMaxAge : Int) : Rat) then
        .ok (.served form.username)
      else visit primitives final.settings now (withoutCookie request) := by
  obtain ⟨own, sameKey⟩ := underKey_of_run silent keepsKey run login had
  rw [answered, queried] at own
  obtain ⟨⟨filled, -⟩, -, -, created⟩ := login_eq_signedIn own.symm
  have lasting : createSessionCookie primitives final.settings login.now form.username =
      .ok cookie := by
    rw [createSessionCookie_eq_ok, ← getSessionSecret_congr sameKey]
    exact createSessionCookie_eq_ok.mp created
  have judged := session_roundTrip lasting now
  rw [← carried] at judged
  split
  · next early =>
    rw [if_pos early] at judged
    have user : named (some form.username) = some form.username := by simp [named, filled]
    simp only [visit, getCurrentUser, judged, bind, Except.bind, user]
    rfl
  · next late =>
    rw [if_neg late] at judged
    rw [visit, visit, getCurrentUser_withoutCookie judged]

/-- On that day the cookie is served after a logout and a restart with another password. -/
theorem session_outlasts_day :
    visit dayPrimitives { daySettings with passwordHash := [] } (dayClock 2000 (by decide))
        { path := Json.text "/", cookie := some dayCookie } =
      .ok (.served (Json.text "admin")) := by
  have run : (authMachine dayPrimitives).run { settings := daySettings } (dayEvents.take 2 ++ [
        .exchange (dayClock 1002 (by decide)) (.logOut dayToken),
        .restart { daySettings with passwordHash := [] }]) = some
      { settings := { daySettings with passwordHash := [] }
        exchanges := [
          ⟨daySettings, dayClock 1002 (by decide), .logOut dayToken,
            answer dayPrimitives daySettings (dayClock 1002 (by decide)) (.logOut dayToken)⟩,
          dayLoggedIn, dayPage] } := by
    obtain ⟨first, second, -⟩ := day_answers
    simp only [dayEvents, List.take, List.cons_append, List.nil_append, Machine.run, authMachine,
      Option.bind_some, serverStep, first, second]
    rfl
  have keepsKey : (authMachine dayPrimitives).Throughout KeepsKey { settings := daySettings }
      (dayEvents.take 2 ++ [.exchange (dayClock 1002 (by decide)) (.logOut dayToken),
        .restart { daySettings with passwordHash := [] }]) := by
    refine ⟨trivial, fun next step => ⟨trivial, fun next' step' => ⟨trivial, fun last step'' =>
      ⟨?_, fun _ _ => trivial⟩⟩⟩⟩
    obtain rfl := Option.some.inj step
    obtain rfl := Option.some.inj step'
    obtain rfl := Option.some.inj step''
    rfl
  refine (session_outlasts rfl keepsKey run (List.mem_cons_of_mem _ List.mem_cons_self) rfl rfl
    rfl (dayClock 2000 (by decide))).trans (if_pos ?_)
  decide +kernel

/-! ### The two ways in -/

/-- A name without a colon is split from the password behind it. -/
theorem splitCredentials_append {username : Text} (password : Text)
    (clean : tokenColon ∉ username) :
    splitCredentials (username ++ tokenColon :: password) = some (username, password) := by
  induction username with
  | nil => exact if_pos rfl
  | cons point rest inductionHypothesis =>
    rw [List.mem_cons, not_or] at clean
    rw [List.cons_append, splitCredentials, if_neg (Ne.symm clean.1), inductionHypothesis clean.2]
    rfl

/-- The credentials of a program are read back. -/
theorem basicCredentials_encoded {request : PageRequest} {username password encoded64 : Text}
    {octets : List UInt8} (header : request.authorization = some (Json.text "Basic " ++ encoded64))
    (base64 : primitives.b64decode encoded64 = some octets)
    (utf8 : Encoding.encode (username ++ tokenColon :: password) = some octets)
    (clean : tokenColon ∉ username) :
    basicCredentials primitives request = some (username, password) := by
  have starts : (Json.text "Basic ").isPrefixOf (Json.text "Basic " ++ encoded64) = true :=
    List.isPrefixOf_iff_prefix.mpr (List.prefix_append _ _)
  have rest : (Json.text "Basic " ++ encoded64).drop 6 = encoded64 := rfl
  simp only [basicCredentials, header, Option.getD_some, starts, if_true, rest, base64,
    Option.bind_eq_bind, Option.bind_some, Encoding.decode_encode utf8]
  exact splitCredentials_append password clean

/-- A secret of one kind can be derived if one of another kind can. -/
theorem derivedSecret_returns {settings : AuthSettings} {purpose other : String}
    {secret octets : List UInt8}
    (derived : derivedSecret primitives settings purpose = .ok secret)
    (plain : Encoding.encode (Json.text other) = some octets) :
    ∃ another, derivedSecret primitives settings other = .ok another := by
  obtain ⟨whole, encoding, -⟩ := Fallible.bind_eq_ok.mp derived
  rw [encoded_eq_ok, Encoding.encode_append] at encoding
  obtain ⟨_, -, encoding⟩ := Option.bind_eq_some_iff.mp encoding
  obtain ⟨key, keyed, -⟩ := Option.map_eq_some_iff.mp encoding
  refine ⟨_, Fallible.bind_eq_ok.mpr ⟨octets ++ key, ?_, rfl⟩⟩
  rw [encoded_eq_ok, Encoding.encode_append, plain, keyed]
  rfl

theorem isAscii_of_compareDigest {first second : Text} {same : Bool}
    (compared : compareDigest first second = .ok same) :
    ∀ point ∈ first ++ second, point.val < 0x80 := by
  rw [compareDigest] at compared
  split at compared
  · next ascii =>
    intro point member
    exact of_decide_eq_true (List.all_eq_true.mp ascii point member)
  · cases compared

/-- A session can be made for a name in ASCII, if a form of the server passes. -/
theorem createSessionCookie_returns {settings : AuthSettings} {now : Clock} {csrfToken : Text}
    (passes : validateCsrfToken primitives settings now csrfToken = .ok ())
    (ascii : ∀ point ∈ settings.username, point.val < 0x80) :
    ∃ cookie, createSessionCookie primitives settings now settings.username = .ok cookie := by
  obtain ⟨_, _, _, _, formSecret, -⟩ := validateCsrfToken_eq_ok.mp passes
  have purpose : (Json.text "session-").all (fun point => decide (point.val < 0x80)) = true := by
    decide
  obtain ⟨octets, plain⟩ := Encoding.encode_of_ascii fun point member =>
    of_decide_eq_true (List.all_eq_true.mp purpose point member)
  obtain ⟨secret, derived⟩ := derivedSecret_returns formSecret plain
  have inDecimal : ∀ point ∈ tokenColon :: Strings.decimal (now.whole + sessionMaxAge),
      point.val < 0x80 := by
    refine List.forall_mem_cons.mpr ⟨by decide, fun point member => ?_⟩
    have mark := Strings.isDecimalMark_of_mem_decimal member
    simp only [Strings.isDecimalMark, Bool.and_eq_true, decide_eq_true_eq] at mark
    omega
  obtain ⟨payload, utf8⟩ := Encoding.encode_of_ascii fun point member =>
    (List.mem_append.mp member).elim (ascii point) (inDecimal point)
  have marked : (signer primitives secret).mark
      (sessionPayload settings.username (Strings.decimal (now.whole + sessionMaxAge))) =
        some (hexdigest (primitives.hmacSha256 secret payload)) :=
    congrArg (Option.map fun octets => hexdigest (primitives.hmacSha256 secret octets)) utf8
  exact ⟨_, createSessionCookie_eq_ok.mpr
    ⟨secret, derived, congrArg (Option.map fun found => _ ++ tokenColon :: found) marked⟩⟩

/-- A login whose form passes makes a session exactly for what is let in. -/
theorem login_signsIn_iff {settings : AuthSettings} {now : Clock} {form : LoginForm}
    {nonce : List UInt8} (filled : form.username ≠ []) (secret : form.password ≠ [])
    (passes : validateCsrfToken primitives settings now form.csrfToken = .ok ()) :
    (∃ location cookie,
        login primitives settings now form nonce = .ok (.signedIn location cookie)) ↔
      LetIn primitives settings form.username form.password := by
  constructor
  · rintro ⟨location, cookie, signedIn⟩
    exact (login_eq_signedIn signedIn).2.2.1
  · rintro ⟨compared, fits, permitted⟩
    have ascii := isAscii_of_compareDigest compared
    obtain ⟨cookie, created⟩ := createSessionCookie_returns passes fun point member =>
      ascii point (List.mem_append_right _ member)
    refine ⟨Json.text "/", cookie, ?_⟩
    simp only [login, Fallible.bind_eq_ok]
    have token : form.csrfToken ≠ [] := by
      intro empty
      rw [empty] at passes
      cases passes
    have required : requireFields [("username", form.username), ("password", form.password),
        ("csrf_token", form.csrfToken)] = .ok () := by
      rw [requireFields_eq_ok]
      simp [filled, secret, token]
    refine ⟨(), required, (), passes, true, compared, ?_⟩
    simp only [fits, permitted, Bool.not_false, Bool.and_true, if_true, Fallible.bind_eq_ok]
    exact ⟨cookie, created, rfl⟩

/-- A program that sends a name and a password along is served exactly for what is let in. -/
theorem visit_serves_iff {settings : AuthSettings} {now : Clock} {request : PageRequest}
    {username password : Text} (fromProgram : isApiRequest request = true)
    (noCookie : request.cookie = none) (filled : username ≠ [])
    (credentials : basicCredentials primitives request = some (username, password)) :
    visit primitives settings now request = .ok (.served username) ↔
      LetIn primitives settings username password := by
  have absent : validateSessionCookie primitives settings now request.cookie = .ok none := by
    rw [noCookie]
    rfl
  constructor
  · intro served
    obtain ⟨name, user, replied⟩ := Fallible.bind_eq_ok.mp served
    cases replied
    rcases getCurrentUser_eq_ok user with session | ⟨-, checked⟩
    · cases absent.symm.trans session
    · obtain ⟨other, sent, letIn⟩ := checkBasicAuth_eq_some checked
      cases credentials.symm.trans sent
      exact letIn
  · rintro ⟨compared, fits, permitted⟩
    have checked : checkBasicAuth primitives settings request = .ok (some username) := by
      simp only [checkBasicAuth, credentials, compared, permitted, fits, bind, Except.bind]
      rfl
    have user : named (some username) = some username := by simp [named, filled]
    simp only [visit, getCurrentUser, absent, fromProgram, checked, bind, Except.bind,
      if_true, user]
    rfl

/-- The two ways in let in the same. A name without a colon and a password, neither of them empty,
make a session, in a form that passes, exactly if a program that sends them along is served: the
default password, a name that cannot be compared and a hash that cannot be checked are refused on
both ways. -/
theorem ways_agree {settings : AuthSettings} {now : Clock} {form : LoginForm} {nonce : List UInt8}
    (passes : validateCsrfToken primitives settings now form.csrfToken = .ok ())
    (filled : form.username ≠ []) (secret : form.password ≠ [])
    (clean : tokenColon ∉ form.username) {octets : List UInt8}
    (utf8 : Encoding.encode (form.username ++ tokenColon :: form.password) = some octets)
    {encoded64 : Text} (base64 : primitives.b64decode encoded64 = some octets)
    {request : PageRequest} (fromProgram : isApiRequest request = true)
    (noCookie : request.cookie = none)
    (header : request.authorization = some (Json.text "Basic " ++ encoded64)) :
    (∃ location cookie,
        login primitives settings now form nonce = .ok (.signedIn location cookie)) ↔
      visit primitives settings now request = .ok (.served form.username) := by
  rw [login_signsIn_iff filled secret passes, visit_serves_iff fromProgram noCookie filled
    (basicCredentials_encoded header base64 utf8 clean)]

/-- The name and the password of that day are let in on both ways. -/
theorem ways_agree_day : (∃ location cookie,
      login dayPrimitives daySettings (dayClock 1001 (by decide)) dayLogin [] =
        .ok (.signedIn location cookie)) ↔
    visit dayPrimitives daySettings (dayClock 1001 (by decide))
        { path := Json.text "/targets/api"
          authorization := some (Json.text "Basic YWRtaW46Y2hhbmdlbWU=") } =
      .ok (.served (Json.text "admin")) :=
  ways_agree (by decide +kernel) (by decide) (by decide) (by decide)
    (show Encoding.encode (dayLogin.username ++ tokenColon :: dayLogin.password) =
      some ((Json.text "admin:changeme").map fun point => Encoding.octet point.val) by
        decide +kernel)
    (show dayPrimitives.b64decode (Json.text "YWRtaW46Y2hhbmdlbWU=") = _ by decide +kernel)
    (by decide +kernel) rfl rfl

end Sessions

end Gyanam
