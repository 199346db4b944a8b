-- The requests that try a password (apps/api/src/routes/auth.ts): the login and the change of a
-- bootstrap password. A request pays its budgets before it may compare a password, and a failure
-- is recorded before it is answered. Requests run side by side, and wait at every `await`.
import ScreenGoblin.MediaPolicy
import ScreenGoblin.RateLimits

open js screengoblin.limits screengoblin.server

namespace screengoblin.auth

/-! ## Records of failures -/

inductive LoginFailureReason where
  | invalidCredentials
  | rateLimited
  deriving DecidableEq

structure LoginFailureInput where
  accountKey : String
  sourceKey : String
  reason : LoginFailureReason
  deriving DecidableEq

structure LoginFailureRecord extends LoginFailureInput where
  id : String
  occurredAt : Int
  deriving DecidableEq

def LOGIN_FAILURE_RETENTION_MS : Int := 30 * 24 * 60 * 60 * 1000
def LOGIN_FAILURE_MAX_RECORDS : Nat := 10000

/-- `recordLoginFailure` of the store in memory. -/
def recordLoginFailure (P : Platform) (occurredAt : Int) (id : String) (input : LoginFailureInput)
    (loginFailures : List LoginFailureRecord) : Except String (List LoginFailureRecord) :=
  if !isLowerHex64 input.accountKey || !isLowerHex64 input.sourceKey then
    .error "Login failure identifiers must be opaque SHA-256 HMACs"
  else
    let cutoff := occurredAt - LOGIN_FAILURE_RETENTION_MS
    let recent := loginFailures.filter fun event => decide (event.occurredAt ≥ cutoff)
    let sorted := recent.insertionSort fun left right =>
      ((compare left.occurredAt right.occurredAt).then (P.localeCompare left.id right.id)).isLE
    let retained := sorted.drop (sorted.length - (LOGIN_FAILURE_MAX_RECORDS - 1))
    .ok (retained ++ [{ input with id := id, occurredAt := occurredAt }])

/-! ## Requests -/

/-- The user of a request, as far as the routes read it. -/
structure Principal where
  email : String
  passwordHash : String
  bootstrapPasswordExpiresAt : Option Int
  deriving DecidableEq

/-- What the routes take from elsewhere: the configuration, the lower case of texts, and the
addresses that `z.email()` accepts. -/
structure Service where
  platform : Platform
  node : NodeRuntime
  pairingCodePepper : String
  toLowerCase : String → String
  isEmail : String → Bool

/-- Cost-12 bcrypt hash that no password is known for. -/
def DUMMY_PASSWORD_HASH : String := "$2b$12$C6UzMDM.H6dfI/f/IKcEe.82jG7y4g4AY8I8HibLFSWafVkx8S4hS"

def SESSION_LIFETIME_SECONDS : Int := 60 * 60
def BOOTSTRAP_ROTATION_SESSION_LIFETIME_SECONDS : Int := 10 * 60

inductive AuthRequest where
  | login (ip : String) (body : Value)
  | bootstrapPassword (ip sessionId : String) (principal : Principal) (body : Value)

structure Budget where
  dimension : String
  value : String
  maximum : Nat
  deriving DecidableEq

def sourceBudget (ip : String) : Budget := ⟨"login-source", ip, 10⟩
def accountBudget (email : String) : Budget := ⟨"login-account", email, 10⟩
def sessionBudget (sessionId : String) : Budget := ⟨"bootstrap-password-session", sessionId, 10⟩

namespace AuthRequest

def ip : AuthRequest → String
  | .login ip _ => ip
  | .bootstrapPassword ip _ _ _ => ip

end AuthRequest

section

variable (S : Service)

/-- `text.trim().toLowerCase()` -/
def normalizedEmail (text : String) : String := S.toLowerCase (trim text)

/-- The `email` of the two `preHandler`s. -/
def AuthRequest.email : AuthRequest → String
  | .login _ body => match body.get "email" with
    | some (.str email) => normalizedEmail S email
    | _ => "invalid"
  | .bootstrapPassword _ _ principal _ => normalizedEmail S principal.email

def AuthRequest.budgets : AuthRequest → List Budget
  | .login ip body => [sourceBudget ip, accountBudget ((AuthRequest.login ip body).email S)]
  | .bootstrapPassword ip sessionId principal body =>
    [sessionBudget sessionId, sourceBudget ip,
      accountBudget ((AuthRequest.bootstrapPassword ip sessionId principal body).email S)]

/-- A text of `z.string().min(least).max(most)`. -/
def textBetween (least most : Nat) : Value → Option String
  | some (.str text) =>
    if least ≤ utf16Length text ∧ utf16Length text ≤ most then some text else none
  | _ => none

/-- The fields of a strict object, with no other field. -/
def strictFields (keys : List String) : Value → Option (List (String × Json))
  | some (.obj fields) => if fields.all fun f => keys.contains f.1 then some fields else none
  | _ => none

/-- The `email` of `loginSchema`. -/
def loginEmail : Value → Option String
  | some (.str text) =>
    let email := normalizedEmail S text
    if S.isEmail email && decide (utf16Length email ≤ 254) then some email else none
  | _ => none

/-- `loginSchema` -/
def loginSchema (body : Value) : Option (String × String) := do
  let _ ← strictFields ["email", "password"] body
  let email ← loginEmail S (body.get "email")
  let password ← textBetween 8 200 (body.get "password")
  return (email, password)

/-- `strongPassword` -/
def strongPassword : Value → Option String
  | some (.str text) =>
    if 16 ≤ text.length ∧ text.utf8ByteSize ≤ 72 then some text else none
  | _ => none

/-- `bootstrapPasswordSchema` -/
def bootstrapPasswordSchema (body : Value) : Option (String × String) := do
  let _ ← strictFields ["currentPassword", "newPassword"] body
  let currentPassword ← textBetween 1 200 (body.get "currentPassword")
  let newPassword ← strongPassword (body.get "newPassword")
  if currentPassword = newPassword then none else some (currentPassword, newPassword)

def Budget.key (b : Budget) : String :=
  opaqueRateLimitKey S.node S.pairingCodePepper b.dimension b.value

def failureOf (request : AuthRequest) (email : String) (reason : LoginFailureReason) :
    LoginFailureInput :=
  { accountKey :=
      opaqueSecurityEventKey S.node S.pairingCodePepper "login-failure-account" email
    sourceKey :=
      opaqueSecurityEventKey S.node S.pairingCodePepper "login-failure-source" request.ip
    reason := reason }

end

/-! ## Errors -/

def validationError : ApiError :=
  { statusCode := 400, code := "VALIDATION_ERROR", message := "Request validation failed" }

def telemetryUnavailable : ApiError :=
  { statusCode := 503, code := "AUTH_TELEMETRY_UNAVAILABLE",
    message := "Sign-in is temporarily unavailable" }

def invalidCredentials : ApiError :=
  { statusCode := 401, code := "INVALID_CREDENTIALS",
    message := "Email or password is incorrect" }

def sessionRevoked : ApiError :=
  { statusCode := 401, code := "SESSION_REVOKED", message := "This session is no longer valid" }

def reusesBootstrapCredential : ApiError :=
  { statusCode := 400, code := "NEW_PASSWORD_REUSES_BOOTSTRAP_CREDENTIAL",
    message := "New password must differ from the bootstrap password" }

/-! ## Requests side by side -/

/-- Where a request waits, or how it was answered. -/
inductive Phase where
  /-- The `preHandler` waits for the first of these budgets. -/
  | guarding (budgets : List Budget)
  /-- The `preHandler` waits for the record of a request that was limited. -/
  | limited
  /-- The handler begins. -/
  | admitted
  /-- The handler waits for the comparison with the hash of this user. -/
  | comparing (email password : String) (user : Option Principal)
  /-- The handler waits for the record of a wrong password. -/
  | failing (email : String)
  | verified (email : String) (user : Principal)
  | answered (outcome : Except ApiError Unit)

structure Attempt where
  request : AuthRequest
  phase : Phase

/-- A password that is compared with the hash of an account. -/
structure Guess where
  attempt : Nat
  account : String
  password : String
  passwordHash : String

structure Grant where
  attempt : Nat
  budget : Budget
  time : Int

/-- A session that a login asks the store for. -/
structure Asked where
  attempt : Nat
  user : Principal
  full : Bool
  issuedAt : Int
  expiresAt : Int

/-- The server, and what has happened so far: the requests that the budgets have counted, the
budgets that were paid or refused, the passwords that were compared, the failures that were
recorded and the sessions that were asked for. -/
structure Server (B : RateLimitBudget) where
  clock : Int
  budget : B.State
  attempts : List Attempt
  loginFailures : List LoginFailureRecord
  idsDrawn : Nat
  counted : List (String × Int)
  grants : List Grant
  refusals : List Grant
  guesses : List Guess
  recorded : List (Nat × LoginFailureInput)
  asked : List Asked

inductive Event where
  | pass (milliseconds : Nat)
  | arrive (request : AuthRequest)
  /-- A request of another route pays a budget. -/
  | elsewhere (key : String) (maximum : Nat) (reply : Reply)
  | consume (i : Nat) (reply : Reply)
  /-- The store records a failure, or throws. -/
  | record (i : Nat) (stored : Bool)
  /-- The handler reads its body. The store has found this user for a login. -/
  | handle (i : Nat) (user : Option Principal)
  | compare (i : Nat) (valid : Bool)
  /-- The rest of the handler: whether the new password is the old one, and what the store
  makes of the request for a session or of the rotation. That the new password is compared with
  the hash too is no guess on record: the caller has shown the old one by then. -/
  | finish (i : Nat) (reused done : Bool)

section

variable (S : Service) {B : RateLimitBudget}

def Server.start (B : RateLimitBudget) (clock : Int) : Server B :=
  { clock, budget := B.fresh, attempts := [], loginFailures := [], idsDrawn := 0, counted := [],
    grants := [], refusals := [], guesses := [], recorded := [], asked := [] }

def Server.setPhase (d : Server B) (i : Nat) (phase : Phase) : Server B :=
  { d with attempts := d.attempts.modify i fun a => { a with phase } }

/-- A call of `enforceRateLimitBudget` with the window that is its default. -/
def Server.enforce (d : Server B) (reply : Reply) (key : String) (maximum : Nat) :
    Except ApiError Unit × Server B :=
  let (result, budget) := enforceRateLimitBudget B reply d.clock key maximum 60000 d.budget
  (result, { d with
    budget := budget
    counted := if reply.counted then (key, d.clock) :: d.counted else d.counted })

/-- The `preHandler` after a budget: the next one, the handler, or the record of the refusal. -/
def afterBudget (i : Nat) (b : Budget) (left : List Budget) (d : Server B) :
    Except ApiError Unit → Server B
  | .ok () =>
    { d.setPhase i (if left.isEmpty then .admitted else .guarding left) with
      grants := ⟨i, b, d.clock⟩ :: d.grants }
  | .error error =>
    if error.code = "RATE_LIMITED" then
      { d.setPhase i .limited with refusals := ⟨i, b, d.clock⟩ :: d.refusals }
    else d.setPhase i (.answered (.error error))

/-- The `preHandler` pays the first of the budgets that are left. -/
def consume (i : Nat) (reply : Reply) (b : Budget) (left : List Budget) (d : Server B) :
    Server B :=
  let (result, d) := d.enforce reply (b.key S) b.maximum
  afterBudget i b left d result

/-- `recordLoginFailure` of the routes, and the error that the request is answered with. -/
def record (i : Nat) (stored : Bool) (input : LoginFailureInput) (error : ApiError)
    (d : Server B) : Server B :=
  let result := if stored then
      recordLoginFailure S.platform d.clock (S.platform.freshId d.idsDrawn) input d.loginFailures
    else .error "The store is not available"
  match result with
  | .ok loginFailures =>
    { d.setPhase i (.answered (.error error)) with
      loginFailures := loginFailures
      idsDrawn := d.idsDrawn + 1
      recorded := (i, input) :: d.recorded }
  | .error _ => d.setPhase i (.answered (.error telemetryUnavailable))

/-- The handler up to the comparison. -/
def handle (request : AuthRequest) (user : Option Principal) : Phase :=
  match request with
  | .login _ body => match loginSchema S body with
    | none => .answered (.error validationError)
    | some (email, password) => .comparing email password user
  | .bootstrapPassword _ _ principal body => match bootstrapPasswordSchema body with
    | none => .answered (.error validationError)
    | some (currentPassword, _) =>
      if principal.bootstrapPasswordExpiresAt.isNone then .answered (.error sessionRevoked)
      else .comparing (normalizedEmail S principal.email) currentPassword (some principal)

/-- The hash that a password is compared with, when there is no user as well. -/
def hashOf (user : Option Principal) : String :=
  (user.map (·.passwordHash)).getD DUMMY_PASSWORD_HASH

/-- `user && passwordValid ? user : null` -/
def verifiedUser (user : Option Principal) (passwordValid : Bool) : Option Principal :=
  user.filter fun _ => passwordValid

def afterComparison (email : String) (user : Option Principal) (valid : Bool) : Phase :=
  match verifiedUser user valid with
  | some user => .verified email user
  | none => .failing email

def comparePassword (i : Nat) (email password : String) (user : Option Principal) (valid : Bool)
    (d : Server B) : Server B :=
  { d.setPhase i (afterComparison email user valid) with
    guesses := ⟨i, email, password, hashOf user⟩ :: d.guesses }

/-- `Date.parse` of a marker that is there. The instant 0 counts as none. -/
def bootstrapExpiry (user : Principal) : Option Int :=
  user.bootstrapPasswordExpiresAt.filter fun expiry => decide (expiry ≠ 0)

def lifetimeSeconds (user : Principal) (issueTime : Int) : Int :=
  match bootstrapExpiry user with
  | some expiry =>
    min BOOTSTRAP_ROTATION_SESSION_LIFETIME_SECONDS ((expiry - issueTime) / 1000)
  | none => SESSION_LIFETIME_SECONDS

/-- The rest of the login. -/
def finishLogin (i : Nat) (email : String) (user : Principal) (created : Bool) (d : Server B) :
    Server B :=
  let lifetime := lifetimeSeconds user d.clock
  if lifetime < 1 then d.setPhase i (.failing email)
  else
    { d.setPhase i (if created then .answered (.ok ()) else .failing email) with
      asked := { attempt := i, user := user, full := (bootstrapExpiry user).isNone,
                 issuedAt := d.clock, expiresAt := d.clock + lifetime * 1000 } :: d.asked }

/-- The rest of the change of a bootstrap password. -/
def finishRotation (reused rotated : Bool) : Phase :=
  if reused then .answered (.error reusesBootstrapCredential)
  else if rotated then .answered (.ok ())
  else .answered (.error sessionRevoked)

def stepServer (d : Server B) : Event → Option (Server B)
  | .pass milliseconds => some { d with clock := d.clock + milliseconds }
  | .arrive request =>
    some { d with attempts := d.attempts ++ [⟨request, .guarding (request.budgets S)⟩] }
  | .elsewhere key maximum reply => some (d.enforce reply key maximum).2
  | .consume i reply => match d.attempts[i]? with
    | some ⟨_, .guarding (b :: left)⟩ => some (consume S i reply b left d)
    | _ => none
  | .record i stored => match d.attempts[i]? with
    | some ⟨request, .limited⟩ =>
      some (record S i stored (failureOf S request (request.email S) .rateLimited) rateLimited d)
    | some ⟨request, .failing email⟩ =>
      some (record S i stored (failureOf S request email .invalidCredentials) invalidCredentials d)
    | _ => none
  | .handle i user => match d.attempts[i]? with
    | some ⟨request, .admitted⟩ => some (d.setPhase i (handle S request user))
    | _ => none
  | .compare i valid => match d.attempts[i]? with
    | some ⟨_, .comparing email password user⟩ =>
      some (comparePassword i email password user valid d)
    | _ => none
  | .finish i reused done => match d.attempts[i]? with
    | some ⟨.login _ _, .verified email user⟩ => some (finishLogin i email user done d)
    | some ⟨.bootstrapPassword _ _ _ _, .verified _ _⟩ =>
      some (d.setPhase i (finishRotation reused done))
    | _ => none

def runServer (d : Server B) : List Event → Option (Server B)
  | [] => some d
  | event :: rest => (stepServer S d event).bind fun d => runServer d rest

end

end screengoblin.auth
