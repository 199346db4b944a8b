-- The budgets of requests (apps/api/src/utils/rate-limit.ts). A budget counts the requests for a
-- key in the memory of the process, or in Redis with a script. Both count in fixed windows, and
-- answer the same unless a request comes in the very millisecond in which a window ends.
import ScreenGoblin.FixedWindows
import ScreenGoblin.MediaTokens

open jsontext screengoblin.server windows

namespace screengoblin.limits

/-! ## Keys -/

/-- `digest("hex")` -/
def hexDigest (bytes : List UInt8) : String :=
  String.ofList (bytes.flatMap fun b => [hexDigit (b.toNat / 16), hexDigit (b.toNat % 16)])

section

variable (R : NodeRuntime)

def opaqueRateLimitKey (secret dimension value : String) : String :=
  dimension ++ ":" ++ String.ofList (base64url.encode
    (R.hmac secret ("screengoblin-rate-limit-v1\x00" ++ dimension ++ "\x00" ++ value)))

def opaqueSecurityEventKey (secret dimension value : String) : String :=
  hexDigest (R.hmac secret ("screengoblin-security-event-v1\x00" ++ dimension ++ "\x00" ++ value))

theorem hexDigit_isLowerHex {n : Nat} (small : n < 16) :
    (('0' ≤ hexDigit n && hexDigit n ≤ '9') || ('a' ≤ hexDigit n && hexDigit n ≤ 'f')) = true := by
  interval_cases n <;> decide

/-- The key of a security event has the form that the store asks for. -/
theorem isLowerHex64_opaqueSecurityEventKey (secret dimension value : String) :
    js.isLowerHex64 (opaqueSecurityEventKey R secret dimension value) = true := by
  have long := R.hmac_length secret
    ("screengoblin-security-event-v1\x00" ++ dimension ++ "\x00" ++ value)
  unfold js.isLowerHex64 opaqueSecurityEventKey hexDigest
  rw [String.toList_ofList, Bool.and_eq_true, List.all_eq_true, beq_iff_eq]
  refine ⟨?_, ?_⟩
  · rw [List.length_flatMap]
    simp [long]
  · intro c member
    obtain ⟨b, -, digit⟩ := List.mem_flatMap.mp member
    have byte := b.toNat_lt
    simp only [List.mem_cons, List.not_mem_nil, or_false] at digit
    rcases digit with rfl | rfl
    · exact hexDigit_isLowerHex (by omega)
    · exact hexDigit_isLowerHex (by omega)

end

/-! ## Budgets -/

structure BudgetAnswer where
  allowed : Bool
  retryAfterSeconds : Int
  deriving DecidableEq

/-- `RateLimitBudget`: what a budget keeps, and how it counts a request for a key at a time. -/
structure RateLimitBudget where
  State : Type
  fresh : State
  consume (now : Int) (key : String) (maximum : Nat) (windowMilliseconds : Int) :
    State → BudgetAnswer × State

/-- `Math.max(1, Math.ceil(milliseconds / 1000))` -/
def retryAfterSeconds (milliseconds : Int) : Int := max 1 (-(-milliseconds / 1000))

/-- The counters of the `Map`. The end of a counter is its `expiresAt`. -/
def memoryRateLimitBudget : RateLimitBudget where
  State := String → Option Counter
  fresh := fun _ => none
  consume now key maximum windowMilliseconds counters :=
    let opened : Counter := { count := 0, ends := now + windowMilliseconds }
    let counter := match counters key with
      | some existing => if existing.ends > now then existing else opened
      | none => opened
    let counter := { counter with count := counter.count + 1 }
    ({ allowed := decide (counter.count ≤ maximum),
       retryAfterSeconds := retryAfterSeconds (counter.ends - now) },
      Function.update counters key (some counter))

/-- What Redis does with counters that expire. In the very millisecond in which a key expires it
may be there or not. -/
structure Redis where
  Db : Type
  empty : Db
  /-- The value of a key at a time, with the time at which the key expires. -/
  look : Db → Int → String → Option (Nat × Option Int)
  incr (now : Int) (key : String) : Db → Nat × Db
  pexpire (now : Int) (key : String) (milliseconds : Int) : Db → Db
  pttl (now : Int) (key : String) : Db → Int
  look_empty : ∀ now key, look empty now key = none
  incr_absent : ∀ {db now key}, look db now key = none →
    (incr now key db).1 = 1 ∧ look (incr now key db).2 now key = some (1, none)
  incr_present : ∀ {db now key n expiry}, look db now key = some (n, expiry) →
    (incr now key db).1 = n + 1 ∧ look (incr now key db).2 now key = some (n + 1, expiry)
  incr_other : ∀ {db now key other}, other ≠ key →
    look (incr now key db).2 now other = look db now other
  pexpire_present : ∀ {db now key milliseconds n expiry}, look db now key = some (n, expiry) →
    0 < milliseconds →
      look (pexpire now key milliseconds db) now key = some (n, some (now + milliseconds))
  pexpire_other : ∀ {db now key milliseconds other}, other ≠ key →
    look (pexpire now key milliseconds db) now other = look db now other
  pttl_present : ∀ {db now key n expiry}, look db now key = some (n, some expiry) →
    pttl now key db = expiry - now
  later_present : ∀ {db now later key n expiry}, look db now key = some (n, some expiry) →
    now ≤ later →
      (look db later key = some (n, some expiry) ∧ later ≤ expiry) ∨
        (look db later key = none ∧ expiry ≤ later)
  later_absent : ∀ {db now later key}, look db now key = none → now ≤ later →
    look db later key = none

namespace Redis

variable (R : Redis)

/-- `REDIS_BUDGET_SCRIPT`. The clock of Redis stands still in a script. -/
def budgetScript (now : Int) (key : String) (milliseconds : Int) (db : R.Db) :
    (Nat × Int) × R.Db :=
  let (current, db) := R.incr now key db
  let db := if current = 1 then R.pexpire now key milliseconds db else db
  ((current, R.pttl now key db), db)

/-- `RedisRateLimitBudget` -/
def rateLimitBudget : RateLimitBudget where
  State := R.Db
  fresh := R.empty
  consume now key maximum windowMilliseconds db :=
    let ((current, ttl), db) :=
      R.budgetScript now ("screengoblin:budget:" ++ key) windowMilliseconds db
    ({ allowed := decide (current ≤ maximum), retryAfterSeconds := retryAfterSeconds ttl }, db)

end Redis

/-- The budget of the app: `options.redis` decides. -/
inductive BudgetStore where
  | memory
  | redis (R : Redis)

def BudgetStore.budget : BudgetStore → RateLimitBudget
  | .memory => memoryRateLimitBudget
  | .redis R => R.rateLimitBudget

structure ApiError where
  statusCode : Nat
  code : String
  message : String
  deriving DecidableEq

def rateLimited : ApiError :=
  { statusCode := 429, code := "RATE_LIMITED", message := "Rate limit exceeded" }

def rateLimitUnavailable : ApiError :=
  { statusCode := 503, code := "RATE_LIMIT_UNAVAILABLE",
    message := "Request protection is temporarily unavailable" }

/-- How a call of `consume` goes: it answers, or it throws. When it throws, the request may have
been counted all the same. -/
inductive Reply where
  | answered
  | threw (counted : Bool)
  deriving DecidableEq

def Reply.counted : Reply → Bool
  | .answered => true
  | .threw counted => counted

def enforceRateLimitBudget (B : RateLimitBudget) (reply : Reply) (now : Int) (key : String)
    (maximum : Nat) (windowMilliseconds : Int) (s : B.State) : Except ApiError Unit × B.State :=
  let (answer, counted) := B.consume now key maximum windowMilliseconds s
  match reply with
  | .answered => (if answer.allowed then .ok () else .error rateLimited, counted)
  | .threw true => (.error rateLimitUnavailable, counted)
  | .threw false => (.error rateLimitUnavailable, s)

/-! ## Both budgets count in fixed windows -/

/-- The answer for a counter that has counted the request. -/
def answerFor (now : Int) (maximum : Nat) (c : Counter) : BudgetAnswer :=
  { allowed := decide (c.count ≤ maximum), retryAfterSeconds := retryAfterSeconds (c.ends - now) }

/-- A budget that counts in fixed windows: what it keeps shows the counters. -/
structure Counting (B : RateLimitBudget) (span : Int) where
  Shows : Int → (String → Option Counter) → B.State → Prop
  fresh : ∀ clock, Shows clock (fun _ => none) B.fresh
  later : ∀ {clock clock' counters s}, Shows clock counters s → clock ≤ clock' →
    Shows clock' counters s
  consume : ∀ {clock counters s}, Shows clock counters s → ∀ key maximum,
    ∃ c, Hit span clock (counters key) c ∧
      (B.consume clock key maximum span s).1 = answerFor clock maximum c ∧
      Shows clock (Function.update counters key (some c)) (B.consume clock key maximum span s).2

theorem memory_consume (span clock : Int) (counters : String → Option Counter) (key : String)
    (maximum : Nat) :
    ∃ c, Hit span clock (counters key) c ∧
      memoryRateLimitBudget.consume clock key maximum span counters =
        (answerFor clock maximum c, Function.update counters key (some c)) := by
  cases held : counters key with
  | none =>
    refine ⟨_, .first, ?_⟩
    simp only [memoryRateLimitBudget, held]
    rfl
  | some existing =>
    by_cases live : existing.ends > clock
    · refine ⟨_, .more live.le, ?_⟩
      simp only [memoryRateLimitBudget, held, if_pos live]
      rfl
    · refine ⟨_, .again (not_lt.mp live), ?_⟩
      simp only [memoryRateLimitBudget, held, if_neg live]
      rfl

def memoryCounting (span : Int) : Counting memoryRateLimitBudget span where
  Shows _ counters s := s = counters
  fresh _ := rfl
  later showing _ := showing
  consume := by
    intro clock counters s same key maximum
    subst same
    obtain ⟨c, hit, answer⟩ := memory_consume span clock s key maximum
    refine ⟨c, hit, ?_, ?_⟩
    · rw [answer]
    · rw [answer]

namespace Redis

variable (R : Redis)

/-- The key in Redis holds the counter, or has expired with it. -/
def Holds (db : R.Db) (clock : Int) (key : String) : Option Counter → Prop
  | none => R.look db clock key = none
  | some c => 0 < c.count ∧
      ((R.look db clock key = some (c.count, some c.ends) ∧ clock ≤ c.ends) ∨
        (R.look db clock key = none ∧ c.ends ≤ clock))

variable {R}

theorem Holds.later {db : R.Db} {clock clock' : Int} {key : String} {counter : Option Counter}
    (holds : R.Holds db clock key counter) (later : clock ≤ clock') :
    R.Holds db clock' key counter := by
  cases counter with
  | none => exact R.later_absent holds later
  | some c =>
    refine ⟨holds.1, ?_⟩
    rcases holds.2 with ⟨present, live⟩ | ⟨absent, ended⟩
    · exact R.later_present present later
    · exact .inr ⟨R.later_absent absent later, ended.trans later⟩

theorem budgetScript_other {db : R.Db} {clock milliseconds : Int} {key other : String}
    (differ : other ≠ key) :
    R.look (R.budgetScript clock key milliseconds db).2 clock other = R.look db clock other := by
  unfold budgetScript
  by_cases first : (R.incr clock key db).1 = 1
  · simp only [if_pos first]
    rw [R.pexpire_other differ, R.incr_other differ]
  · simp only [if_neg first]
    exact R.incr_other differ

/-- A key that is not there begins a counter. -/
theorem budgetScript_absent {db : R.Db} {clock milliseconds : Int} {key : String}
    (positive : 0 < milliseconds) (absent : R.look db clock key = none) :
    (R.budgetScript clock key milliseconds db).1 = (1, milliseconds) ∧
      R.Holds (R.budgetScript clock key milliseconds db).2 clock key
        (some ⟨1, clock + milliseconds⟩) := by
  obtain ⟨value, counted⟩ := R.incr_absent absent
  have expires := R.pexpire_present counted positive
  unfold budgetScript
  simp only [value, if_true]
  refine ⟨?_, Nat.one_pos, .inl ⟨expires, le_add_of_nonneg_right positive.le⟩⟩
  rw [R.pttl_present expires]
  simp

/-- A key that is there counts on. -/
theorem budgetScript_present {db : R.Db} {clock milliseconds : Int} {key : String} {c : Counter}
    (positive : 0 < c.count) (present : R.look db clock key = some (c.count, some c.ends))
    (live : clock ≤ c.ends) :
    (R.budgetScript clock key milliseconds db).1 = (c.count + 1, c.ends - clock) ∧
      R.Holds (R.budgetScript clock key milliseconds db).2 clock key
        (some ⟨c.count + 1, c.ends⟩) := by
  obtain ⟨value, counted⟩ := R.incr_present present
  have more : ¬c.count + 1 = 1 := by omega
  unfold budgetScript
  simp only [value, if_neg more]
  refine ⟨?_, Nat.succ_pos _, .inl ⟨counted, live⟩⟩
  rw [R.pttl_present counted]

theorem budgetScript_hit {db : R.Db} {clock span : Int} {key : String} {counter : Option Counter}
    (positive : 0 < span) (holds : R.Holds db clock key counter) :
    ∃ c, Hit span clock counter c ∧
      (R.budgetScript clock key span db).1 = (c.count, c.ends - clock) ∧
      R.Holds (R.budgetScript clock key span db).2 clock key (some c) := by
  have begins (absent : R.look db clock key = none) :
      (R.budgetScript clock key span db).1 = (1, clock + span - clock) ∧
        R.Holds (R.budgetScript clock key span db).2 clock key (some ⟨1, clock + span⟩) := by
    rw [add_sub_cancel_left]
    exact budgetScript_absent positive absent
  cases counter with
  | none => exact ⟨_, .first, begins holds⟩
  | some c =>
    rcases holds.2 with ⟨present, live⟩ | ⟨absent, ended⟩
    · exact ⟨_, .more live, budgetScript_present holds.1 present live⟩
    · exact ⟨_, .again ended, begins absent⟩

end Redis

theorem budgetKey_injective : Function.Injective ("screengoblin:budget:" ++ ·) := by
  intro a b same
  exact String.append_right_inj _ |>.mp same

def redisCounting (R : Redis) {span : Int} (positive : 0 < span) :
    Counting R.rateLimitBudget span where
  Shows clock counters db :=
    ∀ key, R.Holds db clock ("screengoblin:budget:" ++ key) (counters key)
  fresh clock key := R.look_empty clock _
  later showing later := fun key => (showing key).later later
  consume := by
    intro clock counters db showing key maximum
    obtain ⟨c, hit, answer, holds⟩ := Redis.budgetScript_hit positive (showing key)
    refine ⟨c, hit, ?_, ?_⟩
    · simp only [Redis.rateLimitBudget, answer]
      rfl
    · intro other
      by_cases same : other = key
      · subst same
        rw [Function.update_self]
        exact holds
      · rw [Function.update_of_ne same]
        have differ : "screengoblin:budget:" ++ other ≠ "screengoblin:budget:" ++ key :=
          fun equal => same (budgetKey_injective equal)
        have kept : R.look (R.rateLimitBudget.consume clock key maximum span db).2 clock
            ("screengoblin:budget:" ++ other) =
              R.look db clock ("screengoblin:budget:" ++ other) :=
          Redis.budgetScript_other differ
        have before := showing other
        cases counter : counters other with
        | none =>
          rw [counter] at before
          exact kept.trans before
        | some c' =>
          rw [counter] at before
          refine ⟨before.1, ?_⟩
          rw [kept]
          exact before.2

def BudgetStore.counting {span : Int} (positive : 0 < span) :
    (store : BudgetStore) → Counting store.budget span
  | .memory => memoryCounting span
  | .redis R => redisCounting R positive

/-! ## The two budgets agree -/

structure Consumption where
  time : Int
  key : String
  maximum : Nat

/-- The answers to some requests, one after another. -/
def runBudget (B : RateLimitBudget) (span : Int) : B.State → List Consumption → List BudgetAnswer
  | _, [] => []
  | s, r :: rest =>
    let (answer, s) := B.consume r.time r.key r.maximum span s
    answer :: runBudget B span s rest

/-- No request comes in the very millisecond in which the counter of its key ends. -/
def Clear (span : Int) : (String → Option Counter) → List Consumption → Prop
  | _, [] => True
  | counters, r :: rest =>
    (∀ c, counters r.key = some c → c.ends ≠ r.time) ∧
      Clear span (memoryRateLimitBudget.consume r.time r.key r.maximum span counters).2 rest

theorem runBudget_of_shows {B : RateLimitBudget} {span : Int} (counting : Counting B span) :
    ∀ (requests : List Consumption) (clock : Int) (counters : String → Option Counter)
      (s : B.State), counting.Shows clock counters s → (∀ r ∈ requests, clock ≤ r.time) →
      requests.Pairwise (fun r r' => r.time ≤ r'.time) → Clear span counters requests →
      runBudget B span s requests = runBudget memoryRateLimitBudget span counters requests := by
  intro requests
  induction requests with
  | nil =>
    intro clock counters s _ _ _ _
    rfl
  | cons r rest ih =>
    intro clock counters s showing later inOrder clear
    have shown := counting.later showing (later r (by simp))
    obtain ⟨c, hit, answer, next⟩ := counting.consume shown r.key r.maximum
    obtain ⟨c', hit', memory⟩ := memory_consume span r.time counters r.key r.maximum
    have same : c = c' := hit.unique hit' clear.1
    subst same
    have clear' := clear.2
    rw [memory] at clear'
    simp only [runBudget, answer, memory]
    rw [ih r.time _ _ next (fun _ => List.rel_of_pairwise_cons inOrder)
      inOrder.of_cons clear']

/-- Redis answers the same as the memory of the process, in every run in which no request comes
exactly when the window of its key ends. -/
theorem redis_answers_as_the_memory (R : Redis) {span : Int} (positive : 0 < span)
    (requests : List Consumption) (inOrder : requests.Pairwise fun r r' => r.time ≤ r'.time)
    (clear : Clear span (fun _ => none) requests) :
    runBudget R.rateLimitBudget span R.empty requests =
      runBudget memoryRateLimitBudget span (fun _ => none) requests := by
  cases requests with
  | nil => rfl
  | cons r rest =>
    refine runBudget_of_shows (redisCounting R positive) (r :: rest) r.time _ _
      ((redisCounting R positive).fresh r.time) ?_ inOrder clear
    intro r' member
    rcases List.mem_cons.mp member with rfl | member
    · exact le_refl _
    · exact List.rel_of_pairwise_cons inOrder member

/-- A Redis in which a key is still there in the millisecond in which it expires. -/
def patientRedis : Redis where
  Db := String → Option (Nat × Option Int)
  empty := fun _ => none
  look db now key := (db key).filter fun held => held.2.all fun expiry => decide (now ≤ expiry)
  incr now key db :=
    match (db key).filter fun held => held.2.all fun expiry => decide (now ≤ expiry) with
    | none => (1, Function.update db key (some (1, none)))
    | some (n, expiry) => (n + 1, Function.update db key (some (n + 1, expiry)))
  pexpire now key milliseconds db :=
    Function.update db key ((db key).map fun held => (held.1, some (now + milliseconds)))
  pttl now key db :=
    match db key with
    | some (_, some expiry) => expiry - now
    | some (_, none) => -1
    | none => -2
  look_empty _ _ := rfl
  incr_absent := by
    intro db now key absent
    simp [absent]
  incr_present := by
    intro db now key n expiry present
    have held := Option.filter_eq_some_iff.mp present
    simpa [present] using held.2
  incr_other := by
    intro db now key other differ
    cases (db key).filter fun held => held.2.all fun expiry => decide (now ≤ expiry) with
    | none => simp [Function.update_of_ne differ]
    | some held => simp [Function.update_of_ne differ]
  pexpire_present := by
    intro db now key milliseconds n expiry present positive
    have held := Option.filter_eq_some_iff.mp present
    simp [held.1, positive.le]
  pexpire_other := by
    intro db now key milliseconds other differ
    simp [Function.update_of_ne differ]
  pttl_present := by
    intro db now key n expiry present
    have held := Option.filter_eq_some_iff.mp present
    simp [held.1]
  later_present := by
    intro db now later key n expiry present _
    have held := (Option.filter_eq_some_iff.mp present).1
    by_cases live : later ≤ expiry
    · left
      simp [held, live]
    · right
      simp [held, live]
      omega
  later_absent := by
    intro db now later key absent order
    cases held : db key with
    | none => simp
    | some value =>
      rcases value with ⟨n, _ | expiry⟩
      · simp [held] at absent
      · simp [held] at absent ⊢
        omega

/-- Three requests for one key, of which two are allowed, and one in a later window. -/
theorem redis_and_memory_answer_the_third_request :
    let requests : List Consumption := [⟨0, "pair-code:a", 2⟩, ⟨10, "pair-code:a", 2⟩,
      ⟨20, "pair-code:a", 2⟩, ⟨60020, "pair-code:a", 2⟩]
    runBudget patientRedis.rateLimitBudget 60000 patientRedis.empty requests =
        runBudget memoryRateLimitBudget 60000 (fun _ => none) requests ∧
      (runBudget memoryRateLimitBudget 60000 (fun _ => none) requests).map (·.allowed) =
        [true, true, false, true] := by
  refine ⟨redis_answers_as_the_memory patientRedis (by decide) _ (by decide) ?_, by decide⟩
  simp [Clear, memoryRateLimitBudget]

end screengoblin.limits
