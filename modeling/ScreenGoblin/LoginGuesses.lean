-- How often a password can be tried: in every run of the requests side by side, with either
-- store of budgets, each comparison of a password was paid for by the account and by the source,
-- so that both run out. No request is refused without as many requests before it.
import ScreenGoblin.LoginRoutes

open js screengoblin.limits screengoblin.server windows

namespace screengoblin.auth

variable {S : Service} {B : RateLimitBudget} {counting : Counting B 60000}

/-! ## The account that is charged is the one that is tried -/

/-- `loginSchema` gives the e-mail that the `preHandler` has charged. -/
theorem email_of_loginSchema {ip email password : String} {body : Value}
    (accepted : loginSchema S body = some (email, password)) :
    email = (AuthRequest.login ip body).email S := by
  unfold loginSchema at accepted
  simp only [Option.bind_eq_bind, Option.bind_eq_some_iff, Option.pure_def,
    Option.some.injEq, Prod.mk.injEq] at accepted
  obtain ⟨-, -, found, read, -, -, rfl, -⟩ := accepted
  unfold loginEmail at read
  unfold AuthRequest.email
  split at read
  · rename_i text same
    simp only [same]
    by_cases accepted : (S.isEmail (normalizedEmail S text) &&
        decide (utf16Length (normalizedEmail S text) ≤ 254)) = true
    · simpa [accepted] using read.symm
    · simp [accepted] at read
  · cases read

/-! ## What the budgets have counted -/

/-- What the store keeps shows the counters that the requests so far have made. -/
structure Ledger (counting : Counting B 60000) (d : Server B)
    (counters : String → Option Counter) (entries : List (Entry String)) : Prop where
  showing : counting.Shows d.clock counters d.budget
  counts : Counts 60000 d.clock counters entries
  counted : d.counted = entries.map fun e => (e.key, e.time)

/-- What a call of `enforceRateLimitBudget` adds to the entries, and what its result tells. -/
inductive Tells (clock : Int) (key : String) (maximum : Nat) (entries : List (Entry String)) :
    List (Entry String) → Except ApiError Unit → Prop
  | granted {count : Nat} (small : count ≤ maximum) :
      Tells clock key maximum entries (⟨key, clock, count⟩ :: entries) (.ok ())
  | refused {count : Nat}
      (many : maximum ≤ (on key entries).countP (Seen.within maximum (clock - 60000))) :
      Tells clock key maximum entries (⟨key, clock, count⟩ :: entries) (.error rateLimited)
  | lost {count : Nat} :
      Tells clock key maximum entries (⟨key, clock, count⟩ :: entries)
        (.error rateLimitUnavailable)
  | uncounted : Tells clock key maximum entries entries (.error rateLimitUnavailable)

variable {d d' : Server B} {counters : String → Option Counter} {entries : List (Entry String)}

theorem Ledger.enforce (ledger : Ledger counting d counters entries) (reply : Reply)
    (key : String) (maximum : Nat) :
    ∃ counters' entries', Ledger counting (d.enforce reply key maximum).2 counters' entries' ∧
      Tells d.clock key maximum entries entries' (d.enforce reply key maximum).1 := by
  obtain ⟨c, hit, answer, showing⟩ := counting.consume ledger.showing key maximum
  have counts := ledger.counts.hit hit
  have counted : (key, d.clock) :: d.counted =
      ((⟨key, d.clock, c.count⟩ :: entries).map fun e => (e.key, e.time)) := by
    rw [ledger.counted, List.map_cons]
  cases reply with
  | answered =>
    refine ⟨_, _, ⟨showing, counts, counted⟩, ?_⟩
    unfold Server.enforce enforceRateLimitBudget
    simp only [answer, answerFor]
    by_cases small : c.count ≤ maximum
    · rw [if_pos (decide_eq_true small)]
      exact .granted small
    · rw [if_neg (by simpa using small)]
      exact .refused ((ledger.counts key).of_count_gt hit (not_le.mp small))
  | threw wasCounted =>
    cases wasCounted with
    | true => exact ⟨_, _, ⟨showing, counts, counted⟩, .lost⟩
    | false => exact ⟨_, _, ⟨ledger.showing, ledger.counts, ledger.counted⟩, .uncounted⟩

/-! ## Grants and refusals -/

/-- A grant of the budget from the time `since` on. -/
def Grant.pays (b : Budget) (since : Int) (g : Grant) : Bool :=
  decide (g.budget = b) && decide (since ≤ g.time)

/-- The hits that a key had in the minute before a time. -/
def hitsBefore (counted : List (String × Int)) (key : String) (time : Int) : Nat :=
  counted.countP fun c => decide (c.1 = key) && decide (time - 60000 ≤ c.2) && decide (c.2 ≤ time)

/-- Every grant is one of the hits within the maximum, and every refusal came after as many. -/
structure Settled (S : Service) (d : Server B) (entries : List (Entry String)) : Prop where
  grants : ∀ b since, d.grants.countP (Grant.pays b since) ≤
    (on (b.key S) entries).countP (Seen.within b.maximum since)
  refusals : ∀ r ∈ d.refusals,
    r.budget.maximum < hitsBefore d.counted (r.budget.key S) r.time

theorem on_cons (key : String) (e : Entry String) (entries : List (Entry String)) :
    on key (e :: entries) =
      if e.key = key then ⟨e.time, e.count⟩ :: on key entries else on key entries := by
  by_cases same : e.key = key
  · simp [on, same]
  · simp [on, same]

theorem countP_on_cons_ge (p : Seen → Bool) (key : String) (e : Entry String)
    (entries : List (Entry String)) :
    (on key entries).countP p ≤ (on key (e :: entries)).countP p := by
  rw [on_cons]
  split
  · exact List.Sublist.countP_le (List.sublist_cons_self _ _)
  · exact le_refl _

theorem hitsBefore_mono {counted counted' : List (String × Int)}
    (more : counted.Sublist counted') (key : String) (time : Int) :
    hitsBefore counted key time ≤ hitsBefore counted' key time := more.countP_le

/-- The recent hits of a key are counted requests. -/
theorem countP_on_le_hitsBefore (ledger : Ledger counting d counters entries) (key : String)
    (maximum : Nat) :
    (on key entries).countP (Seen.within maximum (d.clock - 60000)) ≤
      hitsBefore d.counted key d.clock := by
  have times := (ledger.counts key).time_le
  unfold hitsBefore
  rw [ledger.counted, List.countP_map]
  unfold on at times ⊢
  rw [List.countP_map, List.countP_filter]
  apply List.countP_mono_left
  intro e member within
  simp only [Function.comp, Bool.and_eq_true, decide_eq_true_eq, within_iff] at within ⊢
  refine ⟨⟨within.2, within.1.2⟩, ?_⟩
  exact times ⟨e.time, e.count⟩ (List.mem_map.mpr
    ⟨e, List.mem_filter.mpr ⟨member, by simpa using within.2⟩, rfl⟩)

/-- An entry more keeps what was settled. -/
theorem Settled.more (settled : Settled S d entries) (grants : d'.grants = d.grants)
    (refusals : d'.refusals = d.refusals) (counted : d.counted.Sublist d'.counted)
    (e : Entry String) : Settled S d' (e :: entries) := by
  refine ⟨?_, ?_⟩
  · intro b since
    rw [grants]
    exact (settled.grants b since).trans (countP_on_cons_ge _ _ _ _)
  · intro r member
    rw [refusals] at member
    exact (settled.refusals r member).trans_le (hitsBefore_mono counted _ _)

theorem Settled.same (settled : Settled S d entries) (grants : d'.grants = d.grants)
    (refusals : d'.refusals = d.refusals) (counted : d'.counted = d.counted) :
    Settled S d' entries := by
  refine ⟨?_, ?_⟩
  · rw [grants]
    exact settled.grants
  · rw [refusals, counted]
    exact settled.refusals

/-- A grant is an entry within the maximum of its budget. -/
theorem Settled.grant (settled : Settled S d entries) (b : Budget) (i : Nat) {count : Nat}
    (small : count ≤ b.maximum) (grants : d'.grants = ⟨i, b, d.clock⟩ :: d.grants)
    (refusals : d'.refusals = d.refusals) (counted : d.counted.Sublist d'.counted) :
    Settled S d' (⟨b.key S, d.clock, count⟩ :: entries) := by
  refine ⟨?_, ?_⟩
  · intro b' since
    have old := settled.grants b' since
    rw [grants, List.countP_cons]
    by_cases pays : Grant.pays b' since ⟨i, b, d.clock⟩ = true
    · have same : b = b' ∧ since ≤ d.clock := by simpa [Grant.pays] using pays
      obtain ⟨rfl, later⟩ := same
      have within : Seen.within b.maximum since ⟨d.clock, count⟩ = true :=
        within_iff.mpr ⟨small, later⟩
      rw [on_cons, if_pos rfl, List.countP_cons, if_pos pays, if_pos within]
      omega
    · rw [if_neg pays]
      exact old.trans (countP_on_cons_ge _ _ _ _)
  · intro r member
    rw [refusals] at member
    exact (settled.refusals r member).trans_le (hitsBefore_mono counted _ _)

/-- A refusal is counted itself, after as many hits as the maximum of its budget. -/
theorem Settled.refuse (ledger : Ledger counting d counters entries)
    (settled : Settled S d entries) (b : Budget) (i : Nat) (e : Entry String)
    (many : b.maximum ≤ (on (b.key S) entries).countP (Seen.within b.maximum (d.clock - 60000)))
    (grants : d'.grants = d.grants) (refusals : d'.refusals = ⟨i, b, d.clock⟩ :: d.refusals)
    (counted : d'.counted = (b.key S, d.clock) :: d.counted) : Settled S d' (e :: entries) := by
  refine ⟨?_, ?_⟩
  · intro b' since
    rw [grants]
    exact (settled.grants b' since).trans (countP_on_cons_ge _ _ _ _)
  · intro r member
    rw [refusals] at member
    rw [counted]
    rcases List.mem_cons.mp member with rfl | member
    · have before := many.trans (countP_on_le_hitsBefore ledger (b.key S) b.maximum)
      unfold hitsBefore at *
      rw [List.countP_cons]
      simp only [decide_true, Bool.true_and, le_refl, Bool.and_true, decide_eq_true_eq]
      rw [if_pos (by omega)]
      omega
    · exact (settled.refusals r member).trans_le
        (hitsBefore_mono (List.sublist_cons_self _ _) _ _)

/-- The budgets of the server are in order. -/
def InBudget (S : Service) (counting : Counting B 60000) (d : Server B) : Prop :=
  ∃ counters entries, Ledger counting d counters entries ∧ Settled S d entries

theorem inBudget_start (clock : Int) : InBudget S counting (Server.start B clock) := by
  refine ⟨_, [], ⟨counting.fresh clock, counts_none 60000 clock, rfl⟩, ?_, ?_⟩
  · intro b since
    simp [Server.start]
  · simp [Server.start]

/-- Steps that pay no budget. -/
theorem InBudget.same (inBudget : InBudget S counting d) (clock : d.clock ≤ d'.clock)
    (budget : d'.budget = d.budget) (grants : d'.grants = d.grants)
    (refusals : d'.refusals = d.refusals) (counted : d'.counted = d.counted) :
    InBudget S counting d' := by
  obtain ⟨counters, entries, ledger, settled⟩ := inBudget
  refine ⟨counters, entries, ⟨?_, ledger.counts.later clock, counted.trans ledger.counted⟩,
    settled.same grants refusals counted⟩
  rw [budget]
  exact counting.later ledger.showing clock

theorem counted_sublist (d : Server B) (reply : Reply) (key : String) (maximum : Nat) :
    d.counted.Sublist (d.enforce reply key maximum).2.counted := by
  cases reply with
  | answered => exact List.sublist_cons_self _ _
  | threw counted =>
    cases counted with
    | true => exact List.sublist_cons_self _ _
    | false => exact List.Sublist.refl _

theorem InBudget.elsewhere (inBudget : InBudget S counting d) (key : String) (maximum : Nat)
    (reply : Reply) : InBudget S counting (d.enforce reply key maximum).2 := by
  obtain ⟨counters, entries, ledger, settled⟩ := inBudget
  obtain ⟨counters', entries', ledger', tells⟩ := ledger.enforce reply key maximum
  refine ⟨counters', entries', ledger', ?_⟩
  have sublist := counted_sublist d reply key maximum
  have grants : (d.enforce reply key maximum).2.grants = d.grants := rfl
  have refusals : (d.enforce reply key maximum).2.refusals = d.refusals := rfl
  generalize (d.enforce reply key maximum).2 = d₁ at *
  generalize (d.enforce reply key maximum).1 = result at *
  cases tells with
  | granted _ => exact settled.more grants refusals sublist _
  | refused _ => exact settled.more grants refusals sublist _
  | lost => exact settled.more grants refusals sublist _
  | uncounted =>
    exact settled.same grants refusals (ledger'.counted.trans ledger.counted.symm)

theorem afterBudget_limited (i : Nat) (b : Budget) (left : List Budget) (d : Server B) :
    afterBudget i b left d (.error rateLimited) =
      { d.setPhase i .limited with refusals := ⟨i, b, d.clock⟩ :: d.refusals } := by
  simp [afterBudget, rateLimited]

theorem afterBudget_unavailable (i : Nat) (b : Budget) (left : List Budget) (d : Server B) :
    afterBudget i b left d (.error rateLimitUnavailable) =
      d.setPhase i (.answered (.error rateLimitUnavailable)) := by
  simp [afterBudget, rateLimitUnavailable]

theorem InBudget.consume (inBudget : InBudget S counting d) (i : Nat) (reply : Reply)
    (b : Budget) (left : List Budget) : InBudget S counting (consume S i reply b left d) := by
  obtain ⟨counters, entries, ledger, settled⟩ := inBudget
  obtain ⟨counters', entries', ledger', tells⟩ := ledger.enforce reply (b.key S) b.maximum
  have sublist := counted_sublist d reply (b.key S) b.maximum
  have clock : (d.enforce reply (b.key S) b.maximum).2.clock = d.clock := rfl
  have grants : (d.enforce reply (b.key S) b.maximum).2.grants = d.grants := rfl
  have refusals : (d.enforce reply (b.key S) b.maximum).2.refusals = d.refusals := rfl
  show InBudget S counting (afterBudget i b left (d.enforce reply (b.key S) b.maximum).2
    (d.enforce reply (b.key S) b.maximum).1)
  generalize (d.enforce reply (b.key S) b.maximum).2 = d₁ at *
  generalize (d.enforce reply (b.key S) b.maximum).1 = result at *
  refine ⟨counters', entries', ?_, ?_⟩
  · cases tells with
    | granted _ => exact ⟨ledger'.showing, ledger'.counts, ledger'.counted⟩
    | refused _ =>
      rw [afterBudget_limited]
      exact ⟨ledger'.showing, ledger'.counts, ledger'.counted⟩
    | lost | uncounted =>
      rw [afterBudget_unavailable]
      exact ⟨ledger'.showing, ledger'.counts, ledger'.counted⟩
  · cases tells with
    | granted small =>
      refine settled.grant b i small ?_ refusals sublist
      rw [← clock, ← grants]
      rfl
    | refused many =>
      rw [afterBudget_limited]
      refine Settled.refuse ledger settled b i _ many grants ?_ ?_
      · rw [← clock, ← refusals]
      · exact ledger'.counted.trans (by rw [List.map_cons, ledger.counted])
    | @lost count =>
      rw [afterBudget_unavailable]
      have kept := settled.more grants refusals sublist ⟨b.key S, d.clock, count⟩
      exact ⟨kept.grants, kept.refusals⟩
    | uncounted =>
      rw [afterBudget_unavailable]
      exact settled.same grants refusals (ledger'.counted.trans ledger.counted.symm)

/-! ## What an attempt has been through -/

/-- The budgets that an attempt has yet to pay, while it is on its way. -/
def Phase.unpaid : Phase → Option (List Budget)
  | .guarding budgets => some budgets
  | .limited | .answered _ => none
  | .admitted | .comparing _ _ _ | .failing _ | .verified _ _ => some []

def Phase.email : Phase → Option String
  | .comparing email _ _ | .failing email | .verified email _ => some email
  | .guarding _ | .limited | .admitted | .answered _ => none

/-- The password of the attempt may have been compared. -/
def Phase.compared : Phase → Bool
  | .failing _ | .verified _ _ | .answered _ => true
  | .guarding _ | .limited | .admitted | .comparing _ _ _ => false

/-- The budget has been paid by the attempt of this number. -/
def Granted (d : Server B) (i : Nat) (b : Budget) : Prop :=
  ∃ g ∈ d.grants, g.attempt = i ∧ g.budget = b

/-- The password was compared with the hash of this user. -/
def Compared (d : Server B) (i : Nat) (user : Principal) : Prop :=
  ∃ guess ∈ d.guesses, guess.attempt = i ∧ guess.passwordHash = user.passwordHash

/-- The error that a failure is answered with. -/
def LoginFailureReason.error : LoginFailureReason → ApiError
  | .invalidCredentials => auth.invalidCredentials
  | .rateLimited => limits.rateLimited

/-- An attempt has paid what it has got past, is about the account that it was charged for, and
is only told of a failure that is on record. -/
structure Attempt.Sound (S : Service) (d : Server B) (i : Nat) (a : Attempt) : Prop where
  paid : ∀ left, a.phase.unpaid = some left →
    ∃ paid, a.request.budgets S = paid ++ left ∧ ∀ b ∈ paid, Granted d i b
  email : ∀ email, a.phase.email = some email → email = a.request.email S
  verified : ∀ email user, a.phase = .verified email user → Compared d i user
  recorded : ∀ reason : LoginFailureReason, a.phase = .answered (.error reason.error) →
    (i, failureOf S a.request (a.request.email S) reason) ∈ d.recorded

/-- A guess was paid for in full, by the account that it is about. -/
def Guess.Sound (S : Service) (d : Server B) (guess : Guess) : Prop :=
  ∃ a, d.attempts[guess.attempt]? = some a ∧ a.phase.compared = true ∧
    guess.account = a.request.email S ∧ ∀ b ∈ a.request.budgets S, Granted d guess.attempt b

/-- What has happened so far is still on record. -/
structure Extends (d d' : Server B) : Prop where
  grants : d.grants ⊆ d'.grants
  guesses : d.guesses ⊆ d'.guesses
  recorded : d.recorded ⊆ d'.recorded

theorem Extends.granted (more : Extends d d') {i : Nat} {b : Budget} (granted : Granted d i b) :
    Granted d' i b := by
  obtain ⟨g, member, own⟩ := granted
  exact ⟨g, more.grants member, own⟩

theorem Attempt.Sound.mono {i : Nat} {a : Attempt} (sound : a.Sound S d i)
    (more : Extends d d') : a.Sound S d' i := by
  refine ⟨?_, sound.email, ?_, ?_⟩
  · intro left eq
    obtain ⟨paid, split, granted⟩ := sound.paid left eq
    exact ⟨paid, split, fun b member => more.granted (granted b member)⟩
  · intro email user eq
    obtain ⟨guess, member, own⟩ := sound.verified email user eq
    exact ⟨guess, more.guesses member, own⟩
  · intro reason eq
    exact more.recorded (sound.recorded reason eq)

structure Attempts (S : Service) (d : Server B) : Prop where
  sound : ∀ i (a : Attempt), d.attempts[i]? = some a → a.Sound S d i
  guesses : ∀ guess ∈ d.guesses, guess.Sound S d
  once : (d.guesses.map (·.attempt)).Nodup

/-- The attempt of number `i` moves on to the phase. -/
structure Moves (d d' : Server B) (i : Nat) (a : Attempt) (phase : Phase) : Prop extends
    Extends d d' where
  found : d.attempts[i]? = some a
  attempts : d'.attempts = d.attempts.modify i fun a => { a with phase := phase }
  compared : a.phase.compared = true → phase.compared = true

variable {i : Nat} {a : Attempt} {phase : Phase}

theorem Moves.at_same (moves : Moves d d' i a phase) :
    d'.attempts[i]? = some { a with phase := phase } := by
  rw [moves.attempts, List.getElem?_modify_eq, moves.found]
  rfl

theorem Moves.at_other (moves : Moves d d' i a phase) {j : Nat} (other : i ≠ j) :
    d'.attempts[j]? = d.attempts[j]? := by
  rw [moves.attempts, List.getElem?_modify_ne _ _ other]

theorem Moves.sound (moves : Moves d d' i a phase) (attempts : Attempts S d)
    (sound : Attempt.Sound S d' i { a with phase := phase }) :
    ∀ j (b : Attempt), d'.attempts[j]? = some b → b.Sound S d' j := by
  intro j b found
  by_cases same : i = j
  · subst same
    rw [moves.at_same] at found
    cases found
    exact sound
  · rw [moves.at_other same] at found
    exact (attempts.sound j b found).mono moves.toExtends

/-- A guess that was there is as sound as before. -/
theorem Moves.guess (moves : Moves d d' i a phase) {guess : Guess} (sound : guess.Sound S d) :
    guess.Sound S d' := by
  obtain ⟨b, found, compared, account, granted⟩ := sound
  by_cases same : i = guess.attempt
  · rw [← same, moves.found] at found
    cases found
    refine ⟨{ a with phase := phase }, ?_, moves.compared compared, account,
      fun b member => moves.granted (granted b member)⟩
    rw [← same]
    exact moves.at_same
  · exact ⟨b, (moves.at_other same).trans found, compared, account,
      fun b member => moves.granted (granted b member)⟩

/-- A step that compares no password. -/
theorem Attempts.move (attempts : Attempts S d) (moves : Moves d d' i a phase)
    (sound : Attempt.Sound S d' i { a with phase := phase }) (same : d'.guesses = d.guesses) :
    Attempts S d' := by
  refine ⟨moves.sound attempts sound, ?_, ?_⟩
  · intro guess member
    rw [same] at member
    exact moves.guess (attempts.guesses guess member)
  · rw [same]
    exact attempts.once

/-! ## The steps of the attempts -/

theorem Extends.same (grants : d'.grants = d.grants) (guesses : d'.guesses = d.guesses)
    (recorded : d'.recorded = d.recorded) : Extends d d' := by
  refine ⟨?_, ?_, ?_⟩
  · rw [grants]
    exact List.Subset.refl _
  · rw [guesses]
    exact List.Subset.refl _
  · rw [recorded]
    exact List.Subset.refl _

/-- A step that leaves the attempts where they are, but for new ones that owe all their budgets. -/
theorem Attempts.arrive (attempts : Attempts S d) (arrived : List AuthRequest)
    (added : d'.attempts =
      d.attempts ++ arrived.map fun request => ⟨request, .guarding (request.budgets S)⟩)
    (grants : d'.grants = d.grants) (guesses : d'.guesses = d.guesses)
    (recorded : d'.recorded = d.recorded) : Attempts S d' := by
  have more := Extends.same grants guesses recorded
  refine ⟨?_, ?_, ?_⟩
  · intro i a found
    rw [added, List.getElem?_append] at found
    by_cases old : i < d.attempts.length
    · rw [if_pos old] at found
      exact (attempts.sound i a found).mono more
    · rw [if_neg old] at found
      obtain ⟨request, -, rfl⟩ := List.mem_map.mp (List.mem_of_getElem? found)
      refine ⟨?_, ?_, ?_, ?_⟩
      · intro left eq
        cases eq
        exact ⟨[], rfl, by simp⟩
      · intro email eq
        cases eq
      · intro email user eq
        cases eq
      · intro reason eq
        cases eq
  · intro guess member
    rw [guesses] at member
    obtain ⟨a, found, rest⟩ := attempts.guesses guess member
    refine ⟨a, ?_, rest.1, rest.2.1, fun b paid => more.granted (rest.2.2 b paid)⟩
    rw [added, List.getElem?_append_left (List.getElem?_eq_some_iff.mp found).1]
    exact found
  · rw [guesses]
    exact attempts.once

theorem LoginFailureReason.error_injective {reason reason' : LoginFailureReason}
    (same : reason.error = reason'.error) : reason = reason' := by
  cases reason <;> cases reason' <;> first | rfl | exact absurd same (by decide)

/-- A phase that says nothing of budgets, accounts or records. -/
def Phase.silent : Phase → Bool
  | .limited | .answered (.ok _) => true
  | .answered (.error error) =>
    decide (error ≠ LoginFailureReason.error .invalidCredentials) &&
      decide (error ≠ LoginFailureReason.error .rateLimited)
  | .guarding _ | .admitted | .comparing _ _ _ | .failing _ | .verified _ _ => false

theorem sound_of_silent {request : AuthRequest} (silent : phase.silent = true) :
    Attempt.Sound S d i ⟨request, phase⟩ := by
  refine ⟨?_, ?_, ?_, ?_⟩
  · intro left eq
    cases phase with
    | limited | answered _ => cases eq
    | guarding _ | admitted | comparing _ _ _ | failing _ | verified _ _ => cases silent
  · intro email eq
    cases phase with
    | limited | answered _ => cases eq
    | guarding _ | admitted | comparing _ _ _ | failing _ | verified _ _ => cases silent
  · intro email user eq
    cases phase with
    | limited | answered _ => cases eq
    | guarding _ | admitted | comparing _ _ _ | failing _ | verified _ _ => cases silent
  · intro reason eq
    rw [show phase = .answered (.error reason.error) from eq] at silent
    cases reason <;> exact absurd silent (by decide)

/-- An attempt that has paid everything, and is not answered yet. -/
theorem sound_of_paid {request : AuthRequest} (paid : ∀ b ∈ request.budgets S, Granted d i b)
    (unpaid : phase.unpaid = some []) (email : ∀ email, phase.email = some email →
      email = request.email S) (verified : ∀ email user, phase = .verified email user →
        Compared d i user) : Attempt.Sound S d i ⟨request, phase⟩ := by
  refine ⟨?_, email, verified, ?_⟩
  · intro left eq
    rw [unpaid] at eq
    cases eq
    exact ⟨_, (List.append_nil _).symm, paid⟩
  · intro reason eq
    rw [show phase = .answered (.error reason.error) from eq] at unpaid
    cases unpaid

theorem Attempt.Sound.all_paid {request : AuthRequest}
    (sound : Attempt.Sound S d i ⟨request, phase⟩) (unpaid : phase.unpaid = some []) :
    ∀ b ∈ request.budgets S, Granted d i b := by
  obtain ⟨paid, split, granted⟩ := sound.paid [] unpaid
  rw [List.append_nil] at split
  rw [split]
  exact granted

theorem enforce_error (reply : Reply) (key : String) (maximum : Nat) :
    ∀ error, (d.enforce reply key maximum).1 = .error error →
      error = rateLimited ∨ error = rateLimitUnavailable := by
  intro error refused
  cases reply with
  | answered =>
    left
    have answered : (if (B.consume d.clock key maximum 60000 d.budget).1.allowed then
        (.ok () : Except ApiError Unit) else .error rateLimited) = .error error := refused
    split at answered
    · cases answered
    · cases answered
      rfl
  | threw counted =>
    right
    cases counted <;> cases refused <;> rfl

theorem Attempts.consume (attempts : Attempts S d) {request : AuthRequest} {b : Budget}
    {left : List Budget} (found : d.attempts[i]? = some ⟨request, .guarding (b :: left)⟩)
    (reply : Reply) : Attempts S (consume S i reply b left d) := by
  have unmoved : (d.enforce reply (b.key S) b.maximum).2.attempts = d.attempts := rfl
  have grants : (d.enforce reply (b.key S) b.maximum).2.grants = d.grants := rfl
  have guesses : (d.enforce reply (b.key S) b.maximum).2.guesses = d.guesses := rfl
  have recorded : (d.enforce reply (b.key S) b.maximum).2.recorded = d.recorded := rfl
  have errors := enforce_error (d := d) reply (b.key S) b.maximum
  show Attempts S (afterBudget i b left (d.enforce reply (b.key S) b.maximum).2
    (d.enforce reply (b.key S) b.maximum).1)
  generalize (d.enforce reply (b.key S) b.maximum).2 = d₁ at *
  generalize (d.enforce reply (b.key S) b.maximum).1 = result at *
  have old : Attempts S d₁ := by
    refine attempts.arrive [] ?_ grants guesses recorded
    simpa using unmoved
  rw [← unmoved] at found
  cases result with
  | ok _ =>
    have more : Extends d₁ (afterBudget i b left d₁ (.ok ())) :=
      ⟨List.subset_cons_self _ _, List.Subset.refl _, List.Subset.refl _⟩
    have moves : Moves d₁ (afterBudget i b left d₁ (.ok ())) i ⟨request, .guarding (b :: left)⟩
        (if left.isEmpty then .admitted else .guarding left) :=
      ⟨more, found, rfl, fun early => absurd early (by simp [Phase.compared])⟩
    refine old.move moves ?_ rfl
    obtain ⟨paid, split, granted⟩ := (old.sound i _ found).paid (b :: left) rfl
    have own : Granted (afterBudget i b left d₁ (.ok ())) i b :=
      ⟨⟨i, b, d₁.clock⟩, List.mem_cons_self, rfl, rfl⟩
    cases left with
    | nil =>
      refine sound_of_paid ?_ rfl (fun _ eq => nomatch eq) (fun _ _ eq => nomatch eq)
      intro b' member
      rw [split, List.mem_append, List.mem_singleton] at member
      rcases member with member | rfl
      · exact more.granted (granted b' member)
      · exact own
    | cons next left =>
      refine ⟨?_, (fun _ eq => nomatch eq), (fun _ _ eq => nomatch eq), (fun _ eq => nomatch eq)⟩
      intro left' eq
      cases eq
      refine ⟨paid ++ [b], by simpa using split, ?_⟩
      intro b' member
      rw [List.mem_append, List.mem_singleton] at member
      rcases member with member | rfl
      · exact more.granted (granted b' member)
      · exact own
  | error error =>
    unfold afterBudget
    simp only
    by_cases limited : error.code = "RATE_LIMITED"
    · rw [if_pos limited]
      have moves : Moves d₁ { d₁.setPhase i .limited with
          refusals := ⟨i, b, d₁.clock⟩ :: d₁.refusals } i ⟨request, .guarding (b :: left)⟩
          .limited :=
        ⟨Extends.same rfl rfl rfl, found, rfl, fun early => absurd early (by simp [Phase.compared])⟩
      exact old.move moves (sound_of_silent rfl) rfl
    · rw [if_neg limited]
      have moves : Moves d₁ (d₁.setPhase i (.answered (.error error))) i
          ⟨request, .guarding (b :: left)⟩ (.answered (.error error)) :=
        ⟨Extends.same rfl rfl rfl, found, rfl, fun _ => rfl⟩
      have lost : error = rateLimitUnavailable := by
        rcases errors error rfl with rfl | lost
        · exact absurd rfl limited
        · exact lost
      exact old.move moves (sound_of_silent (by rw [lost]; decide)) rfl

/-- The keys of a failure are what the store asks for, and the store keeps so many records. -/
theorem recordLoginFailure_failureOf (P : Platform) (occurredAt : Int) (id : String)
    (request : AuthRequest) (email : String) (reason : LoginFailureReason)
    (loginFailures : List LoginFailureRecord) :
    ∃ kept, recordLoginFailure P occurredAt id (failureOf S request email reason) loginFailures =
      .ok kept ∧ kept.length ≤ LOGIN_FAILURE_MAX_RECORDS := by
  unfold recordLoginFailure failureOf
  simp only [isLowerHex64_opaqueSecurityEventKey]
  refine ⟨_, rfl, ?_⟩
  rw [List.length_append, List.length_drop]
  simp only [List.length_singleton, LOGIN_FAILURE_MAX_RECORDS]
  omega

theorem record_cases (i : Nat) (stored : Bool) (request : AuthRequest) (email : String)
    (reason : LoginFailureReason) (error : ApiError) (d : Server B) :
    (∃ loginFailures, loginFailures.length ≤ LOGIN_FAILURE_MAX_RECORDS ∧
      record S i stored (failureOf S request email reason) error d =
        { d.setPhase i (.answered (.error error)) with
          loginFailures := loginFailures
          idsDrawn := d.idsDrawn + 1
          recorded := (i, failureOf S request email reason) :: d.recorded }) ∨
      record S i stored (failureOf S request email reason) error d =
        d.setPhase i (.answered (.error telemetryUnavailable)) := by
  unfold record
  cases stored with
  | false => exact .inr rfl
  | true =>
    obtain ⟨kept, made, short⟩ := recordLoginFailure_failureOf (S := S) S.platform d.clock
      (S.platform.freshId d.idsDrawn) request email reason d.loginFailures
    simp only [if_true, made]
    exact .inl ⟨kept, short, rfl⟩

theorem Attempts.record (attempts : Attempts S d) {request : AuthRequest}
    (found : d.attempts[i]? = some ⟨request, phase⟩) (stored : Bool)
    (reason : LoginFailureReason) :
    Attempts S (record S i stored (failureOf S request (request.email S) reason) reason.error
      d) := by
  rcases record_cases i stored request (request.email S) reason reason.error d with
    ⟨loginFailures, -, recorded⟩ | failed
  · rw [recorded]
    refine attempts.move ⟨⟨List.Subset.refl _, List.Subset.refl _, List.subset_cons_self _ _⟩,
      found, rfl, fun _ => rfl⟩ ?_ rfl
    refine ⟨(fun _ eq => nomatch eq), (fun _ eq => nomatch eq), (fun _ _ eq => nomatch eq), ?_⟩
    intro reason' eq
    simp only [Phase.answered.injEq, Except.error.injEq] at eq
    rw [LoginFailureReason.error_injective eq]
    exact List.mem_cons_self
  · rw [failed]
    exact attempts.move ⟨Extends.same rfl rfl rfl, found, rfl, fun _ => rfl⟩
      (sound_of_silent (by decide)) rfl

/-- The handler compares the password for the account that was charged. -/
theorem handle_cases (request : AuthRequest) (user : Option Principal) :
    (∃ error, handle S request user = .answered (.error error) ∧
        (Phase.answered (.error error)).silent = true) ∨
      ∃ password held, handle S request user = .comparing (request.email S) password held := by
  cases request with
  | login ip body =>
    simp only [handle]
    cases read : loginSchema S body with
    | none => exact .inl ⟨_, rfl, by decide⟩
    | some accepted =>
      obtain ⟨email, password⟩ := accepted
      have charged : email = (AuthRequest.login ip body).email S := email_of_loginSchema read
      refine .inr ⟨password, user, ?_⟩
      rw [charged]
  | bootstrapPassword ip sessionId principal body =>
    simp only [handle]
    cases bootstrapPasswordSchema body with
    | none => exact .inl ⟨_, rfl, by decide⟩
    | some accepted =>
      simp only
      split
      · exact .inl ⟨_, rfl, by decide⟩
      · exact .inr ⟨_, _, rfl⟩

theorem Attempts.handle (attempts : Attempts S d) {request : AuthRequest}
    (found : d.attempts[i]? = some ⟨request, .admitted⟩) (user : Option Principal) :
    Attempts S (d.setPhase i (handle S request user)) := by
  refine attempts.move ⟨Extends.same rfl rfl rfl, found, rfl,
    fun early => absurd early (by simp [Phase.compared])⟩ ?_ rfl
  rcases handle_cases (S := S) request user with ⟨error, answered, silent⟩ | ⟨password, held, eq⟩
  · rw [answered]
    exact sound_of_silent silent
  · rw [eq]
    have paid := (attempts.sound i _ found).all_paid rfl
    refine sound_of_paid ?_ rfl ?_ (fun _ _ eq => nomatch eq)
    · exact fun b member => (Extends.same rfl rfl rfl).granted (paid b member)
    · intro email same
      cases same
      rfl

theorem afterComparison_cases (email : String) (user : Option Principal) (valid : Bool) :
    afterComparison email user valid = .failing email ∨
      ∃ held, user = some held ∧ afterComparison email user valid = .verified email held := by
  cases user with
  | none => exact .inl rfl
  | some held =>
    cases valid with
    | false => exact .inl rfl
    | true => exact .inr ⟨held, rfl, rfl⟩

theorem Attempts.compare (attempts : Attempts S d) {request : AuthRequest}
    {email password : String} {user : Option Principal}
    (found : d.attempts[i]? = some ⟨request, .comparing email password user⟩) (valid : Bool) :
    Attempts S (comparePassword i email password user valid d) := by
  have sound := attempts.sound i _ found
  have account : email = request.email S := sound.email email rfl
  have paid := sound.all_paid rfl
  have more : Extends d (comparePassword i email password user valid d) :=
    ⟨List.Subset.refl _, List.subset_cons_self _ _, List.Subset.refl _⟩
  have moves : Moves d (comparePassword i email password user valid d) i
      ⟨request, .comparing email password user⟩ (afterComparison email user valid) :=
    ⟨more, found, rfl, fun early => absurd early (by simp [Phase.compared])⟩
  have paid' : ∀ b ∈ request.budgets S,
      Granted (comparePassword i email password user valid d) i b :=
    fun b member => more.granted (paid b member)
  -- No guess of this attempt was made before, since a guess moves its attempt on.
  have first : ∀ guess ∈ d.guesses, guess.attempt ≠ i := by
    intro guess member same
    obtain ⟨b, unmoved, compared, -⟩ := attempts.guesses guess member
    rw [same, found] at unmoved
    cases unmoved
    cases compared
  refine ⟨moves.sound attempts ?_, ?_, ?_⟩
  · rcases afterComparison_cases email user valid with failing | ⟨held, same, verified⟩
    · rw [failing]
      exact sound_of_paid paid' rfl (fun _ eq => by cases eq; exact account)
        (fun _ _ eq => nomatch eq)
    · rw [verified]
      refine sound_of_paid paid' rfl (fun _ eq => by cases eq; exact account) ?_
      intro _ held' eq
      cases eq
      refine ⟨⟨i, email, password, hashOf user⟩, List.mem_cons_self, rfl, ?_⟩
      rw [same]
      rfl
  · intro guess member
    rcases List.mem_cons.mp member with rfl | member
    · refine ⟨_, moves.at_same, ?_, account, paid'⟩
      rcases afterComparison_cases email user valid with failing | ⟨held, same, verified⟩
      · rw [failing]
        rfl
      · rw [verified]
        rfl
    · exact moves.guess (attempts.guesses guess member)
  · have apart : i ∉ d.guesses.map (·.attempt) := by
      intro member
      obtain ⟨guess, there, same⟩ := List.mem_map.mp member
      exact first guess there same
    exact List.nodup_cons.mpr ⟨apart, attempts.once⟩

theorem Attempts.finishLogin (attempts : Attempts S d) {request : AuthRequest} {email : String}
    {user : Principal} (found : d.attempts[i]? = some ⟨request, .verified email user⟩)
    (created : Bool) : Attempts S (finishLogin i email user created d) := by
  have sound := attempts.sound i _ found
  have failing {d' : Server B} (more : Extends d d') :
      Attempt.Sound S d' i ⟨request, .failing email⟩ :=
    sound_of_paid (fun b member => more.granted (sound.all_paid rfl b member)) rfl
      (fun _ eq => by cases eq; exact sound.email email rfl) (fun _ _ eq => nomatch eq)
  unfold auth.finishLogin
  simp only
  split
  · exact attempts.move ⟨Extends.same rfl rfl rfl, found, rfl, fun _ => rfl⟩
      (failing (Extends.same rfl rfl rfl)) rfl
  · cases created with
    | true =>
      exact attempts.move ⟨Extends.same rfl rfl rfl, found, rfl, fun _ => rfl⟩
        (sound_of_silent rfl) rfl
    | false =>
      exact attempts.move ⟨Extends.same rfl rfl rfl, found, rfl, fun _ => rfl⟩
        (failing (Extends.same rfl rfl rfl)) rfl

theorem Attempts.finishRotation (attempts : Attempts S d) {request : AuthRequest}
    (found : d.attempts[i]? = some ⟨request, phase⟩) (reused rotated : Bool) :
    Attempts S (d.setPhase i (finishRotation reused rotated)) := by
  have silent : (auth.finishRotation reused rotated).silent = true := by
    cases reused <;> cases rotated <;> decide
  have compared : (auth.finishRotation reused rotated).compared = true := by
    cases reused <;> cases rotated <;> rfl
  exact attempts.move ⟨Extends.same rfl rfl rfl, found, rfl, fun _ => compared⟩
    (sound_of_silent silent) rfl

/-! ## Runs -/

/-- A session is asked for after a comparison with the hash of its user, and for no longer than
the password of the user may be used. -/
structure Asked.Sound (d : Server B) (q : Asked) : Prop where
  compared : Compared d q.attempt q.user
  lasts : q.issuedAt < q.expiresAt
  full : q.full = true → bootstrapExpiry q.user = none ∧ q.expiresAt = q.issuedAt + 3600000
  rotation : q.full = false → ∃ expiry, q.user.bootstrapPasswordExpiresAt = some expiry ∧
    q.expiresAt ≤ expiry ∧ q.expiresAt ≤ q.issuedAt + 600000

structure Reached (S : Service) (counting : Counting B 60000) (start : Int) (d : Server B) :
    Prop where
  inBudget : InBudget S counting d
  attempts : Attempts S d
  started : start ≤ d.clock
  times : ∀ g ∈ d.grants, start ≤ g.time
  log : d.loginFailures.length ≤ LOGIN_FAILURE_MAX_RECORDS
  asked : ∀ q ∈ d.asked, q.Sound d

variable {start : Int}

theorem Asked.Sound.mono {q : Asked} (sound : q.Sound d) (more : Extends d d') : q.Sound d' := by
  refine ⟨?_, sound.lasts, sound.full, sound.rotation⟩
  obtain ⟨guess, member, own⟩ := sound.compared
  exact ⟨guess, more.guesses member, own⟩

/-- Steps that pay no budget, make no record and ask for no session. -/
theorem Reached.same (reached : Reached S counting start d) (attempts : Attempts S d')
    (more : Extends d d') (clock : d.clock ≤ d'.clock) (budget : d'.budget = d.budget)
    (grants : d'.grants = d.grants) (refusals : d'.refusals = d.refusals)
    (counted : d'.counted = d.counted)
    (log : d'.loginFailures.length ≤ LOGIN_FAILURE_MAX_RECORDS)
    (asked : ∀ q ∈ d'.asked, q ∈ d.asked ∨ q.Sound d') : Reached S counting start d' := by
  refine ⟨reached.inBudget.same clock budget grants refusals counted, attempts,
    reached.started.trans clock, ?_, log, ?_⟩
  · rw [grants]
    exact reached.times
  · intro q member
    rcases asked q member with old | new
    · exact (reached.asked q old).mono more
    · exact new

theorem asked_of_finishLogin (attempts : Attempts S d) {request : AuthRequest} {email : String}
    {user : Principal} (found : d.attempts[i]? = some ⟨request, .verified email user⟩)
    (created : Bool) :
    ∀ q ∈ (finishLogin i email user created d).asked,
      q ∈ d.asked ∨ q.Sound (finishLogin i email user created d) := by
  obtain ⟨guess, there, own⟩ := (attempts.sound i _ found).verified email user rfl
  intro q member
  unfold finishLogin at member ⊢
  simp only at member ⊢
  split at member
  · exact .inl member
  · rename_i long
    rcases List.mem_cons.mp member with rfl | member
    · right
      rw [if_neg long]
      refine ⟨⟨guess, there, own⟩, ?_, ?_, ?_⟩
      · simp only
        omega
      · intro full
        have none : bootstrapExpiry user = none := Option.isNone_iff_eq_none.mp full
        refine ⟨none, ?_⟩
        simp only [lifetimeSeconds, none, SESSION_LIFETIME_SECONDS]
        omega
      · intro rotation
        obtain ⟨expiry, marked⟩ := Option.isSome_iff_exists.mp
          (Option.isNone_eq_false_iff.mp rotation)
        refine ⟨expiry, (Option.filter_eq_some_iff.mp marked).1, ?_, ?_⟩
        · simp only [lifetimeSeconds, marked]
          omega
        · simp only [lifetimeSeconds, marked, BOOTSTRAP_ROTATION_SESSION_LIFETIME_SECONDS]
          omega
    · exact .inl member

theorem finishLogin_cases (i : Nat) (email : String) (user : Principal) (created : Bool)
    (d : Server B) : ∃ phase asked, finishLogin i email user created d =
      { d.setPhase i phase with asked := asked } := by
  unfold finishLogin
  simp only
  split
  · exact ⟨_, d.asked, rfl⟩
  · exact ⟨_, _, rfl⟩

/-- A call for a budget changes what is paid, and nothing else. -/
structure Pays (d d' : Server B) : Prop extends Extends d d' where
  clock : d'.clock = d.clock
  loginFailures : d'.loginFailures = d.loginFailures
  asked : d'.asked = d.asked
  paid : ∀ g ∈ d'.grants, g ∈ d.grants ∨ g.time = d.clock

theorem consume_pays (i : Nat) (reply : Reply) (b : Budget) (left : List Budget) (d : Server B) :
    Pays d (consume S i reply b left d) := by
  show Pays d (afterBudget i b left (d.enforce reply (b.key S) b.maximum).2
    (d.enforce reply (b.key S) b.maximum).1)
  cases (d.enforce reply (b.key S) b.maximum).1 with
  | ok _ =>
    refine ⟨⟨List.subset_cons_self _ _, List.Subset.refl _, List.Subset.refl _⟩, rfl, rfl, rfl, ?_⟩
    intro g member
    rcases List.mem_cons.mp member with rfl | member
    · exact .inr rfl
    · exact .inl member
  | error error =>
    unfold afterBudget
    simp only
    split
    · exact ⟨Extends.same rfl rfl rfl, rfl, rfl, rfl, fun _ member => .inl member⟩
    · exact ⟨Extends.same rfl rfl rfl, rfl, rfl, rfl, fun _ member => .inl member⟩

theorem Reached.record (reached : Reached S counting start d) {request : AuthRequest}
    (found : d.attempts[i]? = some ⟨request, phase⟩) (stored : Bool)
    (reason : LoginFailureReason) :
    Reached S counting start
      (record S i stored (failureOf S request (request.email S) reason) reason.error d) := by
  have attempts := reached.attempts.record found stored reason
  rcases record_cases i stored request (request.email S) reason reason.error d with
    ⟨loginFailures, short, recorded⟩ | failed
  · rw [recorded] at attempts ⊢
    exact reached.same attempts
      ⟨List.Subset.refl _, List.Subset.refl _, List.subset_cons_self _ _⟩ (le_refl _) rfl rfl rfl
      rfl short fun _ member => .inl member
  · rw [failed] at attempts ⊢
    exact reached.same attempts (Extends.same rfl rfl rfl) (le_refl _) rfl rfl rfl rfl
      reached.log fun _ member => .inl member

theorem Reached.step (reached : Reached S counting start d) {event : Event}
    (stepped : stepServer S d event = some d') : Reached S counting start d' := by
  have attempts := reached.attempts
  cases event with
  | pass milliseconds =>
    cases stepped
    refine reached.same ?_ (Extends.same rfl rfl rfl) ?_ rfl rfl rfl rfl reached.log
      fun _ member => .inl member
    · exact attempts.arrive [] (by simp) rfl rfl rfl
    · simp
  | arrive request =>
    cases stepped
    exact reached.same (attempts.arrive [request] rfl rfl rfl rfl) (Extends.same rfl rfl rfl)
      (le_refl _) rfl rfl rfl rfl reached.log fun _ member => .inl member
  | elsewhere key maximum reply =>
    cases stepped
    have more : Extends d (d.enforce reply key maximum).2 := Extends.same rfl rfl rfl
    refine ⟨reached.inBudget.elsewhere key maximum reply,
      attempts.arrive [] (by simp [Server.enforce]) rfl rfl rfl, reached.started, reached.times,
      reached.log, ?_⟩
    intro q member
    exact (reached.asked q member).mono more
  | consume i reply =>
    simp only [stepServer] at stepped
    split at stepped
    · rename_i request b left found
      cases stepped
      have pays := consume_pays (S := S) i reply b left d
      refine ⟨reached.inBudget.consume i reply b left, attempts.consume found reply, ?_, ?_, ?_, ?_⟩
      · rw [pays.clock]
        exact reached.started
      · intro g member
        rcases pays.paid g member with old | now
        · exact reached.times g old
        · rw [now]
          exact reached.started
      · rw [pays.loginFailures]
        exact reached.log
      · intro q member
        rw [pays.asked] at member
        exact (reached.asked q member).mono pays.toExtends
    · cases stepped
  | record i stored =>
    simp only [stepServer] at stepped
    split at stepped
    · rename_i request found
      cases stepped
      exact reached.record found stored .rateLimited
    · rename_i request email found
      cases stepped
      rw [(attempts.sound i _ found).email email rfl]
      exact reached.record found stored .invalidCredentials
    · cases stepped
  | handle i user =>
    simp only [stepServer] at stepped
    split at stepped
    · rename_i request found
      cases stepped
      exact reached.same (attempts.handle found user) (Extends.same rfl rfl rfl) (le_refl _) rfl rfl
        rfl rfl reached.log fun _ member => .inl member
    · cases stepped
  | compare i valid =>
    simp only [stepServer] at stepped
    split at stepped
    · rename_i request email password user found
      cases stepped
      exact reached.same (attempts.compare found valid)
        ⟨List.Subset.refl _, List.subset_cons_self _ _, List.Subset.refl _⟩ (le_refl _) rfl rfl rfl
        rfl reached.log fun _ member => .inl member
    · cases stepped
  | finish i reused done =>
    simp only [stepServer] at stepped
    split at stepped
    · rename_i ip body email user found
      cases stepped
      have asked := asked_of_finishLogin attempts found done
      have next := attempts.finishLogin found done
      obtain ⟨phase, sessions, same⟩ := finishLogin_cases i email user done d
      rw [same] at asked next ⊢
      exact reached.same next (Extends.same rfl rfl rfl) (le_refl _) rfl rfl rfl rfl reached.log
        asked
    · rename_i ip sessionId principal body email user found
      cases stepped
      exact reached.same (attempts.finishRotation found reused done) (Extends.same rfl rfl rfl)
        (le_refl _) rfl rfl rfl rfl reached.log fun _ member => .inl member
    · cases stepped

theorem reached_start (S : Service) (counting : Counting B 60000) (start : Int) :
    Reached S counting start (Server.start B start) := by
  refine ⟨inBudget_start start, ⟨?_, ?_, List.nodup_nil⟩, le_refl _, ?_, Nat.zero_le _, ?_⟩ <;>
    simp [Server.start]

theorem Reached.run {events : List Event} (reached : Reached S counting start d)
    (ran : runServer S d events = some d') : Reached S counting start d' := by
  induction events generalizing d with
  | nil =>
    cases ran
    exact reached
  | cons event rest ih =>
    obtain ⟨d₁, stepped, ran⟩ := Option.bind_eq_some_iff.mp ran
    exact ih (reached.step stepped) ran

/-! ## The guesses run out -/

/-- The attempt of the guess has paid the budget from the time `since` on. -/
def Guess.paidSince (d : Server B) (b : Budget) (since : Int) (guess : Guess) : Bool :=
  d.grants.any fun g => decide (g.attempt = guess.attempt) && g.pays b since

/-- No two guesses share a grant. -/
theorem Attempts.guesses_le_grants (attempts : Attempts S d) (b : Budget) (since : Int) :
    d.guesses.countP (Guess.paidSince d b since) ≤ d.grants.countP (Grant.pays b since) := by
  have nodup : ((d.guesses.filter (Guess.paidSince d b since)).map (·.attempt)).Nodup :=
    attempts.once.sublist (List.filter_sublist.map _)
  have subset : (d.guesses.filter (Guess.paidSince d b since)).map (·.attempt) ⊆
      (d.grants.filter (Grant.pays b since)).map (·.attempt) := by
    intro attempt member
    obtain ⟨guess, there, rfl⟩ := List.mem_map.mp member
    obtain ⟨g, granted, own⟩ := List.any_eq_true.mp (List.mem_filter.mp there).2
    simp only [Bool.and_eq_true, decide_eq_true_eq] at own
    exact List.mem_map.mpr ⟨g, List.mem_filter.mpr ⟨granted, own.2⟩, own.1⟩
  have shorter := (nodup.subperm subset).length_le
  rw [List.length_map, List.length_map] at shorter
  rwa [List.countP_eq_length_filter, List.countP_eq_length_filter]

theorem Reached.guesses_le (reached : Reached S counting start d) (b : Budget) {since : Int}
    (earlier : since ≤ d.clock) :
    (d.guesses.countP (Guess.paidSince d b since) : Int) ≤
      b.maximum * ((d.clock - since) / 60000 + 2) := by
  obtain ⟨counters, entries, ledger, settled⟩ := reached.inBudget
  calc (d.guesses.countP (Guess.paidSince d b since) : Int)
      ≤ d.grants.countP (Grant.pays b since) :=
        Int.ofNat_le.mpr (reached.attempts.guesses_le_grants b since)
    _ ≤ (on (b.key S) entries).countP (Seen.within b.maximum since) :=
        Int.ofNat_le.mpr (settled.grants b since)
    _ ≤ b.maximum * ((d.clock - since) / 60000 + 2) :=
        (ledger.counts (b.key S)).countP_within_le (by norm_num) b.maximum earlier

/-- Every guess was paid for by its account since the start. -/
theorem Reached.paidSince_start (reached : Reached S counting start d) {guess : Guess}
    (member : guess ∈ d.guesses) :
    guess.paidSince d (accountBudget guess.account) start = true := by
  obtain ⟨a, -, -, account, granted⟩ := reached.attempts.guesses guess member
  have charged : accountBudget guess.account ∈ a.request.budgets S := by
    rw [account]
    cases a.request with
    | login ip body => simp [AuthRequest.budgets]
    | bootstrapPassword ip sessionId principal body => simp [AuthRequest.budgets]
  obtain ⟨g, there, attempt, same⟩ := granted _ charged
  refine List.any_eq_true.mpr ⟨g, there, ?_⟩
  simp [Grant.pays, attempt, same, reached.times g there]

theorem Reached.account_guesses_le (reached : Reached S counting start d) (account : String) :
    (d.guesses.countP (fun guess => decide (guess.account = account)) : Int) ≤
      10 * ((d.clock - start) / 60000 + 2) := by
  have counted : d.guesses.countP (fun guess => decide (guess.account = account)) ≤
      d.guesses.countP (Guess.paidSince d (accountBudget account) start) := by
    apply List.countP_mono_left
    intro guess member own
    rw [← of_decide_eq_true own]
    exact reached.paidSince_start member
  exact (Int.ofNat_le.mpr counted).trans (reached.guesses_le (accountBudget account)
    reached.started)

/-- In every run of logins and changes of bootstrap passwords side by side, with either store of
budgets: each password that is compared was paid for by its account, its source and, in a
rotation, its session; so no budget lets more guesses through than its maximum for each minute
that has begun, and as many again. No request is refused before its budget has been used up in
the last minute. No failure is answered before it is on record, and a session is asked for only
after a comparison with the hash of its user, for an hour, or for ten minutes at most and no
longer than the bootstrap password is good for. -/
theorem password_guesses_run_out (S : Service) (store : BudgetStore) (start : Int)
    (events : List Event) (d : Server store.budget)
    (ran : runServer S (Server.start store.budget start) events = some d) :
    (∀ guess ∈ d.guesses, ∃ a, d.attempts[guess.attempt]? = some a ∧
      guess.account = a.request.email S ∧ ∀ b ∈ a.request.budgets S, Granted d guess.attempt b) ∧
    (∀ b since, since ≤ d.clock →
      (d.guesses.countP (Guess.paidSince d b since) : Int) ≤
        b.maximum * ((d.clock - since) / 60000 + 2)) ∧
    (∀ account, (d.guesses.countP (fun guess => decide (guess.account = account)) : Int) ≤
      10 * ((d.clock - start) / 60000 + 2)) ∧
    (∀ r ∈ d.refusals, r.budget.maximum < hitsBefore d.counted (r.budget.key S) r.time) ∧
    (∀ i (a : Attempt) (reason : LoginFailureReason), d.attempts[i]? = some a →
      a.phase = .answered (.error reason.error) →
      (i, failureOf S a.request (a.request.email S) reason) ∈ d.recorded) ∧
    d.loginFailures.length ≤ LOGIN_FAILURE_MAX_RECORDS ∧
    ∀ q ∈ d.asked, q.Sound d := by
  have reached := (reached_start S (store.counting (by norm_num)) start).run ran
  refine ⟨?_, ?_, reached.account_guesses_le, ?_, ?_, reached.log, reached.asked⟩
  · intro guess member
    obtain ⟨a, found, -, account, granted⟩ := reached.attempts.guesses guess member
    exact ⟨a, found, account, granted⟩
  · intro b since earlier
    exact reached.guesses_le b earlier
  · obtain ⟨counters, entries, ledger, settled⟩ := reached.inBudget
    exact settled.refusals
  · intro i a reason found answered
    exact (reached.attempts.sound i a found).recorded reason answered

/-! ## A front desk -/

/-- Eleven logins of one source, for one account, with a wrong password. -/
def frontDesk : Service where
  platform := cms
  node := node
  pairingCodePepper := "pepper"
  toLowerCase text := String.ofList (text.toList.map Char.toLower)
  isEmail text := text.toList.contains '@'

def wrongLogin (i : Nat) : List Event :=
  [.arrive (.login "198.51.100.7" (some (.obj [("email", .str " Eve@Example.test"),
      ("password", .str "not this one")]))),
    .consume i .answered, .consume i .answered, .handle i none, .compare i false, .record i true]

/-- The last login is refused for its source. -/
def elevenLogins : List Event :=
  (List.range 10).flatMap wrongLogin ++
    [.pass 1000, .arrive (.login "198.51.100.7" (some (.obj []))), .consume 10 .answered,
      .record 10 true]

theorem the_eleventh_login_is_refused :
    ∃ d : Server BudgetStore.memory.budget,
      runServer frontDesk (Server.start BudgetStore.memory.budget 0) elevenLogins = some d ∧
      d.guesses.length = 10 ∧ d.refusals.length = 1 ∧
      (d.guesses.countP (fun guess => decide (guess.account = "eve@example.test")) : Int) ≤ 20 := by
  have facts : ((runServer frontDesk (Server.start BudgetStore.memory.budget 0) elevenLogins).map
      fun d => (d.guesses.length, d.refusals.length, d.clock)) = some (10, 1, 1000) := by
    decide +kernel
  obtain ⟨d, ran, same⟩ := Option.map_eq_some_iff.mp facts
  simp only [Prod.mk.injEq] at same
  have bound := (password_guesses_run_out frontDesk .memory 0 elevenLogins d ran).2.2.1
    "eve@example.test"
  refine ⟨d, ran, same.1, same.2.1, bound.trans ?_⟩
  rw [same.2.2]
  decide

end screengoblin.auth
