-- The caches of the wall clock: the formatter of each zone, and the resolved wall minutes under
-- their keys (apps/api/src/utils/schedule.ts). A cached result is the result of the call.
import ScreenGoblin.WallClock

open calendar js

namespace screengoblin.schedule

/-! ## Calls without caches -/

/-- A `Date` holds no time beyond this one. -/
def MAX_TIME : Int := 8640000000000000

def isTimeValue (t : Int) : Bool := decide (-MAX_TIME ≤ t) && decide (t ≤ MAX_TIME)

/-- `formatToParts` throws on a date without a time. A wall value without one makes an offset, and
then an instant, without one. -/
def samplesAreTimes (zone : Zone) (desired : Int) : Bool :=
  (offsetSamples zone desired).all fun sample =>
    isTimeValue sample.instant && isTimeValue (sample.instant + sample.offset)

structure WallCall where
  timeZone : String
  date : CivilDate
  minuteOfDay : Int
  boundary : Boundary
  deriving DecidableEq

/-- `resolveZonedWallMinute` in a zone, with the range of a `Date`. -/
def resolveInZone (zone : Zone) (call : WallCall) : Except String Int :=
  if !samplesAreTimes zone (desiredWall call.date call.minuteOfDay) then
    .error "Invalid time value"
  else resolveZonedWallMinute zone call.date call.minuteOfDay call.boundary

/-- A call that finds nothing in the caches. -/
def resolveWallMinute (zones : ZoneDatabase) (call : WallCall) : Except String Int := do
  let zone ← zoneNamed zones call.timeZone
  resolveInZone zone call

/-! ## The caches -/

def MAX_WALL_MINUTE_CACHE_ENTRIES : Nat := 4096

structure WallCaches where
  formatters : List (String × Zone)
  wallMinuteCache : List (String × Int)

def Boundary.text : Boundary → String
  | .start => "start"
  | .stop => "end"

def WallCall.cacheKey (call : WallCall) : String :=
  call.timeZone ++ "|" ++ toString call.date.year ++ "-" ++ toString call.date.month ++ "-" ++
    toString call.date.day ++ "|" ++ toString call.minuteOfDay ++ "|" ++ call.boundary.text

/-- The formatter of a zone, which a `Map` keeps. -/
def formatterFor (zones : ZoneDatabase) (caches : WallCaches) (timeZone : String) :
    Except String (Zone × WallCaches) :=
  match caches.formatters.lookup timeZone with
  | some zone => .ok (zone, caches)
  | none => do
    let zone ← zoneNamed zones timeZone
    .ok (zone, { caches with formatters := (timeZone, zone) :: caches.formatters })

def remember (caches : WallCaches) (cacheKey : String) (instant : Int) : WallCaches :=
  { caches with
    wallMinuteCache := (cacheKey, instant) ::
      if MAX_WALL_MINUTE_CACHE_ENTRIES ≤ caches.wallMinuteCache.length then []
      else caches.wallMinuteCache }

/-- A call with its caches. -/
def resolveCached (zones : ZoneDatabase) (caches : WallCaches) (call : WallCall) :
    Except String Int × WallCaches :=
  match caches.wallMinuteCache.lookup call.cacheKey with
  | some cached => (.ok cached, caches)
  | none => match formatterFor zones caches call.timeZone with
    | .error message => (.error message, caches)
    | .ok (zone, caches) => match resolveInZone zone call with
      | .error message => (.error message, caches)
      | .ok instant => (.ok instant, remember caches call.cacheKey instant)

/-- What uses the caches: the calls, and the readings of the clock, which make a formatter. -/
inductive CacheUse where
  | resolve (call : WallCall)
  | zonedParts (timeZone : String)

def afterUse (zones : ZoneDatabase) (caches : WallCaches) : CacheUse → WallCaches
  | .resolve call => (resolveCached zones caches call).2
  | .zonedParts timeZone => match formatterFor zones caches timeZone with
    | .ok (_, caches) => caches
    | .error _ => caches

def cachesAfter (zones : ZoneDatabase) (uses : List CacheUse) : WallCaches :=
  uses.foldl (afterUse zones) { formatters := [], wallMinuteCache := [] }

/-! ## The keys -/

/-- The numbers of a call are those of a date and a time of day. -/
def WallCall.Dated (call : WallCall) : Prop :=
  0 ≤ call.date.year ∧ 0 ≤ call.date.month ∧ 0 ≤ call.date.day ∧ 0 ≤ call.minuteOfDay

theorem toList_toString {n : Int} (low : 0 ≤ n) :
    (toString n).toList = Nat.toDigits 10 n.toNat := by
  obtain ⟨k, rfl⟩ := Int.eq_ofNat_of_zero_le low
  show (Int.repr (k : Int)).toList = _
  exact Nat.toList_repr

theorem toString_digits {n : Int} (low : 0 ≤ n) {c : Char} (other : c.isDigit = false) :
    c ∉ (toString n).toList := by
  rw [toList_toString low]
  intro member
  rw [Nat.isDigit_of_mem_toDigits (by decide) (by decide) member] at other
  cases other

theorem eq_of_toString {a b : Int} (low : 0 ≤ a) (low' : 0 ≤ b)
    (same : (toString a).toList = (toString b).toList) : a = b := by
  rw [toList_toString low, toList_toString low'] at same
  have back := congrArg (fun digits => Nat.ofDigitChars 10 digits 0) same
  simp only [Nat.ofDigitChars_ten_toDigits] at back
  omega

/-- Two texts with a separator are the same where neither has another separator behind it. -/
theorem append_separator {c : Char} {a a' b b' : List Char} (last : c ∉ b) (last' : c ∉ b')
    (same : a ++ c :: b = a' ++ c :: b') : a = a' ∧ b = b' := by
  rcases List.append_eq_append_iff.mp same with ⟨middle, left, right⟩ | ⟨middle, left, right⟩
  · cases middle with
    | nil =>
      simp only [List.nil_append, List.cons.injEq, true_and] at right
      simp only [List.append_nil] at left
      exact ⟨left.symm, right⟩
    | cons x middle =>
      simp only [List.cons_append, List.cons.injEq] at right
      rw [right.2] at last
      simp at last
  · cases middle with
    | nil =>
      simp only [List.nil_append, List.cons.injEq, true_and] at right
      simp only [List.append_nil] at left
      exact ⟨left, right.symm⟩
    | cons x middle =>
      simp only [List.cons_append, List.cons.injEq] at right
      rw [right.2] at last'
      simp at last'

theorem boundary_of_text {a b : Boundary} (same : a.text.toList = b.text.toList) : a = b := by
  cases a <;> cases b <;> first | rfl | (revert same; decide)

theorem boundary_noBar (boundary : Boundary) : '|' ∉ boundary.text.toList := by
  cases boundary <;> decide

theorem cacheKey_chars (call : WallCall) : call.cacheKey.toList =
    ((call.timeZone.toList ++ '|' :: (((toString call.date.year).toList ++
      '-' :: (toString call.date.month).toList) ++ '-' :: (toString call.date.day).toList)) ++
      '|' :: (toString call.minuteOfDay).toList) ++ '|' :: call.boundary.text.toList := by
  have bar : "|".toList = ['|'] := rfl
  have dash : "-".toList = ['-'] := rfl
  simp only [WallCall.cacheKey, String.toList_append, bar, dash, List.append_assoc,
    List.cons_append, List.nil_append]

/-- The key of a call says what the call is. -/
theorem cacheKey_injective {call call' : WallCall} (dated : call.Dated) (dated' : call'.Dated)
    (same : call.cacheKey = call'.cacheKey) : call = call' := by
  obtain ⟨year, month, day, minute⟩ := dated
  obtain ⟨year', month', day', minute'⟩ := dated'
  have chars := congrArg String.toList same
  rw [cacheKey_chars, cacheKey_chars] at chars
  -- from the end: the boundary, the minute, the date, and the day and the month of the date
  obtain ⟨chars, boundaries⟩ := append_separator (boundary_noBar _) (boundary_noBar _) chars
  obtain ⟨chars, minutes⟩ := append_separator (toString_digits minute (by decide))
    (toString_digits minute' (by decide)) chars
  have dateNoBar : ∀ {y m d : Int}, 0 ≤ y → 0 ≤ m → 0 ≤ d →
      '|' ∉ ((toString y).toList ++ '-' :: (toString m).toList) ++ '-' :: (toString d).toList := by
    intro y m d hy hm hd
    simp only [List.mem_append, List.mem_cons, not_or]
    have other : '|'.isDigit = false := by decide
    exact ⟨⟨toString_digits hy other, by decide, toString_digits hm other⟩, by decide,
      toString_digits hd other⟩
  obtain ⟨zones, dates⟩ := append_separator (dateNoBar year month day)
    (dateNoBar year' month' day') chars
  obtain ⟨dates, days⟩ := append_separator (toString_digits day (by decide))
    (toString_digits day' (by decide)) dates
  obtain ⟨years, months⟩ := append_separator (toString_digits month (by decide))
    (toString_digits month' (by decide)) dates
  obtain ⟨timeZone, ⟨y, m, d⟩, minuteOfDay, boundary⟩ := call
  obtain ⟨timeZone', ⟨y', m', d'⟩, minuteOfDay', boundary'⟩ := call'
  rw [WallCall.mk.injEq, CivilDate.mk.injEq]
  exact ⟨String.toList_injective zones, ⟨eq_of_toString year year' years,
    eq_of_toString month month' months, eq_of_toString day day' days⟩,
    eq_of_toString minute minute' minutes, boundary_of_text boundaries⟩

/-! ## What the caches hold -/

/-- The caches hold the zones of their names, and the results of calls under their keys. -/
structure CachesHold (zones : ZoneDatabase) (caches : WallCaches) : Prop where
  formatters : ∀ name zone, caches.formatters.lookup name = some zone → zones name = some zone
  wallMinutes : ∀ key instant, (key, instant) ∈ caches.wallMinuteCache → ∃ call : WallCall,
    call.Dated ∧ call.cacheKey = key ∧ resolveWallMinute zones call = .ok instant

def CacheUse.Dated : CacheUse → Prop
  | .resolve call => call.Dated
  | .zonedParts _ => True

variable {zones : ZoneDatabase} {caches : WallCaches}

theorem mem_of_lookup {key : String} {instant : Int} {entries : List (String × Int)}
    (found : entries.lookup key = some instant) : (key, instant) ∈ entries := by
  induction entries with
  | nil => cases found
  | cons entry entries ih =>
    obtain ⟨k, v⟩ := entry
    rw [List.lookup_cons] at found
    cases same : key == k with
    | true =>
      simp only [same, Option.some.injEq] at found
      rw [beq_iff_eq.mp same, found]
      exact List.mem_cons_self
    | false =>
      simp only [same] at found
      exact List.mem_cons_of_mem _ (ih found)

/-- The formatter is that of the zone, from the cache or new. -/
theorem CachesHold.formatterFor (h : CachesHold zones caches) (timeZone : String) :
    (∃ zone caches', zones timeZone = some zone ∧
        schedule.formatterFor zones caches timeZone = .ok (zone, caches') ∧
        CachesHold zones caches') ∨
      ∃ message, zoneNamed zones timeZone = .error message ∧
        schedule.formatterFor zones caches timeZone = .error message := by
  unfold schedule.formatterFor
  cases found : caches.formatters.lookup timeZone with
  | some zone =>
    left
    exact ⟨zone, caches, h.formatters timeZone zone found, rfl, h⟩
  | none =>
    cases known : zones timeZone with
    | none =>
      right
      exact ⟨_, by unfold zoneNamed; rw [known], by unfold zoneNamed; rw [known]; rfl⟩
    | some zone =>
      left
      refine ⟨zone, { caches with formatters := (timeZone, zone) :: caches.formatters }, rfl,
        by unfold zoneNamed; rw [known]; rfl, ?_, h.wallMinutes⟩
      intro name other isFound
      dsimp only at isFound
      rw [List.lookup_cons] at isFound
      cases same : name == timeZone with
      | true =>
        simp only [same, Option.some.injEq] at isFound
        rw [beq_iff_eq.mp same, known, isFound]
      | false =>
        simp only [same] at isFound
        exact h.formatters name other isFound

/-- A call with caches that hold gives what it gives without them, and they hold afterwards. -/
theorem CachesHold.resolve (h : CachesHold zones caches) {call : WallCall} (dated : call.Dated) :
    (resolveCached zones caches call).1 = resolveWallMinute zones call ∧
      CachesHold zones (resolveCached zones caches call).2 := by
  unfold resolveCached
  cases found : caches.wallMinuteCache.lookup call.cacheKey with
  | some cached =>
    obtain ⟨other, otherDated, same, result⟩ := h.wallMinutes _ _ (mem_of_lookup found)
    rw [cacheKey_injective otherDated dated same] at result
    exact ⟨result.symm, h⟩
  | none =>
    rcases h.formatterFor call.timeZone with ⟨zone, caches', known, formatter, holds⟩ |
      ⟨message, unknown, formatter⟩
    · have result : resolveWallMinute zones call = resolveInZone zone call := by
        unfold resolveWallMinute zoneNamed
        rw [known]
        rfl
      dsimp only
      rw [formatter, result]
      dsimp only
      cases resolved : resolveInZone zone call with
      | error message => exact ⟨rfl, holds⟩
      | ok instant =>
        refine ⟨rfl, holds.formatters, ?_⟩
        intro key other member
        dsimp only [remember] at member
        rcases List.mem_cons.mp member with new | old
        · rw [Prod.mk.injEq] at new
          exact ⟨call, dated, new.1.symm, by rw [result, resolved, new.2]⟩
        · split at old
          · cases old
          · exact holds.wallMinutes key other old
    · have result : resolveWallMinute zones call = .error message := by
        unfold resolveWallMinute
        rw [unknown]
        rfl
      dsimp only
      rw [formatter, result]
      exact ⟨rfl, h⟩

theorem CachesHold.use (h : CachesHold zones caches) {use : CacheUse} (dated : use.Dated) :
    CachesHold zones (afterUse zones caches use) := by
  cases use with
  | resolve call => exact (h.resolve dated).2
  | zonedParts timeZone =>
    unfold afterUse
    dsimp only
    rcases h.formatterFor timeZone with ⟨zone, caches', _, formatter, holds⟩ |
      ⟨message, _, formatter⟩
    · rw [formatter]
      exact holds
    · rw [formatter]
      exact h

theorem CachesHold.uses (h : CachesHold zones caches) (uses : List CacheUse)
    (dated : ∀ use ∈ uses, use.Dated) : CachesHold zones (uses.foldl (afterUse zones) caches) := by
  induction uses generalizing caches with
  | nil => exact h
  | cons use rest ih =>
    apply ih (h.use (dated use List.mem_cons_self))
    intro other later
    exact dated other (List.mem_cons_of_mem _ later)

theorem cachesAfter_hold (uses : List CacheUse) (dated : ∀ use ∈ uses, use.Dated) :
    CachesHold zones (cachesAfter zones uses) := by
  apply CachesHold.uses _ uses dated
  constructor
  · intro name zone found
    cases found
  · intro key instant member
    cases member

/-! ## The resolved wall minute -/

/-- The date is one of the calendar. -/
def IsDate (date : CivilDate) : Prop := ∃ days, civilFromDays days = date

theorem IsDate.dated {call : WallCall} (isDate : IsDate call.date) (year : 0 ≤ call.date.year)
    (positive : 0 ≤ call.minuteOfDay) : call.Dated := by
  obtain ⟨days, date⟩ := isDate
  obtain ⟨era, y, month, day, _, _, _, first, last, start, _, parts⟩ := civilFromDays_spec days
  rw [date] at parts
  refine ⟨year, ?_, ?_, positive⟩
  · rw [parts]
    split
    · dsimp only
      omega
    · dsimp only
      omega
  · rw [parts]
    split <;> exact Int.le_trans (by decide) start

theorem samplesAreTimes_early {zone : Zone} {wall : Int} (regular : RegularZone zone)
    (late : firstWall + 4320 ≤ wall) (early : (wall + 4320) * 60000 ≤ MAX_TIME) :
    samplesAreTimes zone (wall * 60000) = true := by
  unfold samplesAreTimes
  rw [offsetSamples_eq, List.all_eq_true]
  intro sample isSample
  obtain ⟨k, bound, rfl⟩ := mem_samplesFrom.mp isSample
  have offset := regular.bounded (wall - 2160 + 360 * k)
  have lateEnough : firstWall ≤ wallMinute zone (wall - 2160 + 360 * k) := by
    unfold wallMinute
    omega
  have shown := shownOffset_minute lateEnough
  unfold sampleAt isTimeValue
  dsimp only
  rw [shown]
  unfold MAX_TIME at *
  unfold firstWall at late
  simp only [Bool.and_eq_true, decide_eq_true_eq]
  omega

theorem resolveWallMinute_spec {call : WallCall} {zone : Zone}
    (known : zones call.timeZone = some zone) (regular : RegularZone zone)
    (isDate : IsDate call.date) (year : 1000 ≤ call.date.year) (positive : 0 ≤ call.minuteOfDay)
    (early : (minuteOfDate call.date call.minuteOfDay + 4320) * 60000 ≤ MAX_TIME) :
    ∃ minute, resolveWallMinute zones call = .ok (minute * 60000) ∧
      ResolvesTo zone (minuteOfDate call.date call.minuteOfDay) call.boundary minute := by
  obtain ⟨days, date⟩ := isDate
  have desired : desiredWall call.date call.minuteOfDay =
      minuteOfDate call.date call.minuteOfDay * 60000 := by
    rw [← date] at year ⊢
    exact desiredWall_date year positive
  have late : firstWall + 4320 ≤ minuteOfDate call.date call.minuteOfDay := by
    rw [← date] at year ⊢
    exact late_of_date year positive
  obtain ⟨minute, resolved, resolves⟩ := resolve_late regular late desired call.boundary
  refine ⟨minute, ?_, resolves⟩
  unfold resolveWallMinute zoneNamed
  rw [known]
  show resolveInZone zone call = _
  unfold resolveInZone
  rw [desired, samplesAreTimes_early regular late early]
  exact resolved

/-- The wall minute of a date resolves to the right instant, up to three days before the last time
that a `Date` holds, and the caches never change a result. The search for a jump ends. -/
theorem a_wall_minute_resolves_within_the_range_of_a_date (zones : ZoneDatabase)
    (uses : List CacheUse) (dated : ∀ use ∈ uses, use.Dated) :
    (∀ call : WallCall, call.Dated →
      (resolveCached zones (cachesAfter zones uses) call).1 = resolveWallMinute zones call) ∧
    (∀ (call : WallCall) (zone : Zone), zones call.timeZone = some zone → RegularZone zone →
      IsDate call.date → 1000 ≤ call.date.year → 0 ≤ call.minuteOfDay →
      (minuteOfDate call.date call.minuteOfDay + 4320) * 60000 ≤ MAX_TIME →
        ∃ minute, (resolveCached zones (cachesAfter zones uses) call).1 = .ok (minute * 60000) ∧
          ResolvesTo zone (minuteOfDate call.date call.minuteOfDay) call.boundary minute) ∧
    ∀ (zone : Zone) (offsetBefore low high : Int),
      Searches zone offsetBefore low high
        (transitionMinute zone offsetBefore (high - low).toNat low high) := by
  have holds : CachesHold zones (cachesAfter zones uses) := cachesAfter_hold uses dated
  refine ⟨?_, ?_, ?_⟩
  · intro call isDated
    exact (holds.resolve isDated).1
  · intro call zone known regular isDate year positive early
    rw [(holds.resolve (isDate.dated (by omega) positive)).1]
    exact resolveWallMinute_spec known regular isDate year positive early
  · intro zone offsetBefore low high
    exact searches_transitionMinute zone offsetBefore _ low high (by omega)

/-! ## A spring night, and the end of time -/

/-- Clocks go forward from two to three on 29 March 2026. -/
def springZone : Zone := fun minute => if minute < 29579100 then 60 else 120

def springZones : ZoneDatabase := fun name =>
  if name = "Europe/Berlin" then some springZone else none

theorem springZone_regular : RegularZone springZone where
  bounded := by
    intro minute
    unfold springZone
    split <;> omega
  sparse := by
    intro earlier later jumps jumps' before
    unfold springZone at jumps jumps'
    split at jumps <;> split at jumps <;> split at jumps' <;> split at jumps' <;> omega

def halfPastTwo (boundary : Boundary) : WallCall :=
  { timeZone := "Europe/Berlin", date := { year := 2026, month := 3, day := 29 },
    minuteOfDay := 150, boundary }

theorem half_past_two_of_a_spring_night_is_resolved :
    ∃ minute, (resolveCached springZones (cachesAfter springZones [.resolve (halfPastTwo .start)])
        (halfPastTwo .stop)).1 = .ok (minute * 60000) ∧
      ResolvesTo springZone (minuteOfDate (halfPastTwo .stop).date 150) .stop minute := by
  have dated : ∀ use ∈ [CacheUse.resolve (halfPastTwo .start)], use.Dated := by
    intro use member
    rw [List.mem_singleton] at member
    subst member
    exact ⟨by decide, by decide, by decide, by decide⟩
  apply (a_wall_minute_resolves_within_the_range_of_a_date springZones _ dated).2.1
    (halfPastTwo .stop) springZone _ springZone_regular
  · exact ⟨daysFromCivil { year := 2026, month := 3, day := 29 }, by decide⟩
  · decide
  · decide
  · decide
  · rfl

/-- A date after the last one that a `Date` holds makes the call throw. -/
theorem a_date_beyond_the_range_throws :
    ¬∀ (zones : ZoneDatabase) (call : WallCall) (zone : Zone),
      zones call.timeZone = some zone → RegularZone zone → IsDate call.date →
        1000 ≤ call.date.year → 0 ≤ call.minuteOfDay → call.minuteOfDay ≤ 1440 →
          ∃ minute, resolveWallMinute zones call = .ok (minute * 60000) ∧
            ResolvesTo zone (minuteOfDate call.date call.minuteOfDay) call.boundary minute := by
  intro every
  have utc : RegularZone fun _ => 0 := ⟨by simp, by simp⟩
  obtain ⟨minute, resolved, _⟩ := every onlyUTC
    { timeZone := "UTC", date := { year := 275761, month := 1, day := 1 }, minuteOfDay := 0,
      boundary := .start } _ (by simp [onlyUTC]) utc
    ⟨daysFromCivil { year := 275761, month := 1, day := 1 }, by decide⟩ (by decide) (by decide)
    (by decide)
  have throws : (resolveWallMinute onlyUTC
      { timeZone := "UTC", date := { year := 275761, month := 1, day := 1 }, minuteOfDay := 0,
        boundary := .start }).toOption = none := by decide +kernel
  rw [resolved] at throws
  cases throws

end screengoblin.schedule
