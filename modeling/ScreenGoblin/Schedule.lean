-- Schedules (apps/api/src/utils/schedule.ts): when a schedule is active, and the playback
-- boundary that the server signs into a manifest. Instants are milliseconds since the
-- epoch; the server keeps them as canonical UTC texts, which order in the same way.
import ScreenGoblin.Calendar
import ScreenGoblin.Json

open calendar js

namespace screengoblin.schedule

/-! ## Schedules and time zones -/

inductive Priority where
  | normal
  | campaign
  | priority
  | emergency
  deriving DecidableEq

/-- The frozen schedule of a release candidate or an assignment. -/
structure FrozenScheduleSnapshot where
  name : String
  priority : Priority
  startsAt : Int
  endsAt : Option Int
  timezone : String
  daysOfWeek : List Int
  dailyStartMinutes : Option Int
  dailyEndMinutes : Option Int
  enabled : Bool
  deriving DecidableEq

/-- A time zone: the offset from UTC, in minutes, in each UTC minute. -/
abbrev Zone := Int → Int

/-- The zones that `Intl.DateTimeFormat` knows. It throws on any other name. -/
abbrev ZoneDatabase := String → Option Zone

def validTimeZone (zones : ZoneDatabase) (value : String) : Bool := (zones value).isSome

structure ZonedParts where
  date : CivilDate
  weekday : Int
  hour : Int
  minute : Int
  deriving DecidableEq

/-- The format has no era, so a year before year 1 reads as a positive one. -/
def shownYear (year : Int) : Int := if year ≤ 0 then 1 - year else year

def zonedParts (zone : Zone) (instant : Int) : ZonedParts :=
  let utcMinute := instant / 60000
  let wallMinute := utcMinute + zone utcMinute
  let date := civilFromDays (wallMinute / 1440)
  { date := { date with year := shownYear date.year }
    weekday := weekday (wallMinute / 1440)
    hour := wallMinute % 1440 / 60
    minute := wallMinute % 60 }

/-- `Date.UTC(year, month - 1, day, 0, minuteOfDay)`, where a year below 100 means 1900 and up. -/
def dateUTC (date : CivilDate) (minuteOfDay : Int) : Int :=
  let year := if 0 ≤ date.year ∧ date.year ≤ 99 then 1900 + date.year else date.year
  (daysFromCivil { date with year := year } * 1440 + minuteOfDay) * 60000

def wallClockValue (parts : ZonedParts) : Int :=
  dateUTC parts.date (parts.hour * 60 + parts.minute)

/-! ## The instant of a wall minute -/

inductive Boundary where
  | start
  | stop
  deriving DecidableEq

structure OffsetSample where
  instant : Int
  offset : Int
  deriving DecidableEq

/-- The offset at an instant, as the wall clock shows it. -/
def shownOffset (zone : Zone) (instant : Int) : Int :=
  wallClockValue (zonedParts zone instant) - instant

/-- Every six hours from 36 hours before the desired wall time to 36 hours after it. -/
def offsetSamples (zone : Zone) (desired : Int) : List OffsetSample :=
  (List.range 13).map fun (k : Nat) =>
    let instant := desired + ((k : Int) * 6 - 36) * 3600000
    { instant, offset := shownOffset zone instant }

def exactInstants (zone : Zone) (desired : Int) : List Int :=
  let offsets := ((offsetSamples zone desired).map OffsetSample.offset).eraseDups
  (offsets.map fun offset => desired - offset).filter fun instant =>
    wallClockValue (zonedParts zone instant) == desired

/-- The binary search for an offset transition, on minutes. It ends once `low` and `high` are
neighbours, and each turn brings them closer, so `high - low` turns are enough. -/
def transitionMinute (zone : Zone) (offsetBefore : Int) : Nat → Int → Int → Int
  | 0, _, high => high
  | turns + 1, low, high =>
    if low + 1 < high then
      let middle := (low + high) / 2
      if shownOffset zone (middle * 60000) = offsetBefore then
        transitionMinute zone offsetBefore turns middle high
      else transitionMinute zone offsetBefore turns low middle
    else high

/-- The first instant after a gap of the wall clock around `desired`. -/
def gapInstant (zone : Zone) (desired : Int) : List OffsetSample → Option Int
  | before :: after :: rest =>
    if before.offset = after.offset then gapInstant zone desired (after :: rest)
    else
      let low := before.instant / 60000
      let high := -(-after.instant / 60000)
      let transition := transitionMinute zone before.offset (high - low).toNat low high
      let priorWall := wallClockValue (zonedParts zone ((transition - 1) * 60000))
      let nextWall := wallClockValue (zonedParts zone (transition * 60000))
      if priorWall < desired ∧ nextWall > desired then some (transition * 60000)
      else gapInstant zone desired (after :: rest)
  | _ => none

/-- The wall time that `minuteOfDay` means on a date, with minute 1440 on the next date. -/
def desiredWall (date : CivilDate) (minuteOfDay : Int) : Int :=
  let normalized := dateUTC date minuteOfDay
  wallClockValue (zonedParts (fun _ => 0) normalized)

/-- A repeated wall time starts late and ends early, and a wall time in a gap moves to the end
of the gap. The caches of the source only keep results of this function. -/
def resolveZonedWallMinute (zone : Zone) (date : CivilDate) (minuteOfDay : Int)
    (boundary : Boundary) : Except String Int :=
  let desired := desiredWall date minuteOfDay
  let exact := exactInstants zone desired
  match exact.head? with
  | some first =>
    .ok (match boundary with
      | .start => exact.foldl max first
      | .stop => exact.foldl min first)
  | none => match gapInstant zone desired (offsetSamples zone desired) with
    | some transition => .ok transition
    | none => .error "Could not resolve wall-clock boundary"

/-! ## The window of a schedule -/

def zoneNamed (zones : ZoneDatabase) (timezone : String) : Except String Zone :=
  match zones timezone with
  | some zone => .ok zone
  | none => .error "Invalid time zone specified"

def schedulePlaybackEndsAt (zones : ZoneDatabase) (schedule : FrozenScheduleSnapshot)
    (instant : Int) : Except String (Option Int) := do
  let daily ← match schedule.dailyEndMinutes with
    | none => .ok none
    | some minute => do
      let zone ← zoneNamed zones schedule.timezone
      let boundary ← resolveZonedWallMinute zone (zonedParts zone instant).date minute .stop
      .ok (if boundary > instant then some boundary else none)
  .ok (match schedule.endsAt, daily with
    | some absolute, some boundary => some (min absolute boundary)
    | absolute, none => absolute
    | none, boundary => boundary)

/-- One side of the daily window, which passes where the schedule leaves that side out. -/
def insideDaily (zone : Zone) (date : CivilDate) (minute : Option Int) (boundary : Boundary)
    (inside : Int → Bool) : Except String Bool :=
  match minute with
  | none => .ok true
  | some minute => do
    let edge ← resolveZonedWallMinute zone date minute boundary
    .ok (inside edge)

/-- Whether the schedule runs on a day of the week. No day at all means every day. -/
def onWeekday (schedule : FrozenScheduleSnapshot) (weekday : Int) : Bool :=
  schedule.daysOfWeek.isEmpty || schedule.daysOfWeek.contains weekday

/-- The three tests that `matchesScheduleWindow` makes in this order, on the day of `localParts`. -/
def insideWindow (zone : Zone) (schedule : FrozenScheduleSnapshot) (localParts : ZonedParts)
    (instant : Int) : Except String Bool :=
  if onWeekday schedule localParts.weekday then do
    let afterStart ← insideDaily zone localParts.date schedule.dailyStartMinutes .start
      (fun start => decide (start ≤ instant))
    if afterStart then
      insideDaily zone localParts.date schedule.dailyEndMinutes .stop
        (fun stop => decide (instant < stop))
    else .ok false
  else .ok false

def matchesScheduleWindow (zones : ZoneDatabase) (schedule : FrozenScheduleSnapshot)
    (instant : Int) : Except String Bool := do
  let zone ← zoneNamed zones schedule.timezone
  insideWindow zone schedule (zonedParts zone instant) instant

/-- A test that throws lets nothing through. -/
def passed : Except String Bool → Bool
  | .ok inside => inside
  | .error _ => false

/-- An absolute end, where there is one, is still ahead. -/
def beforeEnd (schedule : FrozenScheduleSnapshot) (instant : Int) : Bool :=
  schedule.endsAt.all fun endsAt => decide (instant < endsAt)

/-- The tests of `activeOrdinaryReleases` on the schedule of an assignment. -/
def isActiveAt (zones : ZoneDatabase) (schedule : FrozenScheduleSnapshot)
    (instant : Int) : Bool :=
  schedule.enabled && decide (schedule.startsAt ≤ instant) && beforeEnd schedule instant &&
    passed (matchesScheduleWindow zones schedule instant)

/-- What the body of a release candidate asks of its schedule, after the name is trimmed. -/
def acceptedSchedule (zones : ZoneDatabase) (schedule : FrozenScheduleSnapshot) : Bool :=
  decide (1 ≤ utf16Length schedule.name) && decide (utf16Length schedule.name ≤ 140) &&
    schedule.priority != .emergency &&
    decide (1 ≤ utf16Length schedule.timezone) && decide (utf16Length schedule.timezone ≤ 80) &&
    validTimeZone zones schedule.timezone &&
    decide (schedule.daysOfWeek.length ≤ 7) &&
    schedule.daysOfWeek.all (fun d => decide (0 ≤ d ∧ d ≤ 6)) &&
    schedule.dailyStartMinutes.all (fun m => decide (0 ≤ m ∧ m ≤ 1439)) &&
    schedule.dailyEndMinutes.all (fun m => decide (1 ≤ m ∧ m ≤ 1440)) &&
    schedule.endsAt.all (fun e => decide (schedule.startsAt < e)) &&
    (match schedule.dailyStartMinutes, schedule.dailyEndMinutes with
      | some start, some stop => decide (start < stop)
      | _, _ => true)

/-! ## The window of a local day -/

@[simp]
theorem passed_eq_true (r : Except String Bool) : passed r = true ↔ r = .ok true := by
  cases r <;> simp [passed]

theorem isActiveAt_iff (zones : ZoneDatabase) (schedule : FrozenScheduleSnapshot) (t : Int) :
    isActiveAt zones schedule t = true ↔
      schedule.enabled = true ∧ schedule.startsAt ≤ t ∧ beforeEnd schedule t = true ∧
        matchesScheduleWindow zones schedule t = .ok true := by
  unfold isActiveAt
  simp [and_assoc]

theorem insideDaily_ok (zone : Zone) (date : CivilDate) (minute : Option Int)
    (boundary : Boundary) (inside : Int → Bool) :
    insideDaily zone date minute boundary inside = .ok true ↔
      ∀ m, minute = some m → ∃ edge,
        resolveZonedWallMinute zone date m boundary = .ok edge ∧ inside edge = true := by
  unfold insideDaily
  cases minute with
  | none => simp
  | some m =>
    cases h : resolveZonedWallMinute zone date m boundary with
    | error e => simp [h, bind, Except.bind]
    | ok edge => simp [h, bind, Except.bind]

/-- The window of a local day holds an instant when all three tests pass. -/
theorem insideWindow_ok (zone : Zone) (schedule : FrozenScheduleSnapshot)
    (localParts : ZonedParts) (t : Int) :
    insideWindow zone schedule localParts t = .ok true ↔
      onWeekday schedule localParts.weekday = true ∧
      insideDaily zone localParts.date schedule.dailyStartMinutes .start
        (fun start => decide (start ≤ t)) = .ok true ∧
      insideDaily zone localParts.date schedule.dailyEndMinutes .stop
        (fun stop => decide (t < stop)) = .ok true := by
  unfold insideWindow
  by_cases day : onWeekday schedule localParts.weekday = true
  · cases h : insideDaily zone localParts.date schedule.dailyStartMinutes .start
      (fun start => decide (start ≤ t)) with
    | error e => simp [day, bind, Except.bind]
    | ok afterStart => cases afterStart <;> simp [day, bind, Except.bind]
  · simp [day]

theorem matchesScheduleWindow_of_zone (zones : ZoneDatabase) (schedule : FrozenScheduleSnapshot)
    (t : Int) (zone : Zone) (known : zones schedule.timezone = some zone) :
    matchesScheduleWindow zones schedule t =
      insideWindow zone schedule (zonedParts zone t) t := by
  unfold matchesScheduleWindow zoneNamed
  simp [known, bind, Except.bind]

/-! ## Mondays -/

def onlyUTC : ZoneDatabase := fun name => if name = "UTC" then some fun _ => 0 else none

/-- Monday, 5 January 2026, at an hour of the day. -/
def mondayAt (hour : Int) : Int := (20458 * 24 + hour) * 3600000

def mondays (dailyStartMinutes dailyEndMinutes : Option Int) : FrozenScheduleSnapshot :=
  { name := "Mondays", priority := .normal, startsAt := mondayAt 0 - 4 * 86400000, endsAt := none,
    timezone := "UTC", daysOfWeek := [1], dailyStartMinutes, dailyEndMinutes, enabled := true }

end screengoblin.schedule
