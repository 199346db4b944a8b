-- The playback boundary against the window of the schedule (schedulePlaybackEndsAt and
-- matchesScheduleWindow in apps/api/src/utils/schedule.ts). The boundary is the end of the local
-- day that the manifest was made on, so it comes too late where that day has no end.
import ScreenGoblin.DailyWindow

open calendar js

namespace screengoblin.schedule

/-! ## The end of a local day on the clock -/

/-- What the clock of a zone shows at an instant, as the `Date.UTC` of its parts. -/
def clockAt (zone : Zone) (instant : Int) : Int := wallClockValue (zonedParts zone instant)

/-- The clock shows the wall time, with an offset that it also has at one of the six-hour marks
within 36 hours of the wall time. -/
structure Shows (zone : Zone) (wall instant : Int) : Prop where
  shown : clockAt zone instant = wall
  marked : ∃ k : Nat, k < 13 ∧
    shownOffset zone (wall + ((k : Int) * 6 - 36) * 3600000) = wall - instant

/-- The clock leaps over the wall time in this minute, within 36 hours of the wall time. -/
structure Leaps (zone : Zone) (wall minute : Int) : Prop where
  after : wall - 36 * 3600000 < minute * 60000
  before : minute * 60000 ≤ wall + 36 * 3600000
  from_earlier : clockAt zone ((minute - 1) * 60000) < wall
  to_later : wall < clockAt zone (minute * 60000)

/-- The clock has come to the wall time. A wall time that it never shows comes with a leap. -/
def ComesTo (zone : Zone) (wall instant : Int) : Prop :=
  (∃ shown, shown ≤ instant ∧ Shows zone wall shown) ∨
    (¬∃ shown, Shows zone wall shown) ∧ ∃ minute, minute * 60000 ≤ instant ∧ Leaps zone wall minute

/-- The clock has come to the wall time, whichever of its leaps counts. -/
def SurelyComesTo (zone : Zone) (wall instant : Int) : Prop :=
  (∃ shown, shown ≤ instant ∧ Shows zone wall shown) ∨
    (¬∃ shown, Shows zone wall shown) ∧ ∀ minute, Leaps zone wall minute → minute * 60000 ≤ instant

/-- A wall time that the clock never shows is in one leap. -/
def LeapsOnce (zone : Zone) (wall : Int) : Prop :=
  (¬∃ shown, Shows zone wall shown) →
    ∀ minute minute', Leaps zone wall minute → Leaps zone wall minute' → minute = minute'

section clock

variable {zone : Zone} {wall : Int}

theorem mem_exactInstants_iff {instant : Int} :
    instant ∈ exactInstants zone wall ↔ Shows zone wall instant := by
  unfold exactInstants offsetSamples
  simp only [List.mem_filter, List.mem_map, List.mem_eraseDups, List.mem_range, beq_iff_eq]
  constructor
  · rintro ⟨⟨_, ⟨_, ⟨k, bound, rfl⟩, rfl⟩, rfl⟩, shown⟩
    refine ⟨shown, k, bound, ?_⟩
    dsimp only
    omega
  · rintro ⟨shown, k, bound, marked⟩
    exact ⟨⟨_, ⟨_, ⟨k, bound, rfl⟩, rfl⟩, by dsimp only; omega⟩, shown⟩

theorem transitionMinute_bounds (offsetBefore : Int) (turns : Nat) {low high : Int}
    (apart : low < high) :
    low < transitionMinute zone offsetBefore turns low high ∧
      transitionMinute zone offsetBefore turns low high ≤ high := by
  induction turns generalizing low high with
  | zero => exact ⟨apart, le_refl _⟩
  | succ turns ih =>
    unfold transitionMinute
    by_cases far : low + 1 < high
    · rw [if_pos far]
      dsimp only
      split
      · have upper : (low + high) / 2 < high := by omega
        have := ih upper
        omega
      · have lower : low < (low + high) / 2 := by omega
        have := ih lower
        omega
    · rw [if_neg far]
      exact ⟨apart, le_refl _⟩

/-- What the loop over the samples finds is a leap over the wall time. -/
theorem gapInstant_leaps {n : Nat} {start found : Int} (inTime : wall - 2160 ≤ start)
    (bound : start + 360 * n ≤ wall + 2160)
    (isFound : gapInstant zone (wall * 60000) (samplesFrom zone n start) = some found) :
    ∃ minute, found = minute * 60000 ∧ Leaps zone (wall * 60000) minute := by
  induction n generalizing start with
  | zero => cases isFound
  | succ n ih =>
    push_cast at bound
    have tail : samplesFrom zone n (start + 360) = sampleAt zone (start + 360) ::
        (samplesFrom zone n (start + 360)).tail := by
      cases n <;> rfl
    rw [samplesFrom, tail] at isFound
    unfold gapInstant at isFound
    rw [← tail] at isFound
    have low : (sampleAt zone start).instant / 60000 = start := by
      unfold sampleAt
      dsimp only
      omega
    have high : -(-(sampleAt zone (start + 360)).instant / 60000) = start + 360 := by
      unfold sampleAt
      dsimp only
      omega
    dsimp only at isFound
    rw [low, high] at isFound
    have apart : start < start + 360 := by omega
    have within := @transitionMinute_bounds zone (sampleAt zone start).offset
      (start + 360 - start).toNat _ _ apart
    generalize transitionMinute zone (sampleAt zone start).offset
      (start + 360 - start).toNat start (start + 360) = jump at isFound within
    split at isFound
    · exact ih (by omega) (by omega) isFound
    · split at isFound
      · next leap =>
        cases isFound
        exact ⟨jump, rfl, by omega, by omega, leap.1, leap.2⟩
      · exact ih (by omega) (by omega) isFound

/-- A wall time of a date is a whole minute. -/
theorem desiredWall_whole (date : CivilDate) (minuteOfDay : Int) :
    ∃ minutes, desiredWall date minuteOfDay = minutes * 60000 := ⟨_, rfl⟩

/-- The end of the day is the first instant that shows its wall time, or a leap over it. -/
theorem resolve_stop {date : CivilDate} {minuteOfDay edge : Int}
    (resolved : resolveZonedWallMinute zone date minuteOfDay .stop = .ok edge) :
    ((∃ shown, Shows zone (desiredWall date minuteOfDay) shown) →
      IsLeast {shown | Shows zone (desiredWall date minuteOfDay) shown} edge) ∧
    ((¬∃ shown, Shows zone (desiredWall date minuteOfDay) shown) →
      ∃ minute, edge = minute * 60000 ∧ Leaps zone (desiredWall date minuteOfDay) minute) := by
  unfold resolveZonedWallMinute at resolved
  dsimp only at resolved
  obtain ⟨minutes, whole⟩ := desiredWall_whole date minuteOfDay
  rw [whole] at resolved ⊢
  have mem : ∀ instant, instant ∈ exactInstants zone (minutes * 60000) ↔
      Shows zone (minutes * 60000) instant := fun _ => mem_exactInstants_iff
  cases isFirst : (exactInstants zone (minutes * 60000)).head? with
  | some first =>
    rw [isFirst] at resolved
    cases resolved
    have firstShown := (mem first).mp (List.mem_of_head? isFirst)
    obtain ⟨inside, below⟩ := foldl_min_isLeast (exactInstants zone (minutes * 60000)) first
    constructor
    · intro _
      refine ⟨?_, fun instant shown => below (.inr ((mem instant).mpr shown))⟩
      rcases inside with same | member
      · rw [Set.mem_ofPred_eq, same]
        exact firstShown
      · exact (mem _).mp member
    · intro none
      exact absurd ⟨first, firstShown⟩ none
  | none =>
    rw [isFirst] at resolved
    have empty := List.head?_eq_none_iff.mp isFirst
    constructor
    · rintro ⟨shown, isShown⟩
      have member := (mem shown).mpr isShown
      rw [empty] at member
      cases member
    · intro _
      dsimp only at resolved
      rw [offsetSamples_eq] at resolved
      split at resolved
      · next found isFound =>
        cases resolved
        exact gapInstant_leaps (by omega) (by push_cast; omega) isFound
      · cases resolved

/-- The end of a day is over only if the clock has come to it. -/
theorem comesTo_of_edge {date : CivilDate} {minuteOfDay edge instant : Int}
    (resolved : resolveZonedWallMinute zone date minuteOfDay .stop = .ok edge)
    (past : edge ≤ instant) : ComesTo zone (desiredWall date minuteOfDay) instant := by
  obtain ⟨first, leap⟩ := resolve_stop resolved
  by_cases shows : ∃ shown, Shows zone (desiredWall date minuteOfDay) shown
  · exact .inl ⟨edge, past, (first shows).1⟩
  · obtain ⟨minute, rfl, leaps⟩ := leap shows
    exact .inr ⟨shows, minute, past, leaps⟩

theorem edge_of_surelyComesTo {date : CivilDate} {minuteOfDay edge instant : Int}
    (resolved : resolveZonedWallMinute zone date minuteOfDay .stop = .ok edge)
    (comes : SurelyComesTo zone (desiredWall date minuteOfDay) instant) : edge ≤ instant := by
  obtain ⟨first, leap⟩ := resolve_stop resolved
  rcases comes with ⟨shown, past, isShown⟩ | ⟨never, all⟩
  · have below := (first ⟨shown, isShown⟩).2 isShown
    omega
  · obtain ⟨minute, rfl, leaps⟩ := leap never
    exact all minute leaps

/-- With one leap at most, what the clock has come to is sure. -/
theorem ComesTo.surely {instant : Int} (once : LeapsOnce zone wall)
    (comes : ComesTo zone wall instant) : SurelyComesTo zone wall instant := by
  rcases comes with shown | ⟨never, minute, past, leaps⟩
  · exact .inl shown
  · refine .inr ⟨never, ?_⟩
    intro other leapsToo
    rw [once never other minute leapsToo leaps]
    exact past

end clock

/-! ## The boundary of a manifest -/

/-- The manifest of `t` has a boundary, and it is reached by `t'`. -/
def HasBoundaryBy (zones : ZoneDatabase) (schedule : FrozenScheduleSnapshot) (t t' : Int) : Prop :=
  ∃ boundary, schedulePlaybackEndsAt zones schedule t = .ok (some boundary) ∧ boundary ≤ t'

def SameLocalDay (zone : Zone) (t t' : Int) : Prop :=
  (zonedParts zone t).date = (zonedParts zone t').date ∧
    (zonedParts zone t).weekday = (zonedParts zone t').weekday

/-- An end of the schedule has come by `t'`: its absolute end, or an end on the local day of `t`,
or the daily end of that day on the clock. -/
def EndsBy (comes : Zone → Int → Int → Prop) (zone : Zone) (schedule : FrozenScheduleSnapshot)
    (t t' : Int) : Prop :=
  (∃ endsAt, schedule.endsAt = some endsAt ∧ endsAt ≤ t') ∨ SameLocalDay zone t t' ∨
    ∃ minute, schedule.dailyEndMinutes = some minute ∧
      comes zone (desiredWall (zonedParts zone t).date minute) t'

/-- A clock whose offset jumps at most once in six hours, and never back by more than six hours. -/
structure TameZone (zone : Zone) : Prop extends RegularZone zone where
  small : ∀ minute, zone (minute - 1) - 360 ≤ zone minute

section boundary

variable {zones : ZoneDatabase} {zone : Zone} {schedule : FrozenScheduleSnapshot} {t t' : Int}

/-- At an instant when the schedule is active, the daily end of its local day is ahead. -/
theorem daily_end_ahead (known : zones schedule.timezone = some zone)
    (active : isActiveAt zones schedule t = true) {minute : Int}
    (daily : schedule.dailyEndMinutes = some minute) :
    ∃ edge, resolveZonedWallMinute zone (zonedParts zone t).date minute .stop = .ok edge ∧
      t < edge := by
  rw [isActiveAt_iff, matchesScheduleWindow_of_zone zones schedule t zone known,
    insideWindow_ok] at active
  obtain ⟨_, _, _, _, _, stop⟩ := active
  rw [insideDaily_ok] at stop
  obtain ⟨edge, resolved, ahead⟩ := stop minute daily
  exact ⟨edge, resolved, of_decide_eq_true ahead⟩

theorem hasBoundaryBy_iff (known : zones schedule.timezone = some zone)
    (active : isActiveAt zones schedule t = true) :
    HasBoundaryBy zones schedule t t' ↔
      (∃ endsAt, schedule.endsAt = some endsAt ∧ endsAt ≤ t') ∨
        ∃ minute edge, schedule.dailyEndMinutes = some minute ∧
          resolveZonedWallMinute zone (zonedParts zone t).date minute .stop = .ok edge ∧
          edge ≤ t' := by
  unfold HasBoundaryBy schedulePlaybackEndsAt
  cases daily : schedule.dailyEndMinutes with
  | none => cases absolute : schedule.endsAt <;> simp [bind, Except.bind]
  | some minute =>
    obtain ⟨edge, resolved, ahead⟩ := daily_end_ahead known active daily
    cases absolute : schedule.endsAt <;>
      simp [zoneNamed, known, resolved, ahead, bind, Except.bind]

/-- On one local day a schedule that was active ends by its boundary. -/
theorem a_schedule_ends_within_its_day (known : zones schedule.timezone = some zone)
    (active : isActiveAt zones schedule t = true) (later : t < t')
    (inactive : isActiveAt zones schedule t' = false) (sameDay : SameLocalDay zone t t') :
    HasBoundaryBy zones schedule t t' := by
  by_contra unbounded
  rw [hasBoundaryBy_iff known active, not_or] at unbounded
  obtain ⟨notEnded, notClosed⟩ := unbounded
  obtain ⟨date, weekday⟩ := sameDay
  have stillActive : isActiveAt zones schedule t' = true := by
    rw [isActiveAt_iff, matchesScheduleWindow_of_zone zones schedule t' zone known,
      insideWindow_ok, ← date, ← weekday]
    have wasActive := active
    rw [isActiveAt_iff, matchesScheduleWindow_of_zone zones schedule t zone known,
      insideWindow_ok] at wasActive
    obtain ⟨enabled, started, _, day, opened, _⟩ := wasActive
    refine ⟨enabled, by omega, ?_, day, ?_, ?_⟩
    · unfold beforeEnd
      rw [Option.all_eq_true]
      intro endsAt absolute
      rw [decide_eq_true_eq]
      by_contra past
      exact notEnded ⟨endsAt, absolute, by omega⟩
    · rw [insideDaily_ok] at opened ⊢
      intro minute daily
      obtain ⟨edge, resolved, before⟩ := opened minute daily
      have before := of_decide_eq_true before
      exact ⟨edge, resolved, decide_eq_true (by omega)⟩
    · rw [insideDaily_ok]
      intro minute daily
      obtain ⟨edge, resolved, _⟩ := daily_end_ahead known active daily
      refine ⟨edge, resolved, ?_⟩
      rw [decide_eq_true_eq]
      by_contra past
      exact notClosed ⟨minute, edge, daily, resolved, by omega⟩
  rw [stillActive] at inactive
  cases inactive

/-- In a tame zone the daily end is over exactly when the clock has shown its wall minute or a
later one. -/
theorem TameZone.edge_iff (tame : TameZone zone) (year : 1000 ≤ (localDate zone t).year)
    {minute edge : Int} (positive : 0 ≤ minute)
    (resolved : resolveZonedWallMinute zone (zonedParts zone t).date minute .stop = .ok edge) :
    edge ≤ t' ↔ ∃ shown, shown * 60000 ≤ t' ∧
      minuteOfDate (localDate zone t) minute ≤ wallMinute zone shown := by
  rw [zonedParts_date rfl year] at resolved
  obtain ⟨edgeMinute, same, resolves⟩ := resolve_late tame.toRegularZone
    (late_of_date year positive) (desiredWall_date year positive) .stop
  have sameEdge := resolved.symm.trans same
  cases sameEdge
  obtain ⟨reached, earlier⟩ := stop_spec tame.toRegularZone
    (skippedForGood_of_small tame.toRegularZone tame.small _) resolves
  constructor
  · intro past
    exact ⟨edgeMinute, past, reached⟩
  · rintro ⟨shown, past, late⟩
    have notEarlier : ¬shown < edgeMinute := by
      intro before
      have := earlier shown before
      unfold localDate at late
      omega
    omega

theorem accepted_end (accepted : acceptedSchedule zones schedule = true) {minute : Int}
    (daily : schedule.dailyEndMinutes = some minute) : 1 ≤ minute ∧ minute ≤ 1440 := by
  unfold acceptedSchedule at accepted
  rw [daily] at accepted
  simp only [Bool.and_eq_true, Option.all_some, decide_eq_true_eq] at accepted
  exact accepted.1.1.2

/-- In a tame zone a boundary comes with the first wall minute that is not before the daily end. -/
theorem TameZone.boundary_iff (tame : TameZone zone) (year : 1000 ≤ (localDate zone t).year)
    (accepted : acceptedSchedule zones schedule = true)
    (known : zones schedule.timezone = some zone) (active : isActiveAt zones schedule t = true) :
    HasBoundaryBy zones schedule t t' ↔
      (∃ endsAt, schedule.endsAt = some endsAt ∧ endsAt ≤ t') ∨
        ∃ minute shown, schedule.dailyEndMinutes = some minute ∧ shown * 60000 ≤ t' ∧
          minuteOfDate (localDate zone t) minute ≤ wallMinute zone shown := by
  rw [hasBoundaryBy_iff known active]
  apply or_congr_right
  constructor
  · rintro ⟨minute, edge, daily, resolved, past⟩
    have positive := (accepted_end accepted daily).1
    obtain ⟨shown, before, late⟩ := (tame.edge_iff year (by omega) resolved).mp past
    exact ⟨minute, shown, daily, before, late⟩
  · rintro ⟨minute, shown, daily, before, late⟩
    obtain ⟨edge, resolved, _⟩ := daily_end_ahead known active daily
    have positive := (accepted_end accepted daily).1
    exact ⟨minute, edge, daily, resolved,
      (tame.edge_iff year (by omega) resolved).mpr ⟨shown, before, late⟩⟩

/-- On a later date the clock has come to the daily end, if the schedule has one. -/
theorem TameZone.boundary_on_later_date (tame : TameZone zone)
    (year : 1000 ≤ (localDate zone t).year) (accepted : acceptedSchedule zones schedule = true)
    (known : zones schedule.timezone = some zone) (active : isActiveAt zones schedule t = true)
    (laterDate : minuteOfDate (localDate zone t) 1440 ≤ wallMinute zone (t' / 60000)) :
    HasBoundaryBy zones schedule t t' ↔
      (∃ endsAt, schedule.endsAt = some endsAt ∧ endsAt ≤ t') ∨
        schedule.dailyEndMinutes.isSome = true := by
  rw [tame.boundary_iff year accepted known active]
  apply or_congr_right
  constructor
  · rintro ⟨minute, _, daily, _⟩
    rw [daily]
    rfl
  · intro hasEnd
    obtain ⟨minute, daily⟩ := Option.isSome_iff_exists.mp hasEnd
    have last := (accepted_end accepted daily).2
    refine ⟨minute, t' / 60000, daily, by omega, ?_⟩
    unfold minuteOfDate at *
    omega

/-- A schedule that was active at `t` and is not at `t'` has a boundary by `t'` exactly when one of
its ends has come: the absolute end, an end on the same local day, or the daily end of the local
day of `t` on the clock. This holds in each zone that leaps over the daily end once at most.
Without that, a boundary still means an end that has come, and an end that has surely come means a
boundary. In a tame zone the clock has come to the daily end when it has shown that wall minute or a
later one. Once it is on a later date, the boundary has come if the schedule has a daily end at
all, and not if it only has weekdays and a daily start. -/
theorem the_boundary_comes_in_time_iff_an_end_has_come (zones : ZoneDatabase) (zone : Zone)
    (schedule : FrozenScheduleSnapshot) (t t' : Int)
    (known : zones schedule.timezone = some zone) (active : isActiveAt zones schedule t = true)
    (later : t < t') (inactive : isActiveAt zones schedule t' = false) :
    ((∀ minute, schedule.dailyEndMinutes = some minute →
        LeapsOnce zone (desiredWall (zonedParts zone t).date minute)) →
      (HasBoundaryBy zones schedule t t' ↔ EndsBy ComesTo zone schedule t t')) ∧
    (HasBoundaryBy zones schedule t t' → EndsBy ComesTo zone schedule t t') ∧
    (EndsBy SurelyComesTo zone schedule t t' → HasBoundaryBy zones schedule t t') ∧
    (TameZone zone → 1000 ≤ (localDate zone t).year → acceptedSchedule zones schedule = true →
      (HasBoundaryBy zones schedule t t' ↔
        (∃ endsAt, schedule.endsAt = some endsAt ∧ endsAt ≤ t') ∨
          ∃ minute shown, schedule.dailyEndMinutes = some minute ∧ shown * 60000 ≤ t' ∧
            minuteOfDate (localDate zone t) minute ≤ wallMinute zone shown) ∧
      (minuteOfDate (localDate zone t) 1440 ≤ wallMinute zone (t' / 60000) →
        (HasBoundaryBy zones schedule t t' ↔
          (∃ endsAt, schedule.endsAt = some endsAt ∧ endsAt ≤ t') ∨
            schedule.dailyEndMinutes.isSome = true))) := by
  have within := a_schedule_ends_within_its_day known active later inactive
  have bounded : HasBoundaryBy zones schedule t t' ↔ _ := hasBoundaryBy_iff known active
  have comes : HasBoundaryBy zones schedule t t' → EndsBy ComesTo zone schedule t t' := by
    intro boundary
    rcases bounded.mp boundary with absolute | ⟨minute, edge, daily, resolved, past⟩
    · exact .inl absolute
    · exact .inr (.inr ⟨minute, daily, comesTo_of_edge resolved past⟩)
  have surely : EndsBy SurelyComesTo zone schedule t t' → HasBoundaryBy zones schedule t t' := by
    rintro (absolute | sameDay | ⟨minute, daily, come⟩)
    · exact bounded.mpr (.inl absolute)
    · exact within sameDay
    · obtain ⟨edge, resolved, _⟩ := daily_end_ahead known active daily
      exact bounded.mpr (.inr ⟨minute, edge, daily, resolved,
        edge_of_surelyComesTo resolved come⟩)
  refine ⟨?_, comes, surely, ?_⟩
  · intro once
    refine ⟨comes, ?_⟩
    rintro (absolute | sameDay | ⟨minute, daily, come⟩)
    · exact surely (.inl absolute)
    · exact surely (.inr (.inl sameDay))
    · exact surely (.inr (.inr ⟨minute, daily, come.surely (once minute daily)⟩))
  · intro tame year accepted
    exact ⟨tame.boundary_iff year accepted known active,
      fun laterDate => tame.boundary_on_later_date year accepted known active laterDate⟩

theorem utc_tame : TameZone fun _ => 0 where
  bounded _ := by decide
  sparse _ _ jumps := absurd rfl jumps
  small _ := by decide

/-- At the midnight to Tuesday the boundary of a Monday from eight to six has come. A Monday from
eight on has none. -/
theorem the_boundaries_of_two_mondays :
    HasBoundaryBy onlyUTC (mondays (some 480) (some 1080)) (mondayAt 12) (mondayAt 24) ∧
      ¬HasBoundaryBy onlyUTC (mondays (some 480) none) (mondayAt 12) (mondayAt 24) := by
  constructor
  · have shows : Shows (fun _ => 0)
        (desiredWall (zonedParts (fun _ => 0) (mondayAt 12)).date 1080) (mondayAt 18) :=
      ⟨by decide +kernel, 0, by decide, by decide +kernel⟩
    have exact := (the_boundary_comes_in_time_iff_an_end_has_come onlyUTC (fun _ => 0)
      (mondays (some 480) (some 1080)) (mondayAt 12) (mondayAt 24) rfl (by decide +kernel)
      (by decide) (by decide +kernel)).1
    refine (exact ?_).mpr (.inr (.inr ⟨1080, rfl, .inl ⟨mondayAt 18, by decide, shows⟩⟩))
    intro minute daily never
    cases daily
    exact absurd ⟨mondayAt 18, shows⟩ never
  · obtain ⟨_, _, _, inTame⟩ := the_boundary_comes_in_time_iff_an_end_has_come onlyUTC
      (fun _ => 0) (mondays (some 480) none) (mondayAt 12) (mondayAt 24) rfl (by decide +kernel)
      (by decide) (by decide +kernel)
    have laterDate := (inTame utc_tame (by decide +kernel) (by decide +kernel)).2
      (by decide +kernel)
    rw [laterDate]
    rintro (⟨_, never, _⟩ | never) <;> cases never

end boundary

/-- A schedule for Mondays is over at the midnight to Tuesday, and has no boundary. -/
theorem a_weekday_schedule_has_no_boundary_at_midnight :
    acceptedSchedule onlyUTC (mondays none none) = true ∧
      isActiveAt onlyUTC (mondays none none) (mondayAt 12) = true ∧
      mondayAt 12 < mondayAt 24 ∧
      isActiveAt onlyUTC (mondays none none) (mondayAt 24) = false ∧
      ¬ ∃ boundary, schedulePlaybackEndsAt onlyUTC (mondays none none) (mondayAt 12) =
        .ok (some boundary) ∧ boundary ≤ mondayAt 24 := by
  refine ⟨by decide +kernel, by decide +kernel, by decide, by decide +kernel, ?_⟩
  intro bounded
  obtain ⟨boundary, h, _⟩ := bounded
  cases h

end screengoblin.schedule
