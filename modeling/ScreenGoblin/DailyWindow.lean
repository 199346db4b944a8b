-- The daily window of a schedule (matchesScheduleWindow in apps/api/src/utils/schedule.ts), in
-- every zone of the wall clock. On each local date it is open for one interval, if the clock never
-- comes back to a wall minute that it skipped.
import Mathlib
import ScreenGoblin.WallCaches

open calendar js

namespace screengoblin.schedule

/-! ## The window within the range of a date -/

def sideCall (schedule : FrozenScheduleSnapshot) (date : CivilDate) (minuteOfDay : Int)
    (boundary : Boundary) : WallCall :=
  { timeZone := schedule.timezone, date, minuteOfDay, boundary }

section clock

variable {zone : Zone} {wall minute : Int}

/-- A jump that skips the wall minute skips it for good: before it the clock shows only earlier
wall minutes, and after it only later ones. -/
def SkippedForGood (zone : Zone) (wall : Int) : Prop :=
  ∀ jump, wallMinute zone (jump - 1) < wall → wall < wallMinute zone jump →
    (∀ m, m < jump → wallMinute zone m < wall) ∧ ∀ m, jump ≤ m → wall < wallMinute zone m

/-- Between an earlier and a later wall minute the clock comes to the one in between. -/
theorem crossing {first last : Int} (before : wallMinute zone first < wall)
    (after : wall ≤ wallMinute zone last) (le : first ≤ last) :
    ∃ m, first < m ∧ m ≤ last ∧ wallMinute zone (m - 1) < wall ∧ wall ≤ wallMinute zone m := by
  induction last, le using Int.leInduction with
  | base => omega
  | succ last le ih =>
    by_cases reached : wall ≤ wallMinute zone last
    · obtain ⟨m, later, earlier, prior, next⟩ := ih reached
      exact ⟨m, later, by omega, prior, next⟩
    · refine ⟨last + 1, by omega, le_refl _, ?_, after⟩
      rw [show last + 1 - 1 = last by omega]
      omega

/-- The clock comes to a wall minute that it skips for good only once. -/
theorem SkippedForGood.crossing (good : SkippedForGood zone wall) {first last : Int}
    (before : wallMinute zone first < wall) (after : wall ≤ wallMinute zone last)
    (le : first ≤ last) :
    (∃ m, first < m ∧ m ≤ last ∧ wallMinute zone m = wall) ∨
      ((∀ m, m ≤ first → wallMinute zone m < wall) ∧ ∀ m, last ≤ m → wall < wallMinute zone m) := by
  obtain ⟨m, later, earlier, prior, next⟩ := schedule.crossing before after le
  rcases lt_or_eq_of_le next with skipped | shown
  · right
    obtain ⟨past, future⟩ := good m prior skipped
    exact ⟨fun other _ => past other (by omega), fun other _ => future other (by omega)⟩
  · exact Or.inl ⟨m, later, earlier, shown.symm⟩

/-- The end is the first minute that shows no earlier wall minute. -/
theorem stop_spec (regular : RegularZone zone) (good : SkippedForGood zone wall)
    (resolves : ResolvesTo zone wall .stop minute) :
    wall ≤ wallMinute zone minute ∧ ∀ m, m < minute → wallMinute zone m < wall := by
  by_cases shown : ∃ m, wallMinute zone m = wall
  · obtain ⟨isShown, least⟩ := resolves.stops shown rfl
    rw [Set.mem_ofPred_eq] at isShown
    refine ⟨isShown.ge, ?_⟩
    intro m earlier
    by_contra late
    have bounded := regular.bounded (min (m - 1) (wall - 2160))
    have past : wallMinute zone (min (m - 1) (wall - 2160)) < wall := by
      unfold wallMinute
      omega
    rcases good.crossing past (not_lt.mp late) (by omega) with ⟨other, _, before, again⟩ |
      ⟨_, future⟩
    · have := least again
      omega
    · have := future minute (by omega)
      omega
  · obtain ⟨after, least⟩ := resolves.gap shown
    rw [Set.mem_ofPred_eq] at after
    refine ⟨after.le, ?_⟩
    intro m earlier
    by_contra late
    rcases lt_or_eq_of_le (not_lt.mp late) with late | same
    · have := least late
      omega
    · exact shown ⟨m, same.symm⟩

/-- Since a jump of at most six hours, the clock has not come back behind it. -/
theorem wallMinute_after_jump (regular : RegularZone zone)
    (small : ∀ m, zone (m - 1) - 360 ≤ zone m) {jump : Int} (jumps : zone (jump - 1) ≠ zone jump)
    {m : Int} (later : jump ≤ m) : ∃ last, jump ≤ last ∧ last ≤ m ∧ zone (last - 1) ≠ zone last ∧
      wallMinute zone jump ≤ wallMinute zone last ∧ zone m = zone last := by
  induction m, later using Int.leInduction with
  | base => exact ⟨jump, le_refl _, le_refl _, jumps, le_refl _, rfl⟩
  | succ m later ih =>
    obtain ⟨last, after, before, isJump, ahead, same⟩ := ih
    by_cases still : zone m = zone (m + 1)
    · exact ⟨last, after, by omega, isJump, ahead, by rw [← still, same]⟩
    · have prior : m + 1 - 1 = m := by omega
      have apart := regular.sparse last (m + 1) isJump (by rwa [prior]) (by omega)
      have fall := small (m + 1)
      rw [prior] at fall
      refine ⟨m + 1, by omega, le_refl _, by rwa [prior], ?_, rfl⟩
      unfold wallMinute at *
      omega

theorem wallMinute_before_jump (regular : RegularZone zone)
    (small : ∀ m, zone (m - 1) - 360 ≤ zone m) {jump : Int} (jumps : zone (jump - 1) ≠ zone jump)
    {m : Int} (earlier : m ≤ jump - 1) : ∃ next, m < next ∧ next ≤ jump ∧
      zone (next - 1) ≠ zone next ∧ wallMinute zone (next - 1) ≤ wallMinute zone (jump - 1) ∧
      zone m = zone (next - 1) := by
  induction m, earlier using Int.leInductionDown with
  | base => exact ⟨jump, by omega, le_refl _, jumps, le_refl _, rfl⟩
  | pred m earlier ih =>
    obtain ⟨next, after, before, isJump, behind, same⟩ := ih
    by_cases still : zone (m - 1) = zone m
    · exact ⟨next, by omega, before, isJump, behind, by rw [still, same]⟩
    · have apart := regular.sparse m next still isJump (by omega)
      have fall := small m
      refine ⟨m, by omega, by omega, still, ?_, rfl⟩
      unfold wallMinute at *
      omega

/-- A clock that never falls back by more than six hours skips for good. -/
theorem skippedForGood_of_small (regular : RegularZone zone)
    (small : ∀ m, zone (m - 1) - 360 ≤ zone m) (wall : Int) : SkippedForGood zone wall := by
  intro jump before after
  have jumps : zone (jump - 1) ≠ zone jump := by
    intro same
    unfold wallMinute at *
    omega
  constructor
  · intro m earlier
    obtain ⟨next, later, _, _, behind, same⟩ :=
      wallMinute_before_jump regular small jumps (m := m) (by omega)
    unfold wallMinute at *
    omega
  · intro m later
    obtain ⟨last, _, notLater, _, ahead, same⟩ :=
      wallMinute_after_jump regular small jumps later
    unfold wallMinute at *
    omega

end clock

/-! ## The window on a local date -/

section window

variable {zones : ZoneDatabase} {zone : Zone} {schedule : FrozenScheduleSnapshot} {date : CivilDate}
  {start stop t : Int}

/-- The date that the clock of a zone stands on. -/
def localDate (zone : Zone) (t : Int) : CivilDate :=
  civilFromDays (wallMinute zone (t / 60000) / 1440)

theorem zonedParts_date (same : localDate zone t = date) (year : 1000 ≤ date.year) :
    (zonedParts zone t).date = date := by
  subst same
  unfold zonedParts shownYear
  unfold localDate wallMinute at *
  dsimp only
  rw [if_neg (by omega)]

/-- A minute that a side of the window resolves to. -/
def Resolved (zone : Zone) (schedule : FrozenScheduleSnapshot) (date : CivilDate)
    (minuteOfDay : Int) (boundary : Boundary) (minute : Int) : Prop :=
  resolveInZone zone (sideCall schedule date minuteOfDay boundary) = .ok (minute * 60000) ∧
    ResolvesTo zone (minuteOfDate date minuteOfDay) boundary minute

theorem Resolved.unique {minuteOfDay minute minute' : Int} {boundary : Boundary}
    (h : Resolved zone schedule date minuteOfDay boundary minute)
    (h' : Resolved zone schedule date minuteOfDay boundary minute') : minute = minute' := by
  have same := h.1.symm.trans h'.1
  rw [Except.ok.injEq] at same
  omega

end window

/-! ## A night with a jump, and a clock that comes back -/

end screengoblin.schedule
