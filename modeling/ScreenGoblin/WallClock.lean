-- The wall minute of a date is resolved to the right instant, in every zone whose offset is below
-- 36 hours and jumps at most once in six hours (resolveZonedWallMinute in
-- apps/api/src/utils/schedule.ts).
import ScreenGoblin.Schedule
import Mathlib.Order.Bounds.Defs
import Mathlib.Data.Int.LeastGreatest

open calendar js

namespace screengoblin.schedule

variable {zone : Zone} {wall : Int}

/-! ## Zones and wall minutes -/

/-- The wall minute that a zone shows in a minute of UTC. -/
def wallMinute (zone : Zone) (minute : Int) : Int := minute + zone minute

def minuteOfDate (date : CivilDate) (minuteOfDay : Int) : Int :=
  daysFromCivil date * 1440 + minuteOfDay

structure RegularZone (zone : Zone) : Prop where
  bounded : ∀ minute, -2160 < zone minute ∧ zone minute < 2160
  sparse : ∀ earlier later, zone (earlier - 1) ≠ zone earlier → zone (later - 1) ≠ zone later →
    earlier < later → earlier + 360 ≤ later

/-- Without a jump on the way, the offset stays what it was. -/
theorem zone_still {start minute : Int} (later : start ≤ minute)
    (still : ∀ m, start < m → m ≤ minute → zone (m - 1) = zone m) : zone minute = zone start := by
  induction minute, later using Int.leInduction with
  | base => rfl
  | succ minute later ih =>
    have last := still (minute + 1) (by omega) (by omega)
    rw [show minute + 1 - 1 = minute by omega] at last
    rw [← last]
    apply ih
    intro m after before
    exact still m after (by omega)

/-- In six hours the offset is that of the start or that of the end. -/
theorem RegularZone.near (regular : RegularZone zone) (start minute : Int) (later : start ≤ minute)
    (soon : minute ≤ start + 360) : zone minute = zone start ∨ zone minute = zone (start + 360) := by
  by_cases still : ∀ m, start < m → m ≤ minute → zone (m - 1) = zone m
  · left
    exact zone_still later still
  · right
    push Not at still
    obtain ⟨jump, after, before, jumps⟩ := still
    symm
    apply zone_still soon
    intro m afterMinute beforeEnd
    by_contra again
    have apart := regular.sparse jump m jumps again (by omega)
    omega

/-- A jump is the only one of its six hours. -/
theorem RegularZone.one_jump (regular : RegularZone zone) {start jump other : Int}
    (after : start < jump) (before : jump ≤ start + 360) (jumps : zone (jump - 1) ≠ zone jump)
    (afterOther : start < other) (beforeOther : other ≤ start + 360)
    (otherJumps : zone (other - 1) ≠ zone other) : other = jump := by
  rcases lt_trichotomy other jump with earlier | same | later
  · have apart := regular.sparse other jump otherJumps jumps earlier
    omega
  · exact same
  · have apart := regular.sparse jump other jumps otherJumps later
    omega

/-- Where the offset at the end is that of the start, there is no jump. -/
theorem RegularZone.no_jump (regular : RegularZone zone) {start minute : Int}
    (same : zone start = zone (start + 360)) (after : start < minute)
    (before : minute ≤ start + 360) : zone (minute - 1) = zone minute := by
  rcases regular.near start minute (by omega) before with h | h <;>
    rcases regular.near start (minute - 1) (by omega) (by omega) with h' | h'
    <;> rw [h, h'] <;> simp [same]

/-! ## What the clock shows -/

/-- The first wall minute of the year 100. A year before it is not shown as it is. -/
def firstWall : Int := -983329920

theorem wallClockValue_zonedParts {minute : Int} (late : firstWall ≤ wallMinute zone minute) :
    wallClockValue (zonedParts zone (minute * 60000)) = wallMinute zone minute * 60000 := by
  have utc : minute * 60000 / 60000 = minute := by omega
  unfold wallClockValue zonedParts
  rw [utc]
  show dateUTC _ _ = _
  have shown : minute + zone minute = wallMinute zone minute := rfl
  dsimp only
  rw [shown]
  unfold firstWall at late
  have year := year_after (wallMinute zone minute / 1440) (by omega)
  have positive : ¬(civilFromDays (wallMinute zone minute / 1440)).year ≤ 0 := by omega
  have notShort : ¬(0 ≤ (civilFromDays (wallMinute zone minute / 1440)).year ∧
      (civilFromDays (wallMinute zone minute / 1440)).year ≤ 99) := by omega
  unfold dateUTC shownYear
  simp only [positive, notShort, if_false]
  rw [daysFromCivil_civilFromDays]
  omega

theorem shownOffset_minute {minute : Int} (late : firstWall ≤ wallMinute zone minute) :
    shownOffset zone (minute * 60000) = zone minute * 60000 := by
  unfold shownOffset
  rw [wallClockValue_zonedParts late]
  unfold wallMinute
  omega

/-- The clock shows late walls around a wall minute that is late enough. -/
theorem RegularZone.late (regular : RegularZone zone) (late : firstWall + 4320 ≤ wall) {minute : Int}
    (near : wall - 2160 ≤ minute) : firstWall ≤ wallMinute zone minute := by
  have := regular.bounded minute
  unfold wallMinute
  omega

/-- A date of the calendar from the year 1000 on is late enough. -/
theorem late_of_date {days minuteOfDay : Int} (year : 1000 ≤ (civilFromDays days).year)
    (positive : 0 ≤ minuteOfDay) :
    firstWall + 4320 ≤ minuteOfDate (civilFromDays days) minuteOfDay := by
  have start := year_of_days days (by omega)
  unfold minuteOfDate firstWall
  rw [daysFromCivil_civilFromDays]
  omega

theorem desiredWall_date {days minuteOfDay : Int} (year : 1000 ≤ (civilFromDays days).year)
    (positive : 0 ≤ minuteOfDay) :
    desiredWall (civilFromDays days) minuteOfDay =
      minuteOfDate (civilFromDays days) minuteOfDay * 60000 := by
  have late := late_of_date year positive
  have normalized : dateUTC (civilFromDays days) minuteOfDay =
      minuteOfDate (civilFromDays days) minuteOfDay * 60000 := by
    unfold dateUTC
    rw [if_neg (by omega)]
    rfl
  unfold desiredWall
  rw [normalized, wallClockValue_zonedParts]
  · unfold wallMinute
    dsimp only
    omega
  · unfold wallMinute
    dsimp only
    omega

/-! ## Samples -/

/-- The sample in a minute. -/
def sampleAt (zone : Zone) (minute : Int) : OffsetSample :=
  { instant := minute * 60000, offset := shownOffset zone (minute * 60000) }

/-- Samples every six hours, one more than the number. -/
def samplesFrom (zone : Zone) : Nat → Int → List OffsetSample
  | 0, start => [sampleAt zone start]
  | n + 1, start => sampleAt zone start :: samplesFrom zone n (start + 360)

theorem mem_samplesFrom {n : Nat} {start : Int} {sample : OffsetSample} :
    sample ∈ samplesFrom zone n start ↔
      ∃ k : Nat, k ≤ n ∧ sample = sampleAt zone (start + 360 * k) := by
  induction n generalizing start with
  | zero => simp [samplesFrom]
  | succ n ih =>
    rw [samplesFrom, List.mem_cons, ih]
    constructor
    · rintro (rfl | ⟨k, bound, rfl⟩)
      · exact ⟨0, by omega, by simp⟩
      · refine ⟨k + 1, by omega, ?_⟩
        congr 1
        push_cast
        omega
    · rintro ⟨k, bound, rfl⟩
      cases k with
      | zero => left; simp
      | succ k =>
        right
        refine ⟨k, by omega, ?_⟩
        congr 1
        push_cast
        omega

theorem map_range_sampleAt (n : Nat) (start : Int) :
    (List.range (n + 1)).map (fun k : Nat => sampleAt zone (start + 360 * k)) =
      samplesFrom zone n start := by
  induction n generalizing start with
  | zero => simp [samplesFrom]
  | succ n ih =>
    rw [List.range_succ_eq_map, List.map_cons, List.map_map, samplesFrom, ← ih (start + 360)]
    congr 1
    · simp
    · apply List.map_congr_left
      intro k _
      rw [Function.comp_apply]
      congr 1
      push_cast
      omega

theorem offsetSamples_eq : offsetSamples zone (wall * 60000) = samplesFrom zone 12 (wall - 2160) := by
  rw [← map_range_sampleAt]
  unfold offsetSamples
  apply List.map_congr_left
  intro k _
  have instant : wall * 60000 + ((k : Int) * 6 - 36) * 3600000 =
      (wall - 2160 + 360 * k) * 60000 := by omega
  dsimp only
  rw [instant]
  rfl

/-! ## A wall minute that the clock shows -/

/-- The instants of the code are the minutes with this wall minute. -/
theorem mem_exactInstants (regular : RegularZone zone) (late : firstWall + 4320 ≤ wall)
    {instant : Int} :
    instant ∈ exactInstants zone (wall * 60000) ↔
      ∃ minute, instant = minute * 60000 ∧ wallMinute zone minute = wall := by
  unfold exactInstants
  rw [offsetSamples_eq]
  simp only [List.mem_filter, List.mem_map, List.mem_eraseDups, mem_samplesFrom, beq_iff_eq]
  -- the sample of a minute after the first one
  have sampled : ∀ k : Nat, (sampleAt zone (wall - 2160 + 360 * k)).offset =
      zone (wall - 2160 + 360 * k) * 60000 := by
    intro k
    exact shownOffset_minute (regular.late late (by omega))
  constructor
  · rintro ⟨⟨_, ⟨_, ⟨k, _, rfl⟩, rfl⟩, rfl⟩, shown⟩
    rw [sampled] at shown ⊢
    have bound := regular.bounded (wall - 2160 + 360 * k)
    generalize zone (wall - 2160 + 360 * k) = offset at *
    have instant : wall * 60000 - offset * 60000 = (wall - offset) * 60000 := by omega
    rw [instant] at shown ⊢
    rw [wallClockValue_zonedParts (regular.late late (by omega))] at shown
    exact ⟨_, rfl, by omega⟩
  · rintro ⟨minute, rfl, shown⟩
    have bound := regular.bounded minute
    have offset : wall * 60000 - zone minute * 60000 = minute * 60000 := by
      unfold wallMinute at shown
      omega
    refine ⟨⟨zone minute * 60000, ?_, offset⟩, ?_⟩
    · -- the six hours of the samples that the minute lies in
      unfold wallMinute at shown
      obtain ⟨k, hk⟩ : ∃ k : Nat, (k : Int) = (minute - (wall - 2160)) / 360 :=
        ⟨((minute - (wall - 2160)) / 360).toNat, by omega⟩
      rcases regular.near (wall - 2160 + 360 * k) minute (by omega) (by omega)
        with same | same
      · exact ⟨_, ⟨k, by omega, rfl⟩, by rw [sampled, same]⟩
      · refine ⟨_, ⟨k + 1, by omega, rfl⟩, ?_⟩
        rw [sampled, same]
        congr 2
        push_cast
        omega
    · rw [wallClockValue_zonedParts (regular.late late (by omega)), shown]

theorem foldl_max_isGreatest (l : List Int) (a : Int) :
    IsGreatest {x | x = a ∨ x ∈ l} (l.foldl max a) := by
  induction l generalizing a with
  | nil => simp [IsGreatest, upperBounds]
  | cons b l ih =>
    obtain ⟨inside, above⟩ := ih (max a b)
    rw [List.foldl_cons]
    constructor
    · rcases inside with same | member
      · rw [Set.mem_ofPred_eq, same]
        rcases max_choice a b with h | h <;> simp [h]
      · exact .inr (List.mem_cons_of_mem _ member)
    · rintro x (rfl | member)
      · exact (le_max_left _ _).trans (above (.inl rfl))
      · rcases List.mem_cons.mp member with rfl | rest
        · exact (le_max_right _ _).trans (above (.inl rfl))
        · exact above (.inr rest)

theorem foldl_min_isLeast (l : List Int) (a : Int) :
    IsLeast {x | x = a ∨ x ∈ l} (l.foldl min a) := by
  induction l generalizing a with
  | nil => simp [IsLeast, lowerBounds]
  | cons b l ih =>
    obtain ⟨inside, below⟩ := ih (min a b)
    rw [List.foldl_cons]
    constructor
    · rcases inside with same | member
      · rw [Set.mem_ofPred_eq, same]
        rcases min_choice a b with h | h <;> simp [h]
      · exact .inr (List.mem_cons_of_mem _ member)
    · rintro x (rfl | member)
      · exact (below (.inl rfl)).trans (min_le_left _ _)
      · rcases List.mem_cons.mp member with rfl | rest
        · exact (below (.inl rfl)).trans (min_le_right _ _)
        · exact below (.inr rest)

/-- What the clock has to say about the resolved minute: the last or the first minute with the wall
minute, and in a gap the first minute after it. -/
structure ResolvesTo (zone : Zone) (wall : Int) (boundary : Boundary) (minute : Int) : Prop where
  starts : (∃ m, wallMinute zone m = wall) → boundary = .start →
    IsGreatest {m | wallMinute zone m = wall} minute
  stops : (∃ m, wallMinute zone m = wall) → boundary = .stop →
    IsLeast {m | wallMinute zone m = wall} minute
  gap : (¬∃ m, wallMinute zone m = wall) → IsLeast {m | wall < wallMinute zone m} minute

/-- The bound of a list of instants is the bound of their minutes. -/
theorem minute_of_bound {instants : List Int} {first bound : Int} {shown : Int → Prop}
    (isFirst : instants.head? = some first)
    (mem : ∀ instant, instant ∈ instants ↔ ∃ minute, instant = minute * 60000 ∧ shown minute)
    (inside : bound = first ∨ bound ∈ instants) :
    ∃ minute, bound = minute * 60000 ∧ shown minute := by
  rcases inside with rfl | member
  · exact (mem _).mp (List.mem_of_head? isFirst)
  · exact (mem _).mp member

theorem resolve_exact (regular : RegularZone zone) (late : firstWall + 4320 ≤ wall)
    (boundary : Boundary) {first : Int}
    (isFirst : (exactInstants zone (wall * 60000)).head? = some first) :
    ∃ minute, (match boundary with
        | .start => (exactInstants zone (wall * 60000)).foldl max first
        | .stop => (exactInstants zone (wall * 60000)).foldl min first) = minute * 60000 ∧
      ResolvesTo zone wall boundary minute := by
  have mem : ∀ instant, instant ∈ exactInstants zone (wall * 60000) ↔
      ∃ minute, instant = minute * 60000 ∧ wallMinute zone minute = wall :=
    fun _ => mem_exactInstants regular late
  cases boundary with
  | start =>
    obtain ⟨inside, above⟩ := foldl_max_isGreatest (exactInstants zone (wall * 60000)) first
    obtain ⟨minute, same, shown⟩ := minute_of_bound isFirst mem inside
    refine ⟨minute, same, ?_, ?_, ?_⟩
    · intro _ _
      refine ⟨shown, ?_⟩
      intro other otherShown
      have below := above (.inr ((mem _).mpr ⟨other, rfl, otherShown⟩))
      rw [same] at below
      omega
    · intro _ other
      cases other
    · intro none
      exact absurd ⟨minute, shown⟩ none
  | stop =>
    obtain ⟨inside, below⟩ := foldl_min_isLeast (exactInstants zone (wall * 60000)) first
    obtain ⟨minute, same, shown⟩ := minute_of_bound isFirst mem inside
    refine ⟨minute, same, ?_, ?_, ?_⟩
    · intro _ other
      cases other
    · intro _ _
      refine ⟨shown, ?_⟩
      intro other otherShown
      have above := below (.inr ((mem _).mpr ⟨other, rfl, otherShown⟩))
      rw [same] at above
      omega
    · intro none
      exact absurd ⟨minute, shown⟩ none

/-! ## The search for a jump -/

/-- The `while` loop of the search ends with this value of `high`. -/
inductive Searches (zone : Zone) (offsetBefore : Int) : Int → Int → Int → Prop where
  | done {low high : Int} (near : ¬low + 1 < high) : Searches zone offsetBefore low high high
  | later {low high found : Int} (apart : low + 1 < high)
    (same : shownOffset zone ((low + high) / 2 * 60000) = offsetBefore)
    (rest : Searches zone offsetBefore ((low + high) / 2) high found) :
    Searches zone offsetBefore low high found
  | earlier {low high found : Int} (apart : low + 1 < high)
    (other : shownOffset zone ((low + high) / 2 * 60000) ≠ offsetBefore)
    (rest : Searches zone offsetBefore low ((low + high) / 2) found) :
    Searches zone offsetBefore low high found

/-- The loop ends, and the turns of `transitionMinute` are enough for it. -/
theorem searches_transitionMinute (zone : Zone) (offsetBefore : Int) (turns : Nat) (low high : Int)
    (enough : high - low ≤ turns) :
    Searches zone offsetBefore low high
      (transitionMinute zone offsetBefore turns low high) := by
  induction turns generalizing low high with
  | zero => exact .done (by omega)
  | succ turns ih =>
    unfold transitionMinute
    by_cases apart : low + 1 < high
    · rw [if_pos apart]
      by_cases same : shownOffset zone ((low + high) / 2 * 60000) = offsetBefore
      · dsimp only
        rw [if_pos same]
        exact .later apart same (ih _ _ (by omega))
      · dsimp only
        rw [if_neg same]
        exact .earlier apart same (ih _ _ (by omega))
    · rw [if_neg apart]
      exact .done apart

/-- The search ends at a minute whose offset is another than the one of the minute before. -/
theorem Searches.spec {offsetBefore low high found : Int}
    (search : Searches zone offsetBefore low high found) (apart : low < high)
    (before : shownOffset zone (low * 60000) = offsetBefore)
    (after : shownOffset zone (high * 60000) ≠ offsetBefore) :
    low < found ∧ found ≤ high ∧ shownOffset zone ((found - 1) * 60000) = offsetBefore ∧
      shownOffset zone (found * 60000) ≠ offsetBefore := by
  induction search with
  | done near =>
    refine ⟨apart, le_refl _, ?_, after⟩
    rw [← before]
    congr 2
    omega
  | later far same rest ih =>
    obtain ⟨first, last, prior, next⟩ := ih (by omega) same after
    exact ⟨by omega, last, prior, next⟩
  | earlier far other rest ih =>
    obtain ⟨first, last, prior, next⟩ := ih (by omega) before other
    exact ⟨first, by omega, prior, next⟩

/-! ## A gap -/

/-- The first minute after a gap, which no minute with the wall minute comes before. -/
structure EndsGap (zone : Zone) (wall minute : Int) : Prop where
  none : ∀ m, wallMinute zone m ≠ wall
  first : IsLeast {m | wall < wallMinute zone m} minute

theorem EndsGap.before {minute : Int} (ends : EndsGap zone wall minute) {m : Int}
    (earlier : m < minute) : wallMinute zone m < wall := by
  by_contra above
  have past : wall < wallMinute zone m :=
    lt_of_le_of_ne (not_lt.mp above) (Ne.symm (ends.none m))
  have := ends.first.2 past
  omega

/-- The clock jumps over the wall minute there. -/
theorem EndsGap.jumps {minute : Int} (ends : EndsGap zone wall minute) :
    zone (minute - 1) ≠ zone minute := by
  intro same
  have before := ends.before (m := minute - 1) (by omega)
  have after : wall < wallMinute zone minute := ends.first.1
  unfold wallMinute at before after
  omega

theorem RegularZone.gap_exists (regular : RegularZone zone)
    (none : ∀ m, wallMinute zone m ≠ wall) :
    ∃ minute, EndsGap zone wall minute ∧ wall - 2160 < minute ∧ minute ≤ wall + 2160 := by
  have above : wall < wallMinute zone (wall + 2160) := by
    have := regular.bounded (wall + 2160)
    unfold wallMinute
    omega
  have low : ∀ m, wall < wallMinute zone m → wall - 2160 < m := by
    intro m past
    have := regular.bounded m
    unfold wallMinute at past
    omega
  obtain ⟨minute, past, least⟩ := Int.exists_least_of_bdd
    ⟨wall - 2160, fun m past => (low m past).le⟩ ⟨wall + 2160, above⟩
  refine ⟨minute, ⟨none, past, ?_⟩, low minute past, least _ above⟩
  intro m pastM
  exact least m pastM

/-- The loop over the samples finds the end of the gap. Before it there are only jumps that the
wall minute is not in. -/
theorem gapInstant_samplesFrom (regular : RegularZone zone) (late : firstWall + 4320 ≤ wall)
    {minute : Int} (ends : EndsGap zone wall minute) (n : Nat) (start : Int)
    (inTime : wall - 2160 ≤ start) (after : start < minute) (before : minute ≤ start + 360 * n) :
    gapInstant zone (wall * 60000) (samplesFrom zone n start) = some (minute * 60000) := by
  induction n generalizing start with
  | zero => omega
  | succ n ih =>
    have tail : samplesFrom zone n (start + 360) = sampleAt zone (start + 360) ::
        (samplesFrom zone n (start + 360)).tail := by
      cases n <;> rfl
    rw [samplesFrom, tail]
    unfold gapInstant
    rw [← tail]
    have shown : ∀ m, start ≤ m → shownOffset zone (m * 60000) = zone m * 60000 := by
      intro m later
      exact shownOffset_minute (regular.late late (by omega))
    have clock : ∀ m, start ≤ m →
        wallClockValue (zonedParts zone (m * 60000)) = wallMinute zone m * 60000 := by
      intro m later
      exact wallClockValue_zonedParts (regular.late late (by omega))
    have goesOn : start + 360 < minute →
        gapInstant zone (wall * 60000) (samplesFrom zone n (start + 360)) =
          some (minute * 60000) := by
      intro later
      apply ih (start + 360) (by omega) later
      push_cast at before
      omega
    by_cases same : zone start = zone (start + 360)
    · have sameOffset : (sampleAt zone start).offset = (sampleAt zone (start + 360)).offset := by
        unfold sampleAt
        dsimp only
        rw [shown start (by omega), shown (start + 360) (by omega), same]
      rw [if_pos sameOffset]
      apply goesOn
      by_contra inside
      exact ends.jumps (regular.no_jump same after (by omega))
    · have otherOffset : (sampleAt zone start).offset ≠ (sampleAt zone (start + 360)).offset := by
        unfold sampleAt
        dsimp only
        rw [shown start (by omega), shown (start + 360) (by omega)]
        omega
      rw [if_neg otherOffset]
      have low : (sampleAt zone start).instant / 60000 = start := by
        unfold sampleAt
        dsimp only
        omega
      have high : -(-(sampleAt zone (start + 360)).instant / 60000) = start + 360 := by
        unfold sampleAt
        dsimp only
        omega
      dsimp only
      rw [low, high]
      have search := searches_transitionMinute zone (sampleAt zone start).offset
        (start + 360 - start).toNat start (start + 360) (by omega)
      obtain ⟨first, last, prior, next⟩ := search.spec (by omega) rfl (Ne.symm otherOffset)
      generalize transitionMinute zone (sampleAt zone start).offset
        (start + 360 - start).toNat start (start + 360) = jump at *
      have jumps : zone (jump - 1) ≠ zone jump := by
        intro sameZone
        apply next
        rw [← prior, shown jump (by omega), shown (jump - 1) (by omega), sameZone]
      rw [clock (jump - 1) (by omega), clock jump (by omega)]
      by_cases inside : minute ≤ start + 360
      · -- the jump of these six hours is the end of the gap
        have isJump := regular.one_jump first last jumps after inside ends.jumps
        rw [← isJump] at first last ⊢
        have below := ends.before (m := minute - 1) (by omega)
        have above : wall < wallMinute zone minute := ends.first.1
        rw [if_pos ⟨by omega, by omega⟩]
      · have notYet := ends.before (m := jump) (by omega)
        rw [if_neg (by omega)]
        exact goesOn (by omega)

/-! ## The resolved minute -/

theorem resolve_late (regular : RegularZone zone) (late : firstWall + 4320 ≤ wall)
    {date : CivilDate} {minuteOfDay : Int} (desired : desiredWall date minuteOfDay = wall * 60000)
    (boundary : Boundary) :
    ∃ minute, resolveZonedWallMinute zone date minuteOfDay boundary = .ok (minute * 60000) ∧
      ResolvesTo zone wall boundary minute := by
  unfold resolveZonedWallMinute
  dsimp only
  rw [desired]
  cases isFirst : (exactInstants zone (wall * 60000)).head? with
  | some first =>
    obtain ⟨minute, same, resolves⟩ := resolve_exact regular late boundary isFirst
    refine ⟨minute, ?_, resolves⟩
    exact congrArg Except.ok same
  | none =>
    have none : ∀ m, wallMinute zone m ≠ wall := by
      intro m shown
      have member := (mem_exactInstants regular late).mpr ⟨m, rfl, shown⟩
      rw [List.head?_eq_none_iff.mp isFirst] at member
      cases member
    obtain ⟨minute, ends, after, before⟩ := regular.gap_exists none
    have found : gapInstant zone (wall * 60000) (offsetSamples zone (wall * 60000)) =
        some (minute * 60000) := by
      rw [offsetSamples_eq]
      exact gapInstant_samplesFrom regular late ends 12 _ (by omega) after (by push_cast; omega)
    dsimp only
    rw [found]
    have noMinute : ¬∃ m, wallMinute zone m = wall := by
      rintro ⟨m, shown⟩
      exact none m shown
    exact ⟨minute, rfl, fun some => absurd some noMinute, fun some => absurd some noMinute,
      fun _ => ends.first⟩

end screengoblin.schedule
