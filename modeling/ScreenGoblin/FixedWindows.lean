-- Fixed windows: a counter for each key that counts the hits on it and begins again a span of
-- time after its first hit. How many hits can be shown a small count, and what a large count
-- tells about the hits before it.
import Mathlib

namespace windows

/-! ## Counters -/

structure Counter where
  count : Nat
  ends : Int
  deriving DecidableEq

/-- When the first hit of a counter was. -/
def Counter.begins (span : Int) (c : Counter) : Int := c.ends - span

/-- What a hit at `now` makes of the counter of its key. A hit at the very end of a counter may
still count on it, or begin the next one. -/
inductive Hit (span now : Int) : Option Counter → Counter → Prop
  | first : Hit span now none ⟨1, now + span⟩
  | again {c : Counter} (ended : c.ends ≤ now) : Hit span now (some c) ⟨1, now + span⟩
  | more {c : Counter} (live : now ≤ c.ends) : Hit span now (some c) ⟨c.count + 1, c.ends⟩

/-- A hit that does not come at the very end of the counter can go one way only. -/
theorem Hit.unique {span now : Int} {counter : Option Counter} {c c' : Counter}
    (hit : Hit span now counter c) (hit' : Hit span now counter c')
    (clear : ∀ c₀, counter = some c₀ → c₀.ends ≠ now) : c = c' := by
  cases hit with
  | first =>
    cases hit'
    rfl
  | @again c₀ ended =>
    cases hit' with
    | again _ => rfl
    | more live => exact absurd (le_antisymm ended live) (clear c₀ rfl)
  | @more c₀ live =>
    cases hit' with
    | again ended => exact absurd (le_antisymm ended live) (clear c₀ rfl)
    | more _ => rfl

/-- A hit in the past, with the count that it was shown. -/
structure Seen where
  time : Int
  count : Nat
  deriving DecidableEq

/-- The counter of a key at `clock`, and the hits on the key so far with the latest one first. -/
inductive Hits (span : Int) : Int → Option Counter → List Seen → Prop
  | start {clock : Int} : Hits span clock none []
  | later {clock clock' : Int} {counter : Option Counter} {past : List Seen}
      (hits : Hits span clock counter past) (later : clock ≤ clock') :
      Hits span clock' counter past
  | hit {clock : Int} {counter : Option Counter} {past : List Seen} {c : Counter}
      (hits : Hits span clock counter past) (hit : Hit span clock counter c) :
      Hits span clock (some c) (⟨clock, c.count⟩ :: past)

/-- A hit from the time `since` on that was shown a count of at most `maximum`. -/
def Seen.within (maximum : Nat) (since : Int) (h : Seen) : Bool :=
  decide (h.count ≤ maximum) && decide (since ≤ h.time)

@[simp]
theorem within_iff {maximum : Nat} {since : Int} {h : Seen} :
    h.within maximum since = true ↔ h.count ≤ maximum ∧ since ≤ h.time := by
  simp [Seen.within]

variable {span clock : Int} {counter : Option Counter} {past : List Seen} {c : Counter}

theorem Hits.time_le (hits : Hits span clock counter past) : ∀ h ∈ past, h.time ≤ clock := by
  induction hits with
  | start => simp
  | later _ later ih =>
    intro h member
    exact (ih h member).trans later
  | hit _ _ ih =>
    intro h member
    rcases List.mem_cons.mp member with rfl | member
    · exact le_refl _
    · exact ih h member

theorem Hits.begins_le (hits : Hits span clock counter past) :
    ∀ c, counter = some c → c.begins span ≤ clock := by
  induction hits with
  | start => simp
  | later _ later ih =>
    intro c eq
    exact (ih c eq).trans later
  | hit _ hit ih =>
    intro c eq
    cases eq
    cases hit with
    | first => simp [Counter.begins]
    | again _ => simp [Counter.begins]
    | @more c live => exact ih c rfl

/-! ## How many hits are within a maximum -/

/-- The hits from `since` on, as the window of the counter tells: those of an earlier window are
at most `maximum` for each span since then. -/
structure Bounded (span : Int) (maximum : Nat) (since : Int) (c : Counter) (n : Nat) : Prop where
  before : c.begins span < since → n ≤ min c.count maximum
  after : since ≤ c.begins span →
    (n : Int) ≤ maximum * ((c.begins span - since) / span + 1) + min c.count maximum

theorem Bounded.more {maximum n : Nat} {since : Int}
    (bounded : Bounded span maximum since c n) (shown : Bool)
    (small : shown = true → c.count + 1 ≤ maximum) :
    Bounded span maximum since ⟨c.count + 1, c.ends⟩ (n + if shown then 1 else 0) := by
  have grows : min c.count maximum + (if shown then 1 else 0) ≤ min (c.count + 1) maximum := by
    cases shown with
    | false => simp only [Bool.false_eq_true, if_false]; omega
    | true =>
      have := small rfl
      simp only [if_true]
      omega
  refine ⟨?_, ?_⟩
  · intro before
    exact (Nat.add_le_add_right (bounded.before before) _).trans grows
  · intro after
    have old := bounded.after after
    have grows' : ((min c.count maximum + if shown then 1 else 0 : Nat) : Int) ≤
        (min (c.count + 1) maximum : Nat) := Int.ofNat_le.mpr grows
    simp only [Counter.begins] at *
    push_cast at *
    omega

/-- The hits before a time at which no counter is open fit into the spans since then. -/
theorem Bounded.room {maximum n : Nat} {since now : Int} (positive : 0 < span)
    (bounded : Bounded span maximum since c n) (ended : c.ends ≤ now) (later : since ≤ now) :
    (n : Int) ≤ maximum * ((now - since) / span + 1) := by
  have few : ((min c.count maximum : Nat) : Int) ≤ maximum := by
    exact_mod_cast min_le_right c.count maximum
  by_cases first : c.begins span < since
  · have spans : 0 ≤ (now - since) / span := Int.ediv_nonneg (by omega) positive.le
    have old : (n : Int) ≤ maximum := (Int.ofNat_le.mpr (bounded.before first)).trans few
    calc (n : Int) ≤ maximum * (0 + 1) := by omega
      _ ≤ maximum * ((now - since) / span + 1) := by gcongr
  · have one : (c.begins span - since) / span + 1 ≤ (now - since) / span := by
      have next : c.begins span - since + span ≤ now - since := by
        simp only [Counter.begins]
        omega
      calc (c.begins span - since) / span + 1
          = (c.begins span - since + span) / span := by
            rw [Int.add_ediv_of_dvd_right dvd_rfl, Int.ediv_self positive.ne']
        _ ≤ (now - since) / span := Int.ediv_le_ediv positive next
    calc (n : Int) ≤ maximum * ((c.begins span - since) / span + 1) + maximum :=
          (bounded.after (not_lt.mp first)).trans (by omega)
      _ = maximum * ((c.begins span - since) / span + 1 + 1) := by ring
      _ ≤ maximum * ((now - since) / span + 1) := by gcongr

theorem Bounded.opens {maximum n : Nat} {since now : Int} (early : now < since → n = 0)
    (room : since ≤ now → (n : Int) ≤ maximum * ((now - since) / span + 1)) (shown : Bool)
    (small : shown = true → 1 ≤ maximum) :
    Bounded span maximum since ⟨1, now + span⟩ (n + if shown then 1 else 0) := by
  have own : (if shown then 1 else 0) ≤ min 1 maximum := by
    cases shown with
    | false => simp
    | true => simpa using small rfl
  have begins : Counter.begins span ⟨1, now + span⟩ = now := by simp [Counter.begins]
  refine ⟨?_, ?_⟩
  · intro before
    rw [begins] at before
    rw [early before, Nat.zero_add]
    exact own
  · intro after
    rw [begins] at after ⊢
    rw [Int.natCast_add]
    exact add_le_add (room after) (Int.ofNat_le.mpr own)

theorem Hits.bounded (positive : 0 < span) (maximum : Nat) (since : Int)
    (hits : Hits span clock counter past) :
    (counter = none → past = []) ∧
      ∀ c, counter = some c →
        Bounded span maximum since c (past.countP (Seen.within maximum since)) := by
  induction hits with
  | start => simp
  | later _ _ ih => exact ih
  | @hit clock counter past c hits hit ih =>
    refine ⟨by simp, ?_⟩
    intro c' eq
    cases eq
    rw [List.countP_cons]
    have early : clock < since → past.countP (Seen.within maximum since) = 0 := by
      intro before
      apply List.countP_eq_zero.mpr
      intro h member
      have := hits.time_le h member
      rw [within_iff]
      omega
    cases hit with
    | first =>
      refine Bounded.opens early ?_ _ (by simp +contextual)
      intro later
      have spans : 0 ≤ (clock - since) / span := Int.ediv_nonneg (by omega) positive.le
      rw [ih.1 rfl]
      simp only [List.countP_nil]
      positivity
    | again ended =>
      exact Bounded.opens early ((ih.2 _ rfl).room positive ended) _
        (by simp +contextual)
    | more live => exact (ih.2 _ rfl).more _ (by simp +contextual)

/-- From `since` on, at most `maximum` hits for each span that has begun since then, and as many
again, are shown a count of at most `maximum`. -/
theorem Hits.countP_within_le (positive : 0 < span) (hits : Hits span clock counter past)
    (maximum : Nat) {since : Int} (earlier : since ≤ clock) :
    (past.countP (Seen.within maximum since) : Int) ≤
      maximum * ((clock - since) / span + 2) := by
  have spans : 0 ≤ (clock - since) / span := Int.ediv_nonneg (by omega) positive.le
  cases counter with
  | none =>
    rw [(hits.bounded positive maximum since).1 rfl]
    simp only [List.countP_nil]
    positivity
  | some c =>
    have bounded := (hits.bounded positive maximum since).2 c rfl
    have begins := hits.begins_le c rfl
    have few : ((min c.count maximum : Nat) : Int) ≤ maximum := by
      exact_mod_cast min_le_right c.count maximum
    by_cases first : c.begins span < since
    · calc (past.countP (Seen.within maximum since) : Int)
          ≤ (min c.count maximum : Nat) := Int.ofNat_le.mpr (bounded.before first)
        _ ≤ maximum * 1 := by omega
        _ ≤ maximum * ((clock - since) / span + 2) := by gcongr; omega
    · have spent : (c.begins span - since) / span ≤ (clock - since) / span :=
        Int.ediv_le_ediv positive (by omega)
      calc (past.countP (Seen.within maximum since) : Int)
          ≤ maximum * ((c.begins span - since) / span + 1) + maximum :=
            (bounded.after (not_lt.mp first)).trans (by omega)
        _ = maximum * ((c.begins span - since) / span + 2) := by ring
        _ ≤ maximum * ((clock - since) / span + 2) := by gcongr

/-! ## What a large count tells -/

/-- The counter has counted its hits. -/
theorem Hits.counted (hits : Hits span clock counter past) (maximum : Nat) :
    ∀ c, counter = some c →
      min c.count maximum ≤ past.countP (Seen.within maximum (c.begins span)) := by
  induction hits with
  | start => simp
  | later _ _ ih => exact ih
  | @hit clock counter past c hits hit ih =>
    intro c' eq
    cases eq
    rw [List.countP_cons]
    cases hit with
    | first | again _ =>
      have begins : Counter.begins span ⟨1, clock + span⟩ = clock := by simp [Counter.begins]
      rw [begins]
      by_cases one : 1 ≤ maximum
      · simp [one]
      · simp at one
        simp [one]
    | @more c live =>
      have old := ih c rfl
      have begins := hits.begins_le c rfl
      have same : Counter.begins span ⟨c.count + 1, c.ends⟩ = c.begins span := rfl
      rw [same]
      by_cases small : c.count + 1 ≤ maximum
      · have own : Seen.within maximum (c.begins span) ⟨clock, c.count + 1⟩ = true := by
          simp [small, begins]
        rw [own]
        simp only [if_true]
        omega
      · simp only at small ⊢
        omega

/-- A hit that is shown more than `maximum` comes within a span of that many hits. -/
theorem Hits.of_count_gt (hits : Hits span clock counter past) (hit : Hit span clock counter c)
    {maximum : Nat} (large : maximum < c.count) :
    maximum ≤ past.countP (Seen.within maximum (clock - span)) := by
  cases hit with
  | first => simp at large; simp [large]
  | again _ => simp at large; simp [large]
  | @more c live =>
    have counted := hits.counted maximum c rfl
    simp only at large
    have all : min c.count maximum = maximum := by omega
    rw [all] at counted
    refine counted.trans (List.countP_mono_left ?_)
    intro h _ within
    simp only [within_iff, Counter.begins] at within ⊢
    omega

/-! ## A counter for each key -/

variable {κ : Type} [DecidableEq κ]

/-- A hit on one of many keys. -/
structure Entry (κ : Type) where
  key : κ
  time : Int
  count : Nat

/-- The hits on a key. -/
def on (key : κ) (entries : List (Entry κ)) : List Seen :=
  (entries.filter fun e => e.key = key).map fun e => ⟨e.time, e.count⟩

/-- Each counter is what the hits on its key have made it. -/
def Counts (span clock : Int) (counters : κ → Option Counter) (entries : List (Entry κ)) : Prop :=
  ∀ key, Hits span clock (counters key) (on key entries)

variable {counters : κ → Option Counter} {entries : List (Entry κ)}

theorem counts_none (span clock : Int) : Counts span clock (fun _ : κ => none) [] :=
  fun _ => .start

theorem Counts.later {clock' : Int} (counts : Counts span clock counters entries)
    (later : clock ≤ clock') : Counts span clock' counters entries :=
  fun key => (counts key).later later

theorem Counts.hit (counts : Counts span clock counters entries) {key : κ}
    (hit : Hit span clock (counters key) c) :
    Counts span clock (Function.update counters key (some c))
      (⟨key, clock, c.count⟩ :: entries) := by
  intro other
  by_cases same : other = key
  · subst same
    have added : on other (⟨other, clock, c.count⟩ :: entries) =
        ⟨clock, c.count⟩ :: on other entries := by simp [on]
    rw [added, Function.update_self]
    exact (counts other).hit hit
  · have kept : on other (⟨key, clock, c.count⟩ :: entries) = on other entries := by
      simp [on, Ne.symm same]
    rw [kept, Function.update_of_ne same]
    exact counts other

end windows
