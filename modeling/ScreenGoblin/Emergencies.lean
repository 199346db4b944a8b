-- The active emergency of a screen, as the memory store and the Prisma store select it
-- (`activeEmergency` in apps/api/src/store/memory.ts and prisma.ts). The memory store takes
-- the oldest override that it counts as active, and compares expiries as texts. The Prisma
-- store takes the newest one, and compares expiries as instants.
import ScreenGoblin.ReleaseLaws

open js collections screengoblin.schedule

namespace screengoblin.server

structure EmergencyRecord where
  id : String
  organizationId : String
  title : String
  message : String
  backgroundColor : String
  targetScreenIds : List String
  startsAt : Int
  expiresAt : String
  clearedAt : Option Int
  createdById : String
  createdAt : Int
  deriving DecidableEq

/-! ## The memory store -/

/-- `x.expiresAt > at` compares two texts. -/
def textIsLater (text : String) (other : String) : Bool := !decide (TextLe text other)

/-- The test of `MemoryStore.activeEmergency`. -/
def memoryHolds (P : Platform) (org screenId : String) (instant : Int) (x : EmergencyRecord) :
    Bool :=
  x.organizationId == org && x.targetScreenIds.contains screenId &&
    decide (x.startsAt ≤ instant) && textIsLater x.expiresAt (P.toISOString instant) &&
    x.clearedAt.isNone

/-- `MemoryStore.activeEmergency`, over the overrides in the order of their creation. -/
def memoryActiveEmergency (P : Platform) (emergencies : List EmergencyRecord)
    (org screenId : String) (instant : Int) : Option EmergencyRecord :=
  emergencies.find? (memoryHolds P org screenId instant)

/-! ## The Prisma store -/

/-- A row of the table, where the expiry is an instant. -/
structure EmergencyOverrideRow where
  id : String
  organizationId : String
  title : String
  message : String
  backgroundColor : String
  targetScreenIds : List String
  startsAt : Int
  expiresAt : Int
  clearedAt : Option Int
  createdById : String
  createdAt : Int
  deriving DecidableEq

/-- The row that `activateEmergencyAndAudit` stores, with `new Date(data.expiresAt)`. -/
def emergencyRow (P : Platform) (x : EmergencyRecord) : Option EmergencyOverrideRow :=
  (P.dateParse x.expiresAt).map fun expiresAt =>
    { id := x.id, organizationId := x.organizationId, title := x.title, message := x.message,
      backgroundColor := x.backgroundColor, targetScreenIds := x.targetScreenIds,
      startsAt := x.startsAt, expiresAt := expiresAt, clearedAt := x.clearedAt,
      createdById := x.createdById, createdAt := x.createdAt }

def emergencyDto (P : Platform) (x : EmergencyOverrideRow) : EmergencyRecord :=
  { id := x.id, organizationId := x.organizationId, title := x.title, message := x.message,
    backgroundColor := x.backgroundColor, targetScreenIds := x.targetScreenIds,
    startsAt := x.startsAt, expiresAt := P.toISOString x.expiresAt, clearedAt := x.clearedAt,
    createdById := x.createdById, createdAt := x.createdAt }

/-- The `where` of the query. -/
def prismaHolds (org screenId : String) (instant : Int) (x : EmergencyOverrideRow) : Bool :=
  x.organizationId == org && x.targetScreenIds.contains screenId &&
    decide (x.startsAt ≤ instant) && decide (instant < x.expiresAt) && x.clearedAt.isNone

/-- `PrismaStore.activeEmergency`: the first row of the newest ones. -/
def prismaActiveEmergency (P : Platform) (rows : List EmergencyOverrideRow)
    (org screenId : String) (instant : Int) : Option EmergencyRecord :=
  (((rows.filter (prismaHolds org screenId instant)).insertionSort fun x y =>
    y.createdAt ≤ x.createdAt).head?).map (emergencyDto P)

/-! ## The override to select -/

/-- The override is for the screen, has started, is not over and was not cleared. -/
structure Active (P : Platform) (org screenId : String) (instant : Int) (x : EmergencyRecord) :
    Prop where
  organization : x.organizationId = org
  target : screenId ∈ x.targetScreenIds
  started : x.startsAt ≤ instant
  unexpired : ∃ expiresAt, P.dateParse x.expiresAt = some expiresAt ∧ instant < expiresAt
  uncleared : x.clearedAt = none

/-- The most recently created override that is active, or nothing. -/
def MostRecent (P : Platform) (emergencies : List EmergencyRecord) (org screenId : String)
    (instant : Int) : Option EmergencyRecord → Prop
  | some x => x ∈ emergencies ∧ Active P org screenId instant x ∧
      ∀ y ∈ emergencies, Active P org screenId instant y → y.createdAt ≤ x.createdAt
  | none => ∀ x ∈ emergencies, ¬Active P org screenId instant x

/-- The two stores select one override, the most recent active one, or both select none. -/
def SelectAlike (P : Platform) (emergencies : List EmergencyRecord)
    (rows : List EmergencyOverrideRow) (org screenId : String) (instant : Int) : Prop :=
  ∃ chosen, MostRecent P emergencies org screenId instant chosen ∧
    memoryActiveEmergency P emergencies org screenId instant = chosen ∧
    prismaActiveEmergency P rows org screenId instant =
      (chosen.bind (emergencyRow P)).map (emergencyDto P)

/-- No override counts as active for either store, or one override is active for both, no older
one counts for the memory store and no newer one is active. -/
def OneStands (P : Platform) (emergencies : List EmergencyRecord) (org screenId : String)
    (instant : Int) : Prop :=
  (∀ x ∈ emergencies, memoryHolds P org screenId instant x = false ∧
      ¬Active P org screenId instant x) ∨
    ∃ older x newer, emergencies = older ++ x :: newer ∧
      memoryHolds P org screenId instant x = true ∧ Active P org screenId instant x ∧
      (∀ y ∈ older, memoryHolds P org screenId instant y = false) ∧
      ∀ y ∈ newer, ¬Active P org screenId instant y

theorem prismaHolds_iff {P : Platform} {org screenId : String} {instant : Int}
    {x : EmergencyRecord} {row : EmergencyOverrideRow} (stored : emergencyRow P x = some row) :
    prismaHolds org screenId instant row = true ↔ Active P org screenId instant x := by
  unfold emergencyRow at stored
  obtain ⟨expiresAt, parsed, rfl⟩ := Option.map_eq_some_iff.mp stored
  unfold prismaHolds
  simp only [Bool.and_eq_true, beq_iff_eq, List.contains_eq_mem, decide_eq_true_eq,
    Option.isNone_iff_eq_none, and_assoc]
  constructor
  · rintro ⟨organization, target, started, unexpired, uncleared⟩
    exact ⟨organization, target, started, ⟨expiresAt, parsed, unexpired⟩, uncleared⟩
  · intro active
    obtain ⟨e, parsed', unexpired⟩ := active.unexpired
    rw [parsed] at parsed'
    cases parsed'
    exact ⟨active.organization, active.target, active.started, unexpired, active.uncleared⟩

section
variable {P : Platform} {emergencies : List EmergencyRecord} {rows : List EmergencyOverrideRow}
  {org screenId : String} {instant : Int}

/-- Two different overrides were created at different instants. -/
theorem created_apart (created : emergencies.Pairwise fun x y => x.createdAt < y.createdAt)
    {x y : EmergencyRecord} (hx : x ∈ emergencies) (hy : y ∈ emergencies)
    (same : x.createdAt = y.createdAt) : x = y := by
  have unique : KeysUnique EmergencyRecord.createdAt emergencies := by
    unfold KeysUnique List.Nodup
    rw [List.pairwise_map]
    exact created.imp fun earlier => by omega
  exact unique.eq hx hy same

/-- The most recent active override is one. -/
theorem mostRecent_unique (created : emergencies.Pairwise fun x y => x.createdAt < y.createdAt)
    {chosen chosen' : Option EmergencyRecord}
    (h : MostRecent P emergencies org screenId instant chosen)
    (h' : MostRecent P emergencies org screenId instant chosen') : chosen = chosen' := by
  cases chosen with
  | none =>
    cases chosen' with
    | none => rfl
    | some y => exact absurd h'.2.1 (h y h'.1)
  | some x =>
    cases chosen' with
    | none => exact absurd h.2.1 (h' x h.1)
    | some y =>
      have first := h.2.2 y h'.1 h'.2.1
      have second := h'.2.2 x h.1 h.2.1
      rw [created_apart created h.1 h'.1 (by omega)]

/-- The rows of the table are those of the overrides. -/
theorem row_of_override (stored : emergencies.mapM (emergencyRow P) = some rows)
    {row : EmergencyOverrideRow} (member : row ∈ rows) :
    ∃ x ∈ emergencies, emergencyRow P x = some row := by
  rw [mapM_eq_some_iff] at stored
  induction stored with
  | nil => cases member
  | cons first _ ih =>
    rcases List.mem_cons.mp member with rfl | member
    · exact ⟨_, List.mem_cons_self, first⟩
    · obtain ⟨x, hx, found⟩ := ih member
      exact ⟨x, List.mem_cons_of_mem _ hx, found⟩

/-- The Prisma store selects the most recent active override. -/
theorem prisma_selects (created : emergencies.Pairwise fun x y => x.createdAt < y.createdAt)
    (stored : emergencies.mapM (emergencyRow P) = some rows) :
    ∃ chosen, MostRecent P emergencies org screenId instant chosen ∧
      prismaActiveEmergency P rows org screenId instant =
        (chosen.bind (emergencyRow P)).map (emergencyDto P) := by
  let holding := rows.filter (prismaHolds org screenId instant)
  have sameCreation : ∀ {x row}, emergencyRow P x = some row → row.createdAt = x.createdAt := by
    intro x row found
    obtain ⟨_, _, rfl⟩ := Option.map_eq_some_iff.mp found
    rfl
  have order : OrderedOn (fun x y : EmergencyOverrideRow => y.createdAt ≤ x.createdAt) holding := by
    refine ⟨fun x _ y _ => by omega, fun x _ y _ z _ => by omega, ?_⟩
    intro row hrow row' hrow' le ge
    obtain ⟨x, hx, found⟩ := row_of_override stored (List.mem_filter.mp hrow).1
    obtain ⟨y, hy, found'⟩ := row_of_override stored (List.mem_filter.mp hrow').1
    have same := created_apart created hx hy
      (by rw [← sameCreation found, ← sameCreation found']; omega)
    rw [same, found'] at found
    cases found
    rfl
  cases head : (holding.insertionSort fun x y => y.createdAt ≤ x.createdAt).head? with
  | none =>
    refine ⟨none, ?_, ?_⟩
    · intro x hx active
      obtain ⟨row, hrow, found⟩ := mapM_mem stored hx
      have inHolding : row ∈ holding :=
        List.mem_filter.mpr ⟨hrow, (prismaHolds_iff found).mpr active⟩
      have empty := List.head?_eq_none_iff.mp head
      rw [← List.mem_insertionSort fun x y : EmergencyOverrideRow => y.createdAt ≤ x.createdAt,
        empty] at inHolding
      cases inHolding
    · unfold prismaActiveEmergency
      rw [head]
      rfl
  | some row =>
    have first : (holding.insertionSort fun x y => y.createdAt ≤ x.createdAt).find?
        (fun _ => true) = some row := by
      rw [← head]
      cases holding.insertionSort fun x y => y.createdAt ≤ x.createdAt <;> rfl
    obtain ⟨hrow, _, newest⟩ := order.find_insertionSort.mp first
    obtain ⟨member, holds⟩ := List.mem_filter.mp hrow
    obtain ⟨x, hx, found⟩ := row_of_override stored member
    refine ⟨some x, ⟨hx, (prismaHolds_iff found).mp holds, ?_⟩, ?_⟩
    · intro y hy active
      obtain ⟨row', hrow', found'⟩ := mapM_mem stored hy
      have later := newest row'
        (List.mem_filter.mpr ⟨hrow', (prismaHolds_iff found').mpr active⟩) rfl
      rw [sameCreation found, sameCreation found'] at later
      exact later
    · unfold prismaActiveEmergency
      rw [head, Option.bind_some, found]

/-- The memory store selects an override exactly when it is the first one that counts. -/
theorem memory_selects {x : EmergencyRecord} :
    memoryActiveEmergency P emergencies org screenId instant = some x ↔
      memoryHolds P org screenId instant x = true ∧ ∃ older newer,
        emergencies = older ++ x :: newer ∧
        ∀ y ∈ older, memoryHolds P org screenId instant y = false := by
  unfold memoryActiveEmergency
  rw [List.find?_eq_some_iff_append]
  simp

end

/-- The stores select alike exactly when at most one override stands. -/
theorem the_stores_select_one_emergency (P : Platform) (emergencies : List EmergencyRecord)
    (rows : List EmergencyOverrideRow)
    (created : emergencies.Pairwise fun x y => x.createdAt < y.createdAt)
    (stored : emergencies.mapM (emergencyRow P) = some rows) (org screenId : String)
    (instant : Int) :
    SelectAlike P emergencies rows org screenId instant ↔
      OneStands P emergencies org screenId instant := by
  obtain ⟨recent, mostRecent, prisma⟩ :=
    @prisma_selects P emergencies rows org screenId instant created stored
  constructor
  · rintro ⟨chosen, isRecent, memory, _⟩
    cases chosen with
    | none =>
      refine .inl ?_
      intro x hx
      have fails := List.find?_eq_none.mp memory x hx
      exact ⟨by simpa using fails, isRecent x hx⟩
    | some x =>
      obtain ⟨holds, older, newer, rfl, before⟩ := memory_selects.mp memory
      refine .inr ⟨older, x, newer, rfl, holds, isRecent.2.1, before, ?_⟩
      intro y hy active
      have later := (List.pairwise_cons.mp (List.pairwise_append.mp created).2.1).1 y hy
      have notLater := isRecent.2.2 y (by simp [hy]) active
      omega
  · intro stands
    refine ⟨recent, mostRecent, ?_, prisma⟩
    rcases stands with none | ⟨older, x, newer, rfl, holds, active, before, after⟩
    · have nothing : MostRecent P emergencies org screenId instant Option.none :=
        fun x hx => (none x hx).2
      rw [mostRecent_unique created mostRecent nothing]
      refine List.find?_eq_none.mpr ?_
      intro x hx
      simp [(none x hx).1]
    · have newest : MostRecent P (older ++ x :: newer) org screenId instant (some x) := by
        refine ⟨by simp, active, ?_⟩
        intro y hy activeToo
        rcases List.mem_append.mp hy with old | late
        · have earlier := (List.pairwise_append.mp created).2.2 y old x List.mem_cons_self
          omega
        · rcases List.mem_cons.mp late with rfl | late
          · omega
          · exact absurd activeToo (after y late)
      rw [mostRecent_unique created mostRecent newest]
      exact memory_selects.mpr ⟨holds, older, newer, rfl, before⟩

/-! ## Two alarms in the lobby -/

def alarm (id title : String) (createdAt : Int) : EmergencyRecord :=
  { id, organizationId := "acme", title, message := "Leave the building"
    backgroundColor := "#C1121F", targetScreenIds := ["lobby"], startsAt := createdAt
    expiresAt := "2026-01-06T00:00:00.000Z", clearedAt := none, createdById := "ben"
    createdAt }

def smoke : EmergencyRecord := alarm "alarm-1" "Smoke" (mondayAt 9)

def flood : EmergencyRecord := alarm "alarm-2" "Flood" (mondayAt 9 + 60000)

def alarmRow (x : EmergencyRecord) : EmergencyOverrideRow :=
  { id := x.id, organizationId := x.organizationId, title := x.title, message := x.message
    backgroundColor := x.backgroundColor, targetScreenIds := x.targetScreenIds
    startsAt := x.startsAt, expiresAt := mondayAt 24, clearedAt := x.clearedAt
    createdById := x.createdById, createdAt := x.createdAt }

/-- A drill that is over. -/
def drill : EmergencyRecord :=
  { alarm "alarm-0" "Drill" (mondayAt 9 - 60000) with clearedAt := some (mondayAt 9) }

/-- An alarm for another screen. -/
def leak : EmergencyRecord :=
  { alarm "alarm-3" "Leak" (mondayAt 9 + 60000) with targetScreenIds := ["hall"] }

/-- The drill is over and the leak is not in the lobby, so both stores select the smoke. -/
theorem one_alarm_is_selected_by_both_stores :
    SelectAlike cms [drill, smoke, leak] [alarmRow drill, alarmRow smoke, alarmRow leak] "acme"
      "lobby" (mondayAt 9 + 120000) := by
  refine (the_stores_select_one_emergency cms [drill, smoke, leak]
    [alarmRow drill, alarmRow smoke, alarmRow leak] (by decide) (by decide +kernel) "acme" "lobby"
    (mondayAt 9 + 120000)).mpr ?_
  refine .inr ⟨[drill], smoke, [leak], rfl, by decide +kernel, ?_, ?_, ?_⟩
  · exact ⟨rfl, by decide, by decide, ⟨mondayAt 24, by decide +kernel, by decide⟩, rfl⟩
  · intro y isDrill
    rw [List.mem_singleton.mp isDrill]
    decide +kernel
  · intro y isLeak active
    rw [List.mem_singleton.mp isLeak] at active
    exact absurd active.target (by decide)

/-- With two alarms, the memory store shows the older one and the Prisma store the newer one. -/
theorem two_alarms_divide_the_stores :
    [smoke, flood].Pairwise (fun x y => x.createdAt < y.createdAt) ∧
      [smoke, flood].mapM (emergencyRow cms) = some [alarmRow smoke, alarmRow flood] ∧
      memoryActiveEmergency cms [smoke, flood] "acme" "lobby" (mondayAt 9 + 120000) =
        some smoke ∧
      prismaActiveEmergency cms [alarmRow smoke, alarmRow flood] "acme" "lobby"
        (mondayAt 9 + 120000) = some flood ∧
      ¬SelectAlike cms [smoke, flood] [alarmRow smoke, alarmRow flood] "acme" "lobby"
        (mondayAt 9 + 120000) := by
  have memory : memoryActiveEmergency cms [smoke, flood] "acme" "lobby" (mondayAt 9 + 120000) =
      some smoke := by decide +kernel
  have prisma : prismaActiveEmergency cms [alarmRow smoke, alarmRow flood] "acme" "lobby"
      (mondayAt 9 + 120000) = some flood := by decide +kernel
  have row : emergencyRow cms smoke = some (alarmRow smoke) := by decide +kernel
  have dto : emergencyDto cms (alarmRow smoke) ≠ flood := by decide +kernel
  refine ⟨by decide, by decide +kernel, memory, prisma, ?_⟩
  rintro ⟨chosen, _, first, second⟩
  rw [memory] at first
  subst first
  rw [prisma, Option.bind_some, row, Option.map_some] at second
  exact dto (Option.some.inj second).symm

end screengoblin.server
