-- What the deletion of one screen does to the other screens. The targets of the screen let go
-- of it, and an assignment that was published with an approval needs each of its targets live.
import ScreenGoblin.PrismaDigests

open js collections screengoblin.schedule screengoblin.server

namespace screengoblin.prisma

variable {P : Platform} {db : Database} {org screenId : String}

/-! ## What a deletion leaves alone -/

theorem verified_withoutScreen (row : ReleaseAssignmentRow) :
    verifiedReleaseAssignmentDtos P (withoutScreen org screenId db) row =
      verifiedReleaseAssignmentDtos P db row := by
  have record : releaseAssignmentDto row ((withoutScreen org screenId db).targetsOf row) =
      releaseAssignmentDto row (db.targetsOf row) := by
    unfold releaseAssignmentDto
    rw [targetsOf_withoutScreen, targetScreenIds_detach]
  unfold verifiedReleaseAssignmentDtos
  rw [record]
  rfl

theorem isPerm_of_eq {keys keys' : List Json} (same : keys = keys') : keys.isPerm keys' = true := by
  rw [same, List.isPerm_iff]

/-- A withdrawal stays one: its targets and those of the assignment let go of the same screen. -/
theorem withdrawn_withoutScreen (sound : Sound P db) {row : ReleaseAssignmentRow}
    (here : row ∈ db.assignments) :
    hasValidWithdrawalSuccessor P (withoutScreen org screenId db) row =
      hasValidWithdrawalSuccessor P db row := by
  unfold hasValidWithdrawalSuccessor
  show (db.nextAssignmentsOf row).any _ = (db.nextAssignmentsOf row).any _
  apply Bool.eq_iff_iff.mpr
  rw [List.any_eq_true, List.any_eq_true]
  apply exists_congr
  intro next
  apply and_congr_right
  intro isNext
  obtain ⟨stored, follows⟩ := List.mem_filter.mp isNext
  simp only [Bool.and_eq_true, beq_iff_eq] at follows
  obtain ⟨previous, isThere, same, withdraws⟩ := sound.withdrawals next stored row.id follows.1
  have isRow : previous = row := sound.assignmentIds.eq isThere here same
  subst isRow
  have before : sameTargets (db.targetsOf previous) (db.targetsOf next) = true :=
    isPerm_of_eq withdraws.targets.symm
  have after : sameTargets ((withoutScreen org screenId db).targetsOf previous)
      ((withoutScreen org screenId db).targetsOf next) = true := by
    rw [targetsOf_withoutScreen, targetsOf_withoutScreen]
    exact isPerm_of_eq (targetSnapshotKeys_detach withdraws.targets.symm)
  unfold isValidWithdrawalSuccessor
  rw [verified_withoutScreen, verified_withoutScreen, before, after]

/-! ## The live targets -/

theorem isLive_detach {tenant : String} {target : TargetRow}
    (live : isLive tenant (detach org screenId target) = true) : isLive tenant target = true := by
  unfold detach at live
  split at live
  · cases live
  · exact live

theorem isLive_detach_other {tenant : String} {target : TargetRow}
    (other : target.screenId ≠ screenId) :
    isLive tenant (detach org screenId target) = isLive tenant target := by
  unfold detach
  split
  · next gone =>
    simp only [Bool.and_eq_true, beq_iff_eq] at gone
    simp [isLive, gone.1, Ne.symm other]
  · rfl

/-- A screen is one of the targets of a row. -/
def isFor (db : Database) (row : ReleaseAssignmentRow) (screenId : String) : Prop :=
  ∃ target ∈ db.targetsOf row, target.screenId = screenId

instance (db : Database) (row : ReleaseAssignmentRow) (screenId : String) :
    Decidable (isFor db row screenId) :=
  inferInstanceAs (Decidable (∃ target ∈ db.targetsOf row, target.screenId = screenId))

/-- A row gets no provenance from a deletion. -/
theorem provenance_withoutScreen {row : ReleaseAssignmentRow}
    (provenance : hasPublishedAssignmentProvenance (withoutScreen org screenId db) row = true) :
    hasPublishedAssignmentProvenance db row = true := by
  unfold hasPublishedAssignmentProvenance at provenance ⊢
  by_cases needed : (!row.approvalRequired) = true
  · rw [if_pos needed]
  · rw [if_neg needed] at provenance ⊢
    cases final : db.finalPublicationOf row with
    | none =>
      have final' : (withoutScreen org screenId db).finalPublicationOf row = none := final
      rw [final'] at provenance
      cases provenance
    | some publication =>
      have final' : (withoutScreen org screenId db).finalPublicationOf row = some publication :=
        final
      rw [final', targetsOf_withoutScreen] at provenance
      dsimp only at provenance ⊢
      simp only [Bool.and_eq_true, List.all_map, List.isEmpty_map, List.all_eq_true,
        Function.comp_apply] at provenance ⊢
      refine ⟨⟨provenance.1.1, provenance.1.2⟩, ?_⟩
      intro target member
      exact isLive_detach (provenance.2 target member)

/-- A row keeps its provenance when it needs no approval or is not for the screen. -/
theorem provenance_kept {row : ReleaseAssignmentRow}
    (apart : row.approvalRequired = true → ¬isFor db row screenId) :
    hasPublishedAssignmentProvenance (withoutScreen org screenId db) row =
      hasPublishedAssignmentProvenance db row := by
  unfold hasPublishedAssignmentProvenance
  by_cases needed : row.approvalRequired = true
  · have live : ((db.targetsOf row).map (detach org screenId)).all (isLive row.organizationId) =
        (db.targetsOf row).all (isLive row.organizationId) := by
      rw [List.all_map]
      apply Bool.eq_iff_iff.mpr
      rw [List.all_eq_true, List.all_eq_true]
      apply forall_congr'
      intro target
      apply imp_congr_right
      intro member
      rw [Function.comp_apply,
        isLive_detach_other fun same => apart needed ⟨target, member, same⟩]
    rw [targetsOf_withoutScreen, live, List.isEmpty_map]
    rfl
  · simp [needed]

/-- A row with an approval loses its provenance when the screen goes that it is for. -/
theorem provenance_lost {row : ReleaseAssignmentRow} (tenant : row.organizationId = org)
    (needed : row.approvalRequired = true) (shared : isFor db row screenId) :
    hasPublishedAssignmentProvenance (withoutScreen org screenId db) row = false := by
  obtain ⟨target, member, same⟩ := shared
  have dark : isLive row.organizationId (detach org screenId target) = false := by
    unfold detach
    split
    · rfl
    · next stays =>
      simp only [Bool.and_eq_true, beq_iff_eq] at stays
      simp only [isLive, same, tenant, Bool.and_eq_false_iff, beq_eq_false_iff_ne]
      by_contra both
      rw [not_or] at both
      exact stays ⟨not_not.mp both.1, not_not.mp both.2⟩
  have notAll : ((withoutScreen org screenId db).targetsOf row).all
      (isLive row.organizationId) = false := by
    rw [targetsOf_withoutScreen, List.all_eq_false]
    exact ⟨_, List.mem_map.mpr ⟨target, member, rfl⟩, by simp [dark]⟩
  unfold hasPublishedAssignmentProvenance
  rw [notAll]
  simp only [needed, Bool.not_true, Bool.false_eq_true, if_false, Bool.and_false]
  split <;> rfl

/-! ## The other screens -/

section
variable (P : Platform) (db : Database)

/-- The window test says no. It may also throw. -/
def isClosed : Except String Bool → Bool
  | .ok inside => !inside
  | .error _ => false

/-- A row passes each test for a screen that comes before the window test, and its window is not
closed. -/
def reachesScreen (screenId : String) (instant : Int) (row : ReleaseAssignmentRow) : Bool :=
  hasPublishedAssignmentProvenance db row && !hasValidWithdrawalSuccessor P db row &&
    (verifiedReleaseAssignmentDtos P db row).any fun verified =>
      mayShow screenId instant verified.assignment &&
        !isClosed (matchesScheduleWindow P.zones verified.assignment.schedule instant)

/-- What a screen gets: its releases at an instant, and the decisions on its media requests. -/
def SameFor (after : Database) (org screenId : String) (instant : Int) : Prop :=
  activeOrdinaryReleases P after org screenId instant =
      activeOrdinaryReleases P db org screenId instant ∧
    ∀ input : MediaDeliveryAuthorizationInput, input.organizationId = org →
      input.screenId = screenId → input.instant = instant →
        authorizeMediaDelivery P after input = authorizeMediaDelivery P db input

/-- No row that reaches the screen and needs its approval is for the other screen too. -/
def SharesNothing (org other screenId : String) (instant : Int) : Prop :=
  ∀ row ∈ db.assignments, row.organizationId = org → row.state = .assigned →
    row.approvalRequired = true → reachesScreen P db screenId instant row = true →
      ¬isFor db row other

end

theorem select_unreached {instant : Int} {row : ReleaseAssignmentRow}
    (unreached : reachesScreen P db screenId instant row = false) :
    selectAssignment P db screenId instant row = .ok none := by
  unfold reachesScreen at unreached
  unfold selectAssignment
  cases provenance : hasPublishedAssignmentProvenance db row with
  | false => simp
  | true =>
    cases withdrawn : hasValidWithdrawalSuccessor P db row with
    | true => simp
    | false =>
      cases valid : verifiedReleaseAssignmentDtos P db row with
      | none => simp
      | some verified =>
        rw [provenance, withdrawn, valid] at unreached
        cases shows : mayShow screenId instant verified.assignment with
        | false => simp [shows]
        | true =>
          cases window : matchesScheduleWindow P.zones verified.assignment.schedule instant with
          | error message => simp [shows, window, isClosed] at unreached
          | ok inside =>
            cases inside with
            | true => simp [shows, window, isClosed] at unreached
            | false => simp [shows, window, bind, Except.bind]

theorem authorize_unreached {input : MediaDeliveryAuthorizationInput} {row : ReleaseAssignmentRow}
    (unreached : reachesScreen P db input.screenId input.instant row = false) :
    authorizeAssignment P db input row = .ok false := by
  unfold reachesScreen at unreached
  unfold authorizeAssignment
  cases provenance : hasPublishedAssignmentProvenance db row with
  | false => simp
  | true =>
    cases withdrawn : hasValidWithdrawalSuccessor P db row with
    | true => simp
    | false =>
      cases valid : verifiedReleaseAssignmentDtos P db row with
      | none => simp
      | some verified =>
        rw [provenance, withdrawn, valid] at unreached
        cases shows : mayShow input.screenId input.instant verified.assignment with
        | false => simp [shows]
        | true =>
          cases window : matchesScheduleWindow P.zones verified.assignment.schedule
              input.instant with
          | error message => simp [shows, window, isClosed] at unreached
          | ok inside =>
            cases inside with
            | true => simp [shows, window, isClosed] at unreached
            | false =>
              by_cases digest : verified.assignment.digestSha256 = input.assignmentDigestSha256
              · simp [digest, shows, window, bind, Except.bind]
              · simp [digest]

/-- A row of a sound database that a deletion lets reach a screen reached it before. -/
theorem reaches_withoutScreen (sound : Sound P db) {screenId' : String} {instant : Int}
    {row : ReleaseAssignmentRow} (here : row ∈ db.assignments)
    (reaches : reachesScreen P (withoutScreen org screenId db) screenId' instant row = true) :
    reachesScreen P db screenId' instant row = true := by
  unfold reachesScreen at reaches ⊢
  rw [withdrawn_withoutScreen sound here, verified_withoutScreen] at reaches
  simp only [Bool.and_eq_true] at reaches ⊢
  exact ⟨⟨provenance_withoutScreen reaches.1.1, reaches.1.2⟩, reaches.2⟩

/-- The queries find the same rows. -/
theorem targeted_withoutScreen (org' screenId' : String) :
    targetedAssignments (withoutScreen org screenId db) org' screenId' =
      targetedAssignments db org' screenId' := by
  have ids : targetedScheduleIds (withoutScreen org screenId db) org' screenId' =
      targetedScheduleIds db org' screenId' := by
    unfold targetedScheduleIds
    show ((db.assignmentTargets.map (detach org screenId)).filter _).flatMap _ = _
    rw [List.filter_map, List.flatMap_map]
    have test : ((fun target : TargetRow => target.organizationId == org' &&
        target.screenId == screenId') ∘ detach org screenId) =
        fun target => target.organizationId == org' && target.screenId == screenId' := by
      funext target
      simp [detach_fields]
    rw [test]
    simp only [detach_fields]
    rfl
  unfold targetedAssignments
  rw [ids]
  rfl

/-- A deletion that leaves every row of a screen its provenance leaves the screen as it was. -/
theorem sameFor_of_sharesNothing (sound : Sound P db) {other : String} {instant : Int}
    (apart : SharesNothing P db org other screenId instant) :
    SameFor P db (withoutScreen org other db) org screenId instant := by
  -- a row that reaches the screen keeps its provenance, and any other row gives nothing
  have either : ∀ row ∈ db.assignments, row.organizationId = org → row.state = .assigned →
      hasPublishedAssignmentProvenance (withoutScreen org other db) row =
        hasPublishedAssignmentProvenance db row ∨
      (reachesScreen P db screenId instant row = false ∧
        reachesScreen P (withoutScreen org other db) screenId instant row = false) := by
    intro row here tenant assigned
    cases reaches : reachesScreen P db screenId instant row with
    | true =>
      left
      exact provenance_kept fun needed => apart row here tenant assigned needed reaches
    | false =>
      right
      refine ⟨rfl, ?_⟩
      by_contra still
      rw [reaches_withoutScreen sound here (Bool.eq_true_of_not_eq_false still)] at reaches
      cases reaches
  constructor
  · unfold activeOrdinaryReleases
    rw [targeted_withoutScreen]
    have each : (targetedAssignments db org screenId).mapM
        (selectAssignment P (withoutScreen org other db) screenId instant) =
        (targetedAssignments db org screenId).mapM (selectAssignment P db screenId instant) := by
      apply mapM_congr
      intro row isTargeted
      unfold targetedAssignments at isTargeted
      simp only [List.mem_filter, Bool.and_eq_true, beq_iff_eq] at isTargeted
      obtain ⟨here, ⟨tenant, _⟩, assigned⟩ := isTargeted
      rcases either row here tenant assigned with kept | ⟨before, after⟩
      · unfold selectAssignment
        rw [kept, withdrawn_withoutScreen sound here, verified_withoutScreen]
      · rw [select_unreached before, select_unreached after]
    rw [each]
  · intro input ofOrg ofScreen ofInstant
    have sameNamed : namedAssignment (withoutScreen org other db) input =
        namedAssignment db input := rfl
    unfold authorizeMediaDelivery
    rw [sameNamed]
    cases named : namedAssignment db input with
    | none => rfl
    | some row =>
      have isNamed := List.find?_some named
      simp only [Bool.and_eq_true, beq_iff_eq] at isNamed
      have here : row ∈ db.assignments := List.mem_of_find?_eq_some named
      have decision : authorizeAssignment P (withoutScreen org other db) input row =
          authorizeAssignment P db input row := by
        cases state : row.state with
        | assigned =>
          rcases either row here (isNamed.2.trans ofOrg) state with kept | ⟨before, after⟩
          · unfold authorizeAssignment
            rw [kept, withdrawn_withoutScreen sound here, verified_withoutScreen]
          · rw [← ofScreen, ← ofInstant] at before after
            rw [authorize_unreached before, authorize_unreached after]
        | withdrawn =>
          have unreached : ∀ db' : Database,
              reachesScreen P db' input.screenId input.instant row = false := by
            intro db'
            unfold reachesScreen
            cases valid : verifiedReleaseAssignmentDtos P db' row with
            | none => simp
            | some verified =>
              rw [Option.any_some, (verified_spec valid).1]
              simp [mayShow, releaseAssignmentDto, state]
          rw [authorize_unreached (unreached _), authorize_unreached (unreached _)]
      dsimp only
      rw [decision]

/-- Where the selection returns a list, a shared row that needs its approval is in the list
before the deletion and out of it afterwards. -/
theorem sharesNothing_of_sameFor (sound : Sound P db) {other : String} {instant : Int}
    {list : List ActiveOrdinaryRelease}
    (returned : activeOrdinaryReleases P db org screenId instant = .ok list)
    (same : SameFor P db (withoutScreen org other db) org screenId instant) :
    SharesNothing P db org other screenId instant := by
  intro row here tenant assigned needed reaches shared
  unfold reachesScreen at reaches
  simp only [Bool.and_eq_true, Bool.not_eq_true', Option.any_eq_true] at reaches
  obtain ⟨⟨provenance, standing⟩, chosen, valid, shows, notClosed⟩ := reaches
  -- the window test of a row in a returned list did not throw
  have inside : matchesScheduleWindow P.zones chosen.assignment.schedule instant = .ok true := by
    cases window : matchesScheduleWindow P.zones chosen.assignment.schedule instant with
    | error message =>
      have throws : selectAssignment P db screenId instant row = .error message := by
        unfold selectAssignment
        simp [provenance, standing, valid, shows, window, bind, Except.bind]
      have isTargeted : row ∈ targetedAssignments db org screenId := by
        rw [(verified_spec valid).1] at shows
        exact mayShow_targeted here tenant shows
      unfold activeOrdinaryReleases at returned
      cases each : (targetedAssignments db org screenId).mapM
          (selectAssignment P db screenId instant) with
      | error message' => rw [each] at returned; cases returned
      | ok selected =>
        obtain ⟨result, _, made⟩ := mapM_ok_result each isTargeted
        rw [throws] at made
        cases made
    | ok stillOpen =>
      cases stillOpen with
      | true => rfl
      | false => simp [window, isClosed] at notClosed
  have opens : opensFor P db screenId instant row = true :=
    (opensFor_iff valid).mpr ⟨provenance, shows, inside⟩
  have isChosen : chosen ∈ list :=
    (activeOrdinaryReleases_mem returned chosen).mpr ⟨row, here, tenant, opens, standing, valid⟩
  have returned' := same.1.trans returned
  obtain ⟨row', here', _, opens', _, valid'⟩ :=
    (activeOrdinaryReleases_mem returned' chosen).mp isChosen
  have sameRow : row' = row := by
    apply sound.assignmentIds.eq here' here
    have id : chosen.assignment.id = row.id := by
      rw [(verified_spec valid).1]
      rfl
    have id' : chosen.assignment.id = row'.id := by
      rw [(verified_spec valid').1]
      rfl
    exact id'.symm.trans id
  rw [sameRow] at opens' valid'
  have provenance' := ((opensFor_iff valid').mp opens').1
  rw [provenance_lost tenant needed shared] at provenance'
  cases provenance'

theorem deleteScreen_deleted {actorUserId : String}
    (deleted : (deleteScreen org screenId actorUserId db).2 = .deleted) :
    (deleteScreen org screenId actorUserId db).1 = withoutScreen org screenId db := by
  unfold deleteScreen at deleted ⊢
  by_cases forbidden : (!mayDeleteScreen db org actorUserId) = true
  · rw [if_pos forbidden] at deleted
    cases deleted
  · rw [if_neg forbidden] at deleted ⊢
    by_cases missing : (!hasScreen db org screenId) = true
    · rw [if_pos missing] at deleted
      cases deleted
    · rw [if_neg missing]

/-- In every reachable state, the deletion of one screen leaves another screen what it had when no
row that reaches the other screen and needs its approval is for both. Where the selection returned
a list for the other screen, it is so only then. -/
theorem a_deletion_leaves_a_screen_alone_when_no_approved_assignment_is_for_both {P : Platform}
    {db : Database} (reached : Reachable P db) (org other screenId actorUserId : String)
    (instant : Int) (deleted : (deleteScreen org other actorUserId db).2 = .deleted) :
    (SharesNothing P db org other screenId instant →
        SameFor P db (deleteScreen org other actorUserId db).1 org screenId instant) ∧
      ∀ list, activeOrdinaryReleases P db org screenId instant = .ok list →
        SameFor P db (deleteScreen org other actorUserId db).1 org screenId instant →
          SharesNothing P db org other screenId instant := by
  have sound := reached.sound
  rw [deleteScreen_deleted deleted]
  constructor
  · intro apart
    exact sameFor_of_sharesNothing sound apart
  · intro list returned same
    exact sharesNothing_of_sameFor sound returned same

/-! ## The poster on two screens -/

theorem mall_goes_dark :
    ¬SameFor mall mallDatabase (deleteScreen "acme" (uuid 4) "ben" mallDatabase).1 "acme" (uuid 3)
      (mondayAt 10) := by
  intro same
  have shown := mall_shows.2.2.1
  rw [← same.1, mall_shows.2.2.2] at shown
  cases shown

/-- The same with a third screen, that the release is not for. -/
def hallDatabase : Database :=
  afterCalls mall { mallContent with
    screens := mallContent.screens ++ [{ id := uuid 2, organizationId := "acme" }] } mallCalls

theorem hall_reached : Reachable mall hallDatabase := by
  apply Reachable.calls
  apply Reachable.elsewhere .empty
  exact ⟨_, _, _, _, _, by simp [emptyDatabase], Nat.zero_le _, rfl⟩

set_option maxRecDepth 10000 in
/-- The poster is shown, and not on the third screen. -/
theorem hall_shows :
    (deleteScreen "acme" (uuid 2) "ben" hallDatabase).2 = .deleted ∧
      schedulesOf (activeOrdinaryReleases mall hallDatabase "acme" (uuid 3) (mondayAt 10)) =
        [uuid 8] ∧
      ∀ row ∈ hallDatabase.assignments, ¬isFor hallDatabase row (uuid 2) := by
  decide +kernel

/-- The poster of the mall is for both screens, and the deletion of one takes it from the other one.
The deletion of a third screen leaves it. -/
theorem the_poster_of_the_mall_is_for_both_screens :
    ¬SharesNothing mall mallDatabase "acme" (uuid 4) (uuid 3) (mondayAt 10) ∧
      SharesNothing mall hallDatabase "acme" (uuid 2) (uuid 3) (mondayAt 10) ∧
      SameFor mall hallDatabase (deleteScreen "acme" (uuid 2) "ben" hallDatabase).1 "acme"
        (uuid 3) (mondayAt 10) := by
  have law := @a_deletion_leaves_a_screen_alone_when_no_approved_assignment_is_for_both mall
  have apart : SharesNothing mall hallDatabase "acme" (uuid 2) (uuid 3) (mondayAt 10) :=
    fun row here _ _ _ _ => hall_shows.2.2 row here
  refine ⟨?_, apart, ?_⟩
  · intro sharesNothing
    exact mall_goes_dark ((law mall_reached "acme" (uuid 4) (uuid 3) "ben"
      (mondayAt 10) mall_shows.2.1).1 sharesNothing)
  · exact (law hall_reached "acme" (uuid 2) (uuid 3) "ben" (mondayAt 10)
      hall_shows.1).1 apart

/-- A screen is decommissioned, and the other screen of the assignment loses the poster. -/
theorem a_deleted_screen_takes_the_poster_from_the_other_one :
    ¬∀ (P : Platform) (db : Database), Reachable P db →
      ∀ (org other screenId actorUserId : String) (instant : Int), screenId ≠ other →
        (deleteScreen org other actorUserId db).2 = .deleted →
          SameFor P db (deleteScreen org other actorUserId db).1 org screenId instant := by
  intro every
  apply mall_goes_dark
  exact every mall mallDatabase mall_reached "acme" (uuid 4) (uuid 3) "ben" (mondayAt 10)
    (by decide +kernel) mall_shows.2.1

end screengoblin.prisma
