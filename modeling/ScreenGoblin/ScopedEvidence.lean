-- The evidence of a scoped authorization is stable. The order of the grants, of the targets
-- and of their groups does not matter, a grant that was not selected does not matter, a new
-- grant takes nothing away, and the instant matters only for which grants are active.
import ScreenGoblin.ScopedAuthorization
import ScreenGoblin.ReleaseLaws
import Mathlib.Data.List.Perm.Basic

open js collections screengoblin.server

namespace screengoblin.authorization

/-! ## The order of the identifiers -/

/-- The comparison is a strict total order on these texts. -/
structure StrictlyOrders (compare : String → String → Ordering) (ids : String → Prop) :
    Prop where
  equal : ∀ a b, ids a → ids b → (compare a b = .eq ↔ a = b)
  swaps : ∀ a b, ids a → ids b → compare b a = (compare a b).swap
  trans : ∀ a b c, ids a → ids b → ids c →
    compare a b = .lt → compare b c = .lt → compare a c = .lt

/-- The identifiers of the grants and of the screens of an input. -/
def IsId (input : ScopedAuthorizationEvaluationInput) (text : String) : Prop :=
  (∃ v ∈ input.grants.elements, Value.get (some v) "id" = some (.str text)) ∨
    ∃ v ∈ input.targets.elements, Value.get (some v) "screenId" = some (.str text)

theorem StrictlyOrders.orderedOn {α : Type} {P : Platform} {ids : String → Prop}
    (order : StrictlyOrders P.localeCompare ids) {key : α → String} {l : List α}
    (members : ∀ a ∈ l, ids (key a)) (unique : ∀ a ∈ l, ∀ b ∈ l, key a = key b → a = b) :
    OrderedOn (localeLe P key) l where
  total a ha b hb := by
    unfold localeLe
    rw [order.swaps _ _ (members a ha) (members b hb)]
    cases P.localeCompare (key a) (key b) <;> simp
  antisymm a ha b hb := by
    unfold localeLe
    rw [order.swaps _ _ (members a ha) (members b hb)]
    intro le ge
    refine unique a ha b hb ((order.equal _ _ (members a ha) (members b hb)).mp ?_)
    cases compared : P.localeCompare (key a) (key b) with
    | lt => simp [compared] at ge
    | eq => rfl
    | gt => simp [compared] at le
  trans a ha b hb c hc := by
    unfold localeLe
    intro le le'
    cases first : P.localeCompare (key a) (key b) with
    | gt => simp [first] at le
    | eq =>
      rw [(order.equal _ _ (members a ha) (members b hb)).mp first]
      exact le'
    | lt =>
      cases second : P.localeCompare (key b) (key c) with
      | gt => simp [second] at le'
      | eq =>
        rw [← (order.equal _ _ (members b hb) (members c hc)).mp second, first]
        rfl
      | lt =>
        rw [order.trans _ _ _ (members a ha) (members b hb) (members c hc) first second]
        rfl

/-! ## Other arrangements of an input -/

/-- The same target, with its groups in another order or repeated. -/
def Regrouped (v v' : Json) : Prop :=
  v' = v ∨
    ∃ groups groups', (∀ key, key ≠ "screenGroupIds" →
        Value.get (some v') key = Value.get (some v) key) ∧
      Value.get (some v) "screenGroupIds" = some (.arr groups) ∧
      Value.get (some v') "screenGroupIds" = some (.arr groups') ∧
      ∀ group, group ∈ groups' ↔ group ∈ groups

/-- The same input, with its grants and targets in another order, and each target regrouped. -/
structure Rearranges (input input' : ScopedAuthorizationEvaluationInput) : Prop where
  others : input' = { input with grants := input'.grants, targets := input'.targets }
  grants : input'.grants = input.grants ∨ ∃ grants grants',
    input.grants = some (.arr grants) ∧ input'.grants = some (.arr grants') ∧ grants.Perm grants'
  targets : input'.targets = input.targets ∨ ∃ targets mid targets',
    input.targets = some (.arr targets) ∧ input'.targets = some (.arr targets') ∧
    targets.Perm mid ∧ List.Forall₂ Regrouped mid targets'

theorem texts_same {groups groups' : List Json} (same : ∀ group, group ∈ groups' ↔ group ∈ groups) :
    (groups'.mapM fun id => nonEmptyText (some id)).map (sortedSet TextLe) =
      (groups.mapM fun id => nonEmptyText (some id)).map (sortedSet TextLe) := by
  have sound : ∀ l l' : List Json, (∀ group, group ∈ l' ↔ group ∈ l) → ∀ texts,
      (l.mapM fun id => nonEmptyText (some id)) = some texts →
      (l'.mapM fun id => nonEmptyText (some id)).map (sortedSet TextLe) =
        some (sortedSet TextLe texts) := by
    intro l l' same texts read
    obtain ⟨rfl, named⟩ := texts_iff.mp read
    have strings : ∀ group ∈ l', ∃ text, group = .str text := by
      intro group member
      obtain ⟨text, _, rfl⟩ := List.mem_map.mp ((same group).mp member)
      exact ⟨text, rfl⟩
    obtain ⟨texts', rfl⟩ : ∃ texts' : List String, l' = texts'.map .str := by
      clear same
      induction l' with
      | nil => exact ⟨[], rfl⟩
      | cons group rest ih =>
        obtain ⟨text, rfl⟩ := strings group List.mem_cons_self
        obtain ⟨texts', rfl⟩ := ih fun other member =>
          strings other (List.mem_cons_of_mem _ member)
        exact ⟨text :: texts', rfl⟩
    have sameTexts : ∀ text, text ∈ texts' ↔ text ∈ texts := by
      intro text
      have iff := same (.str text)
      simpa using iff
    rw [texts_iff.mpr ⟨rfl, fun empty => named ((sameTexts "").mp empty)⟩, Option.map_some,
      sortedSet_congr sameTexts]
  cases read : groups.mapM fun id => nonEmptyText (some id) with
  | some texts => exact sound groups groups' same texts read
  | none =>
    cases read' : groups'.mapM fun id => nonEmptyText (some id) with
    | none => rfl
    | some texts' =>
      have back := sound groups' groups (fun group => (same group).symm) texts' read'
      rw [read] at back
      cases back

theorem Regrouped.normalized {organizationId : Value} {v v' : Json} (regrouped : Regrouped v v') :
    normalizeTarget organizationId v' = normalizeTarget organizationId v := by
  rcases regrouped with rfl | ⟨groups, groups', others, here, there, same⟩
  · rfl
  · unfold normalizeTarget
    rw [others "organizationId" (by decide), others "screenId" (by decide),
      others "locationId" (by decide), here, there]
    have sets := texts_same same
    have bind : ∀ (l : List Json) (screenId : String) (locationId : Option String),
        ((l.mapM fun id => nonEmptyText (some id)).bind fun groups =>
          some ({ screenId, locationId, screenGroupIds := sortedSet TextLe groups } :
            NormalizedTarget)) =
        ((l.mapM fun id => nonEmptyText (some id)).map (sortedSet TextLe)).map fun set =>
          { screenId, locationId, screenGroupIds := set } := by
      intro l screenId locationId
      cases l.mapM fun id => nonEmptyText (some id) <;> rfl
    simp only [Option.bind_eq_bind, Value.elements, Value.isArray, bind, sets]

theorem regrouped_targetsFrom {organizationId : Value} {values values' : List Json}
    (regrouped : List.Forall₂ Regrouped values values') (seen : List String) :
    normalizeTargetsFrom organizationId seen values' =
      normalizeTargetsFrom organizationId seen values := by
  induction regrouped generalizing seen with
  | nil => rfl
  | cons first _ ih =>
    unfold normalizeTargetsFrom
    simp only [first.normalized, ih]

/-- A normalized target names the screen that its value names. -/
theorem normalizeTarget_screen {organizationId : Value} {v : Json} {target : NormalizedTarget}
    (read : normalizeTarget organizationId v = some target) :
    Value.get (some v) "screenId" = some (.str target.screenId) := by
  unfold normalizeTarget at read
  simp only [Option.bind_eq_bind, Option.bind_eq_some_iff, Option.guard_eq_some', exists_const,
    nonEmptyText_iff, Option.some.injEq] at read
  obtain ⟨_, screenId, screen, _, _, _, _, _, rfl⟩ := read
  exact screen.1

theorem activeGrant_id {P : Platform} {input : ScopedAuthorizationEvaluationInput} {now : Int}
    {v : Json} {grant : NormalizedGrant} (read : activeGrant P input now v = some grant) :
    Value.get (some v) "id" = some (.str grant.id) := by
  unfold activeGrant at read
  simp only [Option.bind_eq_bind, Option.bind_eq_some_iff, Option.guard_eq_some', exists_const,
    nonEmptyText_iff, Option.some.injEq] at read
  obtain ⟨id, identifier, _, _, _, _, _, _, _, _, _, _, _, _, _, _, _, _, rfl⟩ := read
  exact identifier.1

section
variable {P : EvidencePlatform} {input : ScopedAuthorizationEvaluationInput}

theorem permuted_targets (order : StrictlyOrders P.localeCompare (IsId input))
    {values values' : List Json} (listed : ∀ v ∈ values, v ∈ input.targets.elements)
    (perm : values.Perm values') {organizationId : Value} {targets : List NormalizedTarget}
    (read : normalizeTargets P.toPlatform organizationId values = some targets) :
    normalizeTargets P.toPlatform organizationId values' = some targets := by
  unfold normalizeTargets at *
  simp only [Option.map_eq_some_iff, normalizeTargetsFrom_iff] at *
  obtain ⟨normalized, ⟨all, distinct, unseen⟩, rfl⟩ := read
  obtain ⟨normalized', all', perm'⟩ := List.perm_comp_forall₂ perm.symm all
  have ordered : OrderedOn (localeLe P.toPlatform NormalizedTarget.screenId) normalized := by
    refine order.orderedOn ?_ ?_
    · intro target member
      obtain ⟨v, hv, screen⟩ : ∃ v ∈ values,
          normalizeTarget organizationId v = some target := by
        obtain ⟨i, hi, rfl⟩ := List.getElem_of_mem member
        have bound : i < values.length := by rw [all.length_eq]; exact hi
        exact ⟨values[i], List.getElem_mem bound, all.get bound hi⟩
      exact .inr ⟨v, listed v hv, normalizeTarget_screen screen⟩
    · intro target member target' member' same
      exact List.inj_on_of_nodup_map distinct member member' same
  refine ⟨normalized', ⟨all', ?_, by simp⟩, ?_⟩
  · exact ((perm'.map _).nodup_iff).mpr distinct
  · exact (ordered.insertionSort_perm perm'.symm).symm

/-- The active grants of an input are in order, when no two have one identifier. -/
theorem activeGrants_ordered (order : StrictlyOrders P.localeCompare (IsId input)) {now : Int}
    {grants : List Json} (listed : ∀ v ∈ grants, v ∈ input.grants.elements)
    (distinct : ((grants.filterMap (activeGrant P.toPlatform input now)).map
      NormalizedGrant.id).Nodup) :
    OrderedOn (localeLe P.toPlatform NormalizedGrant.id)
      (grants.filterMap (activeGrant P.toPlatform input now)) := by
  refine order.orderedOn ?_ ?_
  · intro grant member
    obtain ⟨v, hv, read⟩ := List.mem_filterMap.mp member
    exact .inl ⟨v, listed v hv, activeGrant_id read⟩
  · intro grant member grant' member' same
    exact List.inj_on_of_nodup_map distinct member member' same

end

/-! ## Other lists of active grants -/

section
variable {P : EvidencePlatform} {input : ScopedAuthorizationEvaluationInput}
  {targets : List NormalizedTarget} {capability : Capability}

theorem evaluateGrants_invalid {active : List NormalizedGrant}
    (clash : ¬(active.map NormalizedGrant.id).Nodup) :
    evaluateGrants P input targets active capability =
      decision P input targets .invalidContext [] := by
  unfold evaluateGrants
  rw [if_pos clash]

theorem evaluateGrants_permuted (order : StrictlyOrders P.localeCompare (IsId input)) {now : Int}
    {grants grants' : List Json} (listed : ∀ v ∈ grants, v ∈ input.grants.elements)
    (perm : grants.Perm grants') :
    evaluateGrants P input targets
        ((grants'.filterMap (activeGrant P.toPlatform input now)).insertionSort
          (localeLe P.toPlatform NormalizedGrant.id)) capability =
      evaluateGrants P input targets
        ((grants.filterMap (activeGrant P.toPlatform input now)).insertionSort
          (localeLe P.toPlatform NormalizedGrant.id)) capability := by
  have permActive := perm.filterMap (activeGrant P.toPlatform input now)
  by_cases distinct : ((grants.filterMap (activeGrant P.toPlatform input now)).map
      NormalizedGrant.id).Nodup
  · rw [(activeGrants_ordered order listed distinct).insertionSort_perm permActive]
  · rw [evaluateGrants_invalid, evaluateGrants_invalid]
    · rw [((List.perm_insertionSort _ _).map _).nodup_iff]
      exact distinct
    · rw [((List.perm_insertionSort _ _).map _).nodup_iff, ← (permActive.map _).nodup_iff]
      exact distinct

/-- The decision stays when the search still finds each selected grant. -/
theorem evaluateGrants_fewer {active active' : List NormalizedGrant}
    (allowed : (evaluateGrants P input targets active capability).allowed = true)
    (distinct : (active'.map NormalizedGrant.id).Nodup)
    (finds : ∀ p grant, active.find? p = some grant →
      grant.id ∈ (evaluateGrants P input targets active capability).matchingGrantIds →
      active'.find? p = some grant) :
    evaluateGrants P input targets active' capability =
      evaluateGrants P input targets active capability := by
  obtain ⟨distinct₀, notManage, cases⟩ := evaluateGrants_allowed.mp allowed
  rcases cases with ⟨kind, rfl, grant, member, type⟩ | ⟨kind, nonEmpty, covered⟩
  · have first : (active.find? fun grant => grant.scopeType == .organization).isSome = true :=
      List.find?_isSome.mpr ⟨grant, member, by simp [type]⟩
    obtain ⟨selected, found⟩ := Option.isSome_iff_exists.mp first
    have result : evaluateGrants P input [] active capability =
        decision P input [] .allowed [selected] := by
      unfold evaluateGrants
      simp [distinct₀, notManage, kind, found]
    have found' := finds _ selected found (by rw [result]; simp [decision])
    rw [result]
    unfold evaluateGrants
    simp [distinct, notManage, kind, found']
  · obtain ⟨selected, selection⟩ := selectGrants_isSome.mpr covered
    have notOrg := scoped_once kind
    have result : evaluateGrants P input targets active capability =
        decision P input targets .allowed selected := by
      unfold evaluateGrants
      simp [distinct₀, notManage, kind, notOrg, nonEmpty, selection]
    have selection' : selectGrants active' targets = some selected := by
      unfold selectGrants at selection ⊢
      rw [mapM_eq_some_iff] at selection ⊢
      rw [result] at finds
      have kept : ∀ grant ∈ selected,
          grant.id ∈ (decision P input targets .allowed selected).matchingGrantIds := by
        intro grant member
        simp only [decision, mem_sortedSet]
        exact List.mem_map_of_mem member
      clear result covered allowed nonEmpty
      generalize (decision P input targets .allowed selected).matchingGrantIds = ids at finds kept
      induction selection with
      | nil => exact .nil
      | cons found _ ih =>
        refine .cons (finds _ _ found (kept _ List.mem_cons_self)) (ih ?_)
        exact fun grant member => kept grant (List.mem_cons_of_mem _ member)
    rw [result]
    unfold evaluateGrants
    simp [distinct, notManage, kind, notOrg, nonEmpty, selection']

end

/-! ## Other inputs -/

/-- The targets of an input, normalized. -/
def readTargets (P : Platform) (input : ScopedAuthorizationEvaluationInput) :
    Option (List NormalizedTarget) :=
  if input.targets.isArray then
    normalizeTargets P input.organizationId input.targets.elements
  else none

/-- Two inputs that differ in their grants, targets and instants alone are decided alike when
their parts are read alike. -/
theorem evaluate_same {P : EvidencePlatform} {input input' : ScopedAuthorizationEvaluationInput}
    (others : input' = { input with
      grants := input'.grants, targets := input'.targets, evaluatedAt := input'.evaluatedAt })
    (array : input'.grants.isArray = input.grants.isArray)
    (sameTargets : readTargets P.toPlatform input' = readTargets P.toPlatform input)
    (instants : (normalizedInstant P.toPlatform input.evaluatedAt = none ∧
        normalizedInstant P.toPlatform input'.evaluatedAt = none) ∨
      ∃ evaluated evaluated',
        normalizedInstant P.toPlatform input.evaluatedAt = some evaluated ∧
        normalizedInstant P.toPlatform input'.evaluatedAt = some evaluated' ∧
        ∀ targets capability, evaluateScopedAuthorization P input =
            evaluateGrants P input targets (activeGrants P.toPlatform input evaluated.1)
              capability →
          evaluateGrants P input targets (activeGrants P.toPlatform input' evaluated'.1)
              capability =
            evaluateGrants P input targets (activeGrants P.toPlatform input evaluated.1)
              capability) :
    evaluateScopedAuthorization P input' = evaluateScopedAuthorization P input := by
  have sameDecision : decision P input' = decision P input := by
    rw [others]
    rfl
  have sameGrants : evaluateGrants P input' = evaluateGrants P input := by
    funext targets active capability
    unfold evaluateGrants
    rw [sameDecision]
  have sameFields : hasValidFields input' = hasValidFields input := by
    rw [others]
    unfold hasValidFields
    dsimp only
    rw [array]
  have sameCapability : input'.capability = input.capability := by rw [others]
  have sameRole : input'.role = input.role := by rw [others]
  unfold readTargets at sameTargets
  rcases instants with ⟨none, none'⟩ | ⟨evaluated, evaluated', some, some', grants⟩
  · unfold evaluateScopedAuthorization
    simp only [none, none', sameTargets, sameDecision]
  · cases read : (if input.targets.isArray then
        normalizeTargets P.toPlatform input.organizationId input.targets.elements else none) with
    | none =>
      unfold evaluateScopedAuthorization
      simp only [some, some', sameTargets, read, sameDecision]
    | some targets =>
      by_cases valid : hasValidFields input = true
      case neg =>
        unfold evaluateScopedAuthorization
        simp only [some, some', sameTargets, read, sameFields, valid, sameDecision,
          Bool.not_false, if_true]
      cases known : knownCapability input.capability with
      | none =>
        unfold evaluateScopedAuthorization
        simp only [some, some', sameTargets, read, sameFields, valid, sameCapability, known,
          sameDecision]
      | some capability =>
        by_cases capable : hasCapability input.role input.capability = true
        case neg =>
          unfold evaluateScopedAuthorization
          simp only [some, some', sameTargets, read, sameFields, valid, sameCapability, known,
            sameRole, capable, sameDecision, Bool.not_true, Bool.not_false, Bool.false_eq_true,
            if_false, if_true]
        have result : evaluateScopedAuthorization P input = evaluateGrants P input targets
            (activeGrants P.toPlatform input evaluated.1) capability := by
          unfold evaluateScopedAuthorization
          simp only [some, read, valid, known, capable, Bool.not_true, Bool.false_eq_true,
            if_false]
        rw [result, ← grants targets capability result]
        unfold evaluateScopedAuthorization
        simp only [some', sameTargets, read, sameFields, valid, sameCapability, known, sameRole,
          capable, sameGrants, Bool.not_true, Bool.false_eq_true, if_false]

/-! ## The four ways -/

section
variable {P : EvidencePlatform} {input : ScopedAuthorizationEvaluationInput}

theorem evaluate_rearranged (order : StrictlyOrders P.localeCompare (IsId input))
    {input' : ScopedAuthorizationEvaluationInput} (rearranges : Rearranges input input') :
    evaluateScopedAuthorization P input' = evaluateScopedAuthorization P input := by
  have sameInstant : input'.evaluatedAt = input.evaluatedAt := by rw [rearranges.others]
  have sameActive : ∀ now, activeGrant P.toPlatform input' now =
      activeGrant P.toPlatform input now := by
    intro now
    rw [rearranges.others]
    rfl
  refine evaluate_same ?_ ?_ ?_ ?_
  · rw [sameInstant]
    exact rearranges.others
  · rcases rearranges.grants with same | ⟨grants, grants', listed, listed', _⟩
    · rw [same]
    · rw [listed, listed']
      rfl
  · unfold readTargets
    have sameOrganization : input'.organizationId = input.organizationId := by
      rw [rearranges.others]
    rcases rearranges.targets with same | ⟨targets, mid, targets', listed, listed', perm, groups⟩
    · rw [same, sameOrganization]
    · rw [listed, listed', sameOrganization]
      simp only [Value.isArray, if_true, Value.elements]
      have inInput : ∀ v ∈ targets, v ∈ input.targets.elements := by
        intro v member
        rw [listed]
        exact member
      have inMid : ∀ v ∈ mid, v ∈ input.targets.elements := fun v member =>
        inInput v (perm.symm.subset member)
      have regrouped : normalizeTargets P.toPlatform input.organizationId targets' =
          normalizeTargets P.toPlatform input.organizationId mid := by
        unfold normalizeTargets
        rw [regrouped_targetsFrom groups]
      rw [regrouped]
      cases read : normalizeTargets P.toPlatform input.organizationId targets with
      | some normalized => exact permuted_targets order inInput perm read
      | none =>
        cases read' : normalizeTargets P.toPlatform input.organizationId mid with
        | none => rfl
        | some normalized =>
          rw [permuted_targets order inMid perm.symm read'] at read
          cases read
  · cases instant : normalizedInstant P.toPlatform input.evaluatedAt with
    | none =>
      rw [sameInstant]
      exact .inl ⟨rfl, instant⟩
    | some evaluated =>
      refine .inr ⟨evaluated, evaluated, rfl, by rw [sameInstant]; exact instant, ?_⟩
      intro targets capability _
      unfold activeGrants
      rw [sameActive]
      rcases rearranges.grants with same | ⟨grants, grants', listed, listed', perm⟩
      · rw [same]
      · rw [listed, listed']
        refine evaluateGrants_permuted order ?_ perm
        intro v member
        rw [listed]
        exact member

/-- The value is one of the grants that the evaluation selected. -/
def Selected (P : EvidencePlatform) (input : ScopedAuthorizationEvaluationInput) (v : Json) :
    Prop :=
  ∃ evaluated grant, normalizedInstant P.toPlatform input.evaluatedAt = some evaluated ∧
    activeGrant P.toPlatform input evaluated.1 v = some grant ∧
    grant.id ∈ (evaluateScopedAuthorization P input).matchingGrantIds

theorem evaluate_without (order : StrictlyOrders P.localeCompare (IsId input))
    {before after : List Json} {v : Json} (listed : input.grants = some (.arr (before ++ v :: after)))
    (allowed : (evaluateScopedAuthorization P input).allowed = true)
    (unselected : ¬Selected P input v) :
    evaluateScopedAuthorization P { input with grants := some (.arr (before ++ after)) } =
      evaluateScopedAuthorization P input := by
  refine evaluate_same rfl (by rw [listed]; rfl) rfl ?_
  cases instant : normalizedInstant P.toPlatform input.evaluatedAt with
  | none => exact .inl ⟨rfl, rfl⟩
  | some evaluated =>
    refine .inr ⟨evaluated, evaluated, rfl, rfl, ?_⟩
    intro targets capability result
    rw [result] at allowed
    have elements : input.grants.elements = before ++ v :: after := by rw [listed]; rfl
    have distinct := (evaluateGrants_allowed.mp allowed).1
    unfold activeGrants at distinct
    rw [((List.perm_insertionSort _ _).map _).nodup_iff, elements] at distinct
    have sub : (before ++ after).Sublist (before ++ v :: after) :=
      List.Sublist.append_left (List.sublist_cons_self v after) before
    have fewer := sub.filterMap (activeGrant P.toPlatform input evaluated.1)
    have ordered := activeGrants_ordered order (fun w member => by rw [elements]; exact member)
      distinct
    refine evaluateGrants_fewer allowed ?_ ?_
    · change (((before ++ after).filterMap (activeGrant P.toPlatform input
        evaluated.1)).insertionSort _ |>.map NormalizedGrant.id).Nodup
      rw [((List.perm_insertionSort _ _).map _).nodup_iff]
      exact distinct.sublist (fewer.map _)
    · intro p grant found matching
      rw [← result] at matching
      unfold activeGrants at found
      rw [elements] at found
      obtain ⟨member, passes, least⟩ := ordered.find_insertionSort.mp found
      refine (ordered.subset fewer.subset).find_insertionSort.mpr
        ⟨?_, passes, fun other hother => least other (fewer.subset hother)⟩
      obtain ⟨w, hw, read⟩ := List.mem_filterMap.mp member
      refine List.mem_filterMap.mpr ⟨w, ?_, read⟩
      rcases List.mem_append.mp hw with early | late
      · exact List.mem_append_left _ early
      · rcases List.mem_cons.mp late with rfl | late
        · exact absurd ⟨evaluated, grant, instant, read, matching⟩ unselected
        · exact List.mem_append_right _ late

theorem evaluate_with {before after : List Json} {v : Json}
    (listed : input.grants = some (.arr (before ++ after)))
    (allowed : (evaluateScopedAuthorization P input).allowed = true)
    {evaluated : Int × String} {grant : NormalizedGrant}
    (instant : normalizedInstant P.toPlatform input.evaluatedAt = some evaluated)
    (active : activeGrant P.toPlatform input evaluated.1 v = some grant)
    (fresh : ∀ w ∈ before ++ after, ∀ other,
      activeGrant P.toPlatform input evaluated.1 w = some other → other.id ≠ grant.id) :
    (evaluateScopedAuthorization P
      { input with grants := some (.arr (before ++ v :: after)) }).allowed = true := by
  obtain ⟨request, targets, grants, valid, ceiling, notManage, cases⟩ :=
    permitted_of_allowed allowed
  have same : grants = before ++ after := by
    have both := valid.listed.symm.trans listed
    simpa using both
  subst same
  have asks : Asks input request :=
    ⟨valid.organization.1, valid.actor.1, valid.membership, valid.capability⟩
  have now : evaluated.1 = request.instant := by
    have read := normalizedInstant_iff.mpr ⟨valid.instant, rfl⟩
    rw [instant] at read
    cases read
    rfl
  rw [now] at active fresh
  obtain ⟨scope, isActive, _⟩ := activeGrant_sound asks active
  refine allowed_of_permitted ⟨request, targets, before ++ v :: after,
    ⟨valid.organization, valid.actor, valid.membership, valid.epoch, valid.instant,
      valid.described, valid.distinctScreens, rfl, valid.capability, ?_⟩,
    ceiling, notManage, ?_⟩
  · rw [List.pairwise_middle, List.pairwise_cons]
    · refine ⟨?_, valid.distinctGrants⟩
      intro w member id scope' scope'' first second
      obtain ⟨other, read, sameId, _⟩ := activeGrant_complete asks second
      obtain ⟨mine, readMine, mineId, _⟩ := activeGrant_complete asks first
      rw [active] at readMine
      cases readMine
      exact fresh w member other read (by rw [sameId, mineId])
    · intro x y differ id scope scope' first second
      exact differ id scope' scope second first
  · have more : ∀ w ∈ before ++ after, w ∈ before ++ v :: after := by
      intro w member
      rcases List.mem_append.mp member with early | late
      · exact List.mem_append_left _ early
      · exact List.mem_append_right _ (List.mem_cons_of_mem _ late)
    rcases cases with ⟨kind, empty, w, member, grant⟩ | ⟨kind, nonEmpty, covered⟩
    · exact .inl ⟨kind, empty, w, more w member, grant⟩
    · refine .inr ⟨kind, nonEmpty, ?_⟩
      intro target member
      obtain ⟨w, hw, covers⟩ := covered target member
      exact ⟨w, more w hw, covers⟩

/-- A grant that is active at one instant, and whose reading is active at another, is active
there too. -/
theorem activeGrant_again {P : Platform} {now now' : Int} {v v' : Json} {grant : NormalizedGrant}
    (read : activeGrant P input now v = some grant)
    (again : activeGrant P input now' v' = some grant) :
    activeGrant P input now' v = some grant := by
  unfold activeGrant at *
  simp only [Option.bind_eq_bind, Option.bind_eq_some_iff, Option.guard_eq_some', exists_const,
    Option.some.injEq, Bool.and_eq_true, decide_eq_true_eq] at *
  obtain ⟨id, hid, subject, hsubject, org, user, membership, capability, type, htype, unrevoked,
    starts, hstarts, expiry, hexpiry, _, scopeId, hscope, same⟩ := read
  obtain ⟨id', _, subject', _, _, _, _, _, type', _, _, starts', hstarts', expiry', hexpiry',
    window, scopeId', _, same'⟩ := again
  have normal : (⟨id, subject, type, scopeId, starts.2, expiry.map fun x => x.2⟩ :
      NormalizedGrant) =
      ⟨id', subject', type', scopeId', starts'.2, expiry'.map fun x => x.2⟩ := same.trans same'.symm
  simp only [NormalizedGrant.mk.injEq] at normal
  obtain ⟨_, _, _, _, startText, expiryText⟩ := normal
  have oneInstant : ∀ {u w : Value} {x y : Int × String}, normalizedInstant P u = some x →
      normalizedInstant P w = some y → x.2 = y.2 → x = y := by
    intro u w x y hx hy text
    obtain ⟨_, tx⟩ := normalizedInstant_iff.mp hx
    obtain ⟨_, ty⟩ := normalizedInstant_iff.mp hy
    refine Prod.ext ?_ text
    rw [tx, ty] at text
    have parsed := congrArg P.dateParse text
    rw [P.dateParse_toISOString, P.dateParse_toISOString] at parsed
    exact Option.some.inj parsed
  have sameStart : starts = starts' := oneInstant hstarts hstarts' startText
  have sameExpiry : expiry = expiry' := by
    rw [optionalBy_iff (normalizedInstant_readable P)] at hexpiry hexpiry'
    rcases hexpiry with ⟨_, rfl⟩ | ⟨x, hx, rfl⟩ <;> rcases hexpiry' with ⟨_, rfl⟩ | ⟨y, hy, rfl⟩
    · rfl
    · cases expiryText
    · cases expiryText
    · rw [oneInstant hx hy (Option.some.inj expiryText)]
  subst sameStart sameExpiry
  exact ⟨id, hid, subject, hsubject, org, user, membership, capability, type, htype, unrevoked,
    starts, hstarts, expiry, hexpiry, window, scopeId, hscope, same⟩

/-- The grants of the input that are active at an instant. -/
def activeSet (P : Platform) (input : ScopedAuthorizationEvaluationInput) (now : Int) :
    Set NormalizedGrant :=
  {grant | ∃ v ∈ input.grants.elements, activeGrant P input now v = some grant}

theorem activeGrants_of_set {P : Platform} {now now' : Int}
    (same : activeSet P input now = activeSet P input now') :
    activeGrants P input now' = activeGrants P input now := by
  have pointwise : ∀ v ∈ input.grants.elements,
      activeGrant P input now' v = activeGrant P input now v := by
    intro v member
    cases read : activeGrant P input now v with
    | some grant =>
      have inSet : grant ∈ activeSet P input now' := same ▸ ⟨v, member, read⟩
      obtain ⟨w, _, again⟩ := inSet
      exact activeGrant_again read again
    | none =>
      cases read' : activeGrant P input now' v with
      | none => rfl
      | some grant =>
        have inSet : grant ∈ activeSet P input now := same ▸ ⟨v, member, read'⟩
        obtain ⟨w, _, again⟩ := inSet
        rw [activeGrant_again read' again] at read
        cases read
  unfold activeGrants
  rw [List.filterMap_congr pointwise]

theorem evaluate_later {v : Value} {evaluated evaluated' : Int × String}
    (instant : normalizedInstant P.toPlatform input.evaluatedAt = some evaluated)
    (instant' : normalizedInstant P.toPlatform v = some evaluated')
    (same : activeSet P.toPlatform input evaluated.1 =
      activeSet P.toPlatform input evaluated'.1) :
    evaluateScopedAuthorization P { input with evaluatedAt := v } =
      evaluateScopedAuthorization P input := by
  refine evaluate_same rfl rfl rfl (.inr ⟨evaluated, evaluated', instant, instant', ?_⟩)
  intro targets capability _
  have others : activeGrants P.toPlatform { input with evaluatedAt := v } evaluated'.1 =
      activeGrants P.toPlatform input evaluated'.1 := rfl
  rw [others, activeGrants_of_set same]

end

/-! ## The law of the evidence -/

/-- No arrangement of the input matters, no grant that was not selected matters, a new active
grant never turns an allowed evaluation into a denial, and two instants with the same active
grants have the same evidence. -/
theorem the_evidence_is_stable (P : EvidencePlatform) (input : ScopedAuthorizationEvaluationInput)
    (order : StrictlyOrders P.localeCompare (IsId input)) :
    (∀ input', Rearranges input input' →
      evaluateScopedAuthorization P input' = evaluateScopedAuthorization P input) ∧
    (∀ before v after, input.grants = some (.arr (before ++ v :: after)) →
      (evaluateScopedAuthorization P input).allowed = true → ¬Selected P input v →
      evaluateScopedAuthorization P { input with grants := some (.arr (before ++ after)) } =
        evaluateScopedAuthorization P input) ∧
    (∀ before v after evaluated grant, input.grants = some (.arr (before ++ after)) →
      (evaluateScopedAuthorization P input).allowed = true →
      normalizedInstant P.toPlatform input.evaluatedAt = some evaluated →
      activeGrant P.toPlatform input evaluated.1 v = some grant →
      (∀ w ∈ before ++ after, ∀ other, activeGrant P.toPlatform input evaluated.1 w = some other →
        other.id ≠ grant.id) →
      (evaluateScopedAuthorization P
        { input with grants := some (.arr (before ++ v :: after)) }).allowed = true) ∧
    (∀ v evaluated evaluated',
      normalizedInstant P.toPlatform input.evaluatedAt = some evaluated →
      normalizedInstant P.toPlatform v = some evaluated' →
      activeSet P.toPlatform input evaluated.1 = activeSet P.toPlatform input evaluated'.1 →
      evaluateScopedAuthorization P { input with evaluatedAt := v } =
        evaluateScopedAuthorization P input) := by
  refine ⟨?_, ?_, ?_, ?_⟩
  · intro input' rearranges
    exact evaluate_rearranged order rearranges
  · intro before v after listed allowed unselected
    exact evaluate_without order listed allowed unselected
  · intro before v after evaluated grant listed allowed instant active fresh
    exact evaluate_with listed allowed instant active fresh
  · intro v evaluated evaluated' instant instant' same
    exact evaluate_later instant instant' same

/-! ## Two screens of the lobby -/

def grantJson (id scopeType : String) (scopeId expiresAt : Option String) : Json :=
  object [("id", some (.str id)), ("organizationId", some (.str "acme")),
    ("subjectUserId", some (.str "ann")), ("subjectMembershipId", some (.str "acme:ann")),
    ("capability", some (.str "release.publish")), ("scopeType", some (.str scopeType)),
    ("scopeId", scopeId.map .str), ("startsAt", some (.str "2026-01-01T00:00:00.000Z")),
    ("expiresAt", expiresAt.map .str)]

def targetJson (screenId : String) (locationId : Option String) (groups : List String) : Json :=
  object [("organizationId", some (.str "acme")), ("screenId", some (.str screenId)),
    ("locationId", locationId.map .str), ("screenGroupIds", some (.arr (groups.map .str)))]

def hallGrant : Json := grantJson "grant-a" "LOCATION" (some "hall") none

def lobbyGrant : Json :=
  grantJson "grant-b" "SCREEN_GROUP" (some "lobby") (some "2026-01-06T00:00:00.000Z")

def wideGrant : Json := grantJson "grant-c" "ORGANIZATION" none none

/-- A publisher asks for two screens on a Monday at nine. -/
def showing : ScopedAuthorizationEvaluationInput :=
  { organizationId := some (.str "acme"), actorUserId := some (.str "ann")
    membershipId := some (.str "acme:ann"), role := some (.str "PUBLISHER")
    authorizationEpoch := some (.num 0), capability := some (.str "release.publish")
    evaluatedAt := some (.str "2026-01-05T09:00:00.000Z")
    grants := some (.arr [hallGrant, lobbyGrant, wideGrant])
    targets := some (.arr [targetJson "screen-1" (some "hall") ["street", "lobby"],
      targetJson "screen-2" none ["lobby"]]) }

/-- The same request in another arrangement. -/
def showingShuffled : ScopedAuthorizationEvaluationInput :=
  { showing with
    grants := some (.arr [lobbyGrant, hallGrant, wideGrant])
    targets := some (.arr [targetJson "screen-2" none ["lobby"],
      targetJson "screen-1" (some "hall") ["lobby", "street", "lobby"]]) }

/-- The runtime of the example, with the hash of its evidence. -/
def lobbyEvidence : EvidencePlatform :=
  { cms with
    sha256After := fun domain json =>
      if domain = EVIDENCE_DOMAIN ∧ json = evidence cms showing
          [⟨"screen-1", some "hall", ["lobby", "street"]⟩, ⟨"screen-2", none, ["lobby"]⟩] .allowed
          [⟨"grant-a", "acme:ann", .location, some "hall", "2026-01-01T00:00:00.000Z", none⟩,
           ⟨"grant-b", "acme:ann", .screenGroup, some "lobby", "2026-01-01T00:00:00.000Z",
            some "2026-01-06T00:00:00.000Z"⟩] then
        "54be34099df78d9ae99047e37190f2a841f4457d270dfac57923b2dde7914aca"
      else "" }

theorem lobby_orders (ids : String → Prop) : StrictlyOrders lobbyEvidence.localeCompare ids where
  equal a b _ _ := @Std.LawfulEqCmp.compare_eq_iff_eq String compare _ a b
  swaps a b _ _ := @Std.OrientedCmp.eq_swap String compare _ b a
  trans a b c _ _ _ first second := @Std.TransCmp.lt_trans String compare _ a b c first second

theorem showing_rearranged : Rearranges showing showingShuffled where
  others := rfl
  grants := .inr ⟨_, _, rfl, rfl, .swap _ _ _⟩
  targets := by
    refine .inr ⟨_, _, _, rfl, rfl, .swap _ _ _, .cons (.inl rfl) (.cons (.inr ?_) .nil)⟩
    refine ⟨_, _, ?_, rfl, rfl, ?_⟩
    · intro key other
      unfold targetJson
      simp [Ne.symm other]
    · intro group
      simp [or_comm]

set_option maxRecDepth 10000 in
theorem showing_decision : evaluateScopedAuthorization lobbyEvidence showing =
    { allowed := true, reason := .allowed, matchingGrantIds := ["grant-a", "grant-b"]
      evidenceDigestSha256 :=
        "54be34099df78d9ae99047e37190f2a841f4457d270dfac57923b2dde7914aca" } := by
  decide +kernel

set_option maxRecDepth 10000 in
theorem the_evidence_is_stable_in_the_lobby :
    evaluateScopedAuthorization lobbyEvidence showingShuffled =
        evaluateScopedAuthorization lobbyEvidence showing ∧
      evaluateScopedAuthorization lobbyEvidence
          { showing with grants := some (.arr [hallGrant, lobbyGrant]) } =
        evaluateScopedAuthorization lobbyEvidence showing ∧
      (evaluateScopedAuthorization lobbyEvidence
          { showing with
            grants := some (.arr [hallGrant, grantJson "grant-0" "SCREEN" (some "screen-2") none,
              lobbyGrant, wideGrant]) }).allowed = true ∧
      evaluateScopedAuthorization lobbyEvidence
          { showing with evaluatedAt := some (.str "2026-01-05T09:01:00.000Z") } =
        evaluateScopedAuthorization lobbyEvidence showing := by
  have law := the_evidence_is_stable lobbyEvidence showing (lobby_orders _)
  have nine : normalizedInstant lobbyEvidence.toPlatform showing.evaluatedAt =
      some (screengoblin.schedule.mondayAt 9, "2026-01-05T09:00:00.000Z") := by decide +kernel
  have later : normalizedInstant lobbyEvidence.toPlatform
      (some (.str "2026-01-05T09:01:00.000Z")) =
      some (screengoblin.schedule.mondayAt 9 + 60000, "2026-01-05T09:01:00.000Z") := by
    decide +kernel
  refine ⟨law.1 _ showing_rearranged, ?_, ?_, ?_⟩
  · refine law.2.1 [hallGrant, lobbyGrant] wideGrant [] rfl (by rw [showing_decision]) ?_
    rintro ⟨evaluated, grant, _, active, matching⟩
    have named := activeGrant_id active
    rw [showing_decision] at matching
    have wide : Value.get (some wideGrant) "id" = some (.str "grant-c") := by decide +kernel
    rw [wide] at named
    simp only [Option.some.injEq, Json.str.injEq] at named
    rw [← named] at matching
    revert matching
    decide
  · refine law.2.2.1 [hallGrant] (grantJson "grant-0" "SCREEN" (some "screen-2") none)
      [lobbyGrant, wideGrant] _
      ⟨"grant-0", "acme:ann", .screen, some "screen-2", "2026-01-01T00:00:00.000Z", none⟩ rfl
      (by rw [showing_decision]) nine (by decide +kernel) ?_
    intro w member other active
    have named := activeGrant_id active
    intro same
    rw [same] at named
    revert named member
    simp only [List.cons_append, List.nil_append, List.mem_cons, List.not_mem_nil, or_false]
    rintro (rfl | rfl | rfl) <;> decide +kernel
  · refine law.2.2.2 _ _ _ nine later ?_
    have lists : ∀ now, activeSet lobbyEvidence.toPlatform showing now = {grant |
        grant ∈ [hallGrant, lobbyGrant, wideGrant].filterMap
          (activeGrant lobbyEvidence.toPlatform showing now)} := by
      intro now
      ext grant
      simp only [activeSet, Set.mem_ofPred_eq, List.mem_filterMap]
      rfl
    rw [lists, lists]
    have same : [hallGrant, lobbyGrant, wideGrant].filterMap
          (activeGrant lobbyEvidence.toPlatform showing (screengoblin.schedule.mondayAt 9)) =
        [hallGrant, lobbyGrant, wideGrant].filterMap (activeGrant lobbyEvidence.toPlatform showing
          (screengoblin.schedule.mondayAt 9 + 60000)) := by
      decide +kernel
    rw [same]

end screengoblin.authorization
