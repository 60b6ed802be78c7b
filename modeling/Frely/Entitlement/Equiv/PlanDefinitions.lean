import Frely.Entitlement.PlanDefinitions

/-!
# The terms of a sold Plan

`sameBudgetLimits` compares texts of whole objects.  Equal texts have the same limits
(`sameFields_of_same`), so other limits are always refused on a sold Plan.  But the objects that are
read from the database have the members of their rows as well, so limits that are sent again without
them never have the same text, unless there are none (`same_iff_nil`).
-/

namespace Frely.Entitlement

open Checked StableSort

variable {ν : Type} {numbers : LimitNumbers ν}

/-! ### Normalising -/

theorem setMember_of_member? {value : Members ν} {key : String} {item : Json ν}
    (h : Json.member? value key = some item) : Json.setMember value key item = value := by
  induction value with
  | nil => exact absurd h nofun
  | cons member rest ih =>
    rw [Json.member?, List.lookup_cons] at h
    rw [Json.setMember]
    by_cases hkey : member.1 = key
    · rw [if_pos hkey]
      have heq : (key == member.1) = true := beq_iff_eq.mpr hkey.symm
      rw [heq] at h
      rw [← hkey, ← Option.some.inj h]
    · rw [if_neg hkey]
      have hne : (key == member.1) = false := beq_eq_false_iff_ne.mpr (Ne.symm hkey)
      rw [hne] at h
      rw [ih h]

theorem some_of_isNumber {value : Option (Json ν)} {test : ν → Bool} (h : isNumber value test) :
    ∃ item, value = some item := by
  cases value with
  | none => exact absurd h (by simp [isNumber])
  | some item => exact ⟨item, rfl⟩

theorem some_of_isNull {value : Option (Json ν)} (h : isNull value = true) :
    value = some .null := by
  cases value with
  | none => exact absurd h (by simp [isNull])
  | some item => cases item <;> first | rfl | exact absurd h (by simp [isNull])

/-- A limit that passes its checks is normal already. -/
theorem normalizedLimit_eq {value : Members ν} (h : checkBudgetLimit numbers value = .ok ()) :
    normalizedLimit value = value := by
  simp only [checkBudgetLimit, bind_eq_ok, rejectIf_eq_ok, exists_const] at h
  obtain ⟨-, -, -, htype, hfixed, hcumulative⟩ := h
  unfold normalizedLimit
  by_cases htext : isText (Json.member? value "windowType") "cumulative" = true
  · rw [if_pos htext]
    have hnull : isNull (Json.member? value "windowSeconds") = true := by
      by_contra hnot
      exact hcumulative ⟨htext, hnot⟩
    exact setMember_of_member? (some_of_isNull hnull)
  · rw [if_neg htext]
    have hseconds : isNumber (Json.member? value "windowSeconds") numbers.isSafeInteger := by
      by_contra hnot
      have htype' := (not_not.mp htype).resolve_right htext
      exact hfixed ⟨htype', fun hboth => hnot hboth.1⟩
    obtain ⟨item, hitem⟩ := some_of_isNumber hseconds
    rw [hitem]
    exact setMember_of_member? hitem

section MapSet

variable {κ α : Type} [DecidableEq κ]

theorem mem_mapSet {entries : List (κ × α)} {key : κ} {value : α} {entry : κ × α}
    (h : entry ∈ mapSet entries key value) : entry = (key, value) ∨ entry ∈ entries := by
  induction entries with
  | nil => exact .inl (List.mem_singleton.mp h)
  | cons first rest ih =>
    rw [mapSet] at h
    split_ifs at h with hkey
    · rcases List.mem_cons.mp h with rfl | hrest
      · exact .inl rfl
      · exact .inr (List.mem_cons_of_mem _ hrest)
    · rcases List.mem_cons.mp h with rfl | hrest
      · exact .inr List.mem_cons_self
      · exact (ih hrest).imp_right (List.mem_cons_of_mem _)

theorem mem_keys_mapSet {entries : List (κ × α)} {key : κ} {value : α} {other : κ} :
    other ∈ (mapSet entries key value).map (·.1) ↔ other = key ∨ other ∈ entries.map (·.1) := by
  induction entries with
  | nil => simp [mapSet]
  | cons first rest ih =>
    rw [mapSet]
    split_ifs with hkey
    · rw [List.map_cons, List.map_cons, List.mem_cons, List.mem_cons, hkey]
      tauto
    · rw [List.map_cons, List.map_cons, List.mem_cons, List.mem_cons, ih]
      tauto

end MapSet

/-- What the loop over the limits leaves behind: checked limits under their keys, one for every key
that a limit has. -/
theorem uniqueLimits_eq_ok {input : List (Members ν)}
    {unique result : List (List Char × Members ν)}
    (h : uniqueLimits numbers unique input = .ok result) :
    (∀ value ∈ input, checkBudgetLimit numbers value = .ok ()) ∧
      (∀ entry ∈ result, entry ∈ unique ∨
        ∃ value ∈ input, entry = (limitKey numbers value, value)) ∧
      ∀ key, key ∈ result.map (·.1) ↔
        key ∈ unique.map (·.1) ∨ ∃ value ∈ input, key = limitKey numbers value := by
  induction input generalizing unique with
  | nil =>
    obtain rfl := Except.ok.inj h
    simp
  | cons value rest ih =>
    rw [uniqueLimits] at h
    obtain ⟨⟨⟩, hcheck, h⟩ := bind_eq_ok.mp h
    rw [normalizedLimit_eq hcheck] at h
    obtain ⟨hchecks, hentries, hkeys⟩ := ih h
    refine ⟨?_, ?_, ?_⟩
    · intro other hother
      rcases List.mem_cons.mp hother with rfl | hother
      · exact hcheck
      · exact hchecks other hother
    · intro entry hentry
      rcases hentries entry hentry with hold | ⟨other, hother, heq⟩
      · rcases mem_mapSet hold with rfl | hold
        · exact .inr ⟨value, List.mem_cons_self, rfl⟩
        · exact .inl hold
      · exact .inr ⟨other, List.mem_cons_of_mem _ hother, heq⟩
    · intro key
      rw [hkeys, mem_keys_mapSet]
      simp only [List.mem_cons, exists_eq_or_imp]
      tauto

variable {localeCompare : String → String → Ordering}

/-- **Normalised limits** are limits of the input, one for each key that occurs there. -/
theorem normalizeBudgetLimits_eq_ok {input result : List (Members ν)}
    (h : normalizeBudgetLimits numbers localeCompare input = .ok result) :
    (∀ value ∈ input, checkBudgetLimit numbers value = .ok ()) ∧
      (∀ value ∈ result, value ∈ input) ∧
      ∀ value ∈ input, ∃ kept ∈ result, limitKey numbers kept = limitKey numbers value := by
  obtain ⟨unique, hunique, h⟩ := bind_eq_ok.mp h
  obtain rfl := Except.ok.inj h
  obtain ⟨hchecks, hentries, hkeys⟩ := uniqueLimits_eq_ok hunique
  have hentry : ∀ entry ∈ unique, entry.2 ∈ input ∧ entry.1 = limitKey numbers entry.2 := by
    intro entry hmem
    rcases hentries entry hmem with hnone | ⟨value, hvalue, rfl⟩
    · exact absurd hnone List.not_mem_nil
    · exact ⟨hvalue, rfl⟩
  refine ⟨hchecks, ?_, ?_⟩
  · intro value hvalue
    obtain ⟨entry, hmem, rfl⟩ := List.mem_map.mp (mem_sortBy.mp hvalue)
    exact (hentry entry hmem).1
  · intro value hvalue
    obtain ⟨entry, hmem, hkey⟩ := List.mem_map.mp ((hkeys _).mpr (.inr ⟨value, hvalue, rfl⟩))
    refine ⟨entry.2, mem_sortBy.mpr (List.mem_map_of_mem hmem), ?_⟩
    rw [← (hentry entry hmem).2, hkey]

/-- Checked limits can be normalised. -/
theorem exists_uniqueLimits {input : List (Members ν)}
    (h : ∀ value ∈ input, checkBudgetLimit numbers value = .ok ()) :
    ∀ unique, ∃ result, uniqueLimits numbers unique input = .ok result := by
  induction input with
  | nil => exact fun unique => ⟨unique, rfl⟩
  | cons value rest ih =>
    intro unique
    rw [uniqueLimits, h value List.mem_cons_self]
    exact ih (fun other hother => h other (List.mem_cons_of_mem _ hother)) _

theorem exists_normalizeBudgetLimits {input : List (Members ν)}
    (h : ∀ value ∈ input, checkBudgetLimit numbers value = .ok ()) :
    ∃ result, normalizeBudgetLimits numbers localeCompare input = .ok result := by
  obtain ⟨unique, hunique⟩ := exists_uniqueLimits h []
  refine ⟨_, bind_eq_ok.mpr ⟨unique, hunique, rfl⟩⟩

/-! ### Comparing -/

theorem distinct_of_member? {value : Members ν} (h : Json.DistinctMembers value) {key : String}
    {item : Json ν} (hitem : Json.member? value key = some item) : item.Distinct := by
  have hmem : ∃ name, (name, item) ∈ value := by
    induction value with
    | nil => exact absurd hitem nofun
    | cons member rest ih =>
      rw [Json.member?, List.lookup_cons] at hitem
      split at hitem
      · exact ⟨member.1, by rw [← Option.some.inj hitem]; exact List.mem_cons_self⟩
      · obtain ⟨name, hname⟩ := ih h.2 hitem
        exact ⟨name, List.mem_cons_of_mem _ hname⟩
  obtain ⟨name, hname⟩ := hmem
  exact Json.distinctMembers_iff.mp h _ hname

/-- The key of a limit says its fields. -/
theorem limitFields_eq {a b : Members ν} (ha : (Json.object a).Distinct)
    (hb : (Json.object b).Distinct) (h : limitKey numbers a = limitKey numbers b) :
    limitFields a = limitFields b := by
  have hdistinct : ∀ {value : Members ν}, (Json.object value).Distinct →
      (Json.array (limitFields value)).Distinct := by
    intro value hvalue
    refine Json.distinctItems_iff.mpr fun item hitem => ?_
    obtain ⟨key, -, rfl⟩ := List.mem_map.mp hitem
    cases hmember : Json.member? value key with
    | none => trivial
    | some item => exact distinct_of_member? hvalue.2 hmember
  exact Json.array.inj (Json.eq_of_stringify_eq (hdistinct ha) (hdistinct hb) h)

theorem eq_of_limitsText_eq {left right : List (Members ν)}
    (hleft : ∀ value ∈ left, (Json.object value).Distinct)
    (hright : ∀ value ∈ right, (Json.object value).Distinct)
    (h : limitsText numbers left = limitsText numbers right) : left = right := by
  have hdistinct : ∀ {limits : List (Members ν)},
      (∀ value ∈ limits, (Json.object value).Distinct) →
        (Json.array (limits.map Json.object)).Distinct := by
    intro limits hlimits
    refine Json.distinctItems_iff.mpr fun item hitem => ?_
    obtain ⟨value, hvalue, rfl⟩ := List.mem_map.mp hitem
    exact hlimits value hvalue
  have hmap := Json.array.inj (Json.eq_of_stringify_eq (hdistinct hleft) (hdistinct hright) h)
  exact List.map_injective_iff.mpr (fun _ _ => Json.object.inj) hmap

/-- Two lists have the same set of limits. -/
def SameLimits (left right : List (Members ν)) : Prop :=
  ∀ fields, (∃ value ∈ left, limitFields value = fields) ↔
    ∃ value ∈ right, limitFields value = fields

section Same

variable {left right : List (Members ν)}
  (hleft : ∀ value ∈ left, (Json.object value).Distinct)
  (hright : ∀ value ∈ right, (Json.object value).Distinct)

include hleft hright

/-- Lists with one text were normalised to one list. -/
theorem normalized_of_same (h : sameBudgetLimits numbers localeCompare left right = .ok true) :
    ∃ kept, normalizeBudgetLimits numbers localeCompare left = .ok kept ∧
      normalizeBudgetLimits numbers localeCompare right = .ok kept := by
  obtain ⟨left', hleft', h⟩ := bind_eq_ok.mp h
  obtain ⟨right', hright', h⟩ := bind_eq_ok.mp h
  have htext := of_decide_eq_true (Except.ok.inj h)
  have hmemLeft := (normalizeBudgetLimits_eq_ok hleft').2.1
  have hmemRight := (normalizeBudgetLimits_eq_ok hright').2.1
  have heq := eq_of_limitsText_eq (fun value hvalue => hleft value (hmemLeft value hvalue))
    (fun value hvalue => hright value (hmemRight value hvalue)) htext
  exact ⟨left', hleft', heq ▸ hright'⟩

/-- **Equal texts have the same limits.** -/
theorem sameLimits_of_same (h : sameBudgetLimits numbers localeCompare left right = .ok true) :
    SameLimits left right := by
  obtain ⟨kept, hkeptLeft, hkeptRight⟩ := normalized_of_same hleft hright h
  obtain ⟨-, hmemLeft, hfromLeft⟩ := normalizeBudgetLimits_eq_ok hkeptLeft
  obtain ⟨-, hmemRight, hfromRight⟩ := normalizeBudgetLimits_eq_ok hkeptRight
  intro fields
  constructor
  · rintro ⟨value, hvalue, rfl⟩
    obtain ⟨other, hother, hkey⟩ := hfromLeft value hvalue
    exact ⟨other, hmemRight other hother,
      limitFields_eq (hright other (hmemRight other hother)) (hleft value hvalue) hkey⟩
  · rintro ⟨value, hvalue, rfl⟩
    obtain ⟨other, hother, hkey⟩ := hfromRight value hvalue
    exact ⟨other, hmemLeft other hother,
      limitFields_eq (hleft other (hmemLeft other hother)) (hright value hvalue) hkey⟩

/-- **Limits with the members of their rows never have the text of limits without them**, unless
there are none. -/
theorem same_iff_nil
    (hrows : ∀ value ∈ left, "id" ∈ Json.keys value)
    (hsent : ∀ value ∈ right, "id" ∉ Json.keys value)
    (hlimits : SameLimits left right) :
    sameBudgetLimits numbers localeCompare left right = .ok true ↔ left = [] := by
  constructor
  · intro h
    obtain ⟨kept, hkeptLeft, hkeptRight⟩ := normalized_of_same hleft hright h
    obtain ⟨-, hmemLeft, hfromLeft⟩ := normalizeBudgetLimits_eq_ok hkeptLeft
    obtain ⟨-, hmemRight, -⟩ := normalizeBudgetLimits_eq_ok hkeptRight
    by_contra hne
    obtain ⟨value, hvalue⟩ := List.exists_mem_of_ne_nil _ hne
    obtain ⟨other, hother, -⟩ := hfromLeft value hvalue
    exact hsent other (hmemRight other hother) (hrows other (hmemLeft other hother))
  · rintro rfl
    have hnil : right = [] := by
      by_contra hne
      obtain ⟨value, hvalue⟩ := List.exists_mem_of_ne_nil _ hne
      obtain ⟨other, hother, -⟩ := (hlimits _).mpr ⟨value, hvalue, rfl⟩
      exact absurd hother List.not_mem_nil
    rw [hnil]
    have hempty : normalizeBudgetLimits numbers localeCompare [] = .ok [] := rfl
    simp [sameBudgetLimits, hempty]

end Same

/-! ### Rows -/

theorem distinct_limitSnapshot (row : PlanBudgetLimitRow ν) :
    (Json.object (limitSnapshot row)).Distinct := by
  refine ⟨?_, ?_⟩
  · have hkeys : Json.keys (limitSnapshot row) = ["id", "planId", "limitScope", "metric",
        "limitValue", "windowType", "windowSeconds", "createdAt"] := rfl
    rw [hkeys]
    decide
  · unfold limitSnapshot
    cases row.windowSeconds <;> simp [Json.DistinctMembers, Json.Distinct]

theorem id_mem_limitSnapshot (row : PlanBudgetLimitRow ν) :
    "id" ∈ Json.keys (limitSnapshot row) := List.mem_cons_self

/-- A row that meets the constraints of its table passes the checks. -/
theorem checkBudgetLimit_limitSnapshot {row : PlanBudgetLimitRow ν}
    (h : row.MeetsConstraints numbers) :
    checkBudgetLimit numbers (limitSnapshot row) = .ok () := by
  have hscope : Json.member? (limitSnapshot row) "limitScope" = some (.string row.limitScope) := rfl
  have hmetric : Json.member? (limitSnapshot row) "metric" = some (.string row.metric) := rfl
  have hvalue : Json.member? (limitSnapshot row) "limitValue" = some (.number row.limitValue) := rfl
  have htype : Json.member? (limitSnapshot row) "windowType" = some (.string row.windowType) := rfl
  have hseconds : Json.member? (limitSnapshot row) "windowSeconds" =
      some (row.windowSeconds.elim .null .number) := by
    cases hrow : row.windowSeconds <;> simp only [limitSnapshot, hrow] <;> rfl
  have hpositive := h.positive
  simp only [checkBudgetLimit, bind_eq_ok, rejectIf_eq_ok, exists_const, hscope, hmetric, hvalue,
    htype, hseconds, isText, isNumber, decide_eq_true_eq, not_not]
  refine ⟨h.limitScope, h.metric, ?_, ?_, ?_, ?_⟩
  · rintro (hnot | ⟨htokens, hnot⟩)
    · exact hnot hpositive
    · exact hnot (h.tokens htokens)
  · rcases h.window with ⟨hfixed, -⟩ | ⟨hcumulative, -⟩
    · exact .inl hfixed
    · exact .inr hcumulative
  · rintro ⟨hfixed, hnot⟩
    rcases h.window with ⟨-, seconds, hmem, hboth⟩ | ⟨hcumulative, -⟩
    · rw [Option.mem_def.mp hmem] at hnot
      exact hnot hboth
    · rw [hcumulative] at hfixed
      exact absurd hfixed (by decide)
  · rintro ⟨hcumulative, hnot⟩
    rcases h.window with ⟨hfixed, -⟩ | ⟨-, hnone⟩
    · rw [hfixed] at hcumulative
      exact absurd hcumulative (by decide)
    · rw [hnone] at hnot
      exact hnot rfl

/-! ### Who raises the error -/

/-- A computation that never stops because the terms of a sold Plan change. -/
def NotSold {α : Type} (x : Except EntitlementError α) : Prop :=
  x ≠ .error soldPlanTermsImmutable

theorem notSold_pure {α : Type} (a : α) : NotSold (pure a : Except EntitlementError α) := nofun

theorem notSold_checkBudgetLimit (value : Members ν) :
    NotSold (checkBudgetLimit numbers value) := by
  unfold checkBudgetLimit invalidPlanBudgetLimit
  refine bind_ne_error (rejectIf_relay_ne (by decide)) fun _ _ => ?_
  refine bind_ne_error (rejectIf_relay_ne (by decide)) fun _ _ => ?_
  refine bind_ne_error (rejectIf_relay_ne (by decide)) fun _ _ => ?_
  refine bind_ne_error (rejectIf_relay_ne (by decide)) fun _ _ => ?_
  refine bind_ne_error (rejectIf_relay_ne (by decide)) fun _ _ => ?_
  exact rejectIf_relay_ne (by decide)

theorem notSold_uniqueLimits (input : List (Members ν)) :
    ∀ unique, NotSold (uniqueLimits numbers unique input) := by
  induction input with
  | nil => exact fun unique => notSold_pure unique
  | cons value rest ih =>
    exact fun unique => bind_ne_error (notSold_checkBudgetLimit value) fun _ _ => ih _

theorem notSold_normalizeBudgetLimits (input : List (Members ν)) :
    NotSold (normalizeBudgetLimits numbers localeCompare input) :=
  bind_ne_error (notSold_uniqueLimits input []) fun _ _ => notSold_pure _

theorem notSold_validatePlanAccessPoints (tables : PlanTables ν) (ids : List String) :
    NotSold (validatePlanAccessPoints tables ids) := by
  refine bind_ne_error (rejectIf_relay_ne (by decide)) fun _ _ => ?_
  unfold requireOnePerModel
  split
  · intro h
    exact relay_ne (by simp) (Except.error.inj h)
  · exact notSold_pure ()

theorem notSold_validatePlanDefinition (tables : PlanTables ν) (definition : PlanDefinition ν) :
    NotSold (validatePlanDefinition tables numbers localeCompare definition) := by
  unfold validatePlanDefinition
  refine bind_ne_error (rejectIf_relay_ne (by simp)) fun _ _ => ?_
  refine bind_ne_error ?_ fun _ _ => ?_
  · unfold requiredText
    dsimp only
    split_ifs
    · intro h
      exact relay_ne (by decide) (Except.error.inj h)
    · exact notSold_pure _
  refine bind_ne_error (bind_ne_error (rejectIf_relay_ne (by decide)) fun _ _ => notSold_pure _)
    fun _ _ => ?_
  refine bind_ne_error (rejectIf_relay_ne (by decide)) fun _ _ => ?_
  refine bind_ne_error (rejectIf_relay_ne (by decide)) fun _ _ => ?_
  refine bind_ne_error (rejectIf_relay_ne (by decide)) fun _ _ => ?_
  refine bind_ne_error (rejectIf_relay_ne (by decide)) fun _ _ => ?_
  refine bind_ne_error (rejectIf_relay_ne (by decide)) fun _ _ => ?_
  refine bind_ne_error (rejectIf_relay_ne (by decide)) fun _ _ => ?_
  refine bind_ne_error (notSold_validatePlanAccessPoints tables _) fun _ _ => ?_
  exact bind_ne_error (notSold_normalizeBudgetLimits _) fun _ _ => notSold_pure _

/-- What a definition that passes its checks is normalised to. -/
theorem of_validatePlanDefinition {tables : PlanTables ν} {definition : PlanDefinition ν}
    {normalized : NormalizedPlan}
    (h : validatePlanDefinition tables numbers localeCompare definition = .ok normalized) :
    normalized.durationSeconds = definition.durationSeconds ∧
      ∃ limits, normalizeBudgetLimits numbers localeCompare definition.budgetLimits =
        .ok limits := by
  simp only [validatePlanDefinition, boundedIntegerIn, bind_eq_ok, rejectIf_eq_ok, pure_eq_ok,
    Except.ok.injEq, exists_const] at h
  obtain ⟨-, name, -, duration, ⟨-, rfl⟩, -, -, -, -, -, -, _, -, limits, hlimits, rfl⟩ := h
  exact ⟨rfl, limits, hlimits⟩

section Revision

variable {tables : PlanTables ν} {planId : String} {existing : PlanRow ν}
  {command : RevisePlanDefinitionCommand ν}

theorem notSold_commercialChanged (normalized : NormalizedPlan) (next : PlanDefinition ν) :
    NotSold (commercialChanged tables numbers localeCompare existing normalized next) := by
  unfold commercialChanged
  split_ifs
  · exact notSold_pure _
  · exact bind_ne_error (bind_ne_error (notSold_normalizeBudgetLimits _) fun _ _ =>
      bind_ne_error (notSold_normalizeBudgetLimits _) fun _ _ => notSold_pure _) fun _ _ =>
        notSold_pure _

/-- **When a revision is refused because the Plan is sold.** -/
theorem revisePlanDefinition_sold_iff
    (hplan : tables.plans.find? (·.id = planId) = some existing) (now : String) :
    revisePlanDefinition tables numbers localeCompare planId command now =
        .error soldPlanTermsImmutable ↔
      ∃ normalized, validatePlanDefinition tables numbers localeCompare
          (nextDefinition tables existing command) = .ok normalized ∧
        commercialChanged tables numbers localeCompare existing normalized
          (nextDefinition tables existing command) = .ok true ∧
        command.hasHistoricalReferences = true := by
  unfold revisePlanDefinition
  rw [hplan]
  constructor
  · intro h
    rcases bind_eq_error.mp h with hstop | ⟨normalized, hnormalized, h⟩
    · exact absurd hstop (notSold_validatePlanDefinition tables _)
    rcases bind_eq_error.mp h with hstop | ⟨changed, hchanged, h⟩
    · exact absurd hstop (notSold_commercialChanged normalized _)
    rcases bind_eq_error.mp h with hstop | ⟨_, -, h⟩
    · obtain ⟨⟨hsold, rfl⟩, -⟩ := rejectIf_eq_error.mp hstop
      exact ⟨normalized, hnormalized, hchanged, hsold⟩
    · have hstatus : NotSold (checkPlanStatus existing command normalized >>= fun _ =>
          pure (⟨revisedRow existing command normalized (nextDefinition tables existing command)
            now, command.accessPointIds.map (·.eraseDups),
            if command.budgetLimits.isSome then
              (normalizeBudgetLimits numbers localeCompare
                (nextDefinition tables existing command).budgetLimits).toOption
            else none⟩ : PlanRevision ν)) := by
        refine bind_ne_error ?_ fun _ _ => notSold_pure _
        refine bind_ne_error (rejectIf_relay_ne (by decide)) fun _ _ => ?_
        exact bind_ne_error (rejectIf_relay_ne (by decide)) fun _ _ => rejectIf_relay_ne (by decide)
      exact absurd h hstatus
  · rintro ⟨normalized, hnormalized, hchanged, hsold⟩
    rw [bind_eq_error]
    refine .inr ⟨normalized, hnormalized, ?_⟩
    rw [hchanged, bind_ok, rejectIf_of ⟨hsold, rfl⟩]
    rfl

/-! ### Terms that are sent again -/

/-- The stored terms sent again: the same duration, financial terms and access points, and the same
limits, in any order and without the members of their rows. -/
structure ResubmitsTerms (tables : PlanTables ν) (existing : PlanRow ν)
    (command : RevisePlanDefinitionCommand ν) (limits : List (LimitObject ν)) : Prop where
  duration : command.durationSeconds.getD existing.durationSeconds = existing.durationSeconds
  billingMode : (command.financialTerms.getD existing.toFinancialTerms).billingMode =
    existing.billingMode
  purchaseAmountUnits : (command.financialTerms.getD
    existing.toFinancialTerms).purchaseAmountUnits = existing.purchaseAmountUnits
  accessPoints : ∀ ids ∈ command.accessPointIds, ∀ id,
    id ∈ ids ↔ id ∈ tables.currentAccess existing.id
  sent : command.budgetLimits = some limits
  bare : ∀ limit ∈ limits, "id" ∉ Json.keys limit.members
  same : SameLimits (tables.currentLimits existing.id) (limits.map (·.members))

theorem nodup_eraseDups {α : Type} [BEq α] [LawfulBEq α] (l : List α) : l.eraseDups.Nodup := by
  induction hlength : l.length using Nat.strong_induction_on generalizing l with
  | _ n ih =>
    cases l with
    | nil => simp
    | cons a rest =>
      rw [List.eraseDups_cons]
      refine List.nodup_cons.mpr ⟨?_, ih _ ?_ _ rfl⟩
      · rw [List.mem_eraseDups, List.mem_filter]
        simp
      · have hle := List.length_filter_le (fun b => !b == a) rest
        rw [← hlength, List.length_cons]
        omega

/-- The same ids sort to the same list. -/
theorem sameAccessPoints_of_mem_iff {left right : List String}
    (h : ∀ id, id ∈ left ↔ id ∈ right) : sameAccessPoints left right = true := by
  have hperm : left.eraseDups.Perm right.eraseDups := by
    rw [List.perm_ext_iff_of_nodup (nodup_eraseDups left) (nodup_eraseDups right)]
    intro id
    rw [List.mem_eraseDups, List.mem_eraseDups]
    exact h id
  have htotal : Std.Total fun a b : String => (compare a b).isLE = true :=
    ⟨fun a b => by
      by_cases hle : (compare a b).isLE = true
      · exact .inl hle
      · refine .inr (Std.OrientedCmp.isLE_of_isGE ?_)
        rw [Std.OrientedCmp.isGE_iff_isLE, Std.OrientedCmp.lt_of_not_isLE hle]
        rfl⟩
  have htrans : IsTrans String fun a b => (compare a b).isLE = true :=
    ⟨fun _ _ _ => Std.TransCmp.isLE_trans⟩
  have hsorted : ∀ ids : List String,
      (sortedIds ids).Pairwise fun a b => (compare a b).isLE = true :=
    fun ids => List.pairwise_insertionSort _ _
  have hsortedPerm : (sortedIds left).Perm (sortedIds right) :=
    (perm_sortBy _).trans (hperm.trans (perm_sortBy _).symm)
  refine decide_eq_true (hsortedPerm.eq_of_pairwise (fun a b _ _ hab hba => ?_) (hsorted left)
    (hsorted right))
  exact Std.LawfulEqCmp.eq_of_compare (Std.OrientedCmp.isLE_antisymm hab hba)

theorem distinct_currentLimits :
    ∀ value ∈ tables.currentLimits existing.id, (Json.object value).Distinct := by
  intro value hvalue
  obtain ⟨row, -, rfl⟩ := List.mem_map.mp hvalue
  exact distinct_limitSnapshot row

theorem distinct_nextLimits :
    ∀ value ∈ (nextDefinition tables existing command).budgetLimits,
      (Json.object value).Distinct := by
  unfold nextDefinition
  dsimp only
  cases command.budgetLimits with
  | none => exact distinct_currentLimits
  | some limits =>
    intro value hvalue
    obtain ⟨limit, -, rfl⟩ := List.mem_map.mp hvalue
    exact limit.distinct

variable (hrows : ∀ row ∈ tables.planBudgetLimits, row.MeetsConstraints numbers)

include hrows in
theorem exists_normalized_currentLimits :
    ∃ kept, normalizeBudgetLimits numbers localeCompare (tables.currentLimits existing.id) =
      .ok kept := by
  refine exists_normalizeBudgetLimits fun value hvalue => ?_
  obtain ⟨row, hrow, rfl⟩ := List.mem_map.mp hvalue
  exact checkBudgetLimit_limitSnapshot (hrows row (List.mem_filter.mp hrow).1)

include hrows in
/-- The terms sent again have changed for the comparison as soon as there is a stored limit. -/
theorem commercialChanged_resubmits {limits : List (LimitObject ν)}
    (h : ResubmitsTerms tables existing command limits) {normalized : NormalizedPlan}
    (hnormalized : validatePlanDefinition tables numbers localeCompare
      (nextDefinition tables existing command) = .ok normalized) :
    commercialChanged tables numbers localeCompare existing normalized
        (nextDefinition tables existing command) = .ok true ↔
      tables.currentLimits existing.id ≠ [] := by
  obtain ⟨hduration, kept, hkept⟩ := of_validatePlanDefinition hnormalized
  have haccess : sameAccessPoints (tables.currentAccess existing.id)
      (nextDefinition tables existing command).accessPointIds = true := by
    unfold nextDefinition
    dsimp only
    cases hids : command.accessPointIds with
    | none => exact sameAccessPoints_of_mem_iff fun _ => Iff.rfl
    | some ids => exact sameAccessPoints_of_mem_iff fun id => (h.accessPoints ids hids id).symm
  have hsent : (nextDefinition tables existing command).budgetLimits = limits.map (·.members) := by
    unfold nextDefinition
    rw [h.sent]
    rfl
  have hsame : SameLimits (tables.currentLimits existing.id)
      (nextDefinition tables existing command).budgetLimits := hsent ▸ h.same
  -- stored limits carry an "id" that the sent ones lack: equal lists are empty ones
  have hold : ∀ value ∈ tables.currentLimits existing.id, "id" ∈ Json.keys value := by
    intro value hvalue
    obtain ⟨row, -, rfl⟩ := List.mem_map.mp hvalue
    exact id_mem_limitSnapshot row
  have hbare : ∀ value ∈ (nextDefinition tables existing command).budgetLimits,
      "id" ∉ Json.keys value := by
    intro value hvalue
    rw [hsent] at hvalue
    obtain ⟨limit, hlimit, rfl⟩ := List.mem_map.mp hvalue
    exact h.bare limit hlimit
  have hiff := @same_iff_nil ν numbers localeCompare _ _ distinct_currentLimits distinct_nextLimits
    hold hbare hsame
  obtain ⟨stored, hstored⟩ := @exists_normalized_currentLimits ν numbers localeCompare tables
    existing hrows
  have hunchanged : ¬(normalized.durationSeconds ≠ existing.durationSeconds ∨
      (nextDefinition tables existing command).financialTerms.billingMode ≠
        existing.billingMode ∨
      (nextDefinition tables existing command).financialTerms.purchaseAmountUnits ≠
        existing.purchaseAmountUnits ∨
      ¬sameAccessPoints (tables.currentAccess existing.id)
        (nextDefinition tables existing command).accessPointIds = true) := by
    rintro (hne | hne | hne | hne)
    · exact hne (hduration.trans h.duration)
    · exact hne h.billingMode
    · exact hne h.purchaseAmountUnits
    · exact hne haccess
  obtain ⟨same, hcompare⟩ : ∃ same, sameBudgetLimits numbers localeCompare
      (tables.currentLimits existing.id) (nextDefinition tables existing command).budgetLimits =
        .ok same := by
    unfold sameBudgetLimits
    rw [hstored, hkept]
    exact ⟨_, rfl⟩
  unfold commercialChanged
  rw [if_neg hunchanged, hcompare, ne_eq, ← hiff, hcompare]
  cases same <;> simp

include hrows in
/-- **Revising a sold Plan.**  Terms that are sent again are accepted exactly when no historical
references exist, no limit is stored, or the definition is refused anyway.  Other limits are refused
whenever historical references exist. -/
theorem revisePlanDefinition_sold
    (hplan : tables.plans.find? (·.id = planId) = some existing) (now : String) :
    (∀ limits, ResubmitsTerms tables existing command limits →
      (revisePlanDefinition tables numbers localeCompare planId command now ≠
          .error soldPlanTermsImmutable ↔
        command.hasHistoricalReferences = false ∨ tables.currentLimits existing.id = [] ∨
          ∀ normalized, validatePlanDefinition tables numbers localeCompare
            (nextDefinition tables existing command) ≠ .ok normalized)) ∧
    (¬SameLimits (tables.currentLimits existing.id)
        (nextDefinition tables existing command).budgetLimits →
      command.hasHistoricalReferences = true →
      (∃ normalized, validatePlanDefinition tables numbers localeCompare
        (nextDefinition tables existing command) = .ok normalized) →
      revisePlanDefinition tables numbers localeCompare planId command now =
        .error soldPlanTermsImmutable) := by
  have hsold := @revisePlanDefinition_sold_iff ν numbers localeCompare tables planId existing
    command hplan now
  constructor
  · intro limits h
    rw [ne_eq, hsold]
    constructor
    · intro hnot
      by_contra hcond
      push Not at hcond
      obtain ⟨hreferences, hlimits, normalized, hnormalized⟩ := hcond
      exact hnot ⟨normalized, hnormalized,
        (commercialChanged_resubmits hrows h hnormalized).mpr hlimits,
        Bool.eq_true_of_not_eq_false hreferences⟩
    · rintro hcond ⟨normalized, hnormalized, hchanged, hreferences⟩
      have hlimits := (commercialChanged_resubmits hrows h hnormalized).mp hchanged
      rcases hcond with hnone | hnil | hrefused
      · rw [hnone] at hreferences
        exact absurd hreferences (by decide)
      · exact hlimits hnil
      · exact hrefused normalized hnormalized
  · rintro hdifferent hreferences ⟨normalized, hnormalized⟩
    refine hsold.mpr ⟨normalized, hnormalized, ?_, hreferences⟩
    -- both lists of limits are normalised, so that their texts are compared
    obtain ⟨-, kept, hkept⟩ := of_validatePlanDefinition hnormalized
    obtain ⟨stored, hstored⟩ := @exists_normalized_currentLimits ν numbers localeCompare tables
      existing hrows
    unfold commercialChanged
    split_ifs with hterms
    · rfl
    · have hcompare : sameBudgetLimits numbers localeCompare (tables.currentLimits existing.id)
          (nextDefinition tables existing command).budgetLimits =
            .ok (decide (limitsText numbers stored = limitsText numbers kept)) := by
        unfold sameBudgetLimits
        rw [hstored, hkept]
        rfl
      have hfalse : decide (limitsText numbers stored = limitsText numbers kept) = false := by
        by_contra htrue
        rw [Bool.not_eq_false] at htrue
        rw [htrue] at hcompare
        exact hdifferent (sameLimits_of_same distinct_currentLimits distinct_nextLimits hcompare)
      rw [hcompare, hfalse]
      rfl

end Revision

/-! ### A sold Plan -/

def natNumbers : LimitNumbers Nat where
  format := Json.natFormat
  sign number := compare number 0
  isSafeInteger number := decide (number ≤ 9007199254740991)

def samplePlan : PlanRow Nat where
  billingMode := "prepaid"
  purchaseAmount := 10
  purchaseAmountUnits := 1000
  id := "plan-1"
  ownerId := "user-1"
  scopeRef := "global:"
  name := "Starter"
  version := 1
  description := none
  adminNote := none
  durationSeconds := 86400
  planStatus := "enabled"
  catalogStatus := "listed"
  createdAt := "2026-01-01T00:00:00.000Z"
  updatedAt := "2026-01-01T00:00:00.000Z"

def sampleLimit : PlanBudgetLimitRow Nat where
  id := "limit-1"
  planId := "plan-1"
  limitScope := "user"
  metric := "tokens"
  limitValue := 1000
  windowType := "cumulative"
  windowSeconds := none
  createdAt := "2026-01-01T00:00:00.000Z"

def sampleTables : PlanTables Nat where
  plans := [samplePlan]
  planAccessPoints := [⟨"included-1", "plan-1", "point-1"⟩]
  planBudgetLimits := [sampleLimit]
  userControls := ["user-1"]
  accessPoints := [⟨"point-1", "enabled", "model-a", none⟩]

/-- The stored limit as an editor sends it. -/
def sentLimit : LimitObject Nat where
  members := [("limitScope", .string "user"), ("metric", .string "tokens"),
    ("limitValue", .number 1000), ("windowType", .string "cumulative"), ("windowSeconds", .null)]
  distinct := by
    refine ⟨by decide, ?_⟩
    simp [Json.DistinctMembers, Json.Distinct]

def resubmission : RevisePlanDefinitionCommand Nat where
  name := none
  ownerId := none
  scopeRef := none
  description := none
  adminNote := none
  durationSeconds := some 86400
  status := none
  catalogStatus := none
  accessPointIds := some ["point-1"]
  budgetLimits := some [sentLimit]
  financialTerms := some ⟨"prepaid", 10, 1000⟩
  hasHistoricalReferences := true
  hasOutstandingEntitlements := true

theorem sampleTables_meetsConstraints :
    ∀ row ∈ sampleTables.planBudgetLimits, row.MeetsConstraints natNumbers := by
  intro row hrow
  obtain rfl := List.mem_singleton.mp hrow
  exact ⟨.inr rfl, .inl rfl, rfl, fun _ => rfl, .inr ⟨rfl, rfl⟩⟩

theorem resubmission_resubmits :
    ResubmitsTerms sampleTables samplePlan resubmission [sentLimit] where
  duration := rfl
  billingMode := rfl
  purchaseAmountUnits := rfl
  accessPoints := by
    intro ids hids id
    obtain rfl := Option.some.inj hids
    rfl
  sent := rfl
  bare := by
    intro limit hlimit
    obtain rfl := List.mem_singleton.mp hlimit
    decide
  same := by
    have hstored : sampleTables.currentLimits samplePlan.id = [limitSnapshot sampleLimit] := rfl
    have hfields : limitFields (limitSnapshot sampleLimit) = limitFields sentLimit.members := rfl
    intro fields
    simp [hstored, hfields]

theorem validate_resubmission :
    validatePlanDefinition sampleTables natNumbers compare
        (nextDefinition sampleTables samplePlan resubmission) =
      .ok ⟨"Starter", 86400, "enabled", "listed"⟩ := by
  decide

/-- A sold Plan with one stored limit refuses its own terms. -/
theorem revisePlanDefinition_resubmission :
    (∀ row ∈ sampleTables.planBudgetLimits, row.MeetsConstraints natNumbers) ∧
      ResubmitsTerms sampleTables samplePlan resubmission [sentLimit] ∧
      revisePlanDefinition sampleTables natNumbers compare "plan-1" resubmission
        "2026-02-01T00:00:00.000Z" = .error soldPlanTermsImmutable := by
  refine ⟨sampleTables_meetsConstraints, resubmission_resubmits, ?_⟩
  refine (revisePlanDefinition_sold_iff rfl _).mpr ⟨_, validate_resubmission, ?_, rfl⟩
  refine (commercialChanged_resubmits sampleTables_meetsConstraints resubmission_resubmits
    validate_resubmission).mpr ?_
  exact List.cons_ne_nil _ _

/-- Without historical references the same terms are accepted. -/
theorem revisePlanDefinition_unsold :
    revisePlanDefinition sampleTables natNumbers compare "plan-1"
      { resubmission with hasHistoricalReferences := false } "2026-02-01T00:00:00.000Z" ≠
        .error soldPlanTermsImmutable := by
  have hterms : ResubmitsTerms sampleTables samplePlan
      { resubmission with hasHistoricalReferences := false } [sentLimit] :=
    { duration := rfl
      billingMode := rfl
      purchaseAmountUnits := rfl
      accessPoints := resubmission_resubmits.accessPoints
      sent := rfl
      bare := resubmission_resubmits.bare
      same := resubmission_resubmits.same }
  exact ((revisePlanDefinition_sold sampleTables_meetsConstraints rfl _).1 _ hterms).mpr (.inl rfl)

end Frely.Entitlement
