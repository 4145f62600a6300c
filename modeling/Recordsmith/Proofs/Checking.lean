import Recordsmith.Proofs.Outcome

/-!
Outcomes that checks decide. A list of checks decides an outcome when there is a result as long as all
of them hold, and otherwise the report of the first that does not. Chains of outcomes are decided by
the checks of their parts, one behind the other.
-/

namespace Recordsmith

/-- Something that has to hold, and what is reported when it does not. -/
structure Check where
  holds : Prop
  report : Report

namespace Check

/-- The check with its report under a fault. -/
def under (check : Check) (fault : Fault) : Check := ⟨check.holds, check.report.under fault⟩

/-- The first check that does not hold has the report. -/
def FirstFailing (checks : List Check) (report : Report) : Prop :=
  ∃ before check after, checks = before ++ check :: after ∧ (∀ passed ∈ before, passed.holds) ∧
    ¬ check.holds ∧ report = check.report

theorem no_failing_nil {report : Report} : ¬ FirstFailing [] report := by
  rintro ⟨before, check, after, whole, _⟩
  cases before <;> cases whole

theorem first_failing_cons {first : Check} {rest : List Check} {report : Report} :
    FirstFailing (first :: rest) report ↔
      (¬ first.holds ∧ report = first.report) ∨ (first.holds ∧ FirstFailing rest report) := by
  constructor
  · rintro ⟨before, check, after, whole, passed, fails, reported⟩
    cases before with
    | nil =>
        cases whole
        exact .inl ⟨fails, reported⟩
    | cons opening before =>
        cases whole
        obtain ⟨holds, passed⟩ := List.forall_mem_cons.mp passed
        exact .inr ⟨holds, before, check, after, rfl, passed, fails, reported⟩
  · rintro (⟨fails, reported⟩ | ⟨holds, before, check, after, rfl, passed, fails, reported⟩)
    · exact ⟨[], first, rest, rfl, nofun, fails, reported⟩
    · exact ⟨first :: before, check, after, rfl, List.forall_mem_cons.mpr ⟨holds, passed⟩, fails,
        reported⟩

/-- Something fails first when not everything holds. -/
theorem exists_first_failing_iff {checks : List Check} :
    (∃ report, FirstFailing checks report) ↔ ¬ ∀ check ∈ checks, check.holds := by
  induction checks with
  | nil => simp [no_failing_nil]
  | cons first rest induction =>
      rw [List.forall_mem_cons, not_and, ← induction]
      simp only [first_failing_cons, exists_or, exists_and_left, exists_eq, and_true]
      by_cases holds : first.holds <;> simp [holds]

theorem first_failing_append {first second : List Check} {report : Report} :
    FirstFailing (first ++ second) report ↔ FirstFailing first report ∨
      ((∀ check ∈ first, check.holds) ∧ FirstFailing second report) := by
  induction first with
  | nil => simp [no_failing_nil]
  | cons opening rest induction =>
      rw [List.cons_append, first_failing_cons, first_failing_cons, induction,
        List.forall_mem_cons, and_or_left, or_assoc, and_assoc]

/-- Of the checks of several elements the first failing one is one of the first element that has any. -/
theorem first_failing_flat_map {Element : Type} {checks : Element → List Check}
    {elements : List Element} {report : Report} :
    FirstFailing (elements.flatMap checks) report ↔ ∃ before element after,
      elements = before ++ element :: after ∧
      (∀ passed ∈ before, ∀ check ∈ checks passed, check.holds) ∧
      FirstFailing (checks element) report := by
  induction elements with
  | nil => simp [no_failing_nil]
  | cons first rest induction =>
      rw [List.flatMap_cons, first_failing_append, induction]
      constructor
      · rintro (failing | ⟨holds, before, element, after, rfl, passed, failing⟩)
        · exact ⟨[], first, rest, rfl, nofun, failing⟩
        · exact ⟨first :: before, element, after, rfl, List.forall_mem_cons.mpr ⟨holds, passed⟩,
            failing⟩
      · rintro ⟨before, element, after, whole, passed, failing⟩
        cases before with
        | nil =>
            cases whole
            exact .inl failing
        | cons opening before =>
            cases whole
            obtain ⟨holds, passed⟩ := List.forall_mem_cons.mp passed
            exact .inr ⟨holds, before, element, after, rfl, passed, failing⟩

theorem first_failing_map {Element : Type} {check : Element → Check} {elements : List Element}
    {report : Report} :
    FirstFailing (elements.map check) report ↔ ∃ before element after,
      elements = before ++ element :: after ∧ (∀ passed ∈ before, (check passed).holds) ∧
      ¬ (check element).holds ∧ report = (check element).report := by
  rw [List.map_eq_flatMap, first_failing_flat_map]
  simp only [List.forall_mem_singleton, first_failing_cons, no_failing_nil, and_false, or_false]

theorem first_failing_under {checks : List Check} {fault : Fault} {report : Report} :
    FirstFailing (checks.map (·.under fault)) report ↔
      ∃ cause, FirstFailing checks cause ∧ report = cause.under fault := by
  induction checks with
  | nil => simp [no_failing_nil]
  | cons first rest induction =>
      simp only [List.map_cons, first_failing_cons, induction, or_and_right, exists_or]
      refine or_congr ?_ ?_
      · simp [under]
      · simp [under, and_assoc]

end Check

/-- A list of checks decides an outcome. -/
structure Outcome.DecidedBy {Result : Type} (outcome : Outcome Result) (checks : List Check) :
    Prop where
  ok : (∃ result, outcome = .ok result) ↔ ∀ check ∈ checks, check.holds
  error : ∀ report, outcome = .error report ↔ Check.FirstFailing checks report

namespace Outcome

variable {Element Value Result : Type}

theorem decided_ok (result : Result) : DecidedBy (.ok result) [] :=
  ⟨⟨fun _ => nofun, fun _ => ⟨result, rfl⟩⟩,
    fun _ => ⟨nofun, fun failing => (Check.no_failing_nil failing).elim⟩⟩

theorem decided_single {outcome : Outcome Result} {check : Check}
    (ok : (∃ result, outcome = .ok result) ↔ check.holds)
    (error : ∀ report, outcome = .error report ↔ ¬ check.holds ∧ report = check.report) :
    outcome.DecidedBy [check] := by
  refine ⟨by rw [ok, List.forall_mem_singleton], fun report => ?_⟩
  rw [error, Check.first_failing_cons]
  simp [Check.no_failing_nil]

theorem decided_bind {first : Outcome Value} {next : Value → Outcome Result}
    {before after : List Check} (decided : first.DecidedBy before)
    (decidedNext : ∀ value, first = .ok value → (next value).DecidedBy after) :
    DecidedBy (first >>= next) (before ++ after) := by
  constructor
  · rw [List.forall_mem_append, ← decided.ok]
    constructor
    · rintro ⟨result, succeeded⟩
      obtain ⟨value, succeededFirst, succeededNext⟩ := bind_ok_iff.mp succeeded
      exact ⟨⟨value, succeededFirst⟩,
        (decidedNext value succeededFirst).ok.mp ⟨result, succeededNext⟩⟩
    · rintro ⟨⟨value, succeededFirst⟩, allHold⟩
      obtain ⟨result, succeededNext⟩ := (decidedNext value succeededFirst).ok.mpr allHold
      exact ⟨result, bind_ok_iff.mpr ⟨value, succeededFirst, succeededNext⟩⟩
  · intro report
    rw [bind_error_iff, Check.first_failing_append, decided.error report, ← decided.ok]
    refine or_congr_right ⟨?_, ?_⟩
    · rintro ⟨value, succeededFirst, failed⟩
      exact ⟨⟨value, succeededFirst⟩, ((decidedNext value succeededFirst).error report).mp failed⟩
    · rintro ⟨⟨value, succeededFirst⟩, failing⟩
      exact ⟨value, succeededFirst,
        ((decidedNext value succeededFirst).error report).mpr failing⟩

theorem decided_return {outcome : Outcome Value} {checks : List Check}
    (decided : outcome.DecidedBy checks) (finish : Value → Result) :
    DecidedBy (outcome >>= fun value => pure (finish value)) checks := by
  have behind := decided_bind decided fun value _ => decided_ok (finish value)
  rw [List.append_nil] at behind
  exact behind

/-- Checks that have held once decide nothing any more. -/
theorem decided_passed {outcome : Outcome Result} {checks : List Check}
    (decided : outcome.DecidedBy checks) (passed : ∀ check ∈ checks, check.holds) :
    outcome.DecidedBy [] := by
  obtain ⟨result, succeeded⟩ := decided.ok.mpr passed
  rw [succeeded]
  exact decided_ok result

theorem decided_under {outcome : Outcome Result} {checks : List Check}
    (decided : outcome.DecidedBy checks) (fault : Fault) :
    (outcome.under fault).DecidedBy (checks.map (·.under fault)) := by
  constructor
  · simp only [under_ok_iff, decided.ok, List.forall_mem_map]
    exact Iff.rfl
  · intro report
    simp only [under_error_iff, Check.first_failing_under, decided.error]

/-- A check of every element is decided by the checks of the first element, then by those of the
next. -/
theorem decided_collect {check : Element → Outcome Result} {checks : Element → List Check}
    (decided : ∀ element, (check element).DecidedBy (checks element)) (elements : List Element) :
    (collect check elements).DecidedBy (elements.flatMap checks) := by
  induction elements with
  | nil => exact decided_ok []
  | cons first rest induction =>
      rw [collect, List.flatMap_cons]
      exact decided_bind (decided first) fun value _ => decided_return induction (value :: ·)

end Outcome

end Recordsmith
