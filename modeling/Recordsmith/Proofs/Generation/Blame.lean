import Recordsmith.Proofs.Companion.Checks
import Recordsmith.Proofs.Generation.Batches
import Recordsmith.Proofs.Record.Refusing

/-!
The field that a failure is blamed on. Types are read before anything is lowered, so the first field
whose type cannot be read is blamed even if an earlier one cannot be lowered; only when all types are
read, and the record itself can be reached, the first field that cannot be lowered is. A field is
never blamed behind another one of its name, for a repeated name is a failure of the whole record.
-/

namespace Recordsmith

/-- The name, the visibility and the type of a field can be lowered, in a record of a visibility. -/
def DeclaredField.IsUsable (field : DeclaredField) (recordVisibility : String) : Prop :=
  Identifier.IsReadFrom field.name ∧
    Source.Visibility.IsGivenBy (field.visibility.getD recordVisibility) ∧
    ∃ type code, TypeExpr.parse field.typeText = .ok type ∧ type.lower = .ok code

namespace RecordDescriptor

/-- The names on the path of a record, the name of its partial and its visibility can be read. -/
def IsReachable (record : RecordDescriptor) : Prop :=
  (∀ segment ∈ record.pathSegments, Identifier.IsReadFrom segment) ∧
    Identifier.IsReadFrom (partialStart ++ record.name) ∧
    Source.Visibility.IsGivenBy record.visibility

/-- The checks that come before those of the fields. -/
def ownChecks (record : RecordDescriptor) : List Check :=
  record.pathSegments.map .name ++
    [.name (partialStart ++ record.name), .visibility record.visibility]

theorem own_checks_hold_iff (record : RecordDescriptor) :
    (∀ check ∈ record.ownChecks, check.holds) ↔ record.IsReachable := by
  simp only [ownChecks, List.forall_mem_append, List.forall_mem_cons, List.forall_mem_map]
  simp [IsReachable, Check.name, Check.visibility]

/-- What fails first is the record, or a field of a record that can be reached. -/
theorem first_failing_iff {record : RecordDescriptor} {report : Report} :
    Check.FirstFailing record.checks report ↔ Check.FirstFailing record.ownChecks report ∨
      record.IsReachable ∧ ∃ before field after cause, record.fields = before ++ field :: after ∧
        (∀ earlier ∈ before, ∀ check ∈ earlier.checks record.visibility, check.holds) ∧
        Check.FirstFailing (field.checks record.visibility) cause ∧
        report = cause.under (.invalidField record.name field.name) := by
  have parts : record.checks = record.ownChecks ++ record.fields.flatMap fun field =>
      (field.checks record.visibility).map (·.under (.invalidField record.name field.name)) := by
    simp [checks, ownChecks]
  rw [parts, Check.first_failing_append, own_checks_hold_iff, Check.first_failing_flat_map]
  simp only [List.forall_mem_map, Check.first_failing_under]
  refine or_congr_right (and_congr_right fun _ => ⟨?_, ?_⟩)
  · rintro ⟨before, field, after, whole, passed, cause, failing, reported⟩
    exact ⟨before, field, after, cause, whole, passed, failing, reported⟩
  · rintro ⟨before, field, after, cause, whole, passed, failing, reported⟩
    exact ⟨before, field, after, whole, passed, cause, failing, reported⟩

theorem own_check_unnamed {record : RecordDescriptor} {report : Report}
    (failing : Check.FirstFailing record.ownChecks report) :
    ∃ role name, report = .ofFault (.invalidIdentifier role name) := by
  obtain ⟨before, check, after, whole, _, _, rfl⟩ := failing
  have member : check ∈ record.ownChecks := whole ▸ List.mem_append_right before List.mem_cons_self
  simp only [ownChecks, List.mem_append, List.mem_map, List.mem_cons, List.not_mem_nil,
    or_false] at member
  rcases member with ⟨segment, _, rfl⟩ | rfl | rfl <;> exact ⟨_, _, rfl⟩

end RecordDescriptor

/-! ## Declared fields and described ones -/

theorem described_usable_iff {declared : DeclaredField} {field : FieldDescriptor}
    (described : declared.DescribedAs field) (visibility : String) :
    (∀ check ∈ field.checks visibility, check.holds) ↔ declared.IsUsable visibility := by
  obtain ⟨type, parsed, rfl⟩ := described
  simp only [FieldDescriptor.checks, List.forall_mem_cons, DeclaredField.IsUsable]
  refine and_congr Iff.rfl (and_congr Iff.rfl ?_)
  rw [← type.lower_decided.ok]
  constructor
  · rintro ⟨code, lowered⟩
    exact ⟨type, code, parsed, lowered⟩
  · rintro ⟨found, code, parsedFound, lowered⟩
    rw [parsed] at parsedFound
    cases parsedFound
    exact ⟨code, lowered⟩

theorem all_usable_iff {declared : List DeclaredField} {fields : List FieldDescriptor}
    (described : List.Forall₂ DeclaredField.DescribedAs declared fields) (visibility : String) :
    (∀ field ∈ fields, ∀ check ∈ field.checks visibility, check.holds) ↔
      ∀ field ∈ declared, field.IsUsable visibility := by
  induction described with
  | nil => simp
  | cons first _ induction =>
      rw [List.forall_mem_cons, List.forall_mem_cons, described_usable_iff first, induction]

/-- What matches a list is cut where the list is cut. -/
theorem matched_at {Left Right : Type} {Matches : Left → Right → Prop} {before after : List Left}
    {element : Left} {whole : List Right}
    (matched : List.Forall₂ Matches (before ++ element :: after) whole) :
    ∃ first value rest, whole = first ++ value :: rest ∧ List.Forall₂ Matches before first ∧
      Matches element value := by
  induction before generalizing whole with
  | nil =>
      obtain ⟨value, rest, found, _, rfl⟩ := List.forall₂_cons_left_iff.mp matched
      exact ⟨[], value, rest, rfl, .nil, found⟩
  | cons opening before induction =>
      obtain ⟨value, rest, found, matchedRest, rfl⟩ := List.forall₂_cons_left_iff.mp matched
      obtain ⟨first, middle, last, rfl, matchedBefore, matchedElement⟩ := induction matchedRest
      exact ⟨value :: first, middle, last, rfl, .cons found matchedBefore, matchedElement⟩

/-- An element is found by its name when none before it has that name. -/
theorem find_first_named {Element : Type} (name : Element → String) {before after : List Element}
    {element : Element} (new : name element ∉ before.map name) :
    (before ++ element :: after).find? (fun other => name other == name element) =
      some element := by
  rw [List.find?_append, List.find?_eq_none.mpr, Option.none_or, List.find?_cons_of_pos (by simp)]
  intro earlier member same
  exact new (List.mem_map.mpr ⟨earlier, member, by simpa using same⟩)

namespace Candidate

/-- A failure is blamed on the field behind those before it: the first one whose type cannot be read,
or else the first one that cannot be lowered. -/
inductive Blames (candidate : Candidate) (before : List DeclaredField) (field : DeclaredField) :
    Prop where
  | malformed {package : String} {after : List DeclaredField}
      (given : candidate.fields = some (before ++ field :: after))
      (packaged : candidate.HasPackage package) (sound : AreSound before)
      (new : field.name ∉ before.map (·.name))
      (unread : ∀ type, TypeExpr.parse field.typeText ≠ .ok type)
  | unusable {record : RecordDescriptor} {after : List DeclaredField}
      (given : candidate.fields = some (before ++ field :: after))
      (described : candidate.describe = .ok record) (reachable : record.IsReachable)
      (usable : ∀ earlier ∈ before, earlier.IsUsable candidate.visibility)
      (unusable : ¬ field.IsUsable candidate.visibility)

/-- A failure that no field is blamed for: the field list is absent or repeats a name, or the names do
not fit together, or the record itself cannot be reached. -/
inductive FailsWhole (candidate : Candidate) : Report → Prop where
  | refused (violation : Violation)
      (refused : candidate.describe = .error (.ofFault (.invariantViolated violation))) :
      FailsWhole candidate (.ofFault (.invariantViolated violation))
  | unreachable {record : RecordDescriptor} (role : NameRole) (name : String)
      (described : candidate.describe = .ok record) (unreachable : ¬ record.IsReachable) :
      FailsWhole candidate (.ofFault (.invalidIdentifier role name))

variable {candidate : Candidate} {settings : Settings}

theorem FailsWhole.no_field {report : Report} (fails : candidate.FailsWhole report) :
    report.fault.field? = none := by
  cases fails <;> rfl

/-- No field before the blamed one has its name. -/
theorem Blames.new {before : List DeclaredField} {field : DeclaredField}
    (blamed : candidate.Blames before field) :
    ∃ after, candidate.fields = some (before ++ field :: after) ∧
      field.name ∉ before.map (·.name) := by
  cases blamed with
  | malformed given _ _ new _ => exact ⟨_, given, new⟩
  | unusable given described =>
      obtain ⟨declared, _, _, listed, _, _, distinct, _⟩ := describe_ok_iff.mp described
      rw [given] at listed
      cases listed
      rw [List.map_append, List.map_cons, List.nodup_append] at distinct
      exact ⟨_, given, fun member => distinct.2.2 _ member _ List.mem_cons_self rfl⟩

theorem synthesize_error_iff {record : RecordDescriptor} {report : Report} :
    record.synthesize settings = .error report ↔ Check.FirstFailing record.checks report :=
  (Outcome.decided_return (record.plan_decided settings) _).error report

/-- Every failure is one of the whole record or blamed on a field. -/
theorem artifact_error {report : Report} (failed : candidate.artifact settings = .error report) :
    candidate.FailsWhole report ∨ ∃ before field, candidate.Blames before field ∧
      report.fault = .invalidField candidate.simpleName field.name := by
  rcases bind_error failed with refused | ⟨record, described, failed⟩
  · cases describe_error_iff.mp refused with
    | absent => exact .inl (.refused _ refused)
    | mismatch => exact .inl (.refused _ refused)
    | repeated => exact .inl (.refused _ refused)
    | malformed given packaged sound new unread =>
        refine .inr ⟨_, _, .malformed given packaged sound new fun type parsed => ?_, rfl⟩
        rw [unread] at parsed
        cases parsed
  · rcases RecordDescriptor.first_failing_iff.mp (synthesize_error_iff.mp failed) with
      failing | ⟨reachable, before, field, after, cause, whole, passed, failing, rfl⟩
    · obtain ⟨role, name, rfl⟩ := RecordDescriptor.own_check_unnamed failing
      refine .inl (.unreachable role name described fun reachable => ?_)
      exact Check.exists_first_failing_iff.mp ⟨_, failing⟩
        (record.own_checks_hold_iff.mpr reachable)
    · obtain ⟨declared, package, fields, given, _, matched, _, rfl⟩ := describe_ok_iff.mp described
      cases whole
      obtain ⟨first, blamed, rest, rfl, matchedBefore, matchedField⟩ := matched_at matched.flip
      refine .inr ⟨first, blamed, .unusable given described reachable ?_ ?_, ?_⟩
      · exact (all_usable_iff matchedBefore.flip _).mp passed
      · rw [← described_usable_iff matchedField]
        exact Check.exists_first_failing_iff.mp ⟨cause, failing⟩
      · obtain ⟨type, _, rfl⟩ := matchedField
        rfl

/-- A candidate with a field to blame fails, and its report names that field. -/
theorem Blames.artifact {before : List DeclaredField} {field : DeclaredField}
    (blamed : candidate.Blames before field) (settings : Settings) :
    ∃ report, candidate.artifact settings = .error report ∧
      report.fault = .invalidField candidate.simpleName field.name := by
  cases blamed with
  | malformed given packaged sound new unread =>
      cases parsed : TypeExpr.parse field.typeText with
      | ok type => exact absurd parsed (unread type)
      | error cause =>
          obtain ⟨offset, notes, rfl⟩ := TypeExpr.parse_error parsed
          have refused := describe_error_iff.mpr (.malformed given packaged sound new parsed)
          exact ⟨_, bind_error_iff.mpr (.inl refused), rfl⟩
  | unusable given described reachable usable unusable =>
      obtain ⟨declared, package, fields, listed, _, matched, _, rfl⟩ := describe_ok_iff.mp described
      rw [given] at listed
      cases listed
      obtain ⟨first, value, rest, rfl, matchedBefore, matchedField⟩ := matched_at matched
      rw [← described_usable_iff matchedField, ← Check.exists_first_failing_iff] at unusable
      obtain ⟨cause, failing⟩ := unusable
      refine ⟨cause.under (.invalidField candidate.simpleName value.name),
        bind_error_iff.mpr (.inr ⟨_, described, synthesize_error_iff.mpr ?_⟩), ?_⟩
      · exact RecordDescriptor.first_failing_iff.mpr (.inr ⟨reachable, first, value, rest, cause,
          rfl, (all_usable_iff matchedBefore _).mpr usable, failing, rfl⟩)
      · obtain ⟨type, _, rfl⟩ := matchedField
        rfl

/-- The location of a field that is the first of its name. -/
theorem field_location_first {before after : List DeclaredField} {field : DeclaredField}
    (given : candidate.fields = some (before ++ field :: after))
    (new : field.name ∉ before.map (·.name)) :
    candidate.fieldLocation? field.name = field.location := by
  rw [fieldLocation?, given, Option.getD_some, find_first_named DeclaredField.name new,
    Option.bind_some]

end Candidate

/-! ## Sinks -/

/-- What a sink fails with is no fault of a field. -/
def Sink.BlamesNoField (Store : Type) [Sink Store] : Prop :=
  ∀ (artifact : Artifact) (store : Store) (report : Report),
    (Sink.emit artifact store).outcome = .error report → report.fault.field? = none

namespace Generation

variable {Store : Type} [Sink Store] {settings : Settings} {candidate : Candidate}

/-- Work on a candidate fails because there is no artifact or because the sink does not take it. -/
theorem process_error {store : Store} {report : Report}
    (failed : (process settings candidate store).outcome = .error report) :
    candidate.artifact settings = .error report ∨ ∃ artifact,
      candidate.artifact settings = .ok artifact ∧
      (Sink.emit artifact store).outcome = .error report := by
  cases unmet : candidate.unmet? with
  | some precondition =>
      rw [process_skipped _ _ _ _ unmet] at failed
      cases failed
  | none =>
      cases made : candidate.artifact settings with
      | error reason =>
          rw [(process_failed _ _ _ _ unmet made).2] at failed
          cases failed
          exact .inl rfl
      | ok artifact =>
          rw [(process_handed _ _ _ _ unmet made).2] at failed
          cases given : (Sink.emit artifact store).outcome with
          | ok done =>
              rw [given] at failed
              cases failed
          | error reason =>
              rw [given] at failed
              cases failed
              exact .inr ⟨artifact, rfl, given⟩

/-- In a batch a failure is reported before the candidates behind it are worked on. -/
theorem process_all_reports (before after : List Candidate) (start : Store) {report : Report}
    (failed : (process settings candidate (processAll settings before start).store).outcome =
      .error report) :
    (processAll settings (before ++ candidate :: after) start).store =
      (processAll settings after (Sink.report
        (Diagnostic.failed candidate report.fault.field? report.describe)
        (process settings candidate (processAll settings before start).store).store)).store := by
  have split := (attempt_each_append settings before (candidate :: after) start).1
  change (attemptEach settings (before ++ candidate :: after) start).store = _
  rw [split, attemptEach]
  unfold attempt
  dsimp only
  rw [show (process settings candidate (attemptEach settings before start).store).outcome = _ from
    failed]
  rfl

end Generation

end Recordsmith
