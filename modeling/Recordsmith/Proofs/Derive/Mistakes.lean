import Recordsmith.Generation.Directory
import Recordsmith.Proofs.Derive.Expansions
import Recordsmith.Proofs.Generation.Blame

/-!
Where failures are reported. A report carries the name of the field at fault and nothing else of it,
and the place of the diagnostic or of the mistake is looked up by that name. It is the place of the
very field that the failure is blamed on, for that field is the first of its name; and when no field
is blamed it is the place of the whole declaration.
-/

namespace Recordsmith

open Generation

/-! ## Sinks that blame no field -/

theorem collection_blames_no_field : Sink.BlamesNoField Collection :=
  fun _ _ _ failed => nomatch failed

theorem expansion_blames_no_field : Sink.BlamesNoField Expansion :=
  fun _ _ _ failed => nomatch failed

theorem Directory.prepare_blames_no_field {directory prepared : Directory} {path : String}
    {report : Report} (failed : directory.prepare path = (prepared, .error report)) :
    report.fault.field? = none := by
  unfold prepare at failed
  split at failed
  · cases failed
  · split at failed <;> cases failed
    rfl

theorem Directory.write_blames_no_field {directory : Directory} {path text : String}
    {report : Report} (failed : (directory.writeText path text).outcome = .error report) :
    report.fault.field? = none := by
  unfold writeText at failed
  split at failed <;> cases failed
  rfl

/-- A directory fails with what became of an action on a file. -/
theorem directory_blames_no_field : Sink.BlamesNoField Directory := by
  intro artifact directory report failed
  simp only [Sink.emit] at failed
  split at failed
  · exact Directory.write_blames_no_field failed
  next prepared reason unprepared =>
    cases failed
    exact Directory.prepare_blames_no_field unprepared

/-! ## Places -/

namespace Candidate

variable {candidate : Candidate}

theorem Blames.location {before : List DeclaredField} {field : DeclaredField}
    (blamed : candidate.Blames before field) :
    candidate.fieldLocation? field.name = field.location := by
  obtain ⟨after, given, new⟩ := blamed.new
  exact field_location_first given new

theorem not_blames_of_made {settings : Settings} {artifact : Artifact}
    (made : candidate.artifact settings = .ok artifact) (before : List DeclaredField)
    (field : DeclaredField) : ¬ candidate.Blames before field := by
  intro blamed
  obtain ⟨report, failed, _⟩ := blamed.artifact settings
  rw [made] at failed
  cases failed

theorem not_blames_of_whole {settings : Settings} {report : Report}
    (failed : candidate.artifact settings = .error report) (whole : candidate.FailsWhole report)
    (before : List DeclaredField) (field : DeclaredField) : ¬ candidate.Blames before field := by
  intro blamed
  obtain ⟨other, failedOther, named⟩ := blamed.artifact settings
  rw [failed] at failedOther
  cases failedOther
  have unnamed := whole.no_field
  rw [named] at unnamed
  cases unnamed

end Candidate

theorem Fault.field_iff (fault : Fault) (name : String) :
    fault.field? = some name ↔ ∃ record, fault = .invalidField record name := by
  cases fault <;> simp [Fault.field?, eq_comm]

namespace Source.Declaration

variable {declaration : Declaration}

/-- A declared field of the candidate is a field of the declaration, in the same place. -/
theorem blamed_field {before : List DeclaredField} {blamed : DeclaredField}
    (isBlamed : declaration.candidate.Blames before blamed) :
    ∃ earlier field later, declaration.recordFields? = some (earlier ++ field :: later) ∧
      earlier.map Field.declared = before ∧ field.declared = blamed ∧
      field.name ∉ earlier.map (·.name) := by
  obtain ⟨after, given, new⟩ := isBlamed.new
  obtain ⟨fields, recorded, split⟩ := Option.map_eq_some_iff.mp given
  obtain ⟨earlier, behind, rfl, rfl, splitBehind⟩ := List.map_eq_append_iff.mp split
  obtain ⟨field, later, rfl, rfl, rfl⟩ := List.map_eq_cons_iff.mp splitBehind
  refine ⟨earlier, field, later, recorded, rfl, rfl, ?_⟩
  rw [List.map_map] at new
  exact new

theorem field_first {earlier later : List Field} {field : Field}
    (recorded : declaration.recordFields? = some (earlier ++ field :: later))
    (new : field.name ∉ earlier.map (·.name)) : declaration.field? field.name = some field := by
  rw [field?, recorded, Option.getD_some, find_first_named Field.name new]

end Source.Declaration

/-! ## Failures -/

/-- What a failure is reported for: the field it is blamed on with those before it, or nothing but the
whole candidate, which is so when the sink fails. -/
inductive Candidate.FailsFor (candidate : Candidate) (settings : Settings) (report : Report) :
    Option (List DeclaredField × DeclaredField) → Prop where
  | field {before : List DeclaredField} {field : DeclaredField}
      (blamed : candidate.Blames before field) (new : field.name ∉ before.map (·.name))
      (named : report.fault = .invalidField candidate.simpleName field.name) :
      FailsFor candidate settings report (some (before, field))
  | whole (fails : candidate.FailsWhole report)
      (blameless : ∀ before field, ¬ candidate.Blames before field)
      (unnamed : report.fault.field? = none) : FailsFor candidate settings report none
  | sink {artifact : Artifact} (made : candidate.artifact settings = .ok artifact)
      (blameless : ∀ before field, ¬ candidate.Blames before field)
      (unnamed : report.fault.field? = none) : FailsFor candidate settings report none

namespace Candidate.FailsFor

variable {candidate : Candidate} {settings : Settings} {report : Report}
  {culprit : Option (List DeclaredField × DeclaredField)}
  (fails : candidate.FailsFor settings report culprit)

include fails

theorem names : report.fault.field? = culprit.map (·.2.name) := by
  cases fails with
  | field _ _ named => rw [named]; rfl
  | whole _ _ unnamed => exact unnamed
  | sink _ _ unnamed => exact unnamed

theorem location : (report.fault.field?.bind candidate.fieldLocation?) =
    culprit.bind (·.2.location) := by
  cases fails with
  | field blamed _ named =>
      rw [named]
      exact blamed.location
  | whole _ _ unnamed => rw [unnamed]; rfl
  | sink _ _ unnamed => rw [unnamed]; rfl

end Candidate.FailsFor

theorem Candidate.artifact_fails_for {candidate : Candidate} {settings : Settings}
    {report : Report} (failed : candidate.artifact settings = .error report) :
    ∃ culprit, candidate.FailsFor settings report culprit := by
  rcases artifact_error failed with whole | ⟨before, field, blamed, named⟩
  · exact ⟨none, .whole whole (not_blames_of_whole failed whole) whole.no_field⟩
  · obtain ⟨_, _, new⟩ := blamed.new
    exact ⟨some (before, field), .field blamed new named⟩

theorem Generation.process_fails_for {Store : Type} [Sink Store]
    (blamesNone : Sink.BlamesNoField Store) {settings : Settings} {candidate : Candidate}
    {store : Store} {report : Report}
    (failed : (process settings candidate store).outcome = .error report) :
    ∃ culprit, candidate.FailsFor settings report culprit := by
  rcases process_error failed with failed | ⟨artifact, made, failed⟩
  · exact Candidate.artifact_fails_for failed
  · exact ⟨none, .sink made (Candidate.not_blames_of_made made) (blamesNone _ _ _ failed)⟩

namespace Source.Declaration

/-- The fields of a declaration as the fields of its candidate. -/
def declaredCulprit (culprit : List Field × Field) : List DeclaredField × DeclaredField :=
  (culprit.1.map Field.declared, culprit.2.declared)

variable {declaration : Declaration} {settings : Settings} {report : Report}

/-- A mistake is placed at the type of the field that is blamed, or at the declaration's name. -/
theorem mistake_placed {culprit : Option (List DeclaredField × DeclaredField)}
    (fails : declaration.candidate.FailsFor settings report culprit) :
    ∃ source : Option (List Field × Field), source.map declaredCulprit = culprit ∧
      (∀ found ∈ source, ∃ later,
        declaration.recordFields? = some (found.1 ++ found.2 :: later)) ∧
      declaration.mistake report = ⟨report.describe,
        (source.map (·.2.typePlace)).getD declaration.namePlace, none⟩ := by
  have unplaced (unnamed : report.fault.field? = none) :
      declaration.mistake report = ⟨report.describe, declaration.namePlace, none⟩ := by
    rw [mistake, unnamed]
    rfl
  cases fails with
  | whole _ _ unnamed =>
      refine ⟨none, rfl, ?_, unplaced unnamed⟩
      rintro _ ⟨⟩
  | sink _ _ unnamed =>
      refine ⟨none, rfl, ?_, unplaced unnamed⟩
      rintro _ ⟨⟩
  | field blamed _ named =>
      obtain ⟨earlier, field, later, recorded, rfl, rfl, new⟩ := blamed_field blamed
      refine ⟨some (earlier, field), rfl, ?_, ?_⟩
      · rintro _ ⟨⟩
        exact ⟨later, recorded⟩
      · have found : report.fault.field?.bind declaration.field? = some field := by
          rw [named]
          exact field_first recorded new
        rw [mistake, found]
        rfl

end Source.Declaration

/-- A failure is reported where its cause is. In a batch the diagnostic names the field that is
blamed and has its location, or that of the candidate if it has none; and in a declaration the mistake
is at the type of that field. Where no field is blamed none is named, and the location is that of the
candidate and the place that of the declaration's name. -/
theorem failures_are_reported_at_their_cause :
    (Sink.BlamesNoField Collection ∧ Sink.BlamesNoField Directory ∧
      Sink.BlamesNoField Expansion) ∧
    (∀ (report : Report) (name : String), report.fault.field? = some name ↔
      ∃ record, report.fault = .invalidField record name) ∧
    (∀ (Store : Type) [Sink Store], Sink.BlamesNoField Store →
      ∀ (settings : Settings) (before after : List Candidate) (candidate : Candidate)
        (start : Store) (report : Report),
      let processed := process settings candidate (processAll settings before start).store
      processed.outcome = .error report →
        ∃ culprit, candidate.FailsFor settings report culprit ∧
          (processAll settings (before ++ candidate :: after) start).store =
            (processAll settings after (Sink.report ⟨.error, report.describe,
              (culprit.bind (·.2.location)).or candidate.location, culprit.map (·.2.name)⟩
                processed.store)).store) ∧
    ∀ (declaration : Source.Declaration) (path : Option Source.WrittenPath) (mistake : Mistake),
      Helper.runtimePath declaration.attributes = .ok path →
      declaration.expand = .error mistake →
        ∃ (report : Report) (culprit : Option (List Source.Field × Source.Field)),
          (process (Helper.settings path) declaration.candidate Expansion.empty).outcome =
            .error report ∧
          declaration.candidate.FailsFor (Helper.settings path) report
            (culprit.map Source.Declaration.declaredCulprit) ∧
          (∀ found ∈ culprit, ∃ later,
            declaration.recordFields? = some (found.1 ++ found.2 :: later)) ∧
          mistake = ⟨report.describe, (culprit.map (·.2.typePlace)).getD declaration.namePlace,
            none⟩ := by
  refine ⟨⟨collection_blames_no_field, directory_blames_no_field, expansion_blames_no_field⟩,
    fun report name => report.fault.field_iff name, ?_, ?_⟩
  · intro Store _ blamesNone settings before after candidate start report processed failed
    obtain ⟨culprit, fails⟩ := process_fails_for blamesNone failed
    refine ⟨culprit, fails, ?_⟩
    rw [process_all_reports before after start failed, Diagnostic.failed, fails.location,
      fails.names]
  · intro declaration path mistake attributed failed
    rw [Source.Declaration.expand_attributed attributed] at failed
    dsimp only at failed
    split at failed
    · cases failed
    next report outcome =>
      cases failed
      obtain ⟨_, fails⟩ := process_fails_for expansion_blames_no_field outcome
      obtain ⟨culprit, rfl, recorded, placed⟩ := Source.Declaration.mistake_placed fails
      exact ⟨report, culprit, outcome, fails, recorded, placed⟩

/-- A type that is not read is reported although an earlier field has no usable name, and at its own
place; so is the type of a path in a declaration. -/
theorem later_malformed_type_is_reported :
    let place : SourceLocation := ⟨"lib.rs", 4, 5⟩
    let candidate := Candidate.record "MyData"
      [.ofText "fn" "Int", { DeclaredField.ofText "arg2" "List<" with location := some place }]
    let type (names : List String) := Source.WrittenType.path false (names.map .plain)
    let fields : List Source.Field := [⟨[], .everywhere, "arg1", type ["String"], 27⟩,
      ⟨[], .inherited, "arg2", type ["std", "string", "String"], 41⟩]
    let declaration : Source.Declaration :=
      ⟨[], .everywhere, "MyData", 11, [], false, Source.Tree.nothing, .named ⟨fields, false⟩⟩
    (∃ (report : Report) (culprit : Option (List DeclaredField × DeclaredField)),
      (process .standard candidate Collection.empty).outcome = .error report ∧
      candidate.FailsFor .standard report culprit ∧
      culprit.map (·.2.name) = some "arg2" ∧ culprit.bind (·.2.location) = some place) ∧
    ∃ (mistake : Mistake) (earlier later : List Source.Field) (field : Source.Field),
      declaration.expand = .error mistake ∧ fields = earlier ++ field :: later ∧
      mistake.place = 41 ∧ field.typePlace = 41 := by
  intro place candidate type fields declaration
  obtain ⟨_, _, inBatches, inSources⟩ := failures_are_reported_at_their_cause
  constructor
  · let report : Report := ⟨.invalidField "MyData" "arg2", [.malformedType "List<" 5],
      ["Parser stopped at: TakeWhile1"]⟩
    have failed : (process .standard candidate Collection.empty).outcome = .error report := by
      decide +kernel
    obtain ⟨culprit, fails, _⟩ := inBatches Collection collection_blames_no_field .standard [] []
      candidate Collection.empty report failed
    exact ⟨report, culprit, failed, fails, fails.names.symm, fails.location.symm⟩
  · let mistake : Mistake := ⟨"Invalid field `arg2` of record `MyData`: " ++
      "Malformed type expression 'std::string::String' at offset 3", 41, none⟩
    have failed : declaration.expand = .error mistake := by decide +kernel
    obtain ⟨_, culprit, _, _, recorded, placed⟩ := inSources declaration none mistake rfl failed
    have place : 41 = (culprit.map (·.2.typePlace)).getD 11 := congrArg Mistake.place placed
    cases culprit with
    | none => cases place
    | some found =>
        obtain ⟨later, given⟩ := recorded found rfl
        exact ⟨mistake, found.1, later, found.2, failed, Option.some.inj given, rfl, place.symm⟩

end Recordsmith
