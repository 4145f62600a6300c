import Recordsmith.Proofs.Record.QualifiedNames

/-!
What describing a candidate is refused with. The parts of a candidate are looked at in a fixed order,
and in the field list one field after another, so that of several things that are wrong the first
one is reported.
-/

namespace Recordsmith

theorem TypeExpr.parse_error {text : String} {report : Report} (failed : parse text = .error report) :
    ∃ offset notes, report = ⟨.malformedType text offset, [], notes⟩ := by
  unfold parse at failed
  split at failed
  · cases failed
  · exact ⟨_, _, (Except.error.inj failed).symm⟩

namespace Candidate

open Text

/-! ## The package -/

/-- What stands in front of the scoped name. The scoped name may be the whole, and a package is
followed by a full stop. -/
def HasPackage (candidate : Candidate) (package : String) : Prop :=
  (candidate.qualifiedName = candidate.scopedName ∧ package = "") ∨
    candidate.qualifiedName = package ++ "." ++ candidate.scopedName

theorem scoped_name_eq (candidate : Candidate) : candidate.scopedName =
    if candidate.scopeQualifier = "" then candidate.simpleName
    else if candidate.simpleName = "" then candidate.scopeQualifier
    else candidate.scopeQualifier ++ "." ++ candidate.simpleName := by
  rw [scopedName]
  by_cases unscoped : candidate.scopeQualifier = "" <;>
    by_cases unnamed : candidate.simpleName = "" <;>
      simp [joinDotted, unscoped, unnamed]

theorem drop_ending_append (kept ending : String) :
    dropEnding? (kept ++ ending) ending = some kept := by
  simp [dropEnding?]

theorem package_ok_iff {candidate : Candidate} {package : String} :
    candidate.package = .ok package ↔ candidate.HasPackage package := by
  constructor
  · intro packaged
    refine (package_joined packaged).imp And.symm fun joined => ?_
    rw [joined]
    simp
  · rintro (⟨whole, rfl⟩ | joined)
    · rw [Candidate.package, if_pos whole]
    · have longer : candidate.qualifiedName ≠ candidate.scopedName := by
        intro whole
        have lengths := congrArg String.length (whole.symm.trans joined)
        simp only [String.length_append] at lengths
        have stop : (".").length = 1 := rfl
        omega
      rw [Candidate.package, if_neg longer, joined, drop_ending_append, Option.bind_some,
        drop_ending_append]

theorem package_error_iff {candidate : Candidate} {report : Report} :
    candidate.package = .error report ↔ (∀ package, ¬ candidate.HasPackage package) ∧
      report = .ofFault (.invariantViolated
        (.nameMismatch candidate.qualifiedName candidate.scopedName)) := by
  simp only [← package_ok_iff]
  constructor
  · intro failed
    refine ⟨fun package packaged => ?_, ?_⟩
    · rw [failed] at packaged
      cases packaged
    · unfold Candidate.package at failed
      split_ifs at failed
      split at failed
      · cases failed
      · exact (Except.error.inj failed).symm
  · rintro ⟨unsuited, rfl⟩
    unfold Candidate.package at unsuited ⊢
    split_ifs at unsuited ⊢ with whole
    · exact absurd rfl (unsuited "")
    · split
      next package found =>
        rw [found] at unsuited
        exact absurd rfl (unsuited package)
      next => rfl

/-! ## The fields -/

/-- No name comes twice, and every type is read. -/
def AreSound (declared : List DeclaredField) : Prop :=
  (declared.map (·.name)).Nodup ∧
    ∀ field ∈ declared, ∃ type, TypeExpr.parse field.typeText = .ok type

theorem all_described_iff {declared : List DeclaredField} :
    (∃ fields, List.Forall₂ DeclaredField.DescribedAs declared fields) ↔
      ∀ field ∈ declared, ∃ type, TypeExpr.parse field.typeText = .ok type := by
  induction declared with
  | nil => simp
  | cons first rest induction =>
      rw [List.forall_mem_cons, ← induction]
      constructor
      · rintro ⟨fields, described⟩
        cases described with
        | cons firstDescribed restDescribed =>
            obtain ⟨type, parsed, _⟩ := firstDescribed
            exact ⟨⟨type, parsed⟩, _, restDescribed⟩
      · rintro ⟨⟨type, parsed⟩, fields, described⟩
        exact ⟨_ :: fields, .cons ⟨type, parsed, rfl⟩ described⟩

/-- What is reported of a field behind others: that its name comes again, or else what is wrong with
its type. -/
def FieldFails (record : String) (seen : List String) (field : DeclaredField)
    (report : Report) : Prop :=
  (field.name ∈ seen ∧
    report = .ofFault (.invariantViolated (.repeatedField field.name record))) ∨
  (field.name ∉ seen ∧ ∃ cause, TypeExpr.parse field.typeText = .error cause ∧
    report = cause.under (.invalidField record field.name))

theorem field_fails_congr {record : String} {seen others : List String} {field : DeclaredField}
    {report : Report} (same : field.name ∈ seen ↔ field.name ∈ others) :
    FieldFails record seen field report ↔ FieldFails record others field report := by
  rw [FieldFails, FieldFails, same]

/-- What is wrong behind a field is reported when the field itself is described. -/
theorem describe_fields_cons_error_iff {record : String} {seen : List String}
    {first : DeclaredField} {rest : List DeclaredField} {report : Report} :
    describeFields record seen (first :: rest) = .error report ↔
      FieldFails record seen first report ∨
        (first.name ∉ seen ∧ ∃ type, TypeExpr.parse first.typeText = .ok type) ∧
          describeFields record (first.name :: seen) rest = .error report := by
  rw [describeFields, FieldFails]
  by_cases wasSeen : first.name ∈ seen
  · simp [wasSeen, eq_comm]
  · simp only [wasSeen, List.contains_eq_mem, decide_false, Bool.false_eq_true, if_false, false_and,
      not_false_eq_true, true_and, false_or, bind_error_iff, under_error_iff, under_ok_iff]
    refine or_congr Iff.rfl ⟨?_, ?_⟩
    · rintro ⟨type, parsed, failed | ⟨_, _, absurdity⟩⟩
      · exact ⟨⟨type, parsed⟩, failed⟩
      · cases absurdity
    · rintro ⟨⟨type, parsed⟩, failed⟩
      exact ⟨type, parsed, .inl failed⟩

/-- Fields of names apart from one another and from those seen, all with types that are read. -/
def AreSoundBehind (seen : List String) (declared : List DeclaredField) : Prop :=
  AreSound declared ∧ ∀ field ∈ declared, field.name ∉ seen

theorem sound_behind_cons {seen : List String} {first : DeclaredField}
    {rest : List DeclaredField} :
    AreSoundBehind seen (first :: rest) ↔
      (first.name ∉ seen ∧ ∃ type, TypeExpr.parse first.typeText = .ok type) ∧
        AreSoundBehind (first.name :: seen) rest := by
  simp only [AreSoundBehind, AreSound, List.map_cons, List.nodup_cons, forall_eq_or_imp,
    List.mem_cons, not_or, List.mem_map, not_exists, not_and]
  constructor
  · rintro ⟨⟨⟨apart, distinct⟩, read, allRead⟩, unseen, allUnseen⟩
    exact ⟨⟨unseen, read⟩, ⟨distinct, allRead⟩, fun field member =>
      ⟨apart field member, allUnseen field member⟩⟩
  · rintro ⟨⟨unseen, read⟩, ⟨distinct, allRead⟩, allApart⟩
    exact ⟨⟨⟨fun field member => (allApart field member).1, distinct⟩, read, allRead⟩, unseen,
      fun field member => (allApart field member).2⟩

/-- The first field that fails is reported. -/
theorem describe_fields_error_iff {record : String} {seen : List String}
    {declared : List DeclaredField} {report : Report} :
    describeFields record seen declared = .error report ↔
      ∃ before field after, declared = before ++ field :: after ∧ AreSoundBehind seen before ∧
        FieldFails record (before.map (·.name) ++ seen) field report := by
  induction declared generalizing seen with
  | nil => simp [describeFields]
  | cons first rest induction =>
      rw [describe_fields_cons_error_iff, induction]
      constructor
      · rintro (fails | ⟨passed, before, field, after, rfl, sound, fails⟩)
        · exact ⟨[], first, rest, rfl,
            ⟨⟨List.nodup_nil, List.forall_mem_nil _⟩, List.forall_mem_nil _⟩, fails⟩
        · refine ⟨first :: before, field, after, rfl, sound_behind_cons.mpr ⟨passed, sound⟩, ?_⟩
          exact (field_fails_congr (by simp [or_left_comm])).mp fails
      · rintro ⟨before, field, after, whole, sound, fails⟩
        cases before with
        | nil =>
            cases whole
            exact .inl fails
        | cons opening before =>
            cases whole
            obtain ⟨passed, sound⟩ := sound_behind_cons.mp sound
            exact .inr ⟨passed, before, field, after, rfl, sound,
              (field_fails_congr (by simp [or_left_comm])).mp fails⟩

/-! ## The candidate -/

/-- The reports a candidate is refused with. A field that repeats a name and whose type cannot be
read is refused for the name. -/
inductive Refused (candidate : Candidate) : Report → Prop where
  | absent (missing : candidate.fields = none) :
      Refused candidate (.ofFault (.invariantViolated (.absentFieldList candidate.qualifiedName)))
  | mismatch {declared : List DeclaredField} (given : candidate.fields = some declared)
      (unsuited : ∀ package, ¬ candidate.HasPackage package) :
      Refused candidate (.ofFault (.invariantViolated
        (.nameMismatch candidate.qualifiedName candidate.scopedName)))
  | repeated {package : String} {before after : List DeclaredField} {field : DeclaredField}
      (given : candidate.fields = some (before ++ field :: after))
      (packaged : candidate.HasPackage package) (sound : AreSound before)
      (again : field.name ∈ before.map (·.name)) :
      Refused candidate (.ofFault (.invariantViolated
        (.repeatedField field.name candidate.simpleName)))
  | malformed {package : String} {before after : List DeclaredField} {field : DeclaredField}
      {offset : Nat} {notes : List String}
      (given : candidate.fields = some (before ++ field :: after))
      (packaged : candidate.HasPackage package) (sound : AreSound before)
      (new : field.name ∉ before.map (·.name))
      (unread : TypeExpr.parse field.typeText =
        .error ⟨.malformedType field.typeText offset, [], notes⟩) :
      Refused candidate ⟨.invalidField candidate.simpleName field.name,
        [.malformedType field.typeText offset], notes⟩

theorem describe_error_iff {candidate : Candidate} {report : Report} :
    candidate.describe = .error report ↔ candidate.Refused report := by
  unfold describe
  constructor
  · intro failed
    cases given : candidate.fields with
    | none =>
        rw [given] at failed
        cases failed
        exact .absent given
    | some declared =>
        rw [given] at failed
        simp only [bind_error_iff, package_error_iff, package_ok_iff,
          describe_fields_error_iff] at failed
        rcases failed with ⟨unsuited, rfl⟩ | ⟨package, packaged,
          ⟨before, field, after, rfl, ⟨sound, _⟩, again | ⟨new, cause, unread, rfl⟩⟩ | ⟨_, _, done⟩⟩
        · exact .mismatch given unsuited
        · obtain ⟨again, rfl⟩ := again
          exact .repeated given packaged sound (by simpa using again)
        · obtain ⟨offset, notes, rfl⟩ := TypeExpr.parse_error unread
          exact .malformed given packaged sound (by simpa using new) unread
        · cases done
  · intro refused
    have behindPackage {package : String} {Result Whole : Type} {fields : Outcome Result}
        {finish : String → Result → Outcome Whole} (packaged : candidate.HasPackage package)
        (failed : fields = .error report) :
        (candidate.package >>= fun package => fields >>= finish package) = .error report :=
      bind_error_iff.mpr (.inr ⟨package, package_ok_iff.mpr packaged,
        bind_error_iff.mpr (.inl failed)⟩)
    cases refused with
    | absent missing => rw [missing]
    | mismatch given unsuited =>
        rw [given]
        exact bind_error_iff.mpr (.inl (package_error_iff.mpr ⟨unsuited, rfl⟩))
    | repeated given packaged sound again =>
        rw [given]
        exact behindPackage packaged (describe_fields_error_iff.mpr
          ⟨_, _, _, rfl, ⟨sound, fun _ _ => List.not_mem_nil⟩, .inl ⟨by simpa using again, rfl⟩⟩)
    | malformed given packaged sound new unread =>
        rw [given]
        exact behindPackage packaged (describe_fields_error_iff.mpr
          ⟨_, _, _, rfl, ⟨sound, fun _ _ => List.not_mem_nil⟩, .inr ⟨by simpa using new, _, unread, rfl⟩⟩)

/-- Every candidate is described or refused. It is described when it has a field list, its name ends
with the scoped name at a full stop or is it, no field name comes twice and every type is read; and
otherwise the first of these to fail is reported, in the field list at the first field at fault. -/
theorem described_or_refused (candidate : Candidate) :
    let scopes := String.intercalate "." candidate.enclosingScopes.reverse
    candidate.scopedName =
        (if scopes = "" then candidate.simpleName
        else if candidate.simpleName = "" then scopes
        else scopes ++ "." ++ candidate.simpleName) ∧
      ((∃ record, candidate.describe = .ok record) ↔ ∃ declared package,
        candidate.fields = some declared ∧ candidate.HasPackage package ∧ AreSound declared) ∧
      (∀ record, candidate.describe = .ok record ↔ ∃ declared package fields,
        candidate.fields = some declared ∧ candidate.HasPackage package ∧ AreSound declared ∧
          record = ⟨package, scopes, candidate.simpleName, candidate.visibility, fields⟩ ∧
          List.Forall₂ DeclaredField.DescribedAs declared fields) ∧
      ∀ report, candidate.describe = .error report ↔ candidate.Refused report := by
  intro scopes
  have described : ∀ record, candidate.describe = .ok record ↔ ∃ declared package fields,
      candidate.fields = some declared ∧ candidate.HasPackage package ∧ AreSound declared ∧
        record = ⟨package, scopes, candidate.simpleName, candidate.visibility, fields⟩ ∧
        List.Forall₂ DeclaredField.DescribedAs declared fields := by
    intro record
    rw [describe_ok_iff]
    constructor
    · rintro ⟨declared, package, fields, given, packaged, described, distinct, rfl⟩
      exact ⟨declared, package, fields, given, package_ok_iff.mp packaged,
        ⟨distinct, all_described_iff.mp ⟨fields, described⟩⟩, rfl, described⟩
    · rintro ⟨declared, package, fields, given, packaged, ⟨distinct, _⟩, rfl, described⟩
      exact ⟨declared, package, fields, given, package_ok_iff.mpr packaged, described, distinct, rfl⟩
  refine ⟨candidate.scoped_name_eq, ?_, described, fun report => describe_error_iff⟩
  constructor
  · rintro ⟨record, succeeded⟩
    obtain ⟨declared, package, _, given, packaged, sound, _⟩ := (described record).mp succeeded
    exact ⟨declared, package, given, packaged, sound⟩
  · rintro ⟨declared, package, given, packaged, sound⟩
    obtain ⟨fields, allDescribed⟩ := all_described_iff.mpr sound.2
    exact ⟨_, (described _).mpr ⟨declared, package, fields, given, packaged, sound, rfl,
      allDescribed⟩⟩

/-- A repeated name goes before the type behind it, and a scope before both: it is no part of a
longer name that ends like it. -/
example :
    let twice := Candidate.record "Out.Nested" [.ofText "arg1" "Int", .ofText "arg1" "List<"]
    twice.describe = .error (.ofFault (.invariantViolated (.repeatedField "arg1" "Nested"))) ∧
      (twice.withEnclosingScopes ["ut"]).describe =
        .error (.ofFault (.invariantViolated (.nameMismatch "Out.Nested" "ut.Nested"))) := by
  decide +kernel

end Candidate

end Recordsmith
