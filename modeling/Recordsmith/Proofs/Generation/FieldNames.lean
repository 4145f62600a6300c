import Recordsmith.Proofs.Companion.Values
import Recordsmith.Proofs.Generation.Calls
import Recordsmith.Proofs.Record.Describing
import Recordsmith.Proofs.Token.LoneNames

/-!
The names of the members and accessors of an artifact. Names are compared as texts when a candidate
is described, and read as identifiers afterwards. Names that differ as texts may read alike, since
blanks and comments do not belong to an identifier and a raw one means what it means without its
mark; then the artifact declares a name twice.
-/

namespace Recordsmith

open Code

namespace Artifact

/-- The names of the partial's members. -/
def memberNames (artifact : Artifact) : List Identifier :=
  match (artifact.declaration? .partialType).bind (·.item.structure?) with
  | some (_, members) => members
  | none => []

/-- The names of the accessors. -/
def accessorNames (artifact : Artifact) : List String :=
  match artifact.declaration? .fields with
  | some declaration => declaration.item.functions.map (·.name)
  | none => []

variable {artifact : Artifact} {record : RecordDescriptor} {plan : Plan}

theorem Follows.member_names (follows : artifact.Follows record plan) :
    artifact.memberNames = record.fields.map FieldDescriptor.identifier := by
  rw [memberNames, follows.declaration_of_kind, ← follows.names]
  simp [Plan.item, Plan.partialItem, Item.structure?, Function.comp_def]

theorem Follows.accessor_names (follows : artifact.Follows record plan) :
    artifact.accessorNames = artifact.memberNames.map Identifier.text := by
  rw [follows.member_names, accessorNames, follows.declaration_of_kind, ← follows.names]
  simp [Plan.item, Plan.fieldsItem, Plan.accessor, Item.functions, Function.comp_def]

end Artifact

/-- The fields read as identifiers that differ in the given view of them. -/
def ReadApart (declared : List DeclaredField) (view : Identifier → String) : Prop :=
  ∀ first ∈ declared, ∀ second ∈ declared,
    (Identifier.read? first.name).map view = (Identifier.read? second.name).map view →
      first = second

section

variable {declared : List DeclaredField} (distinct : (declared.map (·.name)).Nodup)

include distinct

theorem read_apart_iff {members : List Identifier}
    (reads : declared.map (fun field => Identifier.read? field.name) = members.map some)
    (view : Identifier → String) : (members.map view).Nodup ↔ ReadApart declared view := by
  have viewed : (members.map view).map some =
      declared.map fun field => (Identifier.read? field.name).map view := by
    have both := congrArg (List.map (Option.map view)) reads
    rw [List.map_map, List.map_map] at both
    rw [List.map_map]
    exact both.symm
  rw [← List.nodup_map_iff (fun _ _ => Option.some.inj), viewed,
    List.nodup_map_iff_inj_on (List.Nodup.of_map _ distinct)]
  rfl

/-- Fields whose names are what they read as are read apart. -/
theorem read_apart_as_texts (view : Identifier → String)
    (kept : ∀ field ∈ declared, (Identifier.read? field.name).map view = some field.name) :
    ReadApart declared view := by
  intro first firstMember second secondMember alike
  rw [kept first firstMember, kept second secondMember] at alike
  exact List.inj_on_of_nodup_map distinct firstMember secondMember (Option.some.inj alike)

end

/-- A name with nothing beside it is what it reads as. -/
theorem lone_field_read {declared : List DeclaredField} {members : List Identifier}
    (reads : declared.map (fun field => Identifier.read? field.name) = members.map some)
    (field : DeclaredField) (member : field ∈ declared) (lone : IsLone field.name.toList) :
    ∃ found, Identifier.read? field.name = some found ∧ found.text = field.name := by
  have isRead : Identifier.read? field.name ∈ members.map some :=
    reads ▸ List.mem_map_of_mem member
  obtain ⟨found, _, read⟩ := List.mem_map.mp isRead
  exact ⟨found, read.symm, read_lone_name lone read.symm⟩

/-- The names in an artifact are what the names of the declared fields read as. -/
theorem Candidate.artifact_names {candidate : Candidate} {settings : Settings}
    {artifact : Artifact} (made : candidate.artifact settings = .ok artifact) :
    ∃ declared, candidate.fields = some declared ∧ (declared.map (·.name)).Nodup ∧
      declared.map (fun field => Identifier.read? field.name) = artifact.memberNames.map some ∧
      artifact.accessorNames = artifact.memberNames.map Identifier.text := by
  obtain ⟨record, described, synthesized⟩ := bind_ok made
  obtain ⟨declared, _, fields, present, _, describedFields, distinct, rfl⟩ :=
    describe_ok_iff.mp described
  obtain ⟨plan, follows⟩ := synthesize_ok synthesized
  have readNames : (fields.map (·.name)).map Identifier.read? =
      (fields.map FieldDescriptor.identifier).map some := by
    rw [List.map_map, List.map_map]
    exact List.map_congr_left (synthesize_reads synthesized)
  have members : artifact.memberNames = fields.map FieldDescriptor.identifier :=
    follows.member_names
  rw [described_names describedFields, List.map_map, ← members] at readNames
  exact ⟨declared, present, distinct, readNames, follows.accessor_names⟩

namespace Generation

/-- The fields of an emitted artifact differ in name as texts, and its members and accessors are
named by what they read as. So a name comes twice exactly when two names that differ read alike,
and none does when the names have no blanks, comments or marks. -/
theorem members_apart_iff_read_apart {Store : Type} [Sink Store] (settings : Settings)
    (candidate : Candidate) (store : Store) (artifact : Artifact)
    (emitted : .emitted artifact ∈
      (process settings candidate (⟨store, []⟩ : Watched Store)).store.calls) :
    ∃ declared, candidate.fields = some declared ∧ (declared.map (·.name)).Nodup ∧
      declared.map (fun field => Identifier.read? field.name) = artifact.memberNames.map some ∧
      artifact.accessorNames = artifact.memberNames.map Identifier.text ∧
      (artifact.memberNames.Nodup ↔ ReadApart declared Identifier.text) ∧
      (artifact.accessorNames.Nodup ↔ ReadApart declared Identifier.text) ∧
      ((artifact.memberNames.map Identifier.meaning).Nodup ↔
        ReadApart declared Identifier.meaning) ∧
      ((∀ field ∈ declared, IsLone field.name.toList) →
        ReadApart declared Identifier.text) ∧
      ((∀ field ∈ declared, IsLone field.name.toList ∧ '#' ∉ field.name.toList) →
        ReadApart declared Identifier.meaning) := by
  obtain ⟨_, made⟩ := (emitted_iff settings candidate store artifact).mp emitted
  obtain ⟨declared, present, distinct, reads, accessors⟩ := Candidate.artifact_names made
  have apartIff := read_apart_iff distinct reads
  refine ⟨declared, present, distinct, reads, accessors, ?_, ?_, apartIff Identifier.meaning,
    ?_, ?_⟩
  · rw [← List.nodup_map_iff Identifier.text_injective, apartIff Identifier.text]
  · rw [accessors, apartIff Identifier.text]
  · intro lone
    apply read_apart_as_texts distinct
    intro field member
    obtain ⟨found, read, same⟩ := lone_field_read reads field member (lone field member)
    rw [read, Option.map_some, same]
  · intro lone
    apply read_apart_as_texts distinct
    intro field member
    obtain ⟨isLone, noSign⟩ := lone field member
    obtain ⟨found, read, same⟩ := lone_field_read reads field member isLone
    rw [read, Option.map_some, unmarked_meaning found (same ▸ noSign), same]

/-- A record whose field names are plain has every name once. -/
theorem plain_fields_are_named_once :
    let candidate := Candidate.record "MyData" [.ofText "arg1" "String", .ofText "arg2" "i32"]
    ∃ artifact,
      .emitted artifact ∈
        (process .standard candidate (⟨.empty, []⟩ : Watched Collection)).store.calls ∧
      artifact.memberNames.Nodup ∧ artifact.accessorNames.Nodup ∧
        (artifact.memberNames.map Identifier.meaning).Nodup := by
  intro candidate
  have succeeds : (candidate.artifact .standard).toOption.isSome = true := by decide +kernel
  obtain ⟨artifact, made⟩ := succeeds_ok succeeds
  have emitted := (emitted_iff .standard candidate Collection.empty artifact).mpr ⟨by decide, made⟩
  obtain ⟨declared, present, _, _, _, members, accessors, meanings, plain, unmarked⟩ :=
    members_apart_iff_read_apart .standard candidate Collection.empty artifact emitted
  cases present
  have words : ∀ field ∈ [DeclaredField.ofText "arg1" "String", .ofText "arg2" "i32"],
      field.name.toList.all Text.isWordCharacter = true := by decide
  have lone : ∀ field ∈ [DeclaredField.ofText "arg1" "String", .ofText "arg2" "i32"],
      IsLone field.name.toList ∧ '#' ∉ field.name.toList := by
    intro field member
    have allWord := List.all_eq_true.mp (words field member)
    exact ⟨word_lone _ allWord, Lexer.not_in_word _ allWord '#' (by decide)⟩
  have apart := plain fun field member => (lone field member).1
  exact ⟨artifact, emitted, members.mpr apart, accessors.mpr apart, meanings.mpr (unmarked lone)⟩

/-- A blank in front of a name makes it another text and the same member. -/
theorem blank_before_name_repeats_member :
    let candidate := Candidate.record "MyData" [.ofText "arg1" "String", .ofText " arg1" "String"]
    ∃ artifact,
      .emitted artifact ∈
        (process .standard candidate (⟨.empty, []⟩ : Watched Collection)).store.calls ∧
      artifact.memberNames = [⟨"arg1"⟩, ⟨"arg1"⟩] ∧ artifact.accessorNames = ["arg1", "arg1"] := by
  intro candidate
  have succeeds : (candidate.artifact .standard).toOption.isSome = true := by decide +kernel
  obtain ⟨artifact, made⟩ := succeeds_ok succeeds
  have emitted := (emitted_iff .standard candidate Collection.empty artifact).mpr ⟨by decide, made⟩
  have named : (candidate.artifact .standard).toOption.map Artifact.memberNames =
      some [⟨"arg1"⟩, ⟨"arg1"⟩] := by decide +kernel
  have accessed : (candidate.artifact .standard).toOption.map Artifact.accessorNames =
      some ["arg1", "arg1"] := by decide +kernel
  rw [made] at named accessed
  exact ⟨artifact, emitted, Option.some.inj named, Option.some.inj accessed⟩

end Generation

end Recordsmith
