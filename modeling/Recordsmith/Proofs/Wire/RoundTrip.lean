import Mathlib.Logic.Relation
import Recordsmith.Proofs.Wire.Rewriting
import Recordsmith.Wire.Encode

/-!
Candidates on the wire: reading what was written gives back the candidate, and every other way to
write it is read as the same one.
-/

namespace Recordsmith.Wire

/-- Reading what was written gives back what was to be written. -/
def Restores {Source : Type} (encode : Source → Value) (decode : Value → Decoded Source) : Prop :=
  ∀ source, decode (encode source) = .ok source

namespace Restores

variable {Source : Type} {encode : Source → Value} {decode : Value → Decoded Source}

/-- Something absent is told apart from everything that is not written as null. -/
theorem nullable (restores : Restores encode decode) (neverNull : ∀ source, encode source ≠ .null) :
    Restores (Encode.nullable encode) (Decode.nullable decode) := by
  rintro (_ | source)
  · rfl
  · exact Decode.nullable_ok_some_iff.mpr ⟨neverNull source, restores source⟩

theorem sequence (restores : Restores encode decode) :
    Restores (fun sources => .sequence (sources.map encode)) (Decode.sequence decode) := by
  intro sources
  refine Decode.sequence_ok_iff.mpr ⟨_, rfl, ?_⟩
  rw [List.forall₂_map_left_iff, List.forall₂_same]
  exact fun source _ => restores source

end Restores

theorem text_restored : Restores .text Decode.text := fun _ => rfl

theorem boolean_restored : Restores .boolean Decode.boolean := fun _ => rfl

theorem number_restored :
    Restores (fun number => .integer (number.toNat : Int)) Decode.number32 := by
  intro number
  have bounded : (number.toNat : Int) < UInt32.size := by exact_mod_cast number.toNat_lt_size
  simp only [Decode.number32, Int.natCast_nonneg, bounded, decide_true, Bool.and_self, if_true,
    Int.toNat_natCast, UInt32.ofNat_toNat]

theorem location_restored : Restores Encode.location Decode.location := by
  intro place
  refine Decode.location_ok_iff.mpr ⟨trivial, ?path, ?line, ?column⟩
  case path => exact text_restored place.path
  case line => exact number_restored place.line
  case column => exact number_restored place.column

theorem scope_restored : Restores Encode.scope Decode.scope :=
  fun name => Decode.scope_ok_iff.mpr ⟨trivial, text_restored name⟩

theorem field_restored : Restores Encode.declaredField Decode.declaredField := by
  intro field
  refine Decode.declared_field_ok_iff.mpr
    ⟨trivial, ?name, ?typeText, ?isVariadic, ?location, ?visibility⟩
  case name => exact text_restored field.name
  case typeText => exact text_restored field.typeText
  case isVariadic => exact boolean_restored field.isVariadic
  case location => exact location_restored.nullable nofun field.location
  case visibility => exact text_restored.nullable nofun field.visibility

theorem candidate_restored : Restores Encode.candidate Decode.candidate := by
  intro candidate
  refine Decode.candidate_ok_iff.mpr
    ⟨trivial, ?isRecord, ?companion, ?name, ?scopes, ?fields, ?visibility, ?location⟩
  case isRecord => exact boolean_restored candidate.isRecord
  case companion => exact boolean_restored candidate.hasCompanionScope
  case name => exact text_restored candidate.qualifiedName
  case scopes => exact scope_restored.sequence candidate.enclosingScopes
  case fields => exact field_restored.sequence.nullable nofun candidate.fields
  case visibility => exact text_restored candidate.visibility
  case location => exact location_restored.nullable nofun candidate.location

/-- A list that may be absent is absent where it is left out or null, and empty where an empty list
is written. -/
theorem absent_or_empty {Result : Type} {inner : Value → Decoded Result} {member : Option Value}
    {results : Option (List Result)}
    (reads : Decode.Reads (Decode.nullable (Decode.sequence inner)) (some none) member results) :
    (results = none ↔ member = none ∨ member = some .null) ∧
      (results = some [] ↔ member = some (.sequence [])) := by
  cases member with
  | none =>
      cases Option.some.inj reads
      simp
  | some value =>
      cases results with
      | none =>
          have isNull : value = .null := Decode.nullable_ok_none_iff.mp reads
          simp [isNull]
      | some results =>
          obtain ⟨notNull, reads⟩ := Decode.nullable_ok_some_iff.mp reads
          obtain ⟨items, rfl, pointwise⟩ := Decode.sequence_ok_iff.mp reads
          have lengths := pointwise.length_eq
          simp [← List.length_eq_zero_iff, lengths]

/-- A candidate comes back from the wire as it was. The same candidate is read from every value that
differs, at any depth, by entries under unknown keys or by defaults that are written out or left out;
null is the default of the field list. An absent field list is never taken for an empty one. -/
theorem candidates_survive_the_wire :
    (∀ candidate, Decode.candidate (Encode.candidate candidate) = .ok candidate) ∧
    (∀ value other, Relation.EqvGen (Form.record candidateKeys).Rewrite value other →
      ∀ candidate, Decode.candidate value = .ok candidate ↔
        Decode.candidate other = .ok candidate) ∧
    ∀ value candidate, Decode.candidate value = .ok candidate →
      (candidate.fields = none ↔
        value.member? "fields" 4 = none ∨ value.member? "fields" 4 = some .null) ∧
      (candidate.fields = some [] ↔ value.member? "fields" 4 = some (.sequence [])) := by
  refine ⟨candidate_restored, ?rewritten, ?fields⟩
  case rewritten =>
    intro value other rewritten
    -- Each step keeps what is read, so the equivalence that the steps generate does.
    induction rewritten with
    | rel value other step => exact Form.candidate_kept value other step
    | refl value => exact fun _ => Iff.rfl
    | symm value other _ induction => exact fun candidate => (induction candidate).symm
    | trans value middle other _ _ first second =>
        exact fun candidate => (first candidate).trans (second candidate)
  case fields =>
    intro value candidate read
    obtain ⟨_, _, _, _, _, fields, _⟩ := Decode.candidate_ok_iff.mp read
    exact absent_or_empty fields

/-- A record without fields, and the same with an unknown key in its scope and a written default. -/
theorem padded_record_is_read_alike :
    let required : List (String × Value) :=
      [("is_record_type", .boolean true), ("has_companion_scope", .boolean true),
        ("fully_qualified_name", .text "Outer.MyData"), ("fields", .sequence [])]
    let sparse : Value :=
      .mapping (required ++ [("enclosing_scopes", .sequence [.mapping [("name", .text "Outer")]])])
    let padded : Value :=
      .mapping (("visibility", .text "") :: required ++ [("enclosing_scopes",
        .sequence [.mapping [("kind", .text "module"), ("name", .text "Outer")]])])
    let found : Candidate := ⟨true, true, "Outer.MyData", ["Outer"], some [], "", none⟩
    Relation.EqvGen (Form.record candidateKeys).Rewrite sparse padded ∧
      Decode.candidate sparse = .ok found ∧ Decode.candidate padded = .ok found ∧
      (found.fields = some [] ↔ padded.member? "fields" 4 = some (.sequence [])) := by
  intro required sparse padded found
  have scopesKey : ⟨"enclosing_scopes", some (.sequence []), .list (.record scopeKeys)⟩ ∈
      candidateKeys := List.mem_of_getElem? (show candidateKeys[3]? = some _ from rfl)
  have visibilityKey : ⟨"visibility", some (.text ""), .plain⟩ ∈ candidateKeys :=
    List.mem_of_getElem? (show candidateKeys[5]? = some _ from rfl)
  have unknown : (Form.record scopeKeys).Rewrite (.mapping [("name", .text "Outer")])
      (.mapping [("kind", .text "module"), ("name", .text "Outer")]) :=
    @Form.Rewrite.unknown _ [] _ _ _ (by simp [scopeKeys])
  have scopes : (Form.record candidateKeys).Rewrite sparse _ :=
    @Form.Rewrite.entry _ required [] _ _ _ scopesKey (@Form.Rewrite.item _ [] [] _ _ unknown)
  have visibility : (Form.record candidateKeys).Rewrite _ padded :=
    @Form.Rewrite.default _ [] _ _ _ visibilityKey rfl (by simp [required])
  have rewritten := Relation.EqvGen.trans _ _ _ (.rel _ _ scopes) (.rel _ _ visibility)
  have sparseRead : Decode.candidate sparse = .ok found := rfl
  obtain ⟨-, alike, fields⟩ := candidates_survive_the_wire
  have paddedRead := (alike sparse padded rewritten found).mp sparseRead
  exact ⟨rewritten, sparseRead, paddedRead, (fields padded found paddedRead).2⟩

end Recordsmith.Wire
