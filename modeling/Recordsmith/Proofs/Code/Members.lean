import Recordsmith.Proofs.Code.Evaluation

/-!
Structures whose members are given by a list: reading a member, and building a value from one
expression for each element of the list. When every expression has a value the structure has all
of them, and when one ends early the whole ends early.
-/

namespace Recordsmith.Code

variable {Content Field : Type} (name : Field → Identifier) (value : Field → Value Content)

theorem lookup_member (fields : List Field) (distinct : (fields.map name).Nodup) (field : Field)
    (member : field ∈ fields) :
    (fields.map fun field => (name field, value field)).lookup (name field) = some (value field) := by
  induction fields with
  | nil => cases member
  | cons first rest induction =>
      rw [List.map_cons, List.nodup_cons] at distinct
      rw [List.map_cons, List.lookup_cons]
      rcases List.mem_cons.mp member with rfl | later
      · simp
      · have different : name field ≠ name first := by
          intro same
          exact distinct.1 (same ▸ List.mem_map_of_mem later)
        rw [beq_false_of_ne different]
        exact induction distinct.2 later

theorem evaluate_member (scope : Scope Content) (object : String) (path : List Identifier)
    (fields : List Field) (distinct : (fields.map name).Nodup)
    (bound : scope.bindings.lookup object =
      some (.structure path (fields.map fun field => (name field, value field))))
    (field : Field) (member : field ∈ fields) :
    evaluate scope (.member (.variable object) (name field)) = .ok (value field) := by
  simp only [evaluate, Scope.variableValue, bound, Bind.bind, Except.bind, Value.member,
    lookup_member name value fields distinct field member]

theorem evaluate_members (scope : Scope Content) (fields : List Field)
    (expression : Field → Expression)
    (evaluated : ∀ field ∈ fields, evaluate scope (expression field) = .ok (value field)) :
    evaluateMembers scope (fields.map fun field => .mk (name field) (expression field)) =
      .ok (fields.map fun field => (name field, value field)) := by
  induction fields with
  | nil => rfl
  | cons first rest induction =>
      rw [List.map_cons, List.map_cons, evaluateMembers, evaluated first (by simp),
        induction fun field member => evaluated field (by simp [member])]
      rfl

theorem evaluate_members_early (scope : Scope Content) (fields : List Field)
    (expression : Field → Expression)
    (evaluated : ∀ field ∈ fields, evaluate scope (expression field) = .error .early ∨
      ∃ found, evaluate scope (expression field) = .ok found)
    (early : ∃ field ∈ fields, evaluate scope (expression field) = .error .early) :
    evaluateMembers scope (fields.map fun field => .mk (name field) (expression field)) =
      .error .early := by
  induction fields with
  | nil =>
      obtain ⟨field, member, _⟩ := early
      cases member
  | cons first rest induction =>
      rw [List.map_cons, evaluateMembers]
      rcases evaluated first (by simp) with ends | ⟨found, goesOn⟩
      · rw [ends]
        rfl
      · obtain ⟨field, member, ends⟩ := early
        have later : field ∈ rest := by
          rcases List.mem_cons.mp member with rfl | later
          · rw [goesOn] at ends
            cases ends
          · exact later
        rw [goesOn, induction (fun field member => evaluated field (by simp [member]))
          ⟨field, later, ends⟩]
        rfl

/-- Optional members are all absent by default. -/
theorem default_members (fields : List FieldItem)
    (optional : ∀ field ∈ fields, ∃ inner, field.type = .optional inner) :
    fields.mapM FieldItem.default? =
      some (fields.map fun field => (field.name, (.absent : Value Content))) := by
  induction fields with
  | nil => rfl
  | cons first rest induction =>
      obtain ⟨inner, isOptional⟩ := optional first (by simp)
      have firstDefault : first.default? = some (first.name, (.absent : Value Content)) := by
        rw [FieldItem.default?, isOptional]
        rfl
      rw [List.mapM_cons, firstDefault, induction fun field member => optional field (by simp [member])]
      rfl

/-- A structure that gives every declared member once, in order, has just the values given. -/
theorem evaluate_construct (scope : Scope Content) (fields : List Field)
    (expression : Field → Expression) (type : CodeType) (path : List Identifier) (trailing : Bool)
    (named : scope.structurePath? type = some path)
    (declared : scope.structures.lookup path = some (fields.map name))
    (distinct : (fields.map name).Nodup)
    (evaluated : ∀ field ∈ fields, evaluate scope (expression field) = .ok (value field)) :
    evaluate scope (.construct type (fields.map fun field => .mk (name field) (expression field))
        trailing) = .ok (.structure path (fields.map fun field => (name field, value field))) := by
  have names : (fields.map fun field => (name field, value field)).map Prod.fst =
      fields.map name := by simp [Function.comp_def]
  have ordered : (fields.map name).filterMap (fun key =>
      ((fields.map fun field => (name field, value field)).lookup key).map fun found =>
        (key, found)) = fields.map fun field => (name field, value field) := by
    rw [List.filterMap_map]
    conv_rhs => rw [← List.filterMap_eq_map]
    apply List.filterMap_congr
    intro field member
    simp only [Function.comp_apply, lookup_member name value fields distinct field member,
      Option.map_some]
  rw [evaluate, evaluate_members name value scope fields expression evaluated]
  change scope.construct type _ = _
  unfold Scope.construct
  simp only [named, declared, names, distinct, ordered, true_and]
  rw [if_pos (List.isPerm_iff.mpr (List.Perm.refl _))]

end Recordsmith.Code
