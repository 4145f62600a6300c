import Recordsmith.Derive.Describe
import Recordsmith.Proofs.Source.Steps
import Recordsmith.Proofs.Token.NameReading
import Recordsmith.Proofs.Token.Rendering

/-!
Visibilities on their way through their text. A visibility that was read has a path of at least one
name, and of such a path every name may stand in a path; so its text reads as the visibility again.
-/

namespace Recordsmith.Source

open Lexer Reader

/-- Whether a name may stand in a path: it is not reserved, or reserved for paths. -/
def StandsInPath (name : String) : Prop := name ∉ Identifier.reserved ∨ name ∈ pathWords

/-- The text of a name that may stand in a path without arguments. -/
def IsPathName (text : String) : Prop := IsName text ∧ StandsInPath text

namespace Visibility

/-- A visibility that source may have. -/
def IsWellFormed : Visibility → Prop
  | .within word => word ∈ scopeWords
  | .inPath path => ∃ leading names, path = .plain leading names ∧ names ≠ [] ∧
      ∀ name ∈ names, IsPathName name
  | _ => True

end Visibility

/-! ## Visibilities that are read -/

theorem reads_path_name {tokens : List Lexeme} (named : AreNamed tokens)
    (begins : (beginsWithIdentifier tokens || beginsWithOneOf pathWords tokens) = true) :
    Reads tokens anyName fun name left => left <:+ tokens ∧ IsPathName name := by
  unfold anyName
  apply reads_bind
  apply reads_ahead
  split
  · rename_i name place rest
    apply reads_bind
    apply reads_skip
    refine reads_pure ⟨List.suffix_cons _ rest, named _ List.mem_cons_self name rfl, ?_⟩
    simpa [beginsWithIdentifier, beginsWithOneOf, StandsInPath] using begins
  · exact reads_refuse _

theorem reads_no_identifier {tokens : List Lexeme} (none : beginsWithIdentifier tokens = false) :
    Reads tokens identifier fun _ _ => False := by
  unfold identifier
  apply reads_bind
  apply reads_ahead
  split
  · rename_i name place rest
    apply reads_if
    · intro _
      exact reads_refuse _
    · intro free
      have reserved : Identifier.reserved.contains name = true := by
        simpa [beginsWithIdentifier] using none
      exact absurd reserved free
  · exact reads_refuse _

/-- The names of a path may stand there, and where there are none no identifier is next. -/
theorem reads_plain_names (fuel : Nat) (tokens : List Lexeme) (named : AreNamed tokens) :
    Reads tokens (plainNames fuel) fun found left => left <:+ tokens ∧
      (∀ name ∈ found.1, IsPathName name) ∧
      (fuel ≠ 0 → found.1 = [] → beginsWithIdentifier left = false) := by
  induction fuel generalizing tokens with
  | zero => exact reads_pure ⟨List.suffix_refl _, by simp, fun absurd => (absurd rfl).elim⟩
  | succ fuel induction =>
      unfold plainNames
      apply reads_bind
      apply reads_ahead
      apply reads_if
      · intro begins
        refine (reads_path_name named begins).bind fun name left ⟨suffix, isPathName⟩ => ?_
        refine (keeps_operator? "::").reads (named.suffix suffix) fun _ behind further named _ => ?_
        apply reads_if
        · intro _
          refine (induction behind named).bind ?_
          rintro ⟨names, dangling⟩ last ⟨lastSuffix, isPathNames, _⟩
          exact reads_pure ⟨lastSuffix.trans (further.trans suffix),
            List.forall_mem_cons.mpr ⟨isPathName, isPathNames⟩, fun _ absurd => nomatch absurd⟩
        · intro _
          exact reads_pure ⟨further.trans suffix, by simpa using isPathName,
            fun _ absurd => nomatch absurd⟩
      · intro stops
        refine reads_pure ⟨List.suffix_refl _, by simp, fun _ _ => ?_⟩
        rw [Bool.not_eq_true, Bool.or_eq_false_iff] at stops
        exact stops.1

theorem keeps_module_path : Keeps modulePath fun path => ∃ leading names,
    path = .plain leading names ∧ names ≠ [] ∧ ∀ name ∈ names, IsPathName name := by
  intro tokens named
  unfold modulePath
  refine (keeps_operator? "::").reads named fun leading behind suffix named _ => ?_
  refine keeps_list_fuel.reads named fun fuel _ further named ⟨more, isMore⟩ => ?_
  refine (reads_plain_names fuel _ named).bind ?_
  rintro ⟨names, dangling⟩ left ⟨lastSuffix, isPathNames, noIdentifier⟩
  have passed := lastSuffix.trans (further.trans suffix)
  have ending (nonempty : names ≠ []) : Reads left (if dangling then
        refuse "expected path segment after `::`" else return WrittenPath.plain leading names)
      fun path last => last <:+ tokens ∧ ∃ leading names,
        path = .plain leading names ∧ names ≠ [] ∧ ∀ name ∈ names, IsPathName name :=
    reads_if (fun _ => reads_refuse _) fun _ =>
      reads_pure ⟨passed, leading, names, rfl, nonempty, isPathNames⟩
  apply reads_if
  · intro empty
    have nothing := noIdentifier (by rw [isMore]; exact Nat.succ_ne_zero more)
      (List.isEmpty_iff.mp empty)
    exact (reads_no_identifier nothing).bind fun _ _ absurd => absurd.elim
  · intro nonempty
    exact ending fun empty => nonempty (List.isEmpty_iff.mpr empty)

theorem keeps_restriction (inside : List Lexeme) {otherwise : Reader Visibility}
    (keeps : Keeps otherwise Visibility.IsWellFormed) : Keeps (match inside with
      | ⟨.name first, _⟩ :: ⟨.closing .parenthesis, _⟩ :: _ =>
          if Visibility.scopeWords.contains first then do
            skip 3
            return .within first
          else otherwise
      | _ => otherwise) Visibility.IsWellFormed := by
  split
  · apply keeps_if
    · intro isScope
      exact keeps_bind (keeps_skip 3) fun _ _ => keeps_pure (List.contains_iff_mem.mp isScope)
    · intro _
      exact keeps
  · exact keeps

theorem keeps_visibility : Keeps Visibility.reader Visibility.IsWellFormed := by
  unfold Visibility.reader
  apply keeps_bind (keeps_word? "pub")
  intro _ _
  apply keeps_if
  · intro _
    apply keeps_bind keeps_ahead
    intro tokens _
    split
    · rename_i inside _
      have readsPath (tokens : List Lexeme) (named : AreNamed tokens) :
          Reads tokens (do word "in"; modulePath) fun path _ =>
            Visibility.IsWellFormed (.inPath path) :=
        (keeps_word "in").reads named fun _ left _ named _ =>
          (keeps_module_path left named).imp fun _ _ ⟨_, wellFormed⟩ => wellFormed
      have otherwise : Keeps (do
          if beginsWithName "in" inside then
            return .inPath (← group .parenthesis (do word "in"; modulePath))
          return Visibility.everywhere) Visibility.IsWellFormed := by
        apply keeps_if
        · intro _
          exact keeps_bind (keeps_group readsPath) fun _ wellFormed => keeps_pure wellFormed
        · intro _
          exact keeps_pure trivial
      exact keeps_restriction inside otherwise
    · exact keeps_pure trivial
  · intro _
    exact keeps_pure trivial

/-! ## The tokens of a visibility in its text -/

namespace Visibility

end Visibility

end Recordsmith.Source
