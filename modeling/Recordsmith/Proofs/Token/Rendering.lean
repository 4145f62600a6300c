import Recordsmith.Proofs.Token.Names
import Recordsmith.Token.Render

/-!
Token text that no type expression contains: one with a foreign character in some token, and one
that begins with two tokens that stand apart.
-/

namespace Recordsmith.Token

open TypeExpr

/-- A token that no type expression has. -/
def IsForeign (token : Token) : Prop :=
  ∃ character ∈ token.text.toList, isForeign character = true

/-- A token whose text has neither commas nor blanks. -/
def IsSolid (token : Token) : Prop :=
  token.text.toList ≠ [] ∧ ∀ character ∈ token.text.toList, TypeExpr.IsSolid character

/-- A token that code may begin with. A group is not closed before it is opened. -/
def BeginsCode (token : Token) : Prop := token.IsSolid ∧ ∀ delimiter, token ≠ .closing delimiter

theorem render_cons (first second : Token) (rest : List Token) :
    (render (first :: second :: rest)).toList =
      first.text.toList ++ ((gap first second).toList ++ (render (second :: rest)).toList) := by
  simp [render, pieces, String.join_cons]

/-- The text of a token is a part of the text of the tokens. -/
theorem text_in_render (token : Token) (tokens : List Token) (member : token ∈ tokens) :
    token.text.toList <:+: (render tokens).toList := by
  induction tokens with
  | nil => cases member
  | cons first rest induction =>
      cases rest with
      | nil =>
          have same := List.mem_singleton.mp member
          subst same
          simp [render, pieces]
      | cons second rest =>
          rw [render_cons]
          rcases List.mem_cons.mp member with rfl | later
          · exact (List.prefix_append _ _).isInfix
          · have within := induction later
            exact within.trans (((List.suffix_append _ _).trans (List.suffix_append _ _)).isInfix)

theorem foreign_token_unreadable (token : Token) (tokens : List Token) (member : token ∈ tokens)
    (foreign : token.IsForeign) : Unreadable (render tokens).toList := by
  obtain ⟨character, inText, isForeign⟩ := foreign
  exact unreadable_between (foreign_unreadable isForeign inText) (text_in_render token tokens member)

theorem mark_is_foreign (character : Char) (joint : Bool) (foreign : isForeign character = true) :
    (mark character joint).IsForeign :=
  ⟨character, by simp [text], foreign⟩

theorem opening_is_foreign (delimiter : Delimiter) : (opening delimiter).IsForeign := by
  cases delimiter <;> exact ⟨_, List.mem_singleton_self _, by decide⟩

theorem name_is_solid {text : String} (isName : IsName text) : (Token.name text).IsSolid :=
  ⟨name_nonempty isName, name_solid isName⟩

/-- Two tokens that stand apart, with no comma between them. -/
theorem apart_tokens_unreadable (first second : Token) (rest : List Token)
    (apart : gap first second = " ") (solidFirst : first.IsSolid) (solidSecond : second.IsSolid) :
    Unreadable (render (first :: second :: rest)).toList := by
  obtain ⟨nonemptyFirst, allFirst⟩ := solidFirst
  obtain ⟨nonemptySecond, allSecond⟩ := solidSecond
  obtain ⟨more, rendered⟩ : second.text.toList <+: (render (second :: rest)).toList := by
    cases rest with
    | nil => simp [render, pieces]
    | cons third rest =>
        rw [render_cons]
        exact List.prefix_append _ _
  obtain ⟨next, tail, secondText⟩ := List.exists_cons_of_ne_nil nonemptySecond
  obtain ⟨begun, last, firstText⟩ : ∃ begun last, first.text.toList = begun ++ [last] :=
    ⟨_, _, (List.dropLast_concat_getLast nonemptyFirst).symm⟩
  have solidLast := allFirst last (by simp [firstText])
  have solidNext := allSecond next (by simp [secondText])
  apply unreadable_between (gap_unreadable last next solidLast solidNext)
  refine ⟨begun, tail ++ more, ?_⟩
  rw [render_cons, apart, ← rendered, secondText, firstText]
  simp

/-- Whatever does not close a group stands apart from a name in front of it. -/
theorem gap_after_name (text : String) (next : Token)
    (notClosing : ∀ delimiter, next ≠ .closing delimiter) : gap (.name text) next = " " := by
  have opens : next.holdsPrevious = false := by
    cases next with
    | closing delimiter => exact absurd rfl (notClosing delimiter)
    | _ => rfl
  rw [gap, if_neg (notClosing .brace), opens]
  rfl

/-- Code behind a name. -/
theorem code_behind_name_unreadable (text : String) (isName : IsName text) (first : Token)
    (begins : first.BeginsCode) (rest : List Token) :
    Unreadable (render (.name text :: first :: rest)).toList := by
  obtain ⟨solid, notClosing⟩ := begins
  exact apart_tokens_unreadable _ _ rest (gap_after_name text first notClosing)
    (name_is_solid isName) solid

theorem mark_begins_code (character : Char) (joint : Bool) (solid : TypeExpr.IsSolid character) :
    (mark character joint).BeginsCode := by
  refine ⟨⟨by simp [text], ?_⟩, by simp⟩
  simpa [text] using solid

theorem name_begins_code {text : String} (isName : IsName text) : (name text).BeginsCode :=
  ⟨name_is_solid isName, by simp⟩

theorem opening_begins_code (delimiter : Delimiter) : (opening delimiter).BeginsCode := by
  refine ⟨⟨by simp [text], ?_⟩, by simp⟩
  cases delimiter <;> simp [text, Delimiter.openingCharacter, TypeExpr.IsSolid, isPadding]

end Recordsmith.Token
