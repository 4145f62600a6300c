import Recordsmith.Proofs.TypeExpr.Rendering

/-!
Reading forgets the blanks of a text and nothing else. The written form of a type is every text of
it with the blanks taken out and a space put behind each comma, so that two texts of one type
differ in blanks alone.
-/

namespace Recordsmith.TypeExpr

open Recordsmith.Text

/-- The characters that may stand beside a comma and mean nothing there. -/
def blanks : List Char := [' ', '\t', '\r', '\n']

/-- A text without its blanks. -/
def withoutBlanks (text : List Char) : List Char :=
  text.filter fun character => character ∉ blanks

/-- A character, with a space behind it if it is a comma. -/
def spacedCharacter (character : Char) : List Char :=
  if character = ',' then [',', ' '] else [character]

/-- A text with one space more behind every comma. -/
def spaceCommas (text : List Char) : List Char := text.flatMap spacedCharacter

/-- A text with one space behind every comma and no other blanks. -/
def tidied (text : List Char) : List Char := spaceCommas (withoutBlanks text)

theorem is_padding_iff (character : Char) : isPadding character = true ↔ character ∈ blanks := by
  simp [isPadding, blanks, or_assoc]

theorem tidied_append (first second : List Char) :
    tidied (first ++ second) = tidied first ++ tidied second := by
  simp [tidied, withoutBlanks, spaceCommas]

theorem tidied_comma (rest : List Char) : tidied (',' :: rest) = ',' :: ' ' :: tidied rest := by
  simp [tidied, withoutBlanks, spaceCommas, spacedCharacter, blanks]

theorem tidied_sign (sign : Char) (rest : List Char) (solid : sign ∉ ',' :: blanks) :
    tidied (sign :: rest) = sign :: tidied rest := by
  obtain ⟨notComma, notBlank⟩ := not_or.mp (List.mem_cons.not.mp solid)
  simp [tidied, withoutBlanks, spaceCommas, spacedCharacter, notComma, notBlank]

theorem tidied_gap (gap : Char) (rest : List Char) (isBlank : gap ∈ blanks) :
    tidied (gap :: rest) = tidied rest := by
  simp [tidied, withoutBlanks, isBlank]

theorem tidied_blank {text : List Char} (isBlank : IsBlank text) : tidied text = [] := by
  induction text with
  | nil => rfl
  | cons gap rest induction =>
      obtain ⟨isFirst, restBlank⟩ := List.forall_mem_cons.mp isBlank
      rw [tidied_gap gap rest ((is_padding_iff gap).mp isFirst), induction restBlank]

theorem tidied_word {word : List Char} (isWord : IsWord word) : tidied word = word := by
  have noSigns : (',' :: blanks).all (!isWordCharacter ·) = true := by decide
  obtain ⟨-, allWord⟩ := isWord
  induction word with
  | nil => rfl
  | cons character rest induction =>
      obtain ⟨isFirst, allRest⟩ := List.forall_mem_cons.mp allWord
      have solid : character ∉ ',' :: blanks := by
        intro isSign
        have noWord := List.all_eq_true.mp noSigns character isSign
        simp [isFirst] at noWord
      rw [tidied_sign character rest solid, induction allRest]

theorem tidied_mark (nullable : Bool) : tidied (markOf nullable) = markOf nullable := by
  cases nullable <;> rfl

/-! ## Written forms are tidy texts -/

mutual

theorem write_tidied {type : TypeExpr} {text : List Char} (derived : Derives type text) :
    type.write = tidied text := by
  cases derived with
  | type word nullable isWord derivedArguments =>
      rw [write, String.toList_ofList, tidied_append, tidied_append, tidied_word isWord,
        tidied_mark, write_arguments_tidied derivedArguments]
      rfl

theorem write_arguments_tidied {arguments : List TypeExpr} {text : List Char}
    (derived : DerivesArguments arguments text) : writeArguments arguments = tidied text := by
  cases derived with
  | absent => rfl
  | bracketed derivedFirst derivedOthers =>
      rw [writeArguments, tidied_sign '<' _ (by decide), tidied_append, tidied_append,
        write_tidied derivedFirst, write_more_tidied derivedOthers]
      rfl

theorem write_more_tidied {others : List TypeExpr} {text : List Char}
    (derived : DerivesMore others text) : writeMore others = tidied text := by
  cases derived with
  | nothing => rfl
  | next before after blankBefore blankAfter derivedFirst derivedOthers =>
      rw [writeMore, tidied_append, tidied_blank blankBefore, List.nil_append, tidied_comma,
        tidied_append, tidied_append, tidied_blank blankAfter, List.nil_append,
        write_tidied derivedFirst, write_more_tidied derivedOthers]

end

/-- The space behind a comma is a blank. -/
theorem without_blanks_tidied (text : List Char) :
    withoutBlanks (tidied text) = withoutBlanks text := by
  induction text with
  | nil => rfl
  | cons character rest induction =>
      by_cases isBlank : character ∈ blanks
      · rw [tidied_gap character rest isBlank, induction]
        simp [withoutBlanks, isBlank]
      · by_cases isComma : character = ','
        · rw [isComma, tidied_comma]
          exact congrArg (',' :: ·) induction
        · rw [tidied_sign character rest (by simp [isComma, isBlank]), withoutBlanks,
            withoutBlanks, List.filter_cons_of_pos (by simpa using isBlank),
            List.filter_cons_of_pos (by simpa using isBlank)]
          exact congrArg (character :: ·) induction

/-- Reading a text drops its blanks and nothing else: the written form of what is read is the text
without them, and with a space behind each comma. So two texts are read as the same type exactly
when they are the same but for their blanks. -/
theorem reading_drops_only_blanks :
    (∀ text type, parse text = .ok type →
      type.render = String.ofList (spaceCommas (withoutBlanks text.toList))) ∧
    ∀ first second left right, parse first = .ok left → parse second = .ok right →
      (left = right ↔ withoutBlanks first.toList = withoutBlanks second.toList) := by
  have tidy : ∀ text type, parse text = .ok type → type.write = tidied text.toList :=
    fun text type parsed => write_tidied ((parse_ok_iff text type).mp parsed)
  constructor
  · intro text type parsed
    rw [render, tidy text type parsed, tidied]
  · intro first second left right parsedFirst parsedSecond
    constructor
    · rintro rfl
      rw [← without_blanks_tidied, ← tidy first left parsedFirst, tidy second left parsedSecond,
        without_blanks_tidied]
    · intro same
      have rendered : left.render = right.render := by
        rw [render, render, tidy first left parsedFirst, tidy second right parsedSecond, tidied,
          tidied, same]
      have back := parse_render_of_words left (parsed_has_words parsedFirst)
      rw [rendered, parse_render_of_words right (parsed_has_words parsedSecond)] at back
      exact (Except.ok.inj back).symm

/-- Blanks of all kinds on both sides of nested commas make no difference, a question mark does. -/
theorem scattered_blanks_are_dropped :
    let type : TypeExpr :=
      ⟨"Map", [.simple "Int", ⟨"Pair", [⟨"A", [], true⟩, .simple "B"], false⟩], true⟩
    parse "Map<Int\r\n \t,Pair<A?,  B>>?" = .ok type ∧ parse "Map<Int ,\tPair<A?\n,B>>?" = .ok type ∧
      type.render = "Map<Int, Pair<A?, B>>?" ∧
      withoutBlanks "Map<Int\r\n \t,Pair<A?,  B>>?".toList =
        withoutBlanks "Map<Int ,\tPair<A?\n,B>>?".toList ∧
      withoutBlanks "Map<Int\r\n \t,Pair<A?,  B>>?".toList ≠
        withoutBlanks "Map<Int, Pair<A, B>>?".toList := by
  intro type
  let plain : TypeExpr :=
    ⟨"Map", [.simple "Int", ⟨"Pair", [.simple "A", .simple "B"], false⟩], true⟩
  have first : parse "Map<Int\r\n \t,Pair<A?,  B>>?" = .ok type := by decide +kernel
  have second : parse "Map<Int ,\tPair<A?\n,B>>?" = .ok type := by decide +kernel
  have other : parse "Map<Int, Pair<A, B>>?" = .ok plain := by decide +kernel
  refine ⟨first, second, ?_, (reading_drops_only_blanks.2 _ _ _ _ first second).mp rfl,
    fun same => ?_⟩
  · rw [reading_drops_only_blanks.1 _ _ first]
    decide +kernel
  · have equal := (reading_drops_only_blanks.2 _ _ _ _ first other).mpr same
    revert equal
    decide

end Recordsmith.TypeExpr
