import Mathlib.Data.List.Nodup
import Recordsmith.Proofs.Wire.Reading

/-!
Other ways to write the same. A form says which structures a value is made of, which keys they
know and what stands for a key that is left out. One rewriting step adds an entry that nothing looks
at, or writes out a default, at any depth of the value. A reader that knows the keys of the form and
has its defaults gives the same result before and after the step.
-/

namespace Recordsmith.Wire

/-- A key that a structure knows, the value that may be left out, and the form of its value. -/
structure Key (Form : Type) where
  name : String
  default? : Option Value
  form : Form

/-- The form of a value: nothing is known about it, it is a list, or it is a structure with keys in
the order of their declaration. Null has any form. -/
inductive Form where
  | plain
  | list (item : Form)
  | record (keys : List (Key Form))

namespace Form

/-- A value of a form with one more entry than another, or with such a part. -/
inductive Rewrite : Form → Value → Value → Prop
  /-- An entry under a key that the structure does not know is added. -/
  | unknown {keys : List (Key Form)} {before after : List (String × Value)} {other : String}
      {value : Value} (unknown : ∀ key ∈ keys, key.name ≠ other) :
      Rewrite (.record keys) (.mapping (before ++ after))
        (.mapping (before ++ (other, value) :: after))
  /-- A default is written out. -/
  | default {keys : List (Key Form)} {before after : List (String × Value)} {key : Key Form}
      {value : Value} (known : key ∈ keys) (defaults : key.default? = some value)
      (absent : ∀ entry ∈ before ++ after, entry.1 ≠ key.name) :
      Rewrite (.record keys) (.mapping (before ++ after))
        (.mapping (before ++ (key.name, value) :: after))
  /-- The value under a known key is rewritten. -/
  | entry {keys : List (Key Form)} {before after : List (String × Value)} {key : Key Form}
      {value rewritten : Value} (known : key ∈ keys) (step : Rewrite key.form value rewritten) :
      Rewrite (.record keys) (.mapping (before ++ (key.name, value) :: after))
        (.mapping (before ++ (key.name, rewritten) :: after))
  /-- A member of a structure that is written as a sequence is rewritten. -/
  | place {keys : List (Key Form)} {before after : List Value} {key : Key Form}
      {value rewritten : Value} (placed : keys[before.length]? = some key)
      (step : Rewrite key.form value rewritten) :
      Rewrite (.record keys) (.sequence (before ++ value :: after))
        (.sequence (before ++ rewritten :: after))
  /-- An item of a list is rewritten. -/
  | item {form : Form} {before after : List Value} {value rewritten : Value}
      (step : Rewrite form value rewritten) :
      Rewrite (.list form) (.sequence (before ++ value :: after))
        (.sequence (before ++ rewritten :: after))

/-- A reader gives the same result before and after every rewriting step. -/
def KeptBy {Result : Type} (form : Form) (reader : Value → Decoded Result) : Prop :=
  ∀ value rewritten, form.Rewrite value rewritten →
    ∀ result, reader value = .ok result ↔ reader rewritten = .ok result

end Form

/-- What becomes of a member by one rewriting step of its structure. -/
inductive Key.Change (key : Key Form) : Option Value → Option Value → Prop
  | none (member : Option Value) : key.Change member member
  | filled {value : Value} (defaults : key.default? = some value) : key.Change none (some value)
  | rewritten {value rewritten : Value} (step : key.form.Rewrite value rewritten) :
      key.Change (some value) (some rewritten)

/-- A reader of the member's form has its default. -/
structure Key.ReadBy {Result : Type} (key : Key Form) (reader : Value → Decoded Result)
    (default? : Option Result) : Prop where
  kept : key.form.KeptBy reader
  defaults : ∀ value, key.default? = some value →
    ∃ default, default? = some default ∧ reader value = .ok default

namespace Value

variable {first second before after entries : List (String × Value)} {key other : String}
  {value : Value}

/-- A later entry hides an earlier one. -/
theorem entry_append :
    entry? (first ++ second) key = ( entry? second key).or ( entry? first key) := by
  rw [ entry?, List.reverse_append, List.find?_append, Option.map_or]
  rfl

theorem entry_cons_self : entry? ((key, value) :: entries) key =
    ( entry? entries key).or (some value) := by
  rw [← List.singleton_append, entry_append]
  simp [ entry?]

theorem entry_cons_of_ne (different : other ≠ key) :
    entry? ((other, value) :: entries) key = entry? entries key := by
  rw [← List.singleton_append, entry_append]
  simp [ entry?, different]

theorem entry_insert_of_ne (different : other ≠ key) :
    entry? (before ++ (other, value) :: after) key = entry? (before ++ after) key := by
  rw [entry_append, entry_append, entry_cons_of_ne different]

theorem entry_absent (absent : ∀ entry ∈ entries, entry.1 ≠ key) : entry? entries key = none := by
  rw [ entry?, Option.map_eq_none_iff, List.find?_eq_none]
  intro entry member
  simpa using absent entry (List.mem_reverse.mp member)

theorem entry_insert_absent (absent : ∀ entry ∈ before ++ after, entry.1 ≠ key) :
    entry? (before ++ (key, value) :: after) key = some value := by
  obtain ⟨inBefore, inAfter⟩ := List.forall_mem_append.mp absent
  rw [entry_append, entry_cons_self, entry_absent inBefore, entry_absent inAfter]
  rfl

end Value

namespace Form.Rewrite

variable {keys : List (Key Form)} {value rewritten : Value}

theorem holds_iff (step : Rewrite (.record keys) value rewritten) {least most : Nat} :
    value.Holds least most ↔ rewritten.Holds least most := by
  cases step with
  | unknown | default | entry => exact Iff.rfl
  | place => simp only [Value.Holds, List.length_append, List.length_cons]

/-- One step on a structure changes a member in one of three ways. -/
theorem member (step : Rewrite (.record keys) value rewritten)
    (distinct : (keys.map Key.name).Nodup) {index : Nat} {key : Key Form}
    (placed : keys[index]? = some key) :
    key.Change (value.member? key.name index) (rewritten.member? key.name index) := by
  have known : key ∈ keys := List.mem_of_getElem? placed
  cases step with
  | unknown unknown =>
      simp only [Value.member?]
      rw [Value.entry_insert_of_ne (Ne.symm (unknown key known))]
      exact .none _
  | @default _ before after other value otherKnown defaults absent =>
      simp only [Value.member?]
      by_cases same : other.name = key.name
      · cases List.inj_on_of_nodup_map distinct otherKnown known same
        rw [Value.entry_absent absent, Value.entry_insert_absent absent]
        exact .filled defaults
      · rw [Value.entry_insert_of_ne same]
        exact .none _
  | @entry _ before after other value rewritten otherKnown step =>
      simp only [Value.member?]
      by_cases same : other.name = key.name
      · cases List.inj_on_of_nodup_map distinct otherKnown known same
        simp only [Value.entry_append, Value.entry_cons_self]
        -- An entry of the same key that comes later is the one that counts.
        cases Value.entry? after key.name with
        | none => exact .rewritten step
        | some later => exact .none _
      · rw [Value.entry_insert_of_ne same, Value.entry_insert_of_ne same]
        exact .none _
  | @place _ before after other value rewritten otherPlaced step =>
      simp only [Value.member?]
      by_cases same : index = before.length
      · subst same
        cases otherPlaced.symm.trans placed
        rw [List.getElem?_append_right (Nat.le_refl _),
          List.getElem?_append_right (Nat.le_refl _), Nat.sub_self]
        exact .rewritten step
      · have unchanged : (before ++ value :: after)[index]? =
            (before ++ rewritten :: after)[index]? := by
          simp only [List.getElem?_append, List.getElem?_cons]
          split
          · rfl
          · rw [if_neg (by omega), if_neg (by omega)]
        rw [unchanged]
        exact .none _

end Form.Rewrite

theorem Key.Change.reads_iff {Result : Type} {key : Key Form} {member changed : Option Value}
    (change : key.Change member changed) {reader : Value → Decoded Result}
    {default? : Option Result} (read : key.ReadBy reader default?) {result : Result} :
    Decode.Reads reader default? member result ↔ Decode.Reads reader default? changed result := by
  cases change with
  | none => exact Iff.rfl
  | filled defaults =>
      obtain ⟨default, rfl, readsDefault⟩ := read.defaults _ defaults
      simp [Decode.Reads, readsDefault]
  | rewritten step => exact read.kept _ _ step result

namespace Form

variable {Result : Type} {form : Form} {reader : Value → Decoded Result}

/-- Every member of a rewritten structure reads as it did. -/
theorem Rewrite.reads_iff {keys : List (Key Form)} {value rewritten : Value}
    (step : Rewrite (.record keys) value rewritten) (distinct : (keys.map Key.name).Nodup)
    {index : Nat} {key : Key Form} (placed : keys[index]? = some key)
    {default? : Option Result} (read : key.ReadBy reader default?) {result : Result} :
    Decode.Reads reader default? (value.member? key.name index) result ↔
      Decode.Reads reader default? (rewritten.member? key.name index) result :=
  (step.member distinct placed).reads_iff read

theorem plain_kept (reader : Value → Decoded Result) : Form.plain.KeptBy reader := nofun

theorem Rewrite.not_null {value rewritten : Value} (step : form.Rewrite value rewritten) :
    value ≠ .null ∧ rewritten ≠ .null := by
  cases step <;> exact ⟨nofun, nofun⟩

theorem KeptBy.nullable (kept : form.KeptBy reader) : form.KeptBy (Decode.nullable reader) := by
  rintro value rewritten step (_ | result)
  · simp only [Decode.nullable_ok_none_iff, step.not_null.1, step.not_null.2]
  · simp only [Decode.nullable_ok_some_iff, ne_eq, step.not_null.1, step.not_null.2,
      kept value rewritten step]

theorem KeptBy.sequence (kept : form.KeptBy reader) :
    (Form.list form).KeptBy (Decode.sequence reader) := by
  intro value rewritten step results
  cases step with
  | item step =>
      simp only [Decode.sequence, List.mapM_append, List.mapM_cons, bind_ok_iff, kept _ _ step]

end Form

namespace Key

variable {Result : Type} {name : String} {form : Form} {reader : Value → Decoded Result}

theorem read_required (kept : form.KeptBy reader) : Key.ReadBy ⟨name, none, form⟩ reader none :=
  ⟨kept, nofun⟩

theorem read_default {value : Value} {default : Result} (kept : form.KeptBy reader)
    (reads : reader value = .ok default) :
    Key.ReadBy ⟨name, some value, form⟩ reader (some default) := by
  refine ⟨kept, ?_⟩
  rintro _ ⟨⟩
  exact ⟨default, rfl, reads⟩

end Key

/-! ## The structures of candidates -/

/-- A place in the sources. -/
def locationKeys : List (Key Form) :=
  [⟨"path", none, .plain⟩, ⟨"line", none, .plain⟩, ⟨"column", none, .plain⟩]

/-- An enclosing scope. -/
def scopeKeys : List (Key Form) := [⟨"name", none, .plain⟩]

/-- A declared field. -/
def fieldKeys : List (Key Form) :=
  [⟨"name", none, .plain⟩, ⟨"raw_type_text", none, .plain⟩,
    ⟨"is_variadic", some (.boolean false), .plain⟩,
    ⟨"location", some .null, .record locationKeys⟩, ⟨"visibility", some .null, .plain⟩]

/-- A candidate. -/
def candidateKeys : List (Key Form) :=
  [⟨"is_record_type", none, .plain⟩, ⟨"has_companion_scope", none, .plain⟩,
    ⟨"fully_qualified_name", none, .plain⟩,
    ⟨"enclosing_scopes", some (.sequence []), .list (.record scopeKeys)⟩,
    ⟨"fields", some .null, .list (.record fieldKeys)⟩,
    ⟨"visibility", some (.text ""), .plain⟩, ⟨"location", some .null, .record locationKeys⟩]

namespace Form

open Key

theorem location_kept : (Form.record locationKeys).KeptBy Decode.location := by
  intro value rewritten step place
  have distinct : (locationKeys.map Key.name).Nodup := by decide
  rw [Decode.location_ok_iff, Decode.location_ok_iff, step.holds_iff]
  refine and_congr Iff.rfl (and_congr ?path (and_congr ?line ?column))
  case path => exact step.reads_iff distinct rfl (read_required (plain_kept Decode.text))
  case line => exact step.reads_iff distinct rfl (read_required (plain_kept Decode.number32))
  case column => exact step.reads_iff distinct rfl (read_required (plain_kept Decode.number32))

theorem scope_kept : (Form.record scopeKeys).KeptBy Decode.scope := by
  intro value rewritten step name
  have distinct : (scopeKeys.map Key.name).Nodup := by decide
  rw [Decode.scope_ok_iff, Decode.scope_ok_iff, step.holds_iff]
  exact and_congr Iff.rfl (step.reads_iff distinct rfl (read_required (plain_kept Decode.text)))

theorem field_kept : (Form.record fieldKeys).KeptBy Decode.declaredField := by
  intro value rewritten step field
  have distinct : (fieldKeys.map Key.name).Nodup := by decide
  rw [Decode.declared_field_ok_iff, Decode.declared_field_ok_iff, step.holds_iff]
  refine and_congr Iff.rfl (and_congr ?name (and_congr ?typeText (and_congr ?isVariadic
    (and_congr ?location ?visibility))))
  case name => exact step.reads_iff distinct rfl (read_required (plain_kept Decode.text))
  case typeText => exact step.reads_iff distinct rfl (read_required (plain_kept Decode.text))
  case isVariadic =>
    exact step.reads_iff distinct rfl (read_default (plain_kept Decode.boolean) rfl)
  case location => exact step.reads_iff distinct rfl (read_default location_kept.nullable rfl)
  case visibility =>
    exact step.reads_iff distinct rfl (read_default (plain_kept Decode.text).nullable rfl)

theorem candidate_kept : (Form.record candidateKeys).KeptBy Decode.candidate := by
  intro value rewritten step candidate
  have distinct : (candidateKeys.map Key.name).Nodup := by decide
  rw [Decode.candidate_ok_iff, Decode.candidate_ok_iff, step.holds_iff]
  refine and_congr Iff.rfl (and_congr ?isRecord (and_congr ?companion (and_congr ?name
    (and_congr ?scopes (and_congr ?fields (and_congr ?visibility ?location))))))
  case isRecord => exact step.reads_iff distinct rfl (read_required (plain_kept Decode.boolean))
  case companion => exact step.reads_iff distinct rfl (read_required (plain_kept Decode.boolean))
  case name => exact step.reads_iff distinct rfl (read_required (plain_kept Decode.text))
  case scopes => exact step.reads_iff distinct rfl (read_default scope_kept.sequence rfl)
  case fields => exact step.reads_iff distinct rfl (read_default field_kept.sequence.nullable rfl)
  case visibility => exact step.reads_iff distinct rfl (read_default (plain_kept Decode.text) rfl)
  case location => exact step.reads_iff distinct rfl (read_default location_kept.nullable rfl)

end Form

end Recordsmith.Wire
