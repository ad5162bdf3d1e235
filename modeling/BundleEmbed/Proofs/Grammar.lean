import BundleEmbed.Descriptor.Check

/-!
The grammar of descriptors.

A form says which values may stand in a place: a text, a flag, a list of values of a form,
an object of a model with its fields. The grammar is stated without a word about how a
value is checked.

* `Form.Accepts`: the values of a form.
* `Form.Violates`: what is wrong with a value of which a form is asked, with the place.
* `Violation.before`: the order in which violations are told, the fields of a model in
  the order in which it names them, the parts of a list and of a mapping as they stand.
-/

namespace BundleEmbed

/-! ### Forms -/

/-- The models of a descriptor. -/
inductive Model where
  | descriptor
  | dependency
  | instructions

/-- The name of a model. -/
def Model.name : Model → String
  | .descriptor => Descriptor.modelName
  | .dependency => DependencyEntry.modelName
  | .instructions => Instructions.modelName

/-- The forms of values. -/
inductive Form where
  | text
  | flag
  /-- a text, for which a boolean may stand -/
  | flagText
  | nullable (form : Form)
  | list (item : Form)
  | mapping (value : Form)
  | model (model : Model)

/-- A field of a model. -/
structure Field where
  name : Text
  form : Form
  required : Bool

/-- The fields of a model, in its order. An object may have others besides. -/
def Model.fields : Model → List Field
  | .descriptor => [
      ⟨"dependencies", .list (.model .dependency), false⟩,
      ⟨"instructions", .model .instructions, false⟩,
      ⟨"headers", .mapping (.nullable .text), false⟩]
  | .dependency => [
      ⟨"group_id", .text, true⟩,
      ⟨"artifact_id", .text, true⟩,
      ⟨"version", .text, true⟩,
      ⟨"selected_version", .nullable .text, false⟩,
      ⟨"scope", .nullable .text, false⟩,
      ⟨"type", .nullable .text, false⟩,
      ⟨"classifier", .nullable .text, false⟩,
      ⟨"optional", .nullable .flag, false⟩,
      ⟨"file", .nullable .text, false⟩,
      ⟨"extension", .nullable .text, false⟩,
      ⟨"direct", .flag, false⟩]
  | .instructions => [
      ⟨"embed_dependency", .nullable (.mapping (.nullable (.mapping .flagText))), false⟩,
      ⟨"embed_directory", .nullable .text, false⟩,
      ⟨"embed_strip_group", .nullable .flagText, false⟩,
      ⟨"embed_strip_version", .nullable .flagText, false⟩,
      ⟨"embed_transitive", .nullable .flagText, false⟩]

/-! ### What is accepted -/

/-- The values that are flags: booleans, words for them, and the numbers zero and one. A
decimal number counts as the double next to it. -/
inductive IsFlag : JsonValue → Prop
  | bool (flag : Bool) : IsFlag (.bool flag)
  | word {text : Text} (known : text.toLower ∈ trueWords ++ falseWords) :
      IsFlag (.string text)
  | integerZero : IsFlag (.integer 0)
  | integerOne : IsFlag (.integer 1)
  | decimalZero {number : Decimal} (zero : number.toBinary64.toNat? = some 0) :
      IsFlag (.decimal number)
  | decimalOne {number : Decimal} (one : number.toBinary64.toNat? = some 1)
      (positive : number.negative = false) : IsFlag (.decimal number)

/-- The values of a form. -/
inductive Form.Accepts : Form → JsonValue → Prop
  | text (text : Text) : Accepts .text (.string text)
  | flag {value : JsonValue} (isFlag : IsFlag value) : Accepts .flag value
  | flagText (text : Text) : Accepts .flagText (.string text)
  | flagBool (flag : Bool) : Accepts .flagText (.bool flag)
  | null (form : Form) : Accepts (.nullable form) .null
  | nullable {form : Form} {value : JsonValue} (accepted : Accepts form value) :
      Accepts (.nullable form) value
  | list {form : Form} {items : List JsonValue}
      (accepted : ∀ item ∈ items, Accepts form item) : Accepts (.list form) (.array items)
  | mapping {form : Form} {members : Members}
      (accepted : ∀ member ∈ members, Accepts form member.2) :
      Accepts (.mapping form) (.object members)
  | model {model : Model} {members : Members}
      (accepted : ∀ field ∈ model.fields, ∀ value,
        members.lookup field.name = some value → Accepts field.form value)
      (present : ∀ field ∈ model.fields, field.required → members.lookup field.name ≠ none) :
      Accepts (.model model) (.object members)

/-! ### What is wrong -/

/-- What was expected at a place. Each step to the place has a number besides: that of the
field in its model, or that of the part in its list or mapping. -/
structure Violation where
  place : List (Nat × SchemaStep)
  expected : Expectation

namespace Violation

/-- A violation as it is reported. -/
def fault (violation : Violation) : SchemaFault :=
  ⟨violation.place.map Prod.snd, violation.expected⟩

/-- A violation in a part, as one in the whole. -/
def under (number : Nat) (step : SchemaStep) (violation : Violation) : Violation :=
  { violation with place := (number, step) :: violation.place }

/-- At the first step where the places part, the one has the lower number. -/
def before (v w : Violation) : Prop := v.place.map Prod.fst < w.place.map Prod.fst

end Violation

/-- The values that are taken for flags, if only for wrong ones: texts, and the integers of
64 bits; of the decimal numbers those whose double is such an integer, the least one
excepted. -/
inductive IsFlagCandidate : JsonValue → Prop
  | text (text : Text) : IsFlagCandidate (.string text)
  | integer {number : Int} (least : -flagNumberLimit ≤ number)
      (greatest : number < flagNumberLimit) : IsFlagCandidate (.integer number)
  | decimal {number : Decimal} {magnitude : Nat}
      (whole : number.toBinary64.toNat? = some magnitude) (greatest : magnitude < flagNumberLimit) :
      IsFlagCandidate (.decimal number)

/-- The texts with a surrogate. -/
inductive HasSurrogate : JsonValue → Prop
  | text {text : Text} (surrogate : text.HasSurrogate) : HasSurrogate (.string text)

/-- A value is of another kind than its form, which expects something else in its place. -/
inductive Form.Mismatches : Form → JsonValue → Expectation → Prop
  | text {value : JsonValue} (other : ∀ text, value ≠ .string text) :
      Mismatches .text value .string
  | flag {value : JsonValue} (candidate : IsFlagCandidate value) (wrong : ¬ IsFlag value)
      (characters : ¬ HasSurrogate value) : Mismatches .flag value .boolText
  | flagCharacters {value : JsonValue} (surrogate : HasSurrogate value) :
      Mismatches .flag value .characters
  | noFlag {value : JsonValue} (other : ¬ IsFlagCandidate value) (wrong : ¬ IsFlag value) :
      Mismatches .flag value .bool
  | flagText {value : JsonValue} (noText : ∀ text, value ≠ .string text)
      (noFlag : ∀ flag, value ≠ .bool flag) : Mismatches .flagText value .string
  | list {form : Form} {value : JsonValue} (other : ∀ items, value ≠ .array items) :
      Mismatches (.list form) value .list
  | mapping {form : Form} {value : JsonValue} (other : ∀ members, value ≠ .object members) :
      Mismatches (.mapping form) value .mapping
  | model {model : Model} {value : JsonValue} (other : ∀ members, value ≠ .object members) :
      Mismatches (.model model) value (.model model.name)

/-- The violations of a form by a value: the value is of another kind, a part violates the
form of the parts, or a field that is required is absent. -/
inductive Form.Violates : Form → JsonValue → Violation → Prop
  | here {form : Form} {value : JsonValue} {what : Expectation}
      (mismatch : form.Mismatches value what) : Violates form value ⟨[], what⟩
  | nullable {form : Form} {value : JsonValue} {violation : Violation} (given : value ≠ .null)
      (violated : Violates form value violation) : Violates (.nullable form) value violation
  | item {form : Form} {items : List JsonValue} {number : Nat} {item : JsonValue}
      {violation : Violation} (stands : items[number]? = some item)
      (violated : Violates form item violation) :
      Violates (.list form) (.array items) (violation.under number (.index number))
  | member {form : Form} {members : Members} {number : Nat} {key : Text} {value : JsonValue}
      {violation : Violation} (stands : members[number]? = some (key, value))
      (violated : Violates form value violation) :
      Violates (.mapping form) (.object members) (violation.under number (.field key))
  | field {model : Model} {members : Members} {number : Nat} {field : Field} {value : JsonValue}
      {violation : Violation} (known : model.fields[number]? = some field)
      (stands : members.lookup field.name = some value)
      (violated : Violates field.form value violation) :
      Violates (.model model) (.object members) (violation.under number (.field field.name))
  | missing {model : Model} {members : Members} {number : Nat} {field : Field}
      (known : model.fields[number]? = some field) (required : field.required)
      (absent : members.lookup field.name = none) :
      Violates (.model model) (.object members) ⟨[(number, .field field.name)], .present⟩

/-! ### Flags -/

/-- The integers that are flags. -/
theorem isFlag_integer_iff {number : Int} : IsFlag (.integer number) ↔ number = 0 ∨ number = 1 := by
  constructor
  · intro isFlag
    cases isFlag with
    | integerZero => exact .inl rfl
    | integerOne => exact .inr rfl
  · rintro (rfl | rfl)
    · exact .integerZero
    · exact .integerOne

/-- The texts that are flags. -/
theorem isFlag_string_iff {text : Text} :
    IsFlag (.string text) ↔ text.toLower ∈ trueWords ++ falseWords := by
  constructor
  · intro isFlag
    cases isFlag with | word known => exact known
  · exact .word

/-- Words consist of characters. -/
theorem not_isFlag_of_hasSurrogate {value : JsonValue} (surrogate : HasSurrogate value) :
    ¬ IsFlag value := by
  obtain @⟨text, surrogate⟩ := surrogate
  intro isFlag
  have words : ∀ word ∈ trueWords ++ falseWords, ¬ word.HasSurrogate := by decide
  exact words _ (isFlag_string_iff.mp isFlag) (Text.hasSurrogate_toLower.mpr surrogate)

/-- The decimal numbers that are flags. -/
theorem isFlag_decimal_iff {number : Decimal} : IsFlag (.decimal number) ↔
    number.toBinary64.toNat? = some 0 ∨
      number.toBinary64.toNat? = some 1 ∧ number.negative = false := by
  constructor
  · intro isFlag
    cases isFlag with
    | decimalZero zero => exact .inl zero
    | decimalOne one positive => exact .inr ⟨one, positive⟩
  · rintro (zero | ⟨one, positive⟩)
    · exact .decimalZero zero
    · exact .decimalOne one positive

/-- The integers that are taken for flags. -/
theorem isFlagCandidate_integer_iff {number : Int} : IsFlagCandidate (.integer number) ↔
    -flagNumberLimit ≤ number ∧ number < flagNumberLimit := by
  constructor
  · intro candidate
    cases candidate with | integer least greatest => exact ⟨least, greatest⟩
  · rintro ⟨least, greatest⟩
    exact .integer least greatest

/-- The decimal numbers that are taken for flags. -/
theorem isFlagCandidate_decimal_iff {number : Decimal} : IsFlagCandidate (.decimal number) ↔
    ∃ magnitude, number.toBinary64.toNat? = some magnitude ∧ magnitude < flagNumberLimit := by
  constructor
  · intro candidate
    cases candidate with | decimal whole greatest => exact ⟨_, whole, greatest⟩
  · rintro ⟨magnitude, whole, greatest⟩
    exact .decimal whole greatest

/-! ### The forms one by one -/

section Forms

variable {form : Form} {value : JsonValue} {violation : Violation}

/-- What violates a text. -/
theorem violates_text_iff : Form.text.Violates value violation ↔
    (∀ text, value ≠ .string text) ∧ violation = ⟨[], .string⟩ := by
  constructor
  · intro violated
    cases violated with
    | here mismatch => cases mismatch with | text other => exact ⟨other, rfl⟩
  · rintro ⟨other, rfl⟩
    exact .here (.text other)

/-- What violates the text of a flag. -/
theorem violates_flagText_iff : Form.flagText.Violates value violation ↔
    ((∀ text, value ≠ .string text) ∧ ∀ flag, value ≠ .bool flag) ∧
      violation = ⟨[], .string⟩ := by
  constructor
  · intro violated
    cases violated with
    | here mismatch =>
        cases mismatch with | flagText noText noFlag => exact ⟨⟨noText, noFlag⟩, rfl⟩
  · rintro ⟨⟨noText, noFlag⟩, rfl⟩
    exact .here (.flagText noText noFlag)

/-- The flags. -/
theorem accepts_flag_iff : Form.flag.Accepts value ↔ IsFlag value := by
  constructor
  · intro accepted
    cases accepted with | flag isFlag => exact isFlag
  · exact .flag

/-- What violates a flag. -/
theorem violates_flag_iff : Form.flag.Violates value violation ↔
    ¬ IsFlag value ∧
      (IsFlagCandidate value ∧ ¬ HasSurrogate value ∧ violation = ⟨[], .boolText⟩ ∨
        HasSurrogate value ∧ violation = ⟨[], .characters⟩ ∨
        ¬ IsFlagCandidate value ∧ violation = ⟨[], .bool⟩) := by
  constructor
  · intro violated
    cases violated with
    | here mismatch =>
        cases mismatch with
        | flag candidate wrong characters => exact ⟨wrong, .inl ⟨candidate, characters, rfl⟩⟩
        | flagCharacters surrogate =>
            exact ⟨not_isFlag_of_hasSurrogate surrogate, .inr (.inl ⟨surrogate, rfl⟩)⟩
        | noFlag other wrong => exact ⟨wrong, .inr (.inr ⟨other, rfl⟩)⟩
  · rintro ⟨wrong, ⟨candidate, characters, rfl⟩ | ⟨surrogate, rfl⟩ | ⟨other, rfl⟩⟩
    · exact .here (.flag candidate wrong characters)
    · exact .here (.flagCharacters surrogate)
    · exact .here (.noFlag other wrong)

/-- A value or null. -/
theorem accepts_nullable_iff :
    (Form.nullable form).Accepts value ↔ value = .null ∨ form.Accepts value := by
  constructor
  · intro accepted
    cases accepted with
    | null => exact .inl rfl
    | nullable accepted => exact .inr accepted
  · rintro (rfl | accepted)
    · exact .null form
    · exact .nullable accepted

/-- What violates a value or null. -/
theorem violates_nullable_iff : (Form.nullable form).Violates value violation ↔
    value ≠ .null ∧ form.Violates value violation := by
  constructor
  · intro violated
    cases violated with
    | here mismatch => cases mismatch
    | nullable given violated => exact ⟨given, violated⟩
  · rintro ⟨given, violated⟩
    exact .nullable given violated

/-- The lists of values of a form. -/
theorem accepts_list_iff {items : List JsonValue} :
    (Form.list form).Accepts (.array items) ↔ ∀ item ∈ items, form.Accepts item := by
  constructor
  · intro accepted
    cases accepted with | list accepted => exact accepted
  · exact .list

/-- What violates a list of values. -/
theorem violates_list_iff {items : List JsonValue} :
    (Form.list form).Violates (.array items) violation ↔
      ∃ number item, items[number]? = some item ∧
        ∃ inItem, form.Violates item inItem ∧ violation = inItem.under number (.index number) := by
  constructor
  · intro violated
    cases violated with
    | here mismatch => cases mismatch with | list other => exact absurd rfl (other items)
    | item stands violated => exact ⟨_, _, stands, _, violated, rfl⟩
  · rintro ⟨number, item, stands, inItem, violated, rfl⟩
    exact .item stands violated

/-- What violates a list where no list stands. -/
theorem violates_list_of_ne (other : ∀ items, value ≠ .array items) :
    (Form.list form).Violates value violation ↔ violation = ⟨[], .list⟩ := by
  constructor
  · intro violated
    cases violated with
    | here mismatch => cases mismatch with | list => rfl
    | item => exact absurd rfl (other _)
  · rintro rfl
    exact .here (.list other)

/-- The mappings to values of a form. -/
theorem accepts_mapping_iff {members : Members} :
    (Form.mapping form).Accepts (.object members) ↔
      ∀ member ∈ members, form.Accepts member.2 := by
  constructor
  · intro accepted
    cases accepted with | mapping accepted => exact accepted
  · exact .mapping

/-- What violates a mapping to values. -/
theorem violates_mapping_iff {members : Members} :
    (Form.mapping form).Violates (.object members) violation ↔
      ∃ number member, members[number]? = some member ∧
        ∃ inValue, form.Violates member.2 inValue ∧
          violation = inValue.under number (.field member.1) := by
  constructor
  · intro violated
    cases violated with
    | here mismatch => cases mismatch with | mapping other => exact absurd rfl (other members)
    | member stands violated => exact ⟨_, _, stands, _, violated, rfl⟩
  · rintro ⟨number, ⟨key, value⟩, stands, inValue, violated, rfl⟩
    exact .member stands violated

/-- What violates a mapping where no object stands. -/
theorem violates_mapping_of_ne (other : ∀ members, value ≠ .object members) :
    (Form.mapping form).Violates value violation ↔ violation = ⟨[], .mapping⟩ := by
  constructor
  · intro violated
    cases violated with
    | here mismatch => cases mismatch with | mapping => rfl
    | member => exact absurd rfl (other _)
  · rintro rfl
    exact .here (.mapping other)

/-- An object has a field that is met, or leaves out one that is not required. -/
def Field.AcceptedIn (members : Members) (field : Field) : Prop :=
  match members.lookup field.name with
  | some value => field.form.Accepts value
  | none => field.required = false

/-- What is wrong with a field in an object, in which it has a number. -/
def Field.ViolatedIn (members : Members) (number : Nat) (field : Field) (violation : Violation) :
    Prop :=
  match members.lookup field.name with
  | some value => ∃ inValue, field.form.Violates value inValue ∧
      violation = inValue.under number (.field field.name)
  | none => field.required = true ∧ violation = ⟨[(number, .field field.name)], .present⟩

section Fields

variable {members : Members} {field : Field} {number : Nat}

/-- A field that an object has. -/
theorem acceptedIn_of_some (stands : members.lookup field.name = some value) :
    field.AcceptedIn members ↔ field.form.Accepts value := by
  simp only [Field.AcceptedIn, stands]

/-- A field that an object leaves out. -/
theorem acceptedIn_of_none (absent : members.lookup field.name = none) :
    field.AcceptedIn members ↔ field.required = false := by
  simp only [Field.AcceptedIn, absent]

/-- What violates a field that an object has. -/
theorem violatedIn_of_some (stands : members.lookup field.name = some value) :
    field.ViolatedIn members number violation ↔ ∃ inValue, field.form.Violates value inValue ∧
      violation = inValue.under number (.field field.name) := by
  simp only [Field.ViolatedIn, stands]

/-- What violates a field that an object leaves out. -/
theorem violatedIn_of_none (absent : members.lookup field.name = none) :
    field.ViolatedIn members number violation ↔
      field.required = true ∧ violation = ⟨[(number, .field field.name)], .present⟩ := by
  simp only [Field.ViolatedIn, absent]

end Fields

/-- The objects of a model. -/
theorem accepts_model_iff {model : Model} {members : Members} :
    (Form.model model).Accepts (.object members) ↔
      ∀ field ∈ model.fields, field.AcceptedIn members := by
  constructor
  · intro accepted field known
    cases accepted with
    | model accepted present =>
        cases stands : members.lookup field.name with
        | some value =>
            exact (acceptedIn_of_some stands).mpr (accepted field known value stands)
        | none =>
            exact (acceptedIn_of_none stands).mpr
              (Bool.eq_false_iff.mpr fun required => present field known required stands)
  · intro accepted
    refine .model (fun field known value stands => ?_) fun field known required absent => ?_
    · exact (acceptedIn_of_some stands).mp (accepted field known)
    · exact Bool.eq_false_iff.mp ((acceptedIn_of_none absent).mp (accepted field known)) required

/-- What violates an object of a model. -/
theorem violates_model_iff {model : Model} {members : Members} :
    (Form.model model).Violates (.object members) violation ↔
      ∃ number, ∃ field : Field, model.fields[number]? = some field ∧
        field.ViolatedIn members number violation := by
  constructor
  · intro violated
    cases violated with
    | here mismatch => cases mismatch with | model other => exact absurd rfl (other members)
    | field known stands violated =>
        exact ⟨_, _, known, (violatedIn_of_some stands).mpr ⟨_, violated, rfl⟩⟩
    | missing known required absent =>
        exact ⟨_, _, known, (violatedIn_of_none absent).mpr ⟨required, rfl⟩⟩
  · rintro ⟨number, field, known, violated⟩
    cases stands : members.lookup field.name with
    | some value =>
        obtain ⟨inValue, wrong, rfl⟩ := (violatedIn_of_some stands).mp violated
        exact .field known stands wrong
    | none =>
        obtain ⟨required, rfl⟩ := (violatedIn_of_none stands).mp violated
        exact .missing known required stands

/-- What violates a model where no object stands. -/
theorem violates_model_of_ne {model : Model} (other : ∀ members, value ≠ .object members) :
    (Form.model model).Violates value violation ↔ violation = ⟨[], .model model.name⟩ := by
  constructor
  · intro violated
    cases violated with
    | here mismatch => cases mismatch with | model => rfl
    | field => exact absurd rfl (other _)
    | missing => exact absurd rfl (other _)
  · rintro rfl
    exact .here (.model other)

end Forms

namespace Violation

/-! ### The order -/

/-- Within a part, violations come in the order that they have there. -/
theorem before_under_iff {number : Nat} {step step' : SchemaStep} {v w : Violation} :
    (v.under number step).before (w.under number step') ↔ v.before w := by
  simp [before, under]

/-- What is in an earlier part comes first. -/
theorem before_of_lt {m n : Nat} {step step' : SchemaStep} {v w : Violation} (earlier : m < n) :
    (v.under m step).before (w.under n step') := by
  simp [before, under, List.cons_lt_cons_iff, earlier]

/-- No violation comes before itself. -/
theorem not_before_self (v : Violation) : ¬ v.before v := List.lt_irrefl _

/-- A violation in the whole tells the one in the part. -/
theorem under_injective (number : Nat) (step : SchemaStep) :
    Function.Injective (under number step) := by
  rintro ⟨place, what⟩ ⟨place', what'⟩ same
  simpa [under] using same

/-- Of a violation in a part, the step to the part is reported first. -/
theorem fault_under (number : Nat) (step : SchemaStep) (v : Violation) :
    (v.under number step).fault = { v.fault with location := step :: v.fault.location } := rfl

end Violation

end BundleEmbed
