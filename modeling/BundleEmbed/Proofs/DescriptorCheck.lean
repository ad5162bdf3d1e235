import BundleEmbed.Proofs.Grammar
import BundleEmbed.Proofs.Listing

/-!
Checking a descriptor accepts its grammar and reports every violation of it.

* `Reports`: a check has a value exactly where its form is met, and otherwise lists the
  violations, each once and in order.
* `Reports.apply`, `Reports.all`, `ReportsFields.snoc`: the checks of parts put together.
* `Descriptor.check_isExact`: a descriptor is accepted exactly if it is of its grammar, and
  otherwise every violation is reported.
-/

namespace BundleEmbed

/-- What a check tells: it has a value where what is asked is met, and lists the
violations, each once and in order, where it is not. -/
inductive Reports {α : Type} (accepts : Prop) (violates : Violation → Prop) : Checked α → Prop
  | valid (value : α) (accepted : accepts) (sound : ∀ v, ¬ violates v) :
      Reports accepts violates (.valid value)
  | invalid {violations : List Violation} (refused : ¬ accepts) (found : violations ≠ [])
      (listing : IsListing violates Violation.before violations) :
      Reports accepts violates (.invalid (violations.map Violation.fault))

namespace Reports

variable {α β : Type} {accepts accepts' : Prop} {violates violates' : Violation → Prop}
  {checked : Checked α}

/-- There is a value exactly where what is asked is met. -/
theorem exists_valid_iff (reports : Reports accepts violates checked) :
    (∃ value, checked = .valid value) ↔ accepts := by
  cases reports with
  | valid value accepted sound => exact iff_of_true ⟨value, rfl⟩ accepted
  | invalid refused found listing => exact iff_of_false nofun refused

/-- Where what is asked is not met, the violations are listed. -/
theorem exists_listing (reports : Reports accepts violates checked) (refused : ¬ accepts) :
    ∃ violations, violations ≠ [] ∧ IsListing violates Violation.before violations ∧
      checked = .invalid (violations.map Violation.fault) := by
  cases reports with
  | valid value accepted sound => exact absurd accepted refused
  | invalid refused found listing => exact ⟨_, found, listing, rfl⟩

/-! ### Checks of one part -/

/-- The same report in other words. -/
theorem congr (reports : Reports accepts violates checked) (sameAccepts : accepts ↔ accepts')
    (sameViolates : ∀ v, violates v ↔ violates' v) : Reports accepts' violates' checked := by
  cases reports with
  | valid value accepted sound =>
      exact .valid value (sameAccepts.mp accepted) fun v wrong =>
        sound v ((sameViolates v).mpr wrong)
  | invalid refused found listing =>
      exact .invalid (refused ∘ sameAccepts.mpr) found (listing.congr sameViolates)

/-- A value that is of another kind violates just that. -/
theorem expected {what : Expectation} (refused : ¬ accepts)
    (only : ∀ v, violates v ↔ v = ⟨[], what⟩) :
    Reports accepts violates (Checked.expected what : Checked α) := by
  have listing : IsListing violates Violation.before [⟨[], what⟩] := {
    mem_iff := fun v => by rw [List.mem_singleton, only]
    nodup := List.nodup_singleton _
    ordered := List.pairwise_singleton _ _ }
  exact @Reports.invalid α accepts violates _ refused (List.cons_ne_nil _ _) listing

/-- What becomes of the value does not matter. -/
theorem map (f : α → β) (reports : Reports accepts violates checked) :
    Reports accepts violates (checked.map f) := by
  cases reports with
  | valid value accepted sound => exact .valid (f value) accepted sound
  | invalid refused found listing => exact .invalid refused found listing

/-- The check of a part, told about the whole. -/
theorem under (number : Nat) (step : SchemaStep) (reports : Reports accepts violates checked) :
    Reports accepts (fun v => ∃ w, violates w ∧ v = w.under number step) (checked.under step) := by
  cases reports with
  | valid value accepted sound => exact .valid value accepted fun _ ⟨w, wrong, _⟩ => sound w wrong
  | @invalid violations refused found listing =>
      have faults : (violations.map Violation.fault).map
            (fun f => { f with location := step :: f.location }) =
          (violations.map (Violation.under number step)).map Violation.fault := by
        simp [Violation.fault_under]
      rw [Checked.under, faults]
      exact .invalid refused (by simpa using found)
        (listing.map (Violation.under_injective number step) fun _ _ =>
          Violation.before_under_iff.mpr)

/-! ### Checks of several parts -/

/-- Two checks, if the violations of the first come before those of the second. -/
theorem apply {f : Checked (α → β)} (first : Reports accepts violates f)
    (second : Reports accepts' violates' checked)
    (order : ∀ v w, violates v → violates' w → v.before w) :
    Reports (accepts ∧ accepts') (fun v => violates v ∨ violates' v) (f.apply checked) := by
  cases first with
  | valid g accepted sound =>
      cases second with
      | valid value accepted' sound' =>
          exact .valid (g value) ⟨accepted, accepted'⟩ fun v => not_or.mpr ⟨sound v, sound' v⟩
      | invalid refused found listing =>
          exact .invalid (fun both => refused both.2) found
            (listing.congr fun v => (or_iff_right (sound v)).symm)
  | @invalid violations refused found listing =>
      cases second with
      | valid value accepted' sound' =>
          exact .invalid (fun both => refused both.1) found
            (listing.congr fun v => (or_iff_left (sound' v)).symm)
      | @invalid later _ _ listing' =>
          rw [Checked.apply, ← List.map_append]
          exact .invalid (fun both => refused both.1) (by simp [found])
            (listing.append listing' Violation.not_before_self order)

end Reports

/-! ### Checks of numbered parts -/

section Parts

variable {α β γ : Type}

/-- The violations of numbered parts, where it is known how each part is violated. -/
def ViolatesSome (violates : Nat → β → Violation → Prop) (parts : List β) (v : Violation) :
    Prop :=
  ∃ number part, parts[number]? = some part ∧ violates number part v

/-- The violations of an earlier part come first. -/
def InOrder (violates : Nat → β → Violation → Prop) : Prop :=
  ∀ ⦃m n⦄ b c ⦃v w⦄, m < n → violates m b v → violates n c w → v.before w

/-- Without parts there are no violations. -/
theorem not_violatesSome_nil {violates : Nat → β → Violation → Prop} {v : Violation} :
    ¬ ViolatesSome violates [] v := by
  rintro ⟨number, found, stands, -⟩
  cases stands

/-- Violations of the first part and of the others. -/
theorem violatesSome_cons {violates : Nat → β → Violation → Prop} {part : β} {later : List β}
    {v : Violation} : ViolatesSome violates (part :: later) v ↔
      violates 0 part v ∨ ViolatesSome (fun number => violates (number + 1)) later v := by
  constructor
  · rintro ⟨_ | number, found, stands, wrong⟩
    · cases stands
      exact .inl wrong
    · exact .inr ⟨number, found, stands, wrong⟩
  · rintro (wrong | ⟨number, found, stands, wrong⟩)
    · exact ⟨0, part, rfl, wrong⟩
    · exact ⟨number + 1, found, stands, wrong⟩

/-- Violations of the last part and of the others. -/
theorem violatesSome_append_singleton {violates : Nat → β → Violation → Prop} {part : β}
    {parts : List β} {v : Violation} : ViolatesSome violates (parts ++ [part]) v ↔
      ViolatesSome violates parts v ∨ violates parts.length part v := by
  constructor
  · rintro ⟨number, found, stands, wrong⟩
    rcases Nat.lt_trichotomy number parts.length with isEarlier | rfl | isLater
    · rw [List.getElem?_append_left isEarlier] at stands
      exact .inl ⟨number, found, stands, wrong⟩
    · rw [List.getElem?_concat_length] at stands
      cases stands
      exact .inr wrong
    · have bound : (parts ++ [part]).length ≤ number := by simpa using isLater
      rw [List.getElem?_eq_none bound] at stands
      cases stands
  · rintro (⟨number, found, stands, wrong⟩ | wrong)
    · have bound := (List.getElem?_eq_some_iff.mp stands).1
      exact ⟨number, found, (List.getElem?_append_left bound).trans stands, wrong⟩
    · exact ⟨parts.length, part, List.getElem?_concat_length, wrong⟩

variable {accepts : β → Prop}

/-- The checks of a list of parts, one after the other. -/
theorem Reports.all {check : β → Checked γ} {violates : Nat → β → Violation → Prop}
    {parts : List β} (order : InOrder violates)
    (each : ∀ number part, parts[number]? = some part →
      Reports (accepts part) (violates number part) (check part)) :
    Reports (∀ part ∈ parts, accepts part) (ViolatesSome violates parts)
      (Checked.all check parts) := by
  induction parts generalizing violates with
  | nil => exact .valid [] (by simp) fun v => not_violatesSome_nil
  | cons part later ih =>
      have rest := ih (fun m n b c v w earlier => order b c (Nat.succ_lt_succ earlier))
        fun number found stands => each (number + 1) found stands
      refine ((each 0 part rfl).map List.cons |>.apply rest ?_).congr ?_ ?_
      · rintro v w wrong ⟨number, found, -, wrong'⟩
        exact order part found (Nat.succ_pos number) wrong wrong'
      · exact List.forall_mem_cons.symm
      · exact fun v => violatesSome_cons.symm

/-- The checks of parts, and then that of one more. -/
theorem Reports.snoc {checked : Checked (α → γ)} {last : Checked α} {part : β} {parts : List β}
    {violates : Nat → β → Violation → Prop} (order : InOrder violates)
    (reports : Reports (∀ b ∈ parts, accepts b) (ViolatesSome violates parts) checked)
    (reportsLast : Reports (accepts part) (violates parts.length part) last) :
    Reports (∀ b ∈ parts ++ [part], accepts b) (ViolatesSome violates (parts ++ [part]))
      (checked.apply last) := by
  refine (reports.apply reportsLast ?_).congr ?_ fun v => violatesSome_append_singleton.symm
  · rintro v w ⟨number, found, stands, wrong⟩ wrong'
    exact order found part (List.getElem?_eq_some_iff.mp stands).1 wrong wrong'
  · rw [List.forall_mem_append, List.forall_mem_singleton]

/-- Violations that are each in their part are told in the order of the parts. -/
theorem inOrder_of_under {violates : Nat → β → Violation → Prop}
    (inPart : ∀ number part v, violates number part v →
      ∃ step, ∃ w : Violation, v = w.under number step) :
    InOrder violates := by
  intro m n b c v w earlier wrong wrong'
  obtain ⟨step, v, rfl⟩ := inPart m b v wrong
  obtain ⟨step', w, rfl⟩ := inPart n c w wrong'
  exact Violation.before_of_lt earlier

end Parts

/-! ### Checks of forms -/

/-- A check is the one of a form. -/
def Form.CheckedBy {α : Type} (form : Form) (check : JsonValue → Checked α) : Prop :=
  ∀ value, Reports (form.Accepts value) (form.Violates value) (check value)

section Forms

variable {α : Type} {form : Form} {check : JsonValue → Checked α}

/-- What becomes of the value does not matter. -/
theorem Form.CheckedBy.map (checked : form.CheckedBy check) {β : Type} (f : α → β) :
    form.CheckedBy fun value => (check value).map f :=
  fun value => (checked value).map f

/-- A text is checked as a string. -/
theorem text_checkedBy : Form.text.CheckedBy checkString := by
  intro value
  cases value with
  | string text => exact .valid text (.text text) fun v => by simp [violates_text_iff]
  | _ => exact .expected nofun fun v => by simp [violates_text_iff]

/-- The text of a flag is checked as a string or a boolean. -/
theorem flagText_checkedBy : Form.flagText.CheckedBy checkFlagText := by
  intro value
  cases value with
  | string text => exact .valid text (.flagText text) fun v => by simp [violates_flagText_iff]
  | bool flag => exact .valid _ (.flagBool flag) fun v => by simp [violates_flagText_iff]
  | _ => exact .expected nofun fun v => by simp [violates_flagText_iff]

/-- A value or null is checked as one. -/
theorem Form.CheckedBy.nullable (checked : form.CheckedBy check) :
    (Form.nullable form).CheckedBy (checkNullable check) := by
  intro value
  by_cases null : value = .null
  · subst null
    exact .valid none (.null form) fun v => by simp [violates_nullable_iff]
  · have given : checkNullable check value = (check value).map some := by
      unfold checkNullable
      split
      · contradiction
      · rfl
    rw [given]
    refine ((checked value).map some).congr ?_ fun v => ?_
    · rw [accepts_nullable_iff, or_iff_right null]
    · rw [violates_nullable_iff, and_iff_right null]

/-! #### Flags -/

/-- A flag has been found. -/
theorem reports_flag {value : JsonValue} (isFlag : IsFlag value) (flag : Bool) :
    Reports (Form.flag.Accepts value) (Form.flag.Violates value) (.valid flag) :=
  .valid flag (.flag isFlag) fun _ wrong => (violates_flag_iff.mp wrong).1 isFlag

/-- A value that is taken for a flag is none. -/
theorem reports_wrongFlag {value : JsonValue} (candidate : IsFlagCandidate value)
    (characters : ¬ HasSurrogate value) (wrong : ¬ IsFlag value) :
    Reports (Form.flag.Accepts value) (Form.flag.Violates value)
      (Checked.expected .boolText : Checked Bool) :=
  .expected (wrong ∘ accepts_flag_iff.mp) fun v => by
    simp [violates_flag_iff, wrong, candidate, characters]

/-- A text with a surrogate is no flag. -/
theorem reports_surrogate {text : Text} (surrogate : text.HasSurrogate) :
    Reports (Form.flag.Accepts (.string text)) (Form.flag.Violates (.string text))
      (Checked.expected .characters : Checked Bool) := by
  have isOne : HasSurrogate (.string text) := .text surrogate
  have wrong := not_isFlag_of_hasSurrogate isOne
  have candidate : IsFlagCandidate (.string text) := .text text
  exact .expected (wrong ∘ accepts_flag_iff.mp) fun v => by
    simp [violates_flag_iff, wrong, candidate, isOne]

/-- A value is not even taken for a flag. -/
theorem reports_noFlag {value : JsonValue} (other : ¬ IsFlagCandidate value)
    (wrong : ¬ IsFlag value) : Reports (Form.flag.Accepts value) (Form.flag.Violates value)
      (Checked.expected .bool : Checked Bool) := by
  have characters : ¬ HasSurrogate value := fun ⟨_⟩ => other (.text _)
  exact .expected (wrong ∘ accepts_flag_iff.mp) fun v => by
    simp [violates_flag_iff, wrong, other, characters]

/-- A number is checked as the integer that it counts as. -/
theorem checkFlagInteger_reports {value : JsonValue} {number : Int}
    (isFlag_iff : IsFlag value ↔ number = 0 ∨ number = 1)
    (isCandidate_iff : IsFlagCandidate value ↔
      -flagNumberLimit ≤ number ∧ number < flagNumberLimit)
    (characters : ¬ HasSurrogate value) :
    Reports (Form.flag.Accepts value) (Form.flag.Violates value) (checkFlagInteger number) := by
  unfold checkFlagInteger
  split
  case isTrue zero => exact reports_flag (isFlag_iff.mpr (.inl zero)) false
  case isFalse notZero =>
    split
    case isTrue one => exact reports_flag (isFlag_iff.mpr (.inr one)) true
    case isFalse notOne =>
      have wrong : ¬ IsFlag value := fun isFlag => (isFlag_iff.mp isFlag).elim notZero notOne
      split
      case isTrue fits => exact reports_wrongFlag (isCandidate_iff.mpr fits) characters wrong
      case isFalse large => exact reports_noFlag (large ∘ isCandidate_iff.mp) wrong

/-- A decimal number is checked as the integer that its double is, if any. -/
theorem checkFlagDecimal_reports (number : Decimal) :
    Reports (Form.flag.Accepts (.decimal number)) (Form.flag.Violates (.decimal number))
      (checkFlagDecimal number) := by
  unfold checkFlagDecimal
  cases whole : number.toBinary64.toNat? with
  | none =>
      exact reports_noFlag (by simp [isFlagCandidate_decimal_iff, whole])
        (by simp [isFlag_decimal_iff, whole])
  | some magnitude =>
      dsimp only
      split
      case isTrue bound =>
        refine checkFlagInteger_reports ?_ (iff_of_true (.decimal whole bound) ?_) nofun
        · rw [isFlag_decimal_iff, whole]
          cases number.negative
          · simp
          · simp
            omega
        · split <;> omega
      case isFalse large =>
        refine reports_noFlag (by simpa [isFlagCandidate_decimal_iff, whole] using large) ?_
        have notSmall : 1 < magnitude := lt_of_lt_of_le (by decide) (not_lt.mp large)
        rw [isFlag_decimal_iff, whole]
        simp
        omega

/-- A flag is checked as a boolean, a word or a number. -/
theorem flag_checkedBy : Form.flag.CheckedBy checkFlag := by
  intro value
  cases value with
  | bool flag => exact reports_flag (.bool flag) flag
  | string text =>
      simp only [checkFlag, checkFlagWord]
      split
      case isTrue known => exact reports_flag (.word (List.mem_append_left _ known)) true
      case isFalse unknown =>
        split
        case isTrue known => exact reports_flag (.word (List.mem_append_right _ known)) false
        case isFalse unknown' =>
          split
          case isTrue characters =>
            have noSurrogate : ¬ HasSurrogate (.string text) := fun ⟨surrogate⟩ => by
              rw [Text.toString?_eq_none_iff.mpr surrogate] at characters
              cases characters
            refine reports_wrongFlag (.text text) noSurrogate fun isFlag => ?_
            exact (List.mem_append.mp (isFlag_string_iff.mp isFlag)).elim unknown unknown'
          case isFalse surrogate =>
            exact reports_surrogate (Text.toString?_eq_none_iff.mp (by simpa using surrogate))
  | integer number =>
      exact checkFlagInteger_reports isFlag_integer_iff isFlagCandidate_integer_iff nofun
  | decimal number => exact checkFlagDecimal_reports number
  | _ => exact reports_noFlag nofun nofun

/-! #### Lists and mappings -/

/-- A list is checked item by item. -/
theorem Form.CheckedBy.list (checked : form.CheckedBy check) :
    (Form.list form).CheckedBy (checkList check) := by
  intro value
  cases value with
  | array items =>
      have inItem : InOrder fun number (part : JsonValue × Nat) v =>
          ∃ w, form.Violates part.1 w ∧ v = w.under number (.index part.2) :=
        inOrder_of_under fun _ part _ ⟨w, _, inPart⟩ => ⟨.index part.2, w, inPart⟩
      refine (Reports.all inItem fun number part _ =>
        (checked part.1).under number (.index part.2)).congr ?_ fun v => ?_
      · rw [accepts_list_iff, ← List.forall_mem_map, List.zipIdx_map_fst]
      · simp [violates_list_iff, ViolatesSome, List.getElem?_zipIdx]
  | _ => exact .expected nofun fun v => violates_list_of_ne nofun

/-- A mapping is checked value by value. -/
theorem Form.CheckedBy.mapping (checked : form.CheckedBy check) :
    (Form.mapping form).CheckedBy (checkMapping check) := by
  intro value
  cases value with
  | object members =>
      have inValue : InOrder fun number (part : Text × JsonValue) v =>
          ∃ w, form.Violates part.2 w ∧ v = w.under number (.field part.1) :=
        inOrder_of_under fun _ part _ ⟨w, _, inPart⟩ => ⟨.field part.1, w, inPart⟩
      exact (Reports.all inValue fun number part _ =>
        ((checked part.2).under number (.field part.1)).map (part.1, ·)).congr
        accepts_mapping_iff.symm fun v => violates_mapping_iff.symm
  | _ => exact .expected nofun fun v => violates_mapping_of_ne nofun

end Forms

/-! ### Checks of fields -/

section Fields

variable {α β : Type} {field : Field} {check : JsonValue → Checked α} {members : Members}

/-- A field that stands in an object is checked by its form. -/
theorem givenField_reports (checked : field.form.CheckedBy check) (number : Nat)
    {value : JsonValue} (stands : members.lookup field.name = some value) :
    Reports (field.AcceptedIn members) (field.ViolatedIn members number)
      ((check value).under (.field field.name)) :=
  ((checked value).under number (.field field.name)).congr (acceptedIn_of_some stands).symm
    fun _ => (violatedIn_of_some stands).symm

/-- A field that has to be present. -/
theorem requiredField_reports (required : field.required = true)
    (checked : field.form.CheckedBy check) (number : Nat) :
    Reports (field.AcceptedIn members) (field.ViolatedIn members number)
      (requiredField members field.name check) := by
  unfold requiredField
  cases stands : members.lookup field.name with
  | some value => exact givenField_reports checked number stands
  | none =>
      have absent : Reports False (· = ⟨[], .present⟩) (Checked.expected .present : Checked α) :=
        .expected id fun v => Iff.rfl
      refine (absent.under number (.field field.name)).congr ?_ fun v => ?_
      · simp [acceptedIn_of_none stands, required]
      · simp [violatedIn_of_none stands, required, Violation.under]

/-- A field that may be left out. -/
theorem optionalField_reports (standard : α) (optional : field.required = false)
    (checked : field.form.CheckedBy check) (number : Nat) :
    Reports (field.AcceptedIn members) (field.ViolatedIn members number)
      (optionalField members field.name standard check) := by
  unfold optionalField
  cases stands : members.lookup field.name with
  | some value => exact givenField_reports checked number stands
  | none =>
      refine .valid standard ((acceptedIn_of_none stands).mpr optional) fun v wrong => ?_
      exact Bool.eq_false_iff.mp optional ((violatedIn_of_none stands).mp wrong).1

/-- Violations of the fields of an object are told in the order of the fields. -/
theorem inOrder_violatedIn :
    InOrder fun number (field : Field) v => field.ViolatedIn members number v := by
  apply inOrder_of_under
  intro number field v wrong
  cases stands : members.lookup field.name with
  | some value =>
      obtain ⟨w, -, inField⟩ := (violatedIn_of_some stands).mp wrong
      exact ⟨.field field.name, w, inField⟩
  | none => exact ⟨.field field.name, ⟨[], .present⟩, ((violatedIn_of_none stands).mp wrong).2⟩

/-- A check tells what is wrong with some of the fields of an object. -/
def ReportsFields (members : Members) (fields : List Field) (checked : Checked α) : Prop :=
  Reports (∀ field ∈ fields, field.AcceptedIn members)
    (ViolatesSome (fun number field v => field.ViolatedIn members number v) fields) checked

/-- The first field. -/
theorem ReportsFields.first {checked : Checked α} (f : α → β)
    (reports : ∀ number, Reports (field.AcceptedIn members) (field.ViolatedIn members number)
      checked) :
    ReportsFields members [field] (f <$> checked) := by
  refine ((reports 0).map f).congr List.forall_mem_singleton.symm fun v => ?_
  rw [violatesSome_cons, or_iff_left not_violatesSome_nil]

/-- One more field. -/
theorem ReportsFields.snoc {fields : List Field} {checked : Checked (α → β)} {last : Checked α}
    (reports : ReportsFields members fields checked)
    (reportsLast : ∀ number, Reports (field.AcceptedIn members) (field.ViolatedIn members number)
      last) :
    ReportsFields members (fields ++ [field]) (checked <*> last) :=
  Reports.snoc inOrder_violatedIn reports (reportsLast fields.length)

/-- An object of a model is checked by its fields. -/
theorem model_checkedBy {model : Model} {check : Members → Checked α}
    (reports : ∀ members, ReportsFields members model.fields (check members)) :
    (Form.model model).CheckedBy (checkModel model.name check) := by
  intro value
  cases value with
  | object members =>
      exact (reports members).congr accepts_model_iff.symm fun v => violates_model_iff.symm
  | _ => exact .expected nofun fun v => violates_model_of_ne nofun

end Fields

/-! ### The models -/

/-- The fields of a dependency. -/
theorem DependencyEntry.ofMembers_reports (members : Members) :
    ReportsFields members Model.dependency.fields (DependencyEntry.ofMembers members) := by
  have trimmed : Form.text.CheckedBy checkTrimmed := text_checkedBy.map trimBlanks
  have text := text_checkedBy.nullable
  exact .snoc (.snoc (.snoc (.snoc (.snoc (.snoc (.snoc (.snoc (.snoc (.snoc (.first
    DependencyEntry.mk
    (requiredField_reports rfl trimmed))
    (requiredField_reports rfl trimmed))
    (requiredField_reports rfl trimmed))
    (optionalField_reports none rfl text))
    (optionalField_reports none rfl text))
    (optionalField_reports none rfl text))
    (optionalField_reports none rfl text))
    (optionalField_reports none rfl flag_checkedBy.nullable))
    (optionalField_reports none rfl text))
    (optionalField_reports none rfl text))
    (optionalField_reports true rfl flag_checkedBy)

/-- A dependency is checked as its grammar says. -/
theorem DependencyEntry.checkedBy : (Form.model .dependency).CheckedBy DependencyEntry.check :=
  model_checkedBy DependencyEntry.ofMembers_reports

/-- The fields of the instructions. -/
theorem Instructions.ofMembers_reports (members : Members) :
    ReportsFields members Model.instructions.fields (Instructions.ofMembers members) := by
  have attributes := flagText_checkedBy.mapping.nullable
  have flag := flagText_checkedBy.nullable
  exact .snoc (.snoc (.snoc (.snoc (.first
    Instructions.mk
    (optionalField_reports none rfl attributes.mapping.nullable))
    (optionalField_reports none rfl text_checkedBy.nullable))
    (optionalField_reports _ rfl flag))
    (optionalField_reports _ rfl flag))
    (optionalField_reports _ rfl flag)

/-- The instructions are checked as their grammar says. -/
theorem Instructions.checkedBy : (Form.model .instructions).CheckedBy Instructions.check :=
  model_checkedBy Instructions.ofMembers_reports

/-- The fields of a descriptor. -/
theorem Descriptor.ofMembers_reports (members : Members) :
    ReportsFields members Model.descriptor.fields (Descriptor.ofMembers members) :=
  .snoc (.snoc (.first
    Descriptor.mk
    (optionalField_reports [] rfl DependencyEntry.checkedBy.list))
    (optionalField_reports Instructions.standard rfl Instructions.checkedBy))
    (optionalField_reports [] rfl text_checkedBy.nullable.mapping)

/-- A descriptor is checked as its grammar says. -/
theorem Descriptor.checkedBy : (Form.model .descriptor).CheckedBy Descriptor.check :=
  model_checkedBy Descriptor.ofMembers_reports

/-- A value is a descriptor exactly when it is of its grammar, and every violation of the
grammar is reported, each once, with its place and what is expected there, in the order of
the fields and of the parts. -/
theorem Descriptor.check_isExact (value : JsonValue) :
    ((∃ descriptor, Descriptor.check value = .valid descriptor) ↔
        (Form.model .descriptor).Accepts value) ∧
      (¬ (Form.model .descriptor).Accepts value →
        ∃ violations, violations ≠ [] ∧
          IsListing ((Form.model .descriptor).Violates value) Violation.before violations ∧
          Descriptor.check value = .invalid (violations.map Violation.fault)) := by
  have reports := Descriptor.checkedBy value
  exact ⟨reports.exists_valid_iff, reports.exists_listing⟩

-- The order is that of the model: the instructions come after the dependencies.
example : Descriptor.check (.object [
      ("instructions", .object [("embed_directory", .integer 1)]),
      ("dependencies", .array [.object [("group_id", .string "g")]])]) =
    .invalid [
      ⟨[.field "dependencies", .index 0, .field "artifact_id"], .present⟩,
      ⟨[.field "dependencies", .index 0, .field "version"], .present⟩,
      ⟨[.field "instructions", .field "embed_directory"], .string⟩] := by
  decide +kernel

end BundleEmbed
