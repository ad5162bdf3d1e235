import BundleEmbed.Json.Read
import BundleEmbed.Proofs.Reader
import BundleEmbed.Proofs.Runs

/-!
Integers with too many digits in a JSON text.

There are two ways to refuse a text: it is malformed at a place, or an integer in it has more
digits than are read (`JsonText.Refusal`). The second one is to be blamed on the text: the
digits stand in it one after the other.

* `readParts_leaves`: what is read leaves an end of the text, and what refuses it is in the text
  before.
* `exists_digits_of_read`: a text that is refused for too many digits holds them.
* `readUnsigned_of_run`: an integer is read up to what follows it, or refused for its digits.
* `read_of_digits`: a text that is an integer with too many digits is refused for that.
-/

namespace BundleEmbed.JsonText

/-- What a refusal is due to in a text: a refusal for too many digits, to these digits. -/
def Refusal.IsDueTo (text : List Char) : Refusal → Prop
  | .malformed _ => True
  | .tooManyDigits digits => digitLimit < digits ∧
      ∃ run, RunIn Char.isDigit text run ∧ run.length = digits

section Steps

variable {whole text rest : List Char}

/-- What follows blanks is an end of the text. -/
theorem skipSpace_suffix (text : List Char) : skipSpace text <:+ text := List.dropWhile_suffix _

theorem faultBefore_leaves {α : Type} (rest : List Char) (cause : Cause) :
    Leaves Refusal.IsDueTo whole
      (faultBefore rest cause : Except Refusal (α × List Char)) := trivial

/-! ### Strings -/

theorem readUnit_leaves (inside : text <:+ whole) :
    Leaves Refusal.IsDueTo whole (readUnit text) := by
  unfold readUnit
  split
  · split
    · exact .trans ⟨[_, _, _, _, _], rfl⟩ inside
    · exact faultBefore_leaves _ _
  · exact faultBefore_leaves _ _

theorem readUnicode_leaves (inside : text <:+ whole) :
    Leaves Refusal.IsDueTo whole (readUnicode text) := by
  refine (readUnit_leaves inside).bind ?_
  rintro ⟨unit, rest⟩ restInside
  dsimp only
  split
  · split
    · refine (readUnit_leaves (suffix_of_cons_suffix restInside)).bind ?_
      rintro ⟨low, after⟩ afterInside
      dsimp only
      split
      · exact afterInside
      · exact restInside
    · exact restInside
  · exact restInside

theorem readString_leaves (start : List Char) (fuel : Nat) (inside : text <:+ whole) :
    Leaves Refusal.IsDueTo whole (readString start fuel text) := by
  induction fuel generalizing text with
  | zero => cases text <;> exact faultBefore_leaves _ _
  | succ fuel ih =>
      cases text with
      | nil => exact faultBefore_leaves _ _
      | cons c rest =>
          have restInside : rest <:+ whole := suffix_of_cons_suffix inside
          rw [readString.eq_def]
          dsimp only
          split_ifs
          · exact restInside
          · split
            · exact faultBefore_leaves _ _
            · refine (readUnicode_leaves restInside).bind ?_
              rintro ⟨c, rest⟩ restInside
              exact (ih restInside).bind fun _ after => after
            · split
              · exact faultBefore_leaves _ _
              · exact (ih (suffix_of_cons_suffix restInside)).bind fun _ after => after
          · exact faultBefore_leaves _ _
          · exact (ih restInside).bind fun _ after => after

theorem readText_leaves (start : List Char) (inside : rest <:+ whole) :
    Leaves Refusal.IsDueTo whole (readText start rest) :=
  (readString_leaves start rest.length inside).bind fun _ laterInside => laterInside

/-! ### Numbers -/

/-- The digits at the start of a text are a run of digits, and the rest follows them. -/
theorem spanDigits_eq {digits : List Char} (spanned : spanDigits text = (digits, rest)) :
    digits ++ rest = text ∧ ∀ c ∈ digits, c.isDigit = true := by
  rw [spanDigits, List.span_eq_takeWhile_dropWhile, Prod.mk.injEq] at spanned
  obtain ⟨rfl, rfl⟩ := spanned
  exact ⟨List.takeWhile_append_dropWhile, fun _ => List.mem_takeWhile_imp⟩

theorem readInteger_eq {digits : List Char} (isRead : readInteger text = some (digits, rest)) :
    digits ++ rest = text ∧ ∀ c ∈ digits, c.isDigit = true := by
  unfold readInteger at isRead
  split at isRead
  · cases isRead
    exact ⟨rfl, by simp⟩
  · split at isRead
    · cases isRead
    · exact spanDigits_eq (Option.some.inj isRead)

/-- What follows digits is an end of the text. -/
theorem spanDigits_suffix (text : List Char) : (spanDigits text).2 <:+ text :=
  ⟨_, (spanDigits_eq rfl).1⟩

theorem readFraction_suffix (text : List Char) : (readFraction text).2 <:+ text := by
  unfold readFraction
  split
  · split
    · exact List.suffix_rfl
    · exact (spanDigits_suffix _).trans (List.suffix_cons _ _)
  · exact List.suffix_rfl

theorem readExponent_suffix {power : Int} (isRead : readExponent text = some (power, rest)) :
    rest <:+ text := by
  unfold readExponent at isRead
  split at isRead
  · cases isRead
  · rename_i e unsigned
    split at isRead
    · -- the sign, if there is one
      split at isRead
      rename_i negative digits signed
      have afterSign : digits <:+ unsigned := by
        split at signed <;> cases signed
        · exact List.suffix_cons _ _
        · exact List.suffix_cons _ _
        · exact List.suffix_rfl
      split at isRead
      · cases isRead
      · rename_i spanned
        cases isRead
        exact .trans ⟨_, (spanDigits_eq spanned).1⟩ (afterSign.trans (List.suffix_cons _ _))
    · cases isRead

theorem readUnsigned_leaves {negative : Bool} (inside : text <:+ whole)
    {found : Except Refusal (JsonValue × List Char)}
    (isRead : readUnsigned negative text = some found) :
    Leaves Refusal.IsDueTo whole found := by
  simp only [readUnsigned, Option.bind_eq_bind, Option.bind_eq_some_iff] at isRead
  obtain ⟨⟨digits, rest⟩, integer, isRead⟩ := isRead
  obtain ⟨split, isDigits⟩ := readInteger_eq integer
  have restInside : rest <:+ whole := .trans ⟨digits, split⟩ inside
  have afterFraction := (readFraction_suffix rest).trans restInside
  split at isRead
  · split at isRead
    · rename_i long
      cases isRead
      have isRun : digits <:+: text := by
        rw [← split]
        exact (List.prefix_append _ _).isInfix
      exact ⟨long, digits, ⟨isRun.trans inside.isInfix, isDigits⟩, rfl⟩
    · cases isRead
      exact afterFraction
  · cases isRead
    change ((readExponent (readFraction rest).2).getD (0, (readFraction rest).2)).2 <:+ whole
    cases exponent : readExponent (readFraction rest).2 with
    | none => exact afterFraction
    | some found => exact (readExponent_suffix exponent).trans afterFraction

theorem readNumber_leaves (inside : text <:+ whole) :
    Leaves Refusal.IsDueTo whole (readNumber text) := by
  have unsigned : ∀ {negative : Bool} {rest : List Char}, rest <:+ whole →
      Leaves Refusal.IsDueTo whole
        ((readUnsigned negative rest).getD (faultBefore text .expectingValue)) := by
    intro negative rest restInside
    cases isRead : readUnsigned negative rest with
    | none => exact faultBefore_leaves _ _
    | some found => exact readUnsigned_leaves restInside isRead
  unfold readNumber
  dsimp only
  split
  · exact unsigned (suffix_of_cons_suffix inside)
  · exact unsigned inside

/-! ### Values -/

theorem readWord_suffix {value : JsonValue} (isRead : readWord text = some (value, rest)) :
    rest <:+ text := by
  obtain ⟨⟨word, value'⟩, -, found⟩ := List.exists_of_findSome?_eq_some isRead
  dsimp only at found
  split_ifs at found
  cases found
  exact List.drop_suffix _ _

/-- A value, the members of an object and the items of an array leave an end of the text, and
what refuses one of them is in the text before. -/
theorem readParts_leaves (whole : List Char) (fuel : Nat) :
    (∀ text, text <:+ whole → Leaves Refusal.IsDueTo whole (readValue fuel text)) ∧
      (∀ text, text <:+ whole → Leaves Refusal.IsDueTo whole (readMembers fuel text)) ∧
      ∀ text, text <:+ whole → Leaves Refusal.IsDueTo whole (readItems fuel text) := by
  induction fuel with
  | zero =>
      refine ⟨fun text _ => ?_, fun text _ => ?_, fun text _ => ?_⟩
      · rw [readValue]
        exact faultBefore_leaves _ _
      · rw [readMembers]
        exact faultBefore_leaves _ _
      · rw [readItems]
        exact faultBefore_leaves _ _
  | succ fuel ih =>
      obtain ⟨value, members, items⟩ := ih
      have afterFirst : ∀ {c : Char} {rest : List Char}, c :: rest <:+ whole → rest <:+ whole :=
        suffix_of_cons_suffix
      have afterSpace : ∀ {rest : List Char}, rest <:+ whole → skipSpace rest <:+ whole :=
        (skipSpace_suffix _).trans
      refine ⟨fun text inside => ?_, fun text inside => ?_, fun text inside => ?_⟩
      · rw [readValue.eq_def]
        dsimp only
        split
        · exact (readText_leaves _ (afterFirst inside)).bind fun _ after => after
        · have restInside := afterSpace (afterFirst inside)
          split
          · rename_i skipped
            exact afterFirst (skipped ▸ restInside)
          · exact (members _ restInside).bind fun _ after => after
        · have restInside := afterSpace (afterFirst inside)
          split
          · rename_i skipped
            exact afterFirst (skipped ▸ restInside)
          · exact (items _ restInside).bind fun _ after => after
        · split
          · rename_i isRead
            exact (readWord_suffix isRead).trans inside
          · exact readNumber_leaves inside
      · rw [readMembers.eq_def]
        dsimp only
        split
        · refine (readText_leaves _ (afterFirst inside)).bind ?_
          rintro ⟨name, rest⟩ restInside
          dsimp only
          split
          · rename_i colon
            have valueInside := afterSpace (afterFirst (colon ▸ afterSpace restInside))
            refine (value _ valueInside).bind ?_
            rintro ⟨found, rest⟩ restInside
            dsimp only
            split
            · rename_i skipped
              exact afterFirst (skipped ▸ afterSpace restInside)
            · rename_i skipped
              have laterInside := afterSpace (afterFirst (skipped ▸ afterSpace restInside))
              exact (members _ laterInside).bind fun _ after => after
            · exact faultBefore_leaves _ _
          · exact faultBefore_leaves _ _
        · exact faultBefore_leaves _ _
      · rw [readItems.eq_def]
        dsimp only
        refine (value _ inside).bind ?_
        rintro ⟨item, rest⟩ restInside
        dsimp only
        split
        · rename_i skipped
          exact afterFirst (skipped ▸ afterSpace restInside)
        · rename_i skipped
          have laterInside := afterSpace (afterFirst (skipped ▸ afterSpace restInside))
          exact (items _ laterInside).bind fun _ after => after
        · exact faultBefore_leaves _ _

end Steps

/-- What refuses a text is in the text. -/
theorem read_isDueTo (text : List Char) :
    Gives (Refusal.IsDueTo text) (fun _ => True) (read text) := by
  unfold read
  split
  · trivial
  · refine ((readParts_leaves text _).1 _ (skipSpace_suffix text)).bind ?_
    rintro ⟨value, rest⟩ -
    dsimp only
    split <;> exact trivial

/-- A text that is refused for an integer with too many digits holds these digits. -/
theorem exists_digits_of_read {text : List Char} {digits : Nat}
    (refused : read text = .error (.tooManyDigits digits)) :
    digitLimit < digits ∧
      ∃ run, RunIn Char.isDigit text run ∧ run.length = digits :=
  (read_isDueTo text).allowed_of_eq_error refused

/-! ### Integers -/

/-- A digit is none of the characters that are no digits. -/
theorem ne_of_isDigit {c other : Char} (isDigit : c.isDigit = true)
    (noDigit : other.isDigit = false) : c ≠ other := by
  rintro rfl
  rw [isDigit] at noDigit
  cases noDigit

/-- A digit is no blank. -/
theorem isSpace_of_isDigit {c : Char} (isDigit : c.isDigit = true) : isSpace c = false := by
  have noDigit : ∀ blank ∈ [' ', '\t', '\n', '\r'], blank.isDigit = false := by simp
  have differs : ∀ blank ∈ [' ', '\t', '\n', '\r'], c ≠ blank := fun blank isBlank =>
    ne_of_isDigit isDigit (noDigit blank isBlank)
  simp [isSpace, differs]

/-- No word starts with a digit. -/
theorem readWord_of_isDigit {c : Char} (isDigit : c.isDigit = true) (rest : List Char) :
    readWord (c :: rest) = none := by
  have starts : ∀ word ∈ words, (word.1.headD '0').isDigit = false := by decide +kernel
  refine List.findSome?_eq_none_iff.mpr fun ⟨word, value⟩ isWord => ?_
  have noDigit := starts _ isWord
  cases word with
  | nil => cases noDigit
  | cons first later =>
      have differ : (first == c) = false := beq_false_of_ne (ne_of_isDigit isDigit noDigit).symm
      simp [List.isPrefixOf, differ]

/-- What starts with a digit is read as a number. -/
theorem readValue_of_isDigit {c : Char} (isDigit : c.isDigit = true) (rest : List Char)
    (fuel : Nat) : readValue (fuel + 1) (c :: rest) =
      (readUnsigned false (c :: rest)).getD (faultBefore (c :: rest) .expectingValue) := by
  have differs : ∀ {other : Char}, other.isDigit = false → c ≠ other := ne_of_isDigit isDigit
  have number : readNumber (c :: rest) = (readUnsigned false (c :: rest)).getD
      (faultBefore (c :: rest) .expectingValue) := by
    unfold readNumber
    split
    · rename_i same
      exact absurd (List.cons.inj same).1 (differs (by decide))
    · rfl
  rw [readValue.eq_def]
  dsimp only
  split
  · rename_i same
    exact absurd (List.cons.inj same).1 (differs (by decide))
  · rename_i same
    exact absurd (List.cons.inj same).1 (differs (by decide))
  · rename_i same
    exact absurd (List.cons.inj same).1 (differs (by decide))
  · rw [readWord_of_isDigit isDigit]
    exact number

/-- What follows does not go on with a number. -/
def EndsNumber (rest : List Char) : Prop :=
  ∀ c ∈ rest.head?, c.isDigit = false ∧ c ≠ '.' ∧ c ≠ 'e' ∧ c ≠ 'E'

/-- An integer without needless zeros is read up to what follows it, unless it has too many
digits. -/
theorem readUnsigned_of_run {run rest : List Char} (isRun : ∀ c ∈ run, c.isDigit = true)
    (plain : run = ['0'] ∨ run ≠ [] ∧ run.head? ≠ some '0') (ends : EndsNumber rest)
    (negative : Bool) :
    readUnsigned negative (run ++ rest) =
      some (
        if digitLimit < run.length then .error (.tooManyDigits run.length)
        else
          let number : Int := numberOf 10 run
          .ok (.integer (if negative then -number else number), rest)) := by
  have spanned : spanDigits (run ++ rest) = (run, rest) := by
    have ended : rest.takeWhile Char.isDigit = [] ∧ rest.dropWhile Char.isDigit = rest := by
      cases rest with
      | nil => exact ⟨rfl, rfl⟩
      | cons c rest => simp [(ends c rfl).1]
    rw [spanDigits, List.span_eq_takeWhile_dropWhile, List.takeWhile_append_of_pos isRun,
      List.dropWhile_append_of_pos isRun, ended.1, ended.2, List.append_nil]
  have integer : readInteger (run ++ rest) = some (run, rest) := by
    rcases plain with rfl | ⟨notEmpty, noZero⟩
    · rfl
    · obtain ⟨c, digits, rfl⟩ := List.exists_cons_of_ne_nil notEmpty
      unfold readInteger
      split
      · rename_i same
        exact absurd (congrArg some (List.cons.inj same).1) noZero
      · rw [spanned]
  have fraction : readFraction rest = ([], rest) := by
    unfold readFraction
    split
    · exact absurd rfl (ends '.' rfl).2.1
    · rfl
  have exponent : readExponent rest = none := by
    unfold readExponent
    split
    · rfl
    · rename_i e rest
      exact if_neg fun either => either.elim (ends e rfl).2.2.1 (ends e rfl).2.2.2
  simp only [readUnsigned, integer, Option.bind_eq_bind, Option.bind_some, fraction, exponent,
    and_self, if_true]
  split_ifs <;> rfl

/-- A text that is an integer with too many digits is refused for that. -/
theorem read_of_digits {run : List Char} (isRun : ∀ c ∈ run, c.isDigit = true)
    (noZero : run.head? ≠ some '0') (long : digitLimit < run.length) :
    read run = .error (.tooManyDigits run.length) := by
  cases run with
  | nil => cases long
  | cons c rest =>
      have isDigit : c.isDigit = true := isRun c List.mem_cons_self
      have noMark : (c :: rest).head? ≠ some '\ufeff' := fun same =>
        ne_of_isDigit isDigit (by decide) (Option.some.inj same)
      have noSpace : skipSpace (c :: rest) = c :: rest :=
        List.dropWhile_cons_of_neg (by simp [isSpace_of_isDigit isDigit])
      have noMore : EndsNumber [] := nofun
      have isRead := readUnsigned_of_run isRun (.inr ⟨List.cons_ne_nil c rest, noZero⟩) noMore
        false
      rw [List.append_nil, if_pos long] at isRead
      rw [read, if_neg noMark, noSpace, readValue_of_isDigit isDigit, isRead]
      rfl

end BundleEmbed.JsonText
