import BundleEmbed.Json.Read
import BundleEmbed.Proofs.Reader

/-!
Surrogates that are halves of a pair.

The two halves of a pair, written one after the other, are read as one character. So a text is
read back from what is written for it only if no two halves stand one after the other in it.
This holds of every text that has been read, and it is kept where texts are cut, and where
characters are put between them.

* `Unpaired.part`, `Unpaired.append_cons`: parts of a text, and texts with a character between.
* `readString_unpaired`: what is read as a string has no pairs.
* `JsonValue.IsUnpaired.of_read`: nor has any text in a value that is read.
-/

namespace BundleEmbed

/-! ### Pairs -/

/-- Two signs are the halves of a pair. -/
def Sign.IsPair (first second : Sign) : Prop :=
  JsonText.isHighUnit first.toNat = true ∧ JsonText.isLowUnit second.toNat = true

/-- No two halves of a pair stand one after the other. -/
def Unpaired (signs : List Sign) : Prop :=
  signs.IsChain fun first second => ¬ first.IsPair second

/-- A character has a code point that is no unit of a pair. -/
theorem toNat_cases (c : Char) :
    c.toNat < 0xd800 ∨ 0xdfff < c.toNat ∧ c.toNat < 0x110000 := c.valid

/-- A character has a code point that is no first unit of a pair. -/
theorem not_isHighUnit_toNat (c : Char) : JsonText.isHighUnit c.toNat = false := by
  have unpaired := toNat_cases c
  simp only [JsonText.isHighUnit, Bool.and_eq_false_iff, decide_eq_false_iff_not]
  omega

/-- A character has a code point that is no second unit of a pair. -/
theorem not_isLowUnit_toNat (c : Char) : JsonText.isLowUnit c.toNat = false := by
  have unpaired := toNat_cases c
  simp only [JsonText.isLowUnit, Bool.and_eq_false_iff, decide_eq_false_iff_not]
  omega

/-- A character is not the first half of a pair. -/
theorem Sign.not_isPair_char_left (c : Char) (second : Sign) : ¬ (char c).IsPair second :=
  fun isPair => Bool.false_ne_true ((not_isHighUnit_toNat c).symm.trans isPair.1)

/-- A character is not the second half of a pair. -/
theorem Sign.not_isPair_char_right (first : Sign) (c : Char) : ¬ first.IsPair (char c) :=
  fun isPair => Bool.false_ne_true ((not_isLowUnit_toNat c).symm.trans isPair.2)

namespace Unpaired

variable {first second : List Sign}

theorem nil : Unpaired [] := List.IsChain.nil

/-- Characters are no halves of pairs. -/
theorem characters (chars : List Char) : Unpaired (chars.map .char) :=
  (List.isChain_map _).mpr (List.Pairwise.isChain
    (List.pairwise_of_forall fun c d => Sign.not_isPair_char_left c (.char d)))

/-- A part of a text has no pairs but those of the text. -/
theorem part (unpaired : Unpaired second) (inside : first <:+: second) : Unpaired first :=
  List.IsChain.infix unpaired inside

/-- A character between two texts keeps them apart. -/
theorem append_cons (unpaired : Unpaired first) (unpaired' : Unpaired second) (c : Char) :
    Unpaired (first ++ .char c :: second) := by
  have after : Unpaired (.char c :: second) :=
    List.isChain_cons.mpr ⟨fun sign _ => Sign.not_isPair_char_left c sign, unpaired'⟩
  refine List.isChain_append.mpr ⟨unpaired, after, fun sign _ next isNext => ?_⟩
  obtain rfl : .char c = next := Option.some.inj isNext
  exact Sign.not_isPair_char_right sign c

end Unpaired

namespace JsonText

/-! ### Strings -/

/-- What follows a unit is not another one that is a second half of a pair. -/
def NoLowUnit (rest : List Char) : Prop :=
  ∀ text, rest = '\\' :: 'u' :: text →
    ∃ unit after, readUnit ('u' :: text) = .ok (unit, after) ∧ isLowUnit unit = false

/-- Four digits write a unit of sixteen bits. -/
theorem lt_of_readUnit {text rest : List Char} {unit : Nat}
    (isRead : readUnit text = .ok (unit, rest)) : unit < 0x10000 := by
  unfold readUnit at isRead
  split at isRead
  · split at isRead
    · rename_i a b c d _ digits
      have bound : numberOf 16 [a, b, c, d] < 16 ^ 4 := numberOf_lt (List.all_eq_true.mp digits.1)
      cases isRead
      simpa using bound
    · cases isRead
  · cases isRead

/-- A sign that an escape with units writes is the second half of a pair only if the escape is,
and what follows the first half of a pair is no second one. -/
theorem readUnicode_alone {text rest : List Char} {sign : Sign}
    (isRead : readUnicode text = .ok (sign, rest)) :
    (isLowUnit sign.toNat = true → ∃ unit after,
        readUnit text = .ok (unit, after) ∧ isLowUnit unit = true) ∧
      (isHighUnit sign.toNat = true → NoLowUnit rest) := by
  obtain ⟨⟨unit, after⟩, first, isRead⟩ := bind_eq_ok_iff.mp isRead
  have same : (Sign.ofNat unit).toNat = unit :=
    Sign.toNat_ofNat ((lt_of_readUnit first).trans (by decide))
  dsimp only at isRead
  split at isRead
  · rename_i second starts
    split at isRead
    · obtain ⟨⟨low, last⟩, isSecond, isRead⟩ := bind_eq_ok_iff.mp isRead
      dsimp only at isRead
      split at isRead
      · -- the two halves make a character
        cases isRead
        simp [not_isHighUnit_toNat, not_isLowUnit_toNat]
      · rename_i notLow
        cases isRead
        rw [same]
        refine ⟨fun isLow => ⟨unit, _, first, isLow⟩, fun _ text starts => ?_⟩
        cases starts
        exact ⟨low, last, isSecond, Bool.eq_false_iff.mpr notLow⟩
    · rename_i notHigh
      cases isRead
      rw [same]
      exact ⟨fun isLow => ⟨unit, _, first, isLow⟩, fun isHigh => absurd isHigh notHigh⟩
  · rename_i noEscape
    cases isRead
    rw [same]
    exact ⟨fun isLow => ⟨unit, _, first, isLow⟩, fun _ text starts => absurd starts (noEscape text)⟩

/-- A sign that units write makes no pair with what is read after it. -/
theorem unpaired_cons_of_readUnicode {text rest : List Char} {sign : Sign} {later : List Sign}
    (isSign : readUnicode text = .ok (sign, rest)) (unpaired : Unpaired later)
    (starts : NoLowUnit rest → ∀ first ∈ later.head?, isLowUnit first.toNat = false) :
    Unpaired (sign :: later) := by
  refine List.isChain_cons.mpr ⟨fun first isFirst isPair => ?_, unpaired⟩
  have notLow := starts ((readUnicode_alone isSign).2 isPair.1) first isFirst
  exact Bool.false_ne_true (notLow.symm.trans isPair.2)

/-- It is not the second half of a pair where the text does not start with one. -/
theorem not_isLowUnit_of_readUnicode {text rest : List Char} {sign : Sign}
    (isSign : readUnicode ('u' :: text) = .ok (sign, rest))
    (noLow : NoLowUnit ('\\' :: 'u' :: text)) : isLowUnit sign.toNat = false := by
  refine Bool.eq_false_iff.mpr fun isLow => ?_
  obtain ⟨unit, after, isUnit, isLow⟩ := (readUnicode_alone isSign).1 isLow
  obtain ⟨unit', after', isUnit', notLow⟩ := noLow text rfl
  cases isUnit.symm.trans isUnit'
  exact Bool.false_ne_true (notLow.symm.trans isLow)

/-- What is read as a string has no pairs. Its first sign is the second half of one only if the
text starts with the escape of one. -/
theorem readString_unpaired {start : List Char} {fuel : Nat} {text rest : List Char}
    {signs : List Sign} (isRead : readString start fuel text = .ok (signs, rest)) :
    Unpaired signs ∧
      (NoLowUnit text → ∀ first ∈ signs.head?, isLowUnit first.toNat = false) := by
  -- a character in front of what is read later
  have character {c : Char} {text : List Char} {later : List Sign}
      (isLater : Unpaired later) : Unpaired (.char c :: later) ∧ (NoLowUnit text →
        ∀ first ∈ (Sign.char c :: later).head?, isLowUnit first.toNat = false) := by
    refine ⟨List.isChain_cons.mpr ⟨fun sign _ => Sign.not_isPair_char_left c sign, isLater⟩, ?_⟩
    rintro - first isFirst
    cases isFirst
    exact not_isLowUnit_toNat c
  induction fuel generalizing text signs with
  | zero => cases text <;> cases isRead
  | succ fuel ih =>
      cases text with
      | nil => cases isRead
      | cons c text =>
          rw [readString.eq_def] at isRead
          dsimp only at isRead
          split_ifs at isRead with quote backslash control
          · cases isRead
            exact ⟨Unpaired.nil, fun _ _ isFirst => nomatch isFirst⟩
          · split at isRead
            · cases isRead
            · obtain ⟨⟨sign, after⟩, isSign, isRead⟩ := bind_eq_ok_iff.mp isRead
              obtain ⟨⟨later, _⟩, isLater, isRead⟩ := bind_eq_ok_iff.mp isRead
              cases isRead
              obtain ⟨unpaired, starts⟩ := ih isLater
              refine ⟨unpaired_cons_of_readUnicode isSign unpaired starts, ?_⟩
              intro noLow first isFirst
              cases isFirst
              exact not_isLowUnit_of_readUnicode isSign (backslash ▸ noLow)
            · split at isRead
              · cases isRead
              · obtain ⟨⟨later, _⟩, isLater, isRead⟩ := bind_eq_ok_iff.mp isRead
                cases isRead
                exact character (ih isLater).1
          · cases isRead
          · obtain ⟨⟨later, _⟩, isLater, isRead⟩ := bind_eq_ok_iff.mp isRead
            cases isRead
            exact character (ih isLater).1

theorem gives_readText (start rest : List Char) :
    Gives (fun _ => True) (fun found => Unpaired found.1.toList) (readText start rest) := by
  unfold readText
  cases isRead : readString start rest.length rest with
  | error refusal => trivial
  | ok found => exact (readString_unpaired isRead).1

end JsonText

/-! ### Values -/

/-- A text stands in a value, where a value is expected. -/
inductive JsonValue.HasText (text : Text) : JsonValue → Prop
  | here : HasText text (.string text)
  | item {items : List JsonValue} {item : JsonValue} (isItem : item ∈ items)
      (inside : HasText text item) : HasText text (.array items)
  | member {members : List (Text × JsonValue)} {member : Text × JsonValue}
      (isMember : member ∈ members) (inside : HasText text member.2) :
      HasText text (.object members)

/-- No text in a value has two halves of a pair one after the other. -/
def JsonValue.IsUnpaired (value : JsonValue) : Prop :=
  ∀ text, value.HasText text → Unpaired text.toList

namespace JsonValue

theorem isUnpaired_string {text : Text} (unpaired : Unpaired text.toList) :
    (JsonValue.string text).IsUnpaired := by
  rintro _ ⟨⟩
  exact unpaired

theorem isUnpaired_array_iff {items : List JsonValue} :
    (JsonValue.array items).IsUnpaired ↔ ∀ item ∈ items, item.IsUnpaired := by
  constructor
  · exact fun unpaired item isItem text inside => unpaired text (.item isItem inside)
  · rintro unpaired text (_ | ⟨isItem, inside⟩)
    exact unpaired _ isItem text inside

theorem isUnpaired_object_iff {members : List (Text × JsonValue)} :
    (JsonValue.object members).IsUnpaired ↔ ∀ member ∈ members, member.2.IsUnpaired := by
  constructor
  · exact fun unpaired member isMember text inside => unpaired text (.member isMember inside)
  · rintro unpaired text (_ | _ | ⟨isMember, inside⟩)
    exact unpaired _ isMember text inside

namespace IsUnpaired

/-- A number has no text in it. -/
theorem of_readNumber (text : List Char) :
    Gives (fun _ => True) (fun found => found.1.IsUnpaired) (JsonText.readNumber text) := by
  have unsigned (negative : Bool) (rest : List Char) :
      Gives (fun _ => True) (fun found => found.1.IsUnpaired)
        ((JsonText.readUnsigned negative rest).getD
          (JsonText.faultBefore text .expectingValue)) := by
    cases isRead : JsonText.readUnsigned negative rest with
    | none => trivial
    | some found =>
        simp only [JsonText.readUnsigned, Option.bind_eq_bind, Option.bind_eq_some_iff] at isRead
        obtain ⟨digits, -, isRead⟩ := isRead
        split at isRead
        · split at isRead
          · cases isRead
            trivial
          · cases isRead
            exact fun _ inside => nomatch inside
        · cases isRead
          exact fun _ inside => nomatch inside
  unfold JsonText.readNumber
  dsimp only
  split
  · exact unsigned _ _
  · exact unsigned _ _

/-- Nor has a word. -/
theorem of_readWord {text rest : List Char} {value : JsonValue}
    (isRead : JsonText.readWord text = some (value, rest)) : value.IsUnpaired := by
  obtain ⟨⟨word, value'⟩, isWord, found⟩ := List.exists_of_findSome?_eq_some isRead
  dsimp only at found
  split_ifs at found
  cases found
  have noText : ∀ word ∈ JsonText.words, word.2.IsUnpaired := by
    simp only [JsonText.words, List.forall_mem_cons]
    exact ⟨nofun, nofun, nofun, nofun, nofun, nofun, nofun⟩
  exact noText _ isWord

/-- In a value that is read, in the members of an object and in the items of an array no text has
pairs. -/
theorem of_readParts (fuel : Nat) :
    (∀ text, Gives (fun _ => True) (fun found => found.1.IsUnpaired)
        (JsonText.readValue fuel text)) ∧
      (∀ text, Gives (fun _ => True) (fun found => ∀ member ∈ found.1, member.2.IsUnpaired)
        (JsonText.readMembers fuel text)) ∧
      ∀ text, Gives (fun _ => True) (fun found => ∀ item ∈ found.1, item.IsUnpaired)
        (JsonText.readItems fuel text) := by
  induction fuel with
  | zero =>
      refine ⟨fun text => ?_, fun text => ?_, fun text => ?_⟩
      · rw [JsonText.readValue]
        trivial
      · rw [JsonText.readMembers]
        trivial
      · rw [JsonText.readItems]
        trivial
  | succ fuel ih =>
      obtain ⟨value, members, items⟩ := ih
      refine ⟨fun text => ?_, fun text => ?_, fun text => ?_⟩
      · rw [JsonText.readValue.eq_def]
        dsimp only
        split
        · refine (JsonText.gives_readText _ _).bind fun found unpaired => ?_
          exact isUnpaired_string unpaired
        · split
          · exact isUnpaired_object_iff.mpr nofun
          · refine (members _).bind fun found unpaired => ?_
            exact isUnpaired_object_iff.mpr fun member isMember =>
              unpaired member (Mapping.mem_of_mem_ofPairs isMember)
        · split
          · exact isUnpaired_array_iff.mpr nofun
          · refine (items _).bind fun found unpaired => ?_
            exact isUnpaired_array_iff.mpr unpaired
        · split
          · rename_i isWord
            exact of_readWord isWord
          · exact of_readNumber text
      · rw [JsonText.readMembers.eq_def]
        dsimp only
        split
        · refine (JsonText.gives_readText _ _).bind fun name _ => ?_
          split
          · refine (value _).bind fun found unpaired => ?_
            split
            · exact List.forall_mem_singleton.mpr unpaired
            · refine (members _).bind fun later unpairedLater => ?_
              exact List.forall_mem_cons.mpr ⟨unpaired, unpairedLater⟩
            · trivial
          · trivial
        · trivial
      · rw [JsonText.readItems.eq_def]
        dsimp only
        refine (value _).bind fun found unpaired => ?_
        split
        · exact List.forall_mem_singleton.mpr unpaired
        · refine (items _).bind fun later unpairedLater => ?_
          exact List.forall_mem_cons.mpr ⟨unpaired, unpairedLater⟩
        · trivial

/-- In a value that is read no text has pairs. -/
theorem of_read {text : List Char} {value : JsonValue} (isRead : JsonText.read text = .ok value) :
    value.IsUnpaired := by
  unfold JsonText.read at isRead
  split at isRead
  · cases isRead
  · obtain ⟨⟨found, rest⟩, isValue, isRead⟩ := bind_eq_ok_iff.mp isRead
    have unpaired := (of_readParts (2 * text.length + 1)).1 (JsonText.skipSpace text)
    rw [isValue] at unpaired
    dsimp only at isRead
    split at isRead
    · cases isRead
      exact unpaired
    · cases isRead

end IsUnpaired

end JsonValue

end BundleEmbed
