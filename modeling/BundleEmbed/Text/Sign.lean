/-!
Texts, as sequences of signs.

A sign is a character, or a surrogate, which stands for no character. A document can spell
a surrogate out, and then its texts have it; no encoding has bytes for it. Texts are
compared and searched sign by sign, and ordered by code points.
-/

namespace BundleEmbed

/-! ### Signs -/

/-- A sign of a text. -/
inductive Sign where
  | char (c : Char)
  /-- the surrogate at an offset from the first one -/
  | surrogate (offset : Fin 2048)
  deriving DecidableEq, Repr

instance : Coe Char Sign := ⟨.char⟩

namespace Sign

/-- The code point of the first surrogate. -/
def firstSurrogate : Nat := 0xd800

/-- The code point of a sign. -/
def toNat : Sign → Nat
  | .char c => c.toNat
  | .surrogate offset => firstSurrogate + offset

@[simp] theorem toNat_char (c : Char) : (char c).toNat = c.toNat := rfl

/-- Signs are told apart by their code points. -/
theorem toNat_inj {a b : Sign} : a.toNat = b.toNat ↔ a = b := by
  -- no character has the code point of a surrogate
  have differ (c : Char) (offset : Fin 2048) : c.toNat ≠ firstSurrogate + offset := by
    intro same
    have valid : c.toNat.isValidChar := c.valid
    have bound := offset.isLt
    unfold Nat.isValidChar at valid
    unfold firstSurrogate at same
    omega
  constructor
  · intro same
    cases a with
    | char c =>
        cases b with
        | char d => exact congrArg char (Char.ext (UInt32.toNat_inj.mp same))
        | surrogate offset => exact absurd same (differ c offset)
    | surrogate offset =>
        cases b with
        | char d => exact absurd same.symm (differ d offset)
        | surrogate other => exact congrArg surrogate (Fin.ext (Nat.add_left_cancel same))
  · exact congrArg toNat

/-- The sign of a code point. -/
def ofNat (code : Nat) : Sign :=
  if code.isValidChar then .char (Char.ofNat code)
  else .surrogate (Fin.ofNat 2048 (code - firstSurrogate))

theorem toNat_ofNat {code : Nat} (isCode : code < 0x110000) : (ofNat code).toNat = code := by
  unfold ofNat
  split
  · rename_i isCharacter
    rw [toNat_char, Char.ofNat, dif_pos isCharacter]
    rfl
  · rename_i noCharacter
    unfold Nat.isValidChar at noCharacter
    simp only [toNat, firstSurrogate, Fin.ofNat]
    omega

theorem ofNat_toNat (sign : Sign) : ofNat sign.toNat = sign := by
  cases sign with
  | char c =>
      have isCharacter : (char c).toNat.isValidChar := c.valid
      rw [ofNat, if_pos isCharacter, toNat_char, Char.ofNat_toNat]
  | surrogate offset =>
      have bound := offset.isLt
      have noCharacter : ¬ (firstSurrogate + offset.val).isValidChar := by
        unfold Nat.isValidChar firstSurrogate
        omega
      rw [ofNat, toNat, if_neg noCharacter, Nat.add_sub_cancel_left]
      exact congrArg surrogate (Fin.ext (Nat.mod_eq_of_lt bound))

/-- The character that a sign is. -/
def char? : Sign → Option Char
  | .char c => some c
  | .surrogate _ => none

/-- A sign is a character. -/
def isCharacter (sign : Sign) : Bool := sign.char?.isSome

/-- A sign is a character with a property. -/
def isChar (kind : Char → Bool) : Sign → Bool
  | .char c => kind c
  | .surrogate _ => false

/-- A capital letter of ASCII as a small one. -/
def toLower : Sign → Sign
  | .char c => .char c.toLower
  | .surrogate offset => .surrogate offset

instance : LT Sign := ⟨fun a b => a.toNat < b.toNat⟩

instance (a b : Sign) : Decidable (a < b) := inferInstanceAs (Decidable (a.toNat < b.toNat))

end Sign

/-! ### Texts -/

/-- A text. -/
structure Text where
  /-- The text of signs. -/
  ofList ::
  /-- The signs of a text. -/
  toList : List Sign
  deriving DecidableEq, Repr

namespace Text

/-- The text of a string of characters. -/
def ofString (string : String) : Text := ofList (string.toList.map .char)

instance : Coe String Text := ⟨ofString⟩

/-- The string of a text that consists of characters. -/
def toString? (text : Text) : Option String :=
  if text.toList.all Sign.isCharacter then some (String.ofList (text.toList.filterMap Sign.char?))
  else none

/-- A text has a surrogate. -/
def HasSurrogate (text : Text) : Prop := ∃ sign ∈ text.toList, sign.isCharacter = false

instance : DecidablePred HasSurrogate := fun text =>
  inferInstanceAs (Decidable (∃ sign ∈ text.toList, sign.isCharacter = false))

/-- The text with its capital letters of ASCII as small ones. -/
def toLower (text : Text) : Text := ofList (text.toList.map Sign.toLower)

instance : Append Text := ⟨fun first second => ofList (first.toList ++ second.toList)⟩

instance : LT Text := ⟨fun first second => first.toList < second.toList⟩

instance (first second : Text) : Decidable (first < second) :=
  inferInstanceAs (Decidable (first.toList < second.toList))

/-- The parts with a separator between them. -/
def intercalate (separator : Text) (parts : List Text) : Text :=
  ofList (separator.toList.intercalate (parts.map toList))

/-! #### Signs and parts of texts -/

variable {text first second third : Text}

@[simp] theorem toList_ofList (signs : List Sign) : (ofList signs).toList = signs := rfl

@[simp] theorem ofList_toList (text : Text) : ofList text.toList = text := rfl

theorem toList_inj : first.toList = second.toList ↔ first = second :=
  ⟨congrArg ofList, congrArg toList⟩

@[simp] theorem toList_ofString (string : String) :
    (ofString string).toList = string.toList.map .char := rfl

@[simp] theorem toList_eq_nil_iff : text.toList = [] ↔ text = "" := @toList_inj text ""

@[simp] theorem ofString_inj {first second : String} :
    ofString first = ofString second ↔ first = second := by
  rw [← toList_inj, toList_ofString, toList_ofString,
    List.map_inj_right fun _ _ => Sign.char.inj, String.toList_inj]

/-- A text consists of the characters of a string when it is the text of the string. -/
theorem toString?_eq_some_iff {string : String} : text.toString? = some string ↔ text = string := by
  constructor
  · intro consists
    have parts (signs : List Sign) (areCharacters : signs.all Sign.isCharacter = true) :
        (signs.filterMap Sign.char?).map Sign.char = signs := by
      induction signs with
      | nil => rfl
      | cons sign later ih =>
          cases sign with
          | char c => exact congrArg (Sign.char c :: ·) (ih areCharacters)
          | surrogate offset => cases areCharacters
    unfold toString? at consists
    split at consists
    · rename_i areCharacters
      rw [← Option.some.inj consists, ← toList_inj, toList_ofString, String.toList_ofList,
        parts _ areCharacters]
    · cases consists
  · rintro rfl
    simp [toString?, Sign.isCharacter, Sign.char?, List.filterMap_map, Function.comp_def]

@[simp] theorem toString?_ofString (string : String) : (ofString string).toString? = some string :=
  toString?_eq_some_iff.mpr rfl

theorem toString?_eq_none_iff : text.toString? = none ↔ text.HasSurrogate := by
  unfold toString? HasSurrogate
  split <;> simp_all

@[simp] theorem not_hasSurrogate_ofString (string : String) : ¬ (ofString string).HasSurrogate := by
  rw [← toString?_eq_none_iff, toString?_ofString]
  exact nofun

/-- Small letters are characters where capital ones are. -/
@[simp] theorem hasSurrogate_toLower : text.toLower.HasSurrogate ↔ text.HasSurrogate := by
  have letters (sign : Sign) : sign.toLower.isCharacter = sign.isCharacter := by
    cases sign <;> rfl
  constructor
  · rintro ⟨_, isOne, surrogate⟩
    obtain ⟨sign, isSign, rfl⟩ := List.mem_map.mp isOne
    exact ⟨sign, isSign, (letters sign).symm.trans surrogate⟩
  · rintro ⟨sign, isSign, surrogate⟩
    exact ⟨sign.toLower, List.mem_map_of_mem isSign, (letters sign).trans surrogate⟩

@[simp] theorem toList_append (first second : Text) :
    (first ++ second).toList = first.toList ++ second.toList := rfl

@[simp] theorem hasSurrogate_append :
    (first ++ second).HasSurrogate ↔ first.HasSurrogate ∨ second.HasSurrogate := by
  simp only [HasSurrogate, toList_append, List.mem_append, or_and_right, exists_or]

theorem append_assoc (first second third : Text) :
    first ++ second ++ third = first ++ (second ++ third) :=
  toList_inj.mp (List.append_assoc ..)

@[simp] theorem empty_append (text : Text) : "" ++ text = text := rfl

@[simp] theorem append_empty (text : Text) : text ++ "" = text :=
  toList_inj.mp (List.append_nil _)

@[simp] theorem append_eq_empty_iff : first ++ second = "" ↔ first = "" ∧ second = "" := by
  simp [← toList_eq_nil_iff]

@[simp] theorem append_left_inj (text : Text) :
    first ++ text = second ++ text ↔ first = second := by
  simp [← toList_inj]

theorem toList_intercalate (separator : Text) (parts : List Text) :
    (separator.intercalate parts).toList = separator.toList.intercalate (parts.map toList) := rfl

@[simp] theorem intercalate_singleton {separator : Text} : separator.intercalate [text] = text := by
  simp [← toList_inj, toList_intercalate]

@[simp] theorem intercalate_cons_cons {separator : Text} {later : List Text} :
    separator.intercalate (first :: second :: later) =
      first ++ separator ++ separator.intercalate (second :: later) := by
  simp [← toList_inj, toList_intercalate]

theorem intercalate_cons_append {separator : Text} {later : List Text} :
    separator.intercalate ((first ++ second) :: later) =
      first ++ separator.intercalate (second :: later) := by
  cases later <;> simp [append_assoc]

end Text

end BundleEmbed
