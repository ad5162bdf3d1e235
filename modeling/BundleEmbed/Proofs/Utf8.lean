import BundleEmbed.Text.Utf8
import Mathlib

/-!
Strict decoding of UTF-8 undoes encoding, and accepts nothing else.

* `decodeFrom_append`: the bytes of a character are read as that character.
* `exists_append_of_decodeFrom_ok`: where decoding does not fail, the bytes of a character
  come next.
* `decode_eq_ok_iff`: bytes are decoded as a text exactly when they encode it.
-/

namespace BundleEmbed.Utf8

open String (utf8EncodeChar)

/-! ### Characters of several bytes -/

/-- What is pending after one more byte. -/
def Pending.next (pending : Pending) (byte : UInt8) : Pending :=
  { pending with
    owed := pending.owed - 1
    low := 0x80
    high := 0xbf
    value := pending.value * 64 + (byte.toNat - 0x80) }

/-- Bytes that complete what is pending to a character, with its code point. -/
inductive Pending.Completes : Pending → List UInt8 → Nat → Prop where
  | last {pending : Pending} {byte : UInt8} (owed : pending.owed ≤ 1)
      (low : pending.low ≤ byte.toNat) (high : byte.toNat ≤ pending.high) :
      Completes pending [byte] (pending.next byte).value
  | more {pending : Pending} {byte : UInt8} {tail : List UInt8} {value : Nat}
      (owed : 1 < pending.owed) (low : pending.low ≤ byte.toNat)
      (high : byte.toNat ≤ pending.high) (later : Completes (pending.next byte) tail value) :
      Completes pending (byte :: tail) value

/-- Bytes that complete what is pending are read as its character. -/
theorem Pending.Completes.decodeFrom {pending : Pending} {tail : List UInt8} {value : Nat}
    (completes : pending.Completes tail value) (position : Nat) (rest : List UInt8) :
    decodeFrom (some pending) position (tail ++ rest) =
      (Char.ofNat value :: ·) <$> Utf8.decodeFrom none (position + tail.length) rest := by
  induction completes generalizing position with
  | @last pending byte owed low high =>
      have inside : ¬ (byte.toNat < pending.low ∨ pending.high < byte.toNat) := by omega
      rw [List.singleton_append, Utf8.decodeFrom, if_neg inside, if_pos owed]
      rfl
  | @more pending byte tail value owed low high later ih =>
      have inside : ¬ (byte.toNat < pending.low ∨ pending.high < byte.toNat) := by omega
      rw [List.cons_append, Utf8.decodeFrom, if_neg inside, if_neg (by omega)]
      refine (ih (position + 1)).trans ?_
      rw [List.length_cons, Nat.add_right_comm, Nat.add_assoc]

/-- Where something is pending and decoding does not fail, bytes come next that complete
it. -/
theorem Pending.exists_completes {bytes : List UInt8} {pending : Pending} {position : Nat}
    {text : List Char} (decoded : decodeFrom (some pending) position bytes = .ok text) :
    ∃ tail rest value, bytes = tail ++ rest ∧ pending.Completes tail value := by
  induction bytes generalizing pending position with
  | nil => cases decoded
  | cons byte rest ih =>
      rw [decodeFrom] at decoded
      split at decoded
      · cases decoded
      · rename_i inside
        by_cases owed : pending.owed ≤ 1
        · exact ⟨[byte], rest, _, rfl, .last owed (by omega) (by omega)⟩
        · rw [if_neg owed] at decoded
          obtain ⟨tail, rest, value, rfl, later⟩ := ih decoded
          exact ⟨byte :: tail, rest, value, rfl, .more (by omega) (by omega) (by omega) later⟩

/-! ### The bytes of a character -/

/-- The bytes of a code point. -/
theorem utf8EncodeChar_ofNat {value : Nat} (isChar : value.isValidChar) :
    utf8EncodeChar (Char.ofNat value) =
      if value ≤ 0x7f then [UInt8.ofNat value]
      else if value ≤ 0x7ff then
        [UInt8.ofNat (value / 64 % 32 + 192), UInt8.ofNat (value % 64 + 128)]
      else if value ≤ 0xffff then
        [UInt8.ofNat (value / 4096 % 16 + 224), UInt8.ofNat (value / 64 % 64 + 128),
          UInt8.ofNat (value % 64 + 128)]
      else
        [UInt8.ofNat (value / 262144 % 8 + 240), UInt8.ofNat (value / 4096 % 64 + 128),
          UInt8.ofNat (value / 64 % 64 + 128), UInt8.ofNat (value % 64 + 128)] := by
  have same : (Char.ofNat value).val.toNat = value :=
    (Char.toNat_ofNat value).trans (if_pos isChar)
  unfold utf8EncodeChar
  rw [same]

/-- A byte is given by its number. -/
theorem ofNat_eq_of_toNat_eq (byte : UInt8) {number : Nat} (same : number = byte.toNat) :
    UInt8.ofNat number = byte := by
  rw [same, UInt8.ofNat_toNat]

/-- A number below 256 is that of a byte. -/
theorem exists_byte (number : Nat) (small : number < 256) :
    ∃ byte : UInt8, UInt8.ofNat number = byte ∧ byte.toNat = number :=
  ⟨_, rfl, Nat.mod_eq_of_lt small⟩

section Completes

variable {pending : Pending} {tail : List UInt8} {value : Nat}

theorem Pending.completes_iff_of_one (owed : pending.owed = 1) :
    pending.Completes tail value ↔
      ∃ b, tail = [b] ∧ pending.low ≤ b.toNat ∧ b.toNat ≤ pending.high ∧
        value = pending.value * 64 + (b.toNat - 0x80) := by
  constructor
  · intro completes
    cases completes with
    | @last _ b _ low high => exact ⟨b, rfl, low, high, rfl⟩
    | more several => omega
  · rintro ⟨b, rfl, low, high, isValue⟩
    rw [isValue]
    exact .last owed.le low high

theorem Pending.completes_iff_of_two (owed : pending.owed = 2) :
    pending.Completes tail value ↔
      ∃ b c, tail = [b, c] ∧ pending.low ≤ b.toNat ∧ b.toNat ≤ pending.high ∧
        0x80 ≤ c.toNat ∧ c.toNat ≤ 0xbf ∧
        value = (pending.value * 64 + (b.toNat - 0x80)) * 64 + (c.toNat - 0x80) := by
  have owedNext : ∀ b, (pending.next b).owed = 1 := fun b => by simp [Pending.next, owed]
  constructor
  · intro completes
    cases completes with
    | last single => omega
    | @more _ b _ _ _ low high later =>
        obtain ⟨c, rfl, ends⟩ := (completes_iff_of_one (owedNext b)).mp later
        exact ⟨b, c, rfl, low, high, ends⟩
  · rintro ⟨b, c, rfl, low, high, ends⟩
    exact .more (by omega) low high ((completes_iff_of_one (owedNext b)).mpr ⟨c, rfl, ends⟩)

theorem Pending.completes_iff_of_three (owed : pending.owed = 3) :
    pending.Completes tail value ↔
      ∃ b c d, tail = [b, c, d] ∧ pending.low ≤ b.toNat ∧ b.toNat ≤ pending.high ∧
        0x80 ≤ c.toNat ∧ c.toNat ≤ 0xbf ∧ 0x80 ≤ d.toNat ∧ d.toNat ≤ 0xbf ∧
        value = ((pending.value * 64 + (b.toNat - 0x80)) * 64 + (c.toNat - 0x80)) * 64 +
          (d.toNat - 0x80) := by
  have owedNext : ∀ b, (pending.next b).owed = 2 := fun b => by simp [Pending.next, owed]
  constructor
  · intro completes
    cases completes with
    | last single => omega
    | @more _ b _ _ _ low high later =>
        obtain ⟨c, d, rfl, ends⟩ := (completes_iff_of_two (owedNext b)).mp later
        exact ⟨b, c, d, rfl, low, high, ends⟩
  · rintro ⟨b, c, d, rfl, low, high, ends⟩
    exact .more (by omega) low high ((completes_iff_of_two (owedNext b)).mpr ⟨c, d, rfl, ends⟩)

end Completes

/-- A leading byte and bytes that complete it are the bytes of a character. -/
theorem utf8EncodeChar_of_completes {start : Nat} {lead : UInt8} {pending : Pending}
    {tail : List UInt8} {value : Nat} (leads : leading? start lead = some pending)
    (completes : pending.Completes tail value) :
    utf8EncodeChar (Char.ofNat value) = lead :: tail := by
  have bytes : value < 0xd800 ∨ 0xdfff < value ∧ value < 0x110000 → _ := utf8EncodeChar_ofNat
  unfold leading? at leads
  simp only at leads
  by_cases none : lead.toNat < 0xc2
  · simp [none] at leads
  by_cases two : lead.toNat < 0xe0
  · simp only [none, two, if_true, if_false, Option.some.injEq] at leads
    subst leads
    obtain ⟨b, rfl, low, high, isValue⟩ := (Pending.completes_iff_of_one rfl).mp completes
    simp only at low high isValue
    rw [bytes (by omega), if_neg (by omega), if_pos (by omega),
      ofNat_eq_of_toNat_eq lead (by omega), ofNat_eq_of_toNat_eq b (by omega)]
  by_cases three : lead.toNat < 0xf0
  · simp only [none, two, three, if_true, if_false, Option.some.injEq] at leads
    subst leads
    obtain ⟨b, c, rfl, low, high, lowC, highC, isValue⟩ :=
      (Pending.completes_iff_of_two rfl).mp completes
    simp only at low high isValue
    have lowB : 0x80 ≤ b.toNat ∧ (lead.toNat = 0xe0 → 0xa0 ≤ b.toNat) := by
      split at low <;> omega
    have highB : b.toNat ≤ 0xbf ∧ (lead.toNat = 0xed → b.toNat ≤ 0x9f) := by
      split at high <;> omega
    rw [bytes (by omega), if_neg (by omega), if_neg (by omega), if_pos (by omega),
      ofNat_eq_of_toNat_eq lead (by omega), ofNat_eq_of_toNat_eq b (by omega),
      ofNat_eq_of_toNat_eq c (by omega)]
  by_cases four : lead.toNat < 0xf5
  · simp only [none, two, three, four, if_true, if_false, Option.some.injEq] at leads
    subst leads
    obtain ⟨b, c, d, rfl, low, high, lowC, highC, lowD, highD, isValue⟩ :=
      (Pending.completes_iff_of_three rfl).mp completes
    simp only at low high isValue
    have lowB : 0x80 ≤ b.toNat ∧ (lead.toNat = 0xf0 → 0x90 ≤ b.toNat) := by
      split at low <;> omega
    have highB : b.toNat ≤ 0xbf ∧ (lead.toNat = 0xf4 → b.toNat ≤ 0x8f) := by
      split at high <;> omega
    rw [bytes (by omega), if_neg (by omega), if_neg (by omega), if_neg (by omega),
      ofNat_eq_of_toNat_eq lead (by omega), ofNat_eq_of_toNat_eq b (by omega),
      ofNat_eq_of_toNat_eq c (by omega), ofNat_eq_of_toNat_eq d (by omega)]
  · simp [none, two, three, four] at leads

/-- The bytes of a character beyond the first 128 are a leading byte and bytes that complete
it. -/
theorem exists_completes_of_utf8EncodeChar (c : Char) (several : 0x80 ≤ c.toNat) (start : Nat) :
    ∃ lead pending tail, utf8EncodeChar c = lead :: tail ∧ 0x80 ≤ lead.toNat ∧
      leading? start lead = some pending ∧ pending.Completes tail c.toNat := by
  have isChar : c.toNat < 0xd800 ∨ 0xdfff < c.toNat ∧ c.toNat < 0x110000 := c.valid
  have bytes := utf8EncodeChar_ofNat isChar
  rw [Char.ofNat_toNat, if_neg (by omega)] at bytes
  obtain ⟨last, isLast, lastNumber⟩ := exists_byte (c.toNat % 64 + 128) (by omega)
  obtain ⟨third, isThird, thirdNumber⟩ :=
    exists_byte (c.toNat / 64 % 64 + 128) (by omega)
  obtain ⟨second, isSecond, secondNumber⟩ :=
    exists_byte (c.toNat / 4096 % 64 + 128) (by omega)
  rw [isLast, isThird, isSecond] at bytes
  by_cases two : c.toNat ≤ 0x7ff
  · obtain ⟨lead, isLead, leadNumber⟩ :=
      exists_byte (c.toNat / 64 % 32 + 192) (by omega)
    rw [if_pos two, isLead] at bytes
    refine ⟨lead, ⟨start, lead, 1, 0x80, 0xbf, lead.toNat - 0xc0⟩, [last], bytes, by omega, ?_, ?_⟩
    · rw [leading?, if_neg (by omega), if_pos (by omega)]
    · refine (Pending.completes_iff_of_one rfl).mpr ⟨last, rfl, ?_⟩
      simp only
      omega
  rw [if_neg two] at bytes
  by_cases three : c.toNat ≤ 0xffff
  · obtain ⟨lead, isLead, leadNumber⟩ :=
      exists_byte (c.toNat / 4096 % 16 + 224) (by omega)
    rw [if_pos three, isLead] at bytes
    refine ⟨lead, ⟨start, lead, 2, if lead.toNat = 0xe0 then 0xa0 else 0x80,
      if lead.toNat = 0xed then 0x9f else 0xbf, lead.toNat - 0xe0⟩, [third, last], bytes,
      by omega, ?_, ?_⟩
    · rw [leading?, if_neg (by omega), if_neg (by omega), if_pos (by omega)]
    · refine (Pending.completes_iff_of_two rfl).mpr ⟨third, last, rfl, ?_⟩
      simp only
      refine ⟨?_, ?_, by omega, by omega, by omega⟩ <;> split <;> omega
  · obtain ⟨lead, isLead, leadNumber⟩ :=
      exists_byte (c.toNat / 262144 % 8 + 240) (by omega)
    rw [if_neg three, isLead] at bytes
    refine ⟨lead, ⟨start, lead, 3, if lead.toNat = 0xf0 then 0x90 else 0x80,
      if lead.toNat = 0xf4 then 0x8f else 0xbf, lead.toNat - 0xf0⟩, [second, third, last], bytes,
      by omega, ?_, ?_⟩
    · rw [leading?, if_neg (by omega), if_neg (by omega), if_neg (by omega), if_pos (by omega)]
    · refine (Pending.completes_iff_of_three rfl).mpr ⟨second, third, last, rfl, ?_⟩
      simp only
      refine ⟨?_, ?_, by omega, by omega, by omega, by omega, by omega⟩ <;> split <;> omega

/-! ### Texts -/

/-- The bytes that stand for themselves. -/
theorem isSingle_iff {byte : UInt8} : byte < 0x80 ↔ byte.toNat < 0x80 := UInt8.lt_iff_toNat_lt

/-- The bytes of a character are read as that character. -/
theorem decodeFrom_append (position : Nat) (c : Char) (rest : List UInt8) :
    decodeFrom none position (utf8EncodeChar c ++ rest) =
      (c :: ·) <$> decodeFrom none (position + (utf8EncodeChar c).length) rest := by
  by_cases single : c.toNat < 0x80
  · have isChar : c.toNat < 0xd800 ∨ 0xdfff < c.toNat ∧ c.toNat < 0x110000 := c.valid
    have bytes := utf8EncodeChar_ofNat isChar
    obtain ⟨byte, isByte, number⟩ := exists_byte c.toNat (by omega)
    rw [Char.ofNat_toNat, if_pos (by omega), isByte] at bytes
    have small : byte < 0x80 := isSingle_iff.mpr (number ▸ single)
    rw [bytes, List.singleton_append, decodeFrom, if_pos small, number, Char.ofNat_toNat]
    rfl
  · obtain ⟨lead, pending, tail, bytes, several, leads, completes⟩ :=
      exists_completes_of_utf8EncodeChar c (by omega) position
    have notSmall : ¬ lead < 0x80 := fun small => by
      have number := isSingle_iff.mp small
      omega
    rw [bytes, List.cons_append, decodeFrom, if_neg notSmall, leads]
    refine (completes.decodeFrom (position + 1) rest).trans ?_
    rw [Char.ofNat_toNat, List.length_cons, Nat.add_right_comm, Nat.add_assoc]

/-- Where decoding does not fail, the bytes of a character come next. -/
theorem exists_append_of_decodeFrom_ok {position : Nat} {byte : UInt8} {rest : List UInt8}
    {text : List Char} (decoded : decodeFrom none position (byte :: rest) = .ok text) :
    ∃ c later, byte :: rest = utf8EncodeChar c ++ later := by
  rw [decodeFrom] at decoded
  by_cases small : byte < 0x80
  · have number := isSingle_iff.mp small
    refine ⟨Char.ofNat byte.toNat, rest, ?_⟩
    rw [utf8EncodeChar_ofNat (by left; omega), if_pos (by omega), UInt8.ofNat_toNat]
    rfl
  · rw [if_neg small] at decoded
    cases leads : leading? position byte with
    | none => simp only [leads, reduceCtorEq] at decoded
    | some pending =>
        simp only [leads] at decoded
        obtain ⟨tail, later, value, rfl, completes⟩ := Pending.exists_completes decoded
        exact ⟨Char.ofNat value, later,
          by rw [utf8EncodeChar_of_completes leads completes]; rfl⟩

/-- What is decoded from bytes, wherever they stand, encodes to them. -/
theorem eq_flatMap_of_decodeFrom_ok {position : Nat} {bytes : List UInt8} {text : List Char}
    (decoded : decodeFrom none position bytes = .ok text) :
    bytes = text.flatMap utf8EncodeChar := by
  -- by the number of bytes: each character takes at least one
  induction size : bytes.length using Nat.strong_induction_on generalizing position bytes text with
  | _ _ ih =>
      cases bytes with
      | nil =>
          cases decoded
          rfl
      | cons byte rest =>
          obtain ⟨c, later, split⟩ := exists_append_of_decodeFrom_ok decoded
          rw [split, decodeFrom_append] at decoded
          have nonempty := List.length_pos_of_ne_nil (String.utf8EncodeChar_ne_nil (c := c))
          cases decodedLater : decodeFrom none (position + (utf8EncodeChar c).length) later with
          | error fault =>
              rw [decodedLater] at decoded
              cases decoded
          | ok laterText =>
              rw [decodedLater] at decoded
              cases decoded
              have shorter : later.length < (byte :: rest).length := by
                rw [split, List.length_append]
                omega
              rw [split, List.flatMap_cons, ← ih _ (size ▸ shorter) decodedLater rfl]

/-- Bytes are decoded as a text exactly when they encode it. -/
theorem decode_eq_ok_iff {bytes : List UInt8} {text : List Char} :
    decode bytes = .ok text ↔ bytes = text.flatMap utf8EncodeChar := by
  refine ⟨eq_flatMap_of_decodeFrom_ok, ?_⟩
  rintro rfl
  suffices ∀ position, decodeFrom none position (text.flatMap utf8EncodeChar) = .ok text from this 0
  induction text with
  | nil => exact fun _ => rfl
  | cons c text ih =>
      intro position
      rw [List.flatMap_cons, decodeFrom_append, ih]
      rfl

end BundleEmbed.Utf8
