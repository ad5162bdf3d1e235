import BundleEmbed.Json.Write
import BundleEmbed.Proofs.Json.Overflow
import BundleEmbed.Proofs.Json.Pairs

/-!
Reading what has been written.

A text that an outline is written as is read as the value that the outline is, whatever the
texts in it hold: marks and backslashes, control characters, characters beyond those that one
unit writes, and surrogates. Three things are asked of an outline (`Outline.IsReadable`): the
names in a record differ, since a repeated one would keep its last value, no count has more
digits than are read, and no text has two halves of a pair one after the other.

* `readText_writeString`: a string is read back, sign by sign.
* `readsBack_of_isReadable`: so is an outline, wherever it stands in a text. The fuel of the
  reader is measured by the length of what has been written.
* `isPlain_writeAt`: what is written is ASCII without any control character but the line feed.
* `read_writeAt`: the text of an outline as a whole is read back.
-/

namespace BundleEmbed

/-- An outline that can be read back: the names in a record differ, a count has no more digits
than are read, and texts and names are without pairs of surrogates. -/
inductive Outline.IsReadable : Outline → Prop
  | text {content : Text} (unpaired : Unpaired content.toList) : IsReadable (.text content)
  | flag (isSet : Bool) : IsReadable (.flag isSet)
  | count {number : Nat} (fits : (Nat.toDigits 10 number).length ≤ digitLimit) :
      IsReadable (.count number)
  | list {items : List Outline} (readable : ∀ item ∈ items, IsReadable item) :
      IsReadable (.list items)
  | record {members : List (Text × Outline)} (differ : (members.map Prod.fst).Nodup)
      (unpaired : ∀ member ∈ members, Unpaired member.1.toList)
      (readable : ∀ member ∈ members, IsReadable member.2) : IsReadable (.record members)

namespace JsonText

/-! ### Signs of strings -/

/-- The forms in which a sign is written: as an escape with a letter, as itself, and as the one
or two units that encode it. -/
inductive IsForm : Sign → List Char → Prop
  | escape {c letter : Char} (escapes : escapeOf letter = some c)
      (printable : ' ' ≤ letter ∧ letter ≤ '~') (notUnit : letter ≠ 'u') :
      IsForm (.char c) ['\\', letter]
  | plain {c : Char} (printable : ' ' ≤ c ∧ c ≤ '~') (notQuote : c ≠ '"')
      (notBackslash : c ≠ '\\') : IsForm (.char c) [c]
  | unit {sign : Sign} (small : sign.toNat < 0x10000) : IsForm sign (writeUnit sign.toNat)
  | pair {c : Char} (large : 0x10000 ≤ c.toNat) :
      IsForm (.char c) (writeUnit (0xd800 + (c.toNat - 0x10000) / 0x400) ++
        writeUnit (0xdc00 + (c.toNat - 0x10000) % 0x400))

/-- A character is written in one of these forms. -/
theorem isForm_writeChar (c : Char) : IsForm (.char c) (writeChar c) := by
  by_cases quote : c = '"'
  · subst quote
    exact .escape rfl (by decide) (by decide)
  by_cases backslash : c = '\\'
  · subst backslash
    exact .escape rfl (by decide) (by decide)
  by_cases feed : c = '\n'
  · subst feed
    exact .escape rfl (by decide) (by decide)
  by_cases carriage : c = '\r'
  · subst carriage
    exact .escape rfl (by decide) (by decide)
  by_cases tab : c = '\t'
  · subst tab
    exact .escape rfl (by decide) (by decide)
  by_cases form : c = '\x0c'
  · subst form
    exact .escape rfl (by decide) (by decide)
  by_cases back : c = '\x08'
  · subst back
    exact .escape rfl (by decide) (by decide)
  rw [writeChar, if_neg quote, if_neg backslash, if_neg feed, if_neg carriage, if_neg tab,
    if_neg form, if_neg back]
  by_cases printable : ' ' ≤ c ∧ c ≤ '~'
  · rw [if_pos printable]
    exact .plain printable quote backslash
  by_cases small : c.toNat < 0x10000
  · rw [if_neg printable, if_pos small]
    exact .unit small
  · rw [if_neg printable, if_neg small]
    exact .pair (Nat.not_lt.mp small)

/-- A sign is written in one of these forms. -/
theorem isForm_writeSign (sign : Sign) : IsForm sign (writeSign sign) := by
  cases sign with
  | char c => exact isForm_writeChar c
  | surrogate offset =>
      refine .unit ?_
      have bound := offset.isLt
      simp only [Sign.toNat, Sign.firstSurrogate]
      omega

/-- A digit of a unit is one, and has its value. -/
theorem hexDigit_reads (n : Nat) :
    isHexDigit (Quoted.hexDigit n) = true ∧ digitValue (Quoted.hexDigit n) = n % 16 := by
  have digits : ∀ m < 16,
      isHexDigit (Nat.digitChar m) = true ∧ digitValue (Nat.digitChar m) = m := by decide
  exact digits _ (Nat.mod_lt _ (by decide))

/-- The last digit counts once, those before it as often as the base says. -/
theorem numberOf_append_singleton (base : Nat) (digits : List Char) (c : Char) :
    numberOf base (digits ++ [c]) = numberOf base digits * base + digitValue c := by
  simp [numberOf]

/-- The digits of a number write it, as far as they go. -/
theorem numberOf_hex (width n : Nat) : numberOf 16 (Quoted.hex width n) = n % 16 ^ width := by
  induction width generalizing n with
  | zero => simp [Quoted.hex, numberOf, Nat.mod_one]
  | succ width ih =>
      rw [Quoted.hex, numberOf_append_singleton, ih, (hexDigit_reads n).2, Nat.pow_succ',
        Nat.mod_mul, Nat.mul_comm, Nat.add_comm]

/-- A unit that has been written is read, if something follows it. -/
theorem readUnit_hex {unit : Nat} (fits : unit < 0x10000) {rest : List Char} (more : rest ≠ []) :
    readUnit ('u' :: (Quoted.hex 4 unit ++ rest)) = .ok (unit, rest) := by
  have number := numberOf_hex 4 unit
  rw [Nat.mod_eq_of_lt (by simpa using fits)] at number
  simp only [Quoted.hex, List.nil_append, List.cons_append] at number ⊢
  simp [readUnit, hexDigit_reads, more, number]

/-- A sign that one unit writes is read, unless it is half of a pair that goes on. -/
theorem readUnicode_of_lt {sign : Sign} (small : sign.toNat < 0x10000) {rest : List Char}
    (more : rest ≠ []) (alone : isHighUnit sign.toNat = true → NoLowUnit rest) :
    readUnicode ('u' :: (Quoted.hex 4 sign.toNat ++ rest)) = .ok (sign, rest) := by
  rw [readUnicode, readUnit_hex small more]
  simp only [bind, Except.bind, pure, Except.pure, Sign.ofNat_toNat]
  split
  · rename_i text
    split
    · rename_i isHigh
      obtain ⟨unit, after, isRead, notLow⟩ := alone isHigh text rfl
      rw [isRead]
      simp only [notLow]
      rfl
    · rfl
  · rfl

/-- A character that a pair of units writes is read. -/
theorem readUnicode_pair {high low : Nat} (isHigh : isHighUnit high = true)
    (isLow : isLowUnit low = true) {rest : List Char} (more : rest ≠ []) :
    readUnicode ('u' :: (Quoted.hex 4 high ++ '\\' :: 'u' :: (Quoted.hex 4 low ++ rest))) =
      .ok (ofPair high low, rest) := by
  have highFits : high < 0x10000 := by
    simp only [isHighUnit, Bool.and_eq_true, decide_eq_true_eq] at isHigh
    omega
  have lowFits : low < 0x10000 := by
    simp only [isLowUnit, Bool.and_eq_true, decide_eq_true_eq] at isLow
    omega
  have second := readUnit_hex lowFits more
  rw [readUnicode, readUnit_hex highFits (by simp)]
  simp only [bind, Except.bind, isHigh, if_true, second, isLow]
  rfl

/-- The units of a character beyond those that one unit writes are a pair for it. -/
theorem ofPair_of_le {c : Char} (large : 0x10000 ≤ c.toNat) :
    let offset := c.toNat - 0x10000
    isHighUnit (0xd800 + offset / 0x400) = true ∧ isLowUnit (0xdc00 + offset % 0x400) = true ∧
      ofPair (0xd800 + offset / 0x400) (0xdc00 + offset % 0x400) = c := by
  intro offset
  have bound := toNat_cases c
  refine ⟨?_, ?_, ?_⟩
  · simp only [isHighUnit, Bool.and_eq_true, decide_eq_true_eq]
    omega
  · simp only [isLowUnit, Bool.and_eq_true, decide_eq_true_eq]
    omega
  · have same : 0x10000 + (0xd800 + offset / 0x400 - 0xd800) * 0x400 +
        (0xdc00 + offset % 0x400 - 0xdc00) = c.toNat := by omega
    rw [ofPair, same, Char.ofNat_toNat]

theorem noLowUnit_writeUnit {unit : Nat} (fits : unit < 0x10000) (notLow : isLowUnit unit = false)
    {rest : List Char} (more : rest ≠ []) : NoLowUnit (writeUnit unit ++ rest) := by
  intro text starts
  obtain rfl := (List.cons.inj (List.cons.inj starts).2).2
  exact ⟨unit, rest, readUnit_hex fits more, notLow⟩

/-- What is written for a sign that is no second half of a pair does not start with one. -/
theorem noLowUnit_writeSign {sign : Sign} (notLow : isLowUnit sign.toNat = false)
    {rest : List Char} (more : rest ≠ []) : NoLowUnit (writeSign sign ++ rest) := by
  have form := isForm_writeSign sign
  generalize writeSign sign = written at form ⊢
  cases form with
  | escape _ _ notUnit =>
      exact fun text starts => absurd (List.cons.inj (List.cons.inj starts).2).1 notUnit
  | plain _ _ notBackslash => exact fun text starts => absurd (List.cons.inj starts).1 notBackslash
  | unit small => exact noLowUnit_writeUnit small notLow more
  | @pair c large =>
      obtain ⟨isHigh, -, -⟩ := ofPair_of_le large
      simp only [isHighUnit, Bool.and_eq_true, decide_eq_true_eq] at isHigh
      rw [List.append_assoc]
      refine noLowUnit_writeUnit (by omega) ?_ (by simp [writeUnit])
      simp only [isLowUnit, Bool.and_eq_false_iff, decide_eq_false_iff_not]
      omega

/-! ### Strings -/

section Strings

variable (start : List Char) (fuel : Nat) {c : Char} {sign : Sign} {text rest : List Char}

/-- A character that stands for itself is read first. -/
theorem readString_plain (printable : ' ' ≤ c) (notQuote : c ≠ '"') (notBackslash : c ≠ '\\') :
    readString start (fuel + 1) (c :: rest) =
      (readString start fuel rest).map fun later => (.char c :: later.1, later.2) := by
  have notControl : ¬ c.toNat < 0x20 := Nat.not_lt.mpr printable
  rw [readString.eq_def]
  simp only [if_neg notQuote, if_neg notBackslash, if_neg notControl]
  cases readString start fuel rest <;> rfl

/-- A character that an escape with a letter writes is read first. -/
theorem readString_escape {letter : Char} (escapes : escapeOf letter = some c) :
    readString start (fuel + 1) ('\\' :: letter :: rest) =
      (readString start fuel rest).map fun later => (.char c :: later.1, later.2) := by
  unfold escapeOf at escapes
  split at escapes <;> cases escapes
  all_goals
    change (readString start fuel rest >>= _) = _
    cases readString start fuel rest <;> rfl

/-- A sign that an escape with units writes is read first. -/
theorem readString_unicode (isRead : readUnicode ('u' :: text) = .ok (sign, rest)) :
    readString start (fuel + 1) ('\\' :: 'u' :: text) =
      (readString start fuel rest).map fun later => (sign :: later.1, later.2) := by
  rw [readString.eq_def]
  simp only [if_neg (show '\\' ≠ '"' by decide), if_true, isRead]
  change (readString start fuel rest >>= _) = _
  cases readString start fuel rest <;> rfl

/-- A sign that has been written is read first. -/
theorem readString_writeSign (more : rest ≠ [])
    (alone : isHighUnit sign.toNat = true → NoLowUnit rest) :
    readString start (fuel + 1) (writeSign sign ++ rest) =
      (readString start fuel rest).map fun later => (sign :: later.1, later.2) := by
  have form := isForm_writeSign sign
  generalize writeSign sign = written at form ⊢
  cases form with
  | escape escapes => exact readString_escape start fuel escapes
  | plain printable notQuote notBackslash =>
      exact readString_plain start fuel printable.1 notQuote notBackslash
  | unit small => exact readString_unicode start fuel (readUnicode_of_lt small more alone)
  | pair large =>
      obtain ⟨isHigh, isLow, isPair⟩ := ofPair_of_le large
      have isRead := readUnicode_pair isHigh isLow more
      rw [isPair] at isRead
      simp only [writeUnit, List.append_assoc, List.cons_append, List.nil_append]
      exact readString_unicode start fuel isRead

/-- The signs of a string that has been written are read. -/
theorem readString_flatMap_writeSign {signs : List Sign} (unpaired : Unpaired signs)
    (enough : signs.length < fuel) :
    readString start fuel (signs.flatMap writeSign ++ '"' :: rest) = .ok (signs, rest) := by
  induction signs generalizing fuel with
  | nil =>
      obtain ⟨fuel, rfl⟩ := Nat.exists_eq_add_one_of_ne_zero (Nat.ne_of_gt enough)
      rfl
  | cons sign later ih =>
      obtain ⟨fuel, rfl⟩ := Nat.exists_eq_add_one_of_ne_zero (Nat.ne_zero_of_lt enough)
      obtain ⟨apart, unpairedLater⟩ := List.isChain_cons.mp unpaired
      have alone (isHigh : isHighUnit sign.toNat = true) :
          NoLowUnit (later.flatMap writeSign ++ '"' :: rest) := by
        cases later with
        | nil => exact fun _ starts => absurd (List.cons.inj starts).1 (by decide)
        | cons next later =>
            rw [List.flatMap_cons, List.append_assoc]
            refine noLowUnit_writeSign (Bool.eq_false_iff.mpr fun isLow => ?_) (by simp)
            exact apart next rfl ⟨isHigh, isLow⟩
      rw [List.flatMap_cons, List.append_assoc,
        readString_writeSign start fuel (by simp) alone,
        ih fuel unpairedLater (Nat.lt_of_succ_lt_succ enough)]
      rfl

end Strings

/-- Something is written for each sign. -/
theorem writeSign_ne_nil (sign : Sign) : writeSign sign ≠ [] := by
  have form := isForm_writeSign sign
  generalize writeSign sign = written at form ⊢
  cases form <;> exact List.cons_ne_nil _ _

/-- A string that has been written is read, from what follows its opening mark. -/
theorem readText_writeString (start : List Char) {text : Text} (unpaired : Unpaired text.toList)
    (rest : List Char) :
    readText start (text.toList.flatMap writeSign ++ '"' :: rest) = .ok (text, rest) := by
  have enough : text.toList.length < (text.toList.flatMap writeSign ++ '"' :: rest).length := by
    have longer : (text.toList.map fun sign => (writeSign sign).length).length ≤
        (text.toList.map fun sign => (writeSign sign).length).sum :=
      List.length_le_sum_of_one_le _ (by simp [Nat.one_le_iff_ne_zero, writeSign_ne_nil])
    rw [List.length_map] at longer
    rw [List.length_append, List.length_flatMap, List.length_cons]
    omega
  rw [readText, readString_flatMap_writeSign start _ unpaired enough]
  rfl

/-! ### Numbers -/

/-- The digits of a number write it. -/
theorem numberOf_toDigits (number : Nat) : numberOf 10 (Nat.toDigits 10 number) = number := by
  have digits : ∀ m < 10, digitValue (Nat.digitChar m) = m := by decide
  induction number using Nat.strongRecOn with
  | ind number ih =>
      rw [Nat.toDigits_eq_if (by decide)]
      split_ifs with small
      · simp [numberOf, digits number small]
      · rw [numberOf_append_singleton, ih _ (by omega), digits _ (by omega)]
        omega

/-- The digits of a number do not start with a zero, unless it is zero. -/
theorem head?_toDigits {number : Nat} (positive : 0 < number) :
    (Nat.toDigits 10 number).head? ≠ some '0' := by
  induction number using Nat.strongRecOn with
  | ind number ih =>
      rw [Nat.toDigits_eq_if (by decide)]
      split_ifs with small
      · have notZero : Nat.digitChar number ≠ '0' := by
          rw [Ne, Nat.digitChar_eq_zero]
          omega
        simpa using notZero
      · have notEmpty : Nat.toDigits 10 (number / 10) ≠ [] := Nat.toDigits_ne_nil
        rw [List.head?_append_of_ne_nil _ notEmpty]
        exact ih _ (by omega) (by omega)

/-- A count that has been written is read, if it has no more digits than are read. -/
theorem readUnsigned_toDigits {number : Nat} (fits : (Nat.toDigits 10 number).length ≤ digitLimit)
    {rest : List Char} (ends : EndsNumber rest) :
    readUnsigned false (Nat.toDigits 10 number ++ rest) = some (.ok (.integer number, rest)) := by
  have isRun : ∀ c ∈ Nat.toDigits 10 number, c.isDigit = true := fun c =>
    Nat.isDigit_of_mem_toDigits (by decide) (by decide)
  have plain : Nat.toDigits 10 number = ['0'] ∨
      Nat.toDigits 10 number ≠ [] ∧ (Nat.toDigits 10 number).head? ≠ some '0' := by
    rcases Nat.eq_zero_or_pos number with rfl | positive
    · exact .inl (Nat.toDigits_zero 10)
    · exact .inr ⟨Nat.toDigits_ne_nil, head?_toDigits positive⟩
  rw [readUnsigned_of_run isRun plain ends, if_neg (Nat.not_lt.mpr fits), numberOf_toDigits]
  rfl

/-! ### Blanks -/

/-- Nothing but blanks is put between the parts of a layout. -/
structure Layout.IsBlank (layout : Layout) : Prop where
  edge : ∀ depth, ∀ c ∈ layout.edge depth, c = ' ' ∨ c = '\n'
  gap : ∀ depth, ∀ c ∈ layout.gap depth, c = ' ' ∨ c = '\n'

theorem Layout.lines_isBlank : Layout.lines.IsBlank := by
  have line : ∀ depth, ∀ c ∈ '\n' :: List.replicate (2 * depth) ' ', c = ' ' ∨ c = '\n' := by
    intro depth c isOne
    rcases List.mem_cons.mp isOne with rfl | isOne
    · exact .inr rfl
    · exact .inl (List.eq_of_mem_replicate isOne)
  exact ⟨line, line⟩

/-- A number goes on neither with a blank nor with a mark between values. -/
theorem endsNumber_cons {c : Char} (isMark : c ∈ [' ', '\n', ',', ']', '\x7d'])
    (rest : List Char) : EndsNumber (c :: rest) := by
  have marks : ∀ c ∈ [' ', '\n', ',', ']', '\x7d'],
      c.isDigit = false ∧ c ≠ '.' ∧ c ≠ 'e' ∧ c ≠ 'E' := by simp
  rintro other same
  obtain rfl : c = other := Option.some.inj same
  exact marks c isMark

section Blanks

variable {blanks : List Char} (areBlanks : ∀ c ∈ blanks, c = ' ' ∨ c = '\n') {c : Char}
include areBlanks

/-- Blanks are skipped up to what comes after them. -/
theorem skipSpace_append (notSpace : isSpace c = false) (rest : List Char) :
    skipSpace (blanks ++ c :: rest) = c :: rest := by
  have skipped : ∀ c ∈ blanks, isSpace c = true := by
    intro c isOne
    rcases areBlanks c isOne with rfl | rfl <;> rfl
  rw [skipSpace, List.dropWhile_append_of_pos skipped]
  exact List.dropWhile_cons_of_neg (by simp [notSpace])

/-- A number does not go on with blanks and a mark after them. -/
theorem endsNumber_append (isMark : c ∈ [' ', '\n', ',', ']', '\x7d']) (rest : List Char) :
    EndsNumber (blanks ++ c :: rest) := by
  cases blanks with
  | nil => exact endsNumber_cons isMark rest
  | cons blank blanks =>
      refine endsNumber_cons ?_ _
      rcases areBlanks blank List.mem_cons_self with rfl | rfl <;> decide

end Blanks

/-! ### Outlines -/

section Parts

variable {layout : Layout} {depth fuel : Nat} {closing rest : List Char}

/-- An outline is read where it has been written, as long as the fuel is twice as much as what
has been written. -/
def ReadsBack (layout : Layout) (outline : Outline) : Prop :=
  ∀ depth fuel rest, EndsNumber rest → 2 * (writeAt layout depth outline).length ≤ fuel →
    readValue fuel (writeAt layout depth outline ++ rest) = .ok (outline.toValue, rest)

/-- An outline starts with a character that neither is a blank nor closes a list. -/
theorem exists_cons_of_writeAt (layout : Layout) (depth : Nat) (outline : Outline) :
    ∃ c text, writeAt layout depth outline = c :: text ∧ isSpace c = false ∧ c ≠ ']' := by
  have enclosed : ∀ opening closing parts, ∃ text,
      layout.enclose depth opening closing parts = opening :: text := by
    intro opening closing parts
    unfold Layout.enclose
    split_ifs
    · exact ⟨_, rfl⟩
    · exact ⟨_, rfl⟩
  cases outline with
  | text content => exact ⟨'"', _, by rw [writeAt]; rfl, rfl, by decide⟩
  | flag isSet =>
      cases isSet
      · exact ⟨'f', _, by rw [writeAt]; rfl, rfl, by decide⟩
      · exact ⟨'t', _, by rw [writeAt]; rfl, rfl, by decide⟩
  | count number =>
      obtain ⟨c, digits, written⟩ := List.exists_cons_of_ne_nil
        (show Nat.toDigits 10 number ≠ [] from Nat.toDigits_ne_nil)
      have isOne : c ∈ Nat.toDigits 10 number := by simp [written]
      have isDigit := Nat.isDigit_of_mem_toDigits (by decide) (by decide) isOne
      exact ⟨c, digits, by rw [writeAt, written], isSpace_of_isDigit isDigit,
        ne_of_isDigit isDigit (by decide)⟩
  | list items =>
      obtain ⟨text, written⟩ := enclosed '[' ']' (writeItems layout (depth + 1) items)
      exact ⟨'[', text, by rw [writeAt, written], rfl, by decide⟩
  | record members =>
      obtain ⟨text, written⟩ := enclosed '\x7b' '\x7d' (writeMembers layout (depth + 1) members)
      exact ⟨'\x7b', text, by rw [writeAt, written], rfl, by decide⟩

/-- Several items are the first one, a comma and the others. -/
theorem writeItems_cons (layout : Layout) (depth : Nat) (item : Outline) {later : List Outline}
    (notEmpty : later ≠ []) :
    writeItems layout depth (item :: later) =
      writeAt layout depth item ++ ',' :: (layout.gap depth ++ writeItems layout depth later) := by
  rw [writeItems, List.append_assoc, List.cons_append]
  exact notEmpty

/-- Items start as the first of them does. -/
theorem exists_cons_of_writeItems (layout : Layout) (depth : Nat) {items : List Outline}
    (notEmpty : items ≠ []) :
    ∃ c text, writeItems layout depth items = c :: text ∧ isSpace c = false ∧ c ≠ ']' := by
  obtain ⟨item, later, rfl⟩ := List.exists_cons_of_ne_nil notEmpty
  obtain ⟨c, text, starts, start⟩ := exists_cons_of_writeAt layout depth item
  by_cases single : later = []
  · rw [single, writeItems, starts]
    exact ⟨c, text, rfl, start⟩
  · rw [writeItems_cons layout depth item single, starts]
    exact ⟨c, _, rfl, start⟩

/-- Items that have been written are read up to the bracket that closes their list. -/
theorem readItems_writeItems (blank : layout.IsBlank) {items : List Outline}
    (readsBack : ∀ item ∈ items, ReadsBack layout item) (notEmpty : items ≠ [])
    (areBlanks : ∀ c ∈ closing, c = ' ' ∨ c = '\n')
    (enough : 2 * (writeItems layout depth items).length < fuel) :
    readItems fuel (writeItems layout depth items ++ (closing ++ ']' :: rest)) =
      .ok (Outline.toValues items, rest) := by
  induction items generalizing fuel with
  | nil => exact absurd rfl notEmpty
  | cons item later ih =>
      obtain ⟨first, others⟩ := List.forall_mem_cons.mp readsBack
      obtain ⟨fuel, rfl⟩ := Nat.exists_eq_add_one_of_ne_zero (Nat.ne_zero_of_lt enough)
      by_cases single : later = []
      · rw [single, writeItems] at enough ⊢
        have isRead := first depth fuel (closing ++ ']' :: rest)
          (endsNumber_append areBlanks (by decide) rest) (by omega)
        have skipped := skipSpace_append areBlanks (show isSpace ']' = false from rfl) rest
        rw [readItems, isRead]
        simp only [bind, Except.bind, skipped]
        rfl
      · obtain ⟨c, text, starts, notSpace, -⟩ := exists_cons_of_writeItems layout depth single
        rw [writeItems_cons layout depth item single] at enough ⊢
        simp only [List.length_append, List.length_cons] at enough
        have isRead := first depth fuel
          (',' :: (layout.gap depth ++ (writeItems layout depth later ++ (closing ++ ']' :: rest))))
          (endsNumber_cons (by decide) _) (by omega)
        have skipped : skipSpace (layout.gap depth ++ (writeItems layout depth later ++
              (closing ++ ']' :: rest))) =
            writeItems layout depth later ++ (closing ++ ']' :: rest) := by
          rw [starts]
          exact skipSpace_append (blank.gap depth) notSpace _
        have areRead := @ih fuel others single (by omega)
        simp only [List.append_assoc, List.cons_append]
        rw [readItems, isRead]
        simp only [bind, Except.bind]
        have comma : ∀ text, skipSpace (',' :: text) = ',' :: text := fun text => rfl
        simp only [comma, skipped, areRead]
        rfl

/-- Several members are the first one, a comma and the others. -/
theorem writeMembers_cons (layout : Layout) (depth : Nat) (name : Text) (item : Outline)
    {later : List (Text × Outline)} (notEmpty : later ≠ []) :
    writeMembers layout depth ((name, item) :: later) =
      writeString name ++ ':' :: ' ' :: (writeAt layout depth item ++
        ',' :: (layout.gap depth ++ writeMembers layout depth later)) := by
  rw [writeMembers]
  · simp
  · exact notEmpty

/-- Members start with the mark in front of a name. -/
theorem exists_cons_of_writeMembers (layout : Layout) (depth : Nat)
    {members : List (Text × Outline)} (notEmpty : members ≠ []) :
    ∃ text, writeMembers layout depth members = '"' :: text := by
  obtain ⟨⟨name, item⟩, later, rfl⟩ := List.exists_cons_of_ne_nil notEmpty
  by_cases single : later = []
  · rw [single, writeMembers]
    exact ⟨_, rfl⟩
  · rw [writeMembers_cons layout depth name item single]
    exact ⟨_, rfl⟩

/-- A name that has been written is read, then the value after it. Then either the record is
closed, or the members after a comma are read. -/
theorem readMembers_cons {name : Text} (unpaired : Unpaired name.toList) {item : Outline}
    (readsBack : ReadsBack layout item) {after : List Char} (ends : EndsNumber after)
    (enough : 2 * (writeAt layout depth item).length ≤ fuel) {later : List (Text × JsonValue)}
    (goesOn : skipSpace after = '\x7d' :: rest ∧ later = [] ∨
      ∃ more, skipSpace after = ',' :: more ∧
        readMembers fuel (skipSpace more) = .ok (later, rest)) :
    readMembers (fuel + 1)
        (writeString name ++ ':' :: ' ' :: (writeAt layout depth item ++ after)) =
      .ok ((name, item.toValue) :: later, rest) := by
  have isName := fun start => readText_writeString start unpaired
    (':' :: ' ' :: (writeAt layout depth item ++ after))
  have isItem := readsBack depth fuel after ends enough
  have colon : ∀ text, skipSpace (':' :: text) = ':' :: text := fun text => rfl
  have space : ∀ text, skipSpace (' ' :: text) = skipSpace text := fun text => rfl
  obtain ⟨c, text, starts, notSpace, -⟩ := exists_cons_of_writeAt layout depth item
  have skipped : skipSpace (writeAt layout depth item ++ after) =
      writeAt layout depth item ++ after := by
    rw [starts]
    exact List.dropWhile_cons_of_neg (by simp [notSpace])
  rw [writeString, List.append_assoc, List.cons_append, readMembers.eq_def]
  simp only [bind, Except.bind, List.cons_append, List.nil_append, isName, colon, space, skipped,
    isItem]
  rcases goesOn with ⟨closes, rfl⟩ | ⟨more, comma, areRead⟩
  · rw [closes]
    rfl
  · rw [comma]
    change (readMembers fuel (skipSpace more) >>= _) = _
    rw [areRead]
    rfl

/-- Members that have been written are read up to the bracket that closes their record. -/
theorem readMembers_writeMembers (blank : layout.IsBlank) {members : List (Text × Outline)}
    (unpaired : ∀ member ∈ members, Unpaired member.1.toList)
    (readsBack : ∀ member ∈ members, ReadsBack layout member.2) (notEmpty : members ≠ [])
    (areBlanks : ∀ c ∈ closing, c = ' ' ∨ c = '\n')
    (enough : 2 * (writeMembers layout depth members).length < fuel) :
    readMembers fuel (writeMembers layout depth members ++ (closing ++ '\x7d' :: rest)) =
      .ok (Outline.toMembers members, rest) := by
  induction members generalizing fuel with
  | nil => exact absurd rfl notEmpty
  | cons member later ih =>
      obtain ⟨name, item⟩ := member
      obtain ⟨first, others⟩ := List.forall_mem_cons.mp readsBack
      obtain ⟨unpairedName, unpairedOthers⟩ := List.forall_mem_cons.mp unpaired
      change ReadsBack layout item at first
      obtain ⟨fuel, rfl⟩ := Nat.exists_eq_add_one_of_ne_zero (Nat.ne_zero_of_lt enough)
      by_cases single : later = []
      · rw [single, writeMembers] at enough ⊢
        simp only [List.length_append, List.length_cons] at enough
        have skipped := skipSpace_append areBlanks (show isSpace '\x7d' = false from rfl) rest
        have ends := endsNumber_append areBlanks (show '\x7d' ∈ _ by decide) rest
        simp only [List.append_assoc, List.cons_append]
        exact readMembers_cons unpairedName first ends (by omega) (.inl ⟨skipped, rfl⟩)
      · obtain ⟨text, starts⟩ := exists_cons_of_writeMembers layout depth single
        rw [writeMembers_cons layout depth name item single] at enough ⊢
        simp only [List.length_append, List.length_cons] at enough
        have skipped : skipSpace (layout.gap depth ++ (writeMembers layout depth later ++
              (closing ++ '\x7d' :: rest))) =
            writeMembers layout depth later ++ (closing ++ '\x7d' :: rest) := by
          rw [starts]
          exact skipSpace_append (blank.gap depth) rfl _
        have areRead := @ih fuel unpairedOthers others single (by omega)
        have ends := endsNumber_cons (show ',' ∈ _ by decide) (layout.gap depth ++
          (writeMembers layout depth later ++ (closing ++ '\x7d' :: rest)))
        simp only [List.append_assoc, List.cons_append]
        exact readMembers_cons unpairedName first ends (by omega)
          (.inr ⟨_, rfl, by rw [skipped]; exact areRead⟩)

/-- The members of a record have its names. -/
theorem map_fst_toMembers (members : List (Text × Outline)) :
    (Outline.toMembers members).map Prod.fst = members.map Prod.fst := by
  induction members with
  | nil => rfl
  | cons member later ih => rw [Outline.toMembers, List.map_cons, List.map_cons, ih]

/-- What has parts stands between two brackets with blanks at its edges. -/
theorem enclose_append {parts : List Char} (notEmpty : parts ≠ []) (opening mark : Char) :
    layout.enclose depth opening mark parts ++ rest =
      opening :: (layout.edge (depth + 1) ++ (parts ++ (layout.edge depth ++ mark :: rest))) := by
  rw [Layout.enclose, if_neg notEmpty]
  simp

/-- What is enclosed is longer than its parts. -/
theorem length_lt_length_enclose (layout : Layout) (depth : Nat) (parts : List Char)
    (opening mark : Char) :
    parts.length + 1 < (layout.enclose depth opening mark parts).length := by
  unfold Layout.enclose
  split_ifs with empty
  · simp [empty]
  · simp only [List.length_append, List.length_cons, List.length_nil]
    omega

/-- What is enclosed ends with the bracket that closes it. -/
theorem getLast?_enclose (layout : Layout) (depth : Nat) (parts : List Char)
    (opening mark : Char) : (layout.enclose depth opening mark parts).getLast? = some mark := by
  unfold Layout.enclose
  split_ifs
  · rfl
  · exact List.getLast?_concat

/-- It is enough to look at fuel that is not used up. -/
theorem ReadsBack.of_succ {outline : Outline}
    (reads : ∀ depth fuel rest, EndsNumber rest →
      2 * (writeAt layout depth outline).length ≤ fuel + 1 →
        readValue (fuel + 1) (writeAt layout depth outline ++ rest) =
          .ok (outline.toValue, rest)) : ReadsBack layout outline := by
  intro depth fuel rest ends enough
  obtain ⟨c, text, starts, -⟩ := exists_cons_of_writeAt layout depth outline
  have positive : fuel ≠ 0 := by
    rintro rfl
    rw [starts, List.length_cons] at enough
    omega
  obtain ⟨fuel, rfl⟩ := Nat.exists_eq_add_one_of_ne_zero positive
  exact reads depth fuel rest ends enough

/-- An outline that is readable is read back wherever it has been written. -/
theorem readsBack_of_isReadable (blank : layout.IsBlank) {outline : Outline}
    (readable : outline.IsReadable) : ReadsBack layout outline := by
  induction readable with
  | text unpaired =>
      refine .of_succ fun depth fuel rest _ _ => ?_
      rw [writeAt, writeString, List.append_assoc, List.cons_append, readValue.eq_def]
      simp only [List.cons_append, List.nil_append, readText_writeString _ unpaired]
      rfl
  | flag isSet =>
      refine .of_succ fun depth fuel rest _ _ => ?_
      cases isSet <;> rfl
  | @count number fits =>
      refine .of_succ fun depth fuel rest ends _ => ?_
      obtain ⟨c, digits, written⟩ := List.exists_cons_of_ne_nil
        (show Nat.toDigits 10 number ≠ [] from Nat.toDigits_ne_nil)
      have isOne : c ∈ Nat.toDigits 10 number := by simp [written]
      have isDigit := Nat.isDigit_of_mem_toDigits (by decide) (by decide) isOne
      have isRead := readUnsigned_toDigits fits ends
      rw [writeAt]
      rw [written, List.cons_append] at isRead ⊢
      rw [readValue_of_isDigit isDigit, isRead]
      rfl
  | @list items _ readsBack =>
      refine .of_succ fun depth fuel rest _ enough => ?_
      rw [writeAt] at enough ⊢
      by_cases empty : items = []
      · rw [empty]
        rfl
      · obtain ⟨c, text, starts, notSpace, notClosing⟩ :=
          exists_cons_of_writeItems layout (depth + 1) empty
        have notNil : writeItems layout (depth + 1) items ≠ [] := by simp [starts]
        have shorter := length_lt_length_enclose layout depth
          (writeItems layout (depth + 1) items) '[' ']'
        have areRead : readItems fuel (writeItems layout (depth + 1) items ++
            (layout.edge depth ++ ']' :: rest)) = .ok (Outline.toValues items, rest) :=
          readItems_writeItems blank readsBack empty (blank.edge depth) (by omega)
        rw [enclose_append notNil, readValue.eq_def]
        rw [starts, List.cons_append] at areRead ⊢
        simp only [skipSpace_append (blank.edge (depth + 1)) notSpace]
        split
        · rename_i same
          exact absurd (List.cons.inj same).1 notClosing
        · rw [areRead]
          rfl
  | @record members differ unpaired _ readsBack =>
      refine .of_succ fun depth fuel rest _ enough => ?_
      rw [writeAt] at enough ⊢
      by_cases empty : members = []
      · rw [empty]
        rfl
      · obtain ⟨text, starts⟩ := exists_cons_of_writeMembers layout (depth + 1) empty
        have notNil : writeMembers layout (depth + 1) members ≠ [] := by simp [starts]
        have shorter := length_lt_length_enclose layout depth
          (writeMembers layout (depth + 1) members) '\x7b' '\x7d'
        have areRead : readMembers fuel (writeMembers layout (depth + 1) members ++
            (layout.edge depth ++ '\x7d' :: rest)) = .ok (Outline.toMembers members, rest) :=
          readMembers_writeMembers blank unpaired readsBack empty (blank.edge depth) (by omega)
        have same : Mapping.ofPairs (Outline.toMembers members) = Outline.toMembers members :=
          Mapping.ofPairs_of_nodup (by rwa [map_fst_toMembers])
        rw [enclose_append notNil, readValue.eq_def]
        rw [starts, List.cons_append] at areRead ⊢
        simp only [skipSpace_append (blank.edge (depth + 1)) (show isSpace '"' = false from rfl)]
        change (readMembers fuel ('"' :: (text ++ _)) >>= _) = _
        rw [areRead]
        exact congrArg (fun members => Except.ok (JsonValue.object members, rest)) same

end Parts

/-! ### Characters -/

/-- A text of printable characters of ASCII and line feeds. -/
def IsPlain (text : List Char) : Prop := ∀ c ∈ text, c = '\n' ∨ ' ' ≤ c ∧ c ≤ '~'

section Plain

variable {layout : Layout} {depth : Nat}

theorem IsPlain.append {text more : List Char} (plain : IsPlain text) (plainMore : IsPlain more) :
    IsPlain (text ++ more) :=
  List.forall_mem_append.mpr ⟨plain, plainMore⟩

theorem IsPlain.cons {c : Char} {text : List Char} (printable : ' ' ≤ c ∧ c ≤ '~')
    (plain : IsPlain text) : IsPlain (c :: text) :=
  List.forall_mem_cons.mpr ⟨.inr printable, plain⟩

theorem isPlain_nil : IsPlain [] := nofun

/-- Blanks are plain. -/
theorem isPlain_of_blank {blanks : List Char} (areBlanks : ∀ c ∈ blanks, c = ' ' ∨ c = '\n') :
    IsPlain blanks := by
  intro c isOne
  rcases areBlanks c isOne with rfl | rfl
  · exact .inr (by decide)
  · exact .inl rfl

/-- The digits of a unit are plain. -/
theorem isPlain_hex (width n : Nat) : IsPlain (Quoted.hex width n) := by
  have digits : ∀ m < 16, ' ' ≤ Nat.digitChar m ∧ Nat.digitChar m ≤ '~' := by decide
  induction width generalizing n with
  | zero => exact isPlain_nil
  | succ width ih => exact (ih _).append (.cons (digits _ (Nat.mod_lt _ (by decide))) isPlain_nil)

/-- Whatever a sign is, what is written for it is plain. -/
theorem isPlain_writeSign (sign : Sign) : IsPlain (writeSign sign) := by
  have backslash : ' ' ≤ '\\' ∧ '\\' ≤ '~' := by decide
  have unit : ∀ unit, IsPlain (writeUnit unit) := fun unit =>
    .cons backslash (.cons (by decide) (isPlain_hex 4 unit))
  have form := isForm_writeSign sign
  generalize writeSign sign = written at form ⊢
  cases form with
  | escape _ printable => exact .cons backslash (.cons printable isPlain_nil)
  | plain printable => exact .cons printable isPlain_nil
  | unit => exact unit _
  | pair => exact (unit _).append (unit _)

theorem isPlain_writeString (text : Text) : IsPlain (writeString text) := by
  refine .cons (by decide) (.append ?_ (.cons (by decide) isPlain_nil))
  intro c isOne
  obtain ⟨source, -, isOne⟩ := List.mem_flatMap.mp isOne
  exact isPlain_writeSign source c isOne

theorem isPlain_enclose (blank : layout.IsBlank) {parts : List Char} (plain : IsPlain parts)
    {opening mark : Char} (opens : ' ' ≤ opening ∧ opening ≤ '~')
    (closes : ' ' ≤ mark ∧ mark ≤ '~') : IsPlain (layout.enclose depth opening mark parts) := by
  have closing : IsPlain [mark] := .cons closes isPlain_nil
  have edge : ∀ depth, IsPlain (layout.edge depth) := fun depth =>
    isPlain_of_blank (blank.edge depth)
  unfold Layout.enclose
  split_ifs
  · exact .cons opens closing
  · exact ((IsPlain.cons opens (edge _)).append plain).append (edge _) |>.append closing

mutual

/-- Whatever an outline holds, what is written for it is plain. -/
theorem isPlain_writeAt (blank : layout.IsBlank) (depth : Nat) :
    ∀ outline, IsPlain (writeAt layout depth outline)
  | .text content => by
      rw [writeAt]
      exact isPlain_writeString content
  | .flag isSet => by
      rw [writeAt]
      cases isSet <;> simp [IsPlain]
  | .count number => by
      intro c isOne
      rw [writeAt] at isOne
      have isDigit := Nat.isDigit_of_mem_toDigits (by decide) (by decide) isOne
      simp only [Char.isDigit, Bool.and_eq_true, decide_eq_true_eq] at isDigit
      exact .inr ⟨le_trans (by decide) isDigit.1, le_trans isDigit.2 (by decide)⟩
  | .list items => by
      rw [writeAt]
      exact isPlain_enclose blank (isPlain_writeItems blank (depth + 1) items) (by decide)
        (by decide)
  | .record members => by
      rw [writeAt]
      exact isPlain_enclose blank (isPlain_writeMembers blank (depth + 1) members) (by decide)
        (by decide)

theorem isPlain_writeItems (blank : layout.IsBlank) (depth : Nat) :
    ∀ items, IsPlain (writeItems layout depth items)
  | [] => by
      rw [writeItems]
      exact isPlain_nil
  | item :: later => by
      have first := isPlain_writeAt blank depth item
      by_cases single : later = []
      · rw [single, writeItems]
        exact first
      · rw [writeItems_cons layout depth item single]
        exact first.append (.cons (by decide) ((isPlain_of_blank (blank.gap depth)).append
          (isPlain_writeItems blank depth later)))

theorem isPlain_writeMembers (blank : layout.IsBlank) (depth : Nat) :
    ∀ members, IsPlain (writeMembers layout depth members)
  | [] => by
      rw [writeMembers]
      exact isPlain_nil
  | (name, item) :: later => by
      have named := isPlain_writeString name
      have first := isPlain_writeAt blank depth item
      by_cases single : later = []
      · rw [single, writeMembers]
        exact named.append (.cons (by decide) (.cons (by decide) first))
      · rw [writeMembers_cons layout depth name item single]
        exact named.append (.cons (by decide) (.cons (by decide) (first.append (.cons (by decide)
          ((isPlain_of_blank (blank.gap depth)).append
            (isPlain_writeMembers blank depth later))))))

end

end Plain

/-! ### Texts -/

/-- A readable outline that has been written is read as the value that it is. -/
theorem read_writeAt {layout : Layout} (blank : layout.IsBlank) {outline : Outline}
    (readable : outline.IsReadable) : read (writeAt layout 0 outline) = .ok outline.toValue := by
  obtain ⟨c, text, starts, notSpace, -⟩ := exists_cons_of_writeAt layout 0 outline
  have plain : IsPlain (c :: text) := starts ▸ isPlain_writeAt blank 0 outline
  have noMark : (c :: text).head? ≠ some '\ufeff' := by
    intro same
    obtain rfl : c = '\ufeff' := Option.some.inj same
    exact absurd (plain '\ufeff' List.mem_cons_self) (by decide)
  have skipped : skipSpace (c :: text) = c :: text :=
    List.dropWhile_cons_of_neg (by simp [notSpace])
  have isRead := readsBack_of_isReadable blank readable 0
    (2 * (writeAt layout 0 outline).length + 1) [] nofun (Nat.le_succ _)
  rw [List.append_nil, starts] at isRead
  rw [read, starts, if_neg noMark, skipped, isRead]
  rfl

end JsonText

end BundleEmbed
