import BundleEmbed.Proofs.Reader
import BundleEmbed.Proofs.Runs
import BundleEmbed.Regex.Read

/-!
Numbers that are too large for a regular expression.

A text is refused as malformed at a place, or for a number (`Regex.Refusal`): a count that no
repetition has, a count with more digits than are read, or a code point beyond every width.
Such a number is to be blamed on the text: its digits stand there one after the other.

* `Progress.read_leaves`: a construct that is read leaves an end of the text, and a number that
  refuses it is in the text before.
* `isDueTo_of_read`: so a text that is refused for a number holds one that is too large.
-/

namespace BundleEmbed.Regex

/-- Digits that stand in a text one after the other. -/
def DigitsIn (text : List Sign) (run : List Char) : Prop :=
  RunIn (Sign.isChar Char.isDigit) text (run.map .char)

/-- A text holds a number that is too large: digits that write a count beyond those of any
repetition, more digits than are read, or an escaped code point beyond every width. -/
inductive HoldsHugeNumber (text : List Sign) : Prop where
  | count {run : List Char} (isRun : DigitsIn text run) (huge : repeatLimit ≤ numberOf 10 run)
  | long {run : List Char} (isRun : DigitsIn text run) (long : digitLimit < run.length)
  | code {digits : List Char} (inside : .char 'U' :: digits.map .char <:+: text)
      (isCode : ∀ c ∈ digits, isHexDigit c = true) (eight : digits.length = 8)
      (huge : 0x7fffffff < numberOf 16 digits)

theorem HoldsHugeNumber.trans {text whole : List Sign} (huge : HoldsHugeNumber text)
    (part : text <:+: whole) : HoldsHugeNumber whole := by
  cases huge with
  | count isRun huge => exact .count (isRun.trans part) huge
  | long isRun long => exact .long (isRun.trans part) long
  | code inside isCode eight huge => exact .code (inside.trans part) isCode eight huge

/-- What a refusal is due to in a text: a refusal for a number, to one that is too large. -/
def Refusal.IsDueTo (text : List Sign) : Refusal → Prop
  | .malformed _ => True
  | _ => HoldsHugeNumber text

section Steps

variable {whole text rest after : List Sign}

theorem faultBefore_gives {α : Type} {kind : α → Prop} (rest : List Sign) (cause : Cause) :
    Gives (Refusal.IsDueTo whole) kind (faultBefore rest cause) := trivial

theorem faultAt_gives {α : Type} {kind : α → Prop} (rest : List Sign) (back : Nat)
    (cause : Cause) : Gives (Refusal.IsDueTo whole) kind (faultAt rest back cause) := trivial

theorem past_gives (rest : List Sign) :
    Gives (Refusal.IsDueTo whole) (· = rest) (past rest) := by
  unfold past
  split
  · exact faultBefore_gives _ _
  · rfl

/-- A step goes on behind a character when what it does there is right. -/
theorem past_bind {α : Type} {kind : α → Prop} {next : List Sign → Except Refusal α}
    (onwards : Gives (Refusal.IsDueTo whole) kind (next rest)) :
    Gives (Refusal.IsDueTo whole) kind (past rest >>= next) :=
  (past_gives rest).bind fun _ same => same ▸ onwards

/-- Characters of a kind are taken from the start of a text, up to a number of them. -/
theorem takeUpTo_gives (wanted : Char → Bool) (count : Nat) (text : List Sign) :
    Gives (Refusal.IsDueTo whole) (fun (taken, rest) =>
      taken.map .char ++ rest = text ∧ (∀ c ∈ taken, wanted c = true) ∧ taken.length ≤ count)
      (takeUpTo wanted count text) := by
  induction count generalizing text with
  | zero => exact ⟨rfl, by simp, le_rfl⟩
  | succ count ih =>
      cases text with
      | nil => exact ⟨rfl, by simp, Nat.zero_le _⟩
      | cons sign rest =>
          cases sign with
          | surrogate offset => exact ⟨rfl, by simp, Nat.zero_le _⟩
          | char c =>
              rw [takeUpTo]
              split
              · rename_i isWanted
                refine past_bind ((ih rest).bind ?_)
                rintro ⟨taken, after⟩ ⟨split, areWanted, short⟩
                refine ⟨congrArg (Sign.char c :: ·) split, ?_, Nat.succ_le_succ short⟩
                exact List.forall_mem_cons.mpr ⟨isWanted, areWanted⟩
              · exact ⟨rfl, by simp, Nat.zero_le _⟩

/-! ### Escapes -/

/-- The letter of an escape, and the number of digits that follow it. Only eight digits can
write a code point that is too large. -/
def IsHexEscape (letter : Char) (count : Nat) : Prop := letter = 'U' ∧ count = 8 ∨ count ≤ 4

theorem readHexCode_leaves {letter : Char} {count : Nat} (escape : IsHexEscape letter count)
    (inside : .char letter :: rest <:+ whole) :
    Leaves Refusal.IsDueTo whole (readHexCode letter count rest) := by
  refine (takeUpTo_gives isHexDigit count rest).bind ?_
  rintro ⟨digits, after⟩ ⟨split, isCode, short⟩
  dsimp only
  split_ifs with few tooLarge large
  · exact faultAt_gives _ _ _
  · have all : digits.length = count := le_antisymm short (not_lt.mp few)
    rcases escape with ⟨rfl, rfl⟩ | small
    · have isPrefix : .char 'U' :: digits.map .char <+: .char 'U' :: rest := by
        rw [← split, ← List.cons_append]
        exact List.prefix_append _ _
      exact .code (isPrefix.isInfix.trans inside.isInfix) isCode all tooLarge
    · have bound : numberOf 16 digits < 16 ^ digits.length := numberOf_lt isCode
      have few : 16 ^ digits.length ≤ 16 ^ 4 := Nat.pow_le_pow_right (by decide) (all ▸ small)
      omega
  · exact faultAt_gives _ _ _
  · exact .trans ⟨.char letter :: digits.map .char, congrArg (Sign.char letter :: ·) split⟩ inside

theorem readName_leaves (fuel : Nat) (name : List Sign) (inside : text <:+ whole) :
    Leaves Refusal.IsDueTo whole (readName fuel name text) := by
  induction fuel generalizing name text with
  | zero =>
      cases text with
      | nil =>
          rw [readName]
          split
          · exact faultBefore_gives _ _
          · exact faultAt_gives _ _ _
      | cons c rest =>
          rw [readName]
          · exact inside
          · nofun
  | succ fuel ih =>
      rw [readName.eq_def]
      split
      · split
        · exact faultBefore_gives _ _
        · exact faultAt_gives _ _ _
      · cases ‹_ = _›
        exact past_bind (ih _ (suffix_of_cons_suffix (suffix_of_cons_suffix inside)))
      · cases ‹_ = _›
        refine past_bind ?_
        split_ifs
        · exact faultAt_gives _ _ _
        · exact suffix_of_cons_suffix inside
        · exact ih _ (suffix_of_cons_suffix inside)
      · exact inside

theorem readNamed_leaves (inside : text <:+ whole) :
    Leaves Refusal.IsDueTo whole (readNamed text) := by
  unfold readNamed
  split
  · refine past_bind ((readName_leaves _ _ (suffix_of_cons_suffix inside)).bind ?_)
    rintro ⟨name, rest⟩ restInside
    dsimp only
    split
    · exact faultAt_gives _ _ _
    · split
      · exact restInside
      · exact faultAt_gives _ _ _
  · exact faultBefore_gives _ _

/-- An escape that spells a code point out leaves an end of the text. -/
theorem readSpelled_gives {letter : Char} (inside : .char letter :: rest <:+ whole) :
    Gives (Refusal.IsDueTo whole) (fun found => ∀ code after, found = some (code, after) →
      after <:+ whole) (readSpelled letter rest) := by
  have some : ∀ {step : Except Refusal (Nat × List Sign)},
      Leaves Refusal.IsDueTo whole step →
        Gives (Refusal.IsDueTo whole) (fun found => ∀ code after, found = some (code, after) →
          after <:+ whole) (Option.some <$> step) := fun leaves =>
    leaves.map fun ⟨_, _⟩ afterInside _ _ same => by cases same; exact afterInside
  unfold readSpelled
  split
  · exact some (readHexCode_leaves (.inr (by decide)) inside)
  · exact some (readHexCode_leaves (.inr (by decide)) inside)
  · exact some (readHexCode_leaves (.inl ⟨rfl, rfl⟩) inside)
  · exact some (readNamed_leaves (suffix_of_cons_suffix inside))
  · exact fun _ _ => nofun

theorem readOctal_leaves (first : Char) (inside : rest <:+ whole) :
    Leaves Refusal.IsDueTo whole (readOctal first rest) := by
  refine (takeUpTo_gives isOctalDigit 2 rest).bind ?_
  rintro ⟨digits, after⟩ ⟨split, -, -⟩
  dsimp only
  split_ifs
  · exact faultAt_gives _ _ _
  · exact .trans ⟨digits.map .char, split⟩ inside

theorem readPlain_leaves (c : Char) (inside : rest <:+ whole) :
    Leaves Refusal.IsDueTo whole (readPlain c rest) := by
  unfold readPlain
  split_ifs
  · exact faultAt_gives _ _ _
  · exact inside

/-! ### Sets in brackets -/

theorem readSetEscape_leaves {c : Char} (inside : .char c :: rest <:+ whole) :
    Leaves Refusal.IsDueTo whole (readSetEscape c rest) := by
  have restInside := suffix_of_cons_suffix inside
  unfold readSetEscape
  split
  · exact restInside
  split
  · exact restInside
  split
  · exact restInside
  refine (readSpelled_gives inside).bind fun spelled spelledInside => ?_
  split
  · exact spelledInside _ _ rfl
  split
  · exact (readOctal_leaves c restInside).bind fun _ afterInside => afterInside
  split
  · exact faultAt_gives _ _ _
  · exact (readPlain_leaves c restInside).bind fun _ afterInside => afterInside

theorem readMember_leaves (inside : text <:+ whole) :
    Leaves Refusal.IsDueTo whole (readMember text) := by
  unfold readMember
  split
  · exact past_bind (readSetEscape_leaves (suffix_of_cons_suffix inside))
  · exact past_bind (suffix_of_cons_suffix (suffix_of_cons_suffix inside))
  · exact past_bind (suffix_of_cons_suffix inside)
  · exact faultBefore_gives _ _

theorem readItems_leaves (start : List Sign) (fuel : Nat) (items : List SetItem)
    (inside : text <:+ whole) :
    Leaves Refusal.IsDueTo whole (readItems start fuel items text) := by
  induction fuel generalizing items text with
  | zero => cases text <;> exact faultBefore_gives _ _
  | succ fuel ih =>
      cases text with
      | nil => exact faultBefore_gives _ _
      | cons c rest =>
          rw [readItems.eq_def]
          dsimp only
          split
          · exact past_bind (suffix_of_cons_suffix inside)
          refine (readMember_leaves inside).bind ?_
          rintro ⟨low, rest⟩ restInside
          dsimp only
          split
          · refine past_bind ?_
            have afterDash := suffix_of_cons_suffix restInside
            split
            · exact faultBefore_gives _ _
            · exact past_bind (suffix_of_cons_suffix afterDash)
            · refine (readMember_leaves afterDash).bind ?_
              rintro ⟨high, rest⟩ restInside
              dsimp only
              split
              · exact ih _ restInside
              · exact faultAt_gives _ _ _
          · exact ih _ restInside

theorem readSet_leaves (start : List Sign) (inside : rest <:+ whole) :
    Leaves Refusal.IsDueTo whole (readSet start rest) := by
  refine past_bind ?_
  split
  · refine past_bind ?_
    exact (readItems_leaves _ _ _ (suffix_of_cons_suffix inside)).bind fun _ after => after
  · exact (readItems_leaves _ _ _ inside).bind fun _ after => after

/-! ### Repetitions -/

/-- The digits of a count that is refused write a number that is too large. -/
theorem readCount_gives {digits : List Char} (isRun : DigitsIn whole digits) :
    Gives (Refusal.IsDueTo whole) (fun _ => True) (readCount digits) := by
  unfold readCount
  dsimp only
  split_ifs with long huge
  · exact .long isRun long
  · exact .count isRun huge
  · trivial

/-- A count that has been taken is a run of digits in the text, and an end of it follows. -/
def CountIn (whole : List Sign) (found : List Char × List Sign) : Prop :=
  DigitsIn whole found.1 ∧ found.2 <:+ whole

theorem takeCount_gives (count : Nat) (inside : text <:+ whole) :
    Gives (Refusal.IsDueTo whole) (CountIn whole) (takeUpTo Char.isDigit count text) := by
  refine (takeUpTo_gives _ count _).mono ?_
  rintro ⟨run, rest⟩ ⟨split, isRun, -⟩
  have isPrefix : run.map .char <+: text := ⟨rest, split⟩
  have areDigits : ∀ c ∈ run.map Sign.char, Sign.isChar Char.isDigit c = true :=
    List.forall_mem_map.mpr isRun
  exact ⟨⟨isPrefix.isInfix.trans inside.isInfix, areDigits⟩, .trans ⟨run.map .char, split⟩ inside⟩

/-- Two counts are runs of digits in the text, and an end of it follows them. -/
theorem readCounts_gives (inside : text <:+ whole) :
    Gives (Refusal.IsDueTo whole) (fun found => ∀ least most rest,
      found = some ((least, most), rest) →
        DigitsIn whole least ∧ DigitsIn whole most ∧ rest <:+ whole)
      (readCounts text) := by
  unfold readCounts
  split
  · exact fun _ _ _ => nofun
  refine (takeCount_gives _ inside).bind ?_
  rintro ⟨least, rest⟩ ⟨leastIn, restInside⟩
  dsimp only
  split
  on_goal 1 =>
    refine past_bind ((takeCount_gives _ (suffix_of_cons_suffix restInside)).bind ?_)
  on_goal 2 =>
    have single : Gives (Refusal.IsDueTo whole) (CountIn whole) (pure (least, rest)) :=
      ⟨leastIn, restInside⟩
    refine single.bind ?_
  all_goals
    rintro ⟨most, rest⟩ ⟨mostIn, restInside⟩
    dsimp only
    split
    · refine past_bind fun _ _ _ same => ?_
      cases same
      exact ⟨leastIn, mostIn, suffix_of_cons_suffix restInside⟩
    · exact fun _ _ _ => nofun

theorem boundsOf_gives (inside : List Sign) {least most : List Char}
    (leastIn : DigitsIn whole least) (mostIn : DigitsIn whole most) :
    Gives (Refusal.IsDueTo whole) (fun _ => True) (boundsOf inside least most) := by
  have upper : ∀ lower : Nat, Gives (Refusal.IsDueTo whole) (fun _ => True) (do
      if most.isEmpty then return (⟨lower, none⟩ : Bounds)
      let upper ← readCount most
      if upper < lower then faultBefore inside .leastAboveMost
      return ⟨lower, some upper⟩) := fun lower => by
    split
    · trivial
    refine (readCount_gives mostIn).bind fun upper _ => ?_
    split
    · exact faultBefore_gives _ _
    · trivial
  unfold boundsOf
  dsimp only
  split
  · exact upper 0
  · exact (readCount_gives leastIn).bind fun lower _ => upper lower

/-! ### Constructs -/

theorem Progress.reference_leaves (progress : Progress) (digits : List Char)
    (inside : rest <:+ whole) :
    Leaves Refusal.IsDueTo whole (progress.reference digits rest) := by
  unfold reference
  dsimp only
  split_ifs
  · exact faultAt_gives _ _ _
  · exact faultAt_gives _ _ _
  · exact inside

theorem Progress.readNumbered_leaves (progress : Progress) (first : Char)
    (inside : rest <:+ whole) :
    Leaves Refusal.IsDueTo whole (progress.readNumbered first rest) := by
  unfold readNumbered
  split
  · have afterSecond := suffix_of_cons_suffix inside
    split
    · refine past_bind ?_
      split
      · split
        · refine past_bind ?_
          dsimp only
          split
          · exact faultAt_gives _ _ _
          · exact suffix_of_cons_suffix afterSecond
        · exact progress.reference_leaves _ afterSecond
      · exact progress.reference_leaves _ afterSecond
    · exact progress.reference_leaves _ inside
  · exact progress.reference_leaves _ inside

theorem Progress.readEscape_leaves (progress : Progress) {c : Char}
    (inside : .char c :: rest <:+ whole) :
    Leaves Refusal.IsDueTo whole (progress.readEscape c rest) := by
  have restInside := suffix_of_cons_suffix inside
  unfold readEscape
  split
  · exact restInside
  split
  · exact restInside
  split
  · exact restInside
  refine (readSpelled_gives inside).bind fun spelled spelledInside => ?_
  split
  · exact spelledInside _ _ rfl
  split
  · exact (readOctal_leaves c restInside).bind fun _ afterInside => afterInside
  split
  · exact progress.readNumbered_leaves c restInside
  · exact (readPlain_leaves c restInside).bind fun _ afterInside => afterInside

theorem Progress.repeatLast_leaves (progress : Progress) (bounds : Bounds) (start : List Sign)
    (inside : rest <:+ whole) :
    Leaves Refusal.IsDueTo whole (progress.repeatLast bounds start rest) := by
  unfold repeatLast
  split
  · exact faultBefore_gives _ _
  · exact faultBefore_gives _ _
  · dsimp only
    split
    · exact faultBefore_gives _ _
    · split
      · exact past_bind (suffix_of_cons_suffix inside)
      · exact inside

/-- A construct that is read leaves an end of the text, and a number that refuses it is in the
text before. -/
theorem Progress.read_leaves (progress : Progress) {c : Sign} (inside : c :: after <:+ whole) :
    Leaves Refusal.IsDueTo whole (progress.read c after) := by
  have afterInside := suffix_of_cons_suffix inside
  unfold read
  split
  · exact past_bind afterInside
  · split
    · exact faultBefore_gives _ _
    · exact past_bind afterInside
  · exact past_bind afterInside
  · exact (readSet_leaves _ afterInside).bind fun _ after => after
  · exact past_bind afterInside
  · exact past_bind afterInside
  · exact past_bind afterInside
  · exact past_bind (progress.repeatLast_leaves _ _ afterInside)
  · exact past_bind (progress.repeatLast_leaves _ _ afterInside)
  · exact past_bind (progress.repeatLast_leaves _ _ afterInside)
  · refine past_bind ((readCounts_gives afterInside).bind fun counts countsIn => ?_)
    split
    · exact afterInside
    · obtain ⟨leastIn, mostIn, restInside⟩ := countsIn _ _ _ rfl
      refine (boundsOf_gives _ leastIn mostIn).bind fun bounds _ => ?_
      exact progress.repeatLast_leaves bounds _ restInside
  · split
    · exact faultBefore_gives _ _
    · refine past_bind ((progress.readEscape_leaves afterInside).bind ?_)
      exact fun _ after => after
    · exact past_bind (suffix_of_cons_suffix afterInside)
  · exact past_bind afterInside

theorem Progress.readAll_gives (fuel : Nat) (progress : Progress) (inside : text <:+ whole) :
    Gives (Refusal.IsDueTo whole) (fun _ => True) (progress.readAll fuel text) := by
  have finishes : ∀ progress : Progress,
      Gives (Refusal.IsDueTo whole) (fun _ => True) progress.finish := fun progress => by
    unfold finish
    split
    · trivial
    · exact faultBefore_gives _ _
  induction fuel generalizing progress text with
  | zero => cases text <;> exact finishes progress
  | succ fuel ih =>
      cases text with
      | nil => exact finishes progress
      | cons c after =>
          refine (progress.read_leaves inside).bind ?_
          exact fun (next, rest) restInside => ih next restInside

end Steps

/-- A text that is refused, but not as malformed, holds a number that is too large. -/
theorem isDueTo_of_read {text : List Sign} {refusal : Refusal}
    (refused : read text = .error refusal) : refusal.IsDueTo text := by
  have gives : Gives (Refusal.IsDueTo text) (fun _ => True) (read text) :=
    past_bind (Progress.readAll_gives _ _ List.suffix_rfl)
  exact gives.allowed_of_eq_error refused

end BundleEmbed.Regex
