import BundleEmbed.Proofs.Regex.Continuation
import BundleEmbed.Proofs.Regex.Reading

/-!
Reading whole texts, and texts that go on.

What reading the constructs of a text comes to is told by `Progress.ReadsTo`, with the progress at
its end, so that reading can go on from there. The reader of expressions gives what it comes to
when no group is left open.

* `Progress.read_readsOn`: a construct is read alike on a text and on the text that goes on.
* `Progress.ReadsTo.append`: so are all constructs of a text.
* `exists_error_of_endsInEscape`: a text that ends within an escape is refused.
-/

namespace BundleEmbed.Regex

section Constructs

variable {more whole rest : List Sign}

/-! ### Constructs -/

/-- What has been read of a text that goes on: the open groups start before more text. -/
def Progress.withMore (more : List Sign) (progress : Progress) : Progress :=
  { progress with
    around := progress.around.map fun inner => { inner with start := inner.start ++ more } }

@[simp] theorem Progress.groups_withMore (progress : Progress) :
    (progress.withMore more).groups = progress.groups := rfl

@[simp] theorem Progress.current_withMore (progress : Progress) :
    (progress.withMore more).current = progress.current := rfl

@[simp] theorem Progress.isOpen_withMore (progress : Progress) (group : Nat) :
    (progress.withMore more).around.any (·.index == group) =
      progress.around.any (·.index == group) := by
  simp [withMore, Function.comp_def]

/-- A construct that has been read with the text after it, where the text goes on. -/
def Progress.stepWithMore (more : List Sign) (found : Progress × List Sign) :
    Progress × List Sign :=
  (found.1.withMore more, found.2 ++ more)

theorem Progress.reference_readsOn (progress : Progress) (digits : List Char)
    (left : IsRest whole rest) :
    ReadsOn more (LeavesRest whole) (Regex.withMore more) (progress.reference digits rest)
      ((progress.withMore more).reference digits (rest ++ more)) := by
  unfold reference
  dsimp only
  rw [isOpen_withMore, groups_withMore]
  split_ifs
  · exact .failed
  · exact .failed
  · exact .ok left

theorem Progress.readNumbered_readsOn (goesOn : GoesOn more) (progress : Progress) (first : Char)
    (left : IsRest whole rest) :
    ReadsOn more (LeavesRest whole) (Regex.withMore more) (progress.readNumbered first rest)
      ((progress.withMore more).readNumbered first (rest ++ more)) := by
  have single := @reference_readsOn more _ _ progress [first] left
  unfold readNumbered
  rcases rest with _ | ⟨_ | _, rest⟩
  · obtain ⟨c, later, rfl, rfl | rfl⟩ := goesOn <;> exact single
  · rename_i second
    rw [List.cons_append]
    dsimp only
    split
    · rename_i isDigit
      have isLeft := left.tail (by rintro ⟨⟩; cases isDigit)
      have double := @reference_readsOn more _ _ progress [first, second] isLeft
      refine past_readsOn isLeft ?_
      rcases rest with _ | ⟨_ | _, rest⟩
      · obtain ⟨c, later, rfl, rfl | rfl⟩ := goesOn
        all_goals
          dsimp only [List.nil_append]
          rw [if_neg (by simp [isOctalDigit])]
          exact double
      · rename_i third
        rw [List.cons_append]
        dsimp only
        split
        · rename_i areDigits
          have isLeft := isLeft.tail (by rintro ⟨⟩; simp [isOctalDigit] at areDigits)
          refine past_readsOn isLeft ?_
          split_ifs
          · exact .failed
          · exact .ok isLeft
        · exact double
      · exact double
    · exact single
  · exact single

theorem Progress.readEscape_readsOn (goesOn : GoesOn more) (progress : Progress) (c : Char)
    (left : IsRest whole rest) :
    ReadsOn more (LeavesRest whole) (Regex.withMore more) (progress.readEscape c rest)
      ((progress.withMore more).readEscape c (rest ++ more)) := by
  unfold readEscape
  cases assertionOf c with
  | some assertion => exact .ok left
  | none =>
  dsimp only
  cases categoryOf c with
  | some category => exact .ok left
  | none =>
  dsimp only
  cases controlCode c with
  | some code => exact .ok left
  | none =>
  refine (readSpelled_readsOn goesOn c left).bind fun spelled isLeft => ?_
  cases spelled with
  | some found => exact .ok (isLeft found rfl)
  | none =>
  dsimp only [Option.map_none]
  split
  · exact (readOctal_readsOn goesOn c left).bind fun _ isLeft => .ok isLeft
  split
  · exact progress.readNumbered_readsOn goesOn c left
  · exact (readPlain_readsOn c left).bind fun _ isLeft => .ok isLeft

theorem Progress.repeatLast_readsOn (goesOn : GoesOn more) (progress : Progress) (bounds : Bounds)
    (start start' : List Sign) (left : IsRest whole rest) :
    ReadsOn more (LeavesRest whole) (stepWithMore more) (progress.repeatLast bounds start rest)
      ((progress.withMore more).repeatLast bounds start' (rest ++ more)) := by
  unfold repeatLast
  rw [current_withMore]
  split
  · exact .failed
  · exact .failed
  dsimp only
  split
  · exact .failed
  rcases rest with _ | ⟨c, rest⟩
  · obtain ⟨d, later, rfl, rfl | rfl⟩ := goesOn <;> exact .ok left
  by_cases possessive : c = .char '+'
  · subst possessive
    have isLeft := left.tail (by decide)
    exact past_readsOn isLeft (.ok isLeft)
  · rw [List.cons_append]
    split
    · exact absurd (List.cons.inj ‹_ :: _ = _›).1 possessive
    split
    · exact absurd (List.cons.inj ‹_ :: _ = _›).1 possessive
    exact .ok left

/-- A construct is read alike on a text and on the text that goes on. It takes at least its first
character. -/
theorem Progress.read_readsOn (goesOn : GoesOn more) (progress : Progress) {c : Sign}
    (closed : endsInEscape (c :: rest) = false) :
    ReadsOn more (LeavesRest rest) (stepWithMore more) (progress.read c rest)
      ((progress.withMore more).read c (rest ++ more)) := by
  have single (notEscape : c ≠ .char '\\') : IsRest rest rest :=
    ⟨List.suffix_rfl, by simpa [notEscape] using closed⟩
  unfold read
  split
  · have left := single (by decide)
    exact past_readsOn left (.ok left)
  · have left := single (by decide)
    obtain ⟨groups, current, around⟩ := progress
    cases around with
    | nil => exact .failed
    | cons inner around => exact past_readsOn left (.ok left)
  · have left := single (by decide)
    exact past_readsOn left (.ok left)
  · exact (readSet_readsOn goesOn _ _ (single (by decide))).bind fun _ isLeft => .ok isLeft
  · have left := single (by decide)
    exact past_readsOn left (.ok left)
  · have left := single (by decide)
    exact past_readsOn left (.ok left)
  · have left := single (by decide)
    exact past_readsOn left (.ok left)
  · have left := single (by decide)
    exact past_readsOn left (progress.repeatLast_readsOn goesOn _ _ _ left)
  · have left := single (by decide)
    exact past_readsOn left (progress.repeatLast_readsOn goesOn _ _ _ left)
  · have left := single (by decide)
    exact past_readsOn left (progress.repeatLast_readsOn goesOn _ _ _ left)
  · have left := single (by decide)
    refine past_readsOn left ((readCounts_readsOn goesOn left).bind fun counts isLeft => ?_)
    cases counts with
    | none => exact .ok left
    | some counts =>
        refine (boundsOf_readsOn rest (rest ++ more) counts.1.1 counts.1.2).bind fun bounds _ => ?_
        exact progress.repeatLast_readsOn goesOn bounds _ _ (isLeft counts rfl)
  · cases rest with
    | nil => cases closed
    | cons escaped rest =>
        have left : IsRest (escaped :: rest) rest := ⟨List.suffix_cons _ _, closed⟩
        cases escaped with
        | char escaped =>
            refine past_readsOn left ((progress.readEscape_readsOn goesOn escaped left).bind ?_)
            exact fun _ isLeft => .ok isLeft
        | surrogate offset => exact past_readsOn left (.ok left)
  · have left := single (by assumption)
    exact past_readsOn left (.ok left)

end Constructs

/-! ### Whole texts -/

/-- What reading the constructs of a text one after the other comes to: what has been read in the
end, or the refusal of a construct. -/
inductive Progress.ReadsTo : Progress → List Sign → Except Refusal Progress → Prop
  | done (progress : Progress) : ReadsTo progress [] (.ok progress)
  | refused {progress : Progress} {c : Sign} {after : List Sign} {refusal : Refusal}
      (here : progress.read c after = .error refusal) :
      ReadsTo progress (c :: after) (.error refusal)
  | step {progress next : Progress} {c : Sign} {after rest : List Sign}
      {result : Except Refusal Progress} (here : progress.read c after = .ok (next, rest))
      (shorter : rest.length ≤ after.length) (later : ReadsTo next rest result) :
      ReadsTo progress (c :: after) result

namespace Progress

variable {progress : Progress} {text more : List Sign} {result : Except Refusal Progress}

/-- The reader gives the expression of what reading the constructs comes to. -/
theorem ReadsTo.readAll_eq (reads : progress.ReadsTo text result) {fuel : Nat}
    (enough : text.length ≤ fuel) : progress.readAll fuel text = result >>= finish := by
  induction reads generalizing fuel with
  | done progress => cases fuel <;> rfl
  | refused here =>
      cases fuel with
      | zero => cases enough
      | succ fuel =>
          rw [readAll, here]
          rfl
  | step here shorter later ih =>
      cases fuel with
      | zero => cases enough
      | succ fuel =>
          rw [readAll_cons here]
          exact ih (shorter.trans (Nat.le_of_succ_le_succ enough))

/-- A construct of a text that does not end within an escape leaves a rest of it. -/
theorem isRest_of_read {next : Progress} {c : Sign} {after rest : List Sign}
    (closed : endsInEscape (c :: after) = false) (here : progress.read c after = .ok (next, rest)) :
    IsRest after rest := by
  have alike := @read_readsOn [.char '|'] _ ⟨.char '|', [], rfl, .inr rfl⟩ progress _ closed
  rw [here] at alike
  generalize (progress.withMore [.char '|']).read c (after ++ [.char '|']) = long at alike
  cases alike with
  | ok isLeft => exact isLeft
  | cut isLeft => exact isLeft

/-- Reading a text that does not end within an escape comes to something. -/
theorem exists_readsTo (progress : Progress) (closed : endsInEscape text = false) :
    ∃ result, progress.ReadsTo text result := by
  induction length : text.length using Nat.strong_induction_on generalizing progress text with
  | _ n ih =>
  cases text with
  | nil => exact ⟨_, .done progress⟩
  | cons c after =>
      cases here : progress.read c after with
      | error refusal => exact ⟨_, .refused here⟩
      | ok found =>
          obtain ⟨next, rest⟩ := found
          have left := isRest_of_read closed here
          have shorter := left.isSuffix.length_le
          obtain ⟨result, later⟩ := ih rest.length
            (by rw [← length, List.length_cons]; omega) next left.closed rfl
          exact ⟨result, .step here shorter later⟩

/-- Reading a text that goes on. Where the text can be read, what it goes on with is read with what
has been read; where it cannot, neither can the text that goes on, unless a set has been left open
that may be closed there. -/
theorem ReadsTo.append (goesOn : GoesOn more) (reads : progress.ReadsTo text result)
    (closed : endsInEscape text = false) :
    (∃ last, result = .ok last ∧ ∀ whole, (last.withMore more).ReadsTo more whole →
        (progress.withMore more).ReadsTo (text ++ more) whole) ∨
      (∃ refusal, (progress.withMore more).ReadsTo (text ++ more) (.error refusal)) ∧
        ((∃ refusal, result = .error refusal) ∨ more = [.char '\\']) ∨
      (∃ remaining, result = .error (.malformed ⟨.unterminatedSet, remaining⟩)) ∧
        .char ']' ∈ more := by
  induction reads with
  | done progress => exact .inl ⟨progress, rfl, fun whole later => later⟩
  | @refused progress c after refusal here =>
      have alike := progress.read_readsOn goesOn closed
      rw [here] at alike
      generalize given : (progress.withMore more).read c (after ++ more) = long at alike
      cases alike with
      | failed => exact .inr (.inl ⟨⟨_, .refused given⟩, .inl ⟨_, rfl⟩⟩)
      | openSet closes => exact .inr (.inr ⟨⟨_, rfl⟩, closes⟩)
  | @step progress next c after rest result here shorter later ih =>
      have left := isRest_of_read closed here
      have alike := progress.read_readsOn goesOn closed
      rw [here] at alike
      generalize given : (progress.withMore more).read c (after ++ more) = long at alike
      cases alike with
      | cut isLeft lone => exact .inr (.inl ⟨⟨_, .refused given⟩, .inr lone⟩)
      | ok isLeft =>
          have onwards {whole : Except Refusal Progress}
              (reads : (next.withMore more).ReadsTo (rest ++ more) whole) :
              (progress.withMore more).ReadsTo (c :: after ++ more) whole :=
            .step given (by simpa [stepWithMore] using shorter) reads
          rcases ih left.closed with ⟨last, same, whole⟩ | ⟨⟨refusal, refused⟩, why⟩ | openSet
          · exact .inl ⟨last, same, fun whole' later => onwards (whole whole' later)⟩
          · exact .inr (.inl ⟨⟨refusal, onwards refused⟩, why⟩)
          · exact .inr (.inr openSet)

/-- What a text goes on with is read with what has been read of the text. -/
theorem ReadsTo.append_of_ok {last : Progress} {whole : Except Refusal Progress}
    (goesOn : GoesOn more) (notLone : more ≠ [.char '\\']) (closed : endsInEscape text = false)
    (reads : progress.ReadsTo text (.ok last)) (later : (last.withMore more).ReadsTo more whole) :
    (progress.withMore more).ReadsTo (text ++ more) whole := by
  rcases reads.append goesOn closed with
    ⟨other, same, onwards⟩ | ⟨-, ⟨_, same⟩ | lone⟩ | ⟨⟨_, same⟩, -⟩
  · cases same
    exact onwards whole later
  · cases same
  · exact absurd lone notLone
  · cases same

end Progress

/-- Reading a text is reading its constructs with nothing read before. -/
theorem read_eq_of_readsTo {text : List Sign} {result : Except Refusal Progress}
    (reads : Progress.start.ReadsTo text result) (complete : text ≠ [.char '\\']) :
    read text = result >>= Progress.finish := by
  rw [read, past, if_neg complete]
  exact reads.readAll_eq le_rfl

/-- A text that ends within an escape is refused. -/
theorem exists_error_of_endsInEscape {text : List Sign} (ends : endsInEscape text = true) :
    ∃ refusal, read text = .error refusal := by
  obtain ⟨before, rfl, closed⟩ := exists_append_backslash ends
  by_cases lone : before ++ [.char '\\'] = [.char '\\']
  · rw [lone]
    exact ⟨_, rfl⟩
  have goesOn : GoesOn [.char '\\'] := ⟨.char '\\', [], rfl, .inl rfl⟩
  have refused : ∃ refusal, Progress.start.ReadsTo (before ++ [.char '\\']) (.error refusal) := by
    obtain ⟨result, reads⟩ := Progress.start.exists_readsTo closed
    rcases reads.append goesOn closed with ⟨last, -, whole⟩ | ⟨refused, -⟩ | ⟨-, closes⟩
    · exact ⟨_, whole _ (.refused rfl)⟩
    · exact refused
    · simp at closes
  obtain ⟨refusal, reads⟩ := refused
  exact ⟨refusal, read_eq_of_readsTo reads lone⟩

end BundleEmbed.Regex
