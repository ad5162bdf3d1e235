import BundleEmbed.Pattern
import BundleEmbed.Proofs.Runs

/-!
The translation of patterns into regular expressions.

Each character of a pattern writes its part of the regular expression, and the end of a
pattern may add an alternative. Whether it does is asked of the text that has been written,
but it depends on the pattern alone: what a character writes ends in the character itself,
so the end of the text tells the end of the pattern.

* `Pattern.trailingWildcard_suffix_iff`: the text ends in a wildcard exactly when the pattern
  ends in a full stop and a star.
* `Pattern.translate_eq`: the translation is that of one longer pattern, character by
  character.
* `Pattern.translate_isSyntactic`: what is added, and where the text is cut for it.
* `RunIn.of_translate`: it makes no runs of characters of which it writes none.
-/

namespace BundleEmbed

/-- The end of a pattern that accepts what stands before it as well: a full stop and a star. -/
def Pattern.wildcard : List Sign := [.char '.', .char '*']

/-- A pattern with the alternative that its end adds to it. -/
def Pattern.expand (body : List Sign) : List Sign :=
  if wildcard.isSuffixOf body then body ++ .char '|' :: body.take (body.length - 2) else body

/-- The rules of the notation, one character at a time. -/
theorem Pattern.translateChar_eq (c : Sign) :
    translateChar c =
      if c = .char '.' then [.char '\\', .char '.']
      else if c = .char '*' then [.char '.', .char '*']
      else if c = .char '?' then [.char '.', .char '?']
      else [c] := by
  unfold translateChar
  split
  · rfl
  · rfl
  · rfl
  · rename_i noStop noStar noQuestion
    rw [if_neg noStop, if_neg noStar, if_neg noQuestion]

/-- What a character of a pattern writes ends in the character itself. -/
theorem Pattern.getLast?_translateChar (c : Sign) : (translateChar c).getLast? = some c := by
  unfold translateChar
  split <;> rfl

/-- The translation of a pattern ends in the last character of the pattern. -/
theorem Pattern.getLast?_flatMap_translateChar (body : List Sign) :
    (body.flatMap translateChar).getLast? = body.getLast? := by
  rcases body.eq_nil_or_concat with rfl | ⟨init, c, rfl⟩
  · rfl
  · simp [List.getLast?_append, getLast?_translateChar]

/-- A full stop and a star at the end of a pattern write the trailing wildcard. -/
theorem Pattern.flatMap_translateChar_wildcard (bare : List Sign) :
    (bare ++ wildcard).flatMap translateChar =
      bare.flatMap translateChar ++ trailingWildcard := by
  simp [wildcard, trailingWildcard, translateChar]

/-- The translation of a pattern ends in a wildcard exactly when the pattern ends in a full
stop and a star. -/
theorem Pattern.trailingWildcard_suffix_iff (body : List Sign) :
    trailingWildcard <:+ body.flatMap translateChar ↔ wildcard <:+ body := by
  constructor
  · rintro ⟨before, ends⟩
    have lastStar : body.getLast? = some (.char '*') := by
      rw [← getLast?_flatMap_translateChar, ← ends]
      simp [trailingWildcard]
    obtain ⟨init, rfl⟩ := List.getLast?_eq_some_iff.mp lastStar
    have remains : before ++ [.char '\\', .char '.'] = init.flatMap translateChar := by
      rw [List.flatMap_append] at ends
      exact List.append_cancel_right ((List.append_assoc ..).trans ends)
    have lastStop : init.getLast? = some (.char '.') := by
      rw [← getLast?_flatMap_translateChar, ← remains]
      simp
    obtain ⟨bare, rfl⟩ := List.getLast?_eq_some_iff.mp lastStop
    exact ⟨bare, by simp [wildcard]⟩
  · rintro ⟨bare, rfl⟩
    exact ⟨bare.flatMap translateChar, (flatMap_translateChar_wildcard bare).symm⟩

/-- The translation of a pattern is that of the pattern with the alternative that its end
adds to it, character by character. -/
theorem Pattern.translate_eq (body : List Sign) :
    translate body = (expand body).flatMap translateChar := by
  unfold translate expand
  simp only [List.isSuffixOf_iff_suffix, trailingWildcard_suffix_iff]
  split_ifs with ends
  · obtain ⟨bare, rfl⟩ := ends
    simp [wildcard, trailingWildcard, translateChar]
  · rfl

/-! ### The trailing wildcard -/

/-- A pattern whose body does not end in a wildcard is translated character by character. -/
theorem Pattern.translate_of_not_wildcard {body : List Sign} (bare : ¬ wildcard <:+ body) :
    translate body = body.flatMap translateChar := by
  rw [translate_eq, expand, if_neg (mt List.isSuffixOf_iff_suffix.mp bare)]

/-- A pattern that ends in a full stop and a star is translated with its bare beginning as another
alternative. -/
theorem Pattern.translate_append_wildcard (bare : List Sign) :
    translate (bare ++ wildcard) =
      (bare ++ wildcard).flatMap translateChar ++
        .char '|' :: bare.flatMap translateChar := by
  have ends : wildcard <:+ bare ++ wildcard :=
    List.suffix_append _ _
  rw [translate_eq, expand, if_pos (List.isSuffixOf_iff_suffix.mpr ends)]
  simp [wildcard, translateChar]

/-- A place in the translation of a pattern falls inside what one of its characters writes. -/
def Pattern.FallsInside (body : List Sign) (place : Nat) : Prop :=
  ∃ before c after, body = before ++ c :: after ∧
    (before.flatMap translateChar).length < place ∧
      place < ((before ++ [c]).flatMap translateChar).length

/-- Where the translation of a beginning of a pattern ends, no character is split. -/
theorem Pattern.not_fallsInside_of_prefix {bare body : List Sign} (begins : bare <+: body) :
    ¬ FallsInside body (bare.flatMap translateChar).length := by
  rintro ⟨before, c, after, parts, beyond, short⟩
  have length_le {first whole : List Sign} (isStart : first <+: whole) :
      (first.flatMap translateChar).length ≤ (whole.flatMap translateChar).length :=
    (isStart.flatMap translateChar).length_le
  have begins' : before ++ [c] <+: body := ⟨after, by simp [parts]⟩
  rcases List.prefix_or_prefix_of_prefix begins begins' with isStart | isStart
  · rcases List.prefix_concat_iff.mp isStart with rfl | isStart
    · exact lt_irrefl _ short
    · exact absurd (length_le isStart) (not_le.mpr beyond)
  · exact absurd (length_le isStart) (not_le.mpr short)

/-- Whether the rule for the trailing wildcard applies is asked of the text that has been written,
but it is the end of the pattern that decides: the text is followed by the translation of what
stands before a full stop and a star, or by nothing. The text is never cut inside what a character
has written. -/
theorem Pattern.translate_isSyntactic (body : List Sign) :
    let text := body.flatMap translateChar
    let bare := body.take (body.length - 2)
    (∀ c, translateChar c =
        if c = .char '.' then [.char '\\', .char '.']
        else if c = .char '*' then [.char '.', .char '*']
        else if c = .char '?' then [.char '.', .char '?']
        else [c]) ∧
      translate body = (if wildcard <:+ body then text ++ .char '|' :: bare.flatMap translateChar
        else text) ∧
      (trailingWildcard <:+ text ↔ wildcard <:+ body) ∧
      (trailingWildcard <:+ text →
        ¬ FallsInside body (text.length - trailingWildcard.length)) := by
  intro text bare
  refine ⟨translateChar_eq, ?_, trailingWildcard_suffix_iff body, ?_⟩
  · split_ifs with ends
    · obtain ⟨start, rfl⟩ := ends
      have isBare : bare = start := by simp [bare, wildcard]
      rw [isBare]
      exact translate_append_wildcard start
    · exact translate_of_not_wildcard ends
  · intro triggers
    obtain ⟨start, rfl⟩ := (trailingWildcard_suffix_iff body).mp triggers
    have cut : text.length - trailingWildcard.length = (start.flatMap translateChar).length := by
      rw [show text = _ from flatMap_translateChar_wildcard start, List.length_append,
        Nat.add_sub_cancel]
    rw [cut]
    exact not_fallsInside_of_prefix (List.prefix_append _ _)

/-- Of two backslashes in the text, the pattern has the first and the full stop writes the second:
the text is cut between them. -/
theorem Pattern.translate_isSyntactic_backslash :
    let body := (Text.ofString "[?]\\.*").toList
    trailingWildcard <:+ body.flatMap translateChar ∧
      ¬ FallsInside body 5 ∧ FallsInside body 6 ∧
      translate body = (Text.ofString "[.?]\\\\..*|[.?]\\").toList := by
  intro body
  have triggers : trailingWildcard <:+ body.flatMap translateChar := by decide
  obtain ⟨-, translated, -, between⟩ := translate_isSyntactic body
  have inside : FallsInside body 6 :=
    ⟨(Text.ofString "[?]\\").toList, .char '.', [.char '*'], by decide⟩
  exact ⟨triggers, between triggers, inside, translated.trans (by decide)⟩

/-- With a full stop that is escaped already, a star alone does not write a wildcard. -/
example : Pattern.translate (Text.ofString "a\\*").toList = (Text.ofString "a\\.*").toList := by
  decide

/-! ### Runs of characters -/

section Patterns

variable {kind : Sign → Bool} {body run : List Sign}

/-- The translation of a pattern writes full stops, stars, question marks and backslashes. -/
theorem Pattern.rewritten_flatMap_translateChar (body : List Sign)
    (isOther : ∀ c ∈ ['\\', '.', '*', '?'], kind (.char c) = false) :
    Rewritten kind body (body.flatMap translateChar) := by
  simp only [List.forall_mem_cons] at isOther
  obtain ⟨backslash, stop, star, question, -⟩ := isOther
  induction body with
  | nil => exact .nil
  | cons c body ih =>
      rw [List.flatMap_cons]
      unfold translateChar
      split
      · exact ih.other [.char '.'] [.char '\\', .char '.'] (by simp [backslash, stop]) (by simp)
      · exact ih.other [.char '*'] [.char '.', .char '*'] (by simp [stop, star]) (by simp)
      · exact ih.other [.char '?'] [.char '.', .char '?'] (by simp [stop, question]) (by simp)
      · exact ih.same c

/-- A run of other characters in the translation of a pattern is one in the pattern. -/
theorem RunIn.of_translate (isOther : ∀ c ∈ ['\\', '.', '*', '?', '|'], kind (.char c) = false)
    (isRun : RunIn kind (Pattern.translate body) run) : RunIn kind body run := by
  rw [Pattern.translate_eq] at isRun
  have expanded : RunIn kind (Pattern.expand body) run :=
    isRun.of_rewritten (Pattern.rewritten_flatMap_translateChar _ fun c isOne =>
      isOther c (List.mem_append_left ['|'] isOne))
  unfold Pattern.expand at expanded
  split at expanded
  · rcases expanded.of_append_cons (isOther '|' (by simp)) with isRun | isRun
    · exact isRun
    · exact isRun.trans (List.take_prefix _ _).isInfix
  · exact expanded

end Patterns

end BundleEmbed
