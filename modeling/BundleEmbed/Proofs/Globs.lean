import BundleEmbed.Proofs.Regex.Reading
import BundleEmbed.Proofs.Translation

/-!
Patterns as alternatives of globs.

A pattern whose characters mean nothing to regular expressions is a list of globs with bars
between them. It is read by way of a regular expression, its translation, in which a pattern
that ends in a full stop and a star has its alternatives written twice.

* `Pattern.IsPlain.exists_read_eq_ok`: the characters of such a pattern can be read one after
  the other, and what is read takes what one of the globs matches.
* `Pattern.read_globs`: such a pattern can be read, and it matches a value exactly when one
  of its globs does, or when the last glob ends in a full stop and a star and the value
  matches what stands before them.
-/

namespace BundleEmbed

open Regex (Node Branches Progress Release)

/-! ### Globs -/

/-- The characters that are no part of a glob: those with a meaning in regular expressions,
and the bar between globs. -/
def Glob.reserved : List Sign := ['\\', '[', '(', ')', '\x7b', '+', '^', '$', '|']

/-- What one character of a glob stands for: a star for any run of characters without a line
feed, a question mark for at most one character but a line feed, and any other for itself. -/
def Glob.Stands (c : Sign) (run : List Sign) : Prop :=
  if c = .char '*' then .char '\n' ∉ run
  else if c = .char '?' then run.length ≤ 1 ∧ .char '\n' ∉ run
  else run = [c]

/-- A glob matches a text from its start to its end. -/
def Glob.Matches : List Sign → List Sign → Prop
  | [], text => text = []
  | c :: glob, text =>
      ∃ run rest, text = run ++ rest ∧ Glob.Stands c run ∧ Glob.Matches glob rest

/-- Globs of which one is to match accept a text. They also accept what stands before a full
stop and a star at their end. -/
def Glob.Accept (globs : List (List Sign)) (text : List Sign) : Prop :=
  (∃ glob ∈ globs, Glob.Matches glob text) ∨
    ∃ bare, globs.getLast? = some (bare ++ Pattern.wildcard) ∧ Glob.Matches bare text

/-- The pattern of globs, with a mark in front when it is negated. -/
def Pattern.ofGlobs (negated : Bool) (globs : List (List Sign)) : List Sign :=
  (if negated then [.char '!'] else []) ++ [Sign.char '|'].intercalate globs

/-! ### Reading the translation -/

/-- The expression of one character of a glob. -/
def Glob.node (c : Sign) : Node :=
  if c = .char '*' then .many ⟨0, none⟩ false .anyInLine
  else if c = .char '?' then .many ⟨0, some 1⟩ false .anyInLine
  else .one (.code c.toNat)

/-- All characters of a pattern are parts of globs, or bars between them. -/
def Pattern.IsPlain (body : List Sign) : Prop :=
  ∀ c ∈ body, c ∈ Glob.reserved → c = .char '|'

/-- What one character of a pattern adds to what has been read. -/
def Pattern.extend (branches : Branches) (c : Sign) : Branches :=
  if c = .char '|' then branches.split else branches.push (Glob.node c)

/-- A pattern without backslashes writes no lone backslash. -/
theorem Pattern.IsPlain.flatMap_ne_backslash {body : List Sign} (plain : IsPlain body) :
    body.flatMap translateChar ≠ [.char '\\'] := by
  intro lone
  have last : body.getLast? = some (.char '\\') := by
    rw [← getLast?_flatMap_translateChar, lone]
    rfl
  exact absurd (plain (.char '\\') (List.mem_of_getLast? last) (by decide)) (by decide)

/-- A pattern without plus signs writes none at its start. -/
theorem Pattern.IsPlain.head?_flatMap_ne_plus {body : List Sign} (plain : IsPlain body) :
    (body.flatMap translateChar).head? ≠ some (.char '+') := by
  cases body with
  | nil => nofun
  | cons c body =>
      have differs : c ≠ .char '+' := by
        rintro rfl
        exact absurd (plain (.char '+') List.mem_cons_self (by decide)) (by decide)
      simp only [List.flatMap_cons]
      unfold translateChar
      split <;> simp [differs]

/-- Reading what one character of a pattern writes goes on with the rest. -/
theorem Pattern.readAll_translateChar {c : Sign} (plain : c ∈ Glob.reserved → c = .char '|')
    {rest : List Sign} (complete : rest ≠ [.char '\\']) (greedy : rest.head? ≠ some (.char '+'))
    (progress : Progress) {fuel : Nat} (enough : (translateChar c ++ rest).length ≤ fuel) :
    ∃ left, rest.length ≤ left ∧ progress.readAll fuel (translateChar c ++ rest) =
      ({ progress with current := extend progress.current c } : Progress).readAll left rest := by
  by_cases isStop : c = .char '.'
  · subst isStop
    simp only [translateChar, List.cons_append, List.nil_append, List.length_cons] at enough ⊢
    obtain ⟨left, rfl⟩ : ∃ left, fuel = left + 1 := ⟨fuel - 1, by omega⟩
    exact ⟨left, by omega, Progress.readAll_cons (progress.read_escapedStop complete) left⟩
  by_cases isStar : c = .char '*'
  · subst isStar
    simp only [translateChar, List.cons_append, List.nil_append, List.length_cons] at enough ⊢
    obtain ⟨left, rfl⟩ : ∃ left, fuel = left + 2 := ⟨fuel - 2, by omega⟩
    refine ⟨left, by omega, ?_⟩
    rw [Progress.readAll_cons (progress.read_stop (by simp)),
      Progress.readAll_cons (progress.read_star complete greedy)]
    rfl
  by_cases isMark : c = .char '?'
  · subst isMark
    simp only [translateChar, List.cons_append, List.nil_append, List.length_cons] at enough ⊢
    obtain ⟨left, rfl⟩ : ∃ left, fuel = left + 2 := ⟨fuel - 2, by omega⟩
    refine ⟨left, by omega, ?_⟩
    rw [Progress.readAll_cons (progress.read_stop (by simp)),
      Progress.readAll_cons (progress.read_questionMark complete greedy)]
    rfl
  -- any other character is written as it is
  have itself : translateChar c = [c] := by
    unfold translateChar
    split <;> simp_all
  rw [itself] at enough ⊢
  simp only [List.cons_append, List.nil_append, List.length_cons] at enough ⊢
  obtain ⟨left, rfl⟩ : ∃ left, fuel = left + 1 := ⟨fuel - 1, by omega⟩
  refine ⟨left, by omega, ?_⟩
  by_cases isBar : c = .char '|'
  · subst isBar
    exact Progress.readAll_cons (progress.read_bar complete) left
  · have ordinary : c ∉ Regex.specialCharacters := by
      have notReserved : c ∉ Glob.reserved := mt plain isBar
      simp_all [Glob.reserved, Regex.specialCharacters]
    rw [extend, if_neg isBar, Glob.node, if_neg isStar, if_neg isMark]
    exact Progress.readAll_cons (progress.read_ordinary ordinary complete) left

/-- What has been read when a whole pattern has been read. -/
theorem Pattern.IsPlain.readAll_eq {body : List Sign} (plain : IsPlain body)
    (progress : Progress) {fuel : Nat} (enough : (body.flatMap translateChar).length ≤ fuel) :
    progress.readAll fuel (body.flatMap translateChar) =
      ({ progress with current := body.foldl extend progress.current } : Progress).finish := by
  induction body generalizing progress fuel with
  | nil => cases fuel <;> rfl
  | cons c body ih =>
      have plainRest : IsPlain body := fun d mem => plain d (List.mem_cons_of_mem c mem)
      rw [List.flatMap_cons] at enough ⊢
      obtain ⟨left, enoughLeft, step⟩ := readAll_translateChar (plain c List.mem_cons_self)
        plainRest.flatMap_ne_backslash plainRest.head?_flatMap_ne_plus progress enough
      rw [step, ih plainRest _ enoughLeft, List.foldl_cons]

/-- A plain pattern gives a regular expression, whose alternatives are read one character
after the other. -/
theorem Pattern.IsPlain.read_eq_ok {body : List Sign} (plain : IsPlain body) :
    Regex.read (body.flatMap translateChar) =
      .ok (body.foldl extend Branches.nothing).node := by
  rw [Regex.read, Regex.past_eq_ok plain.flatMap_ne_backslash]
  exact plain.readAll_eq Progress.start (Nat.le_refl _)

/-- The alternatives of what has been read are the globs between the bars. -/
theorem Pattern.alternatives_foldl_extend (body : List Sign) (branches : Branches) :
    (body.foldl extend branches).alternatives =
      branches.complete ++
        ((body.splitOn (.char '|')).map (·.map Glob.node)).modifyHead
          (branches.items.reverse ++ ·) := by
  induction body generalizing branches with
  | nil => simp [Branches.alternatives]
  | cons c body ih =>
      rw [List.foldl_cons, ih, List.splitOn_cons_eq_if_modifyHead, extend]
      obtain ⟨glob, globs, splits⟩ :=
        List.exists_cons_of_ne_nil (List.splitOn_ne_nil (.char '|') body)
      by_cases isBar : c = .char '|'
      · simp [isBar, splits, Branches.split]
      · simp [isBar, splits, Branches.push]

/-! ### What is matched -/

/-- The expression of a character takes what the character stands for. -/
theorem Glob.takes_node_iff {c : Sign} {run : List Sign} :
    (Glob.node c).Takes run ↔ Glob.Stands c run := by
  have inLine : (∀ d ∈ run, Regex.CharTest.anyInLine.holds d = true) ↔ .char '\n' ∉ run := by
    simp only [Regex.CharTest.holds, bne_iff_ne]
    exact ⟨fun differ mem => differ _ mem rfl, fun none d mem same => none (same ▸ mem)⟩
  unfold Glob.node Glob.Stands
  split_ifs
  · simp [inLine, Regex.Bounds.Admits]
  · simp [inLine, Regex.Bounds.Admits]
  · simp [Regex.CharTest.holds, Sign.toNat_inj]

/-- The expressions of the characters of a glob take what the glob matches. -/
theorem Glob.takes_sequence_iff {glob text : List Sign} :
    (Node.sequence (glob.map Glob.node)).Takes text ↔ Glob.Matches glob text := by
  induction glob generalizing text with
  | nil => simp [Glob.Matches]
  | cons c glob ih =>
      simp only [List.map_cons, Node.sequence_cons, Node.takes_both_iff, Glob.takes_node_iff, ih,
        Glob.Matches]

/-- The expression of any glob is regular. -/
theorem Glob.isRegular_node (c : Sign) : (Glob.node c).isRegular = true := by
  unfold Glob.node
  split_ifs <;> rfl

/-- A plain pattern can be read, as an expression that takes what one of the globs between
its bars matches. -/
theorem Pattern.IsPlain.exists_read_eq_ok {body : List Sign} (plain : IsPlain body) :
    ∃ regex, Regex.read (body.flatMap translateChar) = .ok regex ∧ regex.isRegular = true ∧
      ∀ text, regex.Takes text ↔ ∃ glob ∈ body.splitOn (.char '|'), Glob.Matches glob text := by
  have alternatives : (body.foldl extend Branches.nothing).alternatives =
      (body.splitOn (.char '|')).map (·.map Glob.node) := by
    rw [alternatives_foldl_extend]
    obtain ⟨glob, globs, splits⟩ :=
      List.exists_cons_of_ne_nil (List.splitOn_ne_nil (.char '|') body)
    simp [Branches.nothing, splits]
  refine ⟨_, plain.read_eq_ok, Branches.isRegular_node ?_, fun text => ?_⟩
  · rw [alternatives]
    simp [Glob.isRegular_node]
  · rw [Branches.takes_node_iff, alternatives]
    simp [Glob.takes_sequence_iff]

/-! ### The alternative that the end of a pattern adds -/

/-- A pattern with the alternative that its end adds is plain when the pattern is. -/
theorem Pattern.IsPlain.expand {body : List Sign} (plain : IsPlain body) :
    IsPlain (Pattern.expand body) := by
  unfold Pattern.expand
  split_ifs
  · intro c mem
    rcases List.mem_append.mp mem with mem | mem
    · exact plain c mem
    · rcases List.mem_cons.mp mem with rfl | mem
      · exact fun _ => rfl
      · exact plain c (List.mem_of_mem_take mem)
  · exact plain

/-- The last glob of a pattern is longer where more characters without bars follow. -/
theorem Pattern.splitOn_append (body : List Sign) {tail : List Sign} (noBar : .char '|' ∉ tail) :
    ∃ globs last, body.splitOn (.char '|') = globs ++ [last] ∧
      (body ++ tail).splitOn (.char '|') = globs ++ [last ++ tail] := by
  induction body with
  | nil => exact ⟨[], [], by simp, by simpa using List.splitOn_eq_singleton noBar⟩
  | cons c body ih =>
      obtain ⟨globs, last, splits, splitsMore⟩ := ih
      rw [List.cons_append, List.splitOn_cons_eq_if_modifyHead,
        List.splitOn_cons_eq_if_modifyHead, splits, splitsMore]
      by_cases isBar : c = .char '|'
      · exact ⟨[] :: globs, last, by simp [isBar], by simp [isBar]⟩
      · cases globs with
        | nil => exact ⟨[], c :: last, by simp [isBar], by simp [isBar]⟩
        | cons glob globs => exact ⟨(c :: glob) :: globs, last, by simp [isBar], by simp [isBar]⟩

/-- A pattern ends in its last glob. -/
theorem Pattern.suffix_of_getLast?_splitOn {body last : List Sign}
    (isLast : (body.splitOn (.char '|')).getLast? = some last) : last <:+ body := by
  obtain ⟨globs, splits⟩ := List.getLast?_eq_some_iff.mp isLast
  have whole : [Sign.char '|'].intercalate (body.splitOn (.char '|')) = body :=
    List.intercalate_splitOn (Sign.char '|')
  rw [← whole, splits]
  clear isLast splits whole
  induction globs with
  | nil => simp
  | cons glob globs ih =>
      rw [List.cons_append, List.intercalate_cons_of_ne_nil (by simp)]
      exact ih.trans (List.suffix_append ..)

/-- The globs of a pattern, with those that its end adds, match what the globs of the
pattern accept. -/
theorem Pattern.exists_matches_splitOn_expand_iff {body text : List Sign} :
    (∃ glob ∈ (expand body).splitOn (.char '|'), Glob.Matches glob text) ↔
      Glob.Accept (body.splitOn (.char '|')) text := by
  unfold Pattern.expand Glob.Accept
  simp only [List.isSuffixOf_iff_suffix]
  split_ifs with ends
  · obtain ⟨bare, rfl⟩ := ends
    obtain ⟨globs, last, splitsBare, splits⟩ :=
      splitOn_append bare (show .char '|' ∉ wildcard by decide)
    have bareFirst : (bare ++ wildcard).take ((bare ++ wildcard).length - 2) = bare := by
      simp [wildcard]
    rw [bareFirst, List.splitOn_append_cons_self, splits, splitsBare]
    constructor
    · rintro ⟨glob, mem, isMatched⟩
      rcases List.mem_append.mp mem with mem | mem
      · exact .inl ⟨glob, mem, isMatched⟩
      · rcases List.mem_append.mp mem with mem | mem
        · exact .inl ⟨glob, List.mem_append_left _ mem, isMatched⟩
        · obtain rfl := List.mem_singleton.mp mem
          exact .inr ⟨glob, by simp, isMatched⟩
    · rintro (⟨glob, mem, isMatched⟩ | ⟨start, isLast, isMatched⟩)
      · exact ⟨glob, List.mem_append_left _ mem, isMatched⟩
      · obtain rfl : last = start := by simpa using isLast
        exact ⟨last, by simp, isMatched⟩
  · have noneAdded : ¬ ∃ bare, (body.splitOn (.char '|')).getLast? = some (bare ++ wildcard) ∧
        Glob.Matches bare text := by
      rintro ⟨bare, isLast, -⟩
      exact ends ((List.suffix_append ..).trans (suffix_of_getLast?_splitOn isLast))
    simp only [noneAdded, or_false]

/-! ### Reading a pattern of globs -/

/-- The characters of globs with bars between them. -/
theorem Pattern.isPlain_intercalate {globs : List (List Sign)}
    (plain : ∀ glob ∈ globs, ∀ c ∈ glob, c ∉ Glob.reserved) :
    IsPlain ([Sign.char '|'].intercalate globs) := by
  induction globs with
  | nil => nofun
  | cons glob globs ih =>
      have plainGlob : IsPlain glob := fun c mem isReserved =>
        absurd isReserved (plain glob List.mem_cons_self c mem)
      have plainRest := ih fun other mem => plain other (List.mem_cons_of_mem glob mem)
      by_cases none : globs = []
      · simpa [none] using plainGlob
      · rw [List.intercalate_cons_of_ne_nil none]
        intro c mem
        simp only [List.mem_append, List.mem_singleton] at mem
        rcases mem with (mem | isBar) | mem
        · exact plainGlob c mem
        · exact fun _ => isBar
        · exact plainRest c mem

/-- The mark in front of a pattern is taken off. -/
theorem Pattern.split_ofGlobs {negated : Bool} {globs : List (List Sign)}
    (unmarked : negated = false → ([Sign.char '|'].intercalate globs).head? ≠ some (.char '!')) :
    Pattern.split (ofGlobs negated globs) = (negated, [Sign.char '|'].intercalate globs) := by
  unfold ofGlobs
  cases negated with
  | true => rfl
  | false =>
      have noMark := unmarked rfl
      simp only [Bool.false_eq_true, if_false, List.nil_append]
      generalize [Sign.char '|'].intercalate globs = body at noMark ⊢
      unfold Pattern.split
      split
      · exact absurd rfl noMark
      · rfl

/-- A pattern of globs can be read, and it matches a value exactly when the globs accept it.
With a mark in front it accepts exactly the other values. -/
theorem Pattern.read_globs [Release] (negated : Bool) {globs : List (List Sign)}
    (nonempty : globs ≠ []) (plain : ∀ glob ∈ globs, ∀ c ∈ glob, c ∉ Glob.reserved)
    (unmarked : negated = false → ([Sign.char '|'].intercalate globs).head? ≠ some (.char '!')) :
    ∃ pattern, Pattern.read (Text.ofList (ofGlobs negated globs)) = .ok pattern ∧
      ∀ value : Text, ∃ matched,
        pattern.matchesValue value = .ok matched ∧
        (matched = true ↔ Glob.Accept globs value.toList) ∧
        pattern.accepts value = .ok (matched ^^ negated) := by
  have splits : ([Sign.char '|'].intercalate globs).splitOn (.char '|') = globs :=
    List.splitOn_intercalate (.char '|')
      (fun glob mem isBar => plain glob mem (.char '|') isBar (by decide)) nonempty
  obtain ⟨regex, isRead, regular, takes⟩ :=
    (isPlain_intercalate plain).expand.exists_read_eq_ok
  rw [← translate_eq] at isRead
  let pattern : Pattern :=
    { expression := Text.ofList (ofGlobs negated globs)
      negated
      regexText := Text.ofList (translate ([Sign.char '|'].intercalate globs))
      regex }
  refine ⟨pattern, ?_, fun value => ?_⟩
  · simp only [Pattern.read, split_ofGlobs unmarked, isRead, pattern]
  · obtain ⟨matched, decided, isMatched⟩ := Node.matchesAll_iff_takes regular value.toList
    have decidedValue : pattern.matchesValue value = .ok matched := decided
    refine ⟨matched, decidedValue, ?_, ?_⟩
    · rw [isMatched, takes, exists_matches_splitOn_expand_iff, splits]
    · rw [Pattern.accepts, decidedValue]
      cases matched <;> cases negated <;> rfl

/-- The last glob of a negated pattern also refuses what stands before its full stop and
star. -/
theorem Pattern.read_globs_negated_bare :
    let globs : List (List Sign) := [['a', '?'], [], ['b', '.', '*']]
    globs ≠ [] ∧ (∀ glob ∈ globs, ∀ c ∈ glob, c ∉ Glob.reserved) ∧
      ∃ pattern, Pattern.read "!a?||b.*" = .ok pattern ∧
        pattern.matchesValue "b" = .ok true ∧ pattern.accepts "b" = .ok false := by
  intro globs
  have nonempty : globs ≠ [] := by decide
  have plain : ∀ glob ∈ globs, ∀ c ∈ glob, c ∉ Glob.reserved := by simp [globs, Glob.reserved]
  obtain ⟨pattern, isRead, values⟩ := Pattern.read_globs true nonempty plain nofun
  obtain ⟨matched, decided, isMatched, accepted⟩ := values "b"
  have bare : Glob.Accept globs "b".toList :=
    .inr ⟨[.char 'b'], rfl, [.char 'b'], [], rfl, by simp [Glob.Stands], rfl⟩
  obtain rfl := isMatched.mpr bare
  exact ⟨nonempty, plain, pattern, isRead, decided, accepted⟩

end BundleEmbed
