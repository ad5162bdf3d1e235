import BundleEmbed.Command.Run

/-!
Lines that are printed.

Lines are printed one after the other, each without its control sequences. The stream takes
characters only, so the first line with a surrogate ends the run, and what stands before it has
been printed.

* `hasSurrogate_withoutControlSequences`: no surrogate belongs to a control sequence.
* `RunResult.printing_cases`: all lines are printed, or those before the first with a surrogate.
-/

namespace BundleEmbed

/-! ### Control sequences -/

namespace ControlSequence

/-- What is dropped from a control sequence consists of characters. -/
theorem surrogate_mem_rest {text rest : List Sign} (found : rest? text = some rest) {sign : Sign}
    (surrogate : sign.isCharacter = false) : sign ∈ rest ↔ sign ∈ text := by
  -- a surrogate is beyond the characters of a control sequence
  have large : 0xd800 ≤ sign.toNat := by
    cases sign with
    | char c => cases surrogate
    | surrogate offset => exact Nat.le_add_right _ _
  have kept {kind : Sign → Bool} (text : List Sign) (other : kind sign = false) :
      sign ∈ text.dropWhile kind ↔ sign ∈ text := by
    induction text with
    | nil => rfl
    | cons first later ih =>
        rw [List.dropWhile_cons]
        split
        · rename_i isKind
          rw [ih, List.mem_cons, or_iff_right]
          rintro rfl
          exact Bool.false_ne_true (other.symm.trans isKind)
        · rfl
  have noParameter : isParameter sign = false := by
    simp only [isParameter, Bool.and_eq_false_iff, decide_eq_false_iff_not]
    omega
  have noIntermediate : isIntermediate sign = false := by
    simp only [isIntermediate, Bool.and_eq_false_iff, decide_eq_false_iff_not]
    omega
  rw [← kept text noParameter, ← kept (text.dropWhile isParameter) noIntermediate]
  unfold rest? at found
  split at found
  · cases found
  · rename_i c later left
    split at found
    · rename_i final
      cases found
      rw [left, List.mem_cons, or_iff_right]
      rintro rfl
      simp only [isFinal, Bool.and_eq_true, decide_eq_true_eq] at final
      omega
    · cases found

/-- Surrogates stay where control sequences are taken away. -/
theorem surrogate_mem_remove {sign : Sign} (surrogate : sign.isCharacter = false)
    (text : List Sign) : sign ∈ remove text ↔ sign ∈ text := by
  have other {c : Char} : sign ≠ .char c := by
    rintro rfl
    cases surrogate
  fun_induction remove text with
  | case1 => rfl
  | case2 text rest found ih =>
      have later := ih.trans (surrogate_mem_rest found surrogate)
      simp only [List.mem_cons, other, false_or, later]
  | case3 text found ih => simp only [List.mem_cons, ih]
  | case4 c text _ ih => simp only [List.mem_cons, ih]

end ControlSequence

/-- No surrogate belongs to a control sequence. -/
theorem hasSurrogate_withoutControlSequences {text : Text} :
    (withoutControlSequences text).HasSurrogate ↔ text.HasSurrogate := by
  constructor
  · rintro ⟨sign, isSign, surrogate⟩
    exact ⟨sign, (ControlSequence.surrogate_mem_remove surrogate _).mp isSign, surrogate⟩
  · rintro ⟨sign, isSign, surrogate⟩
    exact ⟨sign, (ControlSequence.surrogate_mem_remove surrogate _).mpr isSign, surrogate⟩

/-! ### Lines -/

/-- The text of lines, each without its control sequences and with a line feed behind it. -/
def printedText (lines : List Text) : Text :=
  Text.ofList (lines.flatMap fun line => (withoutControlSequences line).toList ++ [.char '\n'])

/-- All lines can be printed, or those before the first one with a surrogate. -/
theorem printLines_cases (lines : List Text) :
    (∃ shown, lines = shown.map Text.ofString ∧ printLines lines = (shown, none)) ∨
      ∃ shown line later, lines = shown.map Text.ofString ++ line :: later ∧ line.HasSurrogate ∧
        printLines lines = (shown, some line) := by
  induction lines with
  | nil => exact .inl ⟨[], rfl, rfl⟩
  | cons first rest ih =>
      rw [printLines]
      cases isFirst : first.toString? with
      | none => exact .inr ⟨[], first, rest, rfl, Text.toString?_eq_none_iff.mp isFirst, rfl⟩
      | some string =>
          obtain rfl := Text.toString?_eq_some_iff.mp isFirst
          rcases ih with ⟨shown, rfl, printed⟩ | ⟨shown, line, later, rfl, surrogate, printed⟩
          · exact .inl ⟨string :: shown, rfl, by rw [printed]⟩
          · exact .inr ⟨string :: shown, line, later, rfl, surrogate, by rw [printed]⟩

/-- The text of strings with a line feed behind each. -/
theorem printedText_eq {lines : List Text} {shown : List String}
    (areShown : lines.map withoutControlSequences = shown.map Text.ofString) :
    Text.ofString (String.join (shown.map (· ++ "\n"))) = printedText lines := by
  rw [← Text.toList_inj]
  unfold printedText
  induction lines generalizing shown with
  | nil =>
      obtain rfl : shown = [] := List.map_eq_nil_iff.mp areShown.symm
      rfl
  | cons line later ih =>
      cases shown with
      | nil => cases areShown
      | cons string shown =>
          obtain ⟨isString, areShown⟩ := List.cons.inj areShown
          have rest := ih areShown
          simp only [Text.toList_ofString] at rest ⊢
          rw [List.flatMap_cons, isString, ← rest]
          simp

/-- Lines that can be printed have no surrogates. -/
theorem not_hasSurrogate_of_shown {lines : List Text} {shown : List String}
    (areShown : lines.map withoutControlSequences = shown.map Text.ofString) :
    ∀ line ∈ lines, ¬ line.HasSurrogate := by
  intro line isLine surrogate
  have isShown : withoutControlSequences line ∈ shown.map Text.ofString :=
    areShown ▸ List.mem_map_of_mem isLine
  obtain ⟨string, -, same⟩ := List.mem_map.mp isShown
  have surrogate' := hasSurrogate_withoutControlSequences.mpr surrogate
  rw [← same] at surrogate'
  exact Text.not_hasSurrogate_ofString string surrogate'

/-- A run that prints lines ends well if none of them has a surrogate. Otherwise it crashes, and
the lines before the first one that has a surrogate have been printed. -/
theorem RunResult.printing_cases (files : FileTree) (lines : List Text) :
    let run := printing files lines
    (∀ line ∈ lines, ¬ line.HasSurrogate) ∧ run.exitCode = 0 ∧
        Text.ofString run.output = printedText lines ∧ run.crash = none ∨
      ∃ before line later, lines = before ++ line :: later ∧
        (∀ line ∈ before, ¬ line.HasSurrogate) ∧ line.HasSurrogate ∧ run.exitCode = 1 ∧
        Text.ofString run.output = printedText before ∧
        run.crash = some (.print (withoutControlSequences line)) := by
  intro run
  rcases printLines_cases (lines.map withoutControlSequences) with
    ⟨shown, areShown, printed⟩ | ⟨shown, _, _, split, surrogate, printed⟩
  · have given : run = ⟨0, String.join (shown.map (· ++ "\n")), [], [], none, files⟩ := by
      simp only [run, printing, printed]
    rw [given]
    exact .inl ⟨not_hasSurrogate_of_shown areShown, rfl, printedText_eq areShown, rfl⟩
  · obtain ⟨before, rest, rfl, areShown, isRest⟩ := List.map_eq_append_iff.mp split
    obtain ⟨line, later, rfl, rfl, -⟩ := List.map_eq_cons_iff.mp isRest
    have given : run = ⟨1, String.join (shown.map (· ++ "\n")), [], [],
        some (.print (withoutControlSequences line)), files⟩ := by
      simp only [run, printing, printed]
    rw [given]
    exact .inr ⟨before, line, later, rfl, not_hasSurrogate_of_shown areShown,
      hasSurrogate_withoutControlSequences.mp surrogate, rfl, printedText_eq areShown, rfl⟩

end BundleEmbed
