import BundleEmbed.Proofs.Regex.Renumbering
import BundleEmbed.Proofs.Translation

/-!
Patterns that end in a wildcard.

Behind the translation of such a pattern stands, as another alternative, the text of its bare
beginning once more. That text is cut off without regard to what it is part of. Mostly this does
not matter for whether the pattern can be read: the beginning is read a second time as it was
read the first time, with other numbers for its groups. There are two exceptions. A beginning that
ends within an escape has nothing to escape when it stands last, and a set that is left open in
the beginning may be closed by its second copy.

* `Pattern.translate_wildcard`: the text of the regular expression.
* `Regex.readsTo_pasted`: what reading it comes to.
* `Pattern.read_wildcard_iff`: which patterns that end in a wildcard can be read.
-/

namespace BundleEmbed

namespace Regex

/-! ### The wildcard -/

/-- What has been read, with a full stop and any run of characters after it. -/
def Progress.withWildcard (progress : Progress) : Progress :=
  (progress.push (.one (.code '.'.toNat))).push (.many ⟨0, none⟩ false .anyInLine)

/-- A wildcard is read before anything that does not make its repetition possessive. -/
theorem Progress.readsTo_wildcard {progress : Progress} {rest : List Sign}
    {result : Except Refusal Progress} (complete : rest ≠ [.char '\\'])
    (greedy : rest.head? ≠ some (.char '+'))
    (later : progress.withWildcard.ReadsTo rest result) :
    progress.ReadsTo (Pattern.trailingWildcard ++ rest) result := by
  let stopped := progress.push (.one (.code '.'.toNat))
  have escaped : progress.read (.char '\\') (.char '.' :: .char '.' :: .char '*' :: rest) =
      .ok (stopped, .char '.' :: .char '*' :: rest) :=
    progress.read_escapedStop (by simp)
  have stop : stopped.read (.char '.') (.char '*' :: rest) =
      .ok (stopped.push (.one .anyInLine), .char '*' :: rest) :=
    stopped.read_stop (by simp)
  have star : (stopped.push (.one .anyInLine)).read (.char '*') rest =
      .ok (progress.withWildcard, rest) :=
    stopped.read_star complete greedy
  exact .step escaped (Nat.le_succ _) (.step stop le_rfl (.step star le_rfl later))

/-- What stands behind the bare beginning of a pattern: the wildcard, and the beginning as another
alternative. -/
def pasted (text : List Sign) : List Sign := Pattern.trailingWildcard ++ .char '|' :: text

theorem goesOn_pasted (text : List Sign) : GoesOn (pasted text) :=
  ⟨.char '\\', _, rfl, .inl rfl⟩

/-- The complete alternatives when the second copy of a beginning is read: the first copy, with
the wildcard after its last alternative. -/
def Progress.firstCopy (last : Progress) : List (List Node) :=
  last.withWildcard.current.split.complete

/-- The groups that the first copy of a beginning leaves open. -/
def Progress.leftOpen (text : List Sign) (last : Progress) : List OpenGroup :=
  (last.withMore (pasted text)).around

/-- A beginning is read twice: on its own, and then on top of its first copy. The second copy may
be refused for a group that the first has left open. -/
theorem readsTo_pasted {text : List Sign} {last : Progress}
    (closed : endsInEscape text = false) (reads : Progress.start.ReadsTo text (.ok last)) :
    Progress.start.ReadsTo (text ++ pasted text)
        (.ok (last.onTop last.groups last.firstCopy (last.leftOpen text))) ∨
      last.leftOpen text ≠ [] ∧
        ∃ refusal, Progress.start.ReadsTo (text ++ pasted text) (.error refusal) := by
  have complete : text ≠ [.char '\\'] := by
    rintro rfl
    cases closed
  have before : (last.withMore (pasted text)).withWildcard.read (.char '|') text =
      .ok (Progress.start.onTop last.groups last.firstCopy (last.leftOpen text), text) := by
    rw [Progress.read_bar _ complete]
    simp [Progress.onTop, Branches.onTop, Branches.after, Branches.shift, Progress.start,
      Branches.nothing, Progress.firstCopy, Progress.leftOpen, Progress.withWildcard, Progress.push,
      Progress.withMore, Branches.split, Branches.push]
  have onwards {whole : Except Refusal Progress}
      (later : (Progress.start.onTop last.groups last.firstCopy (last.leftOpen text)).ReadsTo text
        whole) : Progress.start.ReadsTo (text ++ pasted text) whole :=
    reads.append_of_ok (goesOn_pasted text) (by simp [pasted, Pattern.trailingWildcard]) closed
      (Progress.readsTo_wildcard (by simp) (by simp) (.step before le_rfl later))
  rcases reads.onTop Progress.isNumbered_start le_rfl with again | ⟨isOpen, refusal, refused⟩
  · exact .inl (onwards again)
  · exact .inr ⟨isOpen, refusal, onwards refused⟩

/-- The groups that are open in the end are those of the text on top of those below. -/
theorem Progress.around_onTop_eq_nil_iff {count : Nat} {complete : List (List Node)}
    {below : List OpenGroup} {progress : Progress} :
    (progress.onTop count complete below).around = [] ↔ progress.around = [] ∧ below = [] := by
  obtain ⟨groups, current, around⟩ := progress
  cases around <;> simp [onTop, Branches.onTop]

theorem Progress.finish_eq_ok_iff {progress : Progress} {node : Node} :
    progress.finish = .ok node ↔ progress.around = [] ∧ progress.current.node = node := by
  unfold finish
  split <;> simp_all [faultBefore]

theorem Progress.leftOpen_eq_nil_iff {text : List Sign} {last : Progress} :
    last.leftOpen text = [] ↔ last.around = [] := by
  simp [leftOpen, withMore]

/-- What can be read is what leaves no group open. -/
theorem exists_read_iff_of_readsTo {text : List Sign} {last : Progress}
    (complete : text ≠ [.char '\\'])
    (reads : Progress.start.ReadsTo text (.ok last)) :
    (∃ node, read text = .ok node) ↔ last.around = [] := by
  rw [read_eq_of_readsTo reads complete]
  change (∃ node, last.finish = .ok node) ↔ _
  simp [Progress.finish_eq_ok_iff]

/-- A text with a construct that is refused cannot be read. -/
theorem not_exists_read_of_readsTo {text : List Sign} {refusal : Refusal}
    (complete : text ≠ [.char '\\']) (reads : Progress.start.ReadsTo text (.error refusal)) :
    ¬ ∃ node, read text = .ok node := by
  rintro ⟨node, isRead⟩
  rw [read_eq_of_readsTo reads complete] at isRead
  cases isRead

/-- A text is refused for a set that is left open. -/
def LeavesSetOpen (text : List Sign) : Prop :=
  ∃ remaining, read text = .error (.malformed ⟨.unterminatedSet, remaining⟩)

/-- A beginning that does not end within an escape can be read twice exactly if it can be read
once with the wildcard, unless a set is left open there. -/
theorem read_pasted_iff {text : List Sign} (closed : endsInEscape text = false)
    (setClosed : ¬ LeavesSetOpen (text ++ Pattern.trailingWildcard)) :
    (∃ node, read (text ++ pasted text) = .ok node) ↔
      ∃ node, read (text ++ Pattern.trailingWildcard) = .ok node := by
  have wildcardGoesOn : GoesOn Pattern.trailingWildcard := ⟨.char '\\', _, rfl, .inl rfl⟩
  have complete : text ++ Pattern.trailingWildcard ≠ [.char '\\'] := by
    simp [Pattern.trailingWildcard, List.append_eq_singleton_iff]
  have complete' : text ++ pasted text ≠ [.char '\\'] := by
    simp [pasted, Pattern.trailingWildcard, List.append_eq_singleton_iff]
  obtain ⟨result, reads⟩ := Progress.start.exists_readsTo closed
  cases result with
  | ok last =>
      have plain : Progress.start.ReadsTo (text ++ Pattern.trailingWildcard)
          (.ok (last.withMore Pattern.trailingWildcard).withWildcard) :=
        reads.append_of_ok wildcardGoesOn (by simp [Pattern.trailingWildcard]) closed
          (List.append_nil Pattern.trailingWildcard ▸
            Progress.readsTo_wildcard (by simp) (by simp) (.done _))
      have plainIff : (∃ node, read (text ++ Pattern.trailingWildcard) = .ok node) ↔
          last.around = [] := by
        rw [exists_read_iff_of_readsTo complete plain]
        exact List.map_eq_nil_iff
      rw [plainIff]
      rcases readsTo_pasted closed reads with twice | ⟨isOpen, refusal, refused⟩
      · rw [exists_read_iff_of_readsTo complete' twice, Progress.around_onTop_eq_nil_iff,
          Progress.leftOpen_eq_nil_iff, and_self]
      · rw [Ne, Progress.leftOpen_eq_nil_iff] at isOpen
        exact iff_of_false (not_exists_read_of_readsTo complete' refused) isOpen
  | error refusal =>
      rcases reads.append wildcardGoesOn closed with
        ⟨_, same, -⟩ | ⟨⟨refusal', plain⟩, -⟩ | ⟨-, closes⟩
      · cases same
      · refine iff_of_false ?_ (not_exists_read_of_readsTo complete plain)
        have goesOn : GoesOn (.char '|' :: text) := ⟨.char '|', text, rfl, .inr rfl⟩
        have plainClosed := endsInEscape_append closed Pattern.trailingWildcard
        have parts : text ++ Pattern.trailingWildcard ++ .char '|' :: text = text ++ pasted text :=
          List.append_assoc _ _ _
        rcases plain.append goesOn plainClosed with
          ⟨_, same, -⟩ | ⟨⟨refusal, refused⟩, -⟩ | ⟨⟨remaining, same⟩, -⟩
        · cases same
        · rw [parts] at refused
          exact not_exists_read_of_readsTo complete' refused
        · cases same
          exact absurd ⟨remaining, read_eq_of_readsTo plain complete⟩ setClosed
      · exact absurd closes (by decide)

/-- A beginning that ends within an escape cannot be read twice: its second copy has nothing to
escape. -/
theorem not_read_pasted {text : List Sign} (ends : endsInEscape text = true) :
    ¬ ∃ node, read (text ++ pasted text) = .ok node := by
  have stillEnds : endsInEscape (text ++ pasted text) = true := by
    rw [pasted, Pattern.trailingWildcard, List.cons_append, endsInEscape_append_cons ends]
    simpa using ends
  obtain ⟨refusal, refused⟩ := exists_error_of_endsInEscape stillEnds
  rintro ⟨node, isRead⟩
  rw [refused] at isRead
  cases isRead

end Regex

/-! ### Patterns -/

/-- The text of the regular expression of a pattern that ends in a wildcard. -/
theorem Pattern.translate_wildcard (bare : List Sign) :
    translate (bare ++ wildcard) =
      bare.flatMap translateChar ++ Regex.pasted (bare.flatMap translateChar) := by
  rw [translate_append_wildcard, flatMap_translateChar_wildcard, Regex.pasted, List.append_assoc]

/-- A pattern can be read exactly if the text of its regular expression can. -/
theorem Pattern.exists_read_iff {expression : Text} :
    (∃ pattern, read expression = .ok pattern) ↔
      ∃ node, Regex.read (translate (split expression.toList).2) = .ok node := by
  unfold read
  dsimp only
  split <;> simp_all

/-- A set that is left open is no reason to refuse a text that can be read. -/
theorem Regex.not_leavesSetOpen {text : List Sign} (isRead : (Regex.read text).toBool = true) :
    ¬ Regex.LeavesSetOpen text := by
  rintro ⟨remaining, refused⟩
  rw [refused] at isRead
  cases isRead

/-- What can be read is something. -/
theorem exists_ok_of_toBool {ε α : Type} {step : Except ε α} (isOk : step.toBool = true) :
    ∃ a, step = .ok a := by
  cases step with
  | ok a => exact ⟨a, rfl⟩
  | error fault => cases isOk

/-- A pattern that ends in a wildcard can be read exactly if its translation without the bare
beginning as an alternative can, with two exceptions: where the beginning ends within an escape,
the pattern cannot be read, and nothing is said where the translation leaves a set open. -/
theorem Pattern.read_wildcard_iff {expression : Text} {bare : List Sign}
    (ends : (split expression.toList).2 = bare ++ wildcard) :
    let plain := (split expression.toList).2.flatMap translateChar
    (Regex.endsInEscape (bare.flatMap translateChar) = true →
        ¬ ∃ pattern, read expression = .ok pattern) ∧
      (Regex.endsInEscape (bare.flatMap translateChar) = false → ¬ Regex.LeavesSetOpen plain →
        ((∃ pattern, read expression = .ok pattern) ↔ ∃ node, Regex.read plain = .ok node)) := by
  intro plain
  have isPlain : plain = bare.flatMap translateChar ++ trailingWildcard := by
    simp only [plain, ends, flatMap_translateChar_wildcard]
  rw [exists_read_iff, ends, translate_wildcard, isPlain]
  exact ⟨Regex.not_read_pasted, Regex.read_pasted_iff⟩

theorem Pattern.read_wildcard_iff_two_groups :
    (split (Text.ofString "!(a|b)?(c).*").toList).2 =
        (Text.ofString "(a|b)?(c)").toList ++ wildcard ∧
      ((∃ pattern, read "!(a|b)?(c).*" = .ok pattern) ↔
        ∃ node, Regex.read ((split (Text.ofString "!(a|b)?(c).*").toList).2.flatMap
          translateChar) = .ok node) ∧
      ∃ node, Regex.read ((split (Text.ofString "!(a|b)?(c).*").toList).2.flatMap
        translateChar) = .ok node := by
  have ends : (split (Text.ofString "!(a|b)?(c).*").toList).2 =
      (Text.ofString "(a|b)?(c)").toList ++ wildcard := by decide +kernel
  have isRead : (Regex.read ((split (Text.ofString "!(a|b)?(c).*").toList).2.flatMap
      translateChar)).toBool = true := by decide +kernel
  have closed :
      Regex.endsInEscape ((Text.ofString "(a|b)?(c)").toList.flatMap translateChar) = false := by
    decide +kernel
  exact ⟨ends, (read_wildcard_iff ends).2 closed (Regex.not_leavesSetOpen isRead),
    exists_ok_of_toBool isRead⟩

/-- Where the bare beginning ends within an escape, a pattern is refused although its translation
without the beginning as an alternative can be read. -/
theorem not_read_wildcard_of_escape :
    ¬ ∀ (expression : Text) (bare : List Sign),
      (Pattern.split expression.toList).2 = bare ++ Pattern.wildcard →
        ((∃ pattern, Pattern.read expression = .ok pattern) ↔
          ∃ node, Regex.read ((Pattern.split expression.toList).2.flatMap Pattern.translateChar) =
            .ok node) := by
  intro alike
  have isRead : (Regex.read ((Pattern.split (Text.ofString "a\\.*").toList).2.flatMap
      Pattern.translateChar)).toBool = true := by decide +kernel
  have refused : (Pattern.read "a\\.*").toBool = false := by decide +kernel
  obtain ⟨pattern, isPattern⟩ :=
    (alike "a\\.*" [.char 'a', .char '\\'] (by decide +kernel)).mpr (exists_ok_of_toBool isRead)
  rw [isPattern] at refused
  cases refused

/-- Where a set is left open, a pattern may be read although its translation without the beginning
as an alternative cannot. -/
theorem read_wildcard_of_open_set :
    (Pattern.read "[]x.*").toBool = true ∧
      (Regex.read ((Text.ofString "[]x.*").toList.flatMap
        Pattern.translateChar)).toBool = false := by
  decide

end BundleEmbed
