import BundleEmbed.Proofs.Regex.LeastLength
import BundleEmbed.Proofs.TrailingWildcard

/-!
What the bare beginning of a pattern accepts.

A pattern that ends in a wildcard is to accept whatever its bare beginning accepts. It does so by a
second copy of the beginning. In this copy the groups have other numbers and the references have
not, so each reference asks for a group of the first copy, which holds nothing there. All else is
matched as in the beginning alone, and what has been tried before does not matter.

* `Regex.matchesAll_pasted`: what a text matches is matched by the text that holds it twice.
* `Pattern.matchesValue_wildcard`: what a pattern accepts, the pattern with a wildcard behind it
  accepts too, unless it takes a reference.
-/

namespace BundleEmbed

open Regex (Release)

namespace Regex

/-! ### Whole matches -/

/-- What is matched is found from the start of the text. -/
theorem Node.mayFind_of_matchesAll [Release] {node : Node} {text : List Sign}
    (matched : node.matchesAll text ≠ .ok false) :
    (node.run false none .atEnd).MayFind (.start text) := by
  refine ⟨.start (.start text), rfl, ?_⟩
  unfold matchesAll at matched
  split at matched
  · exact absurd rfl matched
  · dsimp only at matched
    split at matched
    · exact absurd rfl matched
    · exact ⟨_, ‹_›⟩

/-- What is found from the start of the text is matched, where the text is not too short. -/
theorem Node.matchesAll_of_mustFind [Release] {node : Node} {text : List Sign}
    (long : (node.least []).1 ≤ text.length)
    (must : (node.run false none .atEnd).MustFind (.start text)) :
    node.matchesAll text ≠ .ok false := by
  obtain ⟨final, found⟩ := must (.start (.start text)) rfl
  rw [matchesAll, if_neg (not_lt.mpr long)]
  simp only [found]
  split <;> simp

/-- What is matched for a group without its references is matched for a group with one of its
alternatives renumbered, if the references are to groups that stand before. -/
theorem Node.matchesAll_ofAlternatives [Release] {count : Nat} {first first' : List Node}
    {others others' : List (List Node)}
    (numbered : ∀ nodes ∈ first :: others, ∀ node ∈ nodes, node.IsNumbered count)
    (again : ∀ nodes ∈ first :: others, nodes.map (shift count) ∈ first' :: others')
    {text : List Sign}
    (matched : (ofAlternatives first others).withoutReferences.matchesAll text ≠ .ok false) :
    (ofAlternatives first' others').matchesAll text ≠ .ok false := by
  obtain ⟨nodes, isOne, found⟩ := exists_mayFind_of_ofAlternatives (mayFind_of_matchesAll matched)
  have must := mustFind_shift (isNumbered_sequence (numbered nodes isOne)) Search.agrees_atEnd found
  obtain ⟨known, less⟩ := exists_least_ofAlternatives_le (again nodes isOne)
  obtain ⟨notes, -, final, found⟩ := found
  obtain ⟨there, before, enough, -⟩ :=
    run_takes count (sequence nodes) known false none _ _ _ _ found
  rw [shift_sequence] at must enough
  have long : ((ofAlternatives first' others').least []).1 ≤ text.length :=
    less.trans ((Nat.le_add_right _ _).trans enough)
  exact matchesAll_of_mustFind long (mustFind_ofAlternatives (again nodes isOne) must)

/-! ### Texts that stand twice -/

theorem Branches.alternatives_after (complete : List (List Node)) (branches : Branches) :
    (branches.after complete).alternatives = complete ++ branches.alternatives := by
  simp [alternatives, after]

/-- The expression of alternatives is that of a group. -/
theorem Branches.exists_node_eq (branches : Branches) :
    ∃ first others, branches.alternatives = first :: others ∧
      branches.node = .ofAlternatives first others := by
  obtain ⟨complete, items⟩ := branches
  cases complete with
  | nil => exact ⟨items.reverse, [], rfl, rfl⟩
  | cons first others => exact ⟨first, others ++ [items.reverse], rfl, rfl⟩

/-- A text that can be read does not end within an escape. -/
theorem endsInEscape_of_read {text : List Sign} {node : Node} (isRead : read text = .ok node) :
    endsInEscape text = false := by
  by_contra ends
  obtain ⟨refusal, refused⟩ := exists_error_of_endsInEscape (by simpa using ends)
  cases isRead.symm.trans refused

/-- A text that can be read can be read with a wildcard and itself as another alternative behind
it, and what it matches without its references is matched then. -/
theorem matchesAll_pasted [Release] {text : List Sign} {node : Node}
    (isRead : read text = .ok node) : ∃ whole, read (text ++ pasted text) = .ok whole ∧
      ∀ value, node.withoutReferences.matchesAll value ≠ .ok false →
        whole.matchesAll value ≠ .ok false := by
  have closed := endsInEscape_of_read isRead
  have complete : text ≠ [.char '\\'] := by
    rintro rfl
    cases closed
  have complete' : text ++ pasted text ≠ [.char '\\'] := by
    simp [pasted, Pattern.trailingWildcard, List.append_eq_singleton_iff]
  obtain ⟨result, reads⟩ := Progress.start.exists_readsTo closed
  rw [read_eq_of_readsTo reads complete] at isRead
  cases result with
  | error refusal => cases isRead
  | ok last =>
      obtain ⟨around, rfl⟩ := Progress.finish_eq_ok_iff.mp isRead
      have leftOpen : last.leftOpen text = [] := Progress.leftOpen_eq_nil_iff.mpr around
      have numbered := (reads.keepsNumbers Progress.isNumbered_start).2.current
      -- the second copy stands on top of the first, and no group is open there
      have twice := (readsTo_pasted closed reads).resolve_right fun isOpen => isOpen.1 leftOpen
      let whole := (last.current.shift last.groups).after last.firstCopy
      have finish : (last.onTop last.groups last.firstCopy (last.leftOpen text)).finish =
          .ok whole.node := by
        rw [Progress.finish_eq_ok_iff, Progress.around_onTop_eq_nil_iff, Progress.onTop, around]
        exact ⟨⟨rfl, leftOpen⟩, rfl⟩
      refine ⟨whole.node, (read_eq_of_readsTo twice complete').trans finish, ?_⟩
      obtain ⟨first, others, alternatives, node⟩ := last.current.exists_node_eq
      obtain ⟨first', others', alternatives', node'⟩ := whole.exists_node_eq
      rw [node, node']
      unfold Branches.All at numbered
      rw [alternatives] at numbered
      have again (nodes : List Node) (isOne : nodes ∈ first :: others) :
          nodes.map (Node.shift last.groups) ∈ first' :: others' := by
        rw [← alternatives] at isOne
        rw [← alternatives', Branches.alternatives_after, Branches.alternatives_shift]
        exact List.mem_append_right _ (List.mem_map_of_mem isOne)
      exact fun value => Node.matchesAll_ofAlternatives numbered again

end Regex

/-! ### Patterns -/

/-- A wildcard behind a pattern stands behind its body. -/
theorem Pattern.split_append_wildcard (expression : Text) :
    (split (expression ++ ".*").toList).2 = (split expression.toList).2 ++ wildcard := by
  rw [Text.toList_append]
  cases expression.toList with
  | nil => rfl
  | cons c body =>
      by_cases mark : c = .char '!'
      · subst mark
        rfl
      · simp [split, mark, wildcard]

/-- A pattern is read as the regular expression that its translation is read as. -/
theorem Pattern.exists_read_of_translate {expression : Text} {node : Regex.Node}
    (isRead : Regex.read (translate (split expression.toList).2) = .ok node) :
    ∃ pattern, read expression = .ok pattern ∧ pattern.regex = node := by
  unfold read
  simp [isRead]

/-- Where the translation of a pattern can be read by itself, the pattern with a wildcard behind it
can be read. It matches what the translation matches without its references, unless its search ends
in a fault. So where a pattern has no references and does not end in a wildcard already, what it
matches is matched by the pattern with a wildcard behind it. -/
theorem Pattern.matchesValue_wildcard [Release] {expression : Text} {node : Regex.Node}
    (isRead : Regex.read ((split expression.toList).2.flatMap translateChar) = .ok node) :
    ∃ pattern, read (expression ++ ".*") = .ok pattern ∧
      (∀ value : Text, node.withoutReferences.matchesAll value.toList ≠ .ok false →
        pattern.matchesValue value ≠ .ok false) ∧
      (¬ wildcard <:+ (split expression.toList).2 → node.hasNoReference = true →
        ∃ bare, read expression = .ok bare ∧ ∀ value : Text,
          bare.matchesValue value ≠ .ok false → pattern.matchesValue value ≠ .ok false) := by
  obtain ⟨whole, isReadTwice, matched⟩ := Regex.matchesAll_pasted isRead
  rw [← translate_wildcard, ← split_append_wildcard] at isReadTwice
  obtain ⟨pattern, isPattern, rfl⟩ := exists_read_of_translate isReadTwice
  refine ⟨pattern, isPattern, fun value => matched value.toList, fun noWildcard noReference => ?_⟩
  rw [← translate_of_not_wildcard noWildcard] at isRead
  obtain ⟨bare, isBare, rfl⟩ := exists_read_of_translate isRead
  rw [Regex.Node.withoutReferences_eq_self noReference] at matched
  exact ⟨bare, isBare, fun value => matched value.toList⟩

/-- What is computed of a result is computed of the value in it. -/
theorem eq_of_map_eq_ok {ε α β : Type} {step : Except ε α} {f : α → β} {a : α} {b : β}
    (isOk : step = .ok a) (mapped : step.map f = .ok b) : f a = b := by
  rw [isOk] at mapped
  exact Except.ok.inj mapped

theorem Pattern.matchesValue_wildcard_two_copies :
    (∃ node, Regex.read ((split (Text.ofString "!(a|b)+[cd]").toList).2.flatMap
        translateChar) = .ok node) ∧
      ∃ pattern bare, read ("!(a|b)+[cd]" ++ ".*") = .ok pattern ∧ read "!(a|b)+[cd]" = .ok bare ∧
        bare.matchesValue "abd" = .ok true ∧ pattern.matchesValue "abd" ≠ .ok false := by
  have isRead : (Regex.read ((split (Text.ofString "!(a|b)+[cd]").toList).2.flatMap
      translateChar)).map Regex.Node.hasNoReference = .ok true := by decide +kernel
  have noWildcard : ¬ wildcard <:+ (split (Text.ofString "!(a|b)+[cd]").toList).2 := by
    decide +kernel
  have isMatched : (read "!(a|b)+[cd]").map (·.matchesValue "abd") = .ok (.ok true) := by
    decide +kernel
  obtain ⟨node, isNode⟩ : ∃ node,
      Regex.read ((split (Text.ofString "!(a|b)+[cd]").toList).2.flatMap
        translateChar) = .ok node :=
    exists_ok_of_toBool (by decide +kernel)
  obtain ⟨pattern, isPattern, -, whole⟩ := matchesValue_wildcard isNode
  obtain ⟨bare, isBare, matched⟩ := whole noWildcard (eq_of_map_eq_ok isNode isRead)
  have bareMatches : bare.matchesValue "abd" = .ok true := (eq_of_map_eq_ok isBare isMatched :)
  refine ⟨⟨node, isNode⟩, pattern, bare, isPattern, isBare, bareMatches, matched "abd" ?_⟩
  rw [bareMatches]
  decide

/-- A pattern with a reference may match what it does not match with a wildcard behind it. -/
theorem not_matchesValue_wildcard_of_reference :
    ¬ ∀ (expression value : Text) (bare pattern : Pattern),
      Pattern.read expression = .ok bare → Pattern.read (expression ++ ".*") = .ok pattern →
        bare.matchesValue value = .ok true → pattern.matchesValue value = .ok true := by
  intro alike
  have matched : (Pattern.read "(a)\\1").map (·.matchesValue "aa") = .ok (.ok true) := by
    decide +kernel
  have missed : (Pattern.read ("(a)\\1" ++ ".*")).map (·.matchesValue "aa") = .ok (.ok false) := by
    decide +kernel
  obtain ⟨bare, isBare⟩ : ∃ bare, Pattern.read "(a)\\1" = .ok bare :=
    exists_ok_of_toBool (by decide +kernel)
  obtain ⟨pattern, isPattern⟩ : ∃ pattern, Pattern.read ("(a)\\1" ++ ".*") = .ok pattern :=
    exists_ok_of_toBool (by decide +kernel)
  have same := alike _ _ _ _ isBare isPattern (eq_of_map_eq_ok isBare matched :)
  cases same.symm.trans (eq_of_map_eq_ok isPattern missed :)

/-- So may a pattern that has a wildcard behind it already: what stands before that wildcard is no
longer an alternative of its own. -/
theorem matchesValue_wildcard_twice :
    (Pattern.read "a.*").map (·.matchesValue "a") = .ok (.ok true) ∧
      (Pattern.read "a.*.*").map (·.matchesValue "a") = .ok (.ok false) := by
  decide

/-- The search for a pattern may come to nothing where the pattern without the wildcard matches: in
the copy with the wildcard, another way may be found to match that leaves a group crossed. -/
theorem matchesValue_wildcard_crossed :
    (Pattern.read "(xyz[.]q|((x)|y|z)\x7b0,\x7d+)").map (·.matchesValue "xyz.q") =
        .ok (.ok true) ∧
      (Pattern.read "(xyz[.]q|((x)|y|z)\x7b0,\x7d+).*").map (·.matchesValue "xyz.q") =
        .ok (.error .crossedGroup) := by
  decide +kernel

end BundleEmbed
