import BundleEmbed.Proofs.Regex.Language
import BundleEmbed.Regex.Alternatives

/-!
The language of a group of alternatives.

The expression of a group is not the choice between its alternatives as they are written:
their common start is taken out in front of them, and what remains may become a set. Neither
changes which texts are taken.

* `commonSet?_spec`: alternatives that make a set are one character each.
* `cons_eq_map_commonStart`: each alternative is the common start and what remains of it.
* `Node.takes_ofAlternatives_iff`: the expression of a group takes what one of its
  alternatives takes.
-/

namespace BundleEmbed.Regex

variable {text : List Sign}

/-! ### Sequences and choices -/

/-- A sequence of two parts takes a text that the first part starts and the second ends. -/
theorem Node.takes_sequence_append_iff {front back : List Node} :
    (Node.sequence (front ++ back)).Takes text ↔
      ∃ before after, text = before ++ after ∧ (Node.sequence front).Takes before ∧
        (Node.sequence back).Takes after := by
  induction front generalizing text with
  | nil => simp
  | cons node front ih =>
      simp only [List.cons_append, Node.sequence_cons, Node.takes_both_iff, ih]
      constructor
      · rintro ⟨first, -, rfl, takesFirst, before, after, rfl, takesBefore, takesAfter⟩
        exact ⟨first ++ before, after, (List.append_assoc ..).symm,
          ⟨first, before, rfl, takesFirst, takesBefore⟩, takesAfter⟩
      · rintro ⟨-, after, rfl, ⟨first, before, rfl, takesFirst, takesBefore⟩, takesAfter⟩
        exact ⟨first, before ++ after, List.append_assoc .., takesFirst, before, after, rfl,
          takesBefore, takesAfter⟩

/-- Nothing after an expression adds nothing to what it takes. -/
@[simp] theorem Node.takes_both_empty_iff {node : Node} :
    (Node.both node .empty).Takes text ↔ node.Takes text := by
  simp [Node.takes_both_iff]

/-- A choice takes what one of its alternatives takes. -/
theorem Node.takes_choice_iff {alternatives : List (List Node)} :
    (Node.choice alternatives).Takes text ↔
      ∃ nodes ∈ alternatives, (Node.sequence nodes).Takes text := by
  induction alternatives with
  | nil => simp
  | cons nodes alternatives ih => simp [ih]

/-! ### Sets of alternatives -/

/-- An alternative that gives members to a set is one character, and the members hold what it
holds. -/
theorem exists_one_of_setMembers {nodes : List Node} {items : List SetItem}
    (members : setMembers? nodes = some items) :
    ∃ one : CharTest, nodes = [.one one] ∧
      ∀ c, one.holds c = true ↔ ∃ item ∈ items, item.holds c = true := by
  unfold setMembers? at members
  split at members
  · cases members
    exact ⟨_, rfl, by simp [CharTest.holds, SetItem.holds]⟩
  · cases members
    exact ⟨_, rfl, by simp [CharTest.holds]⟩
  · cases members

theorem exists_of_mapM_eq_some {α β : Type} {f : α → Option β} {as : List α} {bs : List β}
    (gathered : as.mapM f = some bs) :
    (∀ a ∈ as, ∃ b ∈ bs, f a = some b) ∧ ∀ b ∈ bs, ∃ a ∈ as, f a = some b := by
  induction as generalizing bs with
  | nil =>
      cases gathered
      simp
  | cons a as ih =>
      simp only [List.mapM_cons, Option.bind_eq_bind, Option.bind_eq_some_iff, Option.pure_def,
        Option.some.injEq] at gathered
      obtain ⟨b, first, bs, later, rfl⟩ := gathered
      obtain ⟨there, back⟩ := ih later
      refine ⟨List.forall_mem_cons.mpr ⟨⟨b, List.mem_cons_self, first⟩, fun a isOne => ?_⟩,
        List.forall_mem_cons.mpr ⟨⟨a, List.mem_cons_self, first⟩, fun b isOne => ?_⟩⟩
      · obtain ⟨b, isIn, same⟩ := there a isOne
        exact ⟨b, List.mem_cons_of_mem _ isIn, same⟩
      · obtain ⟨a, isIn, same⟩ := back b isOne
        exact ⟨a, List.mem_cons_of_mem _ isIn, same⟩

/-- Alternatives that make a set are one character each, and together they hold what the set
holds. -/
theorem commonSet?_spec {alternatives : List (List Node)} {test : CharTest}
    (common : commonSet? alternatives = some test) :
    (∀ nodes ∈ alternatives, ∃ one : CharTest, nodes = [.one one] ∧
        ∀ c, one.holds c = true → test.holds c = true) ∧
      ∀ c, test.holds c = true →
        ∃ one : CharTest, [.one one] ∈ alternatives ∧ one.holds c = true := by
  obtain ⟨members, gathered, rfl⟩ := Option.map_eq_some_iff.mp common
  obtain ⟨there, back⟩ := exists_of_mapM_eq_some gathered
  have holds_iff (c : Sign) : (CharTest.set members.flatten.eraseDups false).holds c = true ↔
      ∃ items ∈ members, ∃ item ∈ items, item.holds c = true := by
    simp only [CharTest.holds, Bool.bne_false, List.any_eq_true, List.mem_eraseDups,
      List.mem_flatten]
    constructor
    · rintro ⟨item, ⟨items, isOne, isIn⟩, holds⟩
      exact ⟨items, isOne, item, isIn, holds⟩
    · rintro ⟨items, isOne, item, isIn, holds⟩
      exact ⟨item, ⟨items, isOne, isIn⟩, holds⟩
  constructor
  · intro nodes isOne
    obtain ⟨items, isItems, given⟩ := there nodes isOne
    obtain ⟨one, rfl, same⟩ := exists_one_of_setMembers given
    exact ⟨one, rfl, fun c holds => (holds_iff c).mpr ⟨items, isItems, (same c).mp holds⟩⟩
  · intro c holds
    obtain ⟨items, isItems, item⟩ := (holds_iff c).mp holds
    obtain ⟨nodes, isOne, given⟩ := back items isItems
    obtain ⟨one, rfl, same⟩ := exists_one_of_setMembers given
    exact ⟨one, isOne, (same c).mpr item⟩

/-- What remains to be chosen takes what one of the alternatives takes. -/
theorem takes_choiceOf_iff {alternatives : List (List Node)} :
    (choiceOf alternatives).Takes text ↔
      ∃ nodes ∈ alternatives, (Node.sequence nodes).Takes text := by
  unfold choiceOf
  split
  · rename_i test common
    obtain ⟨ones, held⟩ := commonSet?_spec common
    rw [Node.takes_one_iff]
    constructor
    · rintro ⟨c, rfl, holds⟩
      obtain ⟨one, isOne, holdsOne⟩ := held c holds
      exact ⟨_, isOne, by simp [holdsOne]⟩
    · rintro ⟨nodes, isOne, takes⟩
      obtain ⟨one, rfl, implied⟩ := ones nodes isOne
      obtain ⟨c, rfl, holds⟩ : ∃ c, text = [c] ∧ one.holds c = true := by simpa using takes
      exact ⟨c, rfl, implied c holds⟩
  · exact Node.takes_choice_iff

/-! ### The common start -/

/-- Each alternative is the common start followed by what remains of it. -/
theorem cons_eq_map_commonStart (nodes : List Node) (others : List (List Node)) :
    nodes :: others =
      (commonStart nodes others).2.map ((commonStart nodes others).1 ++ ·) := by
  induction nodes generalizing others with
  | nil => simp [commonStart]
  | cons node nodes ih =>
      rw [commonStart]
      split_ifs with shared
      · have startsAlike : ∀ other ∈ others, node :: other.tail = other := by
          intro other mem
          have head := List.all_eq_true.mp (Bool.and_eq_true_iff.mp shared).2 other mem
          exact List.cons_head?_tail (by simpa using head)
        have same : (others.map List.tail).map (node :: ·) = others := by
          rw [List.map_map]
          exact (List.map_congr_left startsAlike).trans (List.map_id others)
        calc (node :: nodes) :: others
            = (nodes :: others.map List.tail).map (node :: ·) := by rw [List.map_cons, same]
          _ = _ := by
              rw [ih]
              simp [List.map_map]
      · simp

/-- The common start of alternatives is made of plain expressions. -/
theorem isPlain_of_mem_commonStart {nodes : List Node} {others : List (List Node)} :
    ∀ node ∈ (commonStart nodes others).1, node.isPlain = true := by
  induction nodes generalizing others with
  | nil => simp [commonStart]
  | cons node nodes ih =>
      rw [commonStart]
      split
      · rename_i shared
        exact List.forall_mem_cons.mpr ⟨(Bool.and_eq_true_iff.mp shared).1, ih⟩
      · simp

/-- The expression of a group takes what one of its alternatives takes. -/
theorem Node.takes_ofAlternatives_iff {first : List Node} {others : List (List Node)} :
    (Node.ofAlternatives first others).Takes text ↔
      ∃ nodes ∈ first :: others, (Node.sequence nodes).Takes text := by
  unfold Node.ofAlternatives
  split
  · simp
  · rw [cons_eq_map_commonStart first others, Node.takes_sequence_append_iff]
    simp only [sequence_cons, sequence_nil, takes_both_empty_iff, takes_choiceOf_iff,
      List.mem_map, exists_exists_and_eq_and, Node.takes_sequence_append_iff]
    constructor
    · rintro ⟨before, after, rfl, takesBefore, nodes, mem, takesAfter⟩
      exact ⟨nodes, mem, before, after, rfl, takesBefore, takesAfter⟩
    · rintro ⟨nodes, mem, before, after, rfl, takesBefore, takesAfter⟩
      exact ⟨before, after, rfl, takesBefore, nodes, mem, takesAfter⟩

/-! ### Regular groups -/

/-- A sequence is regular when its parts are. -/
@[simp] theorem Node.isRegular_sequence {nodes : List Node} :
    (Node.sequence nodes).isRegular = nodes.all isRegular := by
  induction nodes with
  | nil => rfl
  | cons node nodes ih => simp [isRegular, ih]

/-- A choice is regular when the parts of its alternatives are. -/
theorem Node.isRegular_choice {alternatives : List (List Node)} :
    (Node.choice alternatives).isRegular = alternatives.all (·.all isRegular) := by
  induction alternatives with
  | nil => rfl
  | cons nodes alternatives ih => simp [isRegular, ih]

/-- The expression of a group is regular when the parts of its alternatives are. -/
theorem Node.isRegular_ofAlternatives {first : List Node} {others : List (List Node)}
    (regular : ∀ nodes ∈ first :: others, nodes.all isRegular = true) :
    (Node.ofAlternatives first others).isRegular = true := by
  unfold Node.ofAlternatives
  split
  · simpa using regular
  · rcases start : commonStart first others with ⟨shared, rests⟩
    have splits := cons_eq_map_commonStart first others
    rw [start] at splits
    have parts : ∀ rest ∈ rests, shared.all isRegular = true ∧ rest.all isRegular = true := by
      intro rest mem
      have whole := regular (shared ++ rest) (splits ▸ List.mem_map_of_mem mem)
      simpa only [List.all_append, Bool.and_eq_true] using whole
    have choiceRegular : (choiceOf rests).isRegular = true := by
      unfold choiceOf
      split
      · rfl
      · rw [isRegular_choice, List.all_eq_true]
        exact fun rest mem => (parts rest mem).2
    cases rests with
    | nil => cases splits
    | cons rest rests =>
        have sharedRegular := (parts rest List.mem_cons_self).1
        simp [sharedRegular, choiceRegular]

end BundleEmbed.Regex
