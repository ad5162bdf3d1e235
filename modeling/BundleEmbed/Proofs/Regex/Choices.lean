import BundleEmbed.Proofs.Regex.Alternatives
import BundleEmbed.Proofs.Regex.WithoutReferences

/-!
What is found for a group of alternatives, before any group is marked.

The common start of alternatives is searched once, in front of what remains of them, and what
remains may be searched as a set. Nothing is found that way but for one of the alternatives. The
other way round an alternative has to wait for those before it, each of which leaves another place
as the one noted last; so it is found in the group if it is found whatever was noted last.

* `Search.MayFind`, `Search.MustFind`: what is found from some notes, and from all.
* `Node.exists_mayFind_of_ofAlternatives`: what is found for a group, without references, is found
  for an alternative.
* `Node.mustFind_ofAlternatives`: what must be found for an alternative must be found for the group.
-/

namespace BundleEmbed.Regex

/-- Before any group is marked, the search finds something after some way to get here. -/
def Search.MayFind (search : Search) (here : Place) : Prop :=
  ∃ notes : Notes, notes.marks = [] ∧ ∃ final, search here notes = .found final

/-- Before any group is marked, the search finds something after any way to get here. -/
def Search.MustFind (search : Search) (here : Place) : Prop :=
  ∀ notes : Notes, notes.marks = [] → ∃ final, search here notes = .found final

section

variable {inLoop : Bool} {ahead : Option CharTest} {next : Search} {here : Place}

/-- What may be found for an expression without its references must be found for the renumbered
expression. -/
theorem Node.mustFind_shift [Release] {count : Nat} {node : Node}
    (numbered : node.IsNumbered count) (agree : Search.Agrees count False next next)
    (found : (node.withoutReferences.run inLoop ahead next).MayFind here) :
    ((node.shift count).run inLoop ahead next).MustFind here := by
  obtain ⟨notes, unmarked, final, found⟩ := found
  intro notes' unmarked'
  have agreeNotes : notes.Agrees count False notes' := ⟨.inr ⟨unmarked, unmarked'⟩, False.elim⟩
  have alike := run_agrees numbered inLoop ahead agree here notes notes' agreeNotes
  rw [found] at alike
  generalize (node.shift count).run inLoop ahead next here notes' = outcome at alike
  cases alike with
  | found agree => exact ⟨_, rfl⟩

/-! ### The common start -/

/-- The place after a plain expression, before any group is marked. -/
def Node.step? (here : Place) : Node → Option Place
  | .one test => here.accept test.holds
  | .assertion claim => if claim.holds here then some here else none
  | _ => none

/-- A group that is not marked holds nothing. -/
theorem Notes.held?_of_unmarked {notes : Notes} (unmarked : notes.marks = []) (number : Nat) :
    notes.held? number = none := by
  simp [held?, unmarked]

theorem Node.found_iff_of_isPlain [Release] {node : Node} (plain : node.isPlain = true)
    {notes : Notes} (unmarked : notes.marks = []) :
    (∃ final, node.run inLoop ahead next here notes = .found final) ↔
      ∃ there, node.step? here = some there ∧ ∃ final, next there notes = .found final := by
  cases node with
  | one test => cases accepted : here.accept test.holds <;> simp [run, step?, accepted]
  | assertion claim => cases holds : claim.holds here <;> simp [run, step?, holds]
  | reference number => simp [run, step?, Notes.held?_of_unmarked unmarked]
  | _ => cases plain

theorem Node.mustFind_iff_of_isPlain [Release] {node : Node} (plain : node.isPlain = true) :
    (node.run inLoop ahead next).MustFind here ↔
      ∃ there, node.step? here = some there ∧ next.MustFind there := by
  constructor
  · intro must
    obtain ⟨there, step, -⟩ := (found_iff_of_isPlain plain rfl).mp (must (.start here) rfl)
    refine ⟨there, step, fun notes unmarked => ?_⟩
    obtain ⟨other, step', found⟩ := (found_iff_of_isPlain plain unmarked).mp (must notes unmarked)
    cases step.symm.trans step'
    exact found
  · rintro ⟨there, step, must⟩ notes unmarked
    exact (found_iff_of_isPlain plain unmarked).mpr ⟨there, step, must notes unmarked⟩

theorem Node.mayFind_iff_of_isPlain [Release] {node : Node} (plain : node.isPlain = true) :
    (node.run inLoop ahead next).MayFind here ↔
      ∃ there, node.step? here = some there ∧ next.MayFind there := by
  constructor
  · rintro ⟨notes, unmarked, found⟩
    obtain ⟨there, step, found⟩ := (found_iff_of_isPlain plain unmarked).mp found
    exact ⟨there, step, notes, unmarked, found⟩
  · rintro ⟨there, step, notes, unmarked, found⟩
    exact ⟨notes, unmarked, (found_iff_of_isPlain plain unmarked).mpr ⟨there, step, found⟩⟩

/-- A reference finds nothing before any group is marked, so it may as well be left out. -/
theorem Node.mayFind_withoutReferences_iff_of_isPlain [Release] {node : Node}
    (plain : node.isPlain = true) :
    (node.withoutReferences.run inLoop ahead next).MayFind here ↔
      ∃ there, node.step? here = some there ∧ next.MayFind there := by
  cases node with
  | reference number => simp [withoutReferences, step?, run, Search.MayFind]
  | one => exact mayFind_iff_of_isPlain plain
  | assertion => exact mayFind_iff_of_isPlain plain
  | _ => cases plain

/-! ### Alternatives -/

/-- Where something is found, the character is not lacking that the expression opens with. -/
theorem Node.opening_of_found [Release] {node : Node} {test : CharTest} {notes final : Notes}
    (opens : node.opening? = some test)
    (found : node.run inLoop ahead next here notes = .found final) :
    here.rest.head?.any test.holds = true := by
  induction node generalizing ahead next with
  | one test' =>
      cases opens
      simp only [run] at found
      split at found
      · rename_i there accepted
        obtain ⟨c, splits, holds⟩ := Place.eq_cons_of_accept accepted
        simp [splits, holds]
      · cases found
  | both first second ihFirst _ => exact ihFirst opens found
  | _ => cases opens

theorem Node.not_lacks_of_found [Release] {node : Node} {notes final : Notes}
    (found : node.run inLoop ahead next here notes = .found final) :
    here.lacks node.opening? = false := by
  cases opens : node.opening? with
  | none => rfl
  | some test =>
      have holds := opening_of_found opens found
      cases test <;> simp [Place.lacks, Place.lacksCode, holds]

theorem Outcome.orElse_eq_found_iff {outcome : Outcome} {retry : Notes → Outcome} {final : Notes} :
    outcome.orElse retry = .found final ↔
      outcome = .found final ∨
        ∃ failed, outcome = .failed failed ∧ retry failed = .found final := by
  cases outcome <;> simp [orElse]

theorem Node.exists_mayFind_of_choice [Release] {alternatives : List (List Node)}
    (found : ((choice alternatives).run inLoop ahead next).MayFind here) :
    ∃ nodes ∈ alternatives, ((sequence nodes).run inLoop none next).MayFind here := by
  induction alternatives generalizing ahead with
  | nil =>
      obtain ⟨notes, unmarked, final, found⟩ := found
      cases found
  | cons nodes alternatives ih =>
      have among (later : ((choice alternatives).run inLoop none next).MayFind here) :
          ∃ nodes' ∈ nodes :: alternatives,
            ((sequence nodes').run inLoop none next).MayFind here := by
        obtain ⟨nodes', isOne, found⟩ := ih later
        exact ⟨nodes', List.mem_cons_of_mem _ isOne, found⟩
      obtain ⟨notes, unmarked, final, found⟩ := found
      simp only [choice_cons, run] at found
      split at found
      · exact among ⟨notes, unmarked, final, found⟩
      · rcases Outcome.orElse_eq_found_iff.mp found with found | ⟨failed, -, found⟩
        · exact ⟨nodes, List.mem_cons_self, notes.note here, unmarked, final, found⟩
        · exact among ⟨_, Notes.marks_takeBack inLoop unmarked, final, found⟩

theorem Node.mustFind_choice [Release] {nodes : List Node} {alternatives : List (List Node)}
    (isOne : nodes ∈ alternatives)
    (must : ((sequence nodes).run inLoop none next).MustFind here) :
    ((choice alternatives).run inLoop ahead next).MustFind here := by
  induction alternatives generalizing ahead with
  | nil => cases isOne
  | cons first alternatives ih =>
      intro notes unmarked
      simp only [choice_cons, run]
      cases isOne with
      | head =>
          obtain ⟨final, found⟩ := must (notes.note here) unmarked
          rw [not_lacks_of_found found, found]
          exact ⟨final, rfl⟩
      | tail _ isOne =>
          have later := @ih none isOne
          split
          · exact later notes unmarked
          · cases (sequence first).run inLoop none next here (notes.note here) with
            | found final => exact ⟨final, rfl⟩
            | failed failed => exact later _ (Notes.marks_takeBack inLoop unmarked)

/-! ### Alternatives as a set -/

/-- The places that a test gives on to are those of a wider test too. -/
theorem Place.accept_mono {there : Place} {test wider : Sign → Bool}
    (implied : ∀ c, test c = true → wider c = true) (accepted : here.accept test = some there) :
    here.accept wider = some there := by
  unfold Place.accept at accepted ⊢
  split at accepted
  · cases accepted
  · rename_i c rest splits
    split_ifs at accepted with passes
    simpa [implied c passes] using accepted

theorem exists_mayFind_of_choiceOf [Release] {alternatives : List (List Node)}
    (found : ((choiceOf alternatives).withoutReferences.run inLoop ahead next).MayFind here) :
    ∃ nodes ∈ alternatives,
      ((Node.sequence nodes).withoutReferences.run inLoop none next).MayFind here := by
  unfold choiceOf at found
  split at found
  · rename_i test common
    replace found : ((Node.one test).run inLoop ahead next).MayFind here := found
    obtain ⟨there, step, found⟩ := (Node.mayFind_iff_of_isPlain rfl).mp found
    obtain ⟨c, splits, holds⟩ := Place.eq_cons_of_accept step
    obtain ⟨one, isOne, holdsOne⟩ := (commonSet?_spec common).2 c holds
    have stepOne : (Node.one one).step? here = some there := by
      simp only [Node.step?, Place.accept, splits, holds, if_true] at step
      simpa only [Node.step?, Place.accept, splits, holdsOne, if_true] using step
    have alone : ((Node.one one).run inLoop none next).MayFind here :=
      (Node.mayFind_iff_of_isPlain rfl).mpr ⟨there, stepOne, found⟩
    exact ⟨_, isOne, alone⟩
  · rw [Node.withoutReferences_choice] at found
    obtain ⟨_, isIn, found⟩ := Node.exists_mayFind_of_choice found
    obtain ⟨nodes, isOne, rfl⟩ := List.mem_map.mp isIn
    exact ⟨nodes, isOne, Node.withoutReferences_sequence nodes ▸ found⟩

theorem mustFind_choiceOf [Release] {nodes : List Node} {alternatives : List (List Node)}
    (isOne : nodes ∈ alternatives)
    (must : ((Node.sequence nodes).run inLoop none next).MustFind here) :
    ((choiceOf alternatives).run inLoop ahead next).MustFind here := by
  unfold choiceOf
  split
  · rename_i test common
    obtain ⟨one, rfl, implied⟩ := (commonSet?_spec common).1 nodes isOne
    replace must : ((Node.one one).run inLoop none next).MustFind here := must
    obtain ⟨there, step, must⟩ := (Node.mustFind_iff_of_isPlain rfl).mp must
    exact (Node.mustFind_iff_of_isPlain rfl).mpr ⟨there, Place.accept_mono implied step, must⟩
  · exact Node.mustFind_choice isOne must

/-! ### Groups -/

/-- What is found for the expression of a group, without its references, is found for one of the
alternatives. -/
theorem Node.exists_mayFind_of_ofAlternatives [Release] {first : List Node}
    {others : List (List Node)}
    (found : ((ofAlternatives first others).withoutReferences.run inLoop none next).MayFind here) :
    ∃ nodes ∈ first :: others,
      ((sequence nodes).withoutReferences.run inLoop none next).MayFind here := by
  unfold ofAlternatives at found
  split at found
  · exact ⟨first, List.mem_cons_self, found⟩
  · rw [cons_eq_map_commonStart first others]
    have plain := @isPlain_of_mem_commonStart first others
    dsimp only at found
    generalize (commonStart first others).1 = shared, (commonStart first others).2 = rests at *
    suffices ∃ rest ∈ rests, ((sequence (shared ++ rest)).withoutReferences.run inLoop none
        next).MayFind here by simpa using this
    induction shared generalizing here with
    | nil => exact exists_mayFind_of_choiceOf found
    | cons node shared ih =>
        obtain ⟨isPlain, plain⟩ := List.forall_mem_cons.mp plain
        obtain ⟨there, step, found⟩ := (mayFind_withoutReferences_iff_of_isPlain isPlain).mp found
        obtain ⟨rest, isOne, found⟩ := ih found plain
        exact ⟨rest, isOne, (mayFind_withoutReferences_iff_of_isPlain isPlain).mpr
          ⟨there, step, found⟩⟩

/-- What must be found for an alternative must be found for the expression of the group. -/
theorem Node.mustFind_ofAlternatives [Release] {nodes first : List Node}
    {others : List (List Node)} (isOne : nodes ∈ first :: others)
    (must : ((sequence nodes).run inLoop none next).MustFind here) :
    ((ofAlternatives first others).run inLoop none next).MustFind here := by
  unfold ofAlternatives
  split
  · rwa [List.mem_singleton.mp isOne] at must
  · rw [cons_eq_map_commonStart first others, List.mem_map] at isOne
    obtain ⟨rest, isOne, rfl⟩ := isOne
    have plain := @isPlain_of_mem_commonStart first others
    dsimp only
    generalize (commonStart first others).1 = shared, (commonStart first others).2 = rests at *
    induction shared generalizing here with
    | nil => exact mustFind_choiceOf isOne must
    | cons node shared ih =>
        obtain ⟨isPlain, plain⟩ := List.forall_mem_cons.mp plain
        obtain ⟨there, step, must⟩ := (mustFind_iff_of_isPlain isPlain).mp must
        exact (mustFind_iff_of_isPlain isPlain).mpr ⟨there, step, ih must plain⟩

end

end BundleEmbed.Regex
