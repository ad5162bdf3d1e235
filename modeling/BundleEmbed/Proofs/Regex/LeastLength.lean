import BundleEmbed.Proofs.Regex.Choices

/-!
The least length of a match.

A text that is shorter than every match is not searched. For an expression whose references match
nothing, that leaves out nothing that would be found: what is found has at least the length that
is reckoned for the expression, whatever groups the references in it are counted by.

* `Node.run_staysAhead`: a search notes no place behind the one it starts from.
* `Node.run_takes`: what is found for an expression has its least length.
* `Node.exists_least_ofAlternatives_le`: the least length of a group is that of any alternative,
  or less.
-/

namespace BundleEmbed.Regex

/-! ### Places ahead -/

namespace Place

variable {here there : Place} {test : Sign → Bool}

theorem length_rest_of_accept (accepted : here.accept test = some there) :
    1 + there.rest.length = here.rest.length := by
  obtain ⟨c, splits, -⟩ := eq_cons_of_accept accepted
  rw [splits, List.length_cons, Nat.add_comm]

theorem length_rest_of_acceptAll {text : List Sign} (accepted : here.acceptAll text = some there) :
    text.length + there.rest.length = here.rest.length := by
  induction text generalizing here with
  | nil =>
      cases accepted
      exact Nat.zero_add _
  | cons c text ih =>
      obtain ⟨next, first, later⟩ := Option.bind_eq_some_iff.mp accepted
      rw [← length_rest_of_accept first, ← ih later, List.length_cons]
      omega

theorem length_rest_of_mem_places {bounds : Bounds} (isOne : there ∈ bounds.places test here) :
    bounds.least + there.rest.length ≤ here.rest.length := by
  obtain ⟨taken, splits, -, enough, -⟩ :=
    exists_mem_drop_reach_iff.mp ⟨there, List.mem_reverse.mp isOne, rfl⟩
  rw [splits, List.length_append]
  omega

end Place

/-- The notes with which a search ends. -/
def Outcome.notes : Outcome → Notes
  | .found notes => notes
  | .failed notes => notes

/-- A search that starts where at most `left` characters are left, and has noted no place before,
notes none. -/
def Search.StaysAhead (left : Nat) (search : Search) : Prop :=
  ∀ (here : Place) (notes : Notes), here.rest.length ≤ left → notes.latest.rest.length ≤ left →
    (search here notes).notes.latest.rest.length ≤ left

section StaysAhead

variable {left : Nat} {next : Search} {round : Search → Search}

theorem Outcome.staysAhead_orElse {outcome : Outcome} {retry : Notes → Outcome}
    (ahead : outcome.notes.latest.rest.length ≤ left)
    (aheadRetry : ∀ failed : Notes, failed.latest.rest.length ≤ left →
      (retry failed).notes.latest.rest.length ≤ left) :
    (outcome.orElse retry).notes.latest.rest.length ≤ left := by
  cases outcome with
  | found notes => exact ahead
  | failed notes => exact aheadRetry notes ahead

namespace Search

theorem staysAhead_accept : StaysAhead left accept := fun _ _ isAhead _ => isAhead

theorem StaysAhead.noted (stays : StaysAhead left next) : StaysAhead left (noted next) :=
  fun here _ isAhead _ =>
    Outcome.staysAhead_orElse (stays here _ isAhead isAhead) fun _ _ => isAhead

theorem StaysAhead.fromFirst (stays : StaysAhead left next) (inLoop : Bool)
    (ahead : Option CharTest) {places : List Place}
    (areAhead : ∀ there ∈ places, there.rest.length ≤ left) {notes : Notes}
    (isAhead : notes.latest.rest.length ≤ left) :
    (fromFirst inLoop ahead next places notes).notes.latest.rest.length ≤ left := by
  induction places generalizing notes with
  | nil => exact isAhead
  | cons here places ih =>
      obtain ⟨hereAhead, areAhead⟩ := List.forall_mem_cons.mp areAhead
      rw [Search.fromFirst]
      split
      · exact ih areAhead isAhead
      · exact Outcome.staysAhead_orElse (stays here _ hereAhead hereAhead) fun _ failedAhead =>
          ih areAhead failedAhead

theorem StaysAhead.runMany (stays : StaysAhead left next) (bounds : Bounds) (possessive : Bool)
    (test : Sign → Bool) (inLoop : Bool) (ahead : Option CharTest) :
    StaysAhead left (runMany bounds possessive test inLoop ahead next) := by
  intro here notes hereAhead isAhead
  have areAhead (there : Place) (isOne : there ∈ bounds.places test here) :
      there.rest.length ≤ left := by
    have shorter := Place.length_rest_of_mem_places isOne
    omega
  simp only [Regex.runMany]
  split
  · exact isAhead
  split
  · split
    · exact hereAhead
    · rename_i places
      exact stays _ _ (areAhead _ (places ▸ List.mem_cons_self)) hereAhead
  · exact stays.fromFirst inLoop ahead areAhead hereAhead

theorem StaysAhead.runLeast
    (staysRound : ∀ {next : Search}, StaysAhead left next → StaysAhead left (round next))
    (stays : StaysAhead left next) (least : Nat) :
    StaysAhead left (runLeast round next least) := by
  induction least with
  | zero => exact stays
  | succ least ih => exact (staysRound ih).noted

theorem StaysAhead.runMost
    (staysRound : ∀ {next : Search}, StaysAhead left next → StaysAhead left (round next))
    (stays : StaysAhead left next) (fuel : Nat) (allowed started : Option Nat) :
    StaysAhead left (runMost round next fuel allowed started) := by
  induction fuel generalizing allowed started with
  | zero => exact stays.noted
  | succ fuel ih =>
      intro here notes hereAhead isAhead
      simp only [Regex.runMost]
      split
      · exact stays.noted here _ hereAhead isAhead
      · exact Outcome.staysAhead_orElse (staysRound (ih _ _) here _ hereAhead hereAhead)
          fun _ failedAhead => stays.noted here _ hereAhead failedAhead

theorem staysAhead_takeLeast (stays : StaysAhead left (round accept)) (least : Nat) {notes : Notes}
    (isAhead : notes.latest.rest.length ≤ left) :
    (takeLeast round least notes).notes.latest.rest.length ≤ left := by
  induction least generalizing notes with
  | zero => exact isAhead
  | succ least ih =>
      have first := stays notes.latest notes isAhead isAhead
      rw [takeLeast]
      split
      · rename_i outcome
        rw [outcome] at first
        exact ih first
      · rename_i outcome
        rwa [outcome] at first

theorem staysAhead_takeMost [Release] (stays : StaysAhead left (round accept)) (fuel : Nat)
    (allowed started : Option Nat) {notes : Notes} (isAhead : notes.latest.rest.length ≤ left) :
    (takeMost round fuel allowed started notes).latest.rest.length ≤ left := by
  induction fuel generalizing allowed started notes with
  | zero => exact isAhead
  | succ fuel ih =>
      have first := stays notes.latest notes isAhead isAhead
      simp only [takeMost]
      split
      · exact isAhead
      · split
        · rename_i outcome
          rw [outcome] at first
          exact ih _ _ first
        · rename_i outcome
          rw [outcome] at first
          split
          · exact first
          · exact isAhead

theorem StaysAhead.takeLoop [Release] (staysRound : StaysAhead left (round accept))
    (stays : StaysAhead left next) (bounds : Bounds) :
    StaysAhead left (takeLoop bounds round next) := by
  intro here notes hereAhead isAhead
  have first := @staysAhead_takeLeast left round staysRound bounds.least (notes.note here) hereAhead
  rw [Regex.takeLoop]
  split
  · exact hereAhead
  · rename_i outcome
    rw [outcome] at first
    have taken := staysAhead_takeMost staysRound here.rounds (bounds.most.map (· - bounds.least))
      none first
    exact stays _ _ taken taken

end Search

end StaysAhead

/-- A search notes no place behind those that it starts from. -/
theorem Node.run_staysAhead [Release] {left : Nat} (node : Node) (inLoop : Bool)
    (ahead : Option CharTest) {next : Search} (stays : next.StaysAhead left) :
    (node.run inLoop ahead next).StaysAhead left := by
  induction node generalizing inLoop ahead next with
  | empty => exact stays
  | never => exact fun _ _ _ isAhead => isAhead
  | one test =>
      intro here notes hereAhead isAhead
      simp only [run]
      split
      · rename_i there accepted
        have shorter := Place.length_rest_of_accept accepted
        exact stays _ _ (by omega) isAhead
      · exact isAhead
  | assertion claim =>
      intro here notes hereAhead isAhead
      simp only [run]
      split
      · exact stays _ _ hereAhead isAhead
      · exact isAhead
  | reference number =>
      intro here notes hereAhead isAhead
      simp only [run]
      split
      · rename_i there held
        obtain ⟨text, -, accepted⟩ := Option.bind_eq_some_iff.mp held
        have shorter := Place.length_rest_of_acceptAll accepted
        exact stays _ _ (by omega) isAhead
      · exact isAhead
  | group index body ih =>
      have close : Search.StaysAhead left fun there notes =>
          next there (notes.mark (Notes.endOf index) there) :=
        fun there _ thereAhead isAhead => stays there _ thereAhead isAhead
      exact fun here _ hereAhead isAhead => ih inLoop none close here _ hereAhead isAhead
  | both first second ihFirst ihSecond => exact ihFirst inLoop _ (ihSecond inLoop ahead stays)
  | either first second ihFirst ihSecond =>
      intro here notes hereAhead isAhead
      simp only [run]
      split
      · exact ihSecond inLoop none stays here _ hereAhead isAhead
      · exact Outcome.staysAhead_orElse (ihFirst inLoop none stays here _ hereAhead hereAhead)
          fun failed failedAhead => ihSecond inLoop none stays here _ hereAhead failedAhead
  | many bounds possessive test => exact stays.runMany bounds possessive test.holds inLoop ahead
  | loop bounds possessive body ih =>
      simp only [run]
      cases possessive with
      | true =>
          exact Search.StaysAhead.takeLoop (ih inLoop none Search.staysAhead_accept) stays bounds
      | false =>
          exact Search.StaysAhead.runLeast (ih true none)
            (fun here => Search.StaysAhead.runMost (ih true none) stays here.rounds _ none here)
            bounds.least

/-! ### What is found has its least length -/

/-- What `round` finds, it finds after `least` characters or more. -/
def Search.Takes (least : Nat) (round : Search → Search) : Prop :=
  ∀ (next : Search) (here : Place) (notes final : Notes), round next here notes = .found final →
    ∃ (there : Place) (before : Notes), least + there.rest.length ≤ here.rest.length ∧
      next there before = .found final

namespace Search

variable {next : Search} {here : Place} {notes final : Notes} {least : Nat}
  {round : Search → Search}

theorem eq_found_of_noted (found : noted next here notes = .found final) :
    next here (notes.note here) = .found final := by
  rcases Outcome.orElse_eq_found_iff.mp found with found | ⟨failed, -, found⟩
  · exact found
  · cases found

theorem exists_of_fromFirst {inLoop : Bool} {ahead : Option CharTest} {places : List Place}
    (found : fromFirst inLoop ahead next places notes = .found final) :
    ∃ there ∈ places, ∃ before, next there before = .found final := by
  induction places generalizing notes with
  | nil => cases found
  | cons here places ih =>
      rw [fromFirst] at found
      split at found
      · obtain ⟨there, isOne, later⟩ := ih found
        exact ⟨there, List.mem_cons_of_mem here isOne, later⟩
      · rcases Outcome.orElse_eq_found_iff.mp found with found | ⟨failed, -, found⟩
        · exact ⟨here, List.mem_cons_self, _, found⟩
        · obtain ⟨there, isOne, later⟩ := ih found
          exact ⟨there, List.mem_cons_of_mem here isOne, later⟩

theorem takes_runMany (bounds : Bounds) (possessive : Bool) (test : Sign → Bool) (inLoop : Bool)
    (ahead : Option CharTest) :
    Takes bounds.least (runMany bounds possessive test inLoop ahead) := by
  intro next here notes final found
  simp only [runMany] at found
  split at found
  · cases found
  split at found
  · split at found
    · cases found
    · rename_i there _ places
      exact ⟨there, _, Place.length_rest_of_mem_places (places ▸ List.mem_cons_self), found⟩
  · obtain ⟨there, isOne, before, later⟩ := exists_of_fromFirst found
    exact ⟨there, before, Place.length_rest_of_mem_places isOne, later⟩

theorem Takes.runLeast (takes : Takes least round) (count : Nat) :
    Takes (count * least) (runLeast round · count) := by
  intro next here notes final found
  induction count generalizing here notes with
  | zero => exact ⟨here, notes, by omega, found⟩
  | succ count ih =>
      obtain ⟨there, before, enough, later⟩ := takes _ _ _ _ (eq_found_of_noted found)
      obtain ⟨last, before, enough', found⟩ := ih there before later
      exact ⟨last, before, by rw [Nat.succ_mul]; omega, found⟩

theorem Takes.runMost (takes : Takes least round) (fuel : Nat) (allowed started : Option Nat) :
    Takes 0 (runMost round · fuel allowed started) := by
  intro next here notes final found
  induction fuel generalizing allowed started here notes with
  | zero => exact ⟨here, _, by omega, eq_found_of_noted found⟩
  | succ fuel ih =>
      simp only [Regex.runMost] at found
      split at found
      · exact ⟨here, _, by omega, eq_found_of_noted found⟩
      · rcases Outcome.orElse_eq_found_iff.mp found with found | ⟨failed, -, found⟩
        · obtain ⟨there, before, enough, later⟩ := takes _ _ _ _ found
          obtain ⟨last, before, enough', found⟩ := ih _ _ there before later
          exact ⟨last, before, by omega, found⟩
        · exact ⟨here, _, by omega, eq_found_of_noted found⟩

theorem Takes.runLoop (takes : Takes least round) (bounds : Bounds) :
    Takes (bounds.least * least) (runLoop bounds round) := by
  intro next here notes final found
  obtain ⟨there, before, enough, later⟩ := takes.runLeast bounds.least _ _ _ _ found
  obtain ⟨last, before, enough', found⟩ := takes.runMost _ _ _ _ _ _ _ later
  exact ⟨last, before, by omega, found⟩

/-- Every round of a possessive repetition starts where the one before has ended. -/
theorem Takes.takeLeast (takes : Takes least round) {count : Nat}
    (found : takeLeast round count notes = .found final) :
    count * least + final.latest.rest.length ≤ notes.latest.rest.length := by
  induction count generalizing notes with
  | zero =>
      cases found
      omega
  | succ count ih =>
      rw [Regex.takeLeast] at found
      split at found
      · rename_i outcome
        obtain ⟨there, before, enough, later⟩ := takes _ _ _ _ outcome
        cases later
        have later := ih found
        simp only [Notes.note] at later
        rw [Nat.succ_mul]
        omega
      · cases found

theorem Takes.takeLoop [Release] (takes : Takes least round)
    (stays : ∀ left : Nat, StaysAhead left (round accept)) (bounds : Bounds) :
    Takes (bounds.least * least) (takeLoop bounds round) := by
  intro next here notes final found
  rw [Regex.takeLoop] at found
  split at found
  · cases found
  · rename_i taken outcome
    have enough := takes.takeLeast outcome
    have noFarther := staysAhead_takeMost (stays _) here.rounds
      (bounds.most.map (· - bounds.least)) none (le_refl taken.latest.rest.length)
    exact ⟨_, _, (Nat.add_le_add_left noFarther _).trans enough, found⟩

end Search

/-- What is found for an expression without its references has the least length of a match, as it
is reckoned for the expression as it stands after any other groups. -/
theorem Node.run_takes [Release] (count : Nat) (node : Node) (groups : List (Nat × Nat))
    (inLoop : Bool) (ahead : Option CharTest) :
    Search.Takes ((node.shift count).least groups).1 (node.withoutReferences.run inLoop ahead) := by
  induction node generalizing groups inLoop ahead with
  | empty => exact fun next here notes final found => ⟨here, notes, by simp [shift, least], found⟩
  | never =>
      intro next here notes final found
      cases found
  | reference number =>
      intro next here notes final found
      cases found
  | one test =>
      intro next here notes final found
      simp only [withoutReferences, run] at found
      split at found
      · rename_i there accepted
        exact ⟨there, notes, (Place.length_rest_of_accept accepted).le, found⟩
      · cases found
  | assertion claim =>
      intro next here notes final found
      simp only [withoutReferences, run] at found
      split at found
      · exact ⟨here, notes, by simp [shift, least], found⟩
      · cases found
  | group index body ih =>
      intro next here notes final found
      obtain ⟨there, before, enough, later⟩ := ih groups inLoop none _ _ _ _ found
      exact ⟨there, _, enough, later⟩
  | both first second ihFirst ihSecond =>
      -- the second part is reckoned with the groups of the first, so both hold for any groups
      intro next here notes final found
      obtain ⟨there, before, enough, later⟩ := ihFirst groups inLoop _ _ _ _ _ found
      obtain ⟨last, before, enough', found⟩ :=
        ihSecond ((first.shift count).least groups).2 inLoop ahead _ _ _ _ later
      refine ⟨last, before, ?_, found⟩
      simp only [shift, least]
      omega
  | either first second ihFirst ihSecond =>
      have later {next : Search} {here : Place} {notes final : Notes}
          (found : second.withoutReferences.run inLoop none next here notes = .found final) :
          ∃ (there : Place) (before : Notes),
            (((Node.either first second).shift count).least groups).1 + there.rest.length ≤
                here.rest.length ∧ next there before = .found final := by
        obtain ⟨there, before, enough, later⟩ :=
          ihSecond ((first.shift count).least groups).2 inLoop none _ _ _ _ found
        refine ⟨there, before, ?_, later⟩
        simp only [shift, least]
        omega
      intro next here notes final found
      simp only [withoutReferences, run] at found
      split at found
      · exact later found
      · rcases Outcome.orElse_eq_found_iff.mp found with found | ⟨failed, -, found⟩
        · obtain ⟨there, before, enough, found⟩ := ihFirst groups inLoop none _ _ _ _ found
          refine ⟨there, before, ?_, found⟩
          simp only [shift, least]
          omega
        · exact later found
  | many bounds possessive test =>
      exact Search.takes_runMany bounds possessive test.holds inLoop ahead
  | loop bounds possessive body ih =>
      cases possessive with
      | true =>
          exact (ih groups inLoop none).takeLoop
            (fun left => run_staysAhead _ inLoop none Search.staysAhead_accept) bounds
      | false => exact (ih groups true none).runLoop bounds

/-! ### The least length of a group -/

/-- A plain expression adds no group, and has its least length where no groups are known. -/
theorem Node.least_of_isPlain {node : Node} (plain : node.isPlain = true)
    (groups : List (Nat × Nat)) :
    (node.least groups).2 = groups ∧ (node.least []).1 ≤ (node.least groups).1 := by
  cases node <;> cases plain <;> simp [least]

theorem Node.least_sequence_of_isPlain {nodes : List Node}
    (plain : ∀ node ∈ nodes, node.isPlain = true) (groups : List (Nat × Nat)) :
    ((sequence nodes).least groups).2 = groups ∧
      ((sequence nodes).least []).1 ≤ ((sequence nodes).least groups).1 := by
  induction nodes with
  | nil => simp [least]
  | cons node nodes ih =>
      obtain ⟨isPlain, arePlain⟩ := List.forall_mem_cons.mp plain
      obtain ⟨same, less⟩ := least_of_isPlain isPlain groups
      have sameNone := (least_of_isPlain isPlain []).1
      obtain ⟨sameLater, lessLater⟩ := ih arePlain
      simp only [sequence_cons, least, same, sameNone]
      exact ⟨sameLater, Nat.add_le_add less lessLater⟩

theorem Node.least_sequence_append (front back : List Node) (groups : List (Nat × Nat)) :
    ((sequence (front ++ back)).least groups).1 =
      ((sequence front).least groups).1 +
        ((sequence back).least ((sequence front).least groups).2).1 := by
  induction front generalizing groups with
  | nil => simp [least]
  | cons node front ih =>
      simp only [List.cons_append, sequence_cons, least, ih]
      omega

theorem Node.exists_least_choice_le {rest : List Node} {rests : List (List Node)}
    (isOne : rest ∈ rests) (groups : List (Nat × Nat)) :
    ∃ known, ((choice rests).least groups).1 ≤ ((sequence rest).least known).1 := by
  induction rests generalizing groups with
  | nil => cases isOne
  | cons first rests ih =>
      simp only [choice_cons, least]
      cases isOne with
      | head => exact ⟨groups, min_le_left _ _⟩
      | tail _ isOne =>
          obtain ⟨known, less⟩ := ih isOne ((sequence first).least groups).2
          exact ⟨known, (min_le_right _ _).trans less⟩

theorem Node.exists_least_choiceOf_le {rest : List Node} {rests : List (List Node)}
    (isOne : rest ∈ rests) (groups : List (Nat × Nat)) :
    ∃ known, ((choiceOf rests).least groups).1 ≤ ((sequence rest).least known).1 := by
  unfold choiceOf
  split
  · rename_i test common
    obtain ⟨one, rfl, -⟩ := (commonSet?_spec common).1 rest isOne
    exact ⟨groups, le_rfl⟩
  · exact exists_least_choice_le isOne groups

/-- The least length of a group is at most that of each of its alternatives, if enough is known of
the groups before. -/
theorem Node.exists_least_ofAlternatives_le {nodes first : List Node} {others : List (List Node)}
    (isOne : nodes ∈ first :: others) :
    ∃ known, ((ofAlternatives first others).least []).1 ≤ ((sequence nodes).least known).1 := by
  unfold ofAlternatives
  split
  · obtain rfl := List.mem_singleton.mp isOne
    exact ⟨[], le_rfl⟩
  · rw [cons_eq_map_commonStart first others] at isOne
    obtain ⟨rest, isRest, rfl⟩ := List.mem_map.mp isOne
    have plain := @isPlain_of_mem_commonStart first others
    obtain ⟨known, less⟩ := exists_least_choiceOf_le isRest []
    refine ⟨known, ?_⟩
    obtain ⟨same, lessShared⟩ := least_sequence_of_isPlain plain known
    have sameNone := (least_sequence_of_isPlain plain []).1
    rw [least_sequence_append, least_sequence_append, same, sameNone]
    have alone : ((sequence [choiceOf (commonStart first others).2]).least []).1 =
        ((choiceOf (commonStart first others).2).least []).1 := by
      simp [least]
    rw [alone]
    exact Nat.add_le_add lessShared less

end BundleEmbed.Regex
