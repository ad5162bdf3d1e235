import BundleEmbed.Regex.Match
import Mathlib

/-!
The language of a regular expression, and the search that decides it.

`Node.run` goes from place to place and gives choices back. For expressions that look at
nothing but the characters they read, how it does so is of no consequence: what the search
finds depends on the texts that the expression takes (`Node.Takes`), and on nothing else.

* `Node.run_decides`: the search for an expression finds something exactly when the text
  that is left starts with one that the expression takes, after which the remaining search
  finds something.
* `Node.matchesAll_iff_takes`: a match of the whole text is found exactly when the
  expression takes the text.
-/

namespace BundleEmbed.Regex

/-! ### The texts that an expression takes -/

/-- A repetition may run so often. -/
def Bounds.Admits (bounds : Bounds) (count : Nat) : Prop :=
  bounds.least ≤ count ∧ ∀ most ∈ bounds.most, count ≤ most

/-- An expression takes a text from its start to its end. Assertions, references and groups
take nothing here, as what they take depends on more than the text (`Node.isRegular`). -/
inductive Node.Takes : Node → List Sign → Prop
  | empty : Takes .empty []
  | one {test : CharTest} {c : Sign} (holds : test.holds c = true) : Takes (.one test) [c]
  | both {first second : Node} {front back : List Sign} (takesFront : Takes first front)
      (takesBack : Takes second back) : Takes (.both first second) (front ++ back)
  | left {first : Node} (second : Node) {text : List Sign} (takes : Takes first text) :
      Takes (.either first second) text
  | right (first : Node) {second : Node} {text : List Sign} (takes : Takes second text) :
      Takes (.either first second) text
  | many {bounds : Bounds} {possessive : Bool} {test : CharTest} {text : List Sign}
      (admitted : bounds.Admits text.length) (holds : ∀ c ∈ text, test.holds c = true) :
      Takes (.many bounds possessive test) text

/-- An expression that looks at the characters it reads only, and gives them back where a
later part needs them. -/
def Node.isRegular : Node → Bool
  | .empty => true
  | .never => true
  | .one _ => true
  | .both first second => first.isRegular && second.isRegular
  | .either first second => first.isRegular && second.isRegular
  | .many _ possessive _ => !possessive
  | _ => false

/-- A text starts with one that the expression takes, and the rest is accepted. -/
def Node.Reads (node : Node) (accepted : List Sign → Prop) (text : List Sign) : Prop :=
  ∃ taken rest, text = taken ++ rest ∧ node.Takes taken ∧ accepted rest

section Takes

variable {first second : Node} {test : CharTest} {text : List Sign}
  {accepted : List Sign → Prop}

@[simp] theorem Node.takes_empty_iff : Node.empty.Takes text ↔ text = [] := by
  constructor
  · rintro ⟨⟩
    rfl
  · rintro rfl
    exact .empty

@[simp] theorem Node.not_takes_never : ¬ Node.never.Takes text := nofun

@[simp] theorem Node.takes_one_iff :
    (Node.one test).Takes text ↔ ∃ c, text = [c] ∧ test.holds c = true := by
  constructor
  · rintro ⟨⟩
    exact ⟨_, rfl, ‹_›⟩
  · rintro ⟨c, rfl, holds⟩
    exact .one holds

theorem Node.takes_both_iff :
    (Node.both first second).Takes text ↔
      ∃ front back, text = front ++ back ∧ first.Takes front ∧ second.Takes back := by
  constructor
  · rintro ⟨⟩
    exact ⟨_, _, rfl, ‹_›, ‹_›⟩
  · rintro ⟨front, back, rfl, takesFront, takesBack⟩
    exact .both takesFront takesBack

@[simp] theorem Node.takes_either_iff :
    (Node.either first second).Takes text ↔ first.Takes text ∨ second.Takes text := by
  constructor
  · rintro ⟨⟩
    · exact .inl ‹_›
    · exact .inr ‹_›
  · rintro (takes | takes)
    · exact .left second takes
    · exact .right first takes

@[simp] theorem Node.takes_many_iff {bounds : Bounds} {possessive : Bool} :
    (Node.many bounds possessive test).Takes text ↔
      bounds.Admits text.length ∧ ∀ c ∈ text, test.holds c = true := by
  constructor
  · rintro ⟨⟩
    exact ⟨‹_›, ‹_›⟩
  · rintro ⟨admitted, holds⟩
    exact .many admitted holds

end Takes

/-! ### Reading the start of a text -/

section Reads

variable {first second : Node} {accepted : List Sign → Prop} {text : List Sign}

theorem Node.reads_empty_iff : Node.empty.Reads accepted text ↔ accepted text := by
  simp [Node.Reads]

theorem Node.not_reads_never : ¬ Node.never.Reads accepted text := by
  simp [Node.Reads]

/-- To read a sequence is to read its first part, and then the second part of what is
left. -/
theorem Node.reads_both_iff :
    (Node.both first second).Reads accepted text ↔
      first.Reads (second.Reads accepted) text := by
  constructor
  · rintro ⟨taken, rest, rfl, takes, acceptedRest⟩
    obtain ⟨front, back, rfl, takesFront, takesBack⟩ := Node.takes_both_iff.mp takes
    exact ⟨front, back ++ rest, List.append_assoc .., takesFront, back, rest, rfl, takesBack,
      acceptedRest⟩
  · rintro ⟨front, -, rfl, takesFront, back, rest, rfl, takesBack, acceptedRest⟩
    exact ⟨front ++ back, rest, (List.append_assoc ..).symm, .both takesFront takesBack,
      acceptedRest⟩

theorem Node.reads_either_iff :
    (Node.either first second).Reads accepted text ↔
      first.Reads accepted text ∨ second.Reads accepted text := by
  constructor
  · rintro ⟨taken, rest, rfl, takes, acceptedRest⟩
    rcases Node.takes_either_iff.mp takes with takes | takes
    · exact .inl ⟨taken, rest, rfl, takes, acceptedRest⟩
    · exact .inr ⟨taken, rest, rfl, takes, acceptedRest⟩
  · rintro (⟨taken, rest, rfl, takes, acceptedRest⟩ | ⟨taken, rest, rfl, takes, acceptedRest⟩)
    · exact ⟨taken, rest, rfl, .left second takes, acceptedRest⟩
    · exact ⟨taken, rest, rfl, .right first takes, acceptedRest⟩

theorem Node.reads_one_iff {test : CharTest} :
    (Node.one test).Reads accepted text ↔
      ∃ c rest, text = c :: rest ∧ test.holds c = true ∧ accepted rest := by
  constructor
  · rintro ⟨taken, rest, rfl, takes, acceptedRest⟩
    obtain ⟨c, rfl, holds⟩ := Node.takes_one_iff.mp takes
    exact ⟨c, rest, rfl, holds, acceptedRest⟩
  · rintro ⟨c, rest, rfl, holds, acceptedRest⟩
    exact ⟨[c], rest, rfl, .one holds, acceptedRest⟩

/-- A text that an expression takes starts with the character that the expression opens
with. -/
theorem Node.exists_cons_of_takes {node : Node} {test : CharTest} (takes : node.Takes text)
    (opens : node.opening? = some test) : ∃ c rest, text = c :: rest ∧ test.holds c = true := by
  induction takes with
  | one holds =>
      cases opens
      exact ⟨_, [], rfl, holds⟩
  | both takesFront takesBack ihFront ihBack =>
      obtain ⟨c, rest, rfl, holds⟩ := ihFront opens
      exact ⟨c, rest ++ _, rfl, holds⟩
  | _ => cases opens

/-- Nothing can be read where the opening character is not found. -/
theorem Node.not_reads_of_lacks {node : Node} {here : Place}
    (lacking : here.lacks node.opening? = true) : ¬ node.Reads accepted here.rest := by
  rintro ⟨taken, rest, splits, takes, -⟩
  cases opens : node.opening? with
  | none =>
      rw [opens] at lacking
      cases lacking
  | some test =>
      obtain ⟨c, others, rfl, holds⟩ := Node.exists_cons_of_takes takes opens
      have next : here.rest.head?.any test.holds = true := by simp [splits, holds]
      rw [opens] at lacking
      cases test with
      | code | set =>
          change (!here.rest.head?.any _) = true at lacking
          rw [next] at lacking
          cases lacking
      | _ => cases lacking

/-- A place that lacks the code point ahead lacks what is ahead. -/
theorem Place.lacks_of_lacksCode {here : Place} {test? : Option CharTest}
    (lacking : here.lacksCode test? = true) : here.lacks test? = true := by
  cases test? with
  | none => exact lacking
  | some test =>
      cases test with
      | set => cases lacking
      | _ => exact lacking

end Reads

/-! ### The places that a repetition reaches -/

/-- A step to the next place reads one character, which passes the test. -/
theorem Place.eq_cons_of_accept {here there : Place} {test : Sign → Bool}
    (accepted : here.accept test = some there) :
    ∃ c, here.rest = c :: there.rest ∧ test c = true := by
  unfold Place.accept at accepted
  split at accepted
  · cases accepted
  · rename_i c rest splits
    split_ifs at accepted with passes
    cases accepted
    exact ⟨c, splits, passes⟩

/-- The members of a list from some index on: its head counts where the index is zero. -/
theorem mem_drop_cons_iff {α : Type} {a b : α} {l : List α} {n : Nat} :
    a ∈ (b :: l).drop n ↔ (n = 0 ∧ a = b) ∨ a ∈ l.drop (n - 1) := by
  cases n <;> simp

/-- What is left at the places that a repetition of one character reaches after `least`
rounds or more. -/
theorem Place.exists_mem_drop_reach_iff {test : Sign → Bool} {limit least : Nat} {here : Place}
    {rest : List Sign} :
    (∃ there ∈ (here.reach test limit).drop least, there.rest = rest) ↔
      ∃ taken, here.rest = taken ++ rest ∧ (∀ c ∈ taken, test c = true) ∧
        least ≤ taken.length ∧ taken.length ≤ limit := by
  induction limit generalizing here least with
  | zero =>
      simp only [Place.reach, mem_drop_cons_iff]
      constructor
      · rintro ⟨there, ⟨rfl, rfl⟩ | none, rfl⟩
        · exact ⟨[], rfl, by simp⟩
        · simp at none
      · rintro ⟨taken, splits, -, enough, few⟩
        obtain rfl := List.eq_nil_of_length_eq_zero (Nat.le_zero.mp few)
        exact ⟨here, .inl ⟨Nat.le_zero.mp enough, rfl⟩, splits⟩
  | succ limit ih =>
      cases accepted : here.accept test with
      | none =>
          simp only [Place.reach, accepted, mem_drop_cons_iff]
          constructor
          · rintro ⟨there, ⟨rfl, rfl⟩ | none, rfl⟩
            · exact ⟨[], rfl, by simp⟩
            · simp at none
          · rintro ⟨_ | ⟨c, taken⟩, splits, passes, enough, -⟩
            · exact ⟨here, .inl ⟨Nat.le_zero.mp enough, rfl⟩, splits⟩
            · simp [Place.accept, splits, passes c] at accepted
      | some there =>
          obtain ⟨c, splits, passes⟩ := Place.eq_cons_of_accept accepted
          simp only [Place.reach, accepted, mem_drop_cons_iff]
          constructor
          · rintro ⟨reached, ⟨rfl, rfl⟩ | later, isLeft⟩
            · exact ⟨[], isLeft, by simp⟩
            · obtain ⟨taken, splitsThere, passesAll, enough, few⟩ := ih.mp ⟨_, later, isLeft⟩
              refine ⟨c :: taken, by rw [splits, splitsThere, List.cons_append], ?_, ?_, ?_⟩
              · simpa using ⟨passes, passesAll⟩
              · rw [List.length_cons]
                omega
              · rw [List.length_cons]
                omega
          · rintro ⟨_ | ⟨d, taken⟩, splitsHere, passesAll, enough, few⟩
            · exact ⟨here, .inl ⟨Nat.le_zero.mp enough, rfl⟩, splitsHere⟩
            · rw [splits, List.cons_append, List.cons.injEq] at splitsHere
              simp only [List.length_cons] at enough few
              have remaining : ∃ taken, there.rest = taken ++ rest ∧
                  (∀ c ∈ taken, test c = true) ∧ least - 1 ≤ taken.length ∧
                  taken.length ≤ limit :=
                ⟨taken, splitsHere.2, fun e mem => passesAll e (List.mem_cons_of_mem d mem),
                  by omega, by omega⟩
              obtain ⟨reached, later, isLeft⟩ := ih.mpr remaining
              exact ⟨reached, .inr later, isLeft⟩

/-- The places of a repetition are those with what is left after a text that the repetition
takes. -/
theorem Bounds.exists_mem_places_iff {bounds : Bounds} {possessive : Bool} {test : CharTest}
    {here : Place} {accepted : List Sign → Prop} :
    (∃ there ∈ bounds.places test.holds here, accepted there.rest) ↔
      (Node.many bounds possessive test).Reads accepted here.rest := by
  have within : ∀ taken rest, here.rest = taken ++ rest →
      (taken.length ≤ (bounds.most.map (min here.rest.length)).getD here.rest.length ↔
        ∀ most ∈ bounds.most, taken.length ≤ most) := by
    intro taken rest splits
    have short : taken.length ≤ here.rest.length := by simp [splits]
    cases bounds.most <;> simp [short]
  constructor
  · rintro ⟨there, mem, acceptedRest⟩
    obtain ⟨taken, splits, passes, enough, few⟩ :=
      Place.exists_mem_drop_reach_iff.mp ⟨there, List.mem_reverse.mp mem, rfl⟩
    exact ⟨taken, there.rest, splits,
      .many ⟨enough, (within taken there.rest splits).mp few⟩ passes, acceptedRest⟩
  · rintro ⟨taken, rest, splits, takes, acceptedRest⟩
    obtain ⟨⟨enough, few⟩, passes⟩ := Node.takes_many_iff.mp takes
    obtain ⟨there, mem, rfl⟩ := Place.exists_mem_drop_reach_iff.mpr
      ⟨taken, splits, passes, enough, (within taken rest splits).mpr few⟩
    exact ⟨there, List.mem_reverse.mpr mem, acceptedRest⟩

/-! ### Searches that decide -/

/-- A search has ended as it should: it has found something where what it looks for is there,
and it has marked no groups. -/
inductive Outcome.Answers (wanted : Prop) : Outcome → Prop
  | found {notes : Notes} (there : wanted) (unmarked : notes.marks = []) :
      Answers wanted (.found notes)
  | failed {notes : Notes} (missing : ¬ wanted) (unmarked : notes.marks = []) :
      Answers wanted (.failed notes)

/-- A search that finds something exactly at the places from which on what is left is
accepted. It is asked before any group is marked, and marks none. -/
def Search.Decides (search : Search) (accepted : List Sign → Prop) : Prop :=
  ∀ (here : Place) (notes : Notes), notes.marks = [] →
    (search here notes).Answers (accepted here.rest)

theorem Outcome.Answers.congr {wanted other : Prop} {outcome : Outcome}
    (answers : outcome.Answers wanted) (same : wanted ↔ other) : outcome.Answers other := by
  cases answers with
  | found there unmarked => exact .found (same.mp there) unmarked
  | failed missing unmarked => exact .failed (mt same.mpr missing) unmarked

/-- A search after one that fails looks for the second thing where the first is missing. -/
theorem Outcome.Answers.orElse {wanted other : Prop} {outcome : Outcome}
    {retry : Notes → Outcome} (answers : outcome.Answers wanted)
    (answersRetry : ∀ notes : Notes, notes.marks = [] → (retry notes).Answers other) :
    (outcome.orElse retry).Answers (wanted ∨ other) := by
  cases answers with
  | found there unmarked => exact .found (.inl there) unmarked
  | failed missing unmarked =>
      exact (answersRetry _ unmarked).congr ⟨.inr, fun either => either.resolve_left missing⟩

/-- Where nothing was marked before a try, nothing is marked when it is taken back. -/
theorem Notes.marks_takeBack {failed before : Notes} (inLoop : Bool)
    (unmarked : before.marks = []) : (failed.takeBack before inLoop).marks = [] := by
  cases inLoop <;> simp [Notes.takeBack, unmarked]

/-- The search from the first of some places looks for one from which on what is left is
accepted. It passes over a place only where nothing can be accepted. -/
theorem Search.answers_fromFirst {next : Search} {accepted : List Sign → Prop}
    (decides : next.Decides accepted) (inLoop : Bool) {ahead : Option CharTest}
    (foretold : ∀ here : Place, here.lacksCode ahead = true → ¬ accepted here.rest)
    (places : List Place) (notes : Notes) (unmarked : notes.marks = []) :
    (Search.fromFirst inLoop ahead next places notes).Answers
      (∃ there ∈ places, accepted there.rest) := by
  induction places generalizing notes with
  | nil => exact .failed (by simp) unmarked
  | cons here places ih =>
      rw [Search.fromFirst]
      split_ifs with lacking
      · refine (ih notes unmarked).congr ?_
        simp [foretold here lacking]
      · have first := decides here (notes.note here) unmarked
        have later : ∀ failed : Notes, (Search.fromFirst inLoop ahead next places
            (failed.takeBack notes inLoop)).Answers (∃ there ∈ places, accepted there.rest) :=
          fun failed => ih _ (Notes.marks_takeBack inLoop unmarked)
        exact (first.orElse fun failed _ => later failed).congr (by simp)

/-- The search for a regular expression finds something exactly where the text that is left
starts with one that the expression takes, after which the remaining search finds
something. -/
theorem Node.run_decides [Release] {node : Node} (regular : node.isRegular = true)
    (inLoop : Bool) {ahead : Option CharTest} {next : Search} {accepted : List Sign → Prop}
    (decides : next.Decides accepted)
    (foretold : ∀ here : Place, here.lacksCode ahead = true → ¬ accepted here.rest) :
    (node.run inLoop ahead next).Decides (node.Reads accepted) := by
  induction node generalizing ahead next accepted with
  | empty =>
      intro here notes unmarked
      exact (decides here notes unmarked).congr Node.reads_empty_iff.symm
  | never => exact fun here notes unmarked => .failed Node.not_reads_never unmarked
  | one test =>
      intro here notes unmarked
      simp only [Node.run]
      cases step : here.accept test.holds with
      | none =>
          refine .failed ?_ unmarked
          rw [Node.reads_one_iff]
          rintro ⟨c, rest, splits, holds, -⟩
          simp [Place.accept, splits, holds] at step
      | some there =>
          obtain ⟨c, splits, holds⟩ := Place.eq_cons_of_accept step
          refine (decides there notes unmarked).congr ?_
          rw [Node.reads_one_iff, splits]
          simp [holds]
  | both first second ihFirst ihSecond =>
      obtain ⟨regularFirst, regularSecond⟩ := Bool.and_eq_true_iff.mp regular
      have decidesSecond := ihSecond regularSecond decides foretold
      have foretoldSecond : ∀ here : Place, here.lacksCode second.opening? = true →
          ¬ second.Reads accepted here.rest :=
        fun here lacking => Node.not_reads_of_lacks (Place.lacks_of_lacksCode lacking)
      have decidesFirst := ihFirst regularFirst decidesSecond foretoldSecond
      intro here notes unmarked
      exact (decidesFirst here notes unmarked).congr Node.reads_both_iff.symm
  | either first second ihFirst ihSecond =>
      obtain ⟨regularFirst, regularSecond⟩ := Bool.and_eq_true_iff.mp regular
      have nothingAhead : ∀ here : Place, here.lacksCode none = true → ¬ accepted here.rest :=
        nofun
      have decidesFirst := ihFirst regularFirst decides nothingAhead
      have decidesSecond := ihSecond regularSecond decides nothingAhead
      intro here notes unmarked
      simp only [Node.run]
      split_ifs with lacking
      · refine (decidesSecond here notes unmarked).congr ?_
        simp [Node.reads_either_iff, Node.not_reads_of_lacks lacking]
      · have answers := decidesFirst here (notes.note here) unmarked
        refine (answers.orElse fun failed _ => ?_).congr Node.reads_either_iff.symm
        exact decidesSecond here _ (Notes.marks_takeBack inLoop unmarked)
  | many bounds possessive test =>
      have givesBack : possessive = false := by simpa [Node.isRegular] using regular
      subst givesBack
      intro here notes unmarked
      simp only [Node.run, runMany, Bool.false_eq_true, if_false]
      split_ifs with short
      · refine .failed ?_ unmarked
        rintro ⟨taken, rest, splits, takes, -⟩
        obtain ⟨⟨enough, -⟩, -⟩ := Node.takes_many_iff.mp takes
        rw [splits, List.length_append] at short
        omega
      · have answers := Search.answers_fromFirst decides inLoop foretold
          (bounds.places test.holds here) (notes.note here) unmarked
        exact answers.congr Bounds.exists_mem_places_iff
  | _ => cases regular

/-! ### Matching a whole text -/

/-- A text that a regular expression takes is as long as the least length of a match. -/
theorem Node.least_le_length {node : Node} {text : List Sign} (takes : node.Takes text)
    (groups : List (Nat × Nat)) : (node.least groups).1 ≤ text.length := by
  induction takes generalizing groups with
  | empty | one => exact Nat.le_refl _
  | both _ _ ihFront ihBack =>
      rw [List.length_append]
      exact Nat.add_le_add (ihFront groups) (ihBack _)
  | left second _ ih => exact (Nat.min_le_left ..).trans (ih groups)
  | right first _ ih => exact (Nat.min_le_right ..).trans (ih _)
  | many admitted _ => exact admitted.1

/-- The end of the text is found where nothing is left. -/
theorem Search.atEnd_decides : Search.atEnd.Decides (· = []) := by
  intro here notes unmarked
  rw [Search.atEnd]
  split_ifs with isEnd
  · exact .found (List.isEmpty_iff.mp isEnd) unmarked
  · exact .failed (mt List.isEmpty_iff.mpr isEnd) unmarked

/-- The match of a whole text against a regular expression comes to an end, and it is found
exactly when the expression takes the text. -/
theorem Node.matchesAll_iff_takes [Release] {node : Node} (regular : node.isRegular = true)
    (text : List Sign) :
    ∃ matched, node.matchesAll text = .ok matched ∧ (matched = true ↔ node.Takes text) := by
  rw [Node.matchesAll]
  split_ifs with short
  · refine ⟨false, rfl, ?_⟩
    have missing : ¬ node.Takes text := fun takes =>
      Nat.not_le.mpr short (Node.least_le_length takes [])
    simp [missing]
  · have whole : node.Reads (· = []) text ↔ node.Takes text := by simp [Node.Reads]
    have nothingAhead : ∀ here : Place, here.lacksCode none = true → ¬ here.rest = [] := nofun
    have decides := Node.run_decides regular false Search.atEnd_decides nothingAhead
      (Place.start text) (.start (Place.start text)) rfl
    cases ended : node.run false none .atEnd (Place.start text) (.start (Place.start text)) with
    | found notes =>
        rw [ended] at decides
        cases decides with
        | found there unmarked =>
            refine ⟨true, ?_, by simpa using whole.mp there⟩
            simp [ended, unmarked, Notes.crossed]
    | failed notes =>
        rw [ended] at decides
        cases decides with
        | failed missing unmarked =>
            refine ⟨false, ?_, by simpa using mt whole.mpr missing⟩
            simp [ended]

end BundleEmbed.Regex
