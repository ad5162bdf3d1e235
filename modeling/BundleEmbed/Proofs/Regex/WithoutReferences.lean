import BundleEmbed.Proofs.Regex.Renumbering
import BundleEmbed.Regex.Match

/-!
Searches behind groups that have not been marked.

Renumbered to stand after other groups, an expression keeps its references, so that they ask for
those groups. As long as these are not marked, every reference fails, and apart from that the
search goes on as it does where the expression stands alone.

* `Node.withoutReferences`: an expression whose references match nothing.
* `Notes.Agrees`: notes with the same marks, behind groups that are not marked.
* `Node.run_agrees`: the search for an expression without its references, and the one for the
  renumbered expression.
-/

namespace BundleEmbed.Regex

/-! ### References that match nothing -/

/-- An expression in which nothing matches a reference. -/
def Node.withoutReferences : Node → Node
  | .reference _ => .never
  | .group index body => .group index body.withoutReferences
  | .both first second => .both first.withoutReferences second.withoutReferences
  | .either first second => .either first.withoutReferences second.withoutReferences
  | .loop bounds possessive body => .loop bounds possessive body.withoutReferences
  | .empty => .empty
  | .never => .never
  | .one test => .one test
  | .assertion claim => .assertion claim
  | .many bounds possessive test => .many bounds possessive test

/-- There is no reference in an expression. -/
def Node.hasNoReference : Node → Bool
  | .reference _ => false
  | .group _ body => body.hasNoReference
  | .both first second => first.hasNoReference && second.hasNoReference
  | .either first second => first.hasNoReference && second.hasNoReference
  | .loop _ _ body => body.hasNoReference
  | _ => true

theorem Node.withoutReferences_eq_self {node : Node} (hasNone : node.hasNoReference = true) :
    node.withoutReferences = node := by
  induction node with
  | reference => cases hasNone
  | group index body ih => rw [withoutReferences, ih hasNone]
  | both first second ihFirst ihSecond =>
      obtain ⟨first, second⟩ := Bool.and_eq_true_iff.mp hasNone
      rw [withoutReferences, ihFirst first, ihSecond second]
  | either first second ihFirst ihSecond =>
      obtain ⟨first, second⟩ := Bool.and_eq_true_iff.mp hasNone
      rw [withoutReferences, ihFirst first, ihSecond second]
  | loop bounds possessive body ih => rw [withoutReferences, ih hasNone]
  | _ => rfl

@[simp] theorem Node.withoutReferences_sequence (nodes : List Node) :
    (Node.sequence nodes).withoutReferences = Node.sequence (nodes.map withoutReferences) := by
  induction nodes with
  | nil => rfl
  | cons node nodes ih => simp [withoutReferences, ih]

@[simp] theorem Node.withoutReferences_choice (alternatives : List (List Node)) :
    (Node.choice alternatives).withoutReferences =
      Node.choice (alternatives.map (List.map withoutReferences)) := by
  induction alternatives with
  | nil => rfl
  | cons nodes alternatives ih => simp [withoutReferences, ih]

/-- A reference opens with no character, nor does what matches nothing. -/
@[simp] theorem Node.opening?_withoutReferences (node : Node) :
    node.withoutReferences.opening? = node.opening? := by
  induction node with
  | both first second ihFirst _ => exact ihFirst
  | _ => rfl

@[simp] theorem Node.opening?_shift (count : Nat) (node : Node) :
    (node.shift count).opening? = node.opening? := by
  induction node with
  | both first second ihFirst _ => exact ihFirst
  | _ => rfl

/-! ### Notes that agree -/

/-- Two notes have the same marks, those of the second behind `count` groups that are not marked;
as long as no group is marked, there may be no marks at all. If it is asked for, the same place
was noted last: only within a possessive repetition does it matter which one was. -/
structure Notes.Agrees (count : Nat) (sameLatest : Prop) (notes beyond : Notes) : Prop where
  marks : beyond.marks = List.replicate (2 * count) none ++ notes.marks ∨
    notes.marks = [] ∧ beyond.marks = []
  latest : sameLatest → beyond.latest = notes.latest

/-- Two searches end alike, with notes that agree. -/
inductive Outcome.Agrees (count : Nat) (sameLatest : Prop) : Outcome → Outcome → Prop
  | found {notes beyond : Notes} (agree : notes.Agrees count sameLatest beyond) :
      Agrees count sameLatest (.found notes) (.found beyond)
  | failed {notes beyond : Notes} (agree : notes.Agrees count sameLatest beyond) :
      Agrees count sameLatest (.failed notes) (.failed beyond)

/-- Two searches end alike from each place, where they start with notes that agree. -/
def Search.Agrees (count : Nat) (sameLatest : Prop) (search beyond : Search) : Prop :=
  ∀ (here : Place) (notes notes' : Notes), notes.Agrees count sameLatest notes' →
    (search here notes).Agrees count sameLatest (beyond here notes')

section Agreement

variable {count : Nat} {sameLatest : Prop}

namespace Notes.Agrees

variable {notes beyond failed failed' before before' : Notes}

theorem note (agree : notes.Agrees count sameLatest beyond) (here : Place) :
    (notes.note here).Agrees count sameLatest (beyond.note here) :=
  ⟨agree.marks, fun _ => rfl⟩

/-- What was noted before does not matter where the search stands here. -/
theorem note_same (agree : notes.Agrees count sameLatest beyond) (here : Place) :
    (notes.note here).Agrees count True (beyond.note here) :=
  ⟨agree.marks, fun _ => rfl⟩

theorem weaken (agree : notes.Agrees count True beyond) : notes.Agrees count sameLatest beyond :=
  ⟨agree.marks, fun _ => agree.latest trivial⟩

/-- The marks of other notes that agree. -/
theorem withMarks (agree : failed.Agrees count sameLatest failed')
    (agreeBefore : before.Agrees count sameLatest before') :
    Notes.Agrees count sameLatest { failed with marks := before.marks }
      { failed' with marks := before'.marks } :=
  ⟨agreeBefore.marks, agree.latest⟩

theorem takeBack (agree : failed.Agrees count sameLatest failed')
    (agreeBefore : before.Agrees count sameLatest before') (inLoop : Bool) :
    (failed.takeBack before inLoop).Agrees count sameLatest (failed'.takeBack before' inLoop) := by
  refine ⟨?_, agree.latest⟩
  cases inLoop with
  | true => exact agreeBefore.marks
  | false =>
      change failed'.marks.take before'.marks.length =
          List.replicate (2 * count) none ++ failed.marks.take before.marks.length ∨
        failed.marks.take before.marks.length = [] ∧
          failed'.marks.take before'.marks.length = []
      rcases agreeBefore.marks with same | ⟨unmarked, unmarked'⟩
      · rcases agree.marks with same' | ⟨unmarked, unmarked'⟩
        · rw [same, same', List.length_append, List.length_replicate, List.take_append]
          simp [List.take_of_length_le]
        · simp [unmarked, unmarked']
      · simp [unmarked, unmarked']

/-- A mark has its place behind those of the other groups. -/
theorem mark (agree : notes.Agrees count sameLatest beyond) (index : Nat) (here : Place) :
    (notes.mark index here).Agrees count sameLatest (beyond.mark (2 * count + index) here) := by
  refine ⟨.inl ?_, agree.latest⟩
  unfold Notes.mark
  dsimp only
  rcases agree.marks with same | ⟨unmarked, unmarked'⟩
  · have missing : 2 * count + index + 1 - (2 * count + notes.marks.length) =
        index + 1 - notes.marks.length := by omega
    rw [same, List.length_append, List.length_replicate, missing, List.append_assoc,
      List.set_append_right _ _ (by simp)]
    simp
  · have missing : 2 * count + index + 1 - 0 = 2 * count + (index + 1 - 0) := by omega
    rw [unmarked, unmarked', List.nil_append, List.nil_append, List.length_nil, missing,
      List.replicate_add, List.set_append_right _ _ (by simp)]
    simp

/-- A group that stands before those of an expression holds nothing. -/
theorem held?_eq_none (agree : notes.Agrees count sameLatest beyond) {number : Nat}
    (positive : 0 < number) (known : number ≤ count) : beyond.held? number = none := by
  have early : Notes.startOf number < 2 * count := by
    unfold Notes.startOf
    omega
  have unmarked : beyond.marks[Notes.startOf number]? = some none ∨
      beyond.marks[Notes.startOf number]? = none := by
    rcases agree.marks with same | ⟨-, none⟩
    · left
      rw [same, List.getElem?_append_left (by simpa using early), List.getElem?_replicate,
        if_pos early]
    · right
      rw [none, List.getElem?_nil]
  unfold Notes.held?
  rcases unmarked with absent | absent <;> simp [absent]

end Notes.Agrees

/-! ### Searches that agree -/

theorem Outcome.Agrees.weaken {outcome beyond : Outcome}
    (agree : outcome.Agrees count True beyond) :
    outcome.Agrees count sameLatest beyond := by
  cases agree with
  | found agree => exact .found agree.weaken
  | failed agree => exact .failed agree.weaken

theorem Outcome.Agrees.orElse {outcome beyond : Outcome} {retry retry' : Notes → Outcome}
    (agree : outcome.Agrees count sameLatest beyond)
    (agreeRetry : ∀ failed failed' : Notes, failed.Agrees count sameLatest failed' →
      (retry failed).Agrees count sameLatest (retry' failed')) :
    (outcome.orElse retry).Agrees count sameLatest (beyond.orElse retry') := by
  cases agree with
  | found agree => exact .found agree
  | failed agree => exact agreeRetry _ _ agree

namespace Search

variable {next next' : Search} {round round' : Search → Search}

theorem agrees_accept : Agrees count sameLatest accept accept :=
  fun here _ _ agree => .found (agree.note here)

theorem agrees_atEnd : Agrees count sameLatest atEnd atEnd := by
  intro here notes notes' agree
  unfold atEnd
  split
  · exact agrees_accept here _ _ agree
  · exact .failed agree

theorem Agrees.noted (agree : Agrees count sameLatest next next') :
    Agrees count sameLatest (noted next) (noted next') := fun here _ _ agreeNotes =>
  (agree here _ _ (agreeNotes.note here)).orElse fun _ _ agreeFailed =>
    .failed (agreeFailed.note here)

theorem Agrees.fromFirst (agree : Agrees count sameLatest next next') (inLoop : Bool)
    (ahead : Option CharTest) (places : List Place) {notes notes' : Notes}
    (agreeNotes : notes.Agrees count sameLatest notes') :
    (fromFirst inLoop ahead next places notes).Agrees count sameLatest
      (Search.fromFirst inLoop ahead next' places notes') := by
  induction places generalizing notes notes' with
  | nil => exact .failed agreeNotes
  | cons here places ih =>
      simp only [Search.fromFirst]
      split
      · exact ih agreeNotes
      · exact (agree here _ _ (agreeNotes.note here)).orElse fun _ _ agreeFailed =>
          ih (agreeFailed.takeBack agreeNotes inLoop)

theorem Agrees.runMany (agree : Agrees count sameLatest next next') (bounds : Bounds)
    (possessive : Bool) (test : Sign → Bool) (inLoop : Bool) (ahead : Option CharTest) :
    Agrees count sameLatest (runMany bounds possessive test inLoop ahead next)
      (Regex.runMany bounds possessive test inLoop ahead next') := by
  intro here notes notes' agreeNotes
  have noted := agreeNotes.note here
  simp only [Regex.runMany]
  split
  · exact .failed agreeNotes
  split
  · split
    · exact .failed noted
    · exact agree _ _ _ noted
  · exact agree.fromFirst inLoop ahead _ noted

theorem Agrees.runLeast (agreeRound : ∀ {next next' : Search},
      Agrees count sameLatest next next' → Agrees count sameLatest (round next) (round' next'))
    (agree : Agrees count sameLatest next next') (least : Nat) :
    Agrees count sameLatest (runLeast round next least) (Regex.runLeast round' next' least) := by
  induction least with
  | zero => exact agree
  | succ least ih => exact (agreeRound ih).noted

theorem Agrees.runMost (agreeRound : ∀ {next next' : Search},
      Agrees count sameLatest next next' → Agrees count sameLatest (round next) (round' next'))
    (agree : Agrees count sameLatest next next') (fuel : Nat) (allowed started : Option Nat) :
    Agrees count sameLatest (runMost round next fuel allowed started)
      (Regex.runMost round' next' fuel allowed started) := by
  induction fuel generalizing allowed started with
  | zero => exact agree.noted
  | succ fuel ih =>
      intro here notes notes' agreeNotes
      simp only [Regex.runMost]
      split
      · exact agree.noted here _ _ agreeNotes
      · exact (agreeRound (ih _ _) here _ _ (agreeNotes.note here)).orElse fun _ _ agreeFailed =>
          agree.noted here _ _ (agreeFailed.withMarks agreeNotes)

theorem Agrees.runLoop (agreeRound : ∀ {next next' : Search},
      Agrees count sameLatest next next' → Agrees count sameLatest (round next) (round' next'))
    (agree : Agrees count sameLatest next next') (bounds : Bounds) :
    Agrees count sameLatest (runLoop bounds round next) (Regex.runLoop bounds round' next') :=
  Agrees.runLeast agreeRound
    (fun here => Agrees.runMost agreeRound agree here.rounds _ none here) bounds.least

/-! A possessive repetition goes on from the place that was noted last. -/

theorem agrees_takeLeast
    (agreeRound : Agrees count True (round accept) (round' accept)) (least : Nat)
    {notes notes' : Notes} (agreeNotes : notes.Agrees count True notes') :
    (takeLeast round least notes).Agrees count True (takeLeast round' least notes') := by
  induction least generalizing notes notes' with
  | zero => exact .found agreeNotes
  | succ least ih =>
      have first := agreeRound notes.latest _ _ agreeNotes
      simp only [takeLeast, agreeNotes.latest trivial]
      generalize round accept notes.latest notes = outcome,
        round' accept notes.latest notes' = beyond at first
      cases first with
      | found agree => exact ih agree
      | failed agree => exact .failed agree

theorem agrees_takeMost [Release]
    (agreeRound : Agrees count True (round accept) (round' accept)) (fuel : Nat)
    (allowed started : Option Nat) {notes notes' : Notes}
    (agreeNotes : notes.Agrees count True notes') :
    (takeMost round fuel allowed started notes).Agrees count True
      (takeMost round' fuel allowed started notes') := by
  induction fuel generalizing allowed started notes notes' with
  | zero => exact agreeNotes
  | succ fuel ih =>
      have first := agreeRound notes.latest _ _ agreeNotes
      simp only [takeMost, agreeNotes.latest trivial]
      split
      · exact agreeNotes
      · generalize round accept notes.latest notes = outcome,
          round' accept notes.latest notes' = beyond at first
        cases first with
        | found agree => exact ih _ _ agree
        | failed agree =>
            dsimp only
            split
            · exact ⟨agreeNotes.marks, agree.latest⟩
            · exact agreeNotes

theorem Agrees.takeLoop [Release]
    (agreeRound : Agrees count True (round accept) (round' accept))
    (agree : Agrees count sameLatest next next') (bounds : Bounds) :
    Agrees count sameLatest (takeLoop bounds round next) (Regex.takeLoop bounds round' next') := by
  intro here notes notes' agreeNotes
  have first := agrees_takeLeast agreeRound bounds.least (agreeNotes.note_same here)
  simp only [Regex.takeLoop]
  generalize takeLeast round bounds.least (notes.note here) = outcome,
    takeLeast round' bounds.least (notes'.note here) = beyond at first
  cases first with
  | found agreeFound =>
      have taken := agrees_takeMost agreeRound here.rounds (bounds.most.map (· - bounds.least)) none
        agreeFound
      dsimp only
      rw [taken.latest trivial]
      exact agree _ _ _ taken.weaken
  | failed agreeFailed => exact .failed (agreeFailed.weaken.note here)

end Search

end Agreement

/-- The search for an expression without its references agrees with the search for the renumbered
expression, whose references are to groups that stand before it. -/
theorem Node.run_agrees [Release] {count : Nat} {node : Node} (numbered : node.IsNumbered count)
    {sameLatest : Prop} (inLoop : Bool) (ahead : Option CharTest) {next next' : Search}
    (agree : Search.Agrees count sameLatest next next') :
    Search.Agrees count sameLatest (node.withoutReferences.run inLoop ahead next)
      ((node.shift count).run inLoop ahead next') := by
  induction node generalizing sameLatest inLoop ahead next next' with
  | empty => exact agree
  | never => exact fun here _ _ agreeNotes => .failed agreeNotes
  | one test =>
      intro here notes notes' agreeNotes
      simp only [withoutReferences, shift, run]
      split
      · exact agree _ _ _ agreeNotes
      · exact .failed agreeNotes
  | assertion claim =>
      intro here notes notes' agreeNotes
      simp only [withoutReferences, shift, run]
      split
      · exact agree _ _ _ agreeNotes
      · exact .failed agreeNotes
  | reference number =>
      intro here notes notes' agreeNotes
      have holdsNothing := agreeNotes.held?_eq_none numbered.1 numbered.2
      simp only [withoutReferences, shift, run, holdsNothing, Option.bind_none]
      exact .failed agreeNotes
  | group index body ih =>
      obtain ⟨positive, numbered⟩ := numbered
      have start : Notes.startOf (count + index) = 2 * count + Notes.startOf index := by
        unfold Notes.startOf
        omega
      have last : Notes.endOf (count + index) = 2 * count + Notes.endOf index := by
        rw [Notes.endOf, start, Notes.endOf, Nat.add_assoc]
      intro here notes notes' agreeNotes
      simp only [withoutReferences, shift, run, start, last]
      refine ih numbered inLoop none ?_ here _ _ (agreeNotes.mark _ here)
      exact fun there _ _ agreeThere => agree there _ _ (agreeThere.mark _ there)
  | both first second ihFirst ihSecond =>
      simp only [withoutReferences, shift, run, opening?_withoutReferences, opening?_shift]
      exact ihFirst numbered.1 inLoop _ (ihSecond numbered.2 inLoop ahead agree)
  | either first second ihFirst ihSecond =>
      intro here notes notes' agreeNotes
      simp only [withoutReferences, shift, run, opening?_withoutReferences, opening?_shift]
      split
      · exact ihSecond numbered.2 inLoop none agree here _ _ agreeNotes
      · have tried := ihFirst numbered.1 inLoop none agree here _ _ (agreeNotes.note here)
        exact tried.orElse fun _ _ agreeFailed =>
          ihSecond numbered.2 inLoop none agree here _ _ (agreeFailed.takeBack agreeNotes inLoop)
  | many bounds possessive test => exact agree.runMany bounds possessive test.holds inLoop ahead
  | loop bounds possessive body ih =>
      simp only [withoutReferences, shift, run]
      cases possessive with
      | true =>
          -- each round starts at the place noted last, so here the same place is asked for
          have agreeRound := ih numbered inLoop none (@Search.agrees_accept count True)
          exact Search.Agrees.takeLoop agreeRound agree bounds
      | false => exact Search.Agrees.runLoop (ih numbered true none) agree bounds

end BundleEmbed.Regex
