import BundleEmbed.Proofs.Regex.WholeTexts

/-!
Reading a text after another one.

Where a bar has ended an alternative, the text after it is read as if it stood alone, but for the
numbers of its groups: they go on from those before. References keep their numbers, so in a text
that stands twice they refer to the groups of its first copy.

* `Node.shift`: an expression with its groups renumbered.
* `Node.shift_ofAlternatives`, `Branches.node_shift`: renumbering what alternatives make.
* `Progress.onTop`: what is read of a text, on top of what has been read before.
* `Progress.read_follows`, `Progress.ReadsTo.onTop`: reading a text alone and on top of another.
-/

namespace BundleEmbed.Regex

/-! ### Renumbered expressions -/

/-- An expression with its groups renumbered, to stand after `count` groups. References stay. -/
def Node.shift (count : Nat) : Node → Node
  | .group index body => .group (count + index) (body.shift count)
  | .both first second => .both (first.shift count) (second.shift count)
  | .either first second => .either (first.shift count) (second.shift count)
  | .loop bounds possessive body => .loop bounds possessive (body.shift count)
  | .empty => .empty
  | .never => .never
  | .one test => .one test
  | .assertion claim => .assertion claim
  | .reference number => .reference number
  | .many bounds possessive test => .many bounds possessive test

section Shift

variable (count : Nat)

@[simp] theorem Node.shift_sequence (nodes : List Node) :
    (Node.sequence nodes).shift count = Node.sequence (nodes.map (shift count)) := by
  induction nodes with
  | nil => rfl
  | cons node nodes ih => simp [shift, ih]

@[simp] theorem Node.shift_choice (alternatives : List (List Node)) :
    (Node.choice alternatives).shift count =
      Node.choice (alternatives.map (List.map (shift count))) := by
  induction alternatives with
  | nil => rfl
  | cons nodes alternatives ih => simp [shift, ih]

@[simp] theorem Node.isPlain_shift (node : Node) : (node.shift count).isPlain = node.isPlain := by
  cases node <;> rfl

@[simp] theorem Node.isRepeated_shift (node : Node) :
    (node.shift count).isRepeated = node.isRepeated := by
  cases node <;> rfl

/-- A plain expression has no group to be renumbered. -/
theorem Node.shift_eq_iff {node other : Node} (plain : node.isPlain = true) :
    other.shift count = node ↔ other = node := by
  cases node <;> cases plain <;> cases other <;> simp [shift]

theorem Node.shift_of_isPlain {node : Node} (plain : node.isPlain = true) :
    node.shift count = node :=
  (Node.shift_eq_iff count plain).mpr rfl

theorem Node.repeated_shift (bounds : Bounds) (possessive : Bool) (node : Node) :
    (node.shift count).repeated bounds possessive =
      (node.repeated bounds possessive).shift count := by
  cases node <;> rfl

theorem setMembers?_map_shift (nodes : List Node) :
    setMembers? (nodes.map (Node.shift count)) = setMembers? nodes := by
  rcases nodes with _ | ⟨node, _ | ⟨next, nodes⟩⟩
  · rfl
  · cases node <;> rfl
  · simp [setMembers?]

theorem commonSet?_map_shift (alternatives : List (List Node)) :
    commonSet? (alternatives.map (List.map (Node.shift count))) = commonSet? alternatives := by
  have gathered : (alternatives.map (List.map (Node.shift count))).mapM setMembers? =
      alternatives.mapM setMembers? := by
    induction alternatives with
    | nil => rfl
    | cons nodes alternatives ih =>
        simp only [List.map_cons, List.mapM_cons, setMembers?_map_shift, ih]
  rw [commonSet?, gathered, commonSet?]

theorem choiceOf_map_shift (alternatives : List (List Node)) :
    choiceOf (alternatives.map (List.map (Node.shift count))) =
      (choiceOf alternatives).shift count := by
  unfold choiceOf
  rw [commonSet?_map_shift]
  cases commonSet? alternatives with
  | some test => rfl
  | none => exact (Node.shift_choice count alternatives).symm

/-- A plain expression stands first among renumbered ones exactly if it did before. -/
theorem head?_map_shift {node : Node} (plain : node.isPlain = true) (nodes : List Node) :
    ((nodes.map (Node.shift count)).head? == some node) = (nodes.head? == some node) := by
  cases nodes with
  | nil => rfl
  | cons other nodes =>
      rw [Bool.eq_iff_iff]
      simp [Node.shift_eq_iff count plain]

theorem commonStart_map_shift (nodes : List Node) (others : List (List Node)) :
    commonStart (nodes.map (Node.shift count)) (others.map (List.map (Node.shift count))) =
      ((commonStart nodes others).1.map (Node.shift count),
        (commonStart nodes others).2.map (List.map (Node.shift count))) := by
  induction nodes generalizing others with
  | nil => simp [commonStart]
  | cons node nodes ih =>
      by_cases plain : node.isPlain = true
      · have alike : (others.map (List.map (Node.shift count))).all (·.head? == some node) =
            others.all (·.head? == some node) := by
          simp only [List.all_map, Function.comp_def, head?_map_shift count plain]
        have tails : (others.map (List.map (Node.shift count))).map List.tail =
            (others.map List.tail).map (List.map (Node.shift count)) := by
          simp [Function.comp_def]
        rw [List.map_cons, Node.shift_of_isPlain count plain, commonStart, commonStart, alike]
        split
        · simp only [tails, ih, List.map_cons, Node.shift_of_isPlain count plain]
        · simp [Node.shift_of_isPlain count plain]
      · simp [commonStart, plain]

/-- Renumbering the expression of a group renumbers its alternatives. -/
theorem Node.shift_ofAlternatives (nodes : List Node) (others : List (List Node)) :
    (Node.ofAlternatives nodes others).shift count =
      Node.ofAlternatives (nodes.map (shift count)) (others.map (List.map (shift count))) := by
  cases others with
  | nil => simp [ofAlternatives]
  | cons other others =>
      have start := commonStart_map_shift count nodes (other :: others)
      rw [List.map_cons] at start
      simp only [ofAlternatives, List.map_cons, start, shift_sequence, List.map_append,
        choiceOf_map_shift, List.map_nil]

end Shift

/-! ### Numbers of groups and references -/

/-- The references of an expression are to groups up to a number. Groups and references are
numbered from one. -/
def Node.IsNumbered (limit : Nat) : Node → Prop
  | .reference number => 0 < number ∧ number ≤ limit
  | .group index body => 0 < index ∧ body.IsNumbered limit
  | .both first second => first.IsNumbered limit ∧ second.IsNumbered limit
  | .either first second => first.IsNumbered limit ∧ second.IsNumbered limit
  | .loop _ _ body => body.IsNumbered limit
  | .empty => True
  | .never => True
  | .one _ => True
  | .assertion _ => True
  | .many _ _ _ => True

theorem Node.IsNumbered.mono {limit limit' : Nat} (wider : limit ≤ limit') {node : Node}
    (numbered : node.IsNumbered limit) : node.IsNumbered limit' := by
  induction node with
  | reference number => exact ⟨numbered.1, numbered.2.trans wider⟩
  | group index body ih => exact ⟨numbered.1, ih numbered.2⟩
  | both first second ihFirst ihSecond => exact ⟨ihFirst numbered.1, ihSecond numbered.2⟩
  | either first second ihFirst ihSecond => exact ⟨ihFirst numbered.1, ihSecond numbered.2⟩
  | loop bounds possessive body ih => exact ih numbered
  | _ => trivial

theorem Node.isNumbered_sequence {limit : Nat} {nodes : List Node}
    (numbered : ∀ node ∈ nodes, node.IsNumbered limit) :
    (Node.sequence nodes).IsNumbered limit := by
  induction nodes with
  | nil => trivial
  | cons node nodes ih =>
      obtain ⟨first, later⟩ := List.forall_mem_cons.mp numbered
      exact ⟨first, ih later⟩

theorem Node.isNumbered_choice {limit : Nat} {alternatives : List (List Node)}
    (numbered : ∀ nodes ∈ alternatives, ∀ node ∈ nodes, node.IsNumbered limit) :
    (Node.choice alternatives).IsNumbered limit := by
  induction alternatives with
  | nil => trivial
  | cons nodes alternatives ih =>
      obtain ⟨first, later⟩ := List.forall_mem_cons.mp numbered
      exact ⟨isNumbered_sequence first, ih later⟩

theorem Node.isNumbered_ofAlternatives {limit : Nat} {first : List Node} {others : List (List Node)}
    (numbered : ∀ nodes ∈ first :: others, ∀ node ∈ nodes, node.IsNumbered limit) :
    (Node.ofAlternatives first others).IsNumbered limit := by
  unfold Node.ofAlternatives
  split
  · exact isNumbered_sequence (List.forall_mem_singleton.mp numbered)
  · rcases start : commonStart first others with ⟨shared, rests⟩
    have splits := cons_eq_map_commonStart first others
    rw [start] at splits
    have parts (rest : List Node) (isOne : rest ∈ rests) :
        ∀ node ∈ shared ++ rest, node.IsNumbered limit :=
      numbered _ (splits ▸ List.mem_map_of_mem isOne)
    refine isNumbered_sequence (List.forall_mem_append.mpr ⟨?_, List.forall_mem_singleton.mpr ?_⟩)
    · cases rests with
      | nil => cases splits
      | cons rest rests => exact (List.forall_mem_append.mp (parts rest List.mem_cons_self)).1
    · unfold choiceOf
      split
      · trivial
      · exact isNumbered_choice fun rest isOne => (List.forall_mem_append.mp (parts rest isOne)).2

theorem Node.isNumbered_repeated {limit : Nat} {node : Node} (numbered : node.IsNumbered limit)
    (bounds : Bounds) (possessive : Bool) : (node.repeated bounds possessive).IsNumbered limit := by
  cases node with
  | one test => trivial
  | _ => exact numbered

/-! ### Renumbered alternatives -/

/-- Alternatives with the groups in them renumbered. -/
def Branches.shift (count : Nat) (branches : Branches) : Branches :=
  ⟨branches.complete.map (List.map (Node.shift count)), branches.items.map (Node.shift count)⟩

theorem Branches.alternatives_shift (count : Nat) (branches : Branches) :
    (branches.shift count).alternatives =
      branches.alternatives.map (List.map (Node.shift count)) := by
  simp [alternatives, shift]

/-- Renumbering what alternatives make renumbers the alternatives. -/
theorem Branches.node_shift (count : Nat) (branches : Branches) :
    (branches.shift count).node = branches.node.shift count := by
  obtain ⟨complete, items⟩ := branches
  cases complete with
  | nil => simp [node, shift]
  | cons first others => simp [node, shift, Node.shift_ofAlternatives]

/-- Alternatives after others that are complete. -/
def Branches.after (complete : List (List Node)) (branches : Branches) : Branches :=
  ⟨complete ++ branches.complete, branches.items⟩

/-- All parts of alternatives have a property. -/
def Branches.All (holds : Node → Prop) (branches : Branches) : Prop :=
  ∀ nodes ∈ branches.alternatives, ∀ node ∈ nodes, holds node

section All

variable {holds : Node → Prop} {branches : Branches}

theorem Branches.all_nothing : Branches.nothing.All holds := by
  simp [All, alternatives, nothing]

theorem Branches.all_push_iff {item : Node} :
    (branches.push item).All holds ↔ branches.All holds ∧ holds item := by
  simp only [All, alternatives, push, List.reverse_cons, List.forall_mem_append,
    List.forall_mem_singleton]
  exact and_assoc.symm

theorem Branches.all_split_iff : branches.split.All holds ↔ branches.All holds := by
  simp only [All, alternatives, split, List.forall_mem_append, List.forall_mem_singleton]
  exact and_iff_left (by simp)

theorem Branches.All.mono {holds' : Node → Prop} (all : branches.All holds)
    (implied : ∀ node, holds node → holds' node) : branches.All holds' :=
  fun nodes isOne node isIn => implied node (all nodes isOne node isIn)

theorem Branches.isNumbered_node {limit : Nat} (numbered : branches.All (·.IsNumbered limit)) :
    branches.node.IsNumbered limit := by
  obtain ⟨complete, items⟩ := branches
  cases complete with
  | nil => exact Node.isNumbered_sequence (List.forall_mem_singleton.mp numbered)
  | cons first others => exact Node.isNumbered_ofAlternatives numbered

end All

/-! ### Reading on top of what has been read -/

/-- The numbers in what has been read are those of groups opened so far, from one on. -/
structure Progress.IsNumbered (progress : Progress) : Prop where
  positive : ∀ inner ∈ progress.around, 0 < inner.index
  current : progress.current.All (·.IsNumbered progress.groups)
  before : ∀ inner ∈ progress.around, inner.before.All (·.IsNumbered progress.groups)

theorem Progress.isNumbered_start : Progress.start.IsNumbered where
  positive := by simp [start]
  current := Branches.all_nothing
  before := by simp [start]

namespace Progress.IsNumbered

variable {progress : Progress}

/-- Numbered parts in place of the current ones. -/
theorem withCurrent (numbered : progress.IsNumbered) {current : Branches}
    (isNumbered : current.All (·.IsNumbered progress.groups)) :
    { progress with current }.IsNumbered :=
  ⟨numbered.positive, isNumbered, numbered.before⟩

theorem push (numbered : progress.IsNumbered) {item : Node}
    (isNumbered : item.IsNumbered progress.groups) : (progress.push item).IsNumbered :=
  numbered.withCurrent (Branches.all_push_iff.mpr ⟨numbered.current, isNumbered⟩)

theorem of_push {item : Node} (numbered : (progress.push item).IsNumbered) :
    progress.IsNumbered ∧ item.IsNumbered progress.groups :=
  have all := Branches.all_push_iff.mp numbered.current
  ⟨⟨numbered.positive, all.1, numbered.before⟩, all.2⟩

theorem openGroup (numbered : progress.IsNumbered) (start : List Sign) :
    IsNumbered ⟨progress.groups + 1, .nothing,
      ⟨progress.groups + 1, start, progress.current⟩ :: progress.around⟩ where
  positive := List.forall_mem_cons.mpr ⟨Nat.succ_pos _, numbered.positive⟩
  current := Branches.all_nothing
  before := by
    have wider {branches : Branches} (all : branches.All (·.IsNumbered progress.groups)) :
        branches.All (·.IsNumbered (progress.groups + 1)) :=
      all.mono fun _ => Node.IsNumbered.mono (Nat.le_succ _)
    exact List.forall_mem_cons.mpr
      ⟨wider numbered.current, fun inner isOne => wider (numbered.before inner isOne)⟩

theorem closeGroup {groups : Nat} {current : Branches} {inner : OpenGroup}
    {around : List OpenGroup} (numbered : IsNumbered ⟨groups, current, inner :: around⟩) :
    IsNumbered ⟨groups, inner.before.push (.group inner.index current.node), around⟩ where
  positive := (List.forall_mem_cons.mp numbered.positive).2
  current := Branches.all_push_iff.mpr
    ⟨(List.forall_mem_cons.mp numbered.before).1, (List.forall_mem_cons.mp numbered.positive).1,
      Branches.isNumbered_node numbered.current⟩
  before := (List.forall_mem_cons.mp numbered.before).2

end Progress.IsNumbered

/-- The current alternatives of a text and the groups around them, on top of complete alternatives
in the group around the text and of the groups `below` that are open there. -/
def Branches.onTop (count : Nat) (complete : List (List Node)) (below : List OpenGroup) :
    Branches → List OpenGroup → Branches × List OpenGroup
  | current, [] => ((current.shift count).after complete, below)
  | current, inner :: around =>
      let outer := Branches.onTop count complete below inner.before around
      (current.shift count, ⟨count + inner.index, inner.start, outer.1⟩ :: outer.2)

/-- What has been read of a text, on top of what has been read before it. -/
def Progress.onTop (count : Nat) (complete : List (List Node)) (below : List OpenGroup)
    (progress : Progress) : Progress :=
  let placed := progress.current.onTop count complete below progress.around
  ⟨count + progress.groups, placed.1, placed.2⟩

section OnTop

variable {count : Nat} {complete : List (List Node)} {below : List OpenGroup}

theorem Branches.onTop_push (branches : Branches) (around : List OpenGroup) (item : Node) :
    (branches.push item).onTop count complete below around =
      ((branches.onTop count complete below around).1.push (item.shift count),
        (branches.onTop count complete below around).2) := by
  cases around <;> rfl

theorem Branches.onTop_split (branches : Branches) (around : List OpenGroup) :
    branches.split.onTop count complete below around =
      ((branches.onTop count complete below around).1.split,
        (branches.onTop count complete below around).2) := by
  cases around <;> simp [onTop, split, shift, after]

end OnTop

/-- How a step goes together with another that is taken on top of more: where the first gives
something, so does the second, unless it may fail for what is below. -/
inductive Follows (mayFail : Prop) {α β : Type} (good : α → Prop) (turn : α → β) :
    Except Refusal α → Except Refusal β → Prop
  | ok {a : α} (isGood : good a) : Follows mayFail good turn (.ok a) (.ok (turn a))
  | fails {a : α} {refusal : Refusal} (isGood : good a) (fails : mayFail) :
      Follows mayFail good turn (.ok a) (.error refusal)
  | failed {refusal : Refusal} {step : Except Refusal β} :
      Follows mayFail good turn (.error refusal) step

namespace Follows

variable {mayFail : Prop} {α β γ δ : Type} {good : α → Prop} {turn : α → β} {good' : γ → Prop}
  {turn' : γ → δ} {lower : Except Refusal α} {upper : Except Refusal β}

/-- A step that fails for what is below. -/
theorem cutShort (first : Follows mayFail good turn lower upper) (fails : mayFail)
    (refusal : Refusal) : Follows mayFail good turn lower (.error refusal) := by
  cases first with
  | ok isGood => exact .fails isGood fails
  | fails isGood => exact .fails isGood fails
  | failed => exact .failed

/-- Two steps, the second of which is taken with what the first gives. -/
theorem bind {next : α → Except Refusal γ} {next' : β → Except Refusal δ}
    (first : Follows mayFail good turn lower upper)
    (second : ∀ a, good a → Follows mayFail good' turn' (next a) (next' (turn a))) :
    Follows mayFail good' turn' (lower >>= next) (upper >>= next') := by
  cases first with
  | ok isGood => exact second _ isGood
  | fails isGood fails => exact (second _ isGood).cutShort fails _
  | failed => exact .failed

/-- A step that does not depend on what has been read. -/
theorem same {step : Except Refusal α} : Follows mayFail (fun _ => True) id step step := by
  cases step with
  | ok a => exact .ok trivial
  | error refusal => exact .failed

end Follows

section Steps

variable {count : Nat} {complete : List (List Node)} {below : List OpenGroup} {progress : Progress}

/-- An open group on top of more is one of the text, renumbered, or one below. -/
theorem Branches.mem_onTop {branches : Branches} {around : List OpenGroup} {inner : OpenGroup}
    (isOpen : inner ∈ (branches.onTop count complete below around).2) :
    (∃ other ∈ around, inner.index = count + other.index) ∨ inner ∈ below := by
  induction around generalizing branches with
  | nil => exact .inr isOpen
  | cons other around ih =>
      rcases List.mem_cons.mp isOpen with rfl | isOuter
      · exact .inl ⟨other, List.mem_cons_self, rfl⟩
      · rcases ih isOuter with ⟨outer, isOne, same⟩ | isBelow
        · exact .inl ⟨outer, List.mem_cons_of_mem other isOne, same⟩
        · exact .inr isBelow

/-- An item of its own that is read the same on top of more. -/
def IsItem (limit count : Nat) (found : Node × List Sign) : Prop :=
  found.1.IsNumbered limit ∧ found.1.shift count = found.1

theorem Progress.reference_follows (numbered : progress.IsNumbered)
    (bound : progress.groups ≤ count) {digits : List Char} (positive : 0 < numberOf 10 digits)
    (rest : List Sign) :
    Follows (below ≠ []) (IsItem progress.groups count) id (progress.reference digits rest)
      ((progress.onTop count complete below).reference digits rest) := by
  unfold reference
  dsimp only
  by_cases unknown : numberOf 10 digits > progress.groups
  · rw [if_pos unknown]
    exact .failed
  have known : ¬ numberOf 10 digits > (progress.onTop count complete below).groups := by
    change ¬ numberOf 10 digits > count + progress.groups
    omega
  have isItem : IsItem progress.groups count (.reference (numberOf 10 digits), rest) :=
    ⟨⟨positive, not_lt.mp unknown⟩, rfl⟩
  rw [if_neg unknown, if_neg known]
  split_ifs with isOpen isOpen' isOpen'
  · exact .failed
  · exact .failed
  · refine .fails isItem ?_
    rintro rfl
    obtain ⟨inner, isInner, same⟩ := List.any_eq_true.mp isOpen'
    rcases Branches.mem_onTop isInner with ⟨other, isOne, index⟩ | isBelow
    · -- its number is beyond all groups that can be referred to
      have positive := numbered.positive other isOne
      have same : inner.index = numberOf 10 digits := by simpa using same
      omega
    · cases isBelow
  · exact .ok isItem

/-- The value of digits grows with every digit. -/
theorem le_foldl_digits (value : Nat) (digits : List Char) :
    value ≤ digits.foldl (fun value c => value * 10 + digitValue c) value := by
  induction digits generalizing value with
  | nil => exact le_rfl
  | cons c digits ih => exact (by omega : value ≤ value * 10 + digitValue c).trans (ih _)

/-- A number that does not begin with a zero is positive. -/
theorem numberOf_pos {first : Char} (isDigit : first.isDigit = true) (notZero : first ≠ '0')
    (digits : List Char) : 0 < numberOf 10 (first :: digits) := by
  have start : 0 < digitValue first := by
    have different : first.toNat ≠ '0'.toNat := fun same => notZero (Char.toNat_inj.mp same)
    have atLeast : '0'.toNat ≤ first.toNat := by
      simp only [Char.isDigit, Bool.and_eq_true, decide_eq_true_eq, ge_iff_le] at isDigit
      exact isDigit.1
    rw [digitValue, if_pos isDigit]
    omega
  calc 0 < 0 * 10 + digitValue first := by omega
    _ ≤ numberOf 10 (first :: digits) := le_foldl_digits _ digits

theorem Progress.readNumbered_follows (numbered : progress.IsNumbered)
    (bound : progress.groups ≤ count) {first : Char} (isDigit : first.isDigit = true)
    (notZero : first ≠ '0') (rest : List Sign) :
    Follows (below ≠ []) (IsItem progress.groups count) id (progress.readNumbered first rest)
      ((progress.onTop count complete below).readNumbered first rest) := by
  have reference (digits : List Char) (rest : List Sign) :
      Follows (below ≠ []) (IsItem progress.groups count) id
        (progress.reference (first :: digits) rest)
        ((progress.onTop count complete below).reference (first :: digits) rest) :=
    reference_follows numbered bound (numberOf_pos isDigit notZero digits) rest
  unfold readNumbered
  split
  · split
    · refine Follows.same.bind fun rest _ => ?_
      dsimp only [id]
      split
      · split
        · refine Follows.same.bind fun rest _ => ?_
          dsimp only [id]
          split
          · exact .failed
          · exact .ok ⟨trivial, rfl⟩
        · exact reference _ _
      · exact reference _ _
    · exact reference _ _
  · exact reference _ _

theorem Progress.readEscape_follows (numbered : progress.IsNumbered)
    (bound : progress.groups ≤ count) (c : Char) (rest : List Sign) :
    Follows (below ≠ []) (IsItem progress.groups count) id (progress.readEscape c rest)
      ((progress.onTop count complete below).readEscape c rest) := by
  unfold readEscape
  cases assertionOf c with
  | some assertion => exact .ok ⟨trivial, rfl⟩
  | none =>
  dsimp only
  cases categoryOf c with
  | some category => exact .ok ⟨trivial, rfl⟩
  | none =>
  dsimp only
  cases controlCode c with
  | some code => exact .ok ⟨trivial, rfl⟩
  | none =>
  refine Follows.same.bind fun spelled _ => ?_
  cases spelled with
  | some found => exact .ok ⟨trivial, rfl⟩
  | none =>
  dsimp only [id]
  split
  · exact Follows.same.bind fun _ _ => .ok ⟨trivial, rfl⟩
  rename_i notZero
  split
  · rename_i isDigit
    exact readNumbered_follows numbered bound isDigit notZero rest
  · exact Follows.same.bind fun _ _ => .ok ⟨trivial, rfl⟩

/-- A construct keeps numbers in order. -/
def KeepsNumbers (progress : Progress) (found : Progress × List Sign) : Prop :=
  progress.groups ≤ found.1.groups ∧ found.1.IsNumbered

/-- A construct that has been read on top of what has been read before. -/
def Progress.stepOnTop (count : Nat) (complete : List (List Node)) (below : List OpenGroup)
    (found : Progress × List Sign) : Progress × List Sign :=
  (found.1.onTop count complete below, found.2)

theorem Progress.onTop_push (item : Node) :
    (progress.push item).onTop count complete below =
      (progress.onTop count complete below).push (item.shift count) := by
  simp only [onTop, push, Branches.onTop_push]

theorem Progress.onTop_split :
    { progress with current := progress.current.split }.onTop count complete below =
      { progress.onTop count complete below with
        current := (progress.onTop count complete below).current.split } := by
  simp only [onTop, Branches.onTop_split]

/-- A group that is closed on top of what has been read before has a renumbered body there. -/
theorem Progress.onTop_closeGroup (groups : Nat) (current : Branches) (inner : OpenGroup)
    (around : List OpenGroup) :
    Progress.onTop count complete below
        ⟨groups, inner.before.push (.group inner.index current.node), around⟩ =
      ⟨count + groups,
        (inner.before.onTop count complete below around).1.push
          (.group (count + inner.index) (current.shift count).node),
        (inner.before.onTop count complete below around).2⟩ := by
  rw [Branches.node_shift]
  simp only [onTop, Branches.onTop_push, Node.shift]

/-- Whether a repetition is possessive, and the text after its mark. -/
def readPossessive (rest : List Sign) : Except Refusal (Bool × List Sign) :=
  match rest with
  | .char '+' :: rest => do
      let rest ← past rest
      pure (true, rest)
  | _ => pure (false, rest)

theorem readPossessive_of_ne {rest : List Sign} (unmarked : ∀ after, rest ≠ .char '+' :: after) :
    readPossessive rest = .ok (false, rest) := by
  unfold readPossessive
  split
  · exact absurd rfl (unmarked _)
  · rfl

/-- The repetition of an item that has just been read. -/
theorem Progress.repeatLast_push (progress : Progress) {item : Node}
    (notAssertion : ∀ claim, item ≠ .assertion claim) (bounds : Bounds) (start rest : List Sign) :
    (progress.push item).repeatLast bounds start rest =
      if item.isRepeated then faultBefore start .multipleRepeat
      else do
        let (possessive, rest) ← readPossessive rest
        return (progress.push (item.repeated bounds possessive), rest) := by
  unfold repeatLast push Branches.push
  dsimp only
  split
  · contradiction
  · rename_i same
    cases same
    exact absurd rfl (notAssertion _)
  · rename_i same
    cases same
    by_cases isRepeated : item.isRepeated = true
    · rw [if_pos isRepeated, if_pos isRepeated]
      rfl
    · rw [if_neg isRepeated, if_neg isRepeated]
      by_cases marked : ∃ after, rest = .char '+' :: after
      · obtain ⟨after, rfl⟩ := marked
        simp only [readPossessive, bind_assoc, pure_bind]
      · rw [readPossessive_of_ne (not_exists.mp marked)]
        split
        · exact absurd ⟨_, rfl⟩ marked
        · rfl

theorem Progress.repeatLast_push_follows {item : Node}
    (numbered : (progress.push item).IsNumbered) (bounds : Bounds) (start rest : List Sign) :
    Follows (below ≠ []) (KeepsNumbers progress) (stepOnTop count complete below)
      ((progress.push item).repeatLast bounds start rest)
      (((progress.push item).onTop count complete below).repeatLast bounds start rest) := by
  obtain ⟨isNumbered, itemNumbered⟩ := numbered.of_push
  rw [onTop_push]
  by_cases isAssertion : ∃ claim, item = .assertion claim
  · obtain ⟨claim, rfl⟩ := isAssertion
    exact .failed
  rw [not_exists] at isAssertion
  have shifted (claim : Assertion) : item.shift count ≠ .assertion claim :=
    (Node.shift_eq_iff count rfl).not.mpr (isAssertion claim)
  rw [repeatLast_push progress isAssertion, repeatLast_push _ shifted, Node.isRepeated_shift]
  have repeated (possessive : Bool) (rest : List Sign) :
      Follows (below ≠ []) (KeepsNumbers progress) (stepOnTop count complete below)
        (.ok (progress.push (item.repeated bounds possessive), rest))
        (.ok ((progress.onTop count complete below).push
          ((item.shift count).repeated bounds possessive), rest)) := by
    rw [Node.repeated_shift, ← onTop_push]
    exact .ok ⟨le_rfl, isNumbered.push (Node.isNumbered_repeated itemNumbered bounds possessive)⟩
  split
  · exact .failed
  · exact Follows.same.bind fun found _ => repeated found.1 found.2

theorem Progress.repeatLast_follows (numbered : progress.IsNumbered) (bounds : Bounds)
    (start rest : List Sign) :
    Follows (below ≠ []) (KeepsNumbers progress) (stepOnTop count complete below)
      (progress.repeatLast bounds start rest)
      ((progress.onTop count complete below).repeatLast bounds start rest) := by
  obtain ⟨groups, ⟨done, items⟩, around⟩ := progress
  cases items with
  | nil => exact .failed
  | cons item items =>
      let before : Progress := ⟨groups, ⟨done, items⟩, around⟩
      exact @repeatLast_push_follows count complete below before item numbered bounds start rest

/-- A construct is read alike on top of what has been read before, where its groups are at most
as many as are counted there. -/
theorem Progress.read_follows (numbered : progress.IsNumbered) (bound : progress.groups ≤ count)
    (c : Sign) (after : List Sign) :
    Follows (below ≠ []) (KeepsNumbers progress) (stepOnTop count complete below)
      (progress.read c after) ((progress.onTop count complete below).read c after) := by
  have pushed {item : Node} (isNumbered : item.IsNumbered progress.groups)
      (same : item.shift count = item) (rest : List Sign) :
      Follows (below ≠ []) (KeepsNumbers progress) (stepOnTop count complete below)
        (.ok (progress.push item, rest))
        (.ok ((progress.onTop count complete below).push item, rest)) := by
    have onTop : (progress.onTop count complete below).push item =
        (progress.push item).onTop count complete below := by rw [onTop_push, same]
    rw [onTop]
    exact .ok ⟨le_rfl, numbered.push isNumbered⟩
  have one (test : CharTest) (rest : List Sign) := @pushed (.one test) trivial rfl rest
  have assertion (claim : Assertion) (rest : List Sign) :=
    @pushed (.assertion claim) trivial rfl rest
  have repeated (bounds : Bounds) (start rest : List Sign) :=
    @repeatLast_follows count complete below progress numbered bounds start rest
  unfold read
  split
  · refine Follows.same.bind fun rest _ => ?_
    have isNumbered := numbered.withCurrent (Branches.all_split_iff.mpr numbered.current)
    dsimp only [id]
    rw [← onTop_split]
    exact .ok ⟨le_rfl, isNumbered⟩
  · obtain ⟨groups, current, around⟩ := progress
    cases around with
    | nil => exact .failed
    | cons inner around =>
        refine Follows.same.bind fun rest _ => ?_
        have follows : Follows (below ≠ []) (KeepsNumbers ⟨groups, current, inner :: around⟩)
            (stepOnTop count complete below)
            (.ok (⟨groups, inner.before.push (.group inner.index current.node), around⟩, rest))
            (.ok (Progress.onTop count complete below
              ⟨groups, inner.before.push (.group inner.index current.node), around⟩, rest)) :=
          .ok ⟨le_rfl, numbered.closeGroup⟩
        rw [onTop_closeGroup] at follows
        exact follows
  · refine Follows.same.bind fun rest _ => ?_
    exact @Follows.ok _ _ _ _ (stepOnTop count complete below)
      (⟨progress.groups + 1, .nothing, ⟨progress.groups + 1, _, progress.current⟩ ::
        progress.around⟩, rest) ⟨Nat.le_succ _, numbered.openGroup _⟩
  · exact Follows.same.bind fun _ _ => one _ _
  · exact Follows.same.bind fun _ _ => one _ _
  · exact Follows.same.bind fun _ _ => assertion _ _
  · exact Follows.same.bind fun _ _ => assertion _ _
  · exact Follows.same.bind fun _ _ => repeated _ _ _
  · exact Follows.same.bind fun _ _ => repeated _ _ _
  · exact Follows.same.bind fun _ _ => repeated _ _ _
  · refine Follows.same.bind fun inside _ => Follows.same.bind fun counts _ => ?_
    cases counts with
    | none => exact one _ _
    | some counts => exact Follows.same.bind fun _ _ => repeated _ _ _
  · split
    · exact .failed
    · refine Follows.same.bind fun rest _ => (readEscape_follows numbered bound _ rest).bind ?_
      exact fun found isItem => pushed isItem.1 isItem.2 _
    · exact Follows.same.bind fun _ _ => one _ _
  · exact Follows.same.bind fun _ _ => one _ _

end Steps

/-! ### Whole texts on top of what has been read -/

namespace Progress

variable {count : Nat} {complete : List (List Node)} {below : List OpenGroup}
  {progress last : Progress} {text : List Sign}

theorem keepsNumbers_of_read (numbered : progress.IsNumbered) {c : Sign} {after : List Sign}
    {found : Progress × List Sign} (here : progress.read c after = .ok found) :
    KeepsNumbers progress found := by
  have follows := @read_follows progress.groups [] [] progress numbered le_rfl c after
  rw [here] at follows
  generalize (progress.onTop progress.groups [] []).read c after = upper at follows
  cases follows with
  | ok keeps => exact keeps
  | fails keeps => exact keeps

theorem ReadsTo.keepsNumbers (reads : progress.ReadsTo text (.ok last))
    (numbered : progress.IsNumbered) : progress.groups ≤ last.groups ∧ last.IsNumbered := by
  generalize same : (.ok last : Except Refusal Progress) = result at reads
  induction reads with
  | done progress =>
      cases same
      exact ⟨le_rfl, numbered⟩
  | refused here => cases same
  | step here shorter later ih =>
      obtain ⟨more, isNumbered⟩ := keepsNumbers_of_read numbered here
      obtain ⟨evenMore, lastNumbered⟩ := ih isNumbered same
      exact ⟨more.trans evenMore, lastNumbered⟩

/-- A text that is read alone is read alike on top of what has been read before, unless it is
refused there for what is open below. -/
theorem ReadsTo.onTop (reads : progress.ReadsTo text (.ok last)) (numbered : progress.IsNumbered)
    (bound : last.groups ≤ count) :
    (progress.onTop count complete below).ReadsTo text (.ok (last.onTop count complete below)) ∨
      below ≠ [] ∧
        ∃ refusal, (progress.onTop count complete below).ReadsTo text (.error refusal) := by
  generalize same : (.ok last : Except Refusal Progress) = result at reads
  induction reads with
  | done progress =>
      cases same
      exact .inl (.done _)
  | refused here => cases same
  | @step progress next c after rest result here shorter later ih =>
      subst same
      obtain ⟨more, isNumbered⟩ := keepsNumbers_of_read numbered here
      have few : progress.groups ≤ count :=
        (more.trans (later.keepsNumbers isNumbered).1).trans bound
      have follows := @read_follows count complete below progress numbered few c after
      rw [here] at follows
      generalize given : (progress.onTop count complete below).read c after = upper at follows
      cases follows with
      | ok keeps =>
          rcases ih isNumbered rfl with reads | ⟨isBelow, refusal, reads⟩
          · exact .inl (.step given shorter reads)
          · exact .inr ⟨isBelow, refusal, .step given shorter reads⟩
      | fails keeps isBelow => exact .inr ⟨isBelow, _, .refused given⟩

end Progress

end BundleEmbed.Regex
