import BundleEmbed.Proofs.Regex.Escapes
import BundleEmbed.Proofs.Regex.Overflow

/-!
Reading a text that goes on.

A reader looks at most one character ahead. So it reads the parts of a text alike when the text
goes on with an escape or another alternative, since neither a backslash nor a bar continues a
number, a name, a count or a repetition. The exception is a set that has been left open: what the
text goes on with may close it.

* `ReadsOn`: how a step on a text goes together with the step on the text that goes on.
* `readNamed_readsOn`: a name that is closed only in what the text goes on with is no name.
* `readItems_readsOn`, `readSet_readsOn`: sets, and the exception for them.
* `readCounts_readsOn`, `boundsOf_readsOn`: the counts of a repetition.
-/

namespace BundleEmbed.Regex

/-! ### Steps on a text that goes on -/

/-- A text goes on with an escape or with another alternative. -/
def GoesOn (more : List Sign) : Prop :=
  ∃ c later, more = c :: later ∧ (c = .char '\\' ∨ c = .char '|')

/-- How a step on a text goes together with the step on the text that goes on with `more`. Where
the first gives something, so does the second, unless a lone backslash has been added; where the
first fails, so does the second, unless a set has been left open that may be closed in `more`. -/
inductive ReadsOn (more : List Sign) {α β : Type} (good : α → Prop) (turn : α → β) :
    Except Refusal α → Except Refusal β → Prop
  | ok {a : α} (isGood : good a) : ReadsOn more good turn (.ok a) (.ok (turn a))
  | cut {a : α} {refusal : Refusal} (isGood : good a) (lone : more = [.char '\\']) :
      ReadsOn more good turn (.ok a) (.error refusal)
  | failed {refusal refusal' : Refusal} : ReadsOn more good turn (.error refusal) (.error refusal')
  | openSet {remaining : Nat} {step : Except Refusal β} (closes : .char ']' ∈ more) :
      ReadsOn more good turn (.error (.malformed ⟨.unterminatedSet, remaining⟩)) step

namespace ReadsOn

variable {more : List Sign} {α β γ δ : Type} {good : α → Prop} {turn : α → β} {good' : γ → Prop}
  {turn' : γ → δ} {short : Except Refusal α} {long : Except Refusal β}

/-- A step that fails for a lone backslash that has been added. -/
theorem cutShort (first : ReadsOn more good turn short long) (lone : more = [.char '\\'])
    (refusal : Refusal) : ReadsOn more good turn short (.error refusal) := by
  cases first with
  | ok isGood => exact .cut isGood lone
  | cut isGood => exact .cut isGood lone
  | failed => exact .failed
  | openSet closes => exact .openSet closes

/-- Two steps, the second of which is taken with what the first gives. -/
theorem bind {next : α → Except Refusal γ} {next' : β → Except Refusal δ}
    (first : ReadsOn more good turn short long)
    (second : ∀ a, good a → ReadsOn more good' turn' (next a) (next' (turn a))) :
    ReadsOn more good' turn' (short >>= next) (long >>= next') := by
  cases first with
  | ok isGood => exact second _ isGood
  | cut isGood lone => exact (second _ isGood).cutShort lone _
  | failed => exact .failed
  | openSet closes => exact .openSet closes

/-- A step whose result is turned into something else. -/
theorem map {f : α → γ} {g : β → δ} (first : ReadsOn more good turn short long)
    (keeps : ∀ a, good a → good' (f a)) (same : ∀ a, turn' (f a) = g (turn a)) :
    ReadsOn more good' turn' (f <$> short) (g <$> long) := by
  cases first with
  | @ok a isGood =>
      have turned : g <$> (.ok (turn a) : Except Refusal β) = .ok (turn' (f a)) :=
        congrArg Except.ok (same a).symm
      exact turned ▸ .ok (keeps a isGood)
  | cut isGood lone => exact .cut (keeps _ isGood) lone
  | failed => exact .failed
  | openSet closes => exact .openSet closes

end ReadsOn

/-- What has been read with the text after it, where the text goes on. -/
def withMore (more : List Sign) {α : Type} (found : α × List Sign) : α × List Sign :=
  (found.1, found.2 ++ more)

/-- What has been read leaves a rest of the text. -/
def LeavesRest (whole : List Sign) {α : Type} (found : α × List Sign) : Prop :=
  IsRest whole found.2

section Steps

variable {more whole rest : List Sign}

/-- A step goes on behind a character alike when what it does there is alike. -/
theorem past_readsOn {α β : Type} {good : α → Prop} {turn : α → β}
    {next : List Sign → Except Refusal α} {next' : List Sign → Except Refusal β}
    (left : IsRest whole rest)
    (onwards : ReadsOn more good turn (next rest) (next' (rest ++ more))) :
    ReadsOn more good turn (past rest >>= next) (past (rest ++ more) >>= next') := by
  have first : ReadsOn more (· = rest) (· ++ more) (past rest) (past (rest ++ more)) := by
    rw [past, if_neg left.ne_backslash, past]
    split
    · rename_i lone
      rcases List.append_eq_singleton_iff.mp lone with ⟨-, isMore⟩ | ⟨isRest, -⟩
      · exact .cut rfl isMore
      · exact absurd isRest left.ne_backslash
    · exact .ok rfl
  exact first.bind fun _ same => same ▸ onwards

/-- Characters of a kind are taken alike, where none of the characters that a text may go on with
is of the kind. The count may differ where it is no limit. -/
theorem takeUpTo_readsOn (goesOn : GoesOn more) {wanted : Char → Bool}
    (notBackslash : wanted '\\' = false) (notBar : wanted '|' = false) {count count' : Nat}
    (alike : count = count' ∨ rest.length ≤ count ∧ rest.length ≤ count')
    (left : IsRest whole rest) :
    ReadsOn more (LeavesRest whole) (withMore more) (takeUpTo wanted count rest)
      (takeUpTo wanted count' (rest ++ more)) := by
  induction rest generalizing count count' with
  | nil =>
      have short : takeUpTo wanted count [] = .ok ([], []) := by cases count <;> rfl
      have long : takeUpTo wanted count' more = .ok ([], more) := by
        obtain ⟨c, later, rfl, rfl | rfl⟩ := goesOn <;>
          cases count' <;> simp [takeUpTo, notBackslash, notBar]
      rw [short, List.nil_append, long]
      exact .ok left
  | cons c rest ih =>
      cases count with
      | zero =>
          obtain rfl : count' = 0 := by simpa [eq_comm] using alike
          exact .ok left
      | succ count =>
          obtain ⟨count', rfl⟩ : ∃ n, count' = n + 1 := by
            refine Nat.exists_eq_succ_of_ne_zero ?_
            rintro rfl
            simp at alike
          cases c with
          | surrogate offset => exact .ok left
          | char c =>
              rw [List.cons_append, takeUpTo, takeUpTo]
              split
              · rename_i isWanted
                have single : Sign.char c ≠ .char '\\' := by
                  rintro same
                  rw [Sign.char.inj same, notBackslash] at isWanted
                  cases isWanted
                refine past_readsOn (left.tail single) ((ih ?_ (left.tail single)).bind ?_)
                · simpa using alike
                · exact fun _ isLeft => .ok isLeft
              · exact .ok left

/-! ### Escapes -/

theorem readHexCode_readsOn (goesOn : GoesOn more) (letter : Char) (count : Nat)
    (left : IsRest whole rest) :
    ReadsOn more (LeavesRest whole) (withMore more) (readHexCode letter count rest)
      (readHexCode letter count (rest ++ more)) := by
  refine (takeUpTo_readsOn goesOn (by decide) (by decide) (.inl rfl) left).bind ?_
  rintro ⟨digits, after⟩ isLeft
  dsimp only [withMore]
  split_ifs
  · exact .failed
  · exact .failed
  · exact .failed
  · exact .ok isLeft

/-- A name that holds a sign which is in no name. -/
def NoName (name : List Sign) : Prop := ∃ c ∈ name, c.isChar isNameChar = false

/-- No character has a name with a character that is in no name. -/
theorem characterNamed?_of_noName {name : List Sign} (noName : NoName name) {string : String}
    (consists : (Text.ofList name).toString? = some string) : characterNamed? string = none := by
  obtain ⟨c, isOne, isOther⟩ := noName
  have signs : name = string.toList.map .char :=
    congrArg Text.toList (Text.toString?_eq_some_iff.mp consists)
  rw [signs] at isOne
  obtain ⟨char, inString, rfl⟩ := List.mem_map.mp isOne
  unfold characterNamed?
  split
  · rename_i written
    have inName : isNameChar char = true := List.all_eq_true.mp written char inString
    rw [Sign.isChar, inName] at isOther
    cases isOther
  · rfl

/-- What is added to a name leaves what is no name. -/
theorem NoName.append {name : List Sign} (noName : NoName name) (added : List Sign) :
    NoName (name ++ added) := by
  obtain ⟨c, isOne, isOther⟩ := noName
  exact ⟨c, List.mem_append_left added isOne, isOther⟩

/-- What a step gives behind a character, with whichever refusals. -/
theorem past_bind_gives {α : Type} {kind : α → Prop} {next : List Sign → Except Refusal α}
    (onwards : Gives (fun _ => True) kind (next rest)) :
    Gives (fun _ => True) kind (past rest >>= next) := by
  unfold past
  split
  · trivial
  · exact onwards

/-- A name that has begun as no name is none. -/
theorem readName_noName {fuel : Nat} {name text : List Sign} (noName : NoName name) :
    Gives (fun _ => True) (fun found => NoName found.1) (readName fuel name text) := by
  induction fuel generalizing name text with
  | zero =>
      rw [readName.eq_def]
      split
      · split <;> trivial
      · contradiction
      · contradiction
      · exact noName
  | succ fuel ih =>
      rw [readName.eq_def]
      split
      · split <;> trivial
      · cases ‹_ = _›
        exact past_bind_gives (ih (noName.append _))
      · cases ‹_ = _›
        refine past_bind_gives ?_
        split_ifs
        · trivial
        · exact noName
        · exact ih (noName.append _)
      · contradiction

/-- A name that is only closed in what a text goes on with is none. -/
theorem readName_goesOn (goesOn : GoesOn more) {fuel : Nat} (enough : more.length ≤ fuel)
    (name : List Sign) :
    Gives (fun _ => True) (fun found => NoName found.1) (readName fuel name more) := by
  obtain ⟨c, later, rfl, isNext⟩ := goesOn
  obtain ⟨fuel, rfl⟩ : ∃ n, fuel = n + 1 :=
    Nat.exists_eq_succ_of_ne_zero (by rintro rfl; simp at enough)
  have noName (added : List Sign) : NoName (name ++ c :: added) :=
    ⟨c, by simp, by rcases isNext with rfl | rfl <;> decide⟩
  rw [readName.eq_def]
  split
  · contradiction
  · rename_i same
    cases same
    exact past_bind_gives (readName_noName (noName _))
  · rename_i same
    cases same
    refine past_bind_gives ?_
    rw [if_neg (by rcases isNext with rfl | rfl <;> decide)]
    exact readName_noName (noName [])
  · contradiction

/-- Names are read alike on a text and on the text that goes on, or they are closed only in what
it goes on with, and are none. -/
def ReadsNameOn (more whole : List Sign)
    (short long : Except Refusal (List Sign × List Sign)) : Prop :=
  ReadsOn more (LeavesRest whole) (withMore more) short long ∨
    (∃ refusal, short = .error refusal) ∧
      Gives (fun _ => True) (fun found => NoName found.1) long

theorem past_readsNameOn {next next' : List Sign → Except Refusal (List Sign × List Sign)}
    (left : IsRest whole rest)
    (onwards : ReadsNameOn more whole (next rest) (next' (rest ++ more))) :
    ReadsNameOn more whole (past rest >>= next) (past (rest ++ more) >>= next') := by
  rcases onwards with alike | ⟨⟨refusal, failed⟩, noName⟩
  · exact .inl (past_readsOn left alike)
  · refine .inr ⟨⟨refusal, ?_⟩, past_bind_gives noName⟩
    rw [past, if_neg left.ne_backslash]
    exact failed

theorem readName_readsOn (goesOn : GoesOn more) {fuel fuel' : Nat} (enough : rest.length ≤ fuel)
    (enough' : (rest ++ more).length ≤ fuel') (name : List Sign) (left : IsRest whole rest) :
    ReadsNameOn more whole (readName fuel name rest) (readName fuel' name (rest ++ more)) := by
  induction fuel generalizing rest name fuel' with
  | zero =>
      obtain rfl := List.length_eq_zero_iff.mp (Nat.le_zero.mp enough)
      refine .inr ⟨?_, readName_goesOn goesOn enough' name⟩
      rw [readName]
      split <;> exact ⟨_, rfl⟩
  | succ fuel ih =>
      cases rest with
      | nil =>
          refine .inr ⟨?_, readName_goesOn goesOn enough' name⟩
          rw [readName]
          split <;> exact ⟨_, rfl⟩
      | cons c rest =>
          obtain ⟨fuel', rfl⟩ : ∃ n, fuel' = n + 1 :=
            Nat.exists_eq_succ_of_ne_zero (by rintro rfl; simp at enough')
          have shorter : rest.length ≤ fuel := Nat.le_of_succ_le_succ enough
          have shorter' : (rest ++ more).length ≤ fuel' := Nat.le_of_succ_le_succ enough'
          by_cases escape : c = .char '\\'
          · subst escape
            cases rest with
            | nil => exact absurd rfl left.ne_backslash
            | cons d rest =>
                have isLeft := left.ofEscape
                refine past_readsNameOn isLeft (ih ?_ ?_ _ isLeft)
                · exact (Nat.le_succ _).trans shorter
                · exact (Nat.le_succ _).trans shorter'
          · have isLeft := left.tail escape
            have single (fuel : Nat) (after : List Sign) : readName (fuel + 1) name (c :: after) =
                past after >>= fun after =>
                  if c = .char '\x7d' then
                    if name.isEmpty then faultAt after 1 .missingName else return (name, after)
                  else readName fuel (name ++ [c]) after := by
              rw [readName]
              exact fun d later same => absurd same escape
            rw [single, List.cons_append, single]
            refine past_readsNameOn isLeft ?_
            split_ifs
            · exact .inl .failed
            · exact .inl (.ok isLeft)
            · exact ih shorter shorter' _ isLeft

theorem readNamed_readsOn (goesOn : GoesOn more) (left : IsRest whole rest) :
    ReadsOn more (LeavesRest whole) (withMore more) (readNamed rest)
      (readNamed (rest ++ more)) := by
  cases rest with
  | nil =>
      obtain ⟨c, later, rfl, rfl | rfl⟩ := goesOn <;> exact .failed
  | cons c rest =>
      by_cases opens : c = .char '\x7b'
      · subst opens
        have isLeft := left.tail (by decide)
        have name := readName_readsOn goesOn le_rfl le_rfl [] isLeft
        refine past_readsOn isLeft ?_
        rcases name with alike | ⟨⟨refusal, failed⟩, noName⟩
        · refine alike.bind fun found isLeft => ?_
          dsimp only [withMore]
          split
          · exact .failed
          · split
            · exact .ok isLeft
            · exact .failed
        · rw [failed]
          cases given : readName (rest ++ more).length [] (rest ++ more) with
          | error refusal => exact .failed
          | ok found =>
              rw [given] at noName
              simp only [bind, Except.bind]
              split
              · exact .failed
              · rename_i string consists
                rw [characterNamed?_of_noName noName consists]
                exact .failed
      · have other (after : List Sign) : readNamed (c :: after) =
            faultBefore (c :: after) .missingNameBrace := by
          unfold readNamed
          split
          · rename_i same
            cases same
            exact absurd rfl opens
          · rfl
        rw [other, List.cons_append, other]
        exact .failed

/-- An escape that spells a code point out. -/
def LeavesRestIfAny (whole : List Sign) (found : Option (Nat × List Sign)) : Prop :=
  ∀ spelled, found = some spelled → LeavesRest whole spelled

theorem readSpelled_readsOn (goesOn : GoesOn more) (letter : Char) (left : IsRest whole rest) :
    ReadsOn more (LeavesRestIfAny whole) (Option.map (withMore more)) (readSpelled letter rest)
      (readSpelled letter (rest ++ more)) := by
  have spelled {short long : Except Refusal (Nat × List Sign)}
      (alike : ReadsOn more (LeavesRest whole) (withMore more) short long) :
      ReadsOn more (LeavesRestIfAny whole) (Option.map (withMore more)) (some <$> short)
        (some <$> long) :=
    alike.map (fun _ isLeft _ same => Option.some.inj same ▸ isLeft) fun _ => rfl
  unfold readSpelled
  split
  · exact spelled (readHexCode_readsOn goesOn _ _ left)
  · exact spelled (readHexCode_readsOn goesOn _ _ left)
  · exact spelled (readHexCode_readsOn goesOn _ _ left)
  · exact spelled (readNamed_readsOn goesOn left)
  · exact .ok fun _ => nofun

theorem readOctal_readsOn (goesOn : GoesOn more) (first : Char) (left : IsRest whole rest) :
    ReadsOn more (LeavesRest whole) (withMore more) (readOctal first rest)
      (readOctal first (rest ++ more)) := by
  refine (takeUpTo_readsOn goesOn (by decide) (by decide) (.inl rfl) left).bind ?_
  rintro ⟨digits, after⟩ isLeft
  dsimp only [withMore]
  split_ifs
  · exact .failed
  · exact .ok isLeft

theorem readPlain_readsOn (c : Char) (left : IsRest whole rest) :
    ReadsOn more (LeavesRest whole) (withMore more) (readPlain c rest)
      (readPlain c (rest ++ more)) := by
  unfold readPlain
  split_ifs
  · exact .failed
  · exact .ok left

/-! ### Sets in brackets -/

theorem readSetEscape_readsOn (goesOn : GoesOn more) (c : Char) (left : IsRest whole rest) :
    ReadsOn more (LeavesRest whole) (withMore more) (readSetEscape c rest)
      (readSetEscape c (rest ++ more)) := by
  unfold readSetEscape
  cases controlCode c with
  | some code => exact .ok left
  | none =>
  dsimp only
  split
  · exact .ok left
  cases categoryOf c with
  | some category => exact .ok left
  | none =>
  refine (readSpelled_readsOn goesOn c left).bind fun spelled isLeft => ?_
  cases spelled with
  | some found => exact .ok (isLeft found rfl)
  | none =>
  dsimp only [Option.map_none]
  split
  · exact (readOctal_readsOn goesOn c left).bind fun _ isLeft => .ok isLeft
  split
  · exact .failed
  · exact (readPlain_readsOn c left).bind fun _ isLeft => .ok isLeft

/-- A member takes at least its first character. -/
theorem readMember_readsOn (goesOn : GoesOn more) {c : Sign}
    (closed : endsInEscape (c :: rest) = false) :
    ReadsOn more (LeavesRest rest) (withMore more) (readMember (c :: rest))
      (readMember (c :: rest ++ more)) := by
  by_cases escape : c = .char '\\'
  · subst escape
    cases rest with
    | nil => cases closed
    | cons d rest =>
        have isLeft : IsRest (d :: rest) rest := ⟨List.suffix_cons d rest, closed⟩
        cases d with
        | char d => exact past_readsOn isLeft (readSetEscape_readsOn goesOn d isLeft)
        | surrogate offset => exact past_readsOn isLeft (.ok isLeft)
  · have single (after : List Sign) : readMember (c :: after) =
        past after >>= fun after => return (.code c.toNat, after) := by
      rw [readMember]
      · exact fun d later same => absurd same escape
      · exact fun d later same => absurd same escape
    rw [single, List.cons_append, single]
    have isLeft : IsRest rest rest := ⟨List.suffix_rfl, by simpa [escape] using closed⟩
    exact past_readsOn isLeft (.ok isLeft)

/-- A text without a closing bracket closes no set. -/
theorem readItems_unclosed {text : List Sign} (unclosed : .char ']' ∉ whole)
    (inside : text <:+ whole) (start : List Sign) (fuel : Nat) (items : List SetItem) :
    Gives (Refusal.IsDueTo whole) (fun _ => False) (readItems start fuel items text) := by
  induction fuel generalizing items text with
  | zero => cases text <;> exact faultBefore_gives _ _
  | succ fuel ih =>
      cases text with
      | nil => exact faultBefore_gives _ _
      | cons c rest =>
          have notBracket {c : Sign} {rest : List Sign} (inside : c :: rest <:+ whole) :
              c ≠ .char ']' := by
            rintro rfl
            exact unclosed (inside.subset List.mem_cons_self)
          rw [readItems.eq_def]
          dsimp only
          rw [if_neg fun closes => notBracket inside closes.1]
          refine (readMember_leaves inside).bind ?_
          rintro ⟨low, rest⟩ restInside
          dsimp only
          split
          · refine past_bind ?_
            have afterDash := suffix_of_cons_suffix restInside
            split
            · exact faultBefore_gives _ _
            · exact absurd rfl (notBracket afterDash)
            · refine (readMember_leaves afterDash).bind ?_
              rintro ⟨high, rest⟩ restInside
              dsimp only
              split
              · exact ih restInside _
              · exact faultAt_gives _ _ _
          · exact ih restInside _

/-- A step that never gives anything fails. -/
theorem exists_error_of_gives {α : Type} {allowed : Refusal → Prop} {step : Except Refusal α}
    (gives : Gives allowed (fun _ => False) step) : ∃ refusal, step = .error refusal := by
  cases step with
  | ok a => exact gives.elim
  | error refusal => exact ⟨refusal, rfl⟩

/-- A set that is left open goes together with whatever may close it. -/
theorem readsOn_openSet {α : Type} {good : α → Prop} {turn : α → α} (start : List Sign)
    {long : Except Refusal α}
    (unclosed : .char ']' ∉ more → Gives (Refusal.IsDueTo more) (fun _ => False) long) :
    ReadsOn more good turn (faultBefore start .unterminatedSet) long := by
  by_cases closes : .char ']' ∈ more
  · exact .openSet closes
  · obtain ⟨refusal, rfl⟩ := exists_error_of_gives (unclosed closes)
    exact .failed

/-- What a dash after a member of a set stands for. `onwards` reads the members after it. -/
def readRange (start text : List Sign) (items : List SetItem) (low : SetItem)
    (onwards : List SetItem → List Sign → Except Refusal (List SetItem × List Sign))
    (rest : List Sign) : Except Refusal (List SetItem × List Sign) :=
  match rest with
  | [] => faultBefore start .unterminatedSet
  | .char ']' :: rest => do
      let rest ← past rest
      return (items ++ [low, .code '-'.toNat], rest)
  | _ => do
      let lowSpelling := nextSpelling text
      let highSpelling := nextSpelling rest
      let (high, rest) ← readMember rest
      match rangeOf low high with
      | some range => onwards (items ++ [range]) rest
      | none =>
          faultAt rest (lowSpelling.length + 1 + highSpelling.length)
            (.badRange (Text.ofList lowSpelling) (Text.ofList highSpelling))

theorem readRange_readsOn (goesOn : GoesOn more) (start start' text text' : List Sign)
    (items : List SetItem) (low : SetItem)
    {onwards onwards' : List SetItem → List Sign → Except Refusal (List SetItem × List Sign)}
    (unclosed : .char ']' ∉ more → ∀ (items : List SetItem) {later : List Sign}, later <:+ more →
      Gives (Refusal.IsDueTo more) (fun _ => False) (onwards' items later))
    {inner : List Sign} (inside : inner <:+ whole)
    (same : ∀ {after : List Sign} (items : List SetItem), IsRest inner after →
      ReadsOn more (LeavesRest whole) (withMore more) (onwards items after)
        (onwards' items (after ++ more)))
    (left : IsRest inner rest) :
    ReadsOn more (LeavesRest whole) (withMore more) (readRange start text items low onwards rest)
      (readRange start' text' items low onwards' (rest ++ more)) := by
  rcases rest with _ | ⟨c, rest⟩
  · refine readsOn_openSet start fun isOpen => ?_
    obtain ⟨d, later, rfl, rfl | rfl⟩ := goesOn
    all_goals
      refine (readMember_leaves List.suffix_rfl).bind ?_
      rintro ⟨high, later⟩ inside
      dsimp only
      split
      · exact unclosed isOpen _ inside
      · exact faultAt_gives _ _ _
  by_cases closes : c = .char ']'
  · subst closes
    have isLeft := (left.tail (by decide)).within inside
    exact past_readsOn isLeft (.ok isLeft)
  · unfold readRange
    dsimp only [List.cons_append]
    split
    · contradiction
    · exact absurd (List.cons.inj ‹_ :: _ = _›).1 closes
    split
    · contradiction
    · exact absurd (List.cons.inj ‹_ :: _ = _›).1 closes
    refine (readMember_readsOn goesOn left.closed).bind ?_
    rintro ⟨high, after⟩ isLeft
    dsimp only [withMore]
    split
    · exact same _ (isLeft.within (suffix_of_cons_suffix left.isSuffix))
    · exact .failed

theorem readItems_readsOn (goesOn : GoesOn more) (start start' : List Sign) {fuel fuel' : Nat}
    (enough : rest.length ≤ fuel) (enough' : (rest ++ more).length ≤ fuel') (items : List SetItem)
    (left : IsRest whole rest) :
    ReadsOn more (LeavesRest whole) (withMore more) (readItems start fuel items rest)
      (readItems start' fuel' items (rest ++ more)) := by
  induction fuel generalizing rest items fuel' with
  | zero =>
      obtain rfl := List.length_eq_zero_iff.mp (Nat.le_zero.mp enough)
      exact readsOn_openSet start fun unclosed =>
        readItems_unclosed unclosed List.suffix_rfl start' fuel' items
  | succ fuel ih =>
      cases rest with
      | nil =>
          exact readsOn_openSet start fun unclosed =>
            readItems_unclosed unclosed List.suffix_rfl start' _ items
      | cons c rest =>
          obtain ⟨fuel', rfl⟩ : ∃ n, fuel' = n + 1 :=
            Nat.exists_eq_succ_of_ne_zero (by rintro rfl; simp at enough')
          have shorter : rest.length ≤ fuel := Nat.le_of_succ_le_succ enough
          have shorter' : (rest ++ more).length ≤ fuel' := Nat.le_of_succ_le_succ enough'
          have inside : rest <:+ whole := suffix_of_cons_suffix left.isSuffix
          have onwards {after : List Sign} (items : List SetItem) (isLeft : IsRest rest after) :
              ReadsOn more (LeavesRest whole) (withMore more) (readItems start fuel items after)
                (readItems start' fuel' items (after ++ more)) := by
            have bound := isLeft.isSuffix.length_le
            refine ih (bound.trans shorter) ?_ items (isLeft.within inside)
            rw [List.length_append] at shorter' ⊢
            omega
          rw [readItems.eq_def, readItems.eq_def]
          dsimp only [List.cons_append]
          split
          · rename_i closes
            have isLeft := left.tail (by rw [closes.1]; decide)
            exact past_readsOn isLeft (.ok isLeft)
          refine (readMember_readsOn goesOn left.closed).bind ?_
          rintro ⟨low, after⟩ isLeft
          dsimp only [withMore]
          have single := onwards (items ++ [low]) isLeft
          rcases after with _ | ⟨d, after⟩
          · obtain ⟨e, later, rfl, rfl | rfl⟩ := goesOn <;> exact single
          by_cases dash : d = .char '-'
          · subst dash
            have afterDash := isLeft.tail (by decide)
            have unclosed (isOpen : .char ']' ∉ more) (items : List SetItem) {later : List Sign}
                (inside : later <:+ more) :
                Gives (Refusal.IsDueTo more) (fun _ => False)
                  (readItems start' fuel' items later) :=
              readItems_unclosed isOpen inside start' fuel' items
            exact past_readsOn afterDash (readRange_readsOn goesOn start start' (c :: rest)
              (c :: (rest ++ more)) items low unclosed inside onwards afterDash)
          · dsimp only [List.cons_append]
            split
            · exact absurd (List.cons.inj ‹_ :: _ = _›).1 dash
            split
            · exact absurd (List.cons.inj ‹_ :: _ = _›).1 dash
            exact single

theorem readSet_readsOn (goesOn : GoesOn more) (start start' : List Sign)
    (left : IsRest whole rest) :
    ReadsOn more (LeavesRest whole) (withMore more) (readSet start rest)
      (readSet start' (rest ++ more)) := by
  have items {rest : List Sign} (negated : Bool) (left : IsRest whole rest) :
      ReadsOn more (LeavesRest whole) (withMore more)
        (readItems start rest.length [] rest >>= fun found =>
          return (CharTest.ofItems found.1 negated, found.2))
        (readItems start' (rest ++ more).length [] (rest ++ more) >>= fun found =>
          return (CharTest.ofItems found.1 negated, found.2)) :=
    (readItems_readsOn goesOn start start' le_rfl le_rfl [] left).bind fun _ isLeft => .ok isLeft
  refine past_readsOn left ?_
  rcases rest with _ | ⟨c, rest⟩
  · obtain ⟨d, later, rfl, rfl | rfl⟩ := goesOn <;> exact items false left
  by_cases negated : c = .char '^'
  · subst negated
    have isLeft := left.tail (by decide)
    exact past_readsOn isLeft (items true isLeft)
  · dsimp only [List.cons_append]
    split
    · exact absurd (List.cons.inj ‹_ :: _ = _›).1 negated
    split
    · exact absurd (List.cons.inj ‹_ :: _ = _›).1 negated
    exact items false left

/-! ### Repetitions -/

/-- Two counts leave a rest of the text. -/
def LeavesRestOfCounts (whole : List Sign)
    (found : Option ((List Char × List Char) × List Sign)) : Prop :=
  ∀ counts, found = some counts → LeavesRest whole counts

theorem takeCount_readsOn (goesOn : GoesOn more) (left : IsRest whole rest) :
    ReadsOn more (LeavesRest whole) (withMore more) (takeUpTo Char.isDigit rest.length rest)
      (takeUpTo Char.isDigit (rest ++ more).length (rest ++ more)) := by
  refine takeUpTo_readsOn goesOn (by decide) (by decide) (.inr ⟨le_rfl, ?_⟩) left
  rw [List.length_append]
  exact Nat.le_add_right _ _

/-- What follows two counts. -/
def closeCounts (counts : List Char × List Char) :
    List Sign → Except Refusal (Option ((List Char × List Char) × List Sign))
  | .char '\x7d' :: rest => do
      let rest ← past rest
      return some (counts, rest)
  | _ => return none

/-- Two counts, where the brace is not closed at once. -/
def openCounts (text : List Sign) :
    Except Refusal (Option ((List Char × List Char) × List Sign)) := do
  let (least, rest) ← takeUpTo Char.isDigit text.length text
  let (most, rest) ← match rest with
    | .char ',' :: rest => do
        let rest ← past rest
        takeUpTo Char.isDigit rest.length rest
    | _ => pure (least, rest)
  closeCounts (least, most) rest

theorem readCounts_eq_openCounts {text : List Sign} (isOpen : ∀ rest, text ≠ .char '\x7d' :: rest) :
    readCounts text = openCounts text := by
  unfold readCounts
  split
  · exact absurd rfl (isOpen _)
  · rfl

theorem closeCounts_readsOn (goesOn : GoesOn more) (counts : List Char × List Char)
    (left : IsRest whole rest) :
    ReadsOn more (LeavesRestOfCounts whole) (Option.map (withMore more)) (closeCounts counts rest)
      (closeCounts counts (rest ++ more)) := by
  have none : ReadsOn more (LeavesRestOfCounts whole) (Option.map (withMore more))
      (.ok none) (.ok none) := .ok fun _ => nofun
  rcases rest with _ | ⟨c, rest⟩
  · obtain ⟨d, later, rfl, rfl | rfl⟩ := goesOn <;> exact none
  by_cases closes : c = .char '\x7d'
  · subst closes
    have isLeft := left.tail (by decide)
    exact past_readsOn isLeft (.ok fun _ same => Option.some.inj same ▸ isLeft)
  · have isOther (rest : List Sign) : closeCounts counts (c :: rest) = .ok Option.none := by
      unfold closeCounts
      split
      · exact absurd (List.cons.inj ‹_ :: _ = _›).1 closes
      · rfl
    rw [List.cons_append, isOther, isOther]
    exact none

theorem openCounts_readsOn (goesOn : GoesOn more) (left : IsRest whole rest) :
    ReadsOn more (LeavesRestOfCounts whole) (Option.map (withMore more)) (openCounts rest)
      (openCounts (rest ++ more)) := by
  refine (takeCount_readsOn goesOn left).bind ?_
  rintro ⟨least, after⟩ isLeft
  dsimp only [withMore]
  have single := closeCounts_readsOn goesOn (least, least) isLeft
  rcases after with _ | ⟨c, after⟩
  · obtain ⟨d, later, rfl, rfl | rfl⟩ := goesOn <;> exact single
  by_cases two : c = .char ','
  · subst two
    have isLeft := IsRest.tail isLeft (by decide)
    refine past_readsOn isLeft ((takeCount_readsOn goesOn isLeft).bind ?_)
    exact fun found isLeft => closeCounts_readsOn goesOn (least, found.1) isLeft
  · rw [List.cons_append]
    split
    · exact absurd (List.cons.inj ‹_ :: _ = _›).1 two
    split
    · exact absurd (List.cons.inj ‹_ :: _ = _›).1 two
    exact single

theorem readCounts_readsOn (goesOn : GoesOn more) (left : IsRest whole rest) :
    ReadsOn more (LeavesRestOfCounts whole) (Option.map (withMore more)) (readCounts rest)
      (readCounts (rest ++ more)) := by
  by_cases closed : ∃ after, rest = .char '\x7d' :: after
  · obtain ⟨after, rfl⟩ := closed
    exact .ok fun _ => nofun
  have isOpen (after : List Sign) : rest ++ more ≠ .char '\x7d' :: after := by
    rcases rest with _ | ⟨c, rest⟩
    · obtain ⟨d, later, rfl, rfl | rfl⟩ := goesOn <;> simp
    · rintro same
      exact closed ⟨rest, by rw [(List.cons.inj same).1]⟩
  rw [readCounts_eq_openCounts (not_exists.mp closed), readCounts_eq_openCounts isOpen]
  exact openCounts_readsOn goesOn left

/-- The bounds with a count that has been read as the lower one. -/
def boundsFrom (inside : List Sign) (most : List Char) (lower : Nat) : Except Refusal Bounds := do
  if most.isEmpty then return ⟨lower, none⟩
  let upper ← readCount most
  if upper < lower then faultBefore inside .leastAboveMost
  return ⟨lower, some upper⟩

/-- The bounds of a repetition do not depend on the text after it. -/
theorem boundsOf_readsOn (inside inside' : List Sign) (least most : List Char) :
    ReadsOn more (fun _ => True) id (boundsOf inside least most) (boundsOf inside' least most) := by
  have count (digits : List Char) :
      ReadsOn more (fun _ => True) id (readCount digits) (readCount digits) := by
    cases readCount digits with
    | ok count => exact .ok trivial
    | error refusal => exact .failed
  have upper (lower : Nat) : ReadsOn more (fun _ => True) id (boundsFrom inside most lower)
      (boundsFrom inside' most lower) := by
    unfold boundsFrom
    split
    · exact .ok trivial
    refine (count most).bind fun upper _ => ?_
    dsimp only [id]
    split
    · exact .failed
    · exact .ok trivial
  unfold boundsOf
  dsimp only
  split
  · exact upper 0
  · exact (count least).bind fun lower _ => upper lower

end Steps

end BundleEmbed.Regex
