import BundleEmbed.Classification
import BundleEmbed.Proofs.Reader

/-!
What a clause selects.

`Clause.select` asks filter after filter, each about the dependencies that the one before
it has left, and may be refused on the way. `Clause.accepts` is the same question put to
one dependency at a time: its pattern accepts the name of the artifact, and each attribute
but `inline` accepts what the dependency has under its key.

* `Clause.eq_of_select_ok`: a clause that is not refused selects exactly the candidates it
  accepts, in their order, and its inline flag is that of its `inline` attribute.
-/

namespace BundleEmbed

open Regex (Release)

/-! ### Accepting one dependency -/

/-- What a dependency has under the key of an attribute, with the reading of what it does
not have. Under any other key it has nothing. -/
def Dependency.reading (d : Dependency) (key : Text) : Option Text :=
  if key = "groupId" then some d.groupId
  else if key = "artifactId" then some d.artifactId
  else if key = "version" then
    match d.selectedVersion with
    | some selected => if selected = "" then some d.version else some selected
    | none => some d.version
  else if key = "scope" then some (d.scope.getD "compile")
  else if key = "type" then some (d.type.getD "jar")
  else if key = "classifier" then some (d.classifier.getD "")
  else if key = "optional" then some (if d.isOptional = some true then "true" else "false")
  else none

/-- The expression can be read as a pattern, which accepts the text. -/
def patternAccepts [Release] (expression text : Text) : Bool :=
  ((Pattern.read expression).toOption.bind fun pattern =>
    (pattern.accepts text).toOption).getD false

/-- An attribute of a clause accepts a dependency. The one that asks for inlining accepts
all of them. -/
def Dependency.passes [Release] (d : Dependency) (entry : Text × Text) : Bool :=
  entry.1 = inlineKey || (d.reading entry.1).any (patternAccepts entry.2)

/-- A clause accepts a dependency. -/
def Clause.accepts [Release] (clause : Clause) (d : Dependency) : Bool :=
  patternAccepts clause.pattern d.artifactId && clause.attributes.all d.passes

/-- A clause asks for inlining. Of several `inline` attributes the last one counts. -/
def Clause.asksInline (clause : Clause) : Bool :=
  isSet (clause.attributes.reverse.lookup inlineKey)

/-- A clause inlines a dependency. -/
def Clause.inlines [Release] (clause : Clause) (d : Dependency) : Bool :=
  clause.asksInline && clause.accepts d

/-- A clause embeds a dependency. -/
def Clause.embeds [Release] (clause : Clause) (d : Dependency) : Bool :=
  !clause.asksInline && clause.accepts d

/-! ### The table of attributes -/

/-- An attribute reads what stands under its key. -/
theorem Attribute.reading_key (d : Dependency) (a : Attribute) :
    d.reading a.key = some (a.value d) := by
  cases a with
  | version =>
      cases selected : d.selectedVersion with
      | none => simp [Dependency.reading, key, value, value?, Dependency.nonempty, selected]
      | some text =>
          by_cases isEmpty : text = "" <;>
            simp [Dependency.reading, key, value, value?, Dependency.nonempty, Option.filter,
              selected, isEmpty]
  | optional =>
      cases flag : d.isOptional with
      | none => simp [Dependency.reading, key, value, value?, absent, flag]
      | some isOptional =>
          cases isOptional <;> simp [Dependency.reading, key, value, value?, flag]
  | _ => rfl

/-- The attribute that a key names reads what stands under the key. -/
theorem Attribute.reading_of_ofKey? {key : Text} {a : Attribute}
    (named : Attribute.ofKey? key = some a) (d : Dependency) :
    d.reading key = some (a.value d) := by
  have same : a.key = key := by simpa using List.find?_some named
  rw [← same, Attribute.reading_key]

/-! ### Filters -/

/-- A filter that gives an answer for a dependency accepts it as its expression does. -/
theorem Filter.accepts_eq [Release] {filter : Filter} {subject : Attribute}
    {expression : Text}
    (built : Filter.ofAttribute subject expression = .ok filter) (d : Dependency) :
    (filter.accepts d).toOption.getD false = patternAccepts expression (subject.value d) := by
  unfold Filter.ofAttribute at built
  split at built
  · rename_i pattern isRead
    cases built
    simp only [Filter.accepts, patternAccepts, isRead]
    cases answer : pattern.accepts (subject.value d) <;>
      simp [Except.mapError, Except.toOption, answer]
  · cases built

/-- The dependencies that a filter leaves are those it accepts, in their order. -/
theorem Filter.eq_of_select_ok [Release] {filter : Filter} {dependencies left : List Dependency}
    (selected : filter.select dependencies = .ok left) :
    left = dependencies.filter fun d => (filter.accepts d).toOption.getD false := by
  induction dependencies generalizing left with
  | nil => cases selected; rfl
  | cons d dependencies ih =>
      simp only [Filter.select, bind_eq_ok_iff, pure_eq_ok_iff] at selected
      obtain ⟨accepted, asked, others, selectedOthers, rfl⟩ := selected
      rw [ih selectedOthers, List.filter_cons, asked]
      rfl

/-- A filter that is read from an entry of a clause leaves the dependencies that pass the
entry. -/
theorem Filter.eq_of_read_select_ok [Release] {filter : Filter} {key text : Text}
    {dependencies left : List Dependency} (isRead : Filter.read key text = .ok filter)
    (selected : filter.select dependencies = .ok left) :
    left = dependencies.filter fun d => (d.reading key).any (patternAccepts text) := by
  unfold Filter.read at isRead
  split at isRead
  · rename_i subject named
    rw [Filter.eq_of_select_ok selected]
    congr 1
    funext d
    rw [Filter.accepts_eq isRead, Attribute.reading_of_ofKey? named]
    rfl
  · cases isRead

/-! ### Clauses -/

/-- What one attribute does to a selection. -/
theorem Selection.eq_of_narrow_ok [Release] {selection next : Selection}
    {entry : Text × Text} (narrowed : selection.narrow entry = .ok next) :
    next.dependencies = selection.dependencies.filter (·.passes entry) ∧
      next.inline = if entry.1 = inlineKey then isTrueText entry.2 else selection.inline := by
  obtain ⟨key, text⟩ := entry
  unfold Selection.narrow at narrowed
  by_cases isInline : key = inlineKey
  · simp only [isInline, if_true, Except.ok.injEq] at narrowed
    subst narrowed
    simp [Dependency.passes, isInline]
  · simp only [if_neg isInline, bind_eq_ok_iff, pure_eq_ok_iff] at narrowed
    obtain ⟨filter, isRead, left, selected, rfl⟩ := narrowed
    refine ⟨?_, by simp [isInline]⟩
    simp [Dependency.passes, isInline, Filter.eq_of_read_select_ok isRead selected]

/-- What all attributes of a clause do to a selection. -/
theorem Selection.eq_of_foldlM_narrow_ok [Release] {entries : List (Text × Text)}
    {selection last : Selection} (narrowed : entries.foldlM Selection.narrow selection = .ok last) :
    last.dependencies = (selection.dependencies.filter fun d => entries.all d.passes) ∧
      last.inline = ((entries.reverse.lookup inlineKey).map isTrueText).getD selection.inline := by
  induction entries generalizing selection with
  | nil =>
      rw [List.foldlM_nil, pure_eq_ok_iff] at narrowed
      subst narrowed
      simp
  | cons entry entries ih =>
      rw [List.foldlM_cons, bind_eq_ok_iff] at narrowed
      obtain ⟨next, first, later⟩ := narrowed
      obtain ⟨leftFirst, inlineFirst⟩ := Selection.eq_of_narrow_ok first
      obtain ⟨leftLater, inlineLater⟩ := ih later
      constructor
      · rw [leftLater, leftFirst, List.filter_filter]
        congr 1
        funext d
        rw [List.all_cons, Bool.and_comm]
      · rw [inlineLater, inlineFirst, List.reverse_cons, List.lookup_append]
        obtain ⟨key, text⟩ := entry
        cases entries.reverse.lookup inlineKey with
        | some text => rfl
        | none =>
            by_cases isInline : key = inlineKey
            · simp [isInline]
            · have differ : (inlineKey == key) = false := beq_false_of_ne (Ne.symm isInline)
              simp [List.lookup_cons, isInline, differ]

/-- A clause that is not refused selects the candidates it accepts. -/
theorem Clause.eq_of_select_ok [Release] {clause : Clause} {candidates : List Dependency}
    {selection : Selection} (selected : clause.select candidates = .ok selection) :
    selection = ⟨candidates.filter clause.accepts, clause.asksInline⟩ := by
  simp only [Clause.select, bind_eq_ok_iff] at selected
  obtain ⟨filter, built, named, selectedNamed, narrowed⟩ := selected
  obtain ⟨left, inline⟩ := Selection.eq_of_foldlM_narrow_ok narrowed
  have leftNamed : named =
      candidates.filter fun d => patternAccepts clause.pattern d.artifactId := by
    rw [Filter.eq_of_select_ok selectedNamed]
    congr 1
    funext d
    exact Filter.accepts_eq built d
  obtain ⟨dependencies, flag⟩ := selection
  simp only at left inline
  rw [left, inline, leftNamed, List.filter_filter, Selection.mk.injEq]
  constructor
  · congr 1
    funext d
    rw [Clause.accepts, Bool.and_comm]
  · unfold Clause.asksInline isSet
    cases clause.attributes.reverse.lookup inlineKey <;> rfl

end BundleEmbed
