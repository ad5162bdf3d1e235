import BundleEmbed.Proofs.Composition
import BundleEmbed.Proofs.Reordering

/-!
Runs over dependencies that differ only in whether the build names them itself.

Where dependencies of dependencies are candidates as well, the flag selects nothing, and no
attribute reads it. But dependencies are the same only when their flags are, so an artifact
that is there both ways is classified and placed twice.

* `Alike`: two lists have the same dependencies at the same first places, whatever the flags
  are. What a pass does keeps lists alike (`Alike.selected`, `Alike.filter`, `Alike.sort`), and
  what is read of them is the same up to repetitions (`Alike.insertAll_filterMap`).
* `process_unflagged`: runs over dependencies that differ in the flag fail alike, or add the
  same entries to the headers up to repetitions, and exactly the same where no artifact is
  there both ways.
* `not_same_headers_of_both_ways`: one artifact that is there both ways is enough for other
  headers.
-/

namespace BundleEmbed

open Regex (Release)

/-! ### First places of what a function gives -/

namespace OrderedSet

variable {α β : Type} [DecidableEq α] [DecidableEq β]

/-- What a function gives for the members of a set is put in alike, whether members that are
repeated come once or again. -/
theorem insertAll_filterMap_insertAll (s : OrderedSet β) (t : OrderedSet α) (members : List α)
    (f : α → Option β) :
    s.insertAll ((t.insertAll members).toList.filterMap f) =
      (s.insertAll (t.toList.filterMap f)).insertAll (members.filterMap f) := by
  induction members generalizing t with
  | nil => rfl
  | cons a members ih =>
      have one : s.insertAll ((t.insert a).toList.filterMap f) =
          (s.insertAll (t.toList.filterMap f)).insertAll ([a].filterMap f) := by
        rw [toList_insert]
        split
        · rename_i known
          -- what `a` gives has been put in with the other members
          refine (insertAll_of_subset fun b given => ?_).symm
          obtain ⟨a', isOne, gives⟩ := List.mem_filterMap.mp given
          rw [List.mem_singleton.mp isOne] at gives
          exact mem_insertAll.mpr (.inr (List.mem_filterMap.mpr ⟨a, known, gives⟩))
        · rw [List.filterMap_append, insertAll_append]
      rw [insertAll_cons, ih, one, ← insertAll_append, ← List.filterMap_append]
      rfl

/-- Lists with the same first places give the same members. -/
theorem insertAll_filterMap_congr {first second : List α} (same : ofList first = ofList second)
    (s : OrderedSet β) (f : α → Option β) :
    s.insertAll (first.filterMap f) = s.insertAll (second.filterMap f) := by
  have once : ∀ list, s.insertAll ((ofList list).toList.filterMap f) =
      s.insertAll (list.filterMap f) := fun list =>
    insertAll_filterMap_insertAll s empty list f
  rw [← once first, same, once second]

/-- Members that are new and all different are put in as they are. -/
theorem toList_insertAll_of_nodup {s : OrderedSet α} {members : List α}
    (nodup : (s.toList ++ members).Nodup) :
    (s.insertAll members).toList = s.toList ++ members := by
  induction members generalizing s with
  | nil => simp
  | cons a members ih =>
      have fresh : a ∉ s := fun known =>
        (List.nodup_middle.mp nodup).notMem (List.mem_append_left _ known)
      have inserted : (s.insert a).toList = s.toList ++ [a] := by
        rw [toList_insert, if_neg fresh]
      rw [insertAll_cons, ih (by rw [inserted]; simpa using nodup), inserted]
      simp

/-- The first answer over a list does not depend on repetitions. -/
theorem findSome?_toList_insertAll {γ : Type} (s : OrderedSet α) (members : List α)
    (f : α → Option γ) :
    (s.insertAll members).toList.findSome? f =
      (s.toList.findSome? f).or (members.findSome? f) := by
  induction members generalizing s with
  | nil => simp
  | cons a members ih =>
      have one : (s.insert a).toList.findSome? f = (s.toList.findSome? f).or (f a) := by
        rw [toList_insert]
        split
        · rename_i known
          cases answer : s.toList.findSome? f with
          | some b => rfl
          | none => exact (List.findSome?_eq_none_iff.mp answer a known).symm
        · rw [List.findSome?_append]
          simp
      rw [insertAll_cons, ih, one, Option.or_assoc, List.findSome?_cons]
      cases f a <;> rfl

end OrderedSet

/-! ### Dependencies without their flag -/

namespace Dependency

/-- The dependency as if the build named it itself. -/
def unflagged (d : Dependency) : Dependency := { d with direct := true }

/-- Something that is read of a dependency is not settled by its flag. -/
def IgnoresFlag {α : Type} (f : Dependency → α) : Prop := ∀ d : Dependency, f d.unflagged = f d

end Dependency

open Dependency (IgnoresFlag unflagged)

section Reading

variable (files : FileTree) (settings : Settings) (entry : Text × Text) (clause : Clause)

theorem ignoresFlag_passes [Release] : IgnoresFlag (Dependency.passes · entry) := fun _ => rfl

theorem ignoresFlag_inlines [Release] : IgnoresFlag clause.inlines := fun _ => rfl

theorem ignoresFlag_embeds [Release] : IgnoresFlag clause.embeds := fun _ => rfl

theorem ignoresFlag_fileFailure? : IgnoresFlag (fileFailure? files) := fun _ => rfl

theorem ignoresFlag_inlinedResource? : IgnoresFlag (inlinedResource? files) := fun _ => rfl

theorem ignoresFlag_embeddedResource? : IgnoresFlag (embeddedResource? files settings) :=
  fun _ => rfl

theorem ignoresFlag_target? : IgnoresFlag (target? files settings) := fun _ => rfl

end Reading

namespace Dependency.IgnoresFlag

variable {dependencies : List Dependency}

/-- A test that does not see the flag selects alike with and without it. -/
theorem filter_map {p : Dependency → Bool} (ignores : IgnoresFlag p) :
    (dependencies.map unflagged).filter p = (dependencies.filter p).map unflagged := by
  have same : p ∘ unflagged = p := funext ignores
  rw [List.filter_map, same]

/-- What does not see the flag gives the same with and without it. -/
theorem filterMap_map {α : Type} {f : Dependency → Option α} (ignores : IgnoresFlag f) :
    (dependencies.map unflagged).filterMap f = dependencies.filterMap f := by
  have same : f ∘ unflagged = f := funext ignores
  rw [List.filterMap_map, same]

/-- The first answer of what does not see the flag is the same with and without it. -/
theorem findSome?_map {α : Type} {f : Dependency → Option α} (ignores : IgnoresFlag f) :
    (dependencies.map unflagged).findSome? f = dependencies.findSome? f := by
  have same : f ∘ unflagged = f := funext ignores
  rw [List.findSome?_map, same]

end Dependency.IgnoresFlag

/-! ### Lists that differ in flags and repetitions -/

/-- Without their flags, two lists have the same dependencies at the same first places. -/
def Alike (first second : List Dependency) : Prop :=
  OrderedSet.ofList (first.map unflagged) = OrderedSet.ofList (second.map unflagged)

namespace Alike

variable {first second : List Dependency}

/-- Putting a list in a set keeps the first places in it. -/
theorem ofList_toList_insertAll (list : List Dependency) :
    OrderedSet.ofList ((OrderedSet.ofList list).toList.map unflagged) =
      OrderedSet.ofList (list.map unflagged) := by
  have once := OrderedSet.insertAll_filterMap_insertAll (.empty : OrderedSet Dependency) .empty
    list (some ∘ unflagged)
  rw [List.filterMap_eq_map] at once
  exact once

theorem distinct (alike : Alike first second) :
    Alike (Dependency.distinct first) (Dependency.distinct second) := by
  rw [Alike, Dependency.distinct, Dependency.distinct, ofList_toList_insertAll,
    ofList_toList_insertAll]
  exact alike

/-- What is read of alike lists is the same up to repetitions. -/
theorem insertAll_filterMap (alike : Alike first second) {α : Type} [DecidableEq α]
    (s : OrderedSet α) {f : Dependency → Option α} (ignores : IgnoresFlag f) :
    s.insertAll (first.filterMap f) = s.insertAll (second.filterMap f) := by
  have unflag := OrderedSet.insertAll_filterMap_congr alike s f
  rwa [ignores.filterMap_map, ignores.filterMap_map] at unflag

/-- The first answer over alike lists is the same. -/
theorem findSome?_eq (alike : Alike first second) {α : Type} {f : Dependency → Option α}
    (ignores : IgnoresFlag f) : first.findSome? f = second.findSome? f := by
  have once : ∀ list : List Dependency,
      (OrderedSet.ofList (list.map unflagged)).toList.findSome? f = list.findSome? f := by
    intro list
    rw [OrderedSet.ofList, OrderedSet.findSome?_toList_insertAll, ignores.findSome?_map]
    rfl
  rw [← once first, alike, once second]

theorem filter (alike : Alike first second) {p : Dependency → Bool} (ignores : IgnoresFlag p) :
    Alike (first.filter p) (second.filter p) := by
  have seen : ∀ list : List Dependency, OrderedSet.ofList ((list.filter p).map unflagged) =
      (OrderedSet.ofList (list.map unflagged)).filter p := fun list => by
    rw [← ignores.filter_map]
    exact (OrderedSet.filter_insertAll .empty _ p).symm
  rw [Alike, seen, seen, alike]

theorem append {first' second' : List Dependency} (alike : Alike first second)
    (alike' : Alike first' second') : Alike (first ++ first') (second ++ second') := by
  have split : ∀ list list' : List Dependency,
      OrderedSet.ofList ((list ++ list').map unflagged) =
        (OrderedSet.ofList (list.map unflagged)).insertAll (list'.map unflagged) :=
    fun list list' => by rw [List.map_append]; exact OrderedSet.insertAll_append _ _ _
  have later := OrderedSet.insertAll_filterMap_congr alike'
    (OrderedSet.ofList (second.map unflagged)) some
  rw [Alike, split, split, alike]
  simpa only [List.filterMap_some] using later

/-- What clauses select of alike lists, clause after clause. -/
theorem selected (alike : Alike first second) {holds : Clause → Dependency → Bool}
    (ignores : ∀ clause, IgnoresFlag (holds clause)) (clauses : List Clause) :
    Alike (clauses.flatMap fun clause => first.filter (holds clause))
      (clauses.flatMap fun clause => second.filter (holds clause)) := by
  induction clauses with
  | nil => rfl
  | cons clause clauses ih => exact (alike.filter (ignores clause)).append ih

/-- The set of a list names what the list names. -/
theorem toList_ofList (alike : Alike first second) :
    Alike (OrderedSet.ofList first).toList (OrderedSet.ofList second).toList :=
  alike.distinct

/-- A list in the order of the keys names its dependencies in this order. -/
theorem ordered_ofList {list : List Dependency}
    (ordered : list.Pairwise fun a b => a.sortKey ≤ b.sortKey) :
    (OrderedSet.ofList (list.map unflagged)).toList.Pairwise
      fun a b => a.sortKey ≤ b.sortKey := by
  have orderedMap : (list.map unflagged).Pairwise fun a b => a.sortKey ≤ b.sortKey :=
    List.pairwise_map.mpr ordered
  have listing := OrderedSet.toList_ofList (list.map unflagged)
  exact listing.ordered.imp_of_mem fun _ inB before =>
    ordered_of_firstIn orderedMap ((listing.mem_iff _).mp inB) before

/-- Of alike lists that are sorted, those that satisfy a test are named alike, if sorting keeps
them in their order. -/
theorem filter_sort (alike : Alike first second) {p : Dependency → Bool} (ignores : IgnoresFlag p)
    (stable : ∀ list, (Dependency.sort list).filter p = list.filter p) :
    (OrderedSet.ofList ((Dependency.sort first).map unflagged)).toList.filter p =
      (OrderedSet.ofList ((Dependency.sort second).map unflagged)).toList.filter p := by
  have tied : ∀ list : List Dependency,
      (OrderedSet.ofList ((Dependency.sort list).map unflagged)).filter p =
        OrderedSet.ofList ((list.filter p).map unflagged) := fun list => by
    rw [← stable list, ← ignores.filter_map]
    exact OrderedSet.filter_insertAll .empty _ p
  exact congrArg OrderedSet.toList
    ((tied first).trans ((alike.filter ignores).trans (tied second).symm))

theorem sort (alike : Alike first second) :
    Alike (Dependency.sort first) (Dependency.sort second) :=
  OrderedSet.ext (eq_of_ordered_of_filter_eq
    (ordered_ofList (Dependency.sort_isStable first).ordered)
    (ordered_ofList (Dependency.sort_isStable second).ordered)
    fun k => alike.filter_sort (fun _ => rfl) fun list => (Dependency.sort_isStable list).stable k)

end Alike

/-! ### Passes -/

/-- Questions about dependencies have the same faults without the flags. -/
theorem findSome?_questionsOf_map [Release] (entries : List (Text × Text))
    (asked : List Dependency) :
    (questionsOf entries (asked.map unflagged)).findSome? Question.fault? =
      (questionsOf entries asked).findSome? Question.fault? := by
  induction entries generalizing asked with
  | nil => rfl
  | cons entry entries ih =>
      have crossing : (asked.map unflagged).any (·.crosses entry) =
          asked.any (·.crosses entry) := List.any_map
      rw [questionsOf, questionsOf, List.findSome?_cons, List.findSome?_cons,
        (ignoresFlag_passes entry).filter_map, ih, Question.fault?, Question.fault?]
      simp only [crossing]

namespace Alike

variable [Release] {first second : List Dependency} {settings : Settings}

/-- A pass over alike candidates fails alike. -/
theorem failure_run (alike : Alike first second) (clauses : List Clause) (c c' : Classification) :
    (Pass.run first clauses c).failure = (Pass.run second clauses c').failure := by
  have unflag : ∀ (list : List Dependency) (c : Classification),
      (Pass.run list clauses c).failure = (Pass.run (list.map unflagged) clauses c').failure := by
    intro list c
    rw [Pass.failure_run_eq_findSome?, Pass.failure_run_eq_findSome?]
    induction clauses with
    | nil => rfl
    | cons clause clauses ih =>
        rw [List.flatMap_cons, List.flatMap_cons, List.findSome?_append, List.findSome?_append, ih,
          Clause.questions, Clause.questions, findSome?_questionsOf_map]
  have sameMembers : ∀ d, d ∈ first.map unflagged ↔ d ∈ second.map unflagged := fun d => by
    have once : ∀ list : List Dependency, d ∈ OrderedSet.ofList list ↔ d ∈ list :=
      fun _ => Dependency.mem_distinct
    rw [← once, alike, once]
  rw [unflag first, unflag second]
  exact Pass.failure_run_congr sameMembers clauses c' c'

/-- What is taken out of what clauses embed is what one of them inlines. -/
theorem toList_preferInlined_embedded (candidates : List Dependency) (clauses : List Clause) :
    let added := Classification.empty.addAll candidates clauses
    added.preferInlined.embedded.toList =
      added.embedded.toList.filter fun d => !clauses.any (·.inlines d) := by
  intro added
  refine List.filter_congr fun d embedded => ?_
  have isCandidate : d ∈ candidates :=
    ((Classification.mem_addAll_embedded.mp embedded).resolve_left List.not_mem_nil).1
  have isInlined : d ∈ added.inlined ↔ clauses.any (·.inlines d) = true := by
    rw [Classification.mem_addAll_inlined, List.any_eq_true]
    simp [Classification.not_mem_empty, isCandidate]
  rw [Bool.eq_iff_iff, decide_eq_true_iff, isInlined]
  simp

/-- What clauses classify of alike candidates is alike. -/
theorem classified (alike : Alike first second) (clauses : List Clause) :
    let left := (Classification.empty.addAll first clauses).preferInlined
    let left' := (Classification.empty.addAll second clauses).preferInlined
    Alike left.inlined.toList left'.inlined.toList ∧
      Alike left.embedded.toList left'.embedded.toList := by
  intro left left'
  have inlinedByNone : IgnoresFlag fun d => !clauses.any (·.inlines d) := fun _ => rfl
  constructor
  · simp only [left, left', Classification.preferInlined, Classification.addAll_eq]
    exact (alike.selected (ignoresFlag_inlines ·) clauses).toList_ofList
  · simp only [left, left', toList_preferInlined_embedded]
    refine Alike.filter ?_ inlinedByNone
    simp only [Classification.addAll_eq]
    exact (alike.selected (ignoresFlag_embeds ·) clauses).toList_ofList

/-- A pass over alike candidates fails alike. -/
theorem failure_pass (alike : Alike (settings.candidates first) (settings.candidates second)) :
    (settings.pass first).failure = (settings.pass second).failure :=
  alike.distinct.failure_run _ _ _

/-- A pass over alike candidates of which no clause is refused lists what is alike. -/
theorem sorted (alike : Alike (settings.candidates first) (settings.candidates second))
    (whole : (settings.pass first).failure = none) :
    let left := (settings.pass first).classification
    let left' := (settings.pass second).classification
    Alike left.sortedInlined left'.sortedInlined ∧
      Alike left.sortedEmbedded left'.sortedEmbedded := by
  intro left left'
  have form : left = _ := Settings.classification_pass whole
  have form' : left' = _ := Settings.classification_pass (alike.failure_pass.symm.trans whole)
  obtain ⟨inlined, embedded⟩ := alike.distinct.classified settings.clauses
  rw [form, form']
  exact ⟨inlined.sort, embedded.sort⟩

end Alike

/-! ### What is added to the headers -/

/-- Alike lists add the same to the headers, up to repetitions. -/
theorem Alike.additions {inlined inlined' embedded embedded' : List Dependency}
    (alikeInlined : Alike inlined inlined') (alikeEmbedded : Alike embedded embedded')
    (files : FileTree) (settings : Settings) :
    let added := Additions.ofPlaced files settings inlined embedded
    let added' := Additions.ofPlaced files settings inlined' embedded'
    OrderedSet.ofList added.targets = OrderedSet.ofList added'.targets ∧
      OrderedSet.ofList added.resources = OrderedSet.ofList added'.resources := by
  refine ⟨alikeEmbedded.insertAll_filterMap .empty (ignoresFlag_target? files settings), ?_⟩
  simp only [Additions.ofPlaced, OrderedSet.ofList, OrderedSet.insertAll_append]
  rw [alikeInlined.insertAll_filterMap .empty (ignoresFlag_inlinedResource? files),
    alikeEmbedded.insertAll_filterMap _ (ignoresFlag_embeddedResource? files settings)]

/-- What is added to the headers is settled without the flags. -/
theorem Additions.ofPlaced_map (files : FileTree) (settings : Settings)
    (inlined embedded : List Dependency) :
    Additions.ofPlaced files settings (inlined.map unflagged) (embedded.map unflagged) =
      Additions.ofPlaced files settings inlined embedded := by
  simp only [Additions.ofPlaced, (ignoresFlag_target? files settings).filterMap_map,
    (ignoresFlag_inlinedResource? files).filterMap_map,
    (ignoresFlag_embeddedResource? files settings).filterMap_map]

/-- No artifact is there both as one that the build names itself and as one that it does
not. -/
def Dependency.OneWay (dependencies : List Dependency) : Prop :=
  ∀ a ∈ dependencies, ∀ b ∈ dependencies, a.unflagged = b.unflagged → a = b

instance (dependencies : List Dependency) : Decidable (Dependency.OneWay dependencies) :=
  inferInstanceAs (Decidable (∀ a ∈ dependencies, ∀ b ∈ dependencies,
    a.unflagged = b.unflagged → a = b))

/-- Alike lists without repetitions are the same without the flags, where no artifact is there
both ways. -/
theorem Alike.map_eq {first second : List Dependency} (alike : Alike first second)
    (nodup : first.Nodup) (nodup' : second.Nodup) (oneWay : Dependency.OneWay first)
    (oneWay' : Dependency.OneWay second) : first.map unflagged = second.map unflagged := by
  have once : ∀ list : List Dependency, list.Nodup → Dependency.OneWay list →
      (OrderedSet.ofList (list.map unflagged)).toList = list.map unflagged :=
    fun list nodup oneWay =>
      OrderedSet.toList_insertAll_of_nodup (nodup.map_on fun a isA b isB => oneWay a isA b isB)
  rw [← once first nodup oneWay, alike, once second nodup' oneWay']

/-! ### Runs -/

/-- Two outcomes differ in repetitions only: both runs return, list the same dependencies at
the same first places, whatever the flags are, and append the same entries to the headers at
the same first places; or both fail with the same fault. -/
inductive SameUpToRepetition (existing : Headers) :
    Except EmbedFault EmbedResult → Except EmbedFault EmbedResult → Prop where
  | returned {result result' : EmbedResult} {added added' : Additions}
      (inlined : Alike result.inlined result'.inlined)
      (embedded : Alike result.embedded result'.embedded)
      (headers : result.headers = existing.extend added)
      (headers' : result'.headers = existing.extend added')
      (sameTargets : OrderedSet.ofList added.targets = OrderedSet.ofList added'.targets)
      (sameResources : OrderedSet.ofList added.resources = OrderedSet.ofList added'.resources) :
      SameUpToRepetition existing (.ok result) (.ok result')
  | failed (fault : EmbedFault) : SameUpToRepetition existing (.error fault) (.error fault)

section Runs

variable [Release] {dependencies dependencies' : List Dependency} {settings : Settings}
  (alike : Alike (settings.candidates dependencies) (settings.candidates dependencies'))

include alike

/-- Runs over alike candidates give the same up to repetitions. -/
theorem embedAll_sameUpToRepetition (files : FileTree) (existing : Headers) :
    SameUpToRepetition existing (embedAll dependencies files settings existing).result
      (embedAll dependencies' files settings existing).result := by
  by_cases noClauses : settings.clauses = []
  · simp only [embedAll, if_pos noClauses]
    have unchanged : existing = existing.extend .nothing := existing.extend_nothing.symm
    exact .returned rfl rfl unchanged unchanged rfl rfl
  cases ended : (settings.pass dependencies).failure with
  | some fault =>
      rw [embedAll_of_refused noClauses ended,
        embedAll_of_refused noClauses (alike.failure_pass.symm.trans ended)]
      exact .failed _
  | none =>
      have ended' := alike.failure_pass.symm.trans ended
      obtain ⟨inlined, embedded⟩ := alike.sorted ended
      have sameFailure := (inlined.append embedded).findSome?_eq (ignoresFlag_fileFailure? files)
      rw [embedAll_result, embedAll_result]
      simp only [Settings.additions, if_neg noClauses, ended, ended', sameFailure]
      split
      · contradiction
      · exact .failed _
      · obtain ⟨targets, resources⟩ := inlined.additions embedded files settings
        exact .returned inlined embedded rfl rfl targets resources

/-- Runs over alike candidates add the same where no artifact is there both ways. -/
theorem additions_eq_of_oneWay (oneWay : Dependency.OneWay dependencies)
    (oneWay' : Dependency.OneWay dependencies') (files : FileTree) :
    settings.additions dependencies files = settings.additions dependencies' files := by
  unfold Settings.additions
  by_cases noClauses : settings.clauses = []
  · rw [if_pos noClauses, if_pos noClauses]
  rw [if_neg noClauses, if_neg noClauses, ← alike.failure_pass]
  cases ended : (settings.pass dependencies).failure with
  | some fault => rfl
  | none =>
      have ended' := alike.failure_pass.symm.trans ended
      obtain ⟨inlined, embedded⟩ := alike.sorted ended
      have oneWayPart : ∀ (dependencies part : List Dependency), Dependency.OneWay dependencies →
          (∀ d ∈ part, d ∈ dependencies) → Dependency.OneWay part :=
        fun _ _ oneWay isPart a isA b isB => oneWay a (isPart a isA) b (isPart b isB)
      have nodup : ∀ set : OrderedSet Dependency, (Dependency.sort set.toList).Nodup := fun set =>
        (Dependency.sort_isStable set.toList).perm.nodup_iff.mpr set.nodup
      have sameInlined := inlined.map_eq (nodup _) (nodup _)
        (oneWayPart _ _ oneWay fun d isListed =>
          Settings.mem_of_mem_sorted ended (List.mem_append_left _ isListed))
        (oneWayPart _ _ oneWay' fun d isListed =>
          Settings.mem_of_mem_sorted ended' (List.mem_append_left _ isListed))
      have sameEmbedded := embedded.map_eq (nodup _) (nodup _)
        (oneWayPart _ _ oneWay fun d isListed =>
          Settings.mem_of_mem_sorted ended (List.mem_append_right _ isListed))
        (oneWayPart _ _ oneWay' fun d isListed =>
          Settings.mem_of_mem_sorted ended' (List.mem_append_right _ isListed))
      simp only [(inlined.append embedded).findSome?_eq (ignoresFlag_fileFailure? files)]
      rw [← Additions.ofPlaced_map, sameInlined, sameEmbedded, Additions.ofPlaced_map]

end Runs

/-- Two runs whose settings make every dependency a candidate, over dependencies that differ at
most in whether the build names them itself, differ in repetitions only: they fail alike, or
they list the same and append the same entries, an entry once more for an artifact that is
there both ways. Where no artifact is there both ways, they give the same headers. -/
theorem process_unflagged [Release] (e e' : Embedder) (files : FileTree) (settings : Settings)
    (existing : Headers) (transitive : settings.transitive = true)
    (unflagged : e.dependencies.map Dependency.unflagged =
      e'.dependencies.map Dependency.unflagged) :
    let outcome := (e.process files settings existing).2
    let outcome' := (e'.process files settings existing).2
    SameUpToRepetition existing outcome outcome' ∧
      (Dependency.OneWay e.dependencies → Dependency.OneWay e'.dependencies →
        outcome.map EmbedResult.headers = outcome'.map EmbedResult.headers) := by
  intro outcome outcome'
  have alike : Alike (settings.candidates e.dependencies)
      (settings.candidates e'.dependencies) := by
    simp only [Settings.candidates, transitive, if_true]
    exact congrArg OrderedSet.ofList unflagged
  refine ⟨embedAll_sameUpToRepetition alike files existing, fun oneWay oneWay' => ?_⟩
  have headers : ∀ dependencies : List Dependency,
      (embedAll dependencies files settings existing).result.map EmbedResult.headers =
        (settings.additions dependencies files).map existing.extend := fun dependencies => by
    rw [embedAll_result]
    cases settings.additions dependencies files <;> rfl
  change (embedAll e.dependencies files settings existing).result.map _ =
    (embedAll e'.dependencies files settings existing).result.map _
  rw [headers, headers, additions_eq_of_oneWay alike oneWay oneWay']

/-! ### An artifact that is there both ways -/

namespace BothWays

/-- A dependency that the build names itself. -/
def named : Dependency := PlacedFiles.stored "a" "lib/a.jar"

/-- The same artifact through another dependency. -/
def reached : Dependency := { named with direct := false }

/-- Another artifact. -/
def other : Dependency := PlacedFiles.stored "b" "lib/b.jar"

/-- Everything is embedded, dependencies of dependencies included. -/
def settings : Settings := { Settings.standard with clauses := [⟨"*", []⟩], transitive := true }

/-- Dependencies, and what is listed and written of them. -/
def runs : List (List Dependency × List Dependency × Headers) := [
  ([named, reached], [named, reached],
    ⟨some ".,a.jar,a.jar", some "a.jar=lib/a.jar,a.jar=lib/a.jar"⟩),
  ([named, named], [named], ⟨some ".,a.jar", some "a.jar=lib/a.jar"⟩),
  ([reached, other], [reached, other],
    ⟨some ".,a.jar,b.jar", some "a.jar=lib/a.jar,b.jar=lib/b.jar"⟩)]

/-- This is what the runs give. -/
theorem returned {dependencies listed : List Dependency} {headers : Headers}
    (isRun : (dependencies, listed, headers) ∈ runs) :
    ((Embedder.ofDependencies dependencies).process PlacedFiles.files settings .absent).2 =
      .ok ⟨[], listed, headers⟩ := by
  have given : ∀ run ∈ runs,
      settings.GivesOrdered run.1 PlacedFiles.files .absent ⟨[], run.2.1, run.2.2⟩ := by
    decide +kernel
  exact embedAll_result_of_ordered (given _ isRun)

end BothWays

open BothWays in
theorem process_unflagged_both_ways :
    let process := fun dependencies =>
      ((Embedder.ofDependencies dependencies).process PlacedFiles.files settings .absent).2
    settings.transitive = true ∧
      [named, reached].map Dependency.unflagged = [named, named].map Dependency.unflagged ∧
      SameUpToRepetition .absent (process [named, reached]) (process [named, named]) ∧
      [reached, other].map Dependency.unflagged = [named, other].map Dependency.unflagged ∧
      Dependency.OneWay [reached, other] ∧ Dependency.OneWay [named, other] ∧
      (process [reached, other]).map EmbedResult.headers =
        .ok ⟨some ".,a.jar,b.jar", some "a.jar=lib/a.jar,b.jar=lib/b.jar"⟩ ∧
      (process [named, other]).map EmbedResult.headers =
        .ok ⟨some ".,a.jar,b.jar", some "a.jar=lib/a.jar,b.jar=lib/b.jar"⟩ := by
  intro process
  have bothWays := process_unflagged (.ofDependencies [named, reached])
    (.ofDependencies [named, named]) PlacedFiles.files settings .absent rfl rfl
  have oneWay : Dependency.OneWay [reached, other] := by decide +kernel
  have oneWay' : Dependency.OneWay [named, other] := by decide +kernel
  have same := (process_unflagged (.ofDependencies [reached, other])
    (.ofDependencies [named, other]) PlacedFiles.files settings .absent rfl rfl).2 oneWay oneWay'
  have given := congrArg (Except.map EmbedResult.headers)
    (returned (List.Mem.tail _ (List.Mem.tail _ (List.Mem.head _))))
  exact ⟨rfl, rfl, bothWays.1, rfl, oneWay, oneWay', given, same.symm.trans given⟩

/-- The flag does not only choose candidates: an artifact that is there both ways is placed
twice, and once where both have the same flag. -/
theorem not_same_headers_of_both_ways :
    ¬ ∀ (e e' : Embedder) (files : FileTree) (settings : Settings) (existing : Headers),
      settings.transitive = true →
        e.dependencies.map Dependency.unflagged = e'.dependencies.map Dependency.unflagged →
          (e.process files settings existing).2.map EmbedResult.headers =
            (e'.process files settings existing).2.map EmbedResult.headers := by
  intro same
  have headers := same (.ofDependencies [BothWays.named, BothWays.reached])
    (.ofDependencies [BothWays.named, BothWays.named]) PlacedFiles.files BothWays.settings .absent
    rfl rfl
  rw [BothWays.returned (List.Mem.head _), BothWays.returned (List.Mem.tail _ (List.Mem.head _))]
    at headers
  have differ : (".,a.jar,a.jar" : Text) ≠ ".,a.jar" := by decide
  exact differ (Option.some.inj (congrArg Headers.classPath (Except.ok.inj headers)))

end BundleEmbed
