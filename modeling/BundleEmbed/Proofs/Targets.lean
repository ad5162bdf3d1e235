import BundleEmbed.Placement
import Mathlib

/-!
Where the files of dependencies stand in the bundle.

The place of a file is put together from parts: a directory, a group and a name. A part that
begins with a slash starts a place of its own, and what stands before it is lost. Nothing keeps a
group or an artifact from beginning with a slash; the name of a file never does.

* `foldl_joinPlace_eq`: parts are joined from the last one on that begins with a slash.
* `slash_not_mem_name`: the name of a file has no slash.
* `targetOf_lands_iff`: which files stand below the directory and the group that are set for
  them, and where the others stand.
* `not_lands_of_absolute_group`: there are others.
-/

namespace BundleEmbed

/-! ### Joining parts -/

/-- A part begins with a slash, and so starts a place of its own. -/
def StartsAnew (part : Text) : Prop := part.toList.head? = some (.char '/')

instance : DecidablePred StartsAnew := fun _ => inferInstanceAs (Decidable (_ = _))

/-- A part below which others stand: it ends with a slash, unless it is empty. -/
def asDirectory (part : Text) : Text :=
  if part = "" ∨ part.toList.getLast? = some (.char '/') then part else part ++ "/"

/-- The place of parts that stand one below the other. -/
def placeText : List Text → Text
  | [] => ""
  | [name] => name
  | directory :: later => asDirectory directory ++ placeText later

/-- The parts from the last one on that begins with a slash, and all of them where only the
first may. -/
def fromLastStart : List Text → List Text
  | [] => []
  | part :: later => if ∃ p ∈ later, StartsAnew p then fromLastStart later else part :: later

theorem joinPlace_of_startsAnew {base place : Text} (anew : StartsAnew place) :
    joinPlace base place = place := if_pos anew

theorem joinPlace_of_not_startsAnew {base place : Text} (below : ¬ StartsAnew place) :
    joinPlace base place = asDirectory base ++ place := by
  unfold joinPlace asDirectory
  rw [if_neg (show ¬ place.toList.head? = some (.char '/') from below)]
  split <;> rfl

/-- A part is a directory as it is, or with a slash after it. -/
theorem asDirectory_eq_or (part : Text) : asDirectory part = part ∨
    part ≠ "" ∧ part.toList.getLast? ≠ some (.char '/') ∧ asDirectory part = part ++ "/" := by
  unfold asDirectory
  split
  · exact .inl rfl
  · rename_i unended
    rw [not_or] at unended
    exact .inr ⟨unended.1, unended.2, rfl⟩

theorem exists_asDirectory_eq (part : Text) : ∃ between, asDirectory part = part ++ between := by
  rcases asDirectory_eq_or part with written | ⟨-, -, written⟩
  · exact ⟨"", by simp [written]⟩
  · exact ⟨"/", written⟩

theorem asDirectory_ne_empty {directory : Text} (named : directory ≠ "") :
    asDirectory directory ≠ "" := by
  rcases asDirectory_eq_or directory with written | ⟨-, -, written⟩ <;> rw [written]
  · exact named
  · simp

/-- A directory is lost where a part that is to stand below it comes first. -/
theorem asDirectory_append_ne {directory : Text} (named : directory ≠ "")
    (part between : Text) :
    asDirectory directory ++ part ++ between ≠ asDirectory part := by
  intro same
  have begins : (asDirectory directory).toList ≠ [] := by simpa using asDirectory_ne_empty named
  have isLonger := List.length_pos_of_ne_nil begins
  have lists := congrArg Text.toList same
  have lengths := congrArg List.length lists
  simp only [Text.toList_append, List.length_append] at lists lengths
  rcases asDirectory_eq_or part with written | ⟨nonempty, unended, written⟩ <;>
    rw [written] at lists lengths
  · omega
  · -- nothing is between, so the part would have to end with the slash that is put after it
    rw [Text.toList_append, List.length_append] at lengths
    have nothing : between.toList = [] := List.eq_nil_of_length_eq_zero (by simp at lengths; omega)
    have ends := congrArg List.getLast? lists
    rw [nothing, List.append_nil,
      List.getLast?_append_of_ne_nil _ (by simpa using nonempty)] at ends
    exact unended (by simpa using ends)

/-- What stands below a directory is a directory as it is by itself. -/
theorem asDirectory_append (directory part : Text) :
    asDirectory (asDirectory directory ++ part) = asDirectory directory ++ asDirectory part := by
  by_cases isEmpty : part = ""
  · subst isEmpty
    unfold asDirectory
    split_ifs <;> simp_all
  · have last : (asDirectory directory ++ part).toList.getLast? = part.toList.getLast? := by
      rw [Text.toList_append, List.getLast?_append_of_ne_nil _ (by simpa using isEmpty)]
    have nonempty : asDirectory directory ++ part ≠ "" := by simp [isEmpty]
    rw [asDirectory.eq_def (_ ++ part), asDirectory.eq_def part, last]
    simp only [nonempty, isEmpty, false_or]
    split
    · rfl
    · rw [Text.append_assoc]

theorem placeText_cons_cons (directory part : Text) (later : List Text) :
    placeText (directory :: part :: later) = asDirectory directory ++ placeText (part :: later) :=
  rfl

/-- Of two parts that stand one below the other the first one is read as a directory. -/
theorem placeText_append_cons (directory part : Text) (later : List Text) :
    placeText ((asDirectory directory ++ part) :: later) =
      asDirectory directory ++ placeText (part :: later) := by
  cases later with
  | nil => rfl
  | cons next later =>
      rw [placeText_cons_cons, placeText_cons_cons, asDirectory_append, Text.append_assoc]

/-- Parts are joined from the last one on that begins with a slash. -/
theorem foldl_joinPlace_eq (first : Text) (later : List Text) :
    later.foldl joinPlace first = placeText (fromLastStart (first :: later)) := by
  induction later generalizing first with
  | nil => simp [fromLastStart, placeText]
  | cons part later ih =>
      rw [List.foldl_cons, ih, fromLastStart, fromLastStart, fromLastStart]
      by_cases anewLater : ∃ p ∈ later, StartsAnew p
      · obtain ⟨p, isLater, anew⟩ := anewLater
        rw [if_pos ⟨p, isLater, anew⟩, if_pos ⟨p, .tail _ isLater, anew⟩, if_pos ⟨p, isLater, anew⟩]
      · rw [if_neg anewLater, if_neg anewLater]
        by_cases anew : StartsAnew part
        · rw [if_pos ⟨part, .head _, anew⟩, joinPlace_of_startsAnew anew]
        · have noneAnew : ¬ ∃ p ∈ part :: later, StartsAnew p := by
            rintro ⟨p, isPart, isAnew⟩
            rcases List.mem_cons.mp isPart with rfl | isLater
            · exact anew isAnew
            · exact anewLater ⟨p, isLater, isAnew⟩
          rw [if_neg noneAnew, joinPlace_of_not_startsAnew anew, placeText_append_cons,
            placeText_cons_cons]

/-- Where the last part begins with a slash, nothing else is left. -/
theorem fromLastStart_append_of_startsAnew (before : List Text) {last : Text}
    (anew : StartsAnew last) : fromLastStart (before ++ [last]) = [last] := by
  induction before with
  | nil => simp [fromLastStart]
  | cons part before ih =>
      rw [List.cons_append, fromLastStart, if_pos ⟨last, by simp, anew⟩, ih]

/-- Nothing stands before a name that is all there is. -/
theorem eq_empty_of_eq_append {before name : Text} (same : name = before ++ name) :
    before = "" := by
  have signs : name.toList = before.toList ++ name.toList := congrArg Text.toList same
  exact Text.toList_eq_nil_iff.mp (List.self_eq_append_left.mp signs)

/-! ### The last part -/

/-- No name of a file has a slash. -/
theorem slash_not_mem_name (path : Path) : (.char '/') ∉ path.name.toList := by
  unfold Path.name
  cases path.segments.getLast? with
  | none => simp
  | some segment => exact segment.isName.2.2

/-- The name in the bundle begins with a slash only where it is made of an artifact that does. -/
theorem startsAnew_placedName_iff {d : Dependency} {source : Path} {settings : Settings} :
    StartsAnew (placedName d source settings) ↔
      settings.stripVersion = true ∧ StartsAnew d.artifactId := by
  unfold placedName StartsAnew
  by_cases stripped : settings.stripVersion = true
  · rw [if_pos stripped]
    cases d.extension with
    | none => simp [stripped]
    | some extension => cases first : d.artifactId.toList <;> simp [stripped, first]
  · rw [if_neg stripped]
    refine iff_of_false (fun anew => ?_) fun ⟨isStripped, _⟩ => stripped isStripped
    exact slash_not_mem_name source (List.mem_of_mem_head? anew)

/-! ### Where a file is to stand -/

/-- The directory of the settings is not empty. -/
theorem Settings.place_ne_empty {settings : Settings} {directory : Text}
    (given : settings.place? = some directory) : directory ≠ "" := by
  have named := (Option.filter_eq_some_iff.mp given).2
  exact (of_decide_eq_true named).1

/-- The group where it is a part of the place. -/
def Settings.keptGroup (settings : Settings) (d : Dependency) : Text :=
  if settings.stripGroup then "" else d.groupId

/-- A place is the one that is set for the file of a dependency: it starts with the directory
and a slash, goes on with the group where that is kept, and ends with the name. Without a
directory and a group it is the name. -/
structure Settings.Lands (settings : Settings) (d : Dependency) (source : Path)
    (place : Text) : Prop where
  inDirectory : ∀ directory, settings.place? = some directory → ∃ between,
    place = asDirectory directory ++ settings.keptGroup d ++ between ++
      placedName d source settings
  inGroup : settings.place? = none → ∃ between,
    place = settings.keptGroup d ++ between ++ placedName d source settings
  bare : settings.place? = none → settings.stripGroup = true → place = placedName d source settings

/-- A part of the place of a dependency's file begins with a slash after something else. -/
inductive Settings.Restarts (settings : Settings) (d : Dependency) : Prop where
  | atName (stripped : settings.stripVersion = true) (anew : StartsAnew d.artifactId)
      (below : settings.place? ≠ none ∨ settings.keptGroup d ≠ "")
  | atGroup (anew : StartsAnew (settings.keptGroup d)) (below : settings.place? ≠ none)

/-! ### Where a file stands -/

section Places

variable (d : Dependency) (source : Path) (settings : Settings)

theorem targetOf_eq :
    targetOf d source settings = placeText (fromLastStart (placeParts d source settings)) := by
  unfold targetOf
  cases placeParts d source settings with
  | nil => rfl
  | cons first later => exact foldl_joinPlace_eq first later

/-- A name that begins with a slash is the whole place. -/
theorem targetOf_of_name (anew : StartsAnew (placedName d source settings)) :
    targetOf d source settings = placedName d source settings := by
  rw [targetOf_eq, placeParts, fromLastStart_append_of_startsAnew _ anew, placeText]

/-- Below a group that begins with a slash stands the name alone. -/
theorem targetOf_of_group (anew : StartsAnew (settings.keptGroup d))
    (below : ¬ StartsAnew (placedName d source settings)) :
    targetOf d source settings =
      asDirectory (settings.keptGroup d) ++ placedName d source settings := by
  unfold Settings.keptGroup at anew ⊢
  rw [targetOf_eq, placeParts]
  cases kept : settings.stripGroup with
  | true => simp [kept, StartsAnew] at anew
  | false =>
      replace anew : StartsAnew d.groupId := by simpa [kept] using anew
      cases settings.place? <;> simp [fromLastStart, placeText, anew, below]

/-- All parts are there where neither the group nor the name begins with a slash. -/
theorem targetOf_of_neither (groupBelow : ¬ StartsAnew (settings.keptGroup d))
    (nameBelow : ¬ StartsAnew (placedName d source settings)) :
    targetOf d source settings = placeText (placeParts d source settings) := by
  unfold Settings.keptGroup at groupBelow
  rw [targetOf_eq, placeParts]
  cases kept : settings.stripGroup with
  | true => cases settings.place? <;> simp [fromLastStart, nameBelow]
  | false =>
      replace groupBelow : ¬ StartsAnew d.groupId := by simpa [kept] using groupBelow
      cases settings.place? <;> simp [fromLastStart, groupBelow, nameBelow]

/-- Where all parts are there, a file stands where it is to stand. -/
theorem Settings.lands_placeText :
    settings.Lands d source (placeText (placeParts d source settings)) := by
  obtain ⟨between, written⟩ := exists_asDirectory_eq d.groupId
  unfold placeParts
  refine ⟨fun directory isSet => ?_, fun unset => ?_, fun unset stripped => ?_⟩
  · cases kept : settings.stripGroup with
    | true => exact ⟨"", by simp [isSet, keptGroup, kept, placeText]⟩
    | false =>
        exact ⟨between, by simp [isSet, keptGroup, kept, placeText, written, Text.append_assoc]⟩
  · cases kept : settings.stripGroup with
    | true => exact ⟨"", by simp [unset, keptGroup, kept, placeText]⟩
    | false => exact ⟨between, by simp [unset, keptGroup, kept, placeText, written]⟩
  · simp [unset, stripped, placeText]

/-- The name alone is where a file is to stand when neither a directory nor a group is set. -/
theorem Settings.lands_name_iff :
    settings.Lands d source (placedName d source settings) ↔
      settings.place? = none ∧ settings.keptGroup d = "" := by
  constructor
  · intro lands
    cases isSet : settings.place? with
    | some directory =>
        obtain ⟨between, form⟩ := lands.inDirectory directory isSet
        have nothing := eq_empty_of_eq_append form
        simp [asDirectory_ne_empty (place_ne_empty isSet)] at nothing
    | none =>
        obtain ⟨between, form⟩ := lands.inGroup isSet
        have nothing := eq_empty_of_eq_append form
        exact ⟨rfl, (Text.append_eq_empty_iff.mp nothing).1⟩
  · rintro ⟨unset, noGroup⟩
    refine ⟨fun directory isSet => ?_, fun _ => ⟨"", by simp [noGroup]⟩, fun _ _ => rfl⟩
    rw [unset] at isSet
    cases isSet

/-- The group and the name are where a file is to stand when no directory is set. -/
theorem Settings.lands_group_iff (kept : settings.keptGroup d ≠ "") :
    settings.Lands d source
        (asDirectory (settings.keptGroup d) ++ placedName d source settings) ↔
      settings.place? = none := by
  constructor
  · intro lands
    by_contra isSet
    obtain ⟨directory, isSet⟩ := Option.ne_none_iff_exists'.mp isSet
    obtain ⟨between, form⟩ := lands.inDirectory directory isSet
    exact asDirectory_append_ne (place_ne_empty isSet) _ between
      ((Text.append_left_inj _).mp form).symm
  · intro unset
    obtain ⟨between, written⟩ := exists_asDirectory_eq (settings.keptGroup d)
    refine ⟨fun directory isSet => ?_, fun _ => ⟨between, by rw [written]⟩, fun _ stripped => ?_⟩
    · rw [unset] at isSet
      cases isSet
    · exact absurd (if_pos stripped) kept

end Places

/-- The file of a dependency stands below the directory and the group that are set for it unless
one of the later parts begins with a slash. A name that does is the whole place; else a group that
does is its first part. -/
theorem targetOf_lands_iff (d : Dependency) (source : Path) (settings : Settings) :
    let place := targetOf d source settings
    let name := placedName d source settings
    (settings.Lands d source place ↔ ¬ settings.Restarts d) ∧
      (StartsAnew name → place = name) ∧
      (StartsAnew (settings.keptGroup d) → ¬ StartsAnew name →
        place = asDirectory (settings.keptGroup d) ++ name) := by
  intro place name
  have ofName := targetOf_of_name d source settings
  have ofGroup := targetOf_of_group d source settings
  refine ⟨?_, ofName, ofGroup⟩
  by_cases nameAnew : StartsAnew name
  · obtain ⟨stripped, anew⟩ := startsAnew_placedName_iff.mp nameAnew
    have restarts : settings.Restarts d ↔ settings.place? ≠ none ∨ settings.keptGroup d ≠ "" :=
      ⟨fun | .atName _ _ below => below | .atGroup _ below => .inl below, .atName stripped anew⟩
    rw [show place = name from ofName nameAnew, Settings.lands_name_iff, restarts, not_or,
      not_not, not_not]
  · by_cases groupAnew : StartsAnew (settings.keptGroup d)
    · have kept : settings.keptGroup d ≠ "" := fun empty => by
        rw [empty] at groupAnew
        cases groupAnew
      have restarts : settings.Restarts d ↔ settings.place? ≠ none := by
        refine ⟨?_, .atGroup groupAnew⟩
        rintro (⟨stripped, anew, -⟩ | ⟨-, below⟩)
        · exact absurd (startsAnew_placedName_iff.mpr ⟨stripped, anew⟩) nameAnew
        · exact below
      rw [show place = _ from ofGroup groupAnew nameAnew,
        Settings.lands_group_iff d source settings kept, restarts, not_not]
    · have never : ¬ settings.Restarts d := by
        rintro (⟨stripped, anew, -⟩ | ⟨anew, -⟩)
        · exact nameAnew (startsAnew_placedName_iff.mpr ⟨stripped, anew⟩)
        · exact groupAnew anew
      refine iff_of_true ?_ never
      rw [show place = _ from targetOf_of_neither d source settings groupAnew nameAnew]
      exact settings.lands_placeText d source

/-! ### A group that begins with a slash -/

/-- Not every file stands below the directory that is set for it: a group that begins with a
slash is a place of its own. -/
theorem not_lands_of_absolute_group :
    ¬ ∀ (d : Dependency) (source : Path) (settings : Settings),
      settings.Lands d source (targetOf d source settings) := by
  intro lands
  let d : Dependency :=
    ⟨"/g", "a", "1", none, none, none, none, none, some (Path.ofText "a.jar"), none, true⟩
  let settings : Settings := ⟨[], some "lib", false, false, false⟩
  have standsAside : targetOf d (Path.ofText "a.jar") settings = "/g/a.jar" := by decide +kernel
  obtain ⟨between, form⟩ := (lands d (Path.ofText "a.jar") settings).inDirectory "lib" rfl
  rw [standsAside, show asDirectory "lib" = "lib/" by decide +kernel] at form
  have first := congrArg (fun text => text.toList.head?) form
  simp at first

end BundleEmbed
