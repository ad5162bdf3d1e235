import BundleEmbed.FileTree
import Mathlib

/-!
Paths that are too long to be looked up.

A path is looked up name by name, and what is found first wrong is the fault. Asking whether
something stands at a path takes every fault for a no, but for a name that is too long.

* `FileTree.holds_eq_error_iff`: the paths that cannot be asked for.
-/

namespace BundleEmbed

/-- Steps one after the other fail when one of them fails where the ones before it have led. -/
theorem foldlM_eq_error_iff_exists {ε α β : Type} {step : β → α → Except ε β} {members : List α}
    {start : β} {e : ε} :
    members.foldlM step start = .error e ↔
      ∃ before a after place, members = before ++ a :: after ∧
        before.foldlM step start = .ok place ∧ step place a = .error e := by
  constructor
  · intro failed
    induction members generalizing start with
    | nil => cases failed
    | cons a members ih =>
        rw [List.foldlM_cons] at failed
        cases taken : step start a with
        | error e' =>
            rw [taken] at failed
            cases failed
            exact ⟨[], a, members, start, rfl, rfl, taken⟩
        | ok next =>
            rw [taken] at failed
            obtain ⟨before, b, after, place, rfl, led, failed⟩ := ih failed
            refine ⟨a :: before, b, after, place, rfl, ?_, failed⟩
            rw [List.foldlM_cons, taken]
            exact led
  · rintro ⟨before, a, after, place, rfl, led, failed⟩
    rw [List.foldlM_append, led]
    change List.foldlM step place (a :: after) = .error e
    rw [List.foldlM_cons, failed]
    rfl

namespace FileTree

variable {tree : FileTree}

/-- A name leads on from a directory unless it is too long. -/
theorem step_eq_nameTooLong_iff {place : List String} {name : Text} :
    tree.step place name = .error .nameTooLong ↔
      tree.entry? place = some .directory ∧ nameLimit < name.size := by
  unfold step
  by_cases isDirectory : tree.entry? place = some .directory
  · rw [if_neg (not_not_intro isDirectory)]
    -- the two names that are no names of entries are short
    by_cases isHere : name = "."
    · rw [if_pos isHere, isHere]
      exact ⟨nofun, fun ⟨_, long⟩ => absurd long (by decide +kernel)⟩
    by_cases isAround : name = ".."
    · rw [if_neg isHere, if_pos isAround, isAround]
      exact ⟨nofun, fun ⟨_, long⟩ => absurd long (by decide +kernel)⟩
    rw [if_neg isHere, if_neg isAround]
    by_cases long : name.size > nameLimit
    · simp [isDirectory, long]
    · cases known : name.name? <;> simp [long]
  · rw [if_pos isDirectory]
    refine ⟨fun failed => ?_, fun ⟨isOne, _⟩ => absurd isOne isDirectory⟩
    cases entry : tree.entry? place <;> simp [entry] at failed

/-- A path has a name that is too long, and the names before it lead to a directory. -/
def MeetsLongName (tree : FileTree) (path : Path) : Prop :=
  ∃ before name after place, path.segments.map (·.text) = before ++ name :: after ∧
    tree.walk (tree.startOf path.anchor) before = .ok place ∧
    tree.entry? place = some .directory ∧ nameLimit < name.size

/-- A path is too long: its text is, or a name in it that is looked up in a directory. A path
that holds a NUL character or a sign without bytes leads nowhere before it is measured. -/
def IsTooLong (tree : FileTree) (path : Path) : Prop :=
  .char '\x00' ∉ path.text.toList ∧ path.text.bytes? ≠ none ∧
    (pathLimit ≤ path.text.size ∨ tree.MeetsLongName path)

theorem locate_eq_nameTooLong_iff {path : Path} :
    tree.locate path = .error .nameTooLong ↔
      pathLimit ≤ path.text.size ∨ tree.MeetsLongName path := by
  unfold locate
  by_cases long : path.text.size ≥ pathLimit
  · simp [long]
  · rw [if_neg long, or_iff_right long]
    simp only [MeetsLongName, walk, foldlM_eq_error_iff_exists, step_eq_nameTooLong_iff]

theorem find_eq_nameTooLong_iff {path : Path} :
    tree.find path = .error .nameTooLong ↔ tree.locate path = .error .nameTooLong := by
  unfold find
  cases tree.locate path with
  | error fault => simp [bind, Except.bind]
  | ok place => cases entry : tree.entry? place <;> simp [bind, Except.bind, entry]

/-- The paths that cannot be asked for are those that are too long. -/
theorem holds_eq_error_iff {path : Path} {fault : FileFault} :
    tree.holds path = .error fault ↔ fault = .nameTooLong ∧ tree.IsTooLong path := by
  rw [IsTooLong, ← locate_eq_nameTooLong_iff, ← find_eq_nameTooLong_iff, holds]
  by_cases nowhere : .char '\x00' ∈ path.text.toList ∨ path.text.bytes? = none
  · rw [if_pos nowhere]
    exact ⟨nofun, fun ⟨_, noNull, hasBytes, _⟩ => (nowhere.elim noNull hasBytes).elim⟩
  rw [if_neg nowhere]
  rw [not_or] at nowhere
  cases tree.find path with
  | ok entry => simp
  | error other => cases other <;> simp [nowhere, eq_comm]

end FileTree

end BundleEmbed
