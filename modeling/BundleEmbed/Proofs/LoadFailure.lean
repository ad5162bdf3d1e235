import BundleEmbed.Command.Run
import BundleEmbed.Proofs.Json.Overflow
import BundleEmbed.Proofs.Utf8

/-!
Failures to load a descriptor that are not reported.

A descriptor that cannot be read, is no JSON text or is invalid is reported. Three kinds of
failures are not among these: a path that no file can have, a file that is not UTF-8, and an
integer with more digits than are read. The last two are about what the file holds.

* `Descriptor.load_unreported_iff`: these are the failures that are not reported.
* `exists_digits_of_isOverlong`, `isOverlong_of_digits`: texts with such an integer hold its
  digits, and there is one for any such digits.
* `not_every_failure_to_load_is_reported`: one byte is enough.
-/

namespace BundleEmbed

/-- No file can have the path: it holds a NUL character, or a sign without bytes. -/
def Path.IsUnusable (path : Path) : Prop :=
  .char '\x00' ∈ path.text.toList ∨ path.text.bytes? = none

/-- The bytes are those of the text in UTF-8. -/
def Encodes (content : ByteArray) (text : List Char) : Prop :=
  content.data.toList = text.flatMap String.utf8EncodeChar

/-- A text, read as JSON with any line ends, is refused for an integer with too many digits. -/
def IsOverlong (text : List Char) : Prop :=
  ∃ digits, JsonText.read (unifyLineEnds text) = .error (.tooManyDigits digits)

/-! ### Digits and line ends -/

/-- Unifying the ends of lines writes line feeds only. -/
theorem rewritten_unifyLineEnds (text : List Char) :
    Rewritten Char.isDigit text (unifyLineEnds text) := by
  have lineFeed : ∀ c ∈ ['\n'], c.isDigit = false := by simp
  induction text using unifyLineEnds.induct with
  | case1 rest ih =>
      rw [unifyLineEnds]
      exact ih.other ['\r', '\n'] ['\n'] lineFeed (List.cons_ne_nil _ _)
  | case2 rest noLineFeed ih =>
      rw [unifyLineEnds]
      · exact ih.other ['\r'] ['\n'] lineFeed (List.cons_ne_nil _ _)
      · exact noLineFeed
  | case3 c rest noPair noReturn ih =>
      rw [unifyLineEnds]
      · exact ih.same c
      · exact noPair
      · exact noReturn
  | case4 => exact .nil

/-- A text without carriage returns has its line ends unified. -/
theorem unifyLineEnds_eq_self {text : List Char} (noReturn : '\r' ∉ text) :
    unifyLineEnds text = text := by
  induction text using unifyLineEnds.induct with
  | case1 => simp at noReturn
  | case2 => simp at noReturn
  | case3 c rest noPair noLone ih =>
      rw [unifyLineEnds, ih fun inside => noReturn (.tail _ inside)]
      · exact noPair
      · exact noLone
  | case4 => rfl

/-- A text with an integer that has too many digits holds these digits. -/
theorem exists_digits_of_isOverlong {text : List Char} (overlong : IsOverlong text) :
    ∃ run, RunIn Char.isDigit text run ∧ digitLimit < run.length := by
  obtain ⟨digits, refused⟩ := overlong
  obtain ⟨long, run, isRun, rfl⟩ := JsonText.exists_digits_of_read refused
  exact ⟨run, isRun.of_rewritten (rewritten_unifyLineEnds text), long⟩

/-- Digits without a leading zero are an integer that may have too many of them. -/
theorem isOverlong_of_digits {run : List Char} (isRun : ∀ c ∈ run, c.isDigit = true)
    (noZero : run.head? ≠ some '0') (long : digitLimit < run.length) : IsOverlong run := by
  have noReturn : '\r' ∉ run := fun inside => absurd (isRun _ inside) (by decide)
  refine ⟨run.length, ?_⟩
  rw [unifyLineEnds_eq_self noReturn]
  exact JsonText.read_of_digits isRun noZero long

/-! ### Loading -/

/-- A text is read as a descriptor or refused with a report, but for one whose reading comes to
an integer with too many digits. -/
theorem Descriptor.ofText_unreported_iff {path : Path} {text : List Char} :
    (∃ fault, ofText path text = .error fault ∧ fault.isReported = false) ↔
      ∃ digits, JsonText.read text = .error (.tooManyDigits digits) := by
  unfold ofText
  cases JsonText.read text with
  | error refusal => cases refusal <;> simp [LoadFault.isReported]
  | ok value =>
      simp only [reduceCtorEq, exists_false, iff_false]
      rintro ⟨fault, failed, unreported⟩
      cases checked : Descriptor.check value <;> simp only [checked] at failed <;> cases failed
      cases unreported

/-- A file is read as the text that its bytes encode. -/
theorem readTextFile_eq_ok_iff {files : FileTree} {path : Path} {text : List Char} :
    readTextFile files path = .ok text ↔
      ¬ path.IsUnusable ∧ ∃ content written, files.content path = .ok content ∧
        Encodes content written ∧ unifyLineEnds written = text := by
  unfold readTextFile Path.IsUnusable
  by_cases noBytes : path.text.bytes? = none
  · simp [noBytes]
  by_cases null : .char '\x00' ∈ path.text.toList
  · simp [noBytes, null]
  cases files.content path with
  | error fault => simp [noBytes, null]
  | ok content =>
      simp only [Encodes, ← Utf8.decode_eq_ok_iff]
      cases decoded : Utf8.decode content.data.toList <;> simp [noBytes, null, decoded]

/-- Reading a file fails without a report when no file can have its path or it is not UTF-8. -/
theorem readTextFile_unreported_iff {files : FileTree} {path : Path} :
    (∃ fault, readTextFile files path = .error fault ∧ fault.isReported = false) ↔
      path.IsUnusable ∨
        ∃ content, files.content path = .ok content ∧ ¬ ∃ text, Encodes content text := by
  unfold readTextFile Path.IsUnusable
  by_cases noBytes : path.text.bytes? = none
  · simp [noBytes, LoadFault.isReported]
  by_cases null : .char '\x00' ∈ path.text.toList
  · simp [noBytes, null, LoadFault.isReported]
  cases files.content path with
  | error fault => simp [noBytes, null, LoadFault.isReported]
  | ok content =>
      simp only [Encodes, ← Utf8.decode_eq_ok_iff]
      cases decoded : Utf8.decode content.data.toList <;>
        simp [noBytes, null, decoded, LoadFault.isReported]

/-- A failure to load a descriptor is not reported exactly when its path holds a NUL character or
a sign without bytes, its file is not UTF-8, or the text in it has an integer with too many
digits. -/
theorem Descriptor.load_unreported_iff (files : FileTree) (path : Path) :
    (∃ fault, load files path = .error fault ∧ fault.isReported = false) ↔
      path.IsUnusable ∨
        ∃ content, files.content path = .ok content ∧
          ((¬ ∃ text, Encodes content text) ∨ ∃ text, Encodes content text ∧ IsOverlong text) := by
  have steps : (∃ fault, load files path = .error fault ∧ fault.isReported = false) ↔
      (∃ fault, readTextFile files path = .error fault ∧ fault.isReported = false) ∨
        ∃ text, readTextFile files path = .ok text ∧
          ∃ fault, ofText path text = .error fault ∧ fault.isReported = false := by
    unfold load
    cases readTextFile files path with
    | error fault => simp [bind, Except.bind]
    | ok text =>
        cases isRead : ofText path text <;> simp [bind, Except.bind, pure, Except.pure, isRead]
  rw [steps, readTextFile_unreported_iff]
  simp only [readTextFile_eq_ok_iff, ofText_unreported_iff]
  constructor
  · rintro ((unusable | ⟨content, found, noText⟩) |
      ⟨-, ⟨-, content, written, found, encodes, rfl⟩, overlong⟩)
    · exact .inl unusable
    · exact .inr ⟨content, found, .inl noText⟩
    · exact .inr ⟨content, found, .inr ⟨written, encodes, overlong⟩⟩
  · rintro (unusable | ⟨content, found, noText | ⟨written, encodes, overlong⟩⟩)
    · exact .inl (.inl unusable)
    · exact .inl (.inr ⟨content, found, noText⟩)
    · by_cases unusable : path.IsUnusable
      · exact .inl (.inl unusable)
      · exact .inr ⟨_, ⟨unusable, content, written, found, encodes, rfl⟩, overlong⟩

/-! ### A file that is not UTF-8 -/

/-- Not every failure to load a descriptor is reported. -/
theorem not_every_failure_to_load_is_reported :
    ¬ ∀ (files : FileTree) (path : Path) (fault : LoadFault),
      Descriptor.load files path = .error fault → fault.isReported = true := by
  intro reported
  let files : FileTree := ⟨[(["build.json"], .file ⟨#[0xff]⟩)], []⟩
  let path := Path.ofText "build.json"
  have isRead : readTextFile files path =
      .error (.notUtf8 ⟨.invalidStart, 0, 1, 0xff⟩) := by decide +kernel
  have failed : Descriptor.load files path =
      .error (.notUtf8 ⟨.invalidStart, 0, 1, 0xff⟩) := by
    rw [Descriptor.load, isRead]
    rfl
  cases reported files path _ failed

end BundleEmbed
