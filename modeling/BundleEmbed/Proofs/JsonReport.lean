import BundleEmbed.Proofs.Invocation
import BundleEmbed.Proofs.Json.RoundTrip
import BundleEmbed.Proofs.Printing
import BundleEmbed.Proofs.ReportTexts

/-!
What a run prints as JSON.

A result goes into an outline, the outline into a text, and the text to the output without its
control sequences. It has none: the escape character is not among the characters that are
written, even if it is in a name. So the text can be read back as the result, surrogates
included, since no two of them in a text are a pair.

A run that fails has not printed anything before. There is one exception: headers that are not
asked for as JSON are printed one after the other, and the second one may have a surrogate.

* `EmbedResult.isReadable_outline`: the outline of a result can be read back.
* `EmbedResult.printed`: what is printed of a result, and what it is read as.
* `Headers.BreaksOff`: the headers of which the first one is printed and the second one is not.
* `runProgram_isSilent_or`: a run that fails prints nothing, or breaks off in this way.
* `runProgram_report`: both for every run of the program.
-/

namespace BundleEmbed

open Regex (Release)

/-! ### The text of a result -/

/-- The headers that have a value have different keys. -/
theorem Headers.nodup_keys_toPairs (headers : Headers) :
    (headers.toPairs.map Prod.fst).Nodup := by
  obtain ⟨classPath, resources⟩ := headers
  cases classPath <;> cases resources <;> simp [toPairs, classPathKey, resourcesKey]

/-- The headers that have a value stand under their keys. -/
theorem Headers.mem_toPairs {headers : Headers} {pair : Text × Text}
    (isPair : pair ∈ headers.toPairs) :
    pair.1 = classPathKey ∧ headers.classPath = some pair.2 ∨
      pair.1 = resourcesKey ∧ headers.resources = some pair.2 := by
  simp only [toPairs, List.mem_append, Option.mem_toList, Option.map_eq_some_iff] at isPair
  rcases isPair with ⟨text, isText, rfl⟩ | ⟨text, isText, rfl⟩
  · exact .inl ⟨rfl, isText⟩
  · exact .inr ⟨rfl, isText⟩

/-- A result as a value: the coordinates of the dependencies, and the headers that have one. -/
def EmbedResult.toValue (result : EmbedResult) : JsonValue :=
  .object [
    ("inlined", .array (result.inlined.map (.string ·.coordinates))),
    ("embedded", .array (result.embedded.map (.string ·.coordinates))),
    ("headers", .object (result.headers.toPairs.map fun pair => (pair.1, .string pair.2)))]

/-- Items that are texts are strings. -/
theorem Outline.toValues_map_text {α : Type} (content : α → Text) (items : List α) :
    Outline.toValues (items.map fun item => .text (content item)) =
      items.map fun item => .string (content item) := by
  induction items with
  | nil => rfl
  | cons item later ih => simp only [List.map_cons, toValues, toValue, ih]

/-- Members that are texts are strings. -/
theorem Outline.toMembers_map_text (pairs : List (Text × Text)) :
    Outline.toMembers (pairs.map fun pair => (pair.1, .text pair.2)) =
      pairs.map fun pair => (pair.1, .string pair.2) := by
  induction pairs with
  | nil => rfl
  | cons pair later ih => simp only [List.map_cons, toMembers, toValue, ih]

namespace EmbedResult

/-- The outline of a result is its value. -/
theorem toValue_outline (result : EmbedResult) : result.outline.toValue = result.toValue := by
  simp only [outline, Outline.toValue, Outline.toMembers, Outline.toValues_map_text,
    Outline.toMembers_map_text, toValue]

/-- The outline of a result can be read back. -/
theorem isReadable_outline {result : EmbedResult} (unpaired : result.IsUnpaired) :
    result.outline.IsReadable := by
  have coordinates {dependencies : List Dependency}
      (areUnpaired : ∀ d ∈ dependencies, d.IsUnpaired) :
      Outline.IsReadable (.list (dependencies.map fun d => .text d.coordinates)) :=
    .list (List.forall_mem_map.mpr fun d isOne => .text (areUnpaired d isOne).coordinates)
  have pairs : ∀ pair ∈ result.headers.toPairs,
      Unpaired pair.1.toList ∧ Unpaired pair.2.toList := by
    intro pair isPair
    rcases Headers.mem_toPairs isPair with ⟨isKey, isText⟩ | ⟨isKey, isText⟩
    · rw [isKey]
      exact ⟨unpaired_ofString _, unpaired.headers.classPath _ isText⟩
    · rw [isKey]
      exact ⟨unpaired_ofString _, unpaired.headers.resources _ isText⟩
  have headers : Outline.IsReadable
      (.record (result.headers.toPairs.map fun pair => (pair.1, .text pair.2))) := by
    refine .record ?_ (List.forall_mem_map.mpr fun pair isPair => (pairs pair isPair).1)
      (List.forall_mem_map.mpr fun pair isPair => .text (pairs pair isPair).2)
    rw [List.map_map]
    exact result.headers.nodup_keys_toPairs
  refine .record (by simp) ?_ ?_
  · exact List.forall_mem_cons.mpr ⟨unpaired_ofString _, List.forall_mem_cons.mpr
      ⟨unpaired_ofString _, List.forall_mem_singleton.mpr (unpaired_ofString _)⟩⟩
  · exact List.forall_mem_cons.mpr ⟨coordinates unpaired.inlined, List.forall_mem_cons.mpr
      ⟨coordinates unpaired.embedded, List.forall_mem_singleton.mpr headers⟩⟩

end EmbedResult

/-- A plain text has no control sequences. -/
theorem withoutControlSequences_of_isPlain {text : List Char} (plain : JsonText.IsPlain text) :
    withoutControlSequences (String.ofList text) = String.ofList text := by
  have noEscape : .char '\x1b' ∉ text.map Sign.char := by
    intro isOne
    obtain ⟨c, isChar, same⟩ := List.mem_map.mp isOne
    cases same
    exact absurd (plain _ isChar) (by decide)
  rw [withoutControlSequences, Text.toList_ofString, String.toList_ofList,
    ControlSequence.remove_of_not_mem noEscape, ← Text.toList_inj, Text.toList_ofString,
    String.toList_ofList]

namespace EmbedResult

/-- As JSON a result can always be printed: its text is in ASCII. -/
theorem printing_json (result : EmbedResult) (files : FileTree) :
    RunResult.printing files (result.lines true) =
      ⟨0, String.ofList (JsonText.writeAt .lines 0 result.outline) ++ "\n", [], [], none,
        files⟩ := by
  have plain := JsonText.isPlain_writeAt JsonText.Layout.lines_isBlank 0 result.outline
  simp [RunResult.printing, lines, JsonText.write, withoutControlSequences_of_isPlain plain,
    printLines]

/-- A result is printed as a text in ASCII and a line feed. The text ends with a bracket, and is
read as the result. -/
theorem printed {result : EmbedResult} (unpaired : result.IsUnpaired) (files : FileTree) :
    ∃ text, (RunResult.printing files (result.lines true)).output.toList = text ++ ['\n'] ∧
      JsonText.IsPlain text ∧ text.getLast? = some '\x7d' ∧
      JsonText.read text = .ok result.toValue := by
  have blank := JsonText.Layout.lines_isBlank
  refine ⟨JsonText.writeAt .lines 0 result.outline, ?_, JsonText.isPlain_writeAt blank 0 _, ?_, ?_⟩
  · rw [printing_json]
    simp
  · rw [outline, JsonText.writeAt]
    exact JsonText.getLast?_enclose ..
  · rw [JsonText.read_writeAt blank (isReadable_outline unpaired), result.toValue_outline]

end EmbedResult

/-! ### Runs that fail -/

/-- If a run fails, nothing has been printed. -/
def RunResult.IsSilent (run : RunResult) : Prop := run.exitCode ≠ 0 → run.output = ""

/-- Of two headers the first one can be printed, and the second one has a surrogate. -/
structure Headers.BreaksOff (headers : Headers) (classPath resources : Text) : Prop where
  areBoth : headers = ⟨some classPath, some resources⟩
  characters : ¬ classPath.HasSurrogate
  surrogate : resources.HasSurrogate

/-- A run has printed the class path, and has crashed on the resources. -/
structure RunResult.IsBrokenOff (run : RunResult) (classPath resources : Text) : Prop where
  exitCode : run.exitCode = 1
  output : Text.ofString run.output =
    withoutControlSequences ("Bundle-ClassPath: " ++ classPath) ++ "\n"
  crash : run.crash = some (.print (withoutControlSequences ("Include-Resource: " ++ resources)))

/-- Of two lines the second one is the first that cannot be printed. -/
theorem eq_of_two_lines {first second line : Text} {before later : List Text}
    (split : [first, second] = before ++ line :: later) (someBefore : before ≠ []) :
    before = [first] ∧ line = second := by
  obtain ⟨known, before, rfl⟩ := List.exists_cons_of_ne_nil someBefore
  obtain ⟨isFirst, split⟩ := List.cons.inj split
  cases before with
  | nil => exact ⟨by rw [isFirst], (List.cons.inj split).1.symm⟩
  | cons known before => exact absurd (List.cons.inj split).2 (by simp)

namespace EmbedResult

variable {classPath resources : Text}

/-- A result with two headers is printed in two lines. -/
theorem lines_of_both {result : EmbedResult}
    (areBoth : result.headers = ⟨some classPath, some resources⟩) :
    result.lines false =
      ["Bundle-ClassPath: " ++ classPath, "Include-Resource: " ++ resources] := by
  simp only [lines, areBoth]
  rfl

/-- Printing headers that break off crashes on the second one. -/
theorem isBrokenOff_printing {result : EmbedResult}
    (breaksOff : result.headers.BreaksOff classPath resources) (files : FileTree) :
    (RunResult.printing files (result.lines false)).IsBrokenOff classPath resources := by
  have areLines := lines_of_both breaksOff.areBoth
  have first : ¬ (Text.ofString "Bundle-ClassPath: " ++ classPath).HasSurrogate := by
    simpa using breaksOff.characters
  have second : (Text.ofString "Include-Resource: " ++ resources).HasSurrogate := by
    simpa using breaksOff.surrogate
  rcases RunResult.printing_cases files (result.lines false) with
    ⟨characters, -⟩ | ⟨before, line, later, split, -, surrogate, exitCode, output, crash⟩
  · exact absurd second (characters _ (by simp [areLines]))
  · rw [areLines] at split
    have someBefore : before ≠ [] := by
      rintro rfl
      obtain ⟨rfl, -⟩ := List.cons.inj split
      exact first surrogate
    obtain ⟨rfl, rfl⟩ := eq_of_two_lines split someBefore
    exact ⟨exitCode, output.trans (by simp [printedText, ← Text.toList_inj]), crash⟩

/-- Printing a result is silent where it fails, unless the headers break off. -/
theorem isSilent_printing_or (result : EmbedResult) (files : FileTree) (asJson : Bool) :
    (RunResult.printing files (result.lines asJson)).IsSilent ∨
      asJson = false ∧ ∃ classPath resources, result.headers.BreaksOff classPath resources := by
  rcases RunResult.printing_cases files (result.lines asJson) with
    ⟨-, ended, -⟩ | ⟨before, line, later, split, characters, surrogate, -, output, -⟩
  · exact .inl fun failed => absurd ended failed
  by_cases someBefore : before = []
  · rw [someBefore] at output
    exact .inl fun _ => Text.ofString_inj.mp output
  have several : 1 < (result.lines asJson).length := by
    have positive := List.length_pos_iff.mpr someBefore
    rw [split, List.length_append, List.length_cons]
    omega
  obtain ⟨inlined, embedded, classPath?, resources?⟩ := result
  cases asJson with
  | true => simp [lines] at several
  | false =>
      cases classPath? with
      | none => cases resources? <;> simp [lines, Headers.toPairs] at several
      | some classPath =>
          cases resources? with
          | none => simp [lines, Headers.toPairs] at several
          | some resources =>
              rw [lines_of_both rfl] at split
              obtain ⟨rfl, rfl⟩ := eq_of_two_lines split someBefore
              exact .inr ⟨rfl, classPath, resources, rfl, by simpa using characters,
                by simpa using surrogate⟩

end EmbedResult

/-- A result without events has an output only if it is one of success. -/
theorem RunResult.IsEventless.isSilent {run : RunResult} (eventless : run.IsEventless) :
    run.IsSilent := by
  intro failed
  cases eventless with
  | @printing files lines characters =>
      rcases RunResult.printing_cases files lines with
        ⟨-, ended, -⟩ | ⟨before, line, later, rfl, -, surrogate, -⟩
      · exact absurd ended failed
      · exact absurd surrogate (characters line (by simp))
  | refused => rfl
  | failure => rfl
  | crashed => rfl

/-- Making a template gives a result without events. -/
theorem runTemplate_isEventless (files : FileTree) (arguments : List String) :
    (runTemplate files arguments).IsEventless := by
  unfold runTemplate
  dsimp only
  split
  · exact .refused _ _
  · split_ifs
    · exact RunResult.isEventless_printing _ _
    · exact .refused _ _
    · exact .crashed _ _
    · split
      · exact .crashed _ _
      · exact .printing _ (by simp)

/-- What is told of a result is that it is printed, with the events of the run. -/
theorem Outcome.told_of_ok {outcome : Outcome} {result : EmbedResult}
    (isOk : outcome.result = .ok result) (files : FileTree) (asJson : Bool) :
    outcome.told files asJson =
      { RunResult.printing files (result.lines asJson) with events := outcome.events } := by
  simp only [told, isOk]

section Command

variable [Release] {files : FileTree} {environment : Environment} {options : List ResolveOption}

/-- A descriptor has headers that break off, and they are not asked for as JSON. -/
def ResolvesBroken (files : FileTree) (environment : Environment) (options : List ResolveOption)
    (path : String) (classPath resources : Text) : Prop :=
  .json ∉ options ∧ ∃ descriptor dependencies result,
    Descriptor.load files (Path.ofText path) = .ok (descriptor, dependencies) ∧
    (embedAll dependencies files
      (overriddenSettings descriptor.instructions.toSettings environment options)
      descriptor.existingHeaders).result = .ok result ∧
    result.headers.BreaksOff classPath resources

/-- Resolving a descriptor is silent where it fails, unless its headers break off. -/
theorem resolveDescriptor_isSilent_or (files : FileTree) (environment : Environment)
    (options : List ResolveOption) (path : String) :
    (resolveDescriptor files environment options (Path.ofText path)).IsSilent ∨
      ∃ classPath resources,
        ResolvesBroken files environment options path classPath resources := by
  cases loaded : Descriptor.load files (Path.ofText path) with
  | error fault => exact .inl (resolveDescriptor_of_load_error loaded environment options).isSilent
  | ok found =>
      obtain ⟨descriptor, dependencies⟩ := found
      rw [resolveDescriptor_of_load loaded, resolution]
      generalize isOutcome : embedAll dependencies files _ descriptor.existingHeaders = outcome
      cases isResult : outcome.result with
      | error fault =>
          refine .inl ?_
          simp only [Outcome.told, isResult]
          split
          · exact fun _ => rfl
          · exact fun _ => rfl
      | ok result =>
          rw [Outcome.told_of_ok isResult]
          refine (result.isSilent_printing_or files (options.contains .json)).imp
            (fun silent => silent) ?_
          rintro ⟨notJson, classPath, resources, breaksOff⟩
          refine ⟨classPath, resources, by simpa using notJson, descriptor, dependencies, result,
            loaded, ?_, breaksOff⟩
          rw [isOutcome, isResult]

/-- Resolving a descriptor whose headers break off prints the first one and crashes. -/
theorem isBrokenOff_resolveDescriptor {path : String} {classPath resources : Text}
    (broken : ResolvesBroken files environment options path classPath resources) :
    (resolveDescriptor files environment options (Path.ofText path)).IsBrokenOff
      classPath resources := by
  obtain ⟨notJson, descriptor, dependencies, result, loaded, isOk, breaksOff⟩ := broken
  have asLines : options.contains .json = false := by simpa using notJson
  rw [resolveDescriptor_of_load loaded, resolution, Outcome.told_of_ok isOk, asLines]
  have printed := result.isBrokenOff_printing breaksOff files
  exact ⟨printed.exitCode, printed.output, printed.crash⟩

end Command

/-- A command is found under its name only. -/
theorem CommandName.text_of_ofText? {name : String} {command : CommandName}
    (found : ofText? name = some command) : name = command.text := by
  have isName : (command.text == name) = true :=
    List.find?_some (p := fun known => text known == name) found
  exact (beq_iff_eq.mp isName).symm

/-- A run of the program gives a result without events, or what the command for resolving
gives. -/
theorem runProgram_cases [Release] (files : FileTree) (environment : Environment)
    (arguments : List String) :
    let run := (runProgram files environment arguments).result
    run.IsEventless ∨ ∃ verbose own, RunsResolve arguments verbose own ∧
      (environment.logging? verbose).isSome = true ∧ run = runResolve files environment own := by
  have refused : ∀ lines, (RunResult.refused files lines).IsEventless := .refused files
  have help := RunResult.isEventless_printing files programHelp.lines
  intro run
  simp only [run, runProgram]
  split
  · exact .inl (refused _)
  · split
    · exact .inl (refused _)
    · rename_i read isRead
      split
      · exact .inl help
      · rename_i noHelp
        split
        · exact .inl (refused _)
        · rename_i name own others
          split
          · -- a command that is not known may look like an option
            split
            · split
              · exact .inl (refused _)
              · split
                · exact .inl help
                · exact .inl (refused _)
            · exact .inl (refused _)
          · rename_i command isCommand
            split
            · exact .inl (.crashed _ _)
            · rename_i logging settled
              split
              · exact .inl (runTemplate_isEventless _ _)
              · refine .inr ⟨_, own, ⟨read.options, ?_, by simpa using noHelp, rfl⟩, ?_, rfl⟩
                · rw [isRead, ← CommandName.text_of_ofText? isCommand, ← others]
                · rw [settled]
                  rfl

/-- A run of the program resolves a descriptor whose headers break off. -/
def BreaksOff [Release] (files : FileTree) (environment : Environment) (arguments : List String)
    (classPath resources : Text) : Prop :=
  ∃ verbose options path, AsksToResolve arguments verbose options path ∧
    (environment.logging? verbose).isSome = true ∧ NamesFile files path ∧
    ResolvesBroken files environment options path classPath resources

/-- A run of the program that fails prints nothing, unless the headers break off. -/
theorem runProgram_isSilent_or [Release] (files : FileTree) (environment : Environment)
    (arguments : List String) :
    (runProgram files environment arguments).result.IsSilent ∨
      ∃ classPath resources, BreaksOff files environment arguments classPath resources := by
  rcases runProgram_cases files environment arguments with
    eventless | ⟨verbose, own, ⟨programOptions, isRead, noHelp, isVerbose⟩, settled, given⟩
  · exact .inl eventless.isSilent
  · rw [given]
    rcases runResolve_cases files environment own with
      eventless | ⟨options, path, isOwn, noHelp', named, resolved⟩
    · exact .inl eventless.isSilent
    · rw [resolved]
      refine (resolveDescriptor_isSilent_or files environment options path).imp_right ?_
      rintro ⟨classPath, resources, broken⟩
      exact ⟨classPath, resources, verbose, options, path,
        ⟨programOptions, own, isRead, noHelp, isVerbose, isOwn, noHelp'⟩, settled, named, broken⟩

/-- Where the headers break off, the first one has been printed. -/
theorem BreaksOff.isBrokenOff [Release] {files : FileTree} {environment : Environment}
    {arguments : List String} {classPath resources : Text}
    (breaksOff : BreaksOff files environment arguments classPath resources) :
    (runProgram files environment arguments).result.IsBrokenOff classPath resources := by
  obtain ⟨verbose, options, path, asks, settled, named, broken⟩ := breaksOff
  obtain ⟨logging, isLogging⟩ := Option.isSome_iff_exists.mp settled
  rw [runProgram_of_asks asks, resolveNamed_of_namesFile named, Environment.start, isLogging]
  exact isBrokenOff_resolveDescriptor broken

/-! ### Runs that end well -/

section Success

variable {files : FileTree} {environment : Environment} {options : List ResolveOption}

/-- A descriptor that is resolved well has been loaded, and its result is what is printed. -/
theorem exists_result_of_resolveDescriptor [Release] {path : Path}
    (ended : (resolveDescriptor files environment options path).exitCode = 0) :
    ∃ descriptor dependencies result,
      Descriptor.load files path = .ok (descriptor, dependencies) ∧
      (embedAll dependencies files
        (overriddenSettings descriptor.instructions.toSettings environment options)
        descriptor.existingHeaders).result = .ok result ∧
      (resolveDescriptor files environment options path).output =
        (RunResult.printing files (result.lines (options.contains .json))).output := by
  unfold resolveDescriptor at ended ⊢
  cases loaded : Descriptor.load files path with
  | error fault =>
      rw [loaded] at ended
      dsimp only at ended
      split at ended <;> cases ended
  | ok found =>
      rw [loaded] at ended
      obtain ⟨descriptor, dependencies⟩ := found
      dsimp only at ended ⊢
      split at ended
      · split at ended <;> cases ended
      · rename_i result resolved
        exact ⟨descriptor, dependencies, result, rfl, resolved, rfl⟩

/-- A path under which a descriptor is resolved well is that of a file. -/
theorem namesFile_of_exitCode [Release] {path : String}
    (ended : (resolveNamed files environment options path).exitCode = 0) :
    NamesFile files path := by
  unfold resolveNamed at ended
  split at ended
  · cases ended
  · rename_i noNull
    split at ended
    · cases ended
    · cases ended
    · rename_i entry notDirectory found
      exact ⟨noNull, entry, found, notDirectory⟩

/-- A run that ends well on a command line that asks for a descriptor has resolved it well. -/
theorem start_result_of_exitCode {verbose : Bool} {result : RunResult}
    (ended : (environment.start verbose files result).result.exitCode = 0) :
    (environment.start verbose files result).result = result := by
  unfold Environment.start at ended ⊢
  split at ended
  · cases ended
  · rfl

end Success

/-! ### Reports -/

section Report

variable {environment : Environment} {options : List ResolveOption}

/-- An option names a directory of characters. -/
theorem ResolveOption.unpaired_override {settings : Settings} (option : ResolveOption)
    (unpaired : ∀ text ∈ settings.directory, Unpaired text.toList) :
    ∀ text ∈ (option.override settings).directory, Unpaired text.toList := by
  cases option with
  | directory place =>
      rintro _ ⟨⟩
      exact unpaired_ofString place
  | stripGroup strip => exact unpaired
  | stripVersion strip => exact unpaired
  | json => exact unpaired
  | help => exact unpaired

/-- The directory of a run has no pairs if that of the descriptor has none. -/
theorem unpaired_overriddenSettings {settings : Settings}
    (unpaired : ∀ text ∈ settings.directory, Unpaired text.toList) :
    ∀ text ∈ (overriddenSettings settings environment options).directory,
      Unpaired text.toList := by
  unfold overriddenSettings
  apply List.foldlRecOn (motive := fun settings : Settings =>
    ∀ text ∈ settings.directory, Unpaired text.toList) _ _ unpaired
  intro settings isUnpaired option _
  exact option.unpaired_override isUnpaired

/-- What is resolved from a descriptor that has been loaded has texts without pairs. -/
theorem isUnpaired_of_resolved [Release] {files : FileTree} {path : String}
    {descriptor : Descriptor} {dependencies : List Dependency} {result : EmbedResult}
    (loaded : Descriptor.load files (Path.ofText path) = .ok (descriptor, dependencies))
    (resolved : (embedAll dependencies files
      (overriddenSettings descriptor.instructions.toSettings environment options)
      descriptor.existingHeaders).result = .ok result) : result.IsUnpaired := by
  obtain ⟨areUnpaired, existing, directory⟩ := Descriptor.isUnpaired_of_load loaded
  exact EmbedResult.isUnpaired_of_embedAll areUnpaired existing
    (unpaired_overriddenSettings directory) resolved

end Report

/-- A run that is asked for JSON and ends well prints a text in ASCII and a line feed, and the
text is read as the result of the descriptor: the coordinates of the inlined dependencies and of
the embedded ones in their orders, and the headers. A run that fails prints nothing, unless the
headers break off: then it has printed the first one. -/
theorem runProgram_report [Release] (files : FileTree) (environment : Environment)
    (arguments : List String) :
    let run := (runProgram files environment arguments).result
    (∀ verbose options path, AsksToResolve arguments verbose options path → .json ∈ options →
      run.exitCode = 0 →
      ∃ descriptor dependencies result text,
        Descriptor.load files (Path.ofText path) = .ok (descriptor, dependencies) ∧
        (embedAll dependencies files
          (overriddenSettings descriptor.instructions.toSettings environment options)
          descriptor.existingHeaders).result = .ok result ∧
        run.output.toList = text ++ ['\n'] ∧
        JsonText.IsPlain text ∧ text.getLast? = some '\x7d' ∧
        JsonText.read text = .ok (.object [
          ("inlined", .array (result.inlined.map (.string ·.coordinates))),
          ("embedded", .array (result.embedded.map (.string ·.coordinates))),
          ("headers",
            .object (result.headers.toPairs.map fun pair => (pair.1, .string pair.2)))])) ∧
      (run.exitCode ≠ 0 → run.output = "" ∨
        ∃ classPath resources, BreaksOff files environment arguments classPath resources) ∧
      (∀ classPath resources, BreaksOff files environment arguments classPath resources →
        run.IsBrokenOff classPath resources) := by
  intro run
  refine ⟨?_, ?_, fun classPath resources breaksOff => breaksOff.isBrokenOff⟩
  · intro verbose options path asks asJson ended
    have started : run = _ :=
      congrArg ProgramRun.result (runProgram_of_asks asks files environment)
    have named := started.trans (start_result_of_exitCode (started ▸ ended))
    rw [named] at ended ⊢
    have isFile : NamesFile files path := namesFile_of_exitCode ended
    rw [resolveNamed_of_namesFile isFile] at ended ⊢
    obtain ⟨descriptor, dependencies, result, loaded, resolved, output⟩ :=
      exists_result_of_resolveDescriptor ended
    have isJson : options.contains .json = true := List.contains_iff_mem.mpr asJson
    rw [isJson] at output
    obtain ⟨text, printed, plain, closed, isRead⟩ :=
      EmbedResult.printed (isUnpaired_of_resolved loaded resolved) files
    rw [← output] at printed
    exact ⟨descriptor, dependencies, result, text, loaded, resolved, printed, plain, closed,
      isRead⟩
  · intro failed
    exact (runProgram_isSilent_or files environment arguments).imp_left fun silent =>
      silent failed

/-! ### Texts that are hard to print -/

namespace HardTexts

/-- A group with a quote and a backslash. -/
def groupId : Text := "\"\\"

/-- An artifact with a control sequence, a character that two units write, and a surrogate. -/
def artifactId : Text := "\x1b[0m😀" ++ .ofList [.ofNat 0xdc00]

/-- The text of a descriptor, with an attribute in its clause. -/
def text (key : String) : String :=
  "\x7b\"dependencies\": [\x7b\"group_id\": \"\\\"\\\\\", " ++
  "\"artifact_id\": \"\\u001b[0m😀\\udc00\", \"version\": \"1\", \"file\": \"a.jar\"\x7d], " ++
  "\"instructions\": \x7b\"embed_dependency\": \x7b\"*\": \x7b\"" ++ key ++
  "\": \"1\"\x7d\x7d\x7d\x7d"

/-- The descriptor and the file of its dependency. -/
def files (key : String) : FileTree :=
  ⟨[(["run", "a.jar"], .file ByteArray.empty),
    (["run", "build.json"], .file (text key).toUTF8)], ["run"]⟩

/-- What the descriptor says. -/
def descriptor (key : String) : Descriptor where
  dependencies :=
    [⟨groupId, artifactId, "1", none, none, none, none, none, some "a.jar", none, true⟩]
  instructions := ⟨some [("*", some [(↑key, "1")])], none, some "true", none, none⟩
  headers := []

/-- The dependencies of the descriptor. -/
def dependencies (key : String) : List Dependency :=
  (descriptor key).dependenciesIn (Path.ofText "build.json").parent

/-- The environment leaves everything open. -/
def environment : Environment := ⟨none, none, none⟩

/-- JSON is asked for, and the groups are kept. -/
def options : List ResolveOption := [.json, .stripGroup false]

/-- The command. -/
def arguments : List String := ["resolve", "--json", "--keep-group", "build.json"]

/-- The command asks for the descriptor. -/
theorem asks : AsksToResolve arguments false options "build.json" :=
  @asksToResolve_words options "build.json" (by decide) (by decide)

/-- The file is loaded as the descriptor. -/
theorem loaded {key : String} (isKey : key ∈ ["version", "x"]) :
    NamesFile (files key) "build.json" ∧
      Descriptor.load (files key) (Path.ofText "build.json") =
        .ok (descriptor key, dependencies key) := by
  have facts : ∀ key ∈ ["version", "x"], NamesFile (files key) "build.json" ∧
      Descriptor.load (files key) (Path.ofText "build.json") =
        .ok (descriptor key, dependencies key) := by
    decide +kernel
  exact facts key isKey

/-- What the run gives. -/
def result : EmbedResult where
  inlined := []
  embedded := dependencies "version"
  headers := ⟨some ".,\"\\/a.jar", some "\"\\/a.jar=a.jar"⟩

/-- The settings of the run. -/
def settings : Settings :=
  overriddenSettings (descriptor "version").instructions.toSettings environment options

/-- This is what it gives. -/
theorem resolved : (embedAll (dependencies "version") (files "version") settings
    (descriptor "version").existingHeaders).result = .ok result :=
  embedAll_result_of_ordered (by decide +kernel)

end HardTexts

/-! ### Headers that break off -/

namespace BrokenHeaders

open HardTexts (environment)

/-- A text with a surrogate. -/
def resources : Text := .ofList [.ofNat 0xd800]

/-- The text of a descriptor with both headers. -/
def text : String :=
  "\x7b\"headers\": \x7b\"Bundle-ClassPath\": \"x\", \"Include-Resource\": \"\\ud800\"\x7d\x7d"

/-- The file of the descriptor. -/
def files : FileTree := ⟨[(["run", "build.json"], .file text.toUTF8)], ["run"]⟩

/-- What the descriptor says. -/
def descriptor : Descriptor where
  dependencies := []
  instructions := .standard
  headers := [("Bundle-ClassPath", some "x"), ("Include-Resource", some resources)]

/-- The command. -/
def arguments : List String := ["resolve", "build.json"]

/-- The command asks for the descriptor. -/
theorem asks : AsksToResolve arguments false [] "build.json" :=
  @asksToResolve_words [] "build.json" (by decide) List.not_mem_nil

/-- The file is loaded as the descriptor. -/
theorem loaded : NamesFile files "build.json" ∧
    Descriptor.load files (Path.ofText "build.json") = .ok (descriptor, []) := by
  decide +kernel

/-- The headers of the descriptor are left as they are, and break off. -/
theorem breaksOff : BreaksOff files environment arguments "x" resources := by
  obtain ⟨named, isLoaded⟩ := loaded
  have settled : (environment.logging? false).isSome = true := by decide +kernel
  refine ⟨false, [], "build.json", asks, settled, named, List.not_mem_nil, descriptor, [],
    ⟨[], [], descriptor.existingHeaders⟩, isLoaded, rfl, rfl, ?_, ?_⟩
  · exact Text.not_hasSurrogate_ofString "x"
  · exact ⟨.ofNat 0xd800, List.mem_cons_self, rfl⟩

end BrokenHeaders

open HardTexts in
theorem runProgram_report_hardTexts :
    let run := fun key => (runProgram (files key) environment arguments).result
    let broken := (runProgram BrokenHeaders.files environment BrokenHeaders.arguments).result
    AsksToResolve arguments false options "build.json" ∧ .json ∈ options ∧
      (run "version").exitCode = 0 ∧
      (∃ text, (run "version").output.toList = text ++ ['\n'] ∧
        JsonText.IsPlain text ∧ text.getLast? = some '\x7d' ∧
        JsonText.read text = .ok (.object [
          ("inlined", .array []),
          ("embedded", .array [.string (groupId ++ ":" ++ artifactId ++ ":jar:1")]),
          ("headers", .object [
            ("Bundle-ClassPath", .string ".,\"\\/a.jar"),
            ("Include-Resource", .string "\"\\/a.jar=a.jar")])])) ∧
      (run "x").exitCode ≠ 0 ∧ (run "x").output = "" ∧
      BreaksOff BrokenHeaders.files environment BrokenHeaders.arguments "x"
        BrokenHeaders.resources ∧
      broken.exitCode = 1 ∧ broken.output = "Bundle-ClassPath: x\n" := by
  intro run broken
  obtain ⟨named, isLoaded⟩ := loaded (.head ["x"])
  have logging : environment.logging? false = some ⟨20, .console⟩ := by decide +kernel
  have asJson : .json ∈ options := List.mem_cons_self
  have ended : (run "version").exitCode = 0 := by
    have given := runProgram_of_load asks named isLoaded environment
    have isOk := resolved
    unfold settings at isOk
    have isJson : options.contains .json = true := rfl
    simp only [run, given, Environment.start, logging, resolution, Outcome.told, isOk, isJson,
      EmbedResult.printing_json]
  have failed : (run "x").exitCode ≠ 0 ∧ (run "x").crash.isNone = true := by decide +kernel
  obtain ⟨descriptor', dependencies', result', text, isLoaded', resolved', printed, plain, closed,
    isRead⟩ := (runProgram_report (files "version") environment arguments).1 false options
      "build.json" asks asJson ended
  obtain ⟨rfl, rfl⟩ : descriptor "version" = descriptor' ∧ dependencies "version" = dependencies' :=
    Prod.mk.inj (Except.ok.inj (isLoaded.symm.trans isLoaded'))
  obtain rfl : result = result' := Except.ok.inj (resolved.symm.trans resolved')
  have silent : (run "x").output = "" := by
    obtain ⟨-, silentOr, brokenOff⟩ := runProgram_report (files "x") environment arguments
    rcases silentOr failed.1 with silent | ⟨classPath, resources, breaksOff⟩
    · exact silent
    · have crash := (brokenOff classPath resources breaksOff).crash
      exact absurd failed.2 (by simp [run, crash])
  have brokenOff := (runProgram_report BrokenHeaders.files environment
    BrokenHeaders.arguments).2.2 "x" BrokenHeaders.resources BrokenHeaders.breaksOff
  refine ⟨asks, asJson, ended, ⟨text, printed, plain, closed, ?_⟩, failed.1, silent,
    BrokenHeaders.breaksOff, brokenOff.exitCode, ?_⟩
  · have coordinates : result.embedded.map Dependency.coordinates =
        [groupId ++ ":" ++ artifactId ++ ":jar:1"] := by
      decide +kernel
    have strings : result.embedded.map (fun d => JsonValue.string d.coordinates) =
        [.string (groupId ++ ":" ++ artifactId ++ ":jar:1")] :=
      List.map_map.symm.trans (congrArg (List.map JsonValue.string) coordinates)
    rw [isRead, strings]
    rfl
  · exact Text.ofString_inj.mp (brokenOff.output.trans (by decide +kernel))

/-- A run that is asked for a descriptor and fails may have printed a header. -/
theorem not_runProgram_isSilent :
    ¬ ∀ (files : FileTree) (environment : Environment) (arguments : List String)
        (verbose : Bool) (options : List ResolveOption) (path : String),
      AsksToResolve arguments verbose options path → NamesFile files path →
        (runProgram files environment arguments).result.exitCode ≠ 0 →
          (runProgram files environment arguments).result.output = "" := by
  intro claimed
  have brokenOff := BrokenHeaders.breaksOff.isBrokenOff
  have failed : (runProgram BrokenHeaders.files HardTexts.environment
      BrokenHeaders.arguments).result.exitCode ≠ 0 := by
    rw [brokenOff.exitCode]
    exact one_ne_zero
  have silent :=
    claimed _ _ _ false [] "build.json" BrokenHeaders.asks BrokenHeaders.loaded.1 failed
  have output := brokenOff.output
  rw [silent] at output
  exact absurd output (by decide +kernel)

end BundleEmbed
