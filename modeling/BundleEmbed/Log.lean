import BundleEmbed.Embedding
import BundleEmbed.Json.Write

/-!
Telling what has happened.

Each event has a severity, and is told when its severity reaches a threshold, which a
level names. It is told as a JSON object or as a line for readers, in which a text with
blanks, quotes or an equals sign stands in quotation marks. A surrogate is shown by its
code point.
-/

namespace BundleEmbed

/-! ### Levels -/

/-- The letter of a level's name in capitals. Besides the small letters of ASCII there are
two more letters whose capitals are in ASCII. -/
def capital (c : Char) : Char :=
  if c = 'ı' then 'I' else if c = 'ſ' then 'S' else c.toUpper

/-- The levels by name, each with the least severity that it lets through. -/
def levels : List (String × Nat) := [
  ("NOTSET", 0), ("DEBUG", 10), ("INFO", 20), ("WARN", 30), ("WARNING", 30), ("ERROR", 40),
  ("CRITICAL", 50), ("FATAL", 50)]

/-- The threshold that a level names, in any mixture of capital and small letters. -/
def thresholdOf? (level : String) : Option Nat := levels.lookup (level.map capital)

/-- How events are told. -/
inductive LogFormat where
  | json
  | console
  deriving DecidableEq, Repr

/-- The format of a name; every other name asks for lines. -/
def LogFormat.ofName (name : String) : LogFormat :=
  if name.map Char.toLower = "json" then .json else .console

/-! ### Records -/

/-- An event as it is told. The fields are in the order of their names. -/
structure LogRecord where
  event : String
  level : String
  severity : Nat
  logger : String
  fields : List (String × Outline)

/-- The record of an event. -/
def Event.record : Event → LogRecord
  | .clauseApplied applied => {
      event := "filters.clause_applied", level := "debug", severity := 10
      logger := "depembed.filters"
      fields := [("inline", .flag applied.inline), ("matched", .count applied.matched),
        ("pattern", .text applied.pattern)] }
  | .resolved clauses candidates inlined embedded => {
      event := "embedder.resolved", level := "info", severity := 20
      logger := "depembed.embedder"
      fields := [("candidates", .count candidates), ("clauses", .count clauses),
        ("embedded", .count embedded), ("inlined", .count inlined)] }

/-- A record as an object. -/
def LogRecord.outline (record : LogRecord) : Outline :=
  let about : List (Text × Outline) :=
    [("event", .text record.event), ("level", .text record.level), ("logger", .text record.logger)]
  .record (record.fields.map (fun (name, value) => (Text.ofString name, value)) ++ about)

/-- The characters for which a text in a line stands in quotation marks. -/
def lineQuoted : List Char := [' ', '\t', '=', '\r', '\n', '"', '\'']

/-- A text in a line. -/
def lineText (text : Text) : String :=
  if text.toList.any (Sign.isChar (lineQuoted.contains ·)) then quoted text else text.shown

/-- The value of a field in a line. -/
def lineValue : Outline → String
  | .text text => lineText text
  | .flag flag => if flag then "True" else "False"
  | .count number => toString number
  | _ => ""

/-- A record as a line: level, event, logger and the fields. -/
def LogRecord.line (record : LogRecord) : String :=
  " ".intercalate (["[" ++ record.level, "]", record.event, "[" ++ record.logger ++ "]"] ++
    record.fields.map fun (name, value) => name ++ "=" ++ lineValue value)

/-- A record in a format. -/
def LogRecord.text (record : LogRecord) : LogFormat → String
  | .json => JsonText.write .inline record.outline
  | .console => record.line

/-- The records that reach a threshold. -/
def recordsFrom (threshold : Nat) (events : List Event) : List LogRecord :=
  (events.map Event.record).filter (threshold ≤ ·.severity)

end BundleEmbed
