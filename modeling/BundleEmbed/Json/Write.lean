import BundleEmbed.Json.Value
import BundleEmbed.Text.Quoted

/-!
Writing JSON texts in ASCII.

What is written is an outline: texts, flags and counts in lists and records. It is laid
out in lines, each item and member on a line of its own, or all in one line. A character
outside of ASCII is written by the one or two units that encode it, and a surrogate by
itself.
-/

namespace BundleEmbed

/-- A tree of texts, flags and counts. -/
inductive Outline where
  | text (text : Text)
  | flag (flag : Bool)
  | count (number : Nat)
  | list (items : List Outline)
  | record (members : List (Text × Outline))
  deriving Repr

mutual

/-- The value that an outline is. -/
def Outline.toValue : Outline → JsonValue
  | .text content => .string content
  | .flag isSet => .bool isSet
  | .count number => .integer number
  | .list items => .array (Outline.toValues items)
  | .record members => .object (Outline.toMembers members)

/-- The values of items. -/
def Outline.toValues : List Outline → List JsonValue
  | [] => []
  | item :: later => item.toValue :: Outline.toValues later

/-- The members of a record. -/
def Outline.toMembers : List (Text × Outline) → List (Text × JsonValue)
  | [] => []
  | (name, item) :: later => (name, item.toValue) :: Outline.toMembers later

end

namespace JsonText

/-- An escape with the four digits of a unit. -/
def writeUnit (unit : Nat) : List Char := ['\\', 'u'] ++ Quoted.hex 4 unit

/-- A character inside of a string. -/
def writeChar (c : Char) : List Char :=
  if c = '"' then ['\\', '"']
  else if c = '\\' then ['\\', '\\']
  else if c = '\n' then ['\\', 'n']
  else if c = '\r' then ['\\', 'r']
  else if c = '\t' then ['\\', 't']
  else if c = '\x0c' then ['\\', 'f']
  else if c = '\x08' then ['\\', 'b']
  else if ' ' ≤ c ∧ c ≤ '~' then [c]
  else if c.toNat < 0x10000 then writeUnit c.toNat
  else
    let offset := c.toNat - 0x10000
    writeUnit (0xd800 + offset / 0x400) ++ writeUnit (0xdc00 + offset % 0x400)

/-- A sign inside of a string. -/
def writeSign : Sign → List Char
  | .char c => writeChar c
  | .surrogate offset => writeUnit (Sign.surrogate offset).toNat

/-- A string. -/
def writeString (text : Text) : List Char := '"' :: text.toList.flatMap writeSign ++ ['"']

/-- How parts are set apart, at a depth of nesting. -/
structure Layout where
  /-- before the first and after the last part -/
  edge : Nat → List Char
  /-- between two parts, after the comma -/
  gap : Nat → List Char

/-- A line for each part, indented by two blanks for each level. -/
def Layout.lines : Layout :=
  let line := fun depth => '\n' :: List.replicate (2 * depth) ' '
  ⟨line, line⟩

/-- All parts in one line. -/
def Layout.inline : Layout := ⟨fun _ => [], fun _ => [' ']⟩

/-- Parts between two brackets; without parts nothing stands between them. -/
def Layout.enclose (layout : Layout) (depth : Nat) (opening closing : Char) (parts : List Char) :
    List Char :=
  if parts = [] then [opening, closing]
  else opening :: layout.edge (depth + 1) ++ parts ++ layout.edge depth ++ [closing]

mutual

/-- An outline at a depth of nesting. -/
def writeAt (layout : Layout) (depth : Nat) : Outline → List Char
  | .text text => writeString text
  | .flag flag => if flag then "true".toList else "false".toList
  | .count number => Nat.toDigits 10 number
  | .list items => layout.enclose depth '[' ']' (writeItems layout (depth + 1) items)
  | .record members =>
      layout.enclose depth '\x7b' '\x7d' (writeMembers layout (depth + 1) members)

/-- Items, separated by commas. -/
def writeItems (layout : Layout) (depth : Nat) : List Outline → List Char
  | [] => []
  | [item] => writeAt layout depth item
  | item :: later =>
      writeAt layout depth item ++ ',' :: layout.gap depth ++ writeItems layout depth later

/-- Members, separated by commas. -/
def writeMembers (layout : Layout) (depth : Nat) : List (Text × Outline) → List Char
  | [] => []
  | [(name, item)] => writeString name ++ ':' :: ' ' :: writeAt layout depth item
  | (name, item) :: later =>
      writeString name ++ ':' :: ' ' :: writeAt layout depth item ++
        ',' :: layout.gap depth ++ writeMembers layout depth later

end

/-- The text of an outline. -/
def write (layout : Layout) (outline : Outline) : String :=
  String.ofList (writeAt layout 0 outline)

end JsonText

end BundleEmbed
