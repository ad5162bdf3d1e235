import BundleEmbed.Text.Alphanumeric
import BundleEmbed.Text.Blank
import BundleEmbed.Text.DecimalDigit

/-!
The regular expressions of a pattern, as trees.

A character is tested by its code point, since an expression may name code points
that are no characters; such a test never holds. Sequences and alternatives are
binary, so that every definition on expressions is a plain recursion. The repetition
of a single character is a form of its own, as it is searched in a way of its own.
-/

namespace BundleEmbed.Regex

/-- The classes of characters that have a letter of their own. -/
inductive Category where
  | digit
  | blank
  | word
  deriving DecidableEq, Repr

/-- A word is made of letters and numerals of all scripts, and the low line. -/
def isWordChar (c : Sign) : Bool := isAlphanumeric c || c == '_'

/-- Which characters a class holds. -/
def Category.holds : Category → Sign → Bool
  | .digit, c => isDecimalDigit c
  | .blank, c => isBlank c
  | .word, c => isWordChar c

/-- A member of a set. -/
inductive SetItem where
  | code (point : Nat)
  | range (low high : Nat)
  | category (kind : Category) (negated : Bool)
  deriving DecidableEq, Repr

/-- A range holds its two ends, and a negated class what the class does not hold. -/
def SetItem.holds : SetItem → Sign → Bool
  | .code point, c => c.toNat == point
  | .range low high, c => low ≤ c.toNat && c.toNat ≤ high
  | .category kind negated, c => kind.holds c != negated

/-- What is asked of one character. -/
inductive CharTest where
  /-- any character but the line feed -/
  | anyInLine
  | code (point : Nat)
  | notCode (point : Nat)
  | set (items : List SetItem) (negated : Bool)
  deriving DecidableEq, Repr

/-- Whether a character passes a test. A set holds what one of its members holds. -/
def CharTest.holds : CharTest → Sign → Bool
  | .anyInLine, c => c != .char '\n'
  | .code point, c => c.toNat == point
  | .notCode point, c => c.toNat != point
  | .set items negated, c => items.any (·.holds c) != negated

/-- The test of a set in brackets, in which a repeated member counts once. A set of one
code point is no set. -/
def CharTest.ofItems (items : List SetItem) (negated : Bool) : CharTest :=
  match items.eraseDups, negated with
  | [.code point], false => .code point
  | [.code point], true => .notCode point
  | items, negated => .set items negated

/-- What is asked of a place between two characters. -/
inductive Assertion where
  | textStart
  | textEnd
  /-- the end of the text, or the place before a line feed that ends it -/
  | lastLineEnd
  | wordEdge
  | noWordEdge
  deriving DecidableEq, Repr

/-- The least number that no repetition can count. -/
def repeatLimit : Nat := 4294967295

/-- How often a repetition runs; without `most` there is no upper limit. -/
structure Bounds where
  least : Nat
  most : Option Nat
  deriving DecidableEq, Repr

/-- A regular expression. Groups are numbered from one in the order of their opening
parentheses. A possessive repetition never gives back what it has taken. -/
inductive Node where
  | empty
  /-- what follows the last alternative -/
  | never
  | one (test : CharTest)
  | assertion (claim : Assertion)
  /-- the text that a group holds, once more -/
  | reference (group : Nat)
  | group (index : Nat) (body : Node)
  | both (first second : Node)
  | either (first second : Node)
  /-- a repetition of one character -/
  | many (bounds : Bounds) (possessive : Bool) (test : CharTest)
  /-- a repetition of anything else -/
  | loop (bounds : Bounds) (possessive : Bool) (body : Node)
  deriving DecidableEq, Repr

/-- Expressions one after the other. -/
def Node.sequence (nodes : List Node) : Node := nodes.foldr .both .empty

@[simp] theorem Node.sequence_nil : Node.sequence [] = .empty := rfl

@[simp] theorem Node.sequence_cons (node : Node) (nodes : List Node) :
    Node.sequence (node :: nodes) = .both node (Node.sequence nodes) := rfl

/-- Sequences of which one is to match. -/
def Node.choice (alternatives : List (List Node)) : Node :=
  alternatives.foldr (fun nodes later => .either (Node.sequence nodes) later) .never

@[simp] theorem Node.choice_nil : Node.choice [] = .never := rfl

@[simp] theorem Node.choice_cons (nodes : List Node) (alternatives : List (List Node)) :
    Node.choice (nodes :: alternatives) =
      .either (Node.sequence nodes) (Node.choice alternatives) := rfl

/-- The repetition of an expression. -/
def Node.repeated (bounds : Bounds) (possessive : Bool) : Node → Node
  | .one test => .many bounds possessive test
  | body => .loop bounds possessive body

/-- A repetition, which may not be repeated again. -/
def Node.isRepeated : Node → Bool
  | .many .. => true
  | .loop .. => true
  | _ => false

/-- The test of the first character, of an expression that starts with one. -/
def Node.opening? : Node → Option CharTest
  | .one test => some test
  | .both first _ => first.opening?
  | _ => none

end BundleEmbed.Regex
