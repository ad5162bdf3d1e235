import BundleEmbed.Mapping
import BundleEmbed.Number.Binary64

/-!
The values of JSON texts, with the numbers that are no numbers.
-/

namespace BundleEmbed

/-- A JSON value. Members keep the order in which their keys come first. -/
inductive JsonValue where
  | null
  | bool (flag : Bool)
  | integer (number : Int)
  | decimal (number : Decimal)
  | notANumber
  | infinite (negative : Bool)
  | string (text : Text)
  | array (items : List JsonValue)
  | object (members : List (Text × JsonValue))
  deriving Repr

end BundleEmbed
