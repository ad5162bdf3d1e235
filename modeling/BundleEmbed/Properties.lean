import BundleEmbed.Mapping

/-!
Properties of a bundle: texts under keys. A key may be present without a text.
-/

namespace BundleEmbed

/-- Keys with their texts. -/
abbrev Properties := Mapping (Option Text)

/-- The text under a key, if the key is present and has one. -/
def Properties.text? (properties : Properties) (key : Text) : Option Text :=
  (properties.lookup key).join

end BundleEmbed
