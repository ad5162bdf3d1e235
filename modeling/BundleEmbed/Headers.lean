import BundleEmbed.Properties

/-!
The two headers of a bundle that embedding extends.

Both are lists of entries, separated by commas. A header that is absent differs from
an empty one: the class path of a bundle without one starts with the bundle itself,
which a full stop names.
-/

namespace BundleEmbed

/-- The running values of the two headers; an absent one has no value yet. -/
structure Headers where
  classPath : Option Text
  resources : Option Text
  deriving DecidableEq, Repr

namespace Headers

/-- The key of the class path. -/
def classPathKey : Text := "Bundle-ClassPath"

/-- The key of the resources. -/
def resourcesKey : Text := "Include-Resource"

/-- Neither header has a value. -/
def absent : Headers := ⟨none, none⟩

/-- The headers among properties. -/
def ofProperties (properties : Properties) : Headers :=
  ⟨properties.text? classPathKey, properties.text? resourcesKey⟩

/-- The headers that have a value, under their keys. -/
def toPairs (headers : Headers) : List (Text × Text) :=
  (headers.classPath.map (classPathKey, ·)).toList ++
    (headers.resources.map (resourcesKey, ·)).toList

/-- The properties with the headers that have a value. -/
def applyTo (headers : Headers) (properties : Properties) : Properties :=
  headers.toPairs.foldl (fun known (key, text) => known.set key (some text)) properties

/-- An entry after those that are there, if any. -/
def appendEntry (entries entry : Text) : Text :=
  if entries = "" then entry else entries ++ "," ++ entry

/-- One more entry of the class path. The first entry of a bundle without one comes after
the bundle itself. -/
def appendClassPath (headers : Headers) (entry : Text) : Headers :=
  { headers with classPath := some (appendEntry (headers.classPath.getD ".") entry) }

/-- One more resource. -/
def appendResource (headers : Headers) (entry : Text) : Headers :=
  { headers with resources := some (appendEntry (headers.resources.getD "") entry) }

end Headers

end BundleEmbed
