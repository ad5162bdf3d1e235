import BundleEmbed.Clause
import BundleEmbed.Properties

/-!
The settings of an embedding: its clauses, the directory inside of the bundle, and the
flags that shape the places of files in it.
-/

namespace BundleEmbed

/-- The settings of one pass. -/
structure Settings where
  clauses : List Clause
  directory : Option Text
  stripGroup : Bool
  stripVersion : Bool
  /-- dependencies of dependencies are candidates as well -/
  transitive : Bool
  deriving DecidableEq, Repr

namespace Settings

/-- Without any setting, files are placed without a group directory. -/
def standard : Settings := ⟨[], none, true, false, false⟩

/-- The keys of the settings among the properties of a bundle. -/
def directoryKey : Text := "Embed-Directory"

@[inherit_doc directoryKey] def stripGroupKey : Text := "Embed-StripGroup"

@[inherit_doc directoryKey] def stripVersionKey : Text := "Embed-StripVersion"

@[inherit_doc directoryKey] def transitiveKey : Text := "Embed-Transitive"

/-- The settings that properties make, with the clauses of a header. Only the group flag
is set where its key is absent; a key without a text does not set a flag. -/
def ofProperties (properties : Properties) (header : Option ClauseHeader) : Settings where
  clauses := Clause.ofHeader (header.getD [])
  directory := properties.text? directoryKey
  stripGroup := isSet ((properties.lookup stripGroupKey).getD (some "true"))
  stripVersion := isSet (properties.text? stripVersionKey)
  transitive := isSet (properties.text? transitiveKey)

end Settings

end BundleEmbed
