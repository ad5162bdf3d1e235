import BundleEmbed.Json.Write

/-!
The template of a descriptor, for a build with two dependencies.
-/

namespace BundleEmbed

/-- A dependency of the template. -/
def templateDependency (group artifact version scope : String) : Outline :=
  .record [("group_id", .text group), ("artifact_id", .text artifact),
    ("version", .text version), ("scope", .text scope),
    ("file", .text ("lib/" ++ artifact ++ "-" ++ version ++ ".jar")), ("extension", .text "jar")]

/-- The template. -/
def descriptorTemplate : Outline :=
  .record [
    ("dependencies", .list [
      templateDependency "com.acme" "widget" "1.2.0" "compile",
      templateDependency "org.example" "helpers" "0.3.1" "runtime"]),
    ("instructions", .record [
      ("embed_dependency", .record [
        ("widget", .record [("scope", .text "compile")]),
        ("helpers", .record [("inline", .text "true")])]),
      ("embed_directory", .text "lib"),
      ("embed_strip_group", .text "true"),
      ("embed_strip_version", .text "false")]),
    ("headers", .record [])]

/-- The text of the template. -/
def descriptorTemplateText : String := JsonText.write .lines descriptorTemplate ++ "\n"

end BundleEmbed
