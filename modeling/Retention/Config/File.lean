import Retention.Config.Yaml

/-!
# Configuration files

A configuration file holds YAML in UTF-8.  What stands at a path is given from outside: a file with
its bytes, a directory, or nothing.
-/

namespace Retention

/-- What stands at a path. -/
inductive FileEntry where
  | nothing
  | directory
  | file (content : ByteArray)

def FileEntry.text : FileEntry → Except FileFault String
  | nothing => .error .missing
  | directory => .error .directory
  | file content =>
    match String.fromUTF8? content with
    | some text => .ok text
    | none => .error .notUtf8

namespace Config

/-- The configuration that a YAML text writes. -/
def ofYaml (text : String) : Except ConfigError Config :=
  match ofYaml? text with
  | some config => .ok config
  | none => .error .unreadableText

/-- The configuration in the file at a path. -/
def ofFile (path : String) (entry : FileEntry) : Except ConfigError Config :=
  match entry.text with
  | .error fault => .error (.unreadableFile path fault)
  | .ok text => ofYaml text

end Config

end Retention
