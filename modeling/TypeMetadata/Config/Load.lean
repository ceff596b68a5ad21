import TypeMetadata.Config.Table
import TypeMetadata.Config.Validity
import TypeMetadata.Toml.Document

/-!
Reading settings from a text or from the contents of a file.
-/

namespace TypeMetadata

inductive ConfigError
  /-- There is no file, or its contents are not a text. -/
  | unreadable
  /-- The text is not a document, or holds a number that cannot be read, or gives a setting a value
  of the wrong sort. -/
  | malformed
  | invalid (problem : ConfigProblem)
deriving DecidableEq

def ConfigProblem.complaint (problem : ConfigProblem) : String :=
  s!"invalid config: {problem.message}"

namespace Config

def accepted (config : Config) : Except ConfigError Config :=
  match config.validate with
  | .ok () => .ok config
  | .error problem => .error (.invalid problem)

/-- The table that a parser finds in a text, if everything in it can be read that settings need. -/
def readableTable? (parse : String → Option Toml.Table) (text : String) : Option Toml.Table :=
  (parse text).filter isReadable

/-- The settings that a text gives to those who read it with some parser. -/
def ofTextBy (parse : String → Option Toml.Table) (text : String) : Except ConfigError Config :=
  match (readableTable? parse text).bind ofTable? with
  | some config => config.accepted
  | none => .error .malformed

def ofText : String → Except ConfigError Config :=
  ofTextBy Toml.Table.ofText?

def ofContents (contents : Option ByteArray) : Except ConfigError Config :=
  match contents.bind String.fromUTF8? with
  | some text => ofText text
  | none => .error .unreadable

end Config

end TypeMetadata
