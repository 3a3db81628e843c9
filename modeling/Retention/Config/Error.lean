import Retention.Duration.Basic
import Retention.Label

/-!
# Configuration errors

Why the settings of a pruner are refused.  Each constructor is a cause; `ConfigError.message` puts
it into words.
-/

namespace Retention

/-- The parts of a type that must not be empty. -/
inductive TypeField where
  | version
  | kind
  deriving DecidableEq, Repr

def TypeField.name : TypeField → String
  | version => "version"
  | kind => "kind"

/-- What is wrong with a greatest age. -/
inductive AgeFault where
  | unreadable (error : DurationError)
  | negative
  deriving DecidableEq, Repr

def AgeFault.message : AgeFault → String
  | unreadable error => error.message
  | negative => "duration must not be negative"

/-- Why a file cannot be read as a text. -/
inductive FileFault where
  | missing
  | directory
  | notUtf8
  deriving DecidableEq, Repr

def FileFault.message : FileFault → String
  | missing => "No such file or directory (os error 2)"
  | directory => "Is a directory (os error 21)"
  | notUtf8 => "stream did not contain valid UTF-8"

/-- Why settings are refused. -/
inductive ConfigError where
  | emptyTypeField (field : TypeField)
  | emptyNamespace
  | invalidLabel (fault : LabelFault)
  | negativeMaxCount (count : Int64)
  | invalidMaxAge (age : String) (fault : AgeFault)
  | missingCustomStrategy
  | unreadableFile (path : String) (fault : FileFault)
  | unreadableText
  deriving DecidableEq

namespace ConfigError

def labelMessage : LabelFault → String
  | .key key fault => "Invalid label key '" ++ key ++ "': " ++ fault.message
  | .value key value fault =>
    "Invalid value '" ++ value ++ "' for label '" ++ key ++ "': " ++ fault.message "value"

def message : ConfigError → String
  | emptyTypeField field => "Type identifier must have a non-empty " ++ field.name
  | emptyNamespace => "Namespace must not be empty when set"
  | invalidLabel fault => labelMessage fault
  | negativeMaxCount count => "Max count must be >= 0, got " ++ toString count.toInt
  | invalidMaxAge age fault => "Invalid max age '" ++ age ++ "': " ++ fault.message
  | missingCustomStrategy => "Custom strategy selected but no strategy function was supplied"
  | unreadableFile path fault =>
    "Failed to read pruner configuration '" ++ path ++ "': " ++ fault.message
  | unreadableText => "Failed to parse pruner configuration"

end ConfigError

end Retention
