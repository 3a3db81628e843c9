import Retention.Resource.Metadata
import Retention.Text.Basic

/-!
# The preserve annotation

An object can ask to be kept, whatever the limits say, by an annotation that says `true`.
-/

namespace Retention

def preserveAnnotation : String := "prune.operator-patterns.dev/preserve"

/-- Whether a text says `true`, in any case of its letters and with blanks around it. -/
def saysTrue (text : String) : Bool :=
  (Text.trim text.toList).map Char.toLower = ['t', 'r', 'u', 'e']

/-- Whether an object with this metadata asks to be kept. -/
def Metadata.isPreserved (m : Metadata) : Bool :=
  match m.annotations.bind (·.get? preserveAnnotation) with
  | some text => saysTrue text
  | none => false

end Retention
