import Retention.Resource.Object

/-!
# Verdicts against removal

Why an object may not be removed: its type's predicate vetoes it, or the question could not be
answered.  Only a veto lets a pass go on.
-/

namespace Retention

/-- Why an object is not found prunable. -/
inductive PredicateError where
  /-- The object must stay for now. -/
  | unprunable (resource : ResourceKey) (reason : String)
  /-- The object does not decode as the type `target` of its predicate. -/
  | conversion (resource : ResourceKey) (target : String)
  /-- The object does not say which type it is of. -/
  | missingTypeMeta (resource : ResourceKey)
  | other (text : String)
  deriving DecidableEq, Repr

abbrev Verdict := Except PredicateError Unit

instance : DecidableEq Verdict := fun a b =>
  match a, b with
  | .ok (), .ok () => .isTrue rfl
  | .ok (), .error _ => .isFalse nofun
  | .error _, .ok () => .isFalse nofun
  | .error e, .error f =>
    if h : e = f then .isTrue (congrArg _ h) else .isFalse fun hef => h (Except.error.inj hef)

namespace PredicateError

/-- Whether an error is a veto. -/
def isUnprunable : PredicateError → Bool
  | unprunable _ _ => true
  | _ => false

def message : PredicateError → String
  | unprunable resource reason => "unable to prune " ++ resource.display ++ ": " ++ reason
  | conversion resource target =>
    "Failed to convert " ++ resource.display ++ " into " ++ target
  | missingTypeMeta resource => resource.display ++ " carries no apiVersion and kind"
  | other text => text

end PredicateError

end Retention
