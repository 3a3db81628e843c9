import Retention.Pruner.Error

/-!
# The trace of a pass

A trace tells, in order, what a pass did: the calls it made with their answers, what it reported to
the log, and what others wrote to the log during its calls.
-/

namespace Retention

/-! ## Reports -/

/-- What a pass reports to the log. -/
inductive Notice where
  | started (request : ListRequest) (mode : String) (dryRun : Bool)
  | cancelledWhileListing (type : TypeIdentifier)
  | listFailed (type : TypeIdentifier) (error : StoreError)
  | skippedPreserved (resource : ResourceKey)
  | skippedUnprunable (resource : ResourceKey) (reason : String)
  | checkFailed (resource : ResourceKey) (error : PredicateError)
  | strategyFailed (type : TypeIdentifier) (error : StrategyError)
  | strategySelected (type : TypeIdentifier) (listed candidates selected : Nat)
  | wouldDelete (resource : ResourceKey)
  | dryRunComplete (type : TypeIdentifier) (selected : Nat)
  | cancelledBeforeDeletion (deleted : Nat)
  | hookFailed (resource : ResourceKey) (text : String)
  | cancelledDuringDeletion (resource : ResourceKey) (deleted : Nat)
  | deleteFailed (resource : ResourceKey) (error : StoreError)
  | deleted (resource : ResourceKey)
  | complete (type : TypeIdentifier) (deleted : Nat)
  deriving DecidableEq

namespace Notice

def typeField (type : TypeIdentifier) : String × String := ("type_id", type.display)

def resourceField (resource : ResourceKey) : String × String := ("resource", resource.display)

def record : Notice → LogRecord
  | started request mode dryRun =>
    ⟨.info, "Starting prune pass",
      [typeField request.type, ("namespace", request.ns.getD "<all>"),
        ("selector", request.selector.getD ""), ("strategy", mode),
        ("dry_run", if dryRun then "true" else "false")]⟩
  | cancelledWhileListing type =>
    ⟨.warn, "Prune pass cancelled while listing", [typeField type]⟩
  | listFailed type error =>
    ⟨.error, "Failed to list resources", [typeField type, ("error", error.message)]⟩
  | skippedPreserved resource => ⟨.debug, "Skipping preserved resource", [resourceField resource]⟩
  | skippedUnprunable resource reason =>
    ⟨.debug, "Skipping unprunable resource", [resourceField resource, ("reason", reason)]⟩
  | checkFailed resource error =>
    ⟨.error, "Prunability check failed", [resourceField resource, ("error", error.message)]⟩
  | strategyFailed type error =>
    ⟨.error, "Strategy failed", [typeField type, ("error", error.message)]⟩
  | strategySelected type listed candidates selected =>
    ⟨.debug, "Strategy selected resources",
      [typeField type, ("listed", toString listed), ("candidates", toString candidates),
        ("selected", toString selected)]⟩
  | wouldDelete resource => ⟨.debug, "Would delete (dry run)", [resourceField resource]⟩
  | dryRunComplete type selected =>
    ⟨.info, "Dry run complete, nothing deleted", [typeField type, ("selected", toString selected)]⟩
  | cancelledBeforeDeletion count =>
    ⟨.warn, "Prune pass cancelled before deletion", [("deleted", toString count)]⟩
  | hookFailed resource text =>
    ⟨.error, "Pre-delete hook failed", [resourceField resource, ("error", text)]⟩
  | cancelledDuringDeletion resource count =>
    ⟨.warn, "Prune pass cancelled during deletion",
      [resourceField resource, ("deleted", toString count)]⟩
  | deleteFailed resource error =>
    ⟨.error, "Failed to delete resource", [resourceField resource, ("error", error.message)]⟩
  | deleted resource => ⟨.debug, "Deleted resource", [resourceField resource]⟩
  | complete type count =>
    ⟨.info, "Prune pass complete", [typeField type, ("deleted", toString count)]⟩

end Notice

/-! ## Events -/

/-- One thing that a pass did, or that happened during one of its calls. -/
inductive Event where
  | listed (request : ListRequest) (answer : Awaited (List Object))
  | judged (object : Object) (verdict : Verdict)
  | selected (candidates : List Object) (answer : Except StrategyError (List Object))
  | hooked (object : Object) (answer : Except String Unit)
  | deleted (type : TypeIdentifier) (object : Object) (answer : Awaited Unit)
  /-- The pass reported something. -/
  | reported (notice : Notice)
  /-- Something was written to the log during a call. -/
  | noted (record : LogRecord)

def Event.record? : Event → Option LogRecord
  | reported notice => some notice.record
  | noted record => some record
  | _ => none

/-- The log that a trace leaves. -/
def logOf (trace : List Event) : List LogRecord :=
  trace.filterMap Event.record?

end Retention
