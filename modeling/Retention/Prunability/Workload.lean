import Retention.Prunability.Error

/-!
# Pods and jobs

What the built-in predicates read of a pod and of a job, and their verdicts: a pod may be removed
once it has succeeded, a job once it has completed.

The objects are decoded from JSON.  Type and version, where they are given, have to be the right
ones; null stands for absent and unknown members do not count.
-/

namespace Retention

/-! ## Decoding -/

/-- Whether a member is absent or satisfies `p`. -/
def memberSatisfies (json : Json) (name : String) (p : Json → Bool) : Bool :=
  match json.member? name with
  | none => true
  | some value => p value

/-- Whether a JSON object names the type `t`, or leaves its type out. -/
def namesType (t : TypeIdentifier) (json : Json) : Bool :=
  memberSatisfies json "apiVersion" (· == .string t.apiVersion) &&
    memberSatisfies json "kind" (· == .string t.kind)

/-- The metadata of a typed object, blank where there is none. -/
def readTypedMetadata? (json : Json) : Option Metadata := do
  let metadata ← Metadata.readMember? json "metadata" Metadata.ofJson?
  some (metadata.getD .blank)

/-- What is read of a pod. -/
structure Pod where
  metadata : Metadata
  phase : Option String
  deriving DecidableEq

/-- What is read of a job. -/
structure Job where
  metadata : Metadata
  completedAt : Option Instant
  deriving DecidableEq

/-- The members of an object that the reader of a type needs: of the type `t`, with a specification
that is an object, its metadata, and its status. -/
def readTyped? (t : TypeIdentifier) (json : Json) : Option (Metadata × Option Json) := do
  let _ ← json.members?
  if namesType t json && memberSatisfies json "spec" (nullOr fun spec => spec.members?.isSome) then
    let metadata ← readTypedMetadata? json
    let status ← Metadata.readMember? json "status" fun status =>
      status.members?.map fun _ => status
    some (metadata, status)
  else none

def Pod.ofJson? (json : Json) : Option Pod := do
  let (metadata, status) ← readTyped? .pod json
  match status with
  | none => some ⟨metadata, none⟩
  | some status =>
    if memberSatisfies status "reason" (nullOr isText) &&
        memberSatisfies status "message" (nullOr isText) &&
        memberSatisfies status "startTime" (nullOr Metadata.isInstant) then
      some ⟨metadata, ← Metadata.readMember? status "phase" Json.string?⟩
    else none

def Job.ofJson? (json : Json) : Option Job := do
  let (metadata, status) ← readTyped? .job json
  match status with
  | none => some ⟨metadata, none⟩
  | some status =>
    if memberSatisfies status "active" (nullOr isSmallInteger) &&
        memberSatisfies status "succeeded" (nullOr isSmallInteger) &&
        memberSatisfies status "failed" (nullOr isSmallInteger) &&
        memberSatisfies status "startTime" (nullOr Metadata.isInstant) then
      some ⟨metadata, ← Metadata.readMember? status "completionTime" Metadata.readInstant?⟩
    else none

/-! ## Verdicts -/

def Metadata.key (m : Metadata) : ResourceKey := ⟨m.ns, m.name.getD ""⟩

def succeededPhase : String := "Succeeded"

/-- A pod may be removed once it has succeeded. -/
def Pod.verdict (pod : Pod) : Verdict :=
  if pod.phase = some succeededPhase then .ok ()
  else .error (.unprunable pod.metadata.key "Pod has not succeeded")

/-- A job may be removed once it has a completion time. -/
def Job.verdict (job : Job) : Verdict :=
  if job.completedAt.isSome then .ok ()
  else .error (.unprunable job.metadata.key "Job has not completed")

end Retention
