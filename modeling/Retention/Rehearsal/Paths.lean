import Retention.Config.File
import Retention.Text.Basic

/-!
# The bare file tree

The file tree that configurations are looked for in at a rehearsal: the root, the directories that a
system has right below it, and nothing else.
-/

namespace Retention

/-- The directories right below the root. -/
def topDirectories : List String :=
  ["bin", "boot", "dev", "etc", "home", "lib", "media", "mnt", "opt", "proc", "root", "run", "sbin",
    "srv", "sys", "tmp", "usr", "var"]

/-- The steps of a path that lead anywhere. -/
def pathSteps (path : String) : List String :=
  ((Text.split '/' path.toList).map String.ofList).filter fun step => step ≠ "" && step ≠ "."

/-- Whether steps from the root lead to a directory.  A step up from the root stays there. -/
def leadToDirectory : (below : Bool) → List String → Bool
  | _, [] => true
  | below, step :: steps =>
    if step = ".." then leadToDirectory false steps
    else !below && topDirectories.contains step && leadToDirectory true steps

/-- Whether a path leads to a directory.  One that does not begin at the root begins in an empty
directory. -/
def leadsToDirectory (path : String) : Bool :=
  let steps := pathSteps path
  if path.toList.head? = some '/' then leadToDirectory false steps
  else !path.isEmpty && steps.all (· == "..")

/-- What stands at a path. -/
def bareEntry (path : String) : FileEntry :=
  if leadsToDirectory path then .directory else .nothing

/-- No path of the bare tree leads to a configuration: a directory stands there, or nothing. -/
theorem Config.ofFile_bareEntry (path : String) :
    Config.ofFile path (bareEntry path) =
      .error (.unreadableFile path (if leadsToDirectory path then .directory else .missing)) := by
  unfold bareEntry
  cases leadsToDirectory path with
  | true => rfl
  | false => rfl

example : Config.ofFile "/etc/../usr/." (bareEntry "/etc/../usr/.") =
    .error (.unreadableFile "/etc/../usr/." .directory) := by rfl

end Retention
