import Retention.Store.Basic

/-!
# Journals

A pass can be rehearsed: it then runs amid surroundings that are prepared for it, do what a plan
says, and keep a journal of the calls on them.  This module has the entries of a journal.  A
`Journal` gives planned code what it needs of surroundings with a state of any type: how an entry is
made, and how the token of the pass is fired.
-/

namespace Retention

/-- A call that a journal keeps. -/
inductive Recorded where
  | listed (request : ListRequest)
  | deleted (type : TypeIdentifier) (resource : ResourceKey)
  | judged (name : String)
  | selected (candidates : List ResourceKey)
  | hooked (resource : ResourceKey)
  deriving DecidableEq

/-- A way of keeping a journal. -/
structure Journal (σ : Type) where
  record : Recorded → Call σ Unit
  fire : Call σ Unit

def Journal.blank {σ : Type} : Journal σ := ⟨fun _ => .answer (), .fire⟩

end Retention
