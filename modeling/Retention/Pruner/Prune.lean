import Retention.Annotation
import Retention.Pruner.Basic
import Retention.Pruner.Progress

/-!
# A pass

A pass checks its settings, lists objects, drops those that must stay, lets the strategy select
among the rest, and deletes the selection one object after the other.  It stops at the first error.
Up to the first deletion nothing has changed; after it, the error tells what is gone.

The token is looked at before and while objects are listed, and before and while each one is
deleted.
-/

namespace Retention

/-- The object with the type `t` filled in where it reports none, and with data.  An object that
reports another type is refused with what it reports. -/
def Object.coerce (t : TypeIdentifier) (o : Object) : Except TypeMeta Object :=
  let filled : Object := { o with data := if o.data = .null then .object [] else o.data }
  match o.types with
  | none => .ok { filled with types := some (.ofType t) }
  | some types =>
    if types.isBlank then .ok { filled with types := some (.ofType t) }
    else if types = .ofType t then .ok filled
    else .error types

namespace Pruner

variable {σ : Type}

def checked (p : Pruner σ) : Pass σ Unit :=
  match p.check with
  | .error e => .stop (.config e)
  | .ok () => .done ()

def listed (p : Pruner σ) (store : Store σ) : Pass σ (List Object) := do
  match ← Pass.await (.listed p.request) (store.list p.request) with
  | none => .reportStop (.cancelledWhileListing p.type) (.cancelled [])
  | some (.error e) => .reportStop (.listFailed p.type e) (.list p.type e)
  | some (.ok objects) => .done objects

/-- Asks the registry about an object, and says whether it is a candidate for removal. -/
def judged (p : Pruner σ) (o : Object) : Pass σ Bool := do
  match ← Pass.call (.judged o) (p.registry.judge o) with
  | .ok () => .done true
  | .error (.unprunable resource reason) => do
    Pass.report (.skippedUnprunable resource reason)
    .done false
  | .error e => .reportStop (.checkFailed o.key e) (.predicate o.key e)

/-- Whether an object asks to be kept and is heard. -/
def preserves (p : Pruner σ) (o : Object) : Bool :=
  p.respectPreserve && o.metadata.isPreserved

/-- Decides whether one object is a candidate for removal. -/
def considered (p : Pruner σ) (o : Object) : Pass σ Bool :=
  if p.preserves o then do
    Pass.report (.skippedPreserved o.key)
    .done false
  else p.judged o

/-- The candidates for removal among listed objects, in their order. -/
def candidates (p : Pruner σ) : List Object → Pass σ (List Object)
  | [] => .done []
  | listed :: rest =>
    match listed.coerce p.type with
    | .error reported => .stop (.convert listed.key p.type reported)
    | .ok o => do
      let keep ← p.considered o
      let others ← p.candidates rest
      .done (if keep then o :: others else others)

/-- Lets the strategy select among candidates at the instant that the clock shows. -/
def selected (p : Pruner σ) (listed : Nat) (candidates : List Object) :
    Pass σ (List Object) := do
  let now ← Pass.read p.clock
  match ← Pass.call (.selected candidates) (p.strategy.select candidates now) with
  | .error e => .reportStop (.strategyFailed p.type e) (.strategy e)
  | .ok selected => do
    Pass.report (.strategySelected p.type listed candidates.length selected.length)
    .done selected

def hooked (p : Pruner σ) (o : Object) (deleted : List ResourceKey) : Pass σ Unit :=
  match p.hook with
  | none => .done ()
  | some hook => do
    match ← Pass.call (.hooked o) (hook o) with
    | .error text => .reportStop (.hookFailed o.key text) (.preDelete o.key deleted text)
    | .ok () => .done ()

/-- Deletes one object after those in `deleted`. -/
def deleteOne (p : Pruner σ) (store : Store σ) (o : Object) (deleted : List ResourceKey) :
    Pass σ Unit := do
  if ← Pass.fired then
    .reportStop (.cancelledBeforeDeletion deleted.length) (.cancelled deleted)
  else do
    p.hooked o deleted
    match ← Pass.await (.deleted p.type o) (store.delete p.type o) with
    | none => .reportStop (.cancelledDuringDeletion o.key deleted.length) (.cancelled deleted)
    | some (.error e) => .reportStop (.deleteFailed o.key e) (.delete o.key deleted e)
    | some (.ok ()) => Pass.report (.deleted o.key)

/-- Deletes objects one after the other, after those in `deleted`. -/
def deleteAll (p : Pruner σ) (store : Store σ) :
    List Object → (deleted : List ResourceKey) → Pass σ Unit
  | [], _ => .done ()
  | o :: rest, deleted => do
    p.deleteOne store o deleted
    p.deleteAll store rest (deleted ++ [o.key])

def wouldDelete : List Object → Pass σ Unit
  | [] => .done ()
  | o :: rest => do
    Pass.report (.wouldDelete o.key)
    wouldDelete rest

/-- Removes the selection, or says that it would. -/
def removed (p : Pruner σ) (store : Store σ) (selection : List Object) : Pass σ Unit :=
  if p.dryRun then do
    wouldDelete selection
    Pass.report (.dryRunComplete p.type selection.length)
  else do
    p.deleteAll store selection []
    Pass.report (.complete p.type selection.length)

/-- The part of a pass in which nothing is removed: it ends with the selection. -/
def chosen (p : Pruner σ) (store : Store σ) : Pass σ (List Object) := do
  p.checked
  Pass.report (.started p.request p.strategy.mode p.dryRun)
  let listed ← p.listed store
  let candidates ← p.candidates listed
  p.selected listed.length candidates

/-- One pass over a store.  It ends with the objects selected for removal. -/
def prune (p : Pruner σ) (store : Store σ) : Pass σ (List Object) := do
  let selection ← p.chosen store
  p.removed store selection
  .done selection

end Pruner

end Retention
