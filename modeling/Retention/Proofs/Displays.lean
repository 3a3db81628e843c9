import Mathlib
import Retention.Pruner.Event
import Retention.Proofs.Quotations
import Retention.Proofs.Registrations

/-!
# Displays

Keys of objects and names of types are displayed with slashes between their parts, and a part that is
absent is left out together with its slash.  A display can still be read back: a key's name comes after
the last slash (`ResourceKey.ofDisplay`), and the count of slashes tells whether a type has a group
(`TypeIdentifier.ofDisplay?`).  This takes names and parts of types without a slash of their own.

So records of the log, messages of errors and the text of a registry tell apart what they are about:
`displays_distinct`.
-/

namespace Retention

variable {σ : Type}

/-! ## Keys -/

namespace ResourceKey

/-- The key with a display: its name comes after the last slash. -/
def ofDisplay (text : String) : ResourceKey :=
  match Text.cutAt? '/' text.toList.reverse with
  | some (name, ns) => ⟨some (String.ofList ns.reverse), String.ofList name.reverse⟩
  | none => ⟨none, text⟩

theorem ofDisplay_display {k : ResourceKey} (unslashed : '/' ∉ k.name.toList) :
    ofDisplay k.display = k := by
  obtain ⟨ns, name⟩ := k
  have last : '/' ∉ name.toList.reverse := fun mem => unslashed (List.mem_reverse.mp mem)
  cases ns with
  | none =>
    have uncut : Text.cutAt? '/' name.toList.reverse = none := Text.cutAt?_eq_none_iff.mpr last
    rw [display, ofDisplay, uncut]
  | some ns =>
    have reversed : (ns ++ "/" ++ name).toList.reverse =
        name.toList.reverse ++ '/' :: ns.toList.reverse := by simp
    have cut : Text.cutAt? '/' (ns ++ "/" ++ name).toList.reverse =
        some (name.toList.reverse, ns.toList.reverse) :=
      Text.cutAt?_eq_some_iff.mpr ⟨reversed, last⟩
    rw [display, ofDisplay, cut]
    simp

/-- Keys whose names have no slash are told by their displays, whatever their namespaces are. -/
theorem display_inj {k l : ResourceKey} (own : '/' ∉ k.name.toList) (other : '/' ∉ l.name.toList)
    (same : k.display = l.display) : k = l := by
  rw [← ofDisplay_display own, same, ofDisplay_display other]

/-- A slash in a name is taken for the one after a namespace. -/
example : display ⟨none, "a/b"⟩ = display ⟨some "a", "b"⟩ := rfl

end ResourceKey

/-! ## Records and messages -/

/-- The key of the object that a notice is about. -/
def Notice.resource? : Notice → Option ResourceKey
  | skippedPreserved resource | skippedUnprunable resource _ | checkFailed resource _
  | wouldDelete resource | hookFailed resource _ | cancelledDuringDeletion resource _
  | deleteFailed resource _ | deleted resource => some resource
  | _ => none

/-- The record of a notice displays the key of its object, and has no such field without one. -/
theorem Notice.lookup_resource (n : Notice) :
    n.record.fields.lookup "resource" = n.resource?.map ResourceKey.display := by
  cases n <;> rfl

/-- The same error about another object. -/
def PruneError.about (e : PruneError) (resource : ResourceKey) : PruneError :=
  match e with
  | convert _ type reported => convert resource type reported
  | predicate _ source => predicate resource source
  | preDelete _ deleted text => preDelete resource deleted text
  | delete _ deleted source => delete resource deleted source
  | e => e

/-- The message of an error about an object has the display of its key in one place. -/
theorem PruneError.exists_message_about {e : PruneError} (has : e.resource?.isSome) :
    ∃ before after, ∀ k, (e.about k).message = before ++ k.display ++ after := by
  cases e with
  | config _ | list _ _ | strategy _ | cancelled _ => cases has
  | convert resource type reported =>
    refine ⟨"Failed to convert ", " into " ++ type.display ++ ": " ++ reportedMessage reported, ?_⟩
    intro k
    change "Failed to convert " ++ k.display ++ " into " ++ type.display ++ ": " ++
      reportedMessage reported = _
    simp only [String.append_assoc]
  | predicate resource source =>
    exact ⟨"Prunability check failed for ", ": " ++ source.message,
      fun _ => String.append_assoc⟩
  | preDelete resource deleted text =>
    exact ⟨"Pre-delete hook failed for ", ": " ++ text, fun _ => String.append_assoc⟩
  | delete resource deleted source =>
    exact ⟨"Failed to delete ", ": " ++ source.message,
      fun _ => String.append_assoc⟩

/-! ## Types -/

namespace TypeIdentifier

/-- A type none of whose parts has a slash. -/
structure Unslashed (t : TypeIdentifier) : Prop where
  group : '/' ∉ t.group.toList
  version : '/' ∉ t.version.toList
  kind : '/' ∉ t.kind.toList

/-- The type with a display: two parts are those of the core group, and three have a group. -/
def ofDisplay? (text : String) : Option TypeIdentifier :=
  match Text.split '/' text.toList with
  | [version, kind] => some ⟨"", String.ofList version, String.ofList kind⟩
  | [group, version, kind] =>
    some ⟨String.ofList group, String.ofList version, String.ofList kind⟩
  | _ => none

variable {s t : TypeIdentifier}

theorem ofDisplay?_display (unslashed : t.Unslashed) : ofDisplay? t.display = some t := by
  obtain ⟨group, version, kind⟩ := unslashed
  by_cases core : t.group = ""
  · have parts : Text.split '/' t.display.toList = [t.version.toList, t.kind.toList] := by
      rw [display, apiVersion_of_core core, String.toList_append, String.toList_append,
        List.append_assoc]
      exact (Text.split_append version _).trans (congrArg _ (Text.split_of_notMem kind))
    rw [ofDisplay?, parts]
    simp [← core]
  · have parts : Text.split '/' t.display.toList =
        [t.group.toList, t.version.toList, t.kind.toList] := by
      rw [display, String.toList_append, String.toList_append, toList_apiVersion core,
        List.append_assoc, List.append_assoc, List.cons_append]
      refine (Text.split_append group _).trans (congrArg _ ?_)
      exact (Text.split_append version _).trans (congrArg _ (Text.split_of_notMem kind))
    rw [ofDisplay?, parts]
    simp

/-- Types whose parts have no slash are told by their displays. -/
theorem display_inj (own : s.Unslashed) (other : t.Unslashed) (same : s.display = t.display) :
    s = t := by
  rw [← Option.some_inj, ← ofDisplay?_display own, same, ofDisplay?_display other]

end TypeIdentifier

/-! ## Registries -/

namespace Registry

variable {r : Registry σ} {names others : List String}

/-- The text of a registry lists names. -/
def Lists (r : Registry σ) (names : List String) : Prop :=
  r.debug = "Registry \x7b types: " ++ Text.quotedList names ++ " \x7d"

theorem lists_typeNames (r : Registry σ) : r.Lists r.typeNames := rfl

/-- The names that a registry lists can be told from its text. -/
theorem Lists.unique (lists : r.Lists names) (lists' : r.Lists others) : names = others := by
  have same := lists.symm.trans lists'
  rw [String.append_left_inj, String.append_right_inj] at same
  exact Text.quotedList_injective same

theorem length_typeNames (r : Registry σ) : r.typeNames.length = r.size := by
  rw [r.typeNames_perm.length_eq, List.length_map, List.length_map]
  rfl

/-- A registry of types whose parts have no slash lists each type once. -/
theorem typeNames_nodup (unslashed : ∀ t, r.contains t = true → t.Unslashed) :
    r.typeNames.Nodup := by
  rw [r.typeNames_perm.nodup_iff]
  apply List.Nodup.map_on _ r.distinct
  intro s first t second same
  exact TypeIdentifier.display_inj (unslashed s (contains_iff_mem.mpr first))
    (unslashed t (contains_iff_mem.mpr second)) same

theorem display_mem_typeNames_iff (unslashed : ∀ t, r.contains t = true → t.Unslashed)
    {t : TypeIdentifier} (own : t.Unslashed) :
    t.display ∈ r.typeNames ↔ r.contains t = true := by
  rw [r.typeNames_perm.mem_iff, List.mem_map, contains_iff_mem]
  constructor
  · rintro ⟨s, held, same⟩
    rw [← TypeIdentifier.display_inj (unslashed s (contains_iff_mem.mpr held)) own same]
    exact held
  · intro held
    exact ⟨t, held, rfl⟩

end Registry

/-- Keys whose names have no slash differ in their displays, and so in the records of the log and in
the messages of errors about their objects.  Types whose parts have no slash differ in their displays,
so the text of a registry of such types lists, in one way only, as many names as the registry has
types, no name twice. -/
theorem displays_distinct :
    (∀ k l : ResourceKey, '/' ∉ k.name.toList → '/' ∉ l.name.toList →
      k.display = l.display → k = l) ∧
    (∀ (n m : Notice) (k l : ResourceKey), n.resource? = some k → m.resource? = some l →
      '/' ∉ k.name.toList → '/' ∉ l.name.toList →
      n.record.fields.lookup "resource" = m.record.fields.lookup "resource" → k = l) ∧
    (∀ (e : PruneError) (k l : ResourceKey), e.resource?.isSome →
      '/' ∉ k.name.toList → '/' ∉ l.name.toList →
      (e.about k).message = (e.about l).message → k = l) ∧
    (∀ s t : TypeIdentifier, s.Unslashed → t.Unslashed → s.display = t.display → s = t) ∧
    ∀ (σ : Type) (r : Registry σ), (∀ t, r.contains t = true → t.Unslashed) →
      ∃ names, r.Lists names ∧ (∀ others, r.Lists others → others = names) ∧
        names.length = r.size ∧ names.Nodup ∧
        ∀ t : TypeIdentifier, t.Unslashed → (t.display ∈ names ↔ r.contains t = true) := by
  refine ⟨?_, ?_, ?_, ?_, ?_⟩
  · intro k l own other same
    exact ResourceKey.display_inj own other same
  · intro n m k l about about' own other same
    rw [n.lookup_resource, m.lookup_resource, about, about', Option.map_some, Option.map_some,
      Option.some_inj] at same
    exact ResourceKey.display_inj own other same
  · intro e k l has own other same
    obtain ⟨before, after, message⟩ := PruneError.exists_message_about has
    rw [message, message, String.append_left_inj, String.append_right_inj] at same
    exact ResourceKey.display_inj own other same
  · intro s t own other same
    exact TypeIdentifier.display_inj own other same
  · intro σ r unslashed
    refine ⟨r.typeNames, r.lists_typeNames, ?_, r.length_typeNames,
      Registry.typeNames_nodup unslashed, ?_⟩
    · intro others lists
      exact lists.unique r.lists_typeNames
    · intro t own
      exact Registry.display_mem_typeNames_iff unslashed own

/-! ## Rehearsed displays -/

open ResourceKey in
theorem displays_distinct_rehearsed :
    display ⟨some "", "w"⟩ ≠ display ⟨none, "w"⟩ ∧
      (Notice.deleted ⟨some "a/b", "w"⟩).record.fields.lookup "resource" ≠
        (Notice.wouldDelete ⟨some "a", "w"⟩).record.fields.lookup "resource" ∧
      (PruneError.delete ⟨none, "v"⟩ [] (.other "gone")).message ≠
        (PruneError.delete ⟨none, "w"⟩ [] (.other "gone")).message ∧
      TypeIdentifier.pod.display ≠ TypeIdentifier.job.display ∧
      ∃ names, (Registry.builtIn : Registry Unit).Lists names ∧ names.length = 2 ∧ names.Nodup ∧
        TypeIdentifier.job.display ∈ names := by
  obtain ⟨keys, records, messages, types, registries⟩ := displays_distinct
  have pod : TypeIdentifier.pod.Unslashed := ⟨by decide, by decide, by decide⟩
  have job : TypeIdentifier.job.Unslashed := ⟨by decide, by decide, by decide⟩
  have builtIn (t : TypeIdentifier) (held : (Registry.builtIn : Registry Unit).contains t = true) :
      t.Unslashed := by
    have mem := Registry.contains_iff_mem.mp held
    rcases List.mem_pair.mp mem with rfl | rfl
    · exact job
    · exact pod
  refine ⟨?_, ?_, ?_, ?_, ?_⟩
  · intro same
    exact absurd (keys _ _ (by decide) (by decide) same) (by decide)
  · intro same
    exact absurd (records _ _ _ _ rfl rfl (by decide) (by decide) same) (by decide)
  · intro same
    exact absurd (messages (.delete ⟨none, "w"⟩ [] (.other "gone")) ⟨none, "v"⟩ ⟨none, "w"⟩ rfl
      (by decide) (by decide) same) (by decide)
  · intro same
    exact absurd (types _ _ pod job same) (by decide)
  · obtain ⟨names, lists, -, length, nodup, listed⟩ := registries Unit .builtIn builtIn
    exact ⟨names, lists, length, nodup, (listed .job job).mpr rfl⟩

end Retention
