import Retention.Config.Json
import Retention.Proofs.Instants
import Retention.Proofs.JsonText
import Retention.Proofs.Members

/-!
# Configurations that come back

A configuration is read back from its JSON, and from every other way to write it
(`Config.ofJson?_of_edits`): members may stand in another order, there may be more of them under
unknown names, and those that have a standard value may be left out.

A form of a configuration is what all these have in common.  Each edit of a configuration leads from
one form to another, and every form is read as the configuration.  The parts of a configuration have
forms of their own: types, strategies and labels.
-/

namespace Retention

open Json (Parts)
open Metadata (writtenMember)

/-- A value of a form, or one left out where that stands for the same. -/
def OrLeftOut (standard : Prop) (form : Json → Prop) : Option Json → Prop
  | some json => form json
  | none => standard

theorem readOr_of_form {α : Type} {form : Json → Prop} {standard value : α} {found : Option Json}
    {read : Json → Option α} (allowed : OrLeftOut (value = standard) form found)
    (reads : ∀ {json}, form json → read json = some value) :
    readOr standard found read = some value := by
  cases found with
  | none => exact congrArg some (Eq.symm allowed)
  | some json => exact reads allowed

theorem bool?_of_eq {value : Bool} {json : Json} (same : json = .bool value) :
    json.bool? = some value := by
  rw [same]
  rfl

/-! ## Types -/

namespace TypeIdentifier

def memberNames : List String := ["group", "version", "kind"]

/-- The group may be left out where it is empty. -/
inductive Change : String → Json → Option Json → Prop
  | groupLeftOut : Change "group" (.string "") none

/-- A step by which a type is written otherwise. -/
def Edit : Json → Json → Prop := Json.Edit memberNames Change

def Allows (t : TypeIdentifier) : String → Option Json → Prop
  | "group" => OrLeftOut (t.group = "") (· = .string t.group)
  | "version" => (· = some (.string t.version))
  | "kind" => (· = some (.string t.kind))
  | _ => fun _ => False

/-- A JSON value that is a form of the type. -/
def Form (t : TypeIdentifier) : Json → Prop := Parts memberNames t.Allows

variable {t : TypeIdentifier} {json : Json}

theorem form_toJson : t.Form t.toJson := by
  refine ⟨_, rfl, ?_⟩
  simp only [memberNames, List.forall_mem_cons]
  exact ⟨⟨some (.string t.group), rfl, rfl⟩, ⟨some (.string t.version), rfl, rfl⟩,
    ⟨some (.string t.kind), rfl, rfl⟩, nofun⟩

theorem Form.edit {edited : Json} (form : t.Form json) (step : Edit json edited) :
    t.Form edited := by
  refine Parts.edit ?_ form step
  intro name value changed change allowed
  cases change with
  | groupLeftOut =>
    have same : Json.string "" = .string t.group := allowed
    exact (Json.string.inj same).symm

theorem ofJson?_of_form (form : t.Form json) : ofJson? json = some t := by
  have group : OrLeftOut (t.group = "") (· = .string t.group) (json.member? "group") :=
    Parts.member? form "group" (by decide)
  have version : json.member? "version" = some (.string t.version) :=
    Parts.member? form "version" (by decide)
  have kind : json.member? "kind" = some (.string t.kind) :=
    Parts.member? form "kind" (by decide)
  obtain ⟨members, rfl, -⟩ := form
  simp only [ofJson?, version, kind]
  generalize (Json.object members).member? "group" = found at group
  cases found with
  | none =>
    have empty : t.group = "" := group
    simp [Json.string?, ← empty]
  | some value =>
    have same : value = .string t.group := group
    simp [Json.string?, same]

end TypeIdentifier

/-! ## Labels -/

namespace Labels

/-- A label as a member of an object. -/
def member (entry : String × String) : String × Json :=
  (entry.1, .string entry.2)

/-- The labels in any order. -/
inductive Form (labels : Labels) : Json → Prop
  | ofPerm {members : List (String × Json)} :
    (labels.entries.map member).Perm members → Form labels (.object members)

/-- The label that a member stands for. -/
def entry (member : String × Json) : String × String :=
  (member.1, member.2.string?.getD "")

theorem map_entry_map_member (entries : List (String × String)) :
    (entries.map member).map entry = entries := by
  rw [List.map_map]
  exact List.map_id entries

/-- Permuted members are the members of permuted labels. -/
theorem exists_perm_of_map_member {entries : List (String × String)}
    {members : List (String × Json)} (perm : (entries.map member).Perm members) :
    ∃ others, entries.Perm others ∧ members = others.map member := by
  refine ⟨members.map entry, map_entry_map_member entries ▸ perm.map entry, ?_⟩
  rw [List.map_map]
  refine (List.map_id members).symm.trans (List.map_congr_left fun written mem => ?_)
  obtain ⟨_, -, rfl⟩ := List.mem_map.mp (perm.mem_iff.mpr mem)
  rfl

theorem mapM_member (entries : List (String × String)) :
    ((entries.map member).mapM fun member => member.2.string?.map fun text => (member.1, text)) =
      some entries := by
  induction entries with
  | nil => rfl
  | cons entry entries ih =>
    rw [List.map_cons, List.mapM_cons, ih]
    rfl

theorem readTexts?_of_form {labels : Labels} {json : Json} (form : Form labels json) :
    Metadata.readTexts? json = some labels := by
  obtain ⟨written⟩ := form
  obtain ⟨others, perm, rfl⟩ := exists_perm_of_map_member written
  simp only [Metadata.readTexts?, Json.members?, Option.bind_eq_bind, Option.bind_some, mapM_member,
    TextMap.ofList_of_perm perm]

end Labels

/-! ## Strategies -/

namespace StrategySettings

/-- The names of the members that settings of this kind have. -/
def memberNames : StrategySettings → List String
  | maxCount _ => ["mode", "maxCount"]
  | maxAge _ => ["mode", "maxAge"]
  | olderThan _ => ["mode", "cutoff"]
  | custom => ["mode"]

/-- A step by which settings are written otherwise, none of whose own members changes. -/
def Edit (s : StrategySettings) : Json → Json → Prop :=
  Json.Edit s.memberNames fun _ _ _ => False

/-- A JSON value that is a form of the settings. -/
def Form (s : StrategySettings) : Json → Prop :=
  Parts s.memberNames fun name found => found = s.toJson.member? name

variable {s : StrategySettings} {json : Json}

theorem form_toJson : s.Form s.toJson := by
  refine ⟨_, rfl, ?_⟩
  cases s <;> simp [memberNames, toJson, Json.member?, writtenMember, List.lookup_cons]

theorem Form.edit {edited : Json} (form : s.Form json) (step : s.Edit json edited) :
    s.Form edited :=
  Parts.edit nofun form step

/-- A member of the settings, as a reader takes it. -/
def settingOf (member : String × Json) : Setting × Setting :=
  (.text member.1, .ofJson member.2)

/-- The members of the settings other than the mode. -/
def settingsOf (members : List (String × Json)) : Settings :=
  .members ((members.filter fun member => member.1 ≠ "mode").map settingOf)

theorem mapM_isFor?_settingOf (field : String) (members : List (String × Json)) :
    ((members.map settingOf).mapM fun entry =>
      (Settings.isFor? field entry.1).map fun isFor => (isFor, entry.2)) =
        some (members.map fun member => (decide (member.1 = field), .ofJson member.2)) := by
  induction members with
  | nil => rfl
  | cons member members ih =>
    rw [List.map_cons, List.mapM_cons, ih]
    rfl

/-- The single value is found where one member has its name. -/
theorem single?_of_filter {field : String} {value : Json} {members : List (String × Json)}
    (only : members.filter (·.1 = field) = [(field, value)]) :
    Settings.single? field (.members (members.map settingOf)) = some (.ofJson value) := by
  have marked : (members.map fun member =>
      (decide (member.1 = field), Setting.ofJson member.2)).filter Prod.fst =
        [(decide (field = field), .ofJson value)] := by
    rw [List.filter_map]
    exact congrArg (List.map _) only
  simp only [Settings.single?, mapM_isFor?_settingOf, Option.bind_eq_bind, Option.bind_some, marked]

theorem single?_of_form {members : List (String × Json)} (form : s.Form (.object members))
    (field : String) (value : Json) (known : field ∈ s.memberNames) (ne : field ≠ "mode")
    (written : s.toJson.member? field = some value) :
    (settingsOf members).single? field = some (.ofJson value) := by
  obtain ⟨_, same, each⟩ := form
  cases same
  obtain ⟨_, only, rfl⟩ := each field known
  rw [written] at only
  apply single?_of_filter
  rw [List.filter_filter]
  refine Eq.trans (List.filter_congr fun member _ => ?_) only
  by_cases own : member.1 = field
  · simp [own, ne]
  · simp [own]

theorem ofJson?_of_form (form : s.Form json) : ofJson? json = some s := by
  obtain ⟨members, rfl⟩ := form.exists_members
  have mode : members.lookup "mode" = some (.string s.mode) := by
    have found := Parts.member? form "mode" (by cases s <;> exact List.mem_cons_self)
    cases s <;> exact found
  have read : ofJson? (.object members) = read? s.mode (settingsOf members) := by
    simp only [ofJson?, mode]
    rfl
  rw [read]
  cases s with
  | maxCount count =>
    have value := single?_of_form form "maxCount" (.integer count.toInt) (by simp [memberNames])
      (by decide) rfl
    have back : (Setting.ofJson (.integer count.toInt)).count? = some count := by
      rw [Setting.ofJson, Setting.count?, if_pos ⟨count.minValue_le_toInt, count.toInt_le⟩,
        Int64.ofInt_toInt]
    change (((settingsOf members).single? "maxCount").bind (·.count?)).map maxCount = _
    rw [value, Option.bind_some, back, Option.map_some]
  | maxAge age =>
    have value := single?_of_form form "maxAge" (.string age) (by simp [memberNames])
      (by decide) rfl
    change (((settingsOf members).single? "maxAge").bind (·.text?)).map maxAge = _
    rw [value]
    rfl
  | olderThan cutoff =>
    have value := single?_of_form form "cutoff" (.string cutoff.write) (by simp [memberNames])
      (by decide) rfl
    change ((((settingsOf members).single? "cutoff").bind (·.text?)).bind Instant.read?).map
      olderThan = _
    rw [value]
    simp only [Option.bind_some, Setting.ofJson, Setting.text?, Instant.read?_write,
      Option.map_some]
  | custom => rfl

end StrategySettings

/-! ## Configurations -/

namespace Config

def memberNames : List String :=
  ["typeIdentifier", "strategy", "labels", "namespace", "dryRun", "respectPreserveAnnotation"]

/-- A type, labels and flags may be left out where they have their standard values.  Types and
strategies are edited, and labels permuted. -/
inductive Change (c : Config) : String → Json → Option Json → Prop
  | typeLeftOut {json : Json} :
    TypeIdentifier.ofJson? json = some .pod → Change c "typeIdentifier" json none
  | typeEdited {before after : Json} :
    TypeIdentifier.Edit before after → Change c "typeIdentifier" before (some after)
  | strategyEdited {before after : Json} :
    c.strategy.Edit before after → Change c "strategy" before (some after)
  | labelsLeftOut : Change c "labels" (.object []) none
  | labelsPermuted {before after : List (String × Json)} :
    before.Perm after → Change c "labels" (.object before) (some (.object after))
  | dryRunLeftOut : Change c "dryRun" (.bool false) none
  | respectPreserveLeftOut : Change c "respectPreserveAnnotation" (.bool false) none

/-- A step by which a configuration is written otherwise. -/
def Edit (c : Config) : Json → Json → Prop := Json.Edit memberNames c.Change

def Allows (c : Config) : String → Option Json → Prop
  | "typeIdentifier" => OrLeftOut (c.type = .pod) c.type.Form
  | "strategy" => OrLeftOut False c.strategy.Form
  | "labels" => OrLeftOut (c.labels = .empty) (Labels.Form c.labels)
  | "namespace" => (· = c.ns.map .string)
  | "dryRun" => OrLeftOut (c.dryRun = false) (· = .bool c.dryRun)
  | "respectPreserveAnnotation" =>
    OrLeftOut (c.respectPreserve = false) (· = .bool c.respectPreserve)
  | _ => fun _ => False

/-- A JSON value that is a form of the configuration. -/
def Form (c : Config) : Json → Prop := Parts memberNames c.Allows

variable {c : Config} {json : Json}

theorem form_toJson : c.Form c.toJson := by
  refine ⟨_, rfl, ?_⟩
  simp only [memberNames, List.forall_mem_cons]
  refine ⟨⟨some c.type.toJson, ?_, TypeIdentifier.form_toJson⟩,
    ⟨some c.strategy.toJson, ?_, StrategySettings.form_toJson⟩,
    ⟨some (Metadata.textsToJson c.labels), ?_, ⟨.refl _⟩⟩,
    ⟨c.ns.map .string, ?_, rfl⟩, ⟨some (.bool c.dryRun), ?_, rfl⟩,
    ⟨some (.bool c.respectPreserve), ?_, rfl⟩, nofun⟩
  all_goals cases c.ns <;> rfl

theorem Change.keeps {name : String} {value : Json} {changed : Option Json}
    (change : c.Change name value changed) (allowed : c.Allows name (some value)) :
    c.Allows name changed := by
  cases change with
  | typeLeftOut standard =>
    have own := TypeIdentifier.ofJson?_of_form allowed
    exact Option.some.inj (own.symm.trans standard)
  | typeEdited step => exact TypeIdentifier.Form.edit allowed step
  | strategyEdited step => exact StrategySettings.Form.edit allowed step
  | labelsLeftOut =>
    have own := Labels.readTexts?_of_form allowed
    exact (Option.some.inj own).symm
  | labelsPermuted perm =>
    obtain ⟨own⟩ : Labels.Form c.labels _ := allowed
    exact .ofPerm (own.trans perm)
  | dryRunLeftOut =>
    have same : Json.bool false = .bool c.dryRun := allowed
    exact (Json.bool.inj same).symm
  | respectPreserveLeftOut =>
    have same : Json.bool false = .bool c.respectPreserve := allowed
    exact (Json.bool.inj same).symm

theorem ofJson?_of_form (form : c.Form json) : ofJson? json = some c := by
  obtain ⟨members, rfl⟩ := form.exists_members
  have type := readOr_of_form (form.member? "typeIdentifier" (by decide))
    TypeIdentifier.ofJson?_of_form
  have labels := readOr_of_form (form.member? "labels" (by decide)) Labels.readTexts?_of_form
  have dryRun := readOr_of_form (form.member? "dryRun" (by decide)) bool?_of_eq
  have respectPreserve :=
    readOr_of_form (form.member? "respectPreserveAnnotation" (by decide)) bool?_of_eq
  have ns : readOr none (members.lookup "namespace") readNamespace? = some c.ns := by
    have found : members.lookup "namespace" = c.ns.map .string :=
      form.member? "namespace" (by decide)
    rw [found]
    cases c.ns <;> rfl
  have strategy : (members.lookup "strategy").bind StrategySettings.ofJson? = some c.strategy := by
    have found : OrLeftOut False c.strategy.Form (members.lookup "strategy") :=
      form.member? "strategy" (by decide)
    cases given : members.lookup "strategy" with
    | none => exact (given ▸ found : OrLeftOut False _ none).elim
    | some json =>
      rw [given] at found
      exact StrategySettings.ofJson?_of_form found
  simp only [Json.member?] at type labels dryRun respectPreserve
  simp only [ofJson?, ConfigParts.ofJson?, ConfigParts.config?, Option.bind_eq_bind,
    Option.bind_some, type, labels, dryRun, respectPreserve, ns, ← Option.bind_assoc, strategy]

/-! ### As text -/

theorem legible_map_member {depth : Nat} (entries : List (String × String)) :
    (Json.object (entries.map Labels.member)).Legible (depth + 1) := by
  refine .object fun member mem => ?_
  obtain ⟨entry, -, rfl⟩ := List.mem_map.mp mem
  exact .string entry.2

theorem legible_strategy {depth : Nat} (s : StrategySettings) : s.toJson.Legible (depth + 1) := by
  cases s with
  | maxCount count =>
    have fits : Json.fitsWord count.toInt = true := by
      have low := count.minValue_le_toInt
      have high : count.toInt < 2 ^ 63 := count.toInt_lt
      simp only [Json.fitsWord, Bool.and_eq_true, decide_eq_true_eq]
      exact ⟨low, Int.lt_trans high (by decide)⟩
    exact .object (List.forall_mem_cons.mpr
      ⟨.string _, List.forall_mem_singleton.mpr (.integer fits)⟩)
  | maxAge age => exact legible_map_member [("mode", "maxAge"), ("maxAge", age)]
  | olderThan cutoff => exact legible_map_member [("mode", "olderThan"), ("cutoff", cutoff.write)]
  | custom => exact legible_map_member [("mode", "custom")]

theorem legible_toJson {depth : Nat} (c : Config) : c.toJson.Legible (depth + 2) := by
  have ns : ∀ member ∈ writtenMember "namespace" (c.ns.map .string),
      member.2.Legible (depth + 1) := by
    cases c.ns with
    | none => exact nofun
    | some ns => exact List.forall_mem_singleton.mpr (.string ns)
  refine .object ?_
  simp only [List.forall_mem_append, List.forall_mem_cons]
  exact ⟨⟨⟨legible_map_member [("group", c.type.group), ("version", c.type.version),
      ("kind", c.type.kind)], legible_strategy c.strategy, legible_map_member c.labels.entries,
      nofun⟩, ns⟩, .bool _, .bool _, nofun⟩

/-- A configuration is read back from the text of its JSON.  So it is after any number of edits, from
the JSON and, as long as this has a text, from the text. -/
theorem ofJson?_of_edits (c : Config) :
    (Json.read? c.toJson.write).bind ofJson? = some c ∧
      ∀ json, Relation.ReflTransGen c.Edit c.toJson json →
        ofJson? json = some c ∧
          (json.Legible Json.maxDepth → (Json.read? json.write).bind ofJson? = some c) := by
  have reads {json : Json} (form : c.Form json) (legible : json.Legible Json.maxDepth) :
      (Json.read? json.write).bind ofJson? = some c := by
    rw [Json.read?_write legible, Option.bind_some, ofJson?_of_form form]
  refine ⟨reads form_toJson (legible_toJson c), fun json steps => ?_⟩
  have form : c.Form json := form_toJson.edits Change.keeps steps
  exact ⟨ofJson?_of_form form, reads form⟩

end Config

namespace Rehearsed

/-- Half a second into the leap second at the end of 2016. -/
def leapSecond : Instant :=
  ⟨1483228799, 1500000000, by decide, by decide, by decide, by decide⟩

def leapConfig : Config where
  type := .pod
  strategy := .olderThan leapSecond
  labels := .ofList [("app", "report-generator"), ("tier", "batch")]
  ns := some ""
  dryRun := false
  respectPreserve := true

/-- The configuration without its type and the first flag, with its members turned round and two
more that nobody knows: a strategy of this kind has no `maxAge`. -/
def rewritten : Json :=
  .object [("note", .real "2.50"), ("respectPreserveAnnotation", .bool true),
    ("namespace", .string ""),
    ("strategy", .object [("maxAge", .null), ("mode", .string "olderThan"),
      ("cutoff", .string "2016-12-31T23:59:60.500Z")]),
    ("labels", .object [("tier", .string "batch"), ("app", .string "report-generator")])]

theorem edits_rewritten : Relation.ReflTransGen leapConfig.Edit leapConfig.toJson rewritten := by
  have written : leapConfig.toJson = .object [("typeIdentifier", TypeIdentifier.pod.toJson),
      ("strategy", .object [("mode", .string "olderThan"),
        ("cutoff", .string "2016-12-31T23:59:60.500Z")]),
      ("labels", .object [("app", .string "report-generator"), ("tier", .string "batch")]),
      ("namespace", .string ""), ("dryRun", .bool false),
      ("respectPreserveAnnotation", .bool true)] := by
    decide +kernel
  rw [written]
  refine .head (.change (.typeLeftOut rfl)) ?_
  refine .head (.change (.strategyEdited (@Json.Edit.add _ _ "maxAge" .null _ (by decide)))) ?_
  refine .head (.permute (.swap _ _ _)) ?_
  refine .head (.change (.labelsPermuted (.swap _ _ _))) ?_
  refine .head (.permute (List.reverse_perm _).symm) ?_
  refine .head (.permute (.swap _ _ _)) ?_
  refine .head (.change .dryRunLeftOut) ?_
  exact .single (.add (by decide))

theorem legible_rewritten : rewritten.Legible Json.maxDepth := by
  have fraction : Json.readNumber? "2.50".toList = some (.real "2.50", []) := by decide +kernel
  change Json.Legible (125 + 1 + 1) rewritten
  refine .object ?_
  simp only [List.forall_mem_cons]
  exact ⟨.real fraction, .bool _, .string _,
    .object (by simp only [List.forall_mem_cons]; exact ⟨.null, .string _, .string _, nofun⟩),
    Config.legible_map_member [("tier", "batch"), ("app", "report-generator")], nofun⟩

end Rehearsed

namespace Config

open Rehearsed in
theorem ofJson?_of_edits_rehearsed :
    (Relation.ReflTransGen leapConfig.Edit leapConfig.toJson rewritten ∧
      rewritten.Legible Json.maxDepth) ∧ rewritten ≠ leapConfig.toJson ∧
    ofJson? rewritten = some leapConfig ∧
      (Json.read? rewritten.write).bind ofJson? = some leapConfig := by
  have reads := (ofJson?_of_edits leapConfig).2 rewritten edits_rewritten
  exact ⟨⟨edits_rewritten, legible_rewritten⟩, by decide +kernel, reads.1,
    reads.2 legible_rewritten⟩

end Config

end Retention
