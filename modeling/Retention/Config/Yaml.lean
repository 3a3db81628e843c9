import Retention.Config.StrategyReader
import Retention.Yaml.Datum
import Retention.Yaml.Document
import Retention.Yaml.Walk

/-!
# Configurations as YAML

A configuration is written as a mapping with the members of its JSON form.  Members that are left
out have their standard values, others are passed over, and none may be there twice.

Outside the strategy a scalar is taken for what the member needs, whatever it looks like: `5` can be
the name of a namespace.  The settings of the strategy are first taken for what they look like, so
that `5` is no age.
-/

namespace Retention

open Yaml (Datum Node Walk)

/-! ## Scalars -/

/-- Whether a plain scalar with a tag says that there is no value. -/
def saysNull (tag : Option String) (text : String) : Bool :=
  match tag with
  | some tag => tag = Datum.standardTag "null"
  | none => text.isEmpty || Yaml.isNull text

/-- A scalar that may be null or left empty. -/
def readOptionalText (node : Node) : Walk (Option String) := do
  match ← Walk.follow node with
  | .scalar _ tag .plain text =>
    if saysNull tag text then
      if tag.isSome && !Yaml.isNull text then .refuse else .done none
    else .done (some text)
  | .scalar _ _ _ text => .done (some text)
  | _ => .refuse

/-- A truth value: a plain scalar, or a literal one with the tag of truth values. -/
def readFlag (node : Node) : Walk Bool := do
  match ← Walk.follow node with
  | .scalar _ tag style text =>
    if style = .plain || (style = .literal && tag = some (Datum.standardTag "bool")) then
      .ofOption (Yaml.readBool? text)
    else .refuse
  | _ => .refuse

/-! ## Type and labels -/

/-- A resource type, whose group may be left out. -/
def readType (node : Node) : Walk TypeIdentifier := do
  let members ← Walk.members node
  let group ← Walk.member members "group" Walk.text
  let version ← Walk.member members "version" Walk.text
  let kind ← Walk.member members "kind" Walk.text
  return ⟨group.getD "", ← .ofOption version, ← .ofOption kind⟩

/-- Labels; of two with one key the later one counts.  A mapping without entries may be left out. -/
def readLabels (node : Node) : Walk Labels := do
  match ← Walk.follow node with
  | .scalar _ _ .plain "" => .done .empty
  | node => do
    let labels ← (← Walk.members node).mapM fun member => do
      return (member.1, ← Walk.text member.2)
    return .ofList labels

/-! ## Strategies -/

/-- What a scalar stands for, as a setting. -/
def Setting.ofDatum : Datum → Setting
  | .integer value => .integer value
  | .text value => .text value
  | .null | .bool _ | .real => .other

/-- Whether a tag says that a value is of a kind of its own. -/
def isPrivateTag (tag : Option String) : Bool :=
  tag.any fun tag => tag.toList.head? = some '!'

/-- A value among the settings of a strategy, nested at most `depth` deep.  No part of it may be of
a kind of its own. -/
def readSetting (depth : Nat) (node : Node) : Walk Setting := do
  match depth, ← Walk.follow node with
  | _, .scalar _ tag style text =>
    if isPrivateTag tag then .refuse
    else return .ofDatum (← .ofOption (Datum.ofScalar? tag style text))
  | depth + 1, .sequence _ tag items =>
    if isPrivateTag tag then .refuse
    else do
      items.forM fun item => do let _ ← readSetting depth item
      return .other
  | depth + 1, .mapping _ tag entries =>
    if isPrivateTag tag then .refuse
    else do
      entries.forM fun entry => do
        let _ ← readSetting depth entry.1
        let _ ← readSetting depth entry.2
      return .other
  | _, _ => .refuse

def modeName : Setting := .text "mode"

/-- A member of a strategy: the mode, or a setting under its name. -/
def readStrategyMember (depth : Nat) (entry : Node × Node) :
    Walk (String ⊕ Setting × Setting) := do
  let name ← readSetting depth entry.1
  if name = modeName then return .inl (← Walk.text entry.2)
  else return .inr (name, ← readSetting depth entry.2)

def modesOf (members : List (String ⊕ Setting × Setting)) : List String :=
  members.filterMap Sum.getLeft?

/-- The settings of a strategy: a mapping with one mode, or a sequence that begins with the mode. -/
def readStrategy (depth : Nat) (node : Node) : Walk StrategySettings := do
  match ← Walk.follow node with
  | .mapping _ tag entries =>
    if isPrivateTag tag then .refuse
    else do
      let members ← entries.mapM (readStrategyMember depth)
      match modesOf members with
      | [mode] =>
        .ofOption (StrategySettings.read? mode (.members (members.filterMap Sum.getRight?)))
      | _ => .refuse
  | .sequence _ tag (mode :: values) =>
    if isPrivateTag tag then .refuse
    else do
      let mode ← Walk.text mode
      .ofOption (StrategySettings.read? mode (.values (← values.mapM (readSetting depth))))
  | _ => .refuse

/-! ## Configurations -/

/-- How deep collections may be nested below the settings of a strategy. -/
def maxSettingDepth : Nat := 126

def readConfig (node : Node) : Walk Config := do
  let members ← Walk.members node
  let type ← Walk.member members "typeIdentifier" readType
  let strategy ← Walk.member members "strategy" (readStrategy maxSettingDepth)
  let labels ← Walk.member members "labels" readLabels
  let ns ← Walk.member members "namespace" readOptionalText
  let dryRun ← Walk.member members "dryRun" readFlag
  let respectPreserve ← Walk.member members "respectPreserveAnnotation" readFlag
  return {
    type := type.getD .pod
    strategy := ← .ofOption strategy
    labels := labels.getD .empty
    ns := ns.getD none
    dryRun := dryRun.getD false
    respectPreserve := respectPreserve.getD false }

def Config.ofYaml? (text : String) : Option Config :=
  (Node.ofText? text).bind fun document => Walk.through document readConfig

end Retention
