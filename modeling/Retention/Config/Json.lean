import Retention.Config.StrategyReader

/-!
# Configurations as JSON

A configuration is written as an object with all its members, of which a missing namespace alone is
left out.  Reading takes the members in any order and passes over others; the type, the labels and
the flags may be left out and then have their standard values.  An array of the values in order is
read as well.
-/

namespace Retention

/-! ## Writing -/

def StrategySettings.toJson (s : StrategySettings) : Json :=
  .object <| ("mode", .string s.mode) :: match s with
    | maxCount count => [("maxCount", .integer count.toInt)]
    | maxAge age => [("maxAge", .string age)]
    | olderThan cutoff => [("cutoff", .string cutoff.write)]
    | custom => []

def Config.toJson (c : Config) : Json :=
  .object <|
    [("typeIdentifier", c.type.toJson), ("strategy", c.strategy.toJson),
      ("labels", Metadata.textsToJson c.labels)] ++
    Metadata.writtenMember "namespace" (c.ns.map .string) ++
    [("dryRun", .bool c.dryRun), ("respectPreserveAnnotation", .bool c.respectPreserve)]

/-! ## Reading -/

def Setting.ofJson : Json → Setting
  | .integer value => .integer value
  | .string value => .text value
  | _ => .other

/-- The settings of a strategy that a JSON value stands for: an object with a mode, or an array that
begins with one. -/
def StrategySettings.ofJson? : Json → Option StrategySettings
  | .object members => do
    let mode ← (← members.lookup "mode").string?
    let others := members.filter fun member => member.1 ≠ "mode"
    read? mode (.members (others.map fun member => (.text member.1, .ofJson member.2)))
  | .array (mode :: values) => do
    read? (← mode.string?) (.values (values.map .ofJson))
  | _ => none

/-- A namespace, absent where it is null. -/
def readNamespace? : Json → Option (Option String)
  | .null => some none
  | value => value.string?.map some

/-- Reads a value that may be left out. -/
def readOr {α : Type} (standard : α) (value : Option Json) (read : Json → Option α) : Option α :=
  match value with
  | none => some standard
  | some value => read value

/-- The values of a configuration in order, as far as they are given. -/
structure ConfigParts where
  type : Option Json
  strategy : Option Json
  labels : Option Json
  ns : Option Json
  dryRun : Option Json
  respectPreserve : Option Json

namespace ConfigParts

def ofJson? : Json → Option ConfigParts
  | .object members =>
    some {
      type := members.lookup "typeIdentifier"
      strategy := members.lookup "strategy"
      labels := members.lookup "labels"
      ns := members.lookup "namespace"
      dryRun := members.lookup "dryRun"
      respectPreserve := members.lookup "respectPreserveAnnotation" }
  | .array items =>
    if items.length ≤ 6 then
      some ⟨items[0]?, items[1]?, items[2]?, items[3]?, items[4]?, items[5]?⟩
    else none
  | _ => none

def config? (parts : ConfigParts) : Option Config := do
  some {
    type := ← readOr .pod parts.type TypeIdentifier.ofJson?
    strategy := ← StrategySettings.ofJson? (← parts.strategy)
    labels := ← readOr .empty parts.labels Metadata.readTexts?
    ns := ← readOr none parts.ns readNamespace?
    dryRun := ← readOr false parts.dryRun Json.bool?
    respectPreserve := ← readOr false parts.respectPreserve Json.bool? }

end ConfigParts

def Config.ofJson? (json : Json) : Option Config :=
  (ConfigParts.ofJson? json).bind ConfigParts.config?

end Retention
