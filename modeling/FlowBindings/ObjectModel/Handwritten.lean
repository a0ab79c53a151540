import FlowBindings.ObjectModel.Handwritten.Match
import FlowBindings.ObjectModel.Handwritten.Message
import FlowBindings.ObjectModel.Handwritten.WildcardMatch

/-!
# Parts written by hand

Which classes have parts that are written by hand, and where these go.
-/

namespace FlowBindings.ObjectModel.Source.Draft

open Text

variable (d : Draft)

def isClass (interface : String) (versions : List Version) : Bool :=
  d.target.interface.name = interface && versions.contains d.version

def entryMatchVersions : List Version := [.v12, .v13, .v14, .v15]

def bodyPart : Outcome String :=
  if d.isClass "OFMatchV1" [.v10] then pure Handwritten.wildcardMatch
  else if d.isClass "OFMatchV2" [.v11] then pure Handwritten.fixedMatch
  else if d.isClass "OFMatchV3" entryMatchVersions then Handwritten.entryMatch d
  else if d.isClass "OFStatV6" [.v15] then Handwritten.statistics d
  else if d.isClass "OFPortDesc" Version.all then pure (Handwritten.port d)
  else pure ""

/-- Additions to the builders of a class, which start from an object or from
nothing. -/
def builderPart (hasParent : Bool) : String :=
  if d.isClass "OFMatchV1" [.v10] then Handwritten.wildcardMatchBuilder hasParent
  else if d.isClass "OFMatchV2" [.v11] then Handwritten.fixedMatchBuilder
  else if d.isClass "OFMatchV3" entryMatchVersions then Handwritten.entryMatchBuilder d
  else if d.isClass "OFStatV6" [.v15] then Handwritten.statisticsBuilder d
  else if d.isClass "OFGroupInsertBucket" [.v15] then Handwritten.insertBucket
  else if d.isClass "OFGroupRemoveBucket" [.v15] then Handwritten.removeBucket
  else ""

def normalizingPart : String :=
  when (d.isClass "OFMatchV1" [.v10]) Handwritten.normalizeWildcards

def textPart? : Option String :=
  if d.isClass "OFMatchV1" [.v10] || d.isClass "OFMatchV3" entryMatchVersions then
    some (Handwritten.matchText d)
  else none

def getterPart? (p : Property) (inBuilder : Bool) : Outcome (Option String) := do
  if p.family.isSome then
    if inBuilder then pure none else some <$> Handwritten.canonical d p
  else
    let getter ← p.getterName
    if getter = "getActions" && Handwritten.givesInstructionActions d.target then
      pure (some (if inBuilder then Handwritten.builderGetActions else Handwritten.getActions))
    else pure none

def setterPart? (setter : String) : Option String :=
  if setter = "setActions" && Handwritten.givesInstructionActions d.target then
    some (Handwritten.setActions d)
  else if setter = "setData" && d.isClass "OFBundleAddMsg" [.v14] then some Handwritten.setData
  else none

end FlowBindings.ObjectModel.Source.Draft
