import FlowBindings.ObjectModel.Implementation

/-!
# Factories

A factory makes objects of the interfaces below one interface; the factory for
messages makes all that no other factory makes and knows the others. An interface
belongs to the first factory that takes it.
-/

namespace FlowBindings.ObjectModel

open Text

structure Factory where
  package : String
  name : String
  members : List Interface
  dropped : String
  base : String
  /-- The factories it knows: the methods that give them and their types. -/
  others : List (String × String)
  numbers : Bool

def factoryBases : List String :=
  ["OFAction", "OFInstruction", "OFMeterBand", "OFOxm", "OFQueueProp", "OFErrorMsg", "OFActionId",
   "OFInstructionId", "OFBsnTlv", "OFOxs"]

namespace Library

def factoryBase? (l : Library) (i : Interface) : Option String :=
  factoryBases.find? fun base => l.isInstanceOf i (l.interface? base)

def factories (l : Library) : List Factory :=
  let based := l.interfaces.map fun i => (i, l.factoryBase? i)
  let membersOf (base : Option String) : List Interface :=
    (based.filter fun (_, b) => b = base).map (·.1)
  let own := factoryBases.map fun base =>
    ({ package := basePackage ++ "." ++ lower (dropFirst 2 base)
       name := base ++ "s"
       members := membersOf (some base)
       dropped := lowerFirst (dropFirst 2 base)
       base := if base = "OFOxm" || base = "OFOxs" then base ++ "<?>" else base
       others := []
       numbers := base = "OFErrorMsg" } : Factory)
  own ++ [
    { package := basePackage
      name := "OFFactory"
      members := membersOf none
      dropped := ""
      base := "OFMessage"
      others := factoryBases.map fun base => (lowerFirst (dropFirst 2 base) ++ "s", base ++ "s")
      numbers := true }]

def factoryOf? (l : Library) (i : Interface) : Option Factory :=
  l.factories.find? fun f => f.members.any (·.source.name = i.source.name)

end Library

namespace Factory

def methodName (f : Factory) (i : Interface) (builder : Bool := true) : Outcome String := do
  let name ←
    if startsWith i.variableName f.dropped then
      let rest := dropFirst f.dropped.length i.variableName
      if rest.isEmpty then throw .noElement else pure (lowerFirst rest)
    else pure i.variableName
  pure (if builder then "build" ++ upperFirst name else name)

def classNameFor (f : Factory) (v : Version) : String := f.name ++ "Ver" ++ v.digits

def versionedBase? (l : Library) (f : Factory) (v : Version) : Option Implementation :=
  (l.interface? f.base).bind fun i => (i.implementation v).toOption

end Factory

end FlowBindings.ObjectModel
