import FlowBindings.ObjectModel.Factory
import FlowBindings.ObjectModel.Source.Head

/-!
# Drafts of classes

A draft is a class together with all that its text speaks of: its members, those
that hold data, and the properties that its interface shows.
-/

namespace FlowBindings.ObjectModel.Source

open Text

structure Draft where
  library : Library
  target : Implementation
  parts : List Part
  /-- Those of its properties that hold data. -/
  data : List Property
  /-- The properties of its interface; a class that only stands for others does not
  need them. -/
  shown : List Property
  /-- Whether the class reports what it reads. -/
  isTraced : Bool

namespace Draft

def ofParts (l : Library) (isTraced : Bool) (c : Implementation) (parts : List Part)
    (shown : List Property) : Draft :=
  { library := l, target := c, parts
    data := (parts.filterMap Part.property?).filter (·.isData)
    shown, isTraced }

variable (d : Draft) (p : Property) (text : String)

def version : Version := d.target.version

def properties : List Property := d.parts.filterMap Part.property?

def property? (name : String) : Option Property := d.properties.find? (·.name = name)

def has : Bool := d.properties.any (p.sameAs ·)

def defaultOf : Outcome Value := d.target.defaultValue d.library p

def hasDefault : Outcome Bool := do pure (← d.defaultOf p).isTrue

def holes : Table String String :=
  [("class", d.target.name), ("interface", d.target.interface.name),
   ("declaration", d.target.interface.declaration), ("variable", d.target.variableName),
   ("version", d.version.dotted), ("wire", toString d.version.wire), ("digits", d.version.digits),
   ("versionConstant", "OF_" ++ d.version.digits)]

def propertyHoles : Table String String :=
  [("name", p.name), ("type", p.type.pub), ("private", p.type.priv)] ++ d.holes

def put : String := form d.holes text

def putFor : String := form (d.propertyHoles p) text

def putEach : String := each d.data fun p => d.putFor p text

def canBeMissing : Bool := !p.type.isPrimitive

def valueHoles : Outcome (Table String String) := do
  let value ← d.target.value p
  let stored ← d.target.privateValue p
  let constant ← d.target.namedValue d.library p
  pure ([("value", value.shown), ("stored", stored.shown), ("constant", constant.shown)]
    ++ d.propertyHoles p)

end Draft

end FlowBindings.ObjectModel.Source
