import FlowBindings.ObjectModel.Handwritten.Message

/-!
# Interfaces

The text of an interface: a method for every property, and the interface of its
builder. A property that not all versions have may be refused.
-/

namespace FlowBindings.ObjectModel.Interface

open Text
open ObjectModel.Source

def isNameChar (c : Char) : Bool := c.isAlphanum || c = '_'

def parentParts (parent : String) : String × String :=
  let cs := parent.toList
  let name := cs.takeWhile isNameChar
  let rest := cs.drop name.length
  let parameters :=
    if rest.head? = some '<' then (rest.reverse.dropWhile (· ≠ '>')).reverse else []
  (String.ofList name, String.ofList parameters)

variable (i : Interface)

def builderParent : String :=
  let parent := i.parent.getD ""
  if parent.isEmpty then ""
  else
    let (name, parameters) := parentParts parent
    "extends " ++ name ++ ".Builder" ++ parameters

def boundParameter : String :=
  let parameter := i.parameter.getD ""
  if parameter.isEmpty then "" else "<" ++ parameter ++ ">"

def propertyHoles (p : Property) : Outcome (Table String String) := do
  pure [("type", p.type.pub), ("getter", ← p.getterName), ("setter", ← p.setterName), ("name", p.name),
    ("parameter", i.typeVariable),
    ("throws", if i.isUniversal p then "" else " throws UnsupportedOperationException")]

def builderMethods (l : Library) (i : Interface) (p : Property) : Outcome String := do
  let holes ← i.propertyHoles p
  let needsSetter ← l.needsSetter i p
  pure (form holes "|        «type» «getter»()«throws»;\n"
    ++ when needsSetter (form holes "|        Builder«parameter» «setter»(«type» «name»)«throws»;\n"))

def code (l : Library) (i : Interface) : Outcome String := do
  let properties ← i.properties
  let holes := [("interface", i.name), ("bound", i.boundParameter), ("parents", join ", " (l.parents i)),
    ("parameter", i.typeVariable), ("above", i.builderParent)]
  inTurn [pure (head "of_interface.java" i.package ++ "\n"),
    pure (form holes "|public interface «interface»«bound» extends «parents» \x7b\n"),
    eachInTurn properties fun p => do
      pure (form (← i.propertyHoles p) "|    «type» «getter»()«throws»;\n"),
    pure ((Handwritten.interfaceParts.get? i.name).getD ""),
    pure (form holes r"

	void writeTo(ByteBuf channelBuffer);

	Builder«parameter» createBuilder();
	public interface Builder«bound» «above» {
		«interface»«parameter» build();
"),
    eachInTurn properties (i.builderMethods l), pure "    \x7d\n\x7d\n"]

end FlowBindings.ObjectModel.Interface
