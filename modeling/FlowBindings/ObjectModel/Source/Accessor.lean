import FlowBindings.ObjectModel.Handwritten

/-!
# Accessors

A class has a method for every property of its interface, a builder also one to set
it. A property that the version does not have is refused when it is asked for.
-/

namespace FlowBindings.ObjectModel.Source.Draft

open Text

variable (d : Draft) (p : Property) (inBuilder : Bool)

def gettingBody : Outcome String := do
  let own ← orFault (d.property? p.name) (.noProperty p.name)
  if d.target.isFixed own then
    pure ("        return " ++ (← d.target.namedValue d.library own).shown ++ ";\n")
  else if own.isLength then
    let object := if inBuilder then "(" ++ d.target.name ++ ") this.getMessage()" else "this"
    pure (form [("object", object)] r"
		// FIXME: Hacky and inperformant way to determine a message length. Should be replaced with something better
		ByteBuf c = new LengthCountingPseudoByteBuf();
		WRITER.write(c, «object»);
		ρc.writerIndex();
")
  else pure ("        return " ++ own.name ++ ";\n")

def refusal : String :=
  d.putFor p r#"
		throw new υ("Property «name» not supported in version «version»");
"#

def getter : Outcome String := do
  match ← d.getterPart? p inBuilder with
  | some text => pure text
  | none =>
    let holes := [("getter", ← p.getterName),
      ("throws", if d.has p then "" else "throws UnsupportedOperationException")] ++ d.propertyHoles p
    let body ← if d.has p then d.gettingBody p inBuilder else pure (d.refusal p)
    pure (form holes r"
	χpublic «type» «getter»()«throws» {
" ++ body ++ "    \x7d\n")

def setter : Outcome String := do
  let name ← p.setterName
  match d.setterPart? name with
  | some text => pure (text ++ "\n")
  | none =>
    let holes := [("setter", name),
      ("throws", if d.has p then "" else " throws UnsupportedOperationException")] ++ d.propertyHoles p
    let isWriteable := d.target.interface.isWriteable p
    pure (form holes r"
	χpublic «interface».Builder «setter»(«type» «name»)«throws» {
" ++ (if isWriteable && d.has p then d.putFor p r"
		this.«name» = «name»;
		this.«name»Set = true;
		ρthis;
"
        else if isWriteable then d.putFor p r#"
			throw new υ("Property «name» not supported in version «version»");
"#
        else d.putFor p r#"
			throw new υ("Property «name» is not writeable");
"#) ++ "    \x7d\n")

/-- The methods for all properties of the interface; only builders have methods that
set them. -/
def accessors : Outcome String :=
  eachInTurn d.shown fun p => do
    let getting ← d.getter p inBuilder
    let needsSetter ← if inBuilder then d.library.needsSetter d.target.interface p else pure false
    pure (getting ++ "\n" ++ (← whenInTurn needsSetter (d.setter p)))

end FlowBindings.ObjectModel.Source.Draft
