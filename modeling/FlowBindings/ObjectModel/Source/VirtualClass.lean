import FlowBindings.ObjectModel.Source.Codec

/-!
# Classes that only stand for others

A class whose objects all belong to its subclasses has a reader only: it reads as far
as the field that tells the subclasses apart, and leaves the rest to the reader of the
subclass.
-/

namespace FlowBindings.ObjectModel.Source.Draft

open Text

/-- The case of a subclass, whose value for the field that tells subclasses apart must
be fixed. -/
def subclassCase (d : Draft) (p : Property) (sub : Implementation) : Outcome String := do
  if !sub.isGenerated then
    return "               // skip " ++ sub.name ++ " - excluded from generation\n"
  let own ← orFault (← sub.property? d.library p.name) (.noProperty "is_fixed_value")
  if !sub.isFixed own then
    throw (.refused ("subtype " ++ sub.name ++ " of " ++ d.target.name
      ++ " does not have fixed value for discriminator " ++ p.name))
  let stored ← sub.privateValue own
  let constant ← sub.namedValue d.library own
  let value ← sub.value own
  pure (form [("stored", stored.shown), ("constant", constant.shown), ("value", value.shown),
    ("subclass", sub.name)] r"
			   case «stored»:
				   // discriminator value «constant»=«value» for class «subclass»
				   ρ«subclass».READER.readFrom(bb);
")

def choice (d : Draft) (p : Property) : Outcome String := do
  let start := form ([("read", p.type.readOp d.version false)] ++ d.propertyHoles p) r"
			«private» «name» = «read»;
			bb.readerIndex(start);
			switch(«name») {
"
  let cases ← eachInTurn (d.target.subclasses d.library) (d.subclassCase p)
  pure (start ++ cases ++ d.putFor p r#"
			   default:
				   throw new OFParseError("Unknown value for discriminator «name» of class «class»: " + «name»);
			}
"#)

/-- Reading on until the subclass is known. The first argument holds the members
already read. -/
def readUntilChoice (d : Draft) (before : List Part) : List Part → Outcome String
  | [] => pure ""
  | part :: rest =>
    let goOn (text : String) : Outcome String := do
      pure (text ++ (← d.readUntilChoice (before ++ [part]) rest))
    match part with
    | .pad length => goOn (form [("length", toString length)] r"
			// pad: «length» bytes
			bb.skipBytes(«length»);
")
    | .property p =>
      if p.isData then
        let length := (d.measureOf? before p).getD FieldType.remainingLength
        goOn ("            " ++ p.type.skipOp d.version length ++ ";\n")
      else if d.target.isFixed p then do goOn (← d.readFixed p)
      else if p.isLength then
        goOn (form ([("read", p.type.readOp d.version)] ++ d.propertyHoles p)
          "|            «type» «name» = «read»;\n"
          ++ d.putFor p r#"
			if(«name» < MINIMUM_LENGTH)
				throw new OFParseError("Wrong «name»: Expected to be >= " + MINIMUM_LENGTH + ", was: " + «name»);
"#)
      else if p.isFieldLength then
        goOn ("            int " ++ p.name ++ " = " ++ p.type.readOp d.version ++ ";\n")
      else if p.isDiscriminator then d.choice p
      else goOn ""

def virtualText (d : Draft) : Outcome String := do
  let c := d.target
  let (name, size) ←
    if c.isFixedLength then do pure ("LENGTH", ← c.length) else pure ("MINIMUM_LENGTH", c.minLength)
  let holes := [("sizeName", name), ("size", toString size)] ++ d.holes
  pure (head "of_virtual_class.java" c.package ++ "\n"
    ++ form holes r"
abstract class «class» {
	// version: «version»
	final static byte WIRE_VERSION = «wire»;
	final static int «sizeName» = «size»;


	public final static «class».Reader READER = new Reader();

	static class Reader implements OFMessageReader<«declaration»> {
		χ	public «declaration» readFrom(ByteBuf bb) throws OFParseError {
			if(bb.readableBytes() < «sizeName»)
				ρnull;
			int start = bb.readerIndex();
"
    ++ (← d.readUntilChoice [] d.parts)
    ++ block r"
		}
	}
}
")

end FlowBindings.ObjectModel.Source.Draft
