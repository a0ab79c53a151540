import FlowBindings.ObjectModel.Source.Accessor
import FlowBindings.ObjectModel.Source.Codec

/-!
# Classes

The text of a class: its constants, its fields and constructor, its accessors, its two
builders, its reader and writer, and the methods that compare objects. A class without
data has one object only and no builder.
-/

namespace FlowBindings.ObjectModel.Source.Draft

open Text

variable (d : Draft) (p : Property)

def classHead : Outcome String := do
  let c := d.target
  let size ←
    if c.isFixedLength then do pure ("    final static int LENGTH = " ++ toString (← c.length) ++ ";\n")
    else pure ("    final static int MINIMUM_LENGTH = " ++ toString c.minLength ++ ";\n")
  pure (head "of_class.java" c.package ++ "\n"
    ++ d.put r"
class «class» implements «declaration» {
"
    ++ when d.isTraced (d.put r"
	private static final Logger logger = LoggerFactory.getLogger(«class».class);
")
    ++ d.put r"
	// version: «version»
	final static byte WIRE_VERSION = «wire»;
" ++ size ++ "\n")

/-- The constant for the default of a property, whose type the interface must have
as well. -/
def defaultConstant : Outcome String := do
  let shown ← orFault (d.shown.find? (·.name = p.name)) (.noProperty "java_type")
  if p.type.pub ≠ shown.type.pub then
    throw (.refused ("Interface and Class types do not match up: C: " ++ p.type.pub ++ " <-> I: "
      ++ shown.type.pub))
  let value ← d.defaultOf p
  pure (when value.isTrue (form ([("default", d.target.defaultName p), ("value", value.shown)]
    ++ d.propertyHoles p) r"
		private final static «type» «default» = «value»;
"))

def defaultObject : Outcome String := do
  let hasDefaults ← d.data.mapM d.hasDefault
  pure (when (hasDefaults.all id)
    (form ([("defaults", join ", " (d.data.map d.target.defaultName))] ++ d.holes) r"
	// Immutable default instance
	final static «class» DEFAULT = new «class»(
		«defaults»
	);
"))

def nullCheck : Outcome String := do
  if p.type.isPrimitive then return ""
  let value ← d.defaultOf p
  pure (when (!value.isTrue || value.shown ≠ "null") (d.putFor p r#"
		if(«name» == null) {
			throw new NullPointerException("«class»: property «name» cannot be null");
		}
"#))

def constructor : Outcome String := do
  if d.data.isEmpty then return d.put r"
	final static «class» INSTANCE = new «class»();
	// private empty constructor - use shared instance!
	private «class»() {
	}
"
  let parameters := join ", " (d.data.map fun p => p.type.pub ++ " " ++ p.name)
  pure (form ([("parameters", parameters)] ++ d.holes) r"
	// package private constructor - used by readers, builders, and factory
	«class»(«parameters») {
" ++ (← eachInTurn d.data d.nullCheck)
    ++ d.putEach r"
		this.«name» = «name»;
" ++ "    \x7d\n")

def fieldSection : Outcome String :=
  inTurn [eachInTurn d.data d.defaultConstant,
    pure ("\n    // OF message fields\n" ++ d.putEach "|    private final «type» «name»;\n" ++ "//\n"),
    d.defaultObject, pure "\n", d.constructor, pure "\n"]

/-! ## Builders -/

def builderFields : String := "        // OF message fields\n"
  ++ d.putEach r"
		private boolean «name»Set;
		private «type» «name»;
"

def arguments : String :=
  concat (d.data.zipIdx.map fun (p, k) =>
    "                    " ++ p.name ++ (if k + 1 < d.data.length then "," else "") ++ "\n")

def builderWithParent : Outcome String :=
  inTurn [pure (d.put r"
	public «interface».Builder createBuilder() {
		ρnew BuilderWithParent(this);
	}

	static class BuilderWithParent implements «interface».Builder {
		final «class» parentMessage;

"), pure (d.builderFields ++ "\n"),
    pure (d.put r"
		BuilderWithParent(«class» parentMessage) {
			this.parentMessage = parentMessage;
		}

"), d.accessors true,
    pure (d.put r"


		χ	public «interface» build() {
"),
    pure (each d.data fun p => d.putFor p r"
				«type» «name» = this.«name»Set ? this.«name» : parentMessage.«name»;
"
      ++ when (canBeMissing p) (d.putFor p r#"
				if(«name» == null)
					throw new NullPointerException("Property «name» must not be null");
"#)),
    pure (block r"

				//
" ++ d.normalizingPart
      ++ d.put r"
				ρnew «class»(
" ++ d.arguments
      ++ block r"
				);
		}
"),
    pure (d.builderPart true), pure "\n    \x7d\n\n"]

def buildProperty : Outcome String := do
  let start ←
    if ← d.hasDefault p then
      pure (form ([("default", d.target.defaultName p)] ++ d.propertyHoles p) r"
			«type» «name» = this.«name»Set ? this.«name» : «default»;
")
    else pure (d.putFor p r#"
			if(!this.«name»Set)
				throw new IllegalStateException("Property «name» doesn't have default value -- must be set");
"#)
  pure (start ++ when (canBeMissing p) (d.putFor p r#"
			if(«name» == null)
				throw new NullPointerException("Property «name» must not be null");
"#))

def builder : Outcome String :=
  inTurn [pure (d.put r"
	static class Builder implements «interface».Builder {
"), pure (d.builderFields ++ "\n"),
    d.accessors true, pure (d.put r"
//
		χ	public «interface» build() {
"),
    eachInTurn d.data d.buildProperty, pure "\n", pure d.normalizingPart,
    pure ("\n" ++ d.put r"
			ρnew «class»(
" ++ d.arguments
      ++ block r"
				);
		}
"),
    pure (d.builderPart false), pure "\n    \x7d\n"]

def builders : Outcome String :=
  if d.data.isEmpty then pure (d.put r#"
	// no data members - do not support builder
	public «interface».Builder createBuilder() {
		throw new υ("«class» has no mutable properties -- builder unneeded");
	}
"#)
  else inTurn [d.builderWithParent, d.builder]

/-! ## Comparing -/

def textMethod : String :=
  d.textPart?.getD
    (d.put r#"
	χpublic String toString() {
		StringBuilder b = new StringBuilder("«class»(");
"#
      ++ concat (d.data.zipIdx.map fun (p, k) =>
        when (k > 0) "        b.append(\", \");\n"
          ++ "        b.append(\"" ++ p.name ++ "=\").append("
          ++ (if p.type.isArray then "Arrays.toString(" ++ p.name ++ ")" else p.name) ++ ");\n")
      ++ block r#"
		b.append(")");
		ρb.toString();
	}
"#)

/-- Whether a property is the transaction number that may be left out when objects
are compared. -/
def isTransactionNumber : Bool := p.type.isPrimitive && p.name = "xid"

def leftOut : String := "        // ignore XID\n"

def compareProperty : String :=
  if p.type.isPrimitive then d.putFor p r"
		if( «name» != other.«name»)
			ρfalse;
"
  else if p.type.isArray then d.putFor p r"
		if (!Arrays.equals(«name», other.«name»))
				ρfalse;
"
  else d.putFor p r"
		if («name» == null) {
			if (other.«name» != null)
				ρfalse;
		} else if (!«name».equals(other.«name»))
			ρfalse;
"

def equalsMethod (name : String) (ignoresNumber : Bool) : String :=
  form [("method", name)] r"
	χpublic boolean «method»(Object obj) {
" ++ block r"
		if (this == obj)
			ρtrue;
		if (obj == null)
			ρfalse;
		if (getClass() != obj.getClass())
			ρfalse;
"
    ++ when (!d.data.isEmpty) (d.put r"
		«class» other = («class») obj;
") ++ "\n"
    ++ each d.data (fun p =>
      if ignoresNumber && isTransactionNumber p then leftOut else d.compareProperty p)
    ++ "        return true;\n    \x7d\n\n"

def hashProperty : String :=
  if p.type.pub = "long" then d.putFor p r"
		result = prime *  (int) («name» ^ («name» >>> 32));
"
  else if p.type.pub = "boolean" then d.putFor p r"
		result = prime * result + («name» ? 1231 : 1237);
"
  else if p.type.isPrimitive then d.putFor p r"
		result = prime * result + «name»;
"
  else if p.type.isArray then d.putFor p r"
		result = prime * result + Arrays.hashCode(«name»);
"
  else d.putFor p r"
		result = prime * result + ((«name» == null) ? 0 : «name».hashCode());
"

def hashMethod (name : String) (ignoresNumber : Bool) : String :=
  form [("method", name)] r"
	χpublic int «method»() {
"
    ++ when (!d.data.isEmpty) "        final int prime = 31;\n" ++ "        int result = 1;\n\n"
    ++ each d.data (fun p =>
      if ignoresNumber && isTransactionNumber p then leftOut else d.hashProperty p)
    ++ "        return result;\n    \x7d\n\n"

/-- The methods that compare and hash objects; those of messages may leave out the
transaction number. -/
def comparisons : String :=
  let isNumbered := d.data.any (·.name = "xid")
  d.equalsMethod "equals" false ++ when isNumbered (d.equalsMethod "equalsIgnoreXid" true)
    ++ d.hashMethod "hashCode" false ++ when isNumbered (d.hashMethod "hashCodeIgnoreXid" true)

def classText : Outcome String :=
  inTurn [d.classHead, d.fieldSection, pure "    // Accessors for OF message fields\n", d.accessors false,
    pure "\n", d.bodyPart, pure "\n", d.builders, d.reader, d.hasher, d.writer,
    pure (d.textMethod ++ "\n" ++ d.comparisons ++ "\x7d\n")]

end FlowBindings.ObjectModel.Source.Draft
