import FlowBindings.ObjectModel.EnumType
import FlowBindings.ObjectModel.Source.Head

/-!
# Enums

The text of an enum, and for each version that of the class that turns its constants
into numbers and back. Where constants are bits, sets of constants are turned into
numbers; constants that exclude each other are then told apart under their mask.
-/

namespace FlowBindings.ObjectModel.EnumType

open Text
open ObjectModel.Source

variable (e : EnumType) (v : Version)

def arguments (c : Constant) : Outcome String := do
  if e.traits.isEmpty then return ""
  let values ← e.traits.mapM fun t => do
    match ← t.type.formatValue (← e.traitOf c t) with
    | .text s => pure s
    | _ => throw (.wrongKind "argument")
  pure ("(" ++ join ", " values ++ ")")

def traitMembers : String :=
  let holes (t : ConstantTrait) : Table String String :=
    [("type", t.type.pub), ("variable", t.variableName), ("getter", t.getterName)]
  let parameters := join ", " (e.traits.map fun t => t.type.pub ++ " " ++ t.variableName)
  "\n" ++ each e.traits (fun t => form (holes t) r"
	 private final «type» «variable»;
")
    ++ "\n     private " ++ e.name ++ "(" ++ parameters ++ ") \x7b\n"
    ++ each e.traits (fun t => form (holes t) r"
		this.«variable» = «variable»;
") ++ "     \x7d\n"
    ++ each e.traits (fun t => form (holes t) r"

	 public «type» «getter»() {
		 ρ«variable»;
	 }
")

def code : Outcome String := do
  let last := e.constants.length
  let constants ← eachInTurn e.constants.zipIdx fun (c, k) => do
    pure ("     " ++ c.name ++ (← e.arguments c) ++ (if k + 1 < last then ", " else ";") ++ "\n")
  pure (head "const.java" basePackage ++ "\npublic enum " ++ e.name ++ " \x7b\n" ++ constants
    ++ when (!e.traits.isEmpty) e.traitMembers ++ "\x7d\n")

/-! ## Numbers -/

def serializerName : String := e.name ++ "SerializerVer" ++ v.digits

def constantsIn : List Constant :=
  e.constants.filter fun c => (c.values.get? v).isSome

def constantsByNumber : List Constant :=
  (e.constantsIn v).mergeSort fun a b => (a.values.get? v).getD 0 ≤ (b.values.get? v).getD 0

def numbers (constants : List Constant) : Outcome String := do
  let wire ← e.wireType v
  eachInTurn constants fun c => do
    pure ("    public final static " ++ wire.pub ++ " " ++ c.name ++ "_VAL = "
      ++ (← e.formatted c v).shown ++ ";\n")

/-- What the forms of a version call by name; `argument` is what is turned into a
number. -/
def holes (argument : String) : Outcome (Table String String) := do
  let wire ← e.wireType v
  let number := "toWireValue(" ++ argument ++ ")"
  pure [("enum", e.name), ("class", e.serializerName v), ("wireType", wire.pub), ("version", v.dotted),
    ("read", wire.readOp v), ("write", wire.writeOp v number), ("funnel", wire.funnelOp v number)]

def singleSerializer : Outcome String := do
  let holes ← e.holes v "e"
  let constants := e.constantsByNumber v
  let labelled (s : String) := each constants fun c => form ([("constant", c.name)] ++ holes) s
  pure (head "const_serializer.java" ("org.projectfloodlight.openflow.protocol.ver" ++ v.digits)
    ++ form holes r"
|ιprotocol.«enum»;

public class «class» {

" ++ (← e.numbers v constants) ++ form holes r"

	public static «enum» readFrom(ByteBuf bb) throws OFParseError {
		try {
			ρofWireValue(«read»);
		} catch (IllegalArgumentException e) {
			throw new OFParseError(e);
		}
	}

	public static void writeTo(ByteBuf bb, «enum» e) {
		«write»;
	}

	public static void putTo(«enum» e, PrimitiveSink sink) {
		«funnel»;
	}

	public static «enum» ofWireValue(«wireType» val) {
		switch(val) {
"
    ++ labelled r"
			case «constant»_VAL:
				ρ«enum».«constant»;
"
    ++ form holes r#"
			default:
				throw new IllegalArgumentException("Illegal wire value for type «enum» in version «version»: " + val);
		}
	}


	public static «wireType» toWireValue(«enum» e) {
		switch(e) {
"#
    ++ labelled r"
			case «constant»:
				ρ«constant»_VAL;
"
    ++ form holes r#"
			default:
				throw new IllegalArgumentException("Illegal enum value for type «enum» in version «version»: " + e);
		}
	}

}
"#)

/-- The statements that find the constants of a set in a number. Constants of one
group, one after another, exclude each other. -/
def findConstants (e : EnumType) (holes : Table String String) :
    Option MaskedGroup → List Constant → String
  | _, [] => ""
  | last, c :: rest =>
    if e.isMask c then e.findConstants holes last rest
    else
      let holes' := [("constant", c.name)] ++ holes
      match e.groupOf? c with
      | some g =>
        form ([("else", if some g = last then "else " else ""), ("mask", g.mask)] ++ holes') r"
		«else»if((val & «mask»_VAL) == «constant»_VAL)
			set.add(«enum».«constant»);
" ++ e.findConstants holes (some g) rest
      | none => form holes' r"
		if((val & «constant»_VAL) != 0)
			set.add(«enum».«constant»);
" ++ e.findConstants holes none rest

def setSerializer : Outcome String := do
  let holes ← e.holes v "set"
  let constants := e.constantsIn v
  let labelled (s : String) :=
    each (constants.filter (!e.isMask ·)) fun c => form ([("constant", c.name)] ++ holes) s
  pure (head "const_set_serializer.java" ("org.projectfloodlight.openflow.protocol.ver" ++ v.digits)
    ++ form holes r"

|ιprotocol.«enum»;

public class «class» {

" ++ (← e.numbers v constants) ++ form holes r"

	public static Set<«enum»> readFrom(ByteBuf bb) throws OFParseError {
		try {
			ρofWireValue(«read»);
		} catch (IllegalArgumentException e) {
			throw new OFParseError(e);
		}
	}

	public static void writeTo(ByteBuf bb, Set<«enum»> set) {
		«write»;
	}

	public static void putTo(Set<«enum»> set, PrimitiveSink sink) {
		«funnel»;
	}


	public static Set<«enum»> ofWireValue(«wireType» val) {
		EnumSet<«enum»> set = EnumSet.noneOf(«enum».class);

"
    ++ e.findConstants holes none constants
    ++ form holes r"
		ρCollections.unmodifiableSet(set);
	}

	public static «wireType» toWireValue(Set<«enum»> set) {
		«wireType» wireValue = 0;

		for(«enum» e: set) {
			switch(e) {
"
    ++ labelled r"
				case «constant»:
					wireValue |= «constant»_VAL;
					break;
"
    ++ form holes r#"
				default:
					throw new IllegalArgumentException("Illegal enum value for type «enum» in version «version»: " + e);
			}
		}
		ρwireValue;
	}

}
"#)

def serializer : Outcome String :=
  if e.isBitmask then e.setSerializer v else e.singleSerializer v

end FlowBindings.ObjectModel.EnumType
