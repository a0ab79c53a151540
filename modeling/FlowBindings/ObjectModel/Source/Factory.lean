import FlowBindings.ObjectModel.Factory
import FlowBindings.ObjectModel.Source.Head

/-!
# Factories

The text of the interface of a factory, of its class for each version, and of the
class that knows the factories of all versions. A factory gives builders; for an
interface with two properties or fewer it also makes objects at once.
-/

namespace FlowBindings.ObjectModel.Factory

open Text
open ObjectModel.Source

variable (l : Library) (f : Factory) (v : Version) (i : Interface) (writeable : List Property)

def made : List Interface := f.members.filter (!·.isVirtual)

/-- The parameters of the method that makes an object; a transaction number is not
asked for. -/
def parameters : String :=
  join ", " ((writeable.filter (·.name ≠ "xid")).map fun p => p.type.pub ++ " " ++ p.name)

def declarations : Outcome String := do
  let writeable ← i.writeable
  let building ← whenInTurn (!writeable.isEmpty) do
    pure ("    " ++ i.name ++ ".Builder " ++ (← f.methodName i) ++ "()"
      ++ (if l.isUniversal i then "" else " throws UnsupportedOperationException") ++ ";\n")
  let making ← whenInTurn (writeable.length ≤ 2) do
    pure ("    " ++ i.name ++ " " ++ (← f.methodName i false) ++ "(" ++ parameters writeable ++ ");\n")
  pure (building ++ making)

def interfaceText : Outcome String :=
  inTurn [pure (head "of_factory_interface.java" f.package ++ "\npublic interface " ++ f.name
      ++ when f.numbers " extends XidGenerator" ++ " \x7b\n    // Subfactories\n"
      ++ each f.others (fun (method, type) => "    " ++ type ++ " " ++ method ++ "();\n") ++ "\n"),
    eachInTurn f.made (f.declarations l),
    pure (when (f.name = "OFFactory") (block r"
	Match.Builder buildMatch();
	Match matchWildcardAll();
	Stat.Builder buildStat();
")
      ++ form [("base", f.base)] r"

	OFMessageReader<«base»> getReader();
	OFVersion getVersion();
"
      ++ when (f.name = "OFOxms") (block r"

	φ OFOxm<F> fromValue(F value, MatchField<F> field);
	φ OFOxm<F> fromValueAndMask(F value, F mask, MatchField<F> field);
	φ OFOxm<F> fromMasked(Masked<F> masked, MatchField<F> field);
")
      ++ when (f.name = "OFOxss") (block r"

	φ OFOxs<F> fromValue(F value, StatField<F> field);
") ++ "\x7d\n")]

/-! ## The class for a version -/

def generated? (v : Version) : Option Implementation :=
  (i.implementation v).toOption.filter (·.isGenerated)

def refusal (v : Version) : String :=
  "        throw new UnsupportedOperationException(\"" ++ i.name ++ " not supported in version " ++ v.dotted
    ++ "\");\n"

def buildMethod : Outcome String := do
  let numbered := if (← i.property? "xid").isSome then ".setXid(nextXid())" else ""
  pure ("    public " ++ i.name ++ ".Builder " ++ (← f.methodName i) ++ "() \x7b\n"
    ++ (match generated? i v with
      | some c => "        return new " ++ c.name ++ ".Builder()" ++ numbered ++ ";\n"
      | none => refusal i v)
    ++ "    \x7d\n")

def madeObject (c : Implementation) : Outcome String := do
  if writeable.isEmpty then return "        return " ++ c.name ++ ".INSTANCE;\n"
  let names := (← c.dataProperties l).map fun p => if p.name = "xid" then "nextXid()" else p.name
  pure ("        return new " ++ c.name ++ "(\n                "
    ++ join ",\n                      " names ++ "\n                    );\n")

def makeMethod :
    Outcome String := do
  let start := "    public " ++ i.name ++ " " ++ (← f.methodName i false) ++ "(" ++ parameters writeable ++ ") \x7b\n"
  let body ← match generated? i v with
    | some c => madeObject l writeable c
    | none => pure (refusal i v)
  pure (start ++ body ++ "    \x7d\n")

def matchMember? : Option Interface :=
  f.made.find? fun i => startsWith i.name "OFMatch" && i.versions.contains v

def matchMethods (c : Implementation) : String := form [("class", c.name)] r"
	public Match.Builder buildMatch() {
		ρnew «class».Builder();
	}

	final static Match MATCH_WILDCARD_ALL = «class».DEFAULT;

	public Match matchWildcardAll() {
		ρMATCH_WILDCARD_ALL;
	}
"

def definitions : Outcome String := do
  let writeable ← i.writeable
  let building ← whenInTurn (!writeable.isEmpty) (f.buildMethod v i)
  let matching ← whenInTurn ((f.matchMember? v).any (·.source.name = i.source.name)) do
    pure (matchMethods (← i.implementation v))
  let making ← whenInTurn (writeable.length ≤ 2) (f.makeMethod l v i writeable)
  pure ("\n" ++ building ++ matching ++ making)

/-! ## Entries by field -/

/-- The cases of entries; the method that makes one is named for its interface
without the name of its family. -/
def entryCases (family : String) (entries : List (String × Library.EntryKind)) (text : String) :
    Outcome String :=
  eachInTurn entries fun (name, entry) => do
    let rest := Text.replace name family ""
    if rest.isEmpty then throw .noElement
    pure (form [("value", entry.constant), ("method", lowerFirst rest), ("type", entry.type)] text)

/-- The method that makes the entry for a field. -/
def entryMethod (family heading arguments : String) (entries : List (String × Library.EntryKind))
    (otherwise : String) : Outcome String := do
  let cases ← entryCases family entries (r"
			case «value»:
				ρ(" ++ family ++ "<F>)((Object)«method»(" ++ arguments ++ "));\n")
  pure (form [("heading", family ++ "<F> " ++ heading), ("cases", cases), ("otherwise", otherwise)] r#"
	@SuppressWarnings("unchecked")
	φ «heading» {
		switch (field.id) {
«cases»			default:
				«otherwise»
		}
	}
"#)

def unknownField : String :=
  "throw new IllegalArgumentException(\"No OXM known for match field \" + field);"

def matchEntryMethods : Outcome String := do
  let entries ← l.matchEntries
  let masked := entries.filter fun (_, e) => e.isMasked
  let unmasked := entries.filter fun (_, e) => !e.isMasked
  inTurn [
    entryMethod "OFOxm" "fromValue(F value, MatchField<F> field)" "(«type»)((Object)value)" unmasked
      unknownField,
    pure "\n",
    entryMethod "OFOxm" "fromValueAndMask(F value, F mask, MatchField<F> field)"
      "(«type»)((Object)value), («type»)((Object)mask)" masked unknownField,
    pure "\n",
    entryMethod "OFOxm" "fromMasked(Masked<F> masked, MatchField<F> field)"
      "(«type»)((Object)(masked.getValue())), («type»)((Object)(masked.getMask()))" masked
      "return null;"]

def statEntryMethods : Outcome String := do
  let entries ← l.statEntries
  inTurn [
    entryMethod "OFOxs" "fromValue(F value, StatField<F> field)" "(«type»)((Object)value)" entries
      unknownField,
    pure "\n"]

def ownMethods : Outcome String :=
  if f.name = "OFFactory" then pure (block r"
	χpublic Stat.Builder buildStat() {
			ρbuildStatV6();
	}
")
  else if f.name = "OFOxms" then matchEntryMethods l
  else if f.name = "OFOxss" then statEntryMethods l
  else pure ""

def readerMethod : String :=
  "    public OFMessageReader<" ++ f.base ++ "> getReader() \x7b\n"
    ++ (match f.versionedBase? l v with
      | some c => "        return " ++ c.name ++ ".READER;\n"
      | none => "        throw new UnsupportedOperationException(\"Reader<" ++ f.base
          ++ "> not supported in version " ++ v.dotted ++ "\");\n")
    ++ "    \x7d\n"

def classText : Outcome String :=
  let holes := [("factory", f.classNameFor v), ("interface", f.name), ("digits", v.digits),
    ("versionConstant", "OF_" ++ v.digits)]
  inTurn [pure (opening "of_factory_class.java" (Implementation.packageOf v)
      ++ "import org.projectfloodlight.openflow.protocol.OFOxmList;\n\n" ++ importLines ++ "\n"
      ++ form holes r"
public class «factory» implements «interface» {
	public final static «factory» INSTANCE = new «factory»();

"
      ++ when f.numbers (block r"
	private final XidGenerator xidGenerator = XidGenerators.global();
") ++ "\n"
      ++ each f.others (fun (method, type) => form ([("name", method), ("type", type)] ++ holes) r"
	public «type» «name»() {
		ρ«type»Ver«digits».INSTANCE;
	}
") ++ "\n"),
    eachInTurn f.made (f.definitions l v),
    pure ("\n" ++ f.readerMethod l v ++ "\n"), f.ownMethods l,
    pure (when f.numbers (block r"
	public long nextXid() {
		ρxidGenerator.nextXid();
	}
")
      ++ form holes r"

	public OFVersion getVersion() {
			ρOFVersion.«versionConstant»;
	}
}
")]

def allText (versions : List Version) : String :=
  let labelled (s : String) := each versions fun v =>
    form [("versionConstant", "OF_" ++ v.digits), ("digits", v.digits), ("wire", toString v.wire)] s
  head "of_factories.java" basePackage ++ "\n"
    ++ block r"
public final class OFFactories {

	private static final GenericReader GENERIC_READER = new GenericReader();

	public static OFFactory getFactory(OFVersion version) {
		switch(version) {
"
    ++ labelled r"
			case «versionConstant»:
				ρorg.projectfloodlight.openflow.protocol.ver«digits».OFFactoryVer«digits».INSTANCE;
"
    ++ block r#"
			default:
				throw new IllegalArgumentException("Unknown version: "+version);
			}
	}

	private static class GenericReader implements OFMessageReader<OFMessage> {
		public OFMessage readFrom(ByteBuf bb) throws OFParseError {
			if(!bb.isReadable())
				ρnull;
			short wireVersion = U8.f(bb.getByte(bb.readerIndex()));
			OFFactory factory;
			switch (wireVersion) {
"#
    ++ labelled r"
			case «wire»:
				factory = org.projectfloodlight.openflow.protocol.ver«digits».OFFactoryVer«digits».INSTANCE;
				break;
"
    ++ block r#"
			default:
				throw new IllegalArgumentException("Unknown wire version: " + wireVersion);
			}
			ρfactory.getReader().readFrom(bb);
		}
	}

	public static OFMessageReader<OFMessage> getGenericReader() {
		ρGENERIC_READER;
	}
}
"#

end FlowBindings.ObjectModel.Factory
