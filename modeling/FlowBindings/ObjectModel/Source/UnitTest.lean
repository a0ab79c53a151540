import FlowBindings.ObjectModel.Source.Draft

/-!
# Unit tests

The text of a test: it reads the bytes of its data and writes them again, and if the
data says how to build the object, it also builds, writes and compares it.
-/

namespace FlowBindings.ObjectModel.UnitTest

open Text
open ObjectModel.Source

def byteLiteral (b : Nat) : String :=
  (if b < 128 then "" else "(byte) ") ++ "0x" ++ String.ofList (Nat.toDigits 16 b)

def bytesIn (data : TestData) : Outcome (List Nat) :=
  match data.get? "binary" with
  | some (.message bytes) => pure bytes
  | _ => throw (.noEntry "binary")

def statementsIn? (data : TestData) : Option String :=
  match data.get? "java" with
  | some (.text statements) => some statements
  | _ => none

def buildingTests (holes : Table String String) (usesBuilder : Bool) : String :=
  form holes r"
	@Test
	public void testWrite() {
"
    ++ form holes (if usesBuilder then r"
		«interface».Builder builder = factory.«method»();
		«statements»;
		«interface» «variable» = builder.build();
" else r"
		«interface» «variable» = factory.«method»();
")
    ++ form holes r"
		ByteBuf bb = Unpooled.buffer();
		«variable».writeTo(bb);
		byte[] written = new byte[bb.readableBytes()];
		bb.readBytes(written);

		assertThat(written, CoreMatchers.equalTo(«constant»_SERIALIZED));
	}

	@Test
	public void testRead() throws Exception {
"
    ++ form holes (if usesBuilder then r"
		«interface».Builder builder = factory.«method»();
		«statements»;
		«interface» «variable»Built = builder.build();
" else r"
		«interface» «variable»Built = factory.«method»();
")
    ++ form holes r"

		ByteBuf input = Unpooled.copiedBuffer(«constant»_SERIALIZED);

		// FIXME should invoke the overall reader once implemented
		«interface» «variable»Read = «class».READER.readFrom(input);
		assertEquals(«constant»_SERIALIZED.length, input.readerIndex());

		assertEquals(«variable»Built, «variable»Read);
   }
"

def text (l : Library) (data : TestData) (t : UnitTest) : Outcome String := do
  let c := t.tested
  let factory ← orFault (l.factoryOf? c.interface) (.noProperty "method_name")
  let usesBuilder := !(← c.dataProperties l).isEmpty
  let method ← factory.methodName c.interface usesBuilder
  if !l.versions.contains c.version then throw (.noProperty "name")
  let bytes ← bytesIn data
  let statements := statementsIn? data
  let holes := [("package", c.package), ("test", t.name), ("interface", c.interface.name),
    ("variable", c.interface.variableName), ("class", c.name), ("method", method),
    ("constant", c.constantName), ("factory", factory.name), ("made", factory.classNameFor c.version),
    ("bytes", join ", " (bytes.map byteLiteral)), ("statements", statements.getD "")]
  pure (head "unit_test.java" c.package ++ form holes r"
|import org.junit.Before;
|import org.junit.Test;
|import static org.junit.Assert.*;

|import org.hamcrest.CoreMatchers;


public class «test» {
	«factory» factory;

	final static byte[] «constant»_SERIALIZED =
		new byte[] { «bytes» };

	@Before
	public void setup() {
		factory = «made».INSTANCE;
	}

"
    ++ (if statements.isSome then buildingTests holes usesBuilder
      else block r"
   // FIXME: No java stanza in test_data for this class. Add for more comprehensive unit testing
")
    ++ form holes r"

   @Test
   public void testReadWrite() throws Exception {
	   ByteBuf input = Unpooled.copiedBuffer(«constant»_SERIALIZED);

	   // FIXME should invoke the overall reader once implemented
	   «interface» «variable» = «class».READER.readFrom(input);
	   assertEquals(«constant»_SERIALIZED.length, input.readerIndex());

	   // write message again
	   ByteBuf bb = Unpooled.buffer();
	   «variable».writeTo(bb);
	   byte[] written = new byte[bb.readableBytes()];
	   bb.readBytes(written);

	   assertThat(written, CoreMatchers.equalTo(«constant»_SERIALIZED));
   }

}
")

end FlowBindings.ObjectModel.UnitTest
