import FlowBindings.ObjectModel.Handwritten

/-!
# Reading, hashing and writing

The inner classes of a class that read an object from a buffer, feed it to a hash and
write it to a buffer. They go through the members in the order of the wire. The
length of an object and the lengths of its fields are filled in after what they
measure has been written.
-/

namespace FlowBindings.ObjectModel.Source.Draft

open Text

variable (d : Draft) (p : Property)

/-- The fields that are measured by properties among some members, and these
properties. A property whose value is fixed measures nothing. -/
def measures (parts : List Part) : Table String String :=
  (parts.filterMap Part.property?).foldl (fun t p =>
    if d.target.isFixed p then t
    else p.measuredField?.elim t fun field => t.set field p.name) []

def measureOf? (before : List Part) (p : Property) : Option String :=
  if p.isVirtual then none else (d.measures before).get? p.fieldName

def placed (parts : List Part) : List (List Part × Part) :=
  parts.zipIdx.map fun (part, k) => (parts.take k, part)

/-! ## Reading -/

def wrongValue (holes : Table String String) : String := form holes r#"
				throw new OFParseError("Wrong «name»: Expected=«constant»(«value»), got="+«name»);
"#

def readLength : Outcome String := do
  let reading := [("read", p.type.readOp d.version)] ++ d.propertyHoles p
  let check ←
    if d.target.isFixed p then do
      let holes ← d.valueHoles p
      pure (form holes r"
			if(«name» != «value»)
" ++ wrongValue holes)
    else pure (d.putFor p r#"
			if(«name» < MINIMUM_LENGTH)
				throw new OFParseError("Wrong «name»: Expected to be >= " + MINIMUM_LENGTH + ", was: " + «name»);
"#)
  pure (form reading "|            «type» «name» = «read»;\n" ++ check
    ++ d.putFor p r"
			if(bb.readableBytes() + (bb.readerIndex() - start) < «name») {
				// Buffer does not have all data yet
				bb.readerIndex(start);
				ρnull;
			}
"
    ++ when d.isTraced (d.putFor p r#"
			if(logger.isTraceEnabled())
				logger.trace("readFrom - length={}", «name»);
"#))

def readFixed : Outcome String := do
  let holes := [("read", p.type.readOp d.version false)] ++ (← d.valueHoles p)
  pure (form holes r"
			// fixed value property «name» == «value»
			«private» «name» = «read»;
			if(«name» != «stored»)
" ++ wrongValue holes)

def readPart : List Part × Part → Outcome String
  | (_, .pad length) => pure (form [("length", toString length)] r"
			// pad: «length» bytes
			bb.skipBytes(«length»);
")
  | (before, .property p) =>
    let read (length : Option String) : String :=
      form ([("read", p.type.readOp d.version true (length.getD FieldType.remainingLength))]
        ++ d.propertyHoles p) "|            «type» «name» = «read»;\n"
    if p.isVirtual then pure ""
    else if p.isData then pure (read (d.measureOf? before p))
    else if p.isLength then d.readLength p
    else if d.target.isFixed p then d.readFixed p
    else if p.isFieldLength then pure (read none)
    else pure (d.putFor p "|    // fixme: todo «name»\n")

def skipAlignment : Outcome String := do
  let align ← d.target.align
  let holes := [("align", toString align), ("padding", toString (align - 1))]
  pure (if align = 0 then ""
    else if d.target.lengthIncludesAlign then form holes r"
			// align message to «align» bytes (length contains aligned value)
			bb.skipBytes(length - (bb.readerIndex() - start));
"
    else form holes r"
			// align message to «align» bytes (length does not contain alignment)
			bb.skipBytes(((length + «padding»)/«align» * «align» ) - length );
")

def readResult : String :=
  if d.data.isEmpty then
    when d.isTraced (block r#"
			if(logger.isTraceEnabled())
				logger.trace("readFrom - returning shared instance={}", INSTANCE);
"#)
      ++ block r"
			ρINSTANCE;
"
  else
    d.normalizingPart
      ++ form ([("data", join ",\n                      " (d.data.map (·.name)))] ++ d.holes) r"
			«class» «variable» = new «class»(
					«data»
					);
"
      ++ when d.isTraced (d.put r#"
			if(logger.isTraceEnabled())
				logger.trace("readFrom - read={}", «variable»);
"#)
      ++ d.put r"
			ρ«variable»;
"

def remembersStart : Bool := d.properties.any fun p => p.isLength || p.isFieldLength

def reader : Outcome String :=
  inTurn [pure (d.put r"


	final static Reader READER = new Reader();
	static class Reader implements OFMessageReader<«interface»> {
		χ	public «interface» readFrom(ByteBuf bb) throws OFParseError {
"),
    pure (when d.remembersStart (block r"
			int start = bb.readerIndex();
")),
    eachInTurn (placed d.parts) d.readPart, d.skipAlignment, pure "\n", pure d.readResult,
    pure (block r"
		}
	}

")]

/-! ## Hashing -/

def hashPart : Part → Outcome String
  | .pad length => pure (form [("length", toString length)] r"
			// skip pad («length» bytes)
")
  | .property p =>
    if p.isVirtual then pure ""
    else if p.isData then
      pure ("            " ++ p.type.funnelOp d.version ("message." ++ p.name) ++ ";\n")
    else if d.target.isFixed p then do
      let value ← d.target.value p
      let stored ← d.target.privateValue p
      pure ("            // fixed value property " ++ p.name ++ " = " ++ value.shown ++ "\n            "
        ++ p.type.funnelOp d.version stored.shown false ++ ";\n")
    else pure (d.putFor p r"
			// FIXME: skip funnel of «name»
")

def hasher : Outcome String :=
  inTurn [pure (d.put r"
	public void putTo(PrimitiveSink sink) {
		FUNNEL.funnel(this, sink);
	}

	final static «class»Funnel FUNNEL = new «class»Funnel();
	static class «class»Funnel implements Funnel<«class»> {
		private static final long serialVersionUID = 1L;
		χ	public void funnel(«class» message, PrimitiveSink sink) {
"),
    eachInTurn d.parts d.hashPart, pure (block r"
		}
	}


")]

/-! ## Writing -/

def writeProperty : Outcome String :=
  let write (name : String) (isPublic : Bool) : String :=
    "            " ++ p.type.writeOp d.version name isPublic ++ ";\n"
  if p.isData then pure (write ("message." ++ p.name) true)
  else if d.target.isFixed p then do
    let value ← d.target.value p
    let stored ← d.target.privateValue p
    pure ("            // fixed value property " ++ p.name ++ " = " ++ value.shown ++ "\n"
      ++ write stored.shown false)
  else if p.isLength then
    pure (d.putFor p r"
			// «name» is length of variable message, will be updated at the end
"
      ++ when (!d.target.isFixedLength) (block r"
			int lengthIndex = bb.writerIndex();
")
      ++ write "0" true ++ "\n")
  else
    match p.measuredField? with
    | some field =>
      pure (form ([("measured", field)] ++ d.propertyHoles p) r"
			// «name» is length indicator for «measured», will be
			// udpated when «measured» has been written
			int «name»Index = bb.writerIndex();
"
        ++ write "0" false)
    | none => pure (d.putFor p r"
			// FIXME: todo write «name»
")

/-- Writing a member that stands behind others. A member that is measured remembers
where it begins, and its length is filled in behind it. -/
def writePart : List Part × Part → Outcome String
  | (_, .pad length) => pure (form [("length", toString length)] r"
			// pad: «length» bytes
			bb.writeZero(«length»);
")
  | (before, .property p) =>
    if p.isVirtual then pure ""
    else do
      let written ← d.writeProperty p
      pure (when (d.measureOf? before p).isSome (d.putFor p r"
			int «name»StartIndex = bb.writerIndex();
")
        ++ written
        ++ (d.measureOf? (before ++ [.property p]) p).elim "" fun measure =>
          form ([("measure", measure)] ++ d.propertyHoles p) r"
			// update field length member «measure»
			int «name»Length = bb.writerIndex() - «name»StartIndex;
			bb.setShort(«measure»Index, «name»Length);
")

def writesLength : Bool :=
  !d.target.isFixedLength
    && d.properties.any fun p => !p.isData && !d.target.isFixed p && p.isLength

def writeLength : Outcome String := do
  if !d.writesLength then return ""
  let align ← d.target.align
  let holes := [("align", toString align), ("padding", toString (align - 1)),
    ("measure", if d.target.lengthIncludesAlign then "alignedLength" else "length")]
  pure (block r"
			// update length field
			int length = bb.writerIndex() - startIndex;
"
    ++ when (align ≠ 0) (form holes r"
			int alignedLength = ((length + «padding»)/«align» * «align»);
")
    ++ form holes "|            bb.setShort(lengthIndex, «measure»);\n"
    ++ when (align ≠ 0) (form holes r"
			// align message to «align» bytes
			bb.writeZero(alignedLength - length);
"))

def writer : Outcome String :=
  inTurn [pure (d.put r"
	public void writeTo(ByteBuf bb) {
		WRITER.write(bb, this);
	}

	final static Writer WRITER = new Writer();
	static class Writer implements OFMessageWriter<«class»> {
		χ	public void write(ByteBuf bb, «class» message) {
"),
    pure (when (!d.target.isFixedLength) (block r"
			int startIndex = bb.writerIndex();
")),
    eachInTurn (placed d.parts) d.writePart, pure "\n", d.writeLength,
    pure (block r"

		}
	}

")]

end FlowBindings.ObjectModel.Source.Draft
