import FlowBindings.Table
import FlowBindings.Text.Basic

/-!
# Forms

A form is a text with named holes, written in the source as a block: its lines stand as
they are, below the line that opens it. The first character of a block is not part of the
text, nor is a bar at the start of a line: the bar stands where the line would begin like
one of the source. A tab stands for four blanks, a section sign for a row of stars, a
paragraph sign for the start of a comment, and Greek letters stand for the names and words that
generated texts are full of.

A hole is a name between the brackets `«` and `»`. Neither bracket occurs in
generated text, so filling a form never meets one by accident. A hole without a
value is left standing.
-/

namespace FlowBindings.Text

/-- Reading a block: the text so far, and whether a line starts here. -/
structure BlockState where
  text : String
  starts : Bool
  deriving Repr

/-- What characters beyond ASCII stand for in a block. -/
def marks : Table Char String :=
  [('§', repeated 64 "*"), ('¶', "/**\n * "), ('ω', "of_object_"), ('Ω', "OF_OBJECT_"),
   ('δ', "#define "), ('π', " * @param "), ('ν', "OF_VERSION_"), ('σ', "static inline "),
   ('β', "of_wire_buffer_"), ('κ', "writer, cookie, "), ('μ', "of_match_"), ('τ', "TEST_ASSERT("),
   ('λ', "LOCI_ASSERT("), ('ε', "OF_ERROR_"), ('θ', "#include <loci/"),
   ('υ', "UnsupportedOperationException"), ('ι', "import org.projectfloodlight.openflow."),
   ('φ', "public <F extends OFValueType<F>>"), ('χ', "@Override\n    "), ('ρ', "return "),
   ('ψ', "final public static int OFPFW_"), ('ζ', "OFVersions.VERSION_1_")]

/-- What a character stands for in a block, if not for itself. -/
def mark? (c : Char) : Option String :=
  if c = '\t' then some "    " else if c.toNat < 128 then none else marks.get? c

def BlockState.read (s : BlockState) (c : Char) : BlockState :=
  if s.starts && c = '|' then { s with starts := false }
  else match mark? c with
    | some text => ⟨s.text ++ text, false⟩
    | none => ⟨s.text.push c, c = '\n'⟩

variable (holes : Table String String) (s : String)

/-- The text of a block. -/
def block : String :=
  ((s.toList.drop 1).foldl BlockState.read ⟨"", true⟩).text

/-- Filling a form: the text so far, and the name of the hole being read. -/
structure FillState where
  text : String
  /-- The name so far of the hole being read. -/
  hole : Option String
  deriving Repr

def FillState.read (s : FillState) (c : Char) : FillState :=
  match s.hole with
  | none => if c = '«' then ⟨s.text, some ""⟩ else ⟨s.text.push c, none⟩
  | some name =>
    if c = '»' then
      ⟨s.text ++ (holes.get? name).getD ("«" ++ name ++ "»"), none⟩
    else ⟨s.text, some (name.push c)⟩

/-- The text with its holes filled. -/
def fill : String :=
  (s.toList.foldl (FillState.read holes) ⟨"", none⟩).text

/-- A block with its holes filled. -/
def form : String :=
  fill holes (block s)

/-- One text per element, one after another. -/
def each {α : Type} (xs : List α) (f : α → String) : String :=
  concat (xs.map f)

/-- The text if the condition holds, and nothing otherwise. -/
def when (condition : Bool) (text : String) : String :=
  if condition then text else ""

/-- A text with every line that is not empty moved to the right. -/
def indented (width : Nat) (text : String) : String :=
  each (linesKept text) fun line => if line = "\n" then line else repeated width " " ++ line

end FlowBindings.Text
