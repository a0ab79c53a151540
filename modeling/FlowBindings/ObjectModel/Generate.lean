import FlowBindings.ObjectModel.Imports
import FlowBindings.ObjectModel.Looking
import FlowBindings.ObjectModel.Source.Class
import FlowBindings.ObjectModel.Source.Constants
import FlowBindings.ObjectModel.Source.Factory
import FlowBindings.ObjectModel.Source.Interface
import FlowBindings.ObjectModel.Source.UnitTest
import FlowBindings.ObjectModel.Source.VirtualClass

/-!
# Generating the object model

The files of an object model: a file for every interface, class, enum and factory, in
the directory of its package, with its imports cleaned. Classes for which there is
test data are accompanied by tests.
-/

namespace FlowBindings.ObjectModel

open Text

/-- A part of the object model that is generated on its own. -/
inductive Stage where
  | interfaces
  | classes
  | constants
  | factories
  deriving DecidableEq, Repr

structure GeneratorOptions where
  /-- Whether classes report what they read. -/
  isTraced : Bool := true
  deriving DecidableEq, Repr

namespace Library

def mainDirectory : String := "gen-src/main/java"

def testDirectory : String := "gen-src/test/java"

def pathIn (directory package name : String) : String :=
  directory ++ "/" ++ Text.replace package "." "/" ++ "/" ++ name ++ ".java"

def fileIn (directory package name : String) (text : Outcome String) : Outcome (String × String) := do
  pure (pathIn directory package name, cleanImports (← text))

def mainFile (package name : String) (text : Outcome String) : Outcome (String × String) :=
  fileIn mainDirectory package name text

/-! ## Interfaces -/

variable (l : Library) (o : GeneratorOptions)

def interfaceFile (i : Interface) : Looking (String × String) := do
  for p in ← i.look l do
    let _ ← l.lookForSetter i p
  .of (mainFile i.package i.name (i.code l))

/-! ## Classes -/

def testFiles (data : Directory) (c : Implementation) : Outcome Tree :=
  (UnitTest.all data c).mapM fun t =>
    fileIn testDirectory c.package t.name do t.text l (← data.sections t.file)

/-- The file of a class that only stands for others; the members of those tell them
apart. -/
def virtualFile (c : Implementation) :
    Looking (String × String) := do
  let draft := Source.Draft.ofParts l o.isTraced c (← c.look l) []
  for p in draft.properties.filter fun p => p.isDiscriminator && !c.isFixed p do
    for sub in (c.subclasses l).filter (·.isGenerated) do
      let _ ← sub.look l
      let _ ← .of (draft.subclassCase p sub)
  .of (mainFile c.package c.name draft.virtualText)

def classFile (c : Implementation) :
    Looking (String × String) := do
  let parts ← c.look l
  let draft := Source.Draft.ofParts l o.isTraced c parts (← c.interface.look l)
  let _ ← .of draft.fieldSection
  unless draft.data.isEmpty do
    for p in draft.shown do
      let _ ← l.lookForSetter c.interface p
  .of (mainFile c.package c.name draft.classText)

/-- The files of a class: the class itself and its tests. A class that only stands for
others has no tests. -/
def filesOfClass (data : Directory) (c : Implementation) : Looking Tree := do
  if !c.isGenerated then return []
  if c.isVirtual then return [← l.virtualFile o c]
  pure ((← l.classFile o c) :: (← .of (l.testFiles data c)))

/-! ## Enums -/

/-- The files of an enum: the enum itself, and for each version the class that turns
its constants into numbers. -/
def filesOfEnum (e : EnumType) : Outcome Tree := do
  let file ← mainFile basePackage e.name e.code
  let serializers ← e.versions.keys.mapM fun v =>
    mainFile (Implementation.packageOf v) (e.serializerName v) (e.serializer v)
  pure (file :: serializers)

def constantFiles (enums : List EnumType) : Outcome Tree := do
  pure (← (enums.filter (·.name ≠ "OFPort")).mapM filesOfEnum).flatten

/-! ## Factories -/

def lookAtMade (f : Factory) (v : Version) : Looking Unit :=
  f.made.forM fun i => do
    let count := (← .of i.writeable).length
    if 0 < count && count ≤ 2 then
      if let some c := Factory.generated? i v then
        let _ ← c.lookAnew l

def filesOfFactory (f : Factory) : Looking Tree := do
  for i in f.made do
    let _ ← i.look l
  let interface ← .of (mainFile f.package f.name (f.interfaceText l))
  let classes ← l.versions.mapM fun v => do
    l.lookAtMade f v
    .of (mainFile (Implementation.packageOf v) (f.classNameFor v) (f.classText l v))
  pure (interface :: classes)

def factoryFiles : Looking Tree := do
  let files ← l.factories.mapM l.filesOfFactory
  pure (files.flatten
    ++ [← .of (mainFile basePackage "OFFactories" (pure (Factory.allText l.versions)))])

end Library

/-! ## The object model -/

def Stage.ofName (name : String) : Outcome Stage :=
  orFault (Table.get? [("interfaces", interfaces), ("classes", classes), ("const_enums", constants),
    ("factories", factories)] name) (.noProperty name)

def stageNames : List String := ["interfaces", "classes", "const_enums", "factories"]

def stageFiles (m : Model) (targets : List Version) (library : Outcome Library)
    (o : GeneratorOptions) (data : Directory) : Stage → Looking Tree
  | .interfaces => do
    let l ← Library.opened m library
    l.interfaces.mapM l.interfaceFile
  | .classes => do
    let l ← Library.opened m library
    pure (← l.classes.mapM (l.filesOfClass o data)).flatten
  | .constants => .of do Library.constantFiles (← enumsOf m targets.eraseDups)
  | .factories => do (← Library.opened m library).factoryFiles

def generate (m : Model) (targets : List Version) (o : GeneratorOptions) (data : Directory)
    (stages : List String) : Looking Tree := do
  let library := Library.build m targets
  let parts ← stages.mapM fun name => do
    stageFiles m targets library o data (← .of (Stage.ofName name))
  pure (parts.foldl Tree.overlay [])

end FlowBindings.ObjectModel
