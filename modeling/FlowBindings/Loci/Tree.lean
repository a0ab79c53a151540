import FlowBindings.Loci.ClassTable
import FlowBindings.Loci.Documentation
import FlowBindings.Loci.Header
import FlowBindings.Loci.IdentifierHeader
import FlowBindings.Loci.Internals
import FlowBindings.Loci.ListSource
import FlowBindings.Loci.MatchConversion
import FlowBindings.Loci.Output
import FlowBindings.Loci.Support.Actions
import FlowBindings.Loci.Support.BuildFile
import FlowBindings.Loci.Support.Manual
import FlowBindings.Loci.Support.ManualSettings
import FlowBindings.Loci.Support.Objects
import FlowBindings.Loci.Support.Reporting
import FlowBindings.Loci.Support.Testing
import FlowBindings.Loci.Support.WireBuffer
import FlowBindings.Loci.Test.Duplicate
import FlowBindings.Loci.Test.Fill
import FlowBindings.Loci.Test.Validator
import FlowBindings.Loci.Validator
import FlowBindings.Sequence
import FlowBindings.Tree

/-!
# The files of the C library

Which file holds what. Most files are known beforehand; the code of classes is
spread over as many files as it takes, and every kind of list has a file of its
own.
-/

namespace FlowBindings.Loci

open Text

inductive Writer where
  /-- It is always the same. -/
  | constant (text : String)
  | ofCatalog (f : Catalog → Outcome String)
  | named (f : Catalog → String → Outcome String)
  | ofData (f : Directory → Outcome String)

def Writer.write (c : Catalog) (data : Directory) (path : String) : Writer → Outcome String
  | .constant text => pure text
  | .ofCatalog f => f c
  | .named f => f c (FlowBindings.Tree.baseName path)
  | .ofData f => f data

def plannedFiles : Table String Writer :=
  [("loci/inc/loci/loci.h", .named fun _ name => pure (topHeader name)),
   ("loci/inc/loci/loci_idents.h", .named Catalog.identifierHeader),
   ("loci/inc/loci/loci_base.h", .named Catalog.baseHeader),
   ("loci/inc/loci/of_match.h", .named fun c name => pure (c.matchHeader name)),
   ("loci/inc/loci/loci_doc.h", .named Catalog.documentation),
   ("loci/inc/loci/loci_obj_dump.h", .ofCatalog (Catalog.outputHeader · .dump)),
   ("loci/inc/loci/loci_obj_show.h", .ofCatalog (Catalog.outputHeader · .log)),
   ("loci/inc/loci/loci_validator.h", .constant Support.validatorHeader),
   ("loci/inc/loci/bsn_ext.h", .constant Support.extensionHeader),
   ("loci/inc/loci/loci_dox.h", .constant Support.manualIndex),
   ("loci/inc/loci/loci_dump.h", .constant Support.dumpHeader),
   ("loci/inc/loci/loci_show.h", .constant Support.showHeader),
   ("loci/inc/loci/of_buffer.h", .constant Support.bufferHeader),
   ("loci/inc/loci/of_doc.h", .constant Support.manual),
   ("loci/inc/loci/of_message.h", .constant Support.messageHeader),
   ("loci/inc/loci/of_object.h", .constant Support.objectHeader),
   ("loci/inc/loci/of_utils.h", .constant Support.actionHeader),
   ("loci/inc/loci/of_wire_buf.h", .constant Support.wireBufferHeader),
   ("loci/src/of_match.c", .named Catalog.matchSource),
   ("loci/src/loci_obj_dump.c", .ofCatalog (Catalog.outputSource · .dump)),
   ("loci/src/loci_obj_show.c", .ofCatalog (Catalog.outputSource · .log)),
   ("loci/src/loci_validator.c", .ofCatalog fun c => validatorSource c.model),
   ("loci/src/loci_int.h", .ofCatalog Catalog.internalHeader),
   ("loci/src/loci_log.c", .constant Support.logSource),
   ("loci/src/loci_log.h", .constant Support.logHeader),
   ("loci/src/of_object.c", .constant Support.objectSource),
   ("loci/src/of_utils.c", .constant Support.actionSource),
   ("loci/src/of_wire_buf.c", .constant Support.wireBufferSource),
   ("loci/README", .constant Support.readMe),
   ("loci/Doxyfile", .constant Support.manualSettings),
   ("locitest/inc/locitest/of_dup.h", .ofCatalog Catalog.duplicateHeader),
   ("locitest/inc/locitest/test_common.h", .ofCatalog Catalog.fillHeader),
   ("locitest/src/of_dup.c", .ofCatalog Catalog.duplicateSource),
   ("locitest/src/test_common.c", .ofCatalog Catalog.fillSource),
   ("locitest/src/test_list.c", .ofCatalog Catalog.listTests),
   ("locitest/src/test_match.c", .ofCatalog fun c => pure c.matchTests),
   ("locitest/src/test_msg.c", .ofCatalog Catalog.messageTests),
   ("locitest/src/test_scalar_acc.c", .ofCatalog Catalog.scalarTests),
   ("locitest/src/test_uni_acc.c", .ofCatalog Catalog.accessorTests),
   ("locitest/src/test_data.c", .ofData Test.dataTestProgram),
   ("locitest/inc/locitest/unittest.h", .constant Support.unitTestHeader),
   ("locitest/src/test_ext.c", .constant Support.extensionTest),
   ("locitest/src/test_list_limits.c", .constant Support.listLimitTest),
   ("locitest/src/test_match_utils.c", .constant Support.matchTest),
   ("locitest/src/test_utils.c", .constant Support.actionTest),
   ("locitest/src/test_validator.c", .ofCatalog Catalog.validatorTests),
   ("locitest/src/main.c", .constant Support.mainSource),
   ("locitest/Makefile", .constant Support.buildFile)]

namespace Catalog

variable (c : Catalog) (data : Directory)

def plannedFile (path : String) : Outcome String := do
  (← plannedFiles.need path).write c data path

/-- The catalog once files known beforehand have been written: the header of identifiers
leaves the names of each group sorted. -/
def afterWriting (paths : List String) : Catalog :=
  let header := "loci/inc/loci/loci_idents.h"
  if paths.contains header && (c.plannedFile data header).isOk then
    { c with identifiers.groups := c.identifiers.groups.map fun (group, names) => (group, sortNames names) }
  else c

/-- How many classes share a file. Each file has to read the same headers, so few
large files compile faster than many small ones. -/
def classesPerFile : Nat := 32

def classFiles : Outcome Tree :=
  (Sequence.runs classesPerFile c.model.unified.classes).zipIdx.mapM fun (classes, i) => do
    pure ("loci/src/class" ++ zeroPadded 2 i ++ ".c", concat (← classes.mapM (classSource c)))

def listFiles : Outcome Tree :=
  c.listTypes.mapM fun type => do
    let (listClass, text) ← c.listSource type
    pure ("loci/src/" ++ listClass ++ ".c", text)

def tableFiles : Tree :=
  [("loci/src/loci_strings.c", c.constantSource),
   ("loci/src/loci_init_map.c", c.initSource),
   ("loci/src/of_type_maps.c", c.lengthSource),
   ("loci/inc/loci/loci_class_metadata.h", metadataHeader),
   ("loci/src/loci_class_metadata.c", c.metadataSource)]

def allFiles : Outcome Tree := do
  let planned ← plannedFiles.mapM fun (path, _) => do pure (path, ← c.plannedFile data path)
  let classes ← c.classFiles
  let header ← c.classHeader
  let lists ← c.listFiles
  let known : Tree := planned ++ classes ++ [("loci/inc/loci/loci_classes.h", header)]
  pure ((known.overlay lists).overlay c.tableFiles)

end Catalog

def generate (m : Model) (targets : List Version) (data : Directory) : Outcome Tree := do
  (← Catalog.build m targets).allFiles data

end FlowBindings.Loci
