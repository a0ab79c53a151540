import FlowBindings.Protocol.Basic

/-!
# Modules

The classes of a version are spread over modules. A class goes to the module of the
first root that it is or lies below, in the order of the table of roots; all other
classes share one module. Inside its module a class has a short name: what is left of
its name without that of its root.

Classes keep their order, so that a class stands behind the classes it extends.
-/

namespace FlowBindings.Packing

open Text

def roots : List (String × String) :=
  [("of_header", "message"), ("of_action", "action"), ("of_action_id", "action_id"),
   ("of_oxm", "oxm"), ("of_instruction", "instruction"), ("of_instruction_id", "instruction_id"),
   ("of_meter_band", "meter_band"), ("of_bsn_tlv", "bsn_tlv"),
   ("of_port_desc_prop", "port_desc_prop"), ("of_port_stats_prop", "port_stats_prop"),
   ("of_port_mod_prop", "port_mod_prop"), ("of_table_mod_prop", "table_mod_prop"),
   ("of_queue_desc_prop", "queue_desc_prop"), ("of_queue_stats_prop", "queue_stats_prop"),
   ("of_async_config_prop", "async_config_prop"), ("of_bundle_prop", "bundle_prop"),
   ("of_role_prop", "role_prop")]

def commonModule : String := "common"

def rootOf? (c : Class) : Option (String × String) :=
  roots.find? fun (root, _) => c.isInstanceOf root

def moduleOf (c : Class) : String := (rootOf? c).elim commonModule (·.2)

/-- The name of a class inside its module. A root is named for its module; the names
of messages do not begin with that of their root. -/
def nameOf (c : Class) : String :=
  match rootOf? c with
  | some (root, module) =>
    if c.name = root then module
    else if root = "of_header" then dropFirst 3 c.name
    else dropFirst (root.length + 1) c.name
  | none => dropFirst 3 c.name

/-- The classes by module, in the order of their protocol. -/
def modules (classes : List Class) : Table String (List Class) :=
  classes.foldl (fun t c => t.update (moduleOf c) [] (· ++ [c])) []

end FlowBindings.Packing
