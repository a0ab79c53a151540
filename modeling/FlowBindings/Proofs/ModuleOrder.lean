import FlowBindings.Packing.Generate
import FlowBindings.Proofs.Hierarchy
import FlowBindings.Proofs.Lines
import FlowBindings.Proofs.Names
import FlowBindings.Proofs.Sorting

/-!
# Modules and their classes

A generated class names the class it extends twice: where it is opened, and in the last line,
where it is entered in the table of the class above. Both are read while the module is loaded, so
the class above has to be in the same module, and before it.

The module of a class is that of the first root which the class is or lies below. A class that is
no root itself lies below the roots that its superclass is or lies below, so the two have one
module (`rootOf?_eq_of_directlyBelow`); and a module keeps the order of its classes
(`mem_modules_iff`). `modules_in_order` follows both into the text of the file.
-/

namespace FlowBindings.Packing

open Text Option Table
open List hiding concat concat_append concat_cons concat_nil

/-! ## Classes in modules -/

section Modules

variable {classes : List Class}

theorem get?_modules (classes : List Class) (module : String) :
    (modules classes).get? module = if module ∈ classes.map moduleOf
      then some (classes.filter (moduleOf · = module)) else none := by
  have hgather : ∀ l : List Class, l.foldl (fun t c => t ++ [c]) [] = l := by
    intro l
    induction l using reverseRecOn with
    | nil => rfl
    | append_singleton l c ih => rw [foldl_append, ih]; rfl
  rw [modules, get?_foldl_update, hgather]

/-- **A module has the classes that ask for it**, in their order. -/
theorem mem_modules_iff {module : String} {members : List Class} :
    (module, members) ∈ modules classes
      ↔ module ∈ classes.map moduleOf ∧ members = classes.filter (moduleOf · = module) := by
  have hnodup : (modules classes).keys.Nodup := nodup_keys_foldl_update _ _ _ _
  rw [← get?_eq_some_iff hnodup, get?_modules]
  split
  · next hmem => simp [hmem, eq_comm]
  · next hmem => simp [hmem]

variable {c : Class}

theorem existsUnique_module (hc : c ∈ classes) :
    ∃! row, row ∈ modules classes ∧ c ∈ row.2 := by
  refine ⟨(moduleOf c, classes.filter (moduleOf · = moduleOf c)), ⟨?_, ?_⟩, ?_⟩
  · exact mem_modules_iff.mpr ⟨mem_map_of_mem hc, rfl⟩
  · exact mem_filter.mpr ⟨hc, decide_eq_true rfl⟩
  · rintro ⟨module, members⟩ ⟨hrow, hmember⟩
    obtain ⟨-, rfl⟩ := mem_modules_iff.mp hrow
    obtain rfl : moduleOf c = module := of_decide_eq_true (mem_filter.mp hmember).2
    rfl

/-- **A class that is no root has the root of its superclass.** -/
theorem rootOf?_eq_of_directlyBelow {u : Class} (hbelow : c.DirectlyBelow u)
    (hc : c.name ∉ roots.map (·.1)) : rootOf? c = rootOf? u := by
  unfold rootOf?
  rw [← head?_filter, ← head?_filter]
  refine congrArg List.head? (filter_congr fun r hr => ?_)
  show c.isInstanceOf r.1 = u.isInstanceOf r.1
  rw [Bool.eq_iff_iff, hbelow.isInstanceOf_iff]
  refine or_iff_right fun hname => hc ?_
  rw [hname]
  exact mem_map_of_mem hr

theorem exists_before_in_module {u : Class} {before after : List Class}
    (hsplit : classes = before ++ c :: after) (hu : u ∈ before)
    (hmodule : moduleOf u = moduleOf c) :
    ∃ before' after', (moduleOf c, before' ++ c :: after') ∈ modules classes ∧ u ∈ before' := by
  refine ⟨before.filter (moduleOf · = moduleOf c), after.filter (moduleOf · = moduleOf c),
    mem_modules_iff.mpr ⟨?_, ?_⟩, mem_filter.mpr ⟨hu, decide_eq_true hmodule⟩⟩
  · rw [hsplit]
    exact mem_map_of_mem (mem_append_right _ mem_cons_self)
  · rw [hsplit, filter_append, filter_cons_of_pos]
    exact decide_eq_true rfl

end Modules

/-! ## The text of a class -/

section Texts

theorem orFault_eq_ok_iff {α : Type} {o : Option α} {f : Fault} {a : α} :
    orFault o f = .ok a ↔ o = some a := by
  cases o <;> simp [orFault]

variable {d : Draft} {m : Model} {p : Protocol} {t : String}

theorem Draft.exists_showMethod (h : d.showMethod = .ok t) :
    ∃ lines, t = lines ++ "\n" := by
  obtain ⟨texts, -, h⟩ := bind_eq_ok_iff.mp h
  have hlast : block r"
			q.breakable()
		q.text('}')

" = "            q.breakable()\n        q.text('\x7d')\n" ++ "\n" := by
    rw [block_ofList, ← String.toList_inj, String.toList_ofList]
    decide
  rw [hlast, ← String.append_assoc] at h
  exact ⟨_, (Except.ok.inj h).symm⟩

/-- **How the text of a class begins and ends.** -/
theorem Draft.text_eq (h : d.text = .ok t) :
    ∃ inner last, t = "class " ++ d.name ++ "(" ++ d.aboveName ++ "):\n" ++ (inner ++ last)
      ∧ EndsLine inner ∧ d.registration = .ok last := by
  obtain ⟨choice, -, h⟩ := bind_eq_ok_iff.mp h
  obtain ⟨methods, hmethods, h⟩ := bind_eq_ok_iff.mp h
  obtain ⟨first, shown, rest, -, hshown, hrest, rfl⟩ := exists_split_of_mapM_eq_ok
    (l := [d.initMethod, d.packMethod, d.unpackMethod choice, pure d.equalityMethod]) hmethods
  obtain ⟨last, hlast, hrest⟩ := bind_eq_ok_iff.mp ((mapM_cons).symm.trans hrest)
  obtain rfl : [last] = rest := Except.ok.inj hrest
  obtain ⟨lines, rfl⟩ := exists_showMethod hshown
  obtain ⟨values, hopening⟩ : ∃ values, d.opening
      = "class " ++ d.name ++ "(" ++ d.aboveName ++ "):\n" ++ values := by
    rw [opening, String.append_assoc, String.append_assoc]
    exact ⟨_, rfl⟩
  refine ⟨values ++ concat first ++ lines ++ "\n", last, ?_, endsLine_append_newline _, hlast⟩
  rw [← Except.ok.inj h, hopening, concat_append, concat_cons, concat_cons, concat_nil,
    String.append_empty]
  simp only [String.append_assoc]

theorem Draft.registration_eq {u : Class} (habove : d.above = some u) {last : String}
    (h : d.registration = .ok last) :
    ∃ value, ((u.discriminator?.bind fun f => d.target.field? f.name).bind (·.fixedValue?))
      = some value
      ∧ last = nameOf u ++ ".subtypes[" ++ toString value ++ "] = " ++ d.name ++ "\n" := by
  have hname : d.aboveName = nameOf u := by
    rw [aboveName, habove]
    rfl
  unfold registration at h
  rw [habove] at h
  obtain ⟨f, hf, h⟩ := bind_eq_ok_iff.mp h
  obtain ⟨own, hown, h⟩ := bind_eq_ok_iff.mp h
  obtain ⟨value, hvalue, h⟩ := bind_eq_ok_iff.mp h
  cases h
  rw [orFault_eq_ok_iff] at hf hown hvalue
  refine ⟨value, ?_, by rw [hname]⟩
  rw [hf, bind_some, hown, bind_some, hvalue]

theorem exists_moduleHead (package : String) : ∃ lines, form [("package", package)] r"

|import struct
|import loxi
|import util
|import loxi.generic_util

|import sys
ofp = sys.modules['loxi.«package»']

" = lines ++ "\n" := by
  refine ⟨"\nimport struct\nimport loxi\nimport util\n"
    ++ ("import loxi.generic_util\n\nimport sys\n"
      ++ ("ofp = sys.modules['loxi." ++ (package ++ "']\n"))), ?_⟩
  simp only [String.append_assoc]
  apply Fills.form_eq
  · exact .text <| .text <| .text <| .hole "package" <| .text .last
  · decide

/-- The text of a class, with a blank line behind it. -/
def classBlock (m : Model) (p : Protocol) (c : Class) : Outcome String := do
  pure ((← (Draft.of m p c).text) ++ "\n")

theorem moduleText_eq {module : String} {classes : List Class}
    {text : String} (h : moduleText m p module classes = .ok text) :
    ∃ head texts back, classes.mapM (classBlock m p) = .ok texts ∧ EndsLine head
      ∧ text = head ++ (concat texts ++ back) := by
  obtain ⟨texts, htexts, h⟩ := bind_eq_ok_iff.mp h
  obtain ⟨lines, hlines⟩ := exists_moduleHead (packageOf p.version)
  rw [hlines, ← String.append_assoc, String.append_assoc, String.append_assoc] at h
  exact ⟨_, texts, _, htexts, endsLine_append_newline _, (Except.ok.inj h).symm⟩

theorem classBlock_eq_ok_iff {c : Class} :
    classBlock m p c = .ok t ↔ ∃ text, (Draft.of m p c).text = .ok text ∧ t = text ++ "\n" := by
  rw [classBlock, bind_eq_ok_iff]
  refine exists_congr fun text => and_congr_right fun _ => ?_
  exact ⟨fun h => (Except.ok.inj h).symm, fun h => congrArg Except.ok h.symm⟩

theorem endsLine_of_mapM_classBlock {classes : List Class}
    {texts : List String} (h : classes.mapM (classBlock m p) = .ok texts) :
    EndsLine (concat texts) := by
  refine endsLine_concat fun t ht => ?_
  obtain ⟨c, -, hc⟩ := exists_of_mem_of_mapM_eq_ok h ht
  obtain ⟨text, -, rfl⟩ := classBlock_eq_ok_iff.mp hc
  exact endsLine_append_newline text

end Texts

/-! ## Classes behind their superclasses -/

/-- **A class is emitted behind its superclass.** A line opens the superclass, a later one opens
the class with the name of the superclass as its base, and the last line of the class enters it in
the table of the superclass, under the value that tells it apart. -/
def EmittedBelow (text : String) (c u : Class) : Prop :=
  ∃ front body inner value back, text = front ++ ("class " ++ nameOf u ++ "(" ++ (body
      ++ ("class " ++ nameOf c ++ "(" ++ nameOf u ++ "):\n" ++ (inner
        ++ (nameOf u ++ ".subtypes[" ++ toString value ++ "] = " ++ nameOf c ++ "\n" ++ back)))))
    ∧ EndsLine front ∧ body.toList.getLast? = some '\n' ∧ EndsLine inner
    ∧ ((u.discriminator?.bind fun f => c.field? f.name).bind (·.fixedValue?)) = some value

theorem emittedBelow_of_moduleText {m : Model} {p : Protocol} {module : String}
    {before after : List Class} {c u : Class} (hu : u ∈ before)
    (habove : c.superclass?.bind p.class? = some u) {text : String}
    (h : moduleText m p module (before ++ c :: after) = .ok text) : EmittedBelow text c u := by
  obtain ⟨before, between, rfl⟩ := append_of_mem hu
  obtain ⟨head, texts, back, htexts, hhead, rfl⟩ := moduleText_eq h
  rw [append_assoc, cons_append] at htexts
  obtain ⟨first, t, rest, hfirst, ht, hrest, rfl⟩ := exists_split_of_mapM_eq_ok htexts
  obtain ⟨middle, t', last, hmiddle, ht', -, rfl⟩ := exists_split_of_mapM_eq_ok hrest
  obtain ⟨upper, hupper, rfl⟩ := classBlock_eq_ok_iff.mp ht
  obtain ⟨lower, hlower, rfl⟩ := classBlock_eq_ok_iff.mp ht'
  obtain ⟨inner, end', rfl, -, -⟩ := Draft.text_eq hupper
  obtain ⟨inner', end'', rfl, hinner, hend⟩ := Draft.text_eq hlower
  obtain ⟨value, hvalue, rfl⟩ := Draft.registration_eq habove hend
  have hname : (Draft.of m p c).aboveName = nameOf u := by
    rw [Draft.aboveName]
    exact congrArg (·.elim rootClass nameOf) habove
  refine ⟨head ++ concat first, (Draft.of m p u).aboveName ++ "):\n" ++ (inner ++ end') ++ "\n"
    ++ concat middle, inner', value, "\n" ++ concat last ++ back, ?_,
    hhead.append (endsLine_of_mapM_classBlock hfirst), ?_, hinner, hvalue⟩
  · rw [hname]
    simp only [concat_append, concat_cons, String.append_assoc]
    rfl
  · exact (endsLine_of_mapM_classBlock hmiddle).getLast?_newline_append _

theorem exists_moduleText_of_packageFiles {m : Model} {v : Version} {p : Protocol} {tree : Tree}
    (hp : m.protocol? v = some p) (h : packageFiles m v = .ok tree) {module : String}
    {members : List Class} (hmodule : (module, members) ∈ modules p.classes) :
    ∃ text, (packageOf v ++ "/" ++ module ++ ".py", text) ∈ tree
      ∧ moduleText m p module members = .ok text := by
  obtain ⟨q, hq, h⟩ := bind_eq_ok_iff.mp h
  obtain rfl : p = q := Option.some.inj (hp.symm.trans (orFault_eq_ok_iff.mp hq))
  obtain ⟨files, hfiles, h⟩ := bind_eq_ok_iff.mp h
  obtain ⟨file, hfile, hrow⟩ := exists_mem_of_mapM_eq_ok hfiles hmodule
  obtain ⟨text, htext, hrow⟩ := bind_eq_ok_iff.mp hrow
  cases hrow
  refine ⟨text, ?_, htext⟩
  rw [← Except.ok.inj h]
  exact mem_append_right _ hfile

/-- **Modules keep classes behind their superclasses.** Where a protocol has its superclasses
first and no root has a superclass, each class is in one module, whose classes keep the order of
the protocol. A class with a superclass is in the module of its superclass, behind it, and so it
is in the file of the module. -/
theorem modules_in_order {v : Version} {sources : List Source} {p : Protocol}
    (hbuild : Protocol.build v sources = .ok p) (hfirst : SuperclassesFirst p.classes)
    (hroots : ∀ c ∈ p.classes, c.name ∈ roots.map (·.1) → c.superclass? = none) :
    (∀ c ∈ p.classes, ∃! row, row ∈ modules p.classes ∧ c ∈ row.2)
      ∧ (modules p.classes).keys.Nodup
      ∧ (∀ row ∈ modules p.classes, row.2.Nodup ∧ row.2.Sublist p.classes)
      ∧ ∀ c ∈ p.classes, ∀ s, c.superclass? = some s → ∃ u, p.class? s = some u
        ∧ c.DirectlyBelow u ∧ moduleOf u = moduleOf c ∧ ∃ before after,
          (moduleOf c, before ++ c :: after) ∈ modules p.classes ∧ u ∈ before
          ∧ ∀ m tree, m.protocol? v = some p → packageFiles m v = .ok tree →
            ∃ text, (packageOf v ++ "/" ++ moduleOf c ++ ".py", text) ∈ tree
              ∧ EmittedBelow text c u := by
  have hnames : (p.classes.map (·.name)).Nodup := (Protocol.built_of_build hbuild).1.nodup
  refine ⟨fun c => existsUnique_module, nodup_keys_foldl_update _ _ _ _, ?_, ?_⟩
  · rintro ⟨module, members⟩ hrow
    obtain ⟨-, rfl⟩ := mem_modules_iff.mp hrow
    exact ⟨(Nodup.of_map _ hnames).filter _, filter_sublist⟩
  · intro c hc s hs
    obtain ⟨before, after, hsplit⟩ := append_of_mem hc
    obtain ⟨u, hu, hbelow⟩ : ∃ u ∈ before, c.DirectlyBelow u := by
      refine (hfirst before c after hsplit).resolve_left fun htop => ?_
      rw [Class.superclass?_eq_none_iff.mpr htop] at hs
      cases hs
    have hname : u.name = s := by
      rw [hbelow.superclass?_eq] at hs
      exact Option.some.inj hs
    have hclass : p.class? s = some u := by
      refine (find?_name_eq_some_iff hnames).mpr ⟨?_, hname⟩
      rw [hsplit]
      exact mem_append_left _ hu
    have hroot : c.name ∉ roots.map (·.1) := by
      intro hroot
      rw [hroots c hc hroot] at hs
      cases hs
    have hmodule : moduleOf u = moduleOf c := by
      rw [moduleOf, moduleOf, rootOf?_eq_of_directlyBelow hbelow hroot]
    obtain ⟨before', after', hmem, hu'⟩ := exists_before_in_module hsplit hu hmodule
    refine ⟨u, hclass, hbelow, hmodule, before', after', hmem, hu', fun m tree hp htree => ?_⟩
    obtain ⟨text, hfile, htext⟩ := exists_moduleText_of_packageFiles hp htree hmem
    refine ⟨text, hfile, emittedBelow_of_moduleText hu' ?_ htext⟩
    rw [hs]
    exact hclass

/-- An action and the class it extends, in one version. -/
def actionFiles : Directory :=
  [("a-1.0", "#version 1\nstruct of_action_drop : of_action { uint16_t type == 7; };\n"
    ++ "struct of_action { uint16_t type == ?; };\n")]

/-- The action is declared before the class it extends, and emitted behind it. -/
theorem modules_in_order_action :
    ∃ (m : Model) (p : Protocol) (tree : Tree) (c u : Class) (text : String),
      Model.load actionFiles [.v10] = .ok m ∧ m.protocol? .v10 = some p
      ∧ packageFiles m .v10 = .ok tree ∧ c ∈ p.classes ∧ p.class? "of_action" = some u
      ∧ nameOf c = "drop" ∧ nameOf u = "action"
      ∧ ("of10/action.py", text) ∈ tree ∧ EmittedBelow text c u := by
  have htest : (Model.load actionFiles [.v10]).toOption.any (fun m =>
      (m.protocol? .v10).any (fun p => SuperclassesFirst p.classes
        ∧ (∀ c ∈ p.classes, c.name ∈ roots.map (·.1) → c.superclass? = none)
        ∧ (p.class? "of_action_drop").any (fun c => c.superclass? = some "of_action"
          ∧ nameOf c = "drop" ∧ moduleOf c = "action")
        ∧ (p.class? "of_action").any (fun u => nameOf u = "action"))
      ∧ (packageFiles m .v10).toOption.any fun _ => true) = true := by
    simp only [Model.load, Model.inputFiles, mergeSort_files, Protocol.build, mergeSort_names]
    decide +kernel
  obtain ⟨m, hload, htest⟩ := exists_ok_of_any htest
  obtain ⟨htest, htree⟩ := of_decide_eq_true htest
  obtain ⟨p, hp, htest⟩ := (any_eq_true _ _).mp htest
  obtain ⟨tree, htree, -⟩ := exists_ok_of_any htree
  obtain ⟨hfirst, hroots, hdrop, haction⟩ := of_decide_eq_true htest
  obtain ⟨c, hc, hdrop⟩ := (any_eq_true _ _).mp hdrop
  obtain ⟨hsuper, hname, hmodule⟩ := of_decide_eq_true hdrop
  obtain ⟨sources, hbuild, -⟩ := (Model.made_of_load hload).2.2 _ (mem_of_get? hp)
  have hmem : c ∈ p.classes := mem_of_find?_eq_some hc
  obtain ⟨-, -, -, hbehind⟩ := modules_in_order hbuild hfirst hroots
  obtain ⟨u, hu, -, -, -, -, -, -, hemitted⟩ := hbehind c hmem "of_action" hsuper
  obtain ⟨text, htext, hbelow⟩ := hemitted m tree hp htree
  rw [hmodule] at htext
  rw [hu] at haction
  exact ⟨m, p, tree, c, u, text, hload, hp, htree, hmem, hu, hname, of_decide_eq_true haction,
    htext, hbelow⟩

end FlowBindings.Packing
