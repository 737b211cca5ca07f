import VpnTray.Proofs.Bus.Markup
import VpnTray.Proofs.Bus.Signature

/-!
# What a document declares

A program that reads the document of an object finds interfaces in it, with methods, whose
arguments have types and directions, and with properties. What it finds is what the
document has been written from:

* `Declares`, `DeclaresMethod`, `DeclaresProperty`: what a text declares to its reader;
* `readElements_document`: a document is read as the elements it is written from;
* `declares_document`, `declaresMethod_document`, `declaresProperty_document`: what a
  document declares.
-/

namespace VpnTray.Bus

/-! ## The reader of a document -/

/-- The interfaces in a document. -/
def interfaceElements (document : String) : List Element :=
  ((readElements document).getD []).flatMap (·.children "interface")

/-- The parts of a kind of the interfaces with a name in a document. -/
def memberElements (document interface kind : String) : List Element :=
  ((interfaceElements document).filter (·.attribute? "name" = some interface)).flatMap
    (·.children kind)

/-- The types of the arguments of a method that go in a direction, in a row. An argument
    without a direction goes in. -/
def directedText (direction : String) (method : Element) : String :=
  String.join (((method.children "arg").filter fun argument =>
    (argument.attribute? "direction").getD "in" = direction).filterMap (·.attribute? "type"))

/-- A document declares an interface. -/
def Declares (document interface : String) : Prop :=
  ∃ element ∈ interfaceElements document, element.attribute? "name" = some interface

/-- A document declares a method of an interface, with the signatures of what it takes and
    of what it gives. -/
def DeclaresMethod (document interface member inputs outputs : String) : Prop :=
  ∃ method ∈ memberElements document interface "method",
    method.attribute? "name" = some member ∧ directedText "in" method = inputs ∧
      directedText "out" method = outputs

/-- A document declares a property of an interface, with its type. -/
def DeclaresProperty (document interface name type : String) : Prop :=
  ∃ property ∈ memberElements document interface "property",
    property.attribute? "name" = some name ∧ property.attribute? "type" = some type

/-! ## The elements of declarations -/

/-- The element of an argument, which may have a direction. -/
def Argument.element (direction : List (String × String)) (argument : Argument) : Element :=
  .node "arg" (("name", argument.name) :: ("type", argument.type.text) :: direction) []

/-- The element of a method. -/
def Method.element (method : Method) : Element :=
  .node "method" [("name", method.name)]
    (method.inputs.map (·.element [("direction", "in")]) ++
      method.outputs.map (·.element [("direction", "out")]))

/-- The element of a signal. -/
def SignalDeclaration.element (signal : SignalDeclaration) : Element :=
  .node "signal" [("name", signal.name)] (signal.carries.map (·.element []))

/-- The element of a property. -/
def propertyElement (property : Argument) : Element :=
  .node "property" [("name", property.name), ("type", property.type.text), ("access", "read")] []

/-- The element of an interface. -/
def Interface.element (interface : Interface) : Element :=
  .node "interface" [("name", interface.name)]
    (interface.methods.map Method.element ++ interface.signals.map SignalDeclaration.element ++
      interface.properties.map propertyElement)

/-- The names in the declaration of an interface can be written as they are. -/
structure Interface.IsPlain (interface : Interface) : Prop where
  name : Bus.IsPlain interface.name
  signals : ∀ signal ∈ interface.signals,
    Bus.IsPlain signal.name ∧ ∀ argument ∈ signal.carries, Bus.IsPlain argument.name
  properties : ∀ property ∈ interface.properties, Bus.IsPlain property.name

mutual

/-- The text of a type can be written as it is. -/
theorem isPlain_text (type : Signature) : IsPlain type.text := by
  cases type with
  | basic type => cases type <;> decide
  | variant => decide
  | array element =>
    obtain ⟨hquote, hangle⟩ := isPlain_text element
    rw [IsPlain, Signature.toList_text_array]
    simp [hquote, hangle]
  | dict key value =>
    obtain ⟨hquote, hangle⟩ := isPlain_text key
    obtain ⟨hquote', hangle'⟩ := isPlain_text value
    rw [IsPlain, Signature.toList_text_dict]
    simp [hquote, hangle, hquote', hangle']
  | struct fields =>
    obtain ⟨hquote, hangle⟩ := isPlain_textOfList fields
    rw [IsPlain, Signature.toList_text_struct]
    simp [hquote, hangle]

theorem isPlain_textOfList (types : List Signature) : IsPlain (textOfList types) := by
  cases types with
  | nil => decide
  | cons type types =>
    obtain ⟨hquote, hangle⟩ := isPlain_text type
    obtain ⟨hquote', hangle'⟩ := isPlain_textOfList types
    rw [IsPlain, toList_textOfList_cons]
    simp [hquote, hangle, hquote', hangle']

end

theorem Method.isPlain_name (method : Method) : IsPlain method.name := by
  cases method <;> decide

theorem Method.isPlain_inputs (method : Method) :
    ∀ argument ∈ method.inputs, IsPlain argument.name := by
  cases method <;> decide

theorem Method.isPlain_outputs (method : Method) :
    ∀ argument ∈ method.outputs, IsPlain argument.name := by
  cases method <;> decide

/-! ## Documents are read back -/

theorem reads_argument {argument : Argument} {direction : List (String × String)}
    {directionText : String} (hname : IsPlain argument.name) (hdirection : AreAttributes direction)
    (htext : directionText.toList = direction.flatMap attrChars) :
    Reads (argument.xml directionText) [argument.element direction] := by
  refine reads_element (by decide) (by decide) ?_ ?_ reads_nil
  · exact areAttributes_cons (by decide) hname
      (areAttributes_cons (by decide) (isPlain_text argument.type) hdirection)
  · rw [String.toList_append, String.toList_append, toList_attr, toList_attr, htext,
      List.flatMap_cons, List.flatMap_cons, List.append_assoc]

theorem reads_arguments {arguments : List Argument} {direction : List (String × String)}
    {directionText : String} (hnames : ∀ argument ∈ arguments, IsPlain argument.name)
    (hdirection : AreAttributes direction)
    (htext : directionText.toList = direction.flatMap attrChars) :
    Reads (String.join (arguments.map (·.xml directionText)))
      (arguments.map (·.element direction)) :=
  reads_join fun argument hargument => reads_argument (hnames argument hargument) hdirection htext

theorem areAttributes_name {name : String} (h : IsPlain name) : AreAttributes [("name", name)] :=
  areAttributes_cons (by decide) h areAttributes_nil

theorem reads_directed {arguments : List Argument} {direction : String}
    (hnames : ∀ argument ∈ arguments, IsPlain argument.name) (hdirection : IsPlain direction) :
    Reads (String.join (arguments.map (·.xml (attr "direction" direction))))
      (arguments.map (·.element [("direction", direction)])) := by
  refine reads_arguments hnames (areAttributes_cons (by decide) hdirection areAttributes_nil) ?_
  rw [toList_attr, List.flatMap_singleton]

theorem reads_method (method : Method) : Reads method.xml [method.element] := by
  refine reads_element (by decide) (by decide) (areAttributes_name method.isPlain_name) ?_ ?_
  · rw [toList_attr, List.flatMap_singleton]
  · rw [String.join_append]
    exact (reads_directed method.isPlain_inputs (by decide)).append
      (reads_directed method.isPlain_outputs (by decide))

theorem reads_signal {signal : SignalDeclaration} (hname : IsPlain signal.name)
    (hcarries : ∀ argument ∈ signal.carries, IsPlain argument.name) :
    Reads signal.xml [signal.element] := by
  refine reads_element (by decide) (by decide) (areAttributes_name hname) ?_ ?_
  · rw [toList_attr, List.flatMap_singleton]
  · exact reads_arguments hcarries areAttributes_nil rfl

theorem reads_property {property : Argument} (hname : IsPlain property.name) :
    Reads (propertyXml property) [propertyElement property] := by
  refine reads_element (by decide) (by decide) ?_ ?_ reads_nil
  · exact areAttributes_cons (by decide) hname
      (areAttributes_cons (by decide) (isPlain_text property.type)
        (areAttributes_cons (by decide) (by decide) areAttributes_nil))
  · rw [String.toList_append, String.toList_append, toList_attr, toList_attr, toList_attr,
      List.flatMap_cons, List.flatMap_cons, List.flatMap_singleton, List.append_assoc]

theorem reads_interface {interface : Interface} (h : interface.IsPlain) :
    Reads interface.xml [interface.element] := by
  refine reads_element (by decide) (by decide) (areAttributes_name h.name) ?_ ?_
  · rw [toList_attr, List.flatMap_singleton]
  · rw [String.join_append, String.join_append]
    refine ((reads_join fun method _ => reads_method method).append ?_).append ?_
    · exact reads_join fun signal hsignal =>
        reads_signal (h.signals signal hsignal).1 (h.signals signal hsignal).2
    · exact reads_join fun property hproperty => reads_property (h.properties property hproperty)

theorem reads_doctype : Reads ("<" ++ doctype ++ ">\n") [] := by
  have hchars : ("<" ++ doctype ++ ">\n").toList =
      [] ++ '<' :: (doctype.toList ++ '>' :: ['\n']) := by
    simp
  have hdoctype : '>' ∉ doctype.toList ∧ doctype.toList.head? = some '!' := by
    decide +kernel
  intro around before
  -- A tag with an exclamation mark is passed over.
  rw [hchars, foldl_step_angles List.not_mem_nil hdoctype.1, Reading.takeTag, if_pos hdoctype.2,
    foldl_step_blank (by decide), List.append_nil]

/-- A document is read as the elements that it is written from. -/
theorem readElements_document {path : String} {interfaces : List Interface} (hpath : IsPlain path)
    (h : ∀ interface ∈ interfaces, interface.IsPlain) :
    readElements (document path interfaces) =
      some [.node "node" [("name", path)] (interfaces.map Interface.element)] := by
  refine readElements_of_reads (reads_doctype.append (show Reads _ [_] from ?_))
  refine reads_element (by decide) (by decide) (areAttributes_name hpath) ?_ ?_
  · rw [toList_attr, List.flatMap_singleton]
  · exact reads_join fun interface hinterface => reads_interface (h interface hinterface)

/-! ## What a document declares -/

theorem filter_tag_map {α : Type} {element : α → Element} {tag : String}
    (h : ∀ a, (element a).tag = tag) (kind : String) (parts : List α) :
    (parts.map element).filter (·.tag = kind) = if tag = kind then parts.map element else [] := by
  split
  next htag =>
    rw [List.filter_eq_self]
    rintro _ hmem
    obtain ⟨a, -, rfl⟩ := List.mem_map.1 hmem
    exact decide_eq_true ((h a).trans htag)
  next htag =>
    rw [List.filter_eq_nil_iff]
    rintro _ hmem heq
    obtain ⟨a, -, rfl⟩ := List.mem_map.1 hmem
    exact htag ((h a).symm.trans (of_decide_eq_true heq))

theorem tag_argument (direction : List (String × String)) (argument : Argument) :
    (argument.element direction).tag = "arg" := rfl

theorem tag_method (method : Method) : method.element.tag = "method" := rfl

theorem tag_signal (signal : SignalDeclaration) : signal.element.tag = "signal" := rfl

theorem tag_property (property : Argument) : (propertyElement property).tag = "property" := rfl

theorem tag_interface (interface : Interface) : interface.element.tag = "interface" := rfl

theorem children_method (interface : Interface) :
    interface.element.children "method" = interface.methods.map Method.element := by
  rw [Interface.element, Element.children, List.filter_append, List.filter_append,
    filter_tag_map tag_method, filter_tag_map tag_signal, filter_tag_map tag_property]
  simp

theorem children_property (interface : Interface) :
    interface.element.children "property" = interface.properties.map propertyElement := by
  rw [Interface.element, Element.children, List.filter_append, List.filter_append,
    filter_tag_map tag_method, filter_tag_map tag_signal, filter_tag_map tag_property]
  simp

theorem join_map_text (arguments : List Argument) :
    String.join (arguments.map (·.type.text)) = textOfList (arguments.map (·.type)) := by
  induction arguments with
  | nil => rfl
  | cons argument arguments ih =>
    rw [List.map_cons, String.join_cons, ih, List.map_cons, textOfList]

theorem filterMap_directed (arguments : List Argument) (written direction : String) :
    ((arguments.map (·.element [("direction", written)])).filter fun argument =>
      (argument.attribute? "direction").getD "in" = direction).filterMap (·.attribute? "type") =
      if written = direction then arguments.map (·.type.text) else [] := by
  have hwritten : ∀ argument : Argument,
      ((argument.element [("direction", written)]).attribute? "direction").getD "in" = written :=
    fun _ => rfl
  have htype : ∀ argument : Argument,
      (argument.element [("direction", written)]).attribute? "type" = some argument.type.text :=
    fun _ => rfl
  induction arguments with
  | nil => rw [List.map_nil, List.map_nil, ite_self]; rfl
  | cons argument arguments ih =>
    rw [List.map_cons, List.filter_cons, hwritten]
    split
    next h =>
      have hdirection : written = direction := of_decide_eq_true h
      rw [if_pos hdirection] at ih ⊢
      rw [List.filterMap_cons_some (htype argument), ih, List.map_cons]
    next h =>
      have hdirection : written ≠ direction := fun heq => h (decide_eq_true heq)
      rw [if_neg hdirection] at ih ⊢
      exact ih

theorem directedText_method (method : Method) (direction : String) :
    directedText direction method.element =
      String.join (if "in" = direction then method.inputs.map (·.type.text) else []) ++
        String.join (if "out" = direction then method.outputs.map (·.type.text) else []) := by
  rw [directedText, Method.element, Element.children, List.filter_append,
    filter_tag_map (tag_argument _), filter_tag_map (tag_argument _), if_pos rfl, if_pos rfl,
    List.filter_append, List.filterMap_append, filterMap_directed, filterMap_directed,
    String.join_append]

theorem directedText_in (method : Method) :
    directedText "in" method.element = textOfList method.inputTypes := by
  rw [directedText_method, if_pos rfl, if_neg (by decide), String.join_nil, String.append_empty]
  exact join_map_text method.inputs

theorem directedText_out (method : Method) :
    directedText "out" method.element = textOfList method.outputTypes := by
  rw [directedText_method, if_neg (by decide), if_pos rfl, String.join_nil, String.empty_append]
  exact join_map_text method.outputs

variable {path interface member name type inputs outputs : String} {interfaces : List Interface}

theorem interfaceElements_document (hpath : IsPlain path)
    (h : ∀ interface ∈ interfaces, interface.IsPlain) :
    interfaceElements (document path interfaces) = interfaces.map Interface.element := by
  rw [interfaceElements, readElements_document hpath h, Option.getD_some, List.flatMap_singleton,
    Element.children, filter_tag_map tag_interface]
  exact if_pos rfl

theorem name_interface (interface : Interface) :
    interface.element.attribute? "name" = some interface.name := rfl

theorem mem_memberElements_document (hpath : IsPlain path)
    (h : ∀ interface ∈ interfaces, interface.IsPlain) {kind : String} {element : Element} :
    element ∈ memberElements (document path interfaces) name kind ↔
      ∃ interface ∈ interfaces,
        interface.name = name ∧ element ∈ interface.element.children kind := by
  rw [memberElements, interfaceElements_document hpath h, List.mem_flatMap]
  constructor
  · rintro ⟨_, hmem, helement⟩
    obtain ⟨hmem, hname⟩ := List.mem_filter.1 hmem
    obtain ⟨interface, hinterface, rfl⟩ := List.mem_map.1 hmem
    rw [name_interface] at hname
    exact ⟨interface, hinterface, Option.some.inj (of_decide_eq_true hname), helement⟩
  · rintro ⟨interface, hinterface, rfl, helement⟩
    refine ⟨interface.element, List.mem_filter.2 ⟨?_, decide_eq_true (name_interface _)⟩, helement⟩
    exact List.mem_map.2 ⟨interface, hinterface, rfl⟩

/-- A document declares the interfaces that it is written from. -/
theorem declares_document (hpath : IsPlain path) (h : ∀ interface ∈ interfaces, interface.IsPlain) :
    Declares (document path interfaces) name ↔ ∃ interface ∈ interfaces, interface.name = name := by
  rw [Declares, interfaceElements_document hpath h]
  constructor
  · rintro ⟨_, hmem, hname⟩
    obtain ⟨interface, hinterface, rfl⟩ := List.mem_map.1 hmem
    exact ⟨interface, hinterface, Option.some.inj hname⟩
  · rintro ⟨interface, hinterface, rfl⟩
    exact ⟨interface.element, List.mem_map.2 ⟨interface, hinterface, rfl⟩, rfl⟩

/-- A document declares the methods that it is written from. -/
theorem declaresMethod_document (hpath : IsPlain path)
    (h : ∀ interface ∈ interfaces, interface.IsPlain) :
    DeclaresMethod (document path interfaces) name member inputs outputs ↔
      ∃ interface ∈ interfaces, interface.name = name ∧ ∃ method ∈ interface.methods,
        method.name = member ∧ textOfList method.inputTypes = inputs ∧
          textOfList method.outputTypes = outputs := by
  constructor
  · rintro ⟨_, hmem, hmember, hin, hout⟩
    obtain ⟨interface, hinterface, hinterfaceName, hmem⟩ :=
      (mem_memberElements_document hpath h).1 hmem
    rw [children_method] at hmem
    obtain ⟨method, hmethod, rfl⟩ := List.mem_map.1 hmem
    rw [directedText_in] at hin
    rw [directedText_out] at hout
    exact ⟨interface, hinterface, hinterfaceName, method, hmethod, Option.some.inj hmember, hin,
      hout⟩
  · rintro ⟨interface, hinterface, hinterfaceName, method, hmethod, rfl, rfl, rfl⟩
    refine ⟨method.element, ?_, rfl, directedText_in method, directedText_out method⟩
    refine (mem_memberElements_document hpath h).2 ⟨interface, hinterface, hinterfaceName, ?_⟩
    rw [children_method]
    exact List.mem_map.2 ⟨method, hmethod, rfl⟩

/-- A document declares the properties that it is written from. -/
theorem declaresProperty_document (hpath : IsPlain path)
    (h : ∀ interface ∈ interfaces, interface.IsPlain) :
    DeclaresProperty (document path interfaces) interface name type ↔
      ∃ declared ∈ interfaces, declared.name = interface ∧ ∃ property ∈ declared.properties,
        property.name = name ∧ property.type.text = type := by
  constructor
  · rintro ⟨_, hmem, hname, htype⟩
    obtain ⟨declared, hdeclared, hinterface, hmem⟩ := (mem_memberElements_document hpath h).1 hmem
    rw [children_property] at hmem
    obtain ⟨property, hproperty, rfl⟩ := List.mem_map.1 hmem
    exact ⟨declared, hdeclared, hinterface, property, hproperty, Option.some.inj hname,
      Option.some.inj htype⟩
  · rintro ⟨declared, hdeclared, hinterface, property, hproperty, rfl, rfl⟩
    refine ⟨propertyElement property, ?_, rfl, rfl⟩
    refine (mem_memberElements_document hpath h).2 ⟨declared, hdeclared, hinterface, ?_⟩
    rw [children_property]
    exact List.mem_map.2 ⟨property, hproperty, rfl⟩

end VpnTray.Bus
