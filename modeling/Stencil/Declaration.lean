/-
Declarations. Rules declare templates, and beneath each the instantiations and derivations to make of
it. A declaration is filled in attribute by attribute and then committed; committing asks for the
attributes that cannot be left out, and from then on nothing can be changed.
-/
import Stencil.TargetName
import Stencil.Unit

namespace Stencil

/-! ### Templates -/

/-- A source to be expanded, and how. Type parameters and directives that are not set are found in
the source, or by default. -/
structure Template where
  name : Text
  committed : Bool
  parameters : Option (List Text)
  placement : Placement
  markers : Option (List Marker)
  imports : List Text
  sigil : Text
deriving Repr, DecidableEq

/-- A template as it is first declared. -/
def Template.start (name : Text) : Template where
  name := name
  committed := false
  parameters := none
  placement := .append
  markers := none
  imports := []
  sigil := SourceUnit.defaultSigil

/-! ### Subordinates -/

/-- What is to be made of a template: an instance at some types, or a renamed copy. -/
inductive SubordinateKind where
  | instantiation (types : Option (List Text))
  | derivation
deriving Repr, DecidableEq

/-- An instantiation or derivation beneath a template. -/
structure Subordinate where
  id : Text
  committed : Bool
  kind : SubordinateKind
  target : Option Text
  rules : List Rule
deriving Repr, DecidableEq

namespace Subordinate

/-- An instantiation as it is first declared. -/
def instantiation (id : Text) : Subordinate := ⟨id, false, .instantiation none, none, []⟩

/-- A derivation as it is first declared. -/
def derivation (id : Text) : Subordinate := ⟨id, false, .derivation, none, []⟩

/-- How a subordinate of a class begins. -/
def start? (className : Text) : Option (Text → Subordinate) :=
  if className = "Instantiation".toList then some instantiation
  else if className = "Derivation".toList then some derivation
  else none

end Subordinate

/-- A template or a subordinate. -/
inductive Declaration where
  | template (template : Template)
  | subordinate (subordinate : Subordinate)
deriving Repr, DecidableEq

/-! ### Attributes -/

/-- What rules can set in a declaration. -/
inductive Attribute where
  | parameters
  | placement
  | directives
  | imports
  | sigil
  | types
  | name
deriving Repr, DecidableEq

/-- The word for an attribute. -/
def Attribute.word : Attribute → Text
  | .parameters => "type_parameters".toList
  | .placement => "type_name_position".toList
  | .directives => "directives".toList
  | .imports => "imports".toList
  | .sigil => "sigil".toList
  | .types => "types".toList
  | .name => "name".toList

/-! ### Changing declarations -/

/-- A change to a declaration. -/
inductive Change where
  | parameters (value : Option (List Text))
  | placement (value : Placement)
  | markers (value : Option (List Marker))
  | imports (value : List Text)
  | sigil (value : Text)
  | types (value : Option (List Text))
  | target (value : Option Text)
  | rule (value : Rule)
deriving Repr, DecidableEq

/-- The attribute that a change is about. -/
def Change.setting? : Change → Option Attribute
  | .parameters _ => some .parameters
  | .placement _ => some .placement
  | .markers _ => some .directives
  | .imports _ => some .imports
  | .sigil _ => some .sigil
  | .types _ => some .types
  | .target _ => some .name
  | .rule _ => none

/-- Why a declaration cannot be changed or committed. -/
inductive DeclarationFault where
  | committed (change : Change)
  | missing (setting : Attribute)
deriving Repr, DecidableEq

/-- What a change is called in the message that refuses it. -/
def Change.operation : Change → String
  | .parameters _ => "set `type_parameter_names`"
  | .placement _ => "set `type_name_position`"
  | .markers _ => "set `directive_markers`"
  | .imports _ => "set `erased_import_names`"
  | .sigil _ => "set `sigil`"
  | .types _ => "set `concrete_type_names`"
  | .target _ => "set `target_simple_name`"
  | .rule _ => "call `add_replacement_rule(...)`"

/-- The wording of a fault. -/
def DeclarationFault.message : DeclarationFault → String
  | .committed change => "error: cannot " ++ change.operation ++ " after `commit()`"
  | .missing setting => setting.word.str

/-- The template after a change, if the change concerns templates. -/
def Template.changed? (template : Template) : Change → Option Template
  | .parameters value => some { template with parameters := value }
  | .placement value => some { template with placement := value }
  | .markers value => some { template with markers := value }
  | .imports value => some { template with imports := value }
  | .sigil value => some { template with sigil := value }
  | _ => none

/-- The subordinate after a change, if the change concerns subordinates of its kind. -/
def Subordinate.changed? (subordinate : Subordinate) : Change → Option Subordinate
  | .types value =>
    match subordinate.kind with
    | .instantiation _ => some { subordinate with kind := .instantiation value }
    | .derivation => none
  | .target value => some { subordinate with target := value }
  | .rule value => some { subordinate with rules := subordinate.rules ++ [value] }
  | _ => none

namespace Declaration

/-- Whether the declaration has been committed. -/
def committed : Declaration → Bool
  | .template declared => declared.committed
  | .subordinate declared => declared.committed

/-- The declaration after a change, if the change concerns it. -/
def changed? : Declaration → Change → Option Declaration
  | .template declared, change => (declared.changed? change).map .template
  | .subordinate declared, change => (declared.changed? change).map .subordinate

/-- Changes a declaration that has not been committed. A change that does not concern the declaration
leaves it alone. -/
def change (declaration : Declaration) (change : Change) : Except DeclarationFault Declaration :=
  match declaration.changed? change with
  | none => .ok declaration
  | some changed => if declaration.committed then .error (.committed change) else .ok changed

/-- The attribute without which a declaration cannot be committed, if it is not set. -/
def missing? : Declaration → Option Attribute
  | .template _ => none
  | .subordinate declared =>
    match declared.kind, declared.target with
    | .instantiation none, _ => some .types
    | .derivation, none => some .name
    | _, _ => none

/-- Commits a declaration. -/
def commit (declaration : Declaration) : Except DeclarationFault Declaration :=
  match declaration.missing? with
  | some setting => .error (.missing setting)
  | none =>
    match declaration with
    | .template declared => .ok (.template { declared with committed := true })
    | .subordinate declared => .ok (.subordinate { declared with committed := true })

/-- The word that declares it. -/
def className : Declaration → Text
  | .template _ => "Template".toList
  | .subordinate declared =>
    match declared.kind with
    | .instantiation _ => "Instantiation".toList
    | .derivation => "Derivation".toList

/-- Whether it declares a derivation. -/
def isDerivation : Declaration → Bool
  | .template _ => false
  | .subordinate declared => declared.kind == .derivation

/-- The attributes that can be set in rules. -/
def attributes : Declaration → List Attribute
  | .template _ => [.parameters, .placement, .directives, .imports, .sigil]
  | .subordinate declared =>
    match declared.kind with
    | .instantiation _ => [.types, .name]
    | .derivation => [.name]

/-- The attribute that a word stands for in a declaration. -/
def attribute? (declaration : Declaration) (word : Text) : Option Attribute :=
  declaration.attributes.find? fun setting => setting.word == word

end Declaration

/-! ### Specs -/

/-- What a subordinate asks for. A derivation that has no name yet asks for no target. -/
structure Request where
  target : Option Text
  types : List Text
  rules : List Rule
  derivation : Bool
deriving Repr, DecidableEq

/-- The request of a subordinate beneath a template of this simple name and placement. -/
def Subordinate.request (subordinate : Subordinate) (source : Text) (placement : Placement) :
    Except Abort Request :=
  match subordinate.kind with
  | .derivation => .ok ⟨subordinate.target, [], subordinate.rules, true⟩
  | .instantiation none => .error .notSet
  | .instantiation (some types) =>
    match subordinate.target with
    | some target => .ok ⟨some target, types, subordinate.rules, false⟩
    | none =>
      match targetName source types placement with
      | .ok target => .ok ⟨some target, types, subordinate.rules, false⟩
      | .error abort => .error abort

/-- The spec of a request that has a target. -/
def Request.spec (request : Request) : Except Abort Spec :=
  match request.target with
  | some target => .ok ⟨target, request.types, request.rules, request.derivation⟩
  | none => .error .notSet

/-- The spec of a subordinate beneath a template. -/
def Subordinate.spec (template : Template) (subordinate : Subordinate) : Except Abort Spec :=
  match subordinate.request (simpleName template.name) template.placement with
  | .ok request => request.spec
  | .error abort => .error abort

end Stencil
