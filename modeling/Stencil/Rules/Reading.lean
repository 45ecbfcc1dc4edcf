/-
Reading rules. Rules are read line by line into a store. An opening line begins a declaration; a blank
line, the next opening line and the end of the rules conclude it, that is, commit it to the store. An
attribute or a substitution may go on over continuation lines, and is staged, that is, becomes part of
its declaration, once the next attribute or substitution begins or the declaration is concluded. The
first error stops reading; what has been committed before stays.
-/
import Stencil.Rules.Error
import Stencil.Rules.Line
import Stencil.Rules.Store
import Stencil.Rules.Substitution
import Stencil.Rules.Value
import Stencil.Text.Lines
import Stencil.Workspace

namespace Stencil

/-- An attribute or a substitution that may still go on, and the line on which it began. -/
inductive Pending where
  | attribute (setting : Attribute) (value : Text) (line : Nat)
  | substitution (text : Text) (line : Nat)
deriving Repr, DecidableEq

/-- The declaration in progress: a template with its line, or a subordinate with the name of its
template. -/
inductive Active where
  | template (template : Template) (line : Nat)
  | subordinate (owner : Text) (subordinate : Subordinate)
deriving Repr, DecidableEq

/-- Where reading stands: what has been declared so far, the closest preceding template, the
declaration in progress and what is pending in it. -/
structure Reading (S : Type := Store) where
  store : S
  template : Option Text
  active : Option Active
  pending : Option Pending
deriving Repr, DecidableEq

namespace Active

/-- The declaration itself. -/
def declaration : Active → Declaration
  | .template declared _ => .template declared
  | .subordinate _ declared => .subordinate declared

/-- The same place in the store with a changed declaration. -/
def withDeclaration : Active → Declaration → Active
  | .template _ line, .template declared => .template declared line
  | .subordinate owner _, .subordinate declared => .subordinate owner declared
  | active, _ => active

/-- Changes the declaration. It is in progress, so that it has not been committed. -/
def change (active : Active) (change : Change) : Active :=
  match active.declaration.change change with
  | .ok declaration => active.withDeclaration declaration
  | .error _ => active

end Active

namespace Reading

variable [CharacterNames] {S : Type}

/-- Stops with an error that concerns the lines from `first` to before `next`. -/
def refuse {Result : Type} (first next : Nat) (cause : RulesCause) : Except Stop Result :=
  .error (.refused ⟨first, next - 1, cause⟩)

/-- Stops with an error that concerns one line. -/
def refuseLine {Result : Type} (line : Nat) (cause : RulesCause) : Except Stop Result :=
  .error (.refused ⟨line, line, cause⟩)

/-! ### Staging -/

/-- A list that has been read, or the item of it that is refused. -/
def specified {Result : Type} (setting : Attribute) : Except Text Result → Except RulesCause Result
  | .ok result => .ok result
  | .error text => .error (.invalidSpecification text setting)

/-- A single value that has been read, or the value that is refused. -/
def valued {Result : Type} (setting : Attribute) : Except Text Result → Except RulesCause Result
  | .ok result => .ok result
  | .error text => .error (.invalidValue text setting)

/-- The change that an attribute makes, or why it makes none. An instantiation that asks for no name
keeps the one it has. -/
def attributeChange (declaration : Declaration) (setting : Attribute) (value : Text) :
    Except RulesCause (Option Change) :=
  match setting with
  | .parameters =>
    (specified setting (namesOfValue false value)).map fun names =>
      some (.parameters (some (names.map Prod.fst)))
  | .placement =>
    (valued setting (placementOfValue value)).map fun placement => some (.placement placement)
  | .directives =>
    (specified setting (namesOfValue true value)).map fun names =>
      some (.markers (some (names.map fun (name, bestEffort) => ⟨name, !bestEffort⟩)))
  | .imports =>
    (specified setting (namesOfValue false value)).map fun names =>
      some (.imports (names.map Prod.fst))
  | .sigil => (valued setting (sigilOfValue value)).map fun sigil => some (.sigil sigil)
  | .types =>
    (specified setting (typesOfValue value)).map fun types => some (.types (some types))
  | .name =>
    match valued setting (targetOfValue value) with
    | .error cause => .error cause
    | .ok (some target) => .ok (some (.target (some target)))
    | .ok none => if declaration.isDerivation then .error .derivationWithoutName else .ok none

/-- A refusal as an error in the rules, if it is a fault. -/
def refusal {Result : Type} (first next : Nat) (cause : Fault → RulesCause) :
    Refusal → Except Stop Result
  | .fault fault => refuse first next (cause fault)
  | .repetitionTooLarge => .error (.aborted .repetitionTooLarge)
  | .incompatibleFlags => .error (.aborted .incompatibleFlags)
  | .unknownGroup name => .error (.aborted (.unknownGroup name))

/-- Reads pattern and substitute of a pattern rule, to see whether they can be used. -/
def checkRule (first next : Nat) (rule : Rule) : Except Stop Unit :=
  if rule.isRegex then
    match Pattern.ofText rule.pattern with
    | .error found => refusal first next (.badPattern rule.pattern) found
    | .ok pattern =>
      match Substitute.ofText pattern rule.substitute with
      | .error found => refusal first next (.badSubstitute rule.substitute rule.pattern) found
      | .ok _ => .ok ()
  else .ok ()

/-- The rule that a substitution declares. -/
def ruleOf (first next : Nat) (text : Text) : Except Stop Rule :=
  match Substitution.ofText? text with
  | none => refuse first next (.missingArrow text)
  | some substitution =>
    let rule : Rule :=
      ⟨substitution.pattern.text, substitution.substitute.text,
        substitution.arrow.head? == some '~', substitution.bullet == '*'⟩
    if rule.pattern.isEmpty then refuse first next (.emptyPattern text)
    else
      match checkRule first next rule with
      | .ok () => .ok rule
      | .error stop => .error stop

/-- The declaration after what is pending has been staged, before the line `next`. -/
def staged (active : Active) (pending : Pending) (next : Nat) : Except Stop Active :=
  match pending with
  | .attribute setting value line =>
    match attributeChange active.declaration setting value with
    | .error cause => refuse line next cause
    | .ok none => .ok active
    | .ok (some change) => .ok (active.change change)
  | .substitution text line =>
    match active with
    | .template _ _ => refuse line next (.noSubstitutions active.declaration.className)
    | .subordinate _ _ =>
      match ruleOf line next text with
      | .ok rule => .ok (active.change (.rule rule))
      | .error stop => .error stop

/-- Stages what is pending, if anything is. -/
def stage (reading : Reading S) (next : Nat) : Except Stop (Reading S) :=
  match reading.active, reading.pending with
  | some active, some pending =>
    match staged active pending next with
    | .ok active => .ok { reading with active := some active, pending := none }
    | .error stop => .error stop
  | _, _ => .ok reading

/-! ### Committing -/

/-- The store after a declaration has been committed to it, on the line `next`. -/
def committed (store : Store) (active : Active) (next : Nat) : Except Stop Store :=
  match active.declaration.commit with
  | .error (.missing setting) =>
    refuseLine next (.missingAttribute setting active.declaration.className)
  | .error (.committed _) => .ok store
  | .ok declaration =>
    match active.withDeclaration declaration with
    | .template declared line => .ok (store.addTemplate declared line)
    | .subordinate owner declared => .ok (store.addSubordinate owner declared)

/-- Stages what is pending and commits the declaration in progress, if there is one. -/
def conclude (reading : Reading) (next : Nat) : Except Stop Reading :=
  match stage reading next with
  | .error stop => .error stop
  | .ok reading =>
    match reading.active with
    | none => .ok reading
    | some active =>
      match committed reading.store active next with
      | .ok store => .ok { reading with store := store, active := none, pending := none }
      | .error stop => .error stop

/-! ### Lines -/

/-- Begins a declaration. -/
def beginDeclaration (reading : Reading) (number : Nat) (className : Text) (subject : Subject) :
    Except Stop Reading :=
  if className = "Template".toList then
    match subject with
    | .id id => refuseLine number (.templateById id)
    | .name name =>
      if (reading.store.entry? name).isSome then refuseLine number (.templateDeclared name)
      else
        .ok { reading with
          template := some name
          active := some (.template (.start name) number) }
  else
    match Subordinate.start? className, subject, reading.template with
    | none, _, _ => refuseLine number (.unknownClass className)
    | some _, .name name, _ => refuseLine number (.subordinateByName className name)
    | some _, .id _, none => refuseLine number (.withoutTemplate className)
    | some start, .id id, some owner =>
      if reading.store.ids.contains id then refuseLine number (.idDeclared id)
      else .ok { reading with active := some (.subordinate owner (start id)) }

/-- Begins an attribute, after what was pending has been staged. -/
def beginAttribute (reading : Reading S) (number : Nat) (word value : Text) :
    Except Stop (Reading S) :=
  match reading.active with
  | none => refuseLine number .strayAttribute
  | some active =>
    match active.declaration.attribute? word with
    | some setting => .ok { reading with pending := some (.attribute setting value number) }
    | none => refuseLine number (.unknownAttribute word active.declaration.className)

/-- Begins a substitution, after what was pending has been staged. -/
def beginSubstitution (reading : Reading S) (number : Nat) (text : Text) :
    Except Stop (Reading S) :=
  match reading.active with
  | none => refuseLine number .straySubstitution
  | some _ => .ok { reading with pending := some (.substitution text number) }

/-- Goes on with what is pending. -/
def resume (reading : Reading S) (number : Nat) (text : Text) : Except Stop (Reading S) :=
  match reading.pending with
  | some (.attribute setting value line) =>
    .ok { reading with pending := some (.attribute setting (value ++ '\n' :: text) line) }
  | some (.substitution start line) =>
    .ok { reading with pending := some (.substitution (start ++ '\n' :: text) line) }
  | none => refuseLine number .strayContinuation

/-- A step that leaves reading where it was if it stops. -/
def orStay (reading : Reading S) : Except Stop (Reading S) → Reading S × Option Stop
  | .ok next => (next, none)
  | .error stop => (reading, some stop)

/-- Two steps, of which the second is taken if the first one did not stop. -/
def andThen (step : Reading S × Option Stop) (next : Reading S → Except Stop (Reading S)) :
    Reading S × Option Stop :=
  match step with
  | (reading, none) => orStay reading (next reading)
  | stopped => stopped

/-- Reads one line. -/
def step (reading : Reading) (number : Nat) : Line → Reading × Option Stop
  | .comment => (reading, none)
  | .blank => orStay reading (conclude reading number)
  | .opening className subject =>
    andThen (orStay reading (conclude reading number)) (beginDeclaration · number className subject)
  | .attribute word value =>
    andThen (orStay reading (stage reading number)) (beginAttribute · number word value)
  | .substitution text =>
    andThen (orStay reading (stage reading number)) (beginSubstitution · number text)
  | .continuation text => orStay reading (resume reading number text)
  | .other => (reading, some (.refused ⟨number, number, .invalidSyntax⟩))

/-- Reads lines up to the first stop; `number` is that of the first of them. The number of the line
behind the last one read comes along. -/
def lines : Reading → (number : Nat) → List Text → (Reading × Option Stop) × Nat
  | reading, number, [] => ((reading, none), number)
  | reading, number, line :: rest =>
    match step reading number (Line.ofText line) with
    | (reading, none) => lines reading (number + 1) rest
    | stopped => (stopped, number)

/-- Every template must have subordinates. -/
def checkBarren (reading : Reading) : Except Stop Reading :=
  match reading.store.barren? with
  | some entry => refuseLine entry.line (.withoutSubordinates entry.template.name)
  | none => .ok reading

/-- Reads rules to their end. -/
def all (store : Store) (text : Text) : Reading × Option Stop :=
  let (read, number) := lines ⟨store, none, none, none⟩ 1 text.lines
  andThen (andThen read (conclude · number)) checkBarren

end Reading

/-- Reads the rules of a file into a store. -/
def Store.readRules [CharacterNames] (store : Store) (file text : Text) : Work Store Unit :=
  match Reading.all store text with
  | (reading, none) => ⟨reading.store, [], .ok ()⟩
  | (reading, some (.refused error)) => ⟨reading.store, error.events file, .error .rulesRefused⟩
  | (reading, some (.aborted abort)) => ⟨reading.store, [], .error abort⟩

end Stencil
