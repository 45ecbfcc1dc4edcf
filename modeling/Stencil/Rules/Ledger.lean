/-
Ledgers. A ledger keeps in tables of its own what a store keeps in one place: the templates, the
subordinates and the line of each template by its name, and the ids of all subordinates. The tables
are filled at different times: the line when a template is opened, all others when a declaration is
committed. A table that is asked for what it does not have ends the work.
-/
import Stencil.Rules.Expand

namespace Stencil

/-- The declarations of all rules read so far, in tables. -/
structure Ledger where
  templates : List Template
  subordinates : List (Text × List Subordinate)
  lines : List (Text × Nat)
  ids : List Text
deriving Repr, DecidableEq

/-- The table with a value under a key, in place of what was there. -/
def putKey {Value : Type} (table : List (Text × Value)) (key : Text) (value : Value) :
    List (Text × Value) :=
  table.filter (fun entry => entry.1 != key) ++ [(key, value)]

/-- What a table has under a key, or the end of the work. -/
def getKey {Value : Type} (table : List (Text × Value)) (key : Text) : Except Abort Value :=
  match table.lookup key with
  | some value => .ok value
  | none => .error (.missingKey key)

namespace Ledger

variable [CharacterNames]

/-- The ledger of no declarations. -/
def empty : Ledger := ⟨[], [], [], []⟩

/-! ### Committing -/

/-- The ledger with one more template, which has no subordinates yet. -/
def addTemplate (ledger : Ledger) (template : Template) : Ledger :=
  { ledger with
    templates := ledger.templates ++ [template]
    subordinates := putKey ledger.subordinates template.name [] }

/-- Adds a subordinate beneath a template. Its id has been recorded when the template is looked
for. -/
def addSubordinate (ledger : Ledger) (owner : Text) (subordinate : Subordinate) :
    Ledger × Option Stop :=
  let ledger := { ledger with ids := ledger.ids.insert subordinate.id }
  match getKey ledger.subordinates owner with
  | .error abort => (ledger, some (.aborted abort))
  | .ok earlier =>
    let later := putKey ledger.subordinates owner (earlier ++ [subordinate])
    ({ ledger with subordinates := later }, none)

/-- Commits a declaration on the line `next`. -/
def commit (ledger : Ledger) (active : Active) (next : Nat) : Ledger × Option Stop :=
  match active.declaration.commit with
  | .error (.missing setting) =>
    let error := ⟨next, next, .missingAttribute setting active.declaration.className⟩
    (ledger, some (.refused error))
  | .error (.committed _) => (ledger, none)
  | .ok declaration =>
    match active.withDeclaration declaration with
    | .template declared _ => (ledger.addTemplate declared, none)
    | .subordinate owner declared => ledger.addSubordinate owner declared

/-- Stages what is pending and commits the declaration in progress, if there is one. -/
def conclude (reading : Reading Ledger) (next : Nat) : Reading Ledger × Option Stop :=
  match reading.stage next with
  | .error stop => (reading, some stop)
  | .ok staged =>
    match staged.active with
    | none => (staged, none)
    | some active =>
      match staged.store.commit active next with
      | (ledger, none) => ({ staged with store := ledger, active := none, pending := none }, none)
      | (ledger, stopped) => ({ reading with store := ledger }, stopped)

/-! ### Lines -/

/-- Begins a declaration. A template's line is recorded at once. -/
def beginDeclaration (reading : Reading Ledger) (number : Nat) (className : Text)
    (subject : Subject) : Except Stop (Reading Ledger) :=
  if className = "Template".toList then
    match subject with
    | .id id => Reading.refuseLine number (.templateById id)
    | .name name =>
      if (reading.store.subordinates.lookup name).isSome then
        Reading.refuseLine number (.templateDeclared name)
      else
        .ok { reading with
          store := { reading.store with lines := putKey reading.store.lines name number }
          template := some name
          active := some (.template (.start name) number) }
  else
    match Subordinate.start? className, subject, reading.template with
    | none, _, _ => Reading.refuseLine number (.unknownClass className)
    | some _, .name name, _ => Reading.refuseLine number (.subordinateByName className name)
    | some _, .id _, none => Reading.refuseLine number (.withoutTemplate className)
    | some start, .id id, some owner =>
      if reading.store.ids.contains id then Reading.refuseLine number (.idDeclared id)
      else .ok { reading with active := some (.subordinate owner (start id)) }

/-- Reads one line. -/
def step (reading : Reading Ledger) (number : Nat) : Line → Reading Ledger × Option Stop
  | .comment => (reading, none)
  | .blank => conclude reading number
  | .opening className subject =>
    Reading.andThen (conclude reading number) (beginDeclaration · number className subject)
  | .attribute word value =>
    Reading.andThen (reading.orStay (reading.stage number)) (·.beginAttribute number word value)
  | .substitution text =>
    Reading.andThen (reading.orStay (reading.stage number)) (·.beginSubstitution number text)
  | .continuation text => reading.orStay (reading.resume number text)
  | .other => (reading, some (.refused ⟨number, number, .invalidSyntax⟩))

/-- Reads lines up to the first stop; `number` is that of the first of them. The number of the line
behind the last one read comes along. -/
def readLines : Reading Ledger → (number : Nat) → List Text → (Reading Ledger × Option Stop) × Nat
  | reading, number, [] => ((reading, none), number)
  | reading, number, line :: rest =>
    match step reading number (Line.ofText line) with
    | (reading, none) => readLines reading (number + 1) rest
    | stopped => (stopped, number)

/-- Every one of the templates must have subordinates. -/
def checkBarren (ledger : Ledger) : List Template → Except Stop Unit
  | [] => .ok ()
  | template :: templates =>
    match getKey ledger.subordinates template.name with
    | .error abort => .error (.aborted abort)
    | .ok (_ :: _) => checkBarren ledger templates
    | .ok [] =>
      match getKey ledger.lines template.name with
      | .error abort => .error (.aborted abort)
      | .ok line => Reading.refuseLine line (.withoutSubordinates template.name)

/-- Reads rules to their end. -/
def readAll (ledger : Ledger) (text : Text) : Reading Ledger × Option Stop :=
  match readLines ⟨ledger, none, none, none⟩ 1 text.lines with
  | ((reading, none), number) =>
    Reading.andThen (conclude reading number) fun reading =>
      (reading.store.checkBarren reading.store.templates).map fun () => reading
  | (stopped, _) => stopped

/-- Reads the rules of a file into a ledger. -/
def readRules (ledger : Ledger) (file text : Text) : Work Ledger Unit :=
  match readAll ledger text with
  | (reading, none) => ⟨reading.store, [], .ok ()⟩
  | (reading, some (.refused error)) => ⟨reading.store, error.events file, .error .rulesRefused⟩
  | (reading, some (.aborted abort)) => ⟨reading.store, [], .error abort⟩

/-! ### Expanding -/

/-- Expands templates, in order, each into the subordinates that are under its name. -/
def expandAll {World : Type} (workspace : Workspace World) (ledger : Ledger) :
    List Template → World → Work World (List Report)
  | [], world => ⟨world, [], .ok []⟩
  | template :: templates, world =>
    match getKey ledger.subordinates template.name with
    | .error abort => ⟨world, [], .error abort⟩
    | .ok subordinates =>
      -- The line of an entry plays no part in expanding it.
      let first := StoreEntry.expand workspace world ⟨template, 0, subordinates⟩
      match first.outcome with
      | .error abort => ⟨first.world, first.log, .error abort⟩
      | .ok report =>
        let rest := expandAll workspace ledger templates first.world
        ⟨rest.world, first.log ++ rest.log, rest.outcome.map (report :: ·)⟩

/-- Expands all templates. -/
def expand {World : Type} (workspace : Workspace World) (ledger : Ledger) (world : World) :
    Work World (List Report) :=
  ledger.expandAll workspace ledger.templates world

end Ledger

end Stencil
