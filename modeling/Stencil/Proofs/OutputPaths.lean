/-
This file proves that rules cannot direct output away from the packages of their templates. A target
name, whether it is given or made from types, has neither a dot nor a slash: a given one is a simple
name, and a made one consists of words of the types, whose capitals bring in no separator. The
packages of a template are simple names as well. So the path of a unit is a directory for each
package below the root, and then the file, and of all this only the file is the target's own.
-/
import Stencil.Proofs.DeclaredNames
import Stencil.Proofs.Emissions
import Stencil.Proofs.Isolation
import Stencil.Proofs.Leftovers

namespace Stencil

/-- What can stand between two dots of a name and between two slashes of a path. -/
structure IsComponent (text : Text) : Prop where
  nonempty : text ≠ []
  noDot : '.' ∉ text
  noSlash : '/' ∉ text

/-! ### Capitals -/

/-- The separators of names and of paths. -/
def isSeparator (c : Char) : Bool := c == '.' || c == '/'

theorem upperExpansions_beyond :
    (upperExpansions.all fun entry => entry.2.all fun code => decide (0x30 ≤ code)) = true := by
  decide +kernel

theorem upperStretches_beyond :
    (upperStretches.all fun stretch => decide (0x30 ≤ stretch.range.first + stretch.shift)) =
      true := by
  decide +kernel

/-- Below the digits nothing is the upper case of anything else. -/
theorem eq_of_mem_upperCodes {code upper : Nat} (member : upper ∈ upperCodes code)
    (low : upper < 0x30) : upper = code := by
  rw [upperCodes] at member
  split at member
  · split at member
    · have := List.mem_singleton.mp member
      omega
    · exact List.mem_singleton.mp member
  · split at member
    · next expansion found =>
      obtain ⟨before, after, same, -⟩ := List.lookup_eq_some_iff.mp found
      have listed : (code, expansion) ∈ upperExpansions := by
        rw [same]
        exact List.mem_append_right _ List.mem_cons_self
      have beyond := List.all_eq_true.mp (List.all_eq_true.mp upperExpansions_beyond _ listed)
        upper member
      have := of_decide_eq_true beyond
      omega
    · rw [List.mem_singleton.mp member, shiftCase] at low ⊢
      split at low
      · next stretch found =>
        have beyond := of_decide_eq_true
          (List.all_eq_true.mp upperStretches_beyond stretch (List.mem_of_find?_eq_some found))
        have covers := List.find?_some found
        simp only [CaseStretch.covers, CodeRange.contains, Bool.and_eq_true,
          decide_eq_true_eq] at covers
        omega
      · rfl

theorem eq_of_mem_upperCase {c upper : Char} (member : upper ∈ upperCase c)
    (separator : isSeparator upper = true) : upper = c := by
  obtain ⟨code, listed, rfl⟩ := List.mem_map.mp member
  have valid : code.isValidChar := by
    refine Decidable.byContradiction fun invalid => ?_
    rw [Char.ofNat, dif_neg invalid] at separator
    exact absurd separator (by decide)
  have itself : (Char.ofNat code).toNat = code := by
    rw [Char.ofNat, dif_pos valid]
    rfl
  have low : code < 0x30 := by
    rw [isSeparator, Bool.or_eq_true, beq_iff_eq, beq_iff_eq] at separator
    rcases separator with dot | slash
    · rw [← itself, dot]
      decide
    · rw [← itself, slash]
      decide
  rw [eq_of_mem_upperCodes listed low, Char.ofNat_toNat]

theorem mem_of_mem_capitalise {word : Text} {c : Char} (member : c ∈ capitalise word)
    (separator : isSeparator c = true) : c ∈ word := by
  cases word with
  | nil => exact member
  | cons first rest =>
    rcases List.mem_append.mp member with inFirst | inRest
    · rw [eq_of_mem_upperCase inFirst separator]
      exact List.mem_cons_self
    · exact List.mem_cons_of_mem _ inRest

/-! ### Target names -/

theorem isIdentifierChar_separator {c : Char} (separator : isSeparator c = true) :
    isIdentifierChar c = false := by
  rw [isSeparator, Bool.or_eq_true, beq_iff_eq, beq_iff_eq] at separator
  rcases separator with rfl | rfl <;> decide

theorem isComponent_of_free {text : Text} (nonempty : text ≠ [])
    (free : ∀ c ∈ text, isSeparator c = false) : IsComponent text :=
  ⟨nonempty, fun dot => absurd (free _ dot) (by decide),
    fun slash => absurd (free _ slash) (by decide)⟩

theorem IsComponent.free {text : Text} (component : IsComponent text) :
    ∀ c ∈ text, isSeparator c = false := by
  intro c member
  rw [isSeparator, Bool.or_eq_false_iff, beq_eq_false_iff_ne, beq_eq_false_iff_ne]
  constructor
  · rintro rfl
    exact component.noDot member
  · rintro rfl
    exact component.noSlash member

theorem isComponent_of_isSimpleName {name : Text} (simple : isSimpleName name = true) :
    IsComponent name := by
  cases name with
  | nil => cases simple
  | cons first rest =>
    rw [isSimpleName, isNameStart, Bool.and_eq_true, Bool.and_eq_true] at simple
    refine isComponent_of_free (List.cons_ne_nil _ _) fun c member => ?_
    rw [Bool.eq_false_iff]
    intro separator
    have outside := isIdentifierChar_separator separator
    rcases List.mem_cons.mp member with rfl | later
    · rw [isIdentifierChar, simple.1.1, Bool.or_true] at outside
      cases outside
    · rw [List.all_eq_true.mp simple.2 c later] at outside
      cases outside

/-- Whatever a type is spelled with, it contributes no separator to a target name. -/
theorem isSeparator_of_mem_typeComponent {type : Text} {c : Char}
    (member : c ∈ typeComponent type) : isSeparator c = false := by
  rw [Bool.eq_false_iff]
  intro separator
  obtain ⟨run, listed, inRun⟩ := List.mem_flatMap.mp member
  have isRun : run ∈ identifierRuns (spellArrays none type) := (List.mem_filter.mp listed).1
  have inWords : run.1 ∈ words (spellArrays none type) := List.mem_map.mpr ⟨run, isRun, rfl⟩
  have isWord : IsWord run.1 := isWord_of_mem_stretches ((mem_words_iff _ _).mp inWords)
  have identifier := isWord.isIdentifierChar (mem_of_mem_capitalise inRun separator)
  rw [isIdentifierChar_separator separator] at identifier
  cases identifier

theorem isComponent_targetName {source target : Text} {types : List Text} {placement : Placement}
    (component : IsComponent source) (made : targetName source types placement = .ok target) :
    IsComponent target := by
  have fromTypes (c : Char) (member : c ∈ types.flatMap typeComponent) : isSeparator c = false := by
    obtain ⟨type, _, inType⟩ := List.mem_flatMap.mp member
    exact isSeparator_of_mem_typeComponent inType
  cases placement with
  | append =>
    cases made
    refine isComponent_of_free (by simp [component.nonempty]) fun c member => ?_
    exact (List.mem_append.mp member).elim (component.free c) (fromTypes c)
  | prepend =>
    cases made
    refine isComponent_of_free (by simp [component.nonempty]) fun c member => ?_
    exact (List.mem_append.mp member).elim (fromTypes c) (component.free c)
  | unknown word => cases made

/-- The spec of a named subordinate has a target that is one component. -/
theorem Subordinate.isComponent_target {subordinate : Subordinate} {template : Template}
    {spec : Spec} (named : (Declaration.subordinate subordinate).Named)
    (source : IsComponent (simpleName template.name))
    (made : subordinate.spec template = .ok spec) : IsComponent spec.target := by
  rcases Subordinate.spec_eq_ok made with ⟨-, ⟨-, -, given⟩ | ⟨-, given | computed⟩⟩
  · exact isComponent_of_isSimpleName (named _ given)
  · exact isComponent_of_isSimpleName (named _ given)
  · exact isComponent_targetName source computed

/-! ### Packages -/

/-- The packages around a unit, outermost first. -/
def packages (name : Text) : List Text :=
  if (packageName name).isEmpty then [] else nameSegments (packageName name)

theorem joinWith_packages (name : Text) :
    Text.joinWith ['.'] (packages name) = packageName name := by
  rw [packages]
  split
  · next empty => exact (List.isEmpty_iff.mp empty).symm
  · exact Text.joinWith_splitAtAll '.' (packageName name)

theorem not_mem_simpleName (name : Text) : '.' ∉ simpleName name := by
  intro member
  have kept := List.all_eq_true.mp (List.all_takeWhile (p := (· != '.')) (l := name.reverse)) '.'
    (List.mem_reverse.mp member)
  exact absurd kept (by decide)

/-- The segments of a name are its packages and then its simple name. -/
theorem nameSegments_eq {name : Text} (rooted : name.head? ≠ some '.') :
    nameSegments name = packages name ++ [simpleName name] := by
  have last : nameSegments (simpleName name) = [simpleName name] := by
    refine Text.splitAtAll_of_free fun c member => ?_
    rw [beq_eq_false_iff_ne]
    rintro rfl
    exact not_mem_simpleName name member
  have whole := qualifyName_package_simple name rooted
  rw [qualifyName] at whole
  rw [packages]
  split at whole
  · next empty =>
    rw [if_pos empty, List.nil_append, whole]
    rw [whole] at last
    exact last
  · next nonempty =>
    rw [if_neg nonempty, ← last]
    exact (congrArg nameSegments whole.symm).trans (Text.splitAtAll_append_cut (by decide) _ _)

theorem isComponent_of_isDottedName {name : Text} (dotted : isDottedName name = true) :
    IsComponent (simpleName name) ∧ ∀ package ∈ packages name, IsComponent package := by
  have all := List.all_eq_true.mp dotted
  have segments := nameSegments_eq (head?_ne_dot_of_isDottedName dotted)
  rw [nameSegments] at segments
  rw [segments] at all
  refine ⟨?_, fun package member => ?_⟩
  · exact isComponent_of_isSimpleName (all _ (List.mem_append_right _ List.mem_cons_self))
  · exact isComponent_of_isSimpleName (all _ (List.mem_append_left _ member))

/-! ### Paths -/

namespace Path

/-- What precedes a path that is seen from a root. -/
def below (root : Text) : Text :=
  if root.isEmpty || endsInSlash root then root else root ++ ['/']

/-- One directory inside the other. -/
def ofPackages (packages : List Text) : Text := packages.flatMap (· ++ ['/'])

theorem join_of_relative (root : Text) {path : Text} (relative : isAbsolute path = false) :
    join root path = below root ++ path := by
  rw [join, below, relative, Bool.false_or]
  by_cases empty : root.isEmpty = true
  · rw [if_pos empty, empty, Bool.true_or, if_pos rfl, List.isEmpty_iff.mp empty]
    rfl
  · rw [if_neg empty, Bool.eq_false_iff.mpr empty, Bool.false_or]
    split
    · rfl
    · rw [List.append_assoc]
      rfl

theorem isAbsolute_append {first : Text} (component : IsComponent first) (rest : Text) :
    isAbsolute (first ++ rest) = false := by
  cases first with
  | nil => exact absurd rfl component.nonempty
  | cons c first =>
    rw [List.cons_append, isAbsolute]
    rintro tail ⟨⟩
    exact component.noSlash List.mem_cons_self

/-- Slashes for dots make a directory of every segment. -/
theorem map_slash (name : Text) :
    name.map (fun c => if c = '.' then '/' else c) ++ ['/'] = ofPackages (nameSegments name) := by
  rw [nameSegments]
  induction name with
  | nil => rfl
  | cons c rest inductionHypothesis =>
    rw [List.map_cons, List.cons_append, inductionHypothesis, Text.splitAtAll]
    by_cases dot : c = '.'
    · rw [if_pos dot, if_pos (beq_iff_eq.mpr dot)]
      rfl
    · rw [if_neg dot, if_neg (by rw [beq_iff_eq]; exact dot)]
      obtain ⟨piece, pieces, same⟩ :=
        List.exists_cons_of_ne_nil (Text.splitAtAll_ne_nil (· == '.') rest)
      rw [same]
      rfl

theorem map_slash_of_component {name : Text} (component : IsComponent name) :
    name.map (fun c => if c = '.' then '/' else c) = name := by
  refine (List.map_congr_left fun c member => if_neg ?_).trans (List.map_id name)
  rintro rfl
  exact component.noDot member

theorem isAbsolute_ofPackages {packages : List Text} (components : ∀ p ∈ packages, IsComponent p)
    {file : Text} (component : IsComponent file) (rest : Text) :
    isAbsolute (ofPackages packages ++ file ++ rest) = false := by
  cases packages with
  | nil => exact isAbsolute_append component rest
  | cons package packages =>
    have lead := isAbsolute_append (components package List.mem_cons_self)
      ('/' :: (ofPackages packages ++ file ++ rest))
    simpa [ofPackages] using lead

/-- The file of a unit in the package of a name: one directory for each package below the root. -/
theorem ofUnit_qualifyName (root extension : Text) {name file : Text}
    (components : ∀ package ∈ packages name, IsComponent package) (component : IsComponent file) :
    ofUnit root extension (qualifyName (packageName name) file) =
      below root ++ ofPackages (packages name) ++ file ++ extension := by
  have spelled : (qualifyName (packageName name) file).map (fun c => if c = '.' then '/' else c) =
      ofPackages (packages name) ++ file := by
    rw [qualifyName, packages]
    split
    · exact map_slash_of_component component
    · rw [List.map_append, List.map_cons, map_slash_of_component component, if_pos rfl,
        ← map_slash, List.append_assoc]
      rfl
  rw [ofUnit, spelled, join_of_relative _ (isAbsolute_ofPackages components component extension)]
  simp only [List.append_assoc]

/-! ### Components of paths -/

theorem components_append_slash (first rest : Text) :
    components (first ++ '/' :: rest) = components first ++ components rest := by
  rw [components, Text.splitAtAll_append_cut (by decide), List.filter_append]
  rfl

theorem components_of_component {text : Text} (nonempty : text ≠ []) (noSlash : '/' ∉ text) :
    components text = [text] := by
  have whole : Text.splitAtAll (· == '/') text = [text] := by
    refine Text.splitAtAll_of_free fun c member => ?_
    rw [beq_eq_false_iff_ne]
    rintro rfl
    exact noSlash member
  rw [components, whole]
  simp [nonempty]

theorem components_below (root rest : Text) :
    components (below root ++ rest) = components root ++ components rest := by
  rw [below]
  by_cases empty : root = []
  · rw [empty]
    rfl
  by_cases ends : endsInSlash root = true
  · rw [ends, Bool.or_true, if_pos rfl]
    obtain ⟨front, rfl⟩ := List.getLast?_eq_some_iff.mp (beq_iff_eq.mp ends)
    rw [List.append_assoc, List.singleton_append, components_append_slash, components_append_slash]
    simp [components, Text.splitAtAll]
  · rw [if_neg (by simp [empty, ends]), List.append_assoc]
    exact components_append_slash root rest

theorem components_ofPackages {packages : List Text} (are : ∀ p ∈ packages, IsComponent p)
    (rest : Text) : components (ofPackages packages ++ rest) = packages ++ components rest := by
  induction packages with
  | nil => rfl
  | cons package packages inductionHypothesis =>
    have first := are package List.mem_cons_self
    rw [ofPackages, List.flatMap_cons, List.append_assoc, List.append_assoc]
    rw [List.singleton_append, components_append_slash,
      components_of_component first.nonempty first.noSlash, ← ofPackages,
      inductionHypothesis fun other later => are other (List.mem_cons_of_mem _ later)]
    rfl

end Path

/-! ### Files of units -/

section

variable (folder : Folder) {name file : Text}
  (components : ∀ package ∈ packages name, IsComponent package) (component : IsComponent file)

include components component

theorem Folder.path_qualifyName :
    folder.path (qualifyName (packageName name) file) =
      Path.below folder.root ++ Path.ofPackages (packages name) ++ file ++ folder.extension :=
  Path.ofUnit_qualifyName folder.root folder.extension components component

theorem Folder.components_path (noSlash : '/' ∉ folder.extension) :
    Path.components (folder.path (qualifyName (packageName name) file)) =
      Path.components folder.root ++ packages name ++ [file ++ folder.extension] := by
  have nonempty : file ++ folder.extension ≠ [] := by simp [component.nonempty]
  have last : '/' ∉ file ++ folder.extension := by simp [component.noSlash, noSlash]
  rw [folder.path_qualifyName components component, List.append_assoc, List.append_assoc,
    Path.components_below, Path.components_ofPackages components,
    Path.components_of_component nonempty last, List.append_assoc]

end

namespace Store

/-- Keeping a record of the names that a run asks to emit changes nothing else. Whatever rules were
read, the workspace is only asked to emit targets of the specs, each in the package of its template;
a target is not empty and has neither a dot nor a slash, nor does a package of the template, so that
none of them leads upwards. The file of the unit is therefore the file of the template with the
target for the simple name: both lie in the same directory, which has one directory for each package
below the root. -/
theorem expand_stays_in_packages [CharacterNames] {World : Type} (workspace : Workspace World)
    (world : World) (calls : List (Text × Text)) (folder : Folder) :
    ((ofRules calls).expand workspace.recording (world, [])).view Prod.fst =
        (ofRules calls).expand workspace world ∧
      ∀ name ∈ ((ofRules calls).expand workspace.recording (world, [])).world.2,
        ∃ entry ∈ ofRules calls, ∃ specs, entry.specs = .ok specs ∧ ∃ spec ∈ specs,
          name = qualifyName (packageName entry.template.name) spec.target ∧
          IsComponent spec.target ∧
          packageName entry.template.name =
            Text.joinWith ['.'] (packages entry.template.name) ∧
          (∀ package ∈ packages entry.template.name,
            IsComponent package ∧ package ≠ "..".toList) ∧
          folder.path entry.template.name =
            Path.below folder.root ++ Path.ofPackages (packages entry.template.name) ++
              simpleName entry.template.name ++ folder.extension ∧
          folder.path name =
            Path.below folder.root ++ Path.ofPackages (packages entry.template.name) ++
              spec.target ++ folder.extension ∧
          ('/' ∉ folder.extension →
            Path.components (folder.path entry.template.name) =
                Path.components folder.root ++ packages entry.template.name ++
                  [simpleName entry.template.name ++ folder.extension] ∧
              Path.components (folder.path name) =
                Path.components folder.root ++ packages entry.template.name ++
                  [spec.target ++ folder.extension]) := by
  refine ⟨(Store.expand_view workspace.views_recording _ (world, [])).symm, fun name asked => ?_⟩
  obtain ⟨entry, listed, specs, made, spec, member, rfl⟩ := exists_spec_of_recorded asked
  obtain ⟨dotted, subordinates⟩ := named_ofRules calls entry listed
  obtain ⟨simple, components⟩ := isComponent_of_isDottedName dotted
  obtain ⟨subordinate, beneath, isSpec⟩ := exists_of_mem_mapM made member
  have target : IsComponent spec.target :=
    Subordinate.isComponent_target (subordinates subordinate beneath) simple isSpec
  have whole := qualifyName_package_simple _ (head?_ne_dot_of_isDottedName dotted)
  have own := folder.path_qualifyName components simple
  have itsComponents := folder.components_path components simple
  rw [whole] at own itsComponents
  refine ⟨entry, listed, specs, made, spec, member, rfl, target, (joinWith_packages _).symm,
    fun package inside => ⟨components package inside, ?_⟩, own,
    folder.path_qualifyName components target,
    fun noSlash => ⟨itsComponents noSlash, folder.components_path components target noSlash⟩⟩
  rintro rfl
  exact (components _ inside).noDot (by decide)

/-- Rules that name a target after a type full of separators. -/
def sharpRules : Text :=
  "Template: org.shop.Cell\n\nInstantiation: #sharp\n- types: '../..//etc.ßig [ ]'\n".toList

/-- The source of their template. -/
def sharpSources : TextTable :=
  [("org.shop.Cell".toList, "@Template()\nclass Cell<T> \x7b T t; \x7d".toList)]

section

attribute [local instance] CharacterNames.signs

theorem expand_stays_in_packages_sharp :
    "org.shop.CellSSigArray".toList ∈ ((ofRules [([], sharpRules)]).expand
        (Workspace.memory sharpSources []).recording ([], [])).world.2 ∧
      ∃ entry ∈ ofRules [([], sharpRules)], ∃ target,
        "org.shop.CellSSigArray".toList =
          qualifyName (packageName entry.template.name) target ∧ IsComponent target ∧
        Path.components (Path.ofUnit "out".toList ".java".toList "org.shop.CellSSigArray".toList) =
          "out".toList :: packages entry.template.name ++ [target ++ ".java".toList] := by
  have asked : "org.shop.CellSSigArray".toList ∈ ((ofRules [([], sharpRules)]).expand
      (Workspace.memory sharpSources []).recording ([], [])).world.2 := by
    decide +kernel
  obtain ⟨entry, listed, specs, -, spec, -, same, target, -, -, -, -, components⟩ :=
    (expand_stays_in_packages (.memory sharpSources []) [] [([], sharpRules)]
      ⟨"out".toList, ".java".toList⟩).2 _ asked
  exact ⟨asked, entry, listed, spec.target, same, target, (components (by decide)).2⟩

end

end Store

end Stencil
