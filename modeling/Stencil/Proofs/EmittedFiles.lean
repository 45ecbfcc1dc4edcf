/-
This file proves that what is emitted can be read. A file that has been written is found again by
the same path, for writing puts nothing in the way of it: a walk along a path passes directories
alone, and neither a new directory nor a file where there was no directory takes one away. The same
reason keeps every other file as it was. If a file cannot be written, all that can have happened is
that directories were made. And where paths are plain, that is only so if a file is in the way or a
directory is in its place.
-/
import Mathlib.Data.List.DropRight
import Stencil.File.Workspace
import Stencil.Proofs.Octets
import Stencil.Proofs.OutputPaths

namespace Stencil

namespace FileTree

/-! ### What is at a place -/

theorem node?_put_self (tree : FileTree) {place : Place} (inner : place ≠ []) (node : FileNode) :
    (tree.put place node).node? place = some node := by
  rw [node?, if_neg (by simpa using inner)]
  exact lookup_replaced_self tree.entries place node

theorem node?_put_of_ne (tree : FileTree) {place other : Place} (node : FileNode)
    (different : other ≠ place) : (tree.put place node).node? other = tree.node? other := by
  rw [node?, node?]
  split
  · rfl
  · exact lookup_replaced_of_ne tree.entries node different

/-- The root is a directory, so that nothing else can be put there. -/
theorem ne_nil_of_node? {tree : FileTree} {place : Place}
    (free : tree.node? place ≠ some .directory) : place ≠ [] := by
  rintro rfl
  exact free rfl

/-- Nothing has happened at a place but that a directory may have been made where nothing was. -/
def KeepsAt (before after : FileTree) (place : Place) : Prop :=
  after.node? place = before.node? place ∨
    before.node? place = none ∧ after.node? place = some .directory

/-- All that has happened to a tree is that directories have been made. -/
structure Grows (before after : FileTree) : Prop where
  home : after.home = before.home
  keeps : ∀ place, before.KeepsAt after place

variable {tree before middle after : FileTree}

theorem Grows.refl (tree : FileTree) : tree.Grows tree := ⟨rfl, fun _ => Or.inl rfl⟩

theorem Grows.trans (first : before.Grows middle) (second : middle.Grows after) :
    before.Grows after := by
  refine ⟨second.home.trans first.home, fun place => ?_⟩
  rcases first.keeps place with same | ⟨absent, made⟩
  · rw [KeepsAt, ← same]
    exact second.keeps place
  · rcases second.keeps place with same | ⟨stillAbsent, -⟩
    · exact Or.inr ⟨absent, same.trans made⟩
    · cases made.symm.trans stillAbsent

theorem Grows.start (grows : before.Grows after) (path : Text) :
    after.start path = before.start path := by
  rw [FileTree.start, FileTree.start, grows.home]

theorem Grows.directory (grows : before.Grows after) {place : Place}
    (isDirectory : before.node? place = some .directory) :
    after.node? place = some .directory := by
  rcases grows.keeps place with same | ⟨-, made⟩
  · exact same.trans isDirectory
  · exact made

/-- Growing neither makes nor takes nor changes a file. -/
theorem Grows.file_iff (grows : before.Grows after) {place : Place} {octets : List UInt8} :
    after.node? place = some (.file octets) ↔ before.node? place = some (.file octets) := by
  rcases grows.keeps place with same | ⟨absent, made⟩
  · rw [same]
  · rw [absent, made]
    simp

/-! ### Making directories -/

theorem grows_put_directory {place : Place} (absent : tree.node? place = none) :
    tree.Grows (tree.put place .directory) := by
  have inner : place ≠ [] := ne_nil_of_node? (by rw [absent]; simp)
  refine ⟨rfl, fun other => ?_⟩
  by_cases same : other = place
  · rw [same]
    exact Or.inr ⟨absent, tree.node?_put_self inner .directory⟩
  · exact Or.inl (tree.node?_put_of_ne .directory same)

theorem grows_ensureDirectory (tree : FileTree) (path : Text) :
    tree.Grows (tree.ensureDirectory path).1 := by
  rw [ensureDirectory]
  split
  · next made making =>
    rw [makeDirectory] at making
    split at making
    · cases making
    · split at making
      · next absent =>
        cases making
        exact grows_put_directory absent
      · cases making
  · split <;> exact Grows.refl tree

/-- The step of making directories: those above first, and then one more. -/
theorem grows_ensureAll (fuel : Nat) (tree : FileTree) (path : Text) :
    tree.Grows (ensureAll fuel tree path).1 := by
  induction fuel generalizing tree path with
  | zero => exact grows_ensureDirectory tree path
  | succ fuel inductionHypothesis =>
    rw [ensureAll]
    generalize (if (Path.leaf path).isEmpty then Path.parent path else path) = trimmed
    have finishes (middle : FileTree) : middle.Grows
        (if Path.leaf trimmed = ['.'] then (middle, .ok ())
          else middle.ensureDirectory path).1 := by
      split
      · exact Grows.refl middle
      · exact grows_ensureDirectory middle path
    have above := inductionHypothesis tree (Path.parent trimmed)
    cases made : ensureAll fuel tree (Path.parent trimmed) with
    | mk middle result =>
      rw [made] at above
      split
      · exact grows_ensureDirectory tree path
      · cases result with
        | ok _ => exact above.trans (finishes middle)
        | error fault =>
          dsimp only
          by_cases isTaken : fault.problem = .taken
          · rw [if_pos isTaken]
            exact above.trans (finishes middle)
          · rw [if_neg isTaken]
            exact above

theorem grows_makeDirectories (tree : FileTree) (path : Text) :
    tree.Grows (tree.makeDirectories path).1 := grows_ensureAll path.length tree path

/-! ### Walking through more directories -/

section

variable (keeps : ∀ place, before.node? place = some .directory →
  after.node? place = some .directory)

include keeps

theorem enter_of_directories {here next : Place} {component : Text}
    (entered : before.enter here component = .ok next) :
    after.enter here component = .ok next := by
  rw [enter] at entered
  split at entered
  · cases entered
  · cases entered
  · next isDirectory =>
    rw [enter, keeps here isDirectory]
    exact entered

theorem walk_of_directories {here place : Place} {components : List Text}
    (walked : before.walk here components = .ok place) :
    after.walk here components = .ok place := by
  induction components generalizing here with
  | nil => exact walked
  | cons component components inductionHypothesis =>
    rw [walk] at walked
    split at walked
    · next next entered =>
      rw [walk, enter_of_directories keeps entered]
      exact inductionHypothesis walked
    · cases walked

/-- A path leads to the same place as long as no directory is lost. -/
theorem place_of_directories {path : Text} {place : Place}
    (leads : before.place path = .ok place) (home : after.home = before.home) :
    after.place path = .ok place := by
  rw [FileTree.place] at leads ⊢
  split at leads
  · cases leads
  · next within =>
    rw [if_neg within, FileTree.start, home]
    exact walk_of_directories keeps leads

end

/-! ### Writing -/

theorem write_eq_ok_iff {path : Text} {octets : List UInt8} :
    tree.write path octets = .ok after ↔
      ∃ place, tree.place path = .ok place ∧ Path.endsInSlash path = false ∧
        tree.node? place ≠ some .directory ∧ after = tree.put place (.file octets) := by
  rw [write]
  split
  · next problem fails => simp [fails]
  · next place leads =>
    simp only [leads, Except.ok.injEq, exists_eq_left', Bool.or_eq_true, beq_iff_eq]
    split
    · next refused =>
      refine iff_of_false (by simp) ?_
      rintro ⟨noSlash, free, -⟩
      rcases refused with slash | isDirectory
      · cases slash.symm.trans noSlash
      · exact free isDirectory
    · next accepted =>
      rw [not_or, Bool.not_eq_true] at accepted
      rw [and_iff_right accepted.1, and_iff_right accepted.2, Except.ok.injEq, eq_comm]

/-- A file stands where it has been written. The path leads there as before, and it is read. -/
theorem read_of_write {path : Text} {octets : List UInt8}
    (written : tree.write path octets = .ok after) :
    after.read path = .ok octets ∧
      ∃ place, after.place path = .ok place ∧ after.node? place = some (.file octets) ∧
        ∀ other ≠ place, after.node? other = tree.node? other := by
  obtain ⟨place, leads, isFile, free, rfl⟩ := write_eq_ok_iff.mp written
  have stands := tree.node?_put_self (ne_nil_of_node? free) (.file octets)
  -- The walk has passed directories alone, and where the file is put there was none.
  have stillLeads : (tree.put place (.file octets)).place path = .ok place := by
    refine place_of_directories ?_ leads rfl
    intro other isDirectory
    have different : other ≠ place := by
      rintro rfl
      exact free isDirectory
    rw [tree.node?_put_of_ne _ different, isDirectory]
  refine ⟨?_, place, stillLeads, stands, fun other => tree.node?_put_of_ne (.file octets)⟩
  simp only [FileTree.read, stillLeads, stands, isFile, Bool.false_eq_true, if_false]

end FileTree

namespace Path

/-! ### Paths that lead down -/

/-- A component that leads down, and not to where it stands or above it. -/
def IsPlain (component : Text) : Prop := component ≠ ['.'] ∧ component ≠ ['.', '.']

instance (component : Text) : Decidable (IsPlain component) :=
  inferInstanceAs (Decidable (_ ∧ _))

/-- A path to a file that leads down from where it begins, component by component. -/
structure LeadsDown (path : Text) : Prop where
  nonempty : path ≠ []
  noSlash : endsInSlash path = false
  plain : ∀ component ∈ components path, IsPlain component

theorem not_mem_leaf (path : Text) : '/' ∉ leaf path := by
  intro member
  have kept := List.mem_rtakeWhile_imp (p := fun c => c != '/') (l := path) member
  cases kept

theorem endsInSlash_eq_false_iff {path : Text} (nonempty : path ≠ []) :
    endsInSlash path = false ↔ path.getLast nonempty ≠ '/' := by
  rw [endsInSlash, List.getLast?_eq_getLast_of_ne_nil nonempty, beq_eq_false_iff_ne, ne_eq,
    Option.some_inj]

theorem leaf_ne_nil {path : Text} (nonempty : path ≠ []) (noSlash : endsInSlash path = false) :
    leaf path ≠ [] := by
  intro empty
  have last := List.rtakeWhile_eq_nil_iff.mp empty nonempty
  exact last (bne_iff_ne.mpr ((endsInSlash_eq_false_iff nonempty).mp noSlash))

/-- A path that is nothing but slashes, and so is that of the root. -/
structure IsRoot (path : Text) : Prop where
  nonempty : path ≠ []
  all : ∀ c ∈ path, c = '/'

theorem IsRoot.isAbsolute_append {path : Text} (root : IsRoot path) (rest : Text) :
    isAbsolute (path ++ rest) = true := by
  obtain ⟨c, slashes, rfl⟩ := List.exists_cons_of_ne_nil root.nonempty
  rw [root.all c List.mem_cons_self]
  rfl

theorem IsRoot.not_ne_getLast {path : Text} (root : IsRoot path) (nonempty : path ≠ []) :
    ¬ (path.getLast nonempty != '/') = true := by
  rw [root.all _ (List.getLast_mem nonempty)]
  exact Bool.false_ne_true

theorem IsRoot.leaf_eq {path : Text} (root : IsRoot path) : leaf path = [] :=
  List.rtakeWhile_eq_nil_iff.mpr root.not_ne_getLast

theorem IsRoot.parent_eq {path : Text} (root : IsRoot path) : parent path = path := by
  have kept : path.rdropWhile (· != '/') = path := List.rdropWhile_eq_self_iff.mpr root.not_ne_getLast
  have empty : path.rdropWhile (· == '/') = [] :=
    List.rdropWhile_eq_nil_iff.mpr fun c member => beq_iff_eq.mpr (root.all c member)
  rw [show parent path = dropSlashes (path.rdropWhile (· != '/')) from rfl, kept]
  exact if_pos (List.isEmpty_iff.mpr empty)

/-- What ends in a slash is a path of the root, which stays, or another path and slashes, which are
dropped. -/
theorem dropSlashes_cases {front : Text} (nonempty : front ≠ [])
    (last : front.getLast nonempty = '/') :
    (IsRoot front ∧ dropSlashes front = front) ∨
      dropSlashes front ≠ [] ∧ endsInSlash (dropSlashes front) = false ∧
        ∃ slashes, (∀ c ∈ slashes, c = '/') ∧ front = dropSlashes front ++ '/' :: slashes := by
  by_cases empty : front.rdropWhile (· == '/') = []
  · have all := List.rdropWhile_eq_nil_iff.mp empty
    exact Or.inl ⟨⟨nonempty, fun c member => beq_iff_eq.mp (all c member)⟩,
      if_pos (List.isEmpty_iff.mpr empty)⟩
  · have trimmed : dropSlashes front = front.rdropWhile (· == '/') :=
      if_neg (mt List.isEmpty_iff.mp empty)
    have cut : front.rdropWhile (· == '/') ++ front.rtakeWhile (· == '/') = front :=
      List.rdropWhile_append_rtakeWhile
    rw [trimmed]
    refine Or.inr ⟨empty, ?_, ?_⟩
    · rw [endsInSlash_eq_false_iff empty]
      exact fun isSlash => List.rdropWhile_last_not _ _ empty (beq_iff_eq.mpr isSlash)
    · cases slashes : front.rtakeWhile (· == '/') with
      | nil => exact absurd (beq_iff_eq.mpr last) (List.rtakeWhile_eq_nil_iff.mp slashes nonempty)
      | cons c slashes' =>
        have all (d : Char) (member : d ∈ c :: slashes') : d = '/' :=
          beq_iff_eq.mp (List.mem_rtakeWhile_imp (p := (· == '/')) (l := front) (slashes ▸ member))
        obtain rfl := all c List.mem_cons_self
        rw [slashes] at cut
        exact ⟨slashes', fun d member => all d (List.mem_cons_of_mem _ member), cut.symm⟩

theorem isAbsolute_of_not_mem {path : Text} (free : '/' ∉ path) : isAbsolute path = false := by
  unfold isAbsolute
  split
  · exact absurd List.mem_cons_self free
  · rfl

theorem isAbsolute_of_append {first rest : Text} (nonempty : first ≠ []) :
    isAbsolute (first ++ rest) = isAbsolute first := by
  cases first with
  | nil => exact absurd rfl nonempty
  | cons c first =>
    by_cases slash : c = '/'
    · rw [slash]
      rfl
    · simp [isAbsolute, slash]

/-- A path is its leaf alone, or the path of the root and the leaf, or the path of the directory that
it is in, slashes and the leaf. -/
theorem parent_cases (path : Text) :
    (parent path = [] ∧ path = leaf path) ∨
      (IsRoot (parent path) ∧ path = parent path ++ leaf path) ∨
      parent path ≠ [] ∧ endsInSlash (parent path) = false ∧
        ∃ slashes, (∀ c ∈ slashes, c = '/') ∧
          path = parent path ++ '/' :: (slashes ++ leaf path) := by
  have whole : path.rdropWhile (· != '/') ++ leaf path = path :=
    List.rdropWhile_append_rtakeWhile
  have isParent : parent path = dropSlashes (path.rdropWhile (· != '/')) := rfl
  by_cases alone : path.rdropWhile (· != '/') = []
  · rw [alone] at whole isParent
    exact Or.inl ⟨isParent, whole.symm⟩
  · have last := List.rdropWhile_last_not _ _ alone
    rw [Bool.not_eq_true, bne_eq_false_iff_eq] at last
    rcases dropSlashes_cases alone last with ⟨root, same⟩ | ⟨inked, noSlash, slashes, all, same⟩
    · rw [same] at isParent
      rw [isParent]
      exact Or.inr (Or.inl ⟨root, whole.symm⟩)
    · rw [← isParent] at inked noSlash same
      refine Or.inr (Or.inr ⟨inked, noSlash, slashes, all, ?_⟩)
      rw [same, List.append_assoc, List.cons_append] at whole
      exact whole.symm

theorem components_slashes {slashes : Text} (all : ∀ c ∈ slashes, c = '/') (rest : Text) :
    components (slashes ++ rest) = components rest := by
  induction slashes with
  | nil => rfl
  | cons c slashes inductionHypothesis =>
    obtain rfl := all c List.mem_cons_self
    exact (components_append_slash [] (slashes ++ rest)).trans
      (inductionHypothesis fun d member => all d (List.mem_cons_of_mem _ member))

variable {path : Text}

theorem IsRoot.components_eq (root : IsRoot path) : components path = [] := by
  have same := components_slashes root.all []
  rwa [List.append_nil] at same

theorem components_parent (nonempty : path ≠ []) (noSlash : endsInSlash path = false) :
    components path = components (parent path) ++ [leaf path] := by
  have isLeaf := components_of_component (leaf_ne_nil nonempty noSlash) (not_mem_leaf path)
  rcases parent_cases path with ⟨none, alone⟩ | ⟨root, whole⟩ | ⟨-, -, slashes, all, whole⟩
  · rw [none]
    exact (congrArg components alone).trans isLeaf
  · rw [root.components_eq, List.nil_append]
    exact (congrArg components whole).trans ((components_slashes root.all _).trans isLeaf)
  · rw [← isLeaf, ← components_slashes all (leaf path), ← components_append_slash, ← whole]

namespace LeadsDown

variable (down : LeadsDown path)

include down

theorem components_eq : components path = components (parent path) ++ [leaf path] :=
  components_parent down.nonempty down.noSlash

/-- The directory that a path is in is where the path begins, or the path of the directory leads
down from there too. -/
theorem parent_cases :
    (parent path = [] ∧ isAbsolute path = false) ∨
      (IsRoot (parent path) ∧ isAbsolute path = true) ∨
      LeadsDown (parent path) ∧ isAbsolute (parent path) = isAbsolute path ∧
        (parent path).length < path.length := by
  have plain (component : Text) (member : component ∈ components (Path.parent path)) :
      IsPlain component :=
    down.plain component (down.components_eq ▸ List.mem_append_left _ member)
  rcases Path.parent_cases path with
    ⟨none, alone⟩ | ⟨root, whole⟩ | ⟨inner, noSlash, slashes, -, whole⟩
  · refine Or.inl ⟨none, isAbsolute_of_not_mem ?_⟩
    rw [alone]
    exact not_mem_leaf path
  · exact Or.inr (Or.inl ⟨root, (congrArg isAbsolute whole).trans (root.isAbsolute_append _)⟩)
  · refine Or.inr (Or.inr ⟨⟨inner, noSlash, plain⟩, ?_, ?_⟩)
    · exact ((congrArg isAbsolute whole).trans (isAbsolute_of_append inner)).symm
    · have same := congrArg List.length whole
      simp only [List.length_append, List.length_cons] at same
      omega

theorem isPlain_leaf : IsPlain (leaf path) :=
  down.plain (leaf path) (down.components_eq ▸ List.mem_append_right _ List.mem_cons_self)

end LeadsDown

end Path

namespace FileTree

/-! ### Ways -/

/-- There is a directory to start from, and no file is on the way that leads on from there. -/
def IsClear (tree : FileTree) (start way : Place) : Prop :=
  tree.node? start = some .directory ∧
    ∀ front, front <+: way → ∀ octets, tree.node? (start ++ front) ≠ some (.file octets)

/-- There are directories all along a way. -/
def IsPaved (tree : FileTree) (start way : Place) : Prop :=
  ∀ front, front <+: way → tree.node? (start ++ front) = some .directory

variable {tree after : FileTree} {path : Text} {start above : Place} {leaf : Text}

theorem start_congr (tree : FileTree) {other : Text}
    (same : Path.isAbsolute other = Path.isAbsolute path) : tree.start other = tree.start path := by
  rw [FileTree.start, FileTree.start, same]

theorem IsPaved.isClear (paved : tree.IsPaved start above) : tree.IsClear start above := by
  refine ⟨by simpa using paved [] List.nil_prefix, fun front leads octets isFile => ?_⟩
  cases (paved front leads).symm.trans isFile

theorem isPaved_nil_iff : tree.IsPaved start [] ↔ tree.node? start = some .directory := by
  simp [IsPaved]

/-- Where a way begins there is a directory, or the way is not clear. -/
theorem isPaved_nil_or (tree : FileTree) (start : Place) :
    tree.IsPaved start [] ∨ ¬ tree.IsClear start [] := by
  rw [isPaved_nil_iff]
  by_cases isDirectory : tree.node? start = some .directory
  · exact Or.inl isDirectory
  · exact Or.inr fun clear => isDirectory clear.1

theorem isPaved_concat_iff :
    tree.IsPaved start (above ++ [leaf]) ↔
      tree.IsPaved start above ∧ tree.node? (start ++ (above ++ [leaf])) = some .directory := by
  simp only [IsPaved, List.prefix_concat_iff, or_imp, forall_and, forall_eq]
  exact and_comm

theorem isClear_concat_iff :
    tree.IsClear start (above ++ [leaf]) ↔
      tree.IsClear start above ∧
        ∀ octets, tree.node? (start ++ (above ++ [leaf])) ≠ some (.file octets) := by
  simp only [IsClear, List.prefix_concat_iff, or_imp, forall_and, forall_eq, and_assoc]
  exact and_congr_right fun _ => and_comm

theorem IsClear.of_prefix {way : Place} (clear : tree.IsClear start way) (leads : above <+: way) :
    tree.IsClear start above :=
  ⟨clear.1, fun front on => clear.2 front (on.trans leads)⟩

theorem Grows.isClear_iff (grows : tree.Grows after) (same : after.node? start = tree.node? start)
    {way : Place} : after.IsClear start way ↔ tree.IsClear start way := by
  simp only [IsClear, ne_eq, grows.file_iff, same]

theorem Grows.isPaved (grows : tree.Grows after) {way : Place} (paved : tree.IsPaved start way) :
    after.IsPaved start way := fun front leads => grows.directory (paved front leads)

theorem enter_eq_ok_iff {here place : Place} {component : Text} (plain : Path.IsPlain component) :
    tree.enter here component = .ok place ↔
      tree.node? here = some .directory ∧ place = here ++ [component] := by
  rw [enter]
  split
  · next absent => simp [absent]
  · next isFile => simp [isFile]
  · next isDirectory =>
    rw [if_neg plain.1, if_neg plain.2, isDirectory]
    simp [eq_comm]

theorem walk_cons_eq_ok_iff {here place : Place} {component : Text} {rest : List Text}
    (plain : Path.IsPlain component) :
    tree.walk here (component :: rest) = .ok place ↔
      tree.node? here = some .directory ∧ tree.walk (here ++ [component]) rest = .ok place := by
  rw [walk]
  split
  · next next entered =>
    obtain ⟨isDirectory, rfl⟩ := (enter_eq_ok_iff plain).mp entered
    exact (and_iff_right isDirectory).symm
  · next problem stops =>
    refine iff_of_false (by simp) ?_
    rintro ⟨isDirectory, -⟩
    cases stops.symm.trans ((enter_eq_ok_iff plain).mpr ⟨isDirectory, rfl⟩)

theorem walk_concat_eq_ok_iff {here place : Place}
    (plain : ∀ component ∈ above ++ [leaf], Path.IsPlain component) :
    tree.walk here (above ++ [leaf]) = .ok place ↔
      place = here ++ (above ++ [leaf]) ∧
        ∀ front, front <+: above → tree.node? (here ++ front) = some .directory := by
  induction above generalizing here with
  | nil =>
    rw [List.nil_append, walk_cons_eq_ok_iff (plain leaf List.mem_cons_self), walk]
    simp only [Except.ok.injEq, List.prefix_nil, forall_eq, List.append_nil]
    rw [and_comm, eq_comm]
  | cons component above inductionHypothesis =>
    obtain ⟨first, later⟩ := List.forall_mem_cons.mp plain
    rw [List.cons_append, walk_cons_eq_ok_iff first, inductionHypothesis later]
    constructor
    · rintro ⟨isDirectory, rfl, behind⟩
      refine ⟨by simp, ?_⟩
      intro front leads
      rcases List.prefix_cons_iff.mp leads with rfl | ⟨rest, rfl, leadsOn⟩
      · simpa using isDirectory
      · simpa using behind rest leadsOn
    · rintro ⟨rfl, paved⟩
      refine ⟨by simpa using paved [] List.nil_prefix, by simp, ?_⟩
      intro front leads
      simpa using paved (component :: front) ((List.prefix_cons_inj component).mpr leads)

theorem place_eq_ok_iff (down : Path.LeadsDown path) {place : Place} :
    tree.place path = .ok place ↔
      place = tree.start path ++ Path.components path ∧
        tree.IsPaved (tree.start path) (Path.components (Path.parent path)) := by
  have plain := down.plain
  rw [FileTree.place, if_neg (mt List.isEmpty_iff.mp down.nonempty)]
  rw [down.components_eq] at plain ⊢
  exact walk_concat_eq_ok_iff plain

/-! ### Making directories on the way down -/

/-- A way has been paved, or it could not be because of a file or for want of a directory to start
from. Nothing has happened beside the way. -/
structure Paves (before : FileTree) (taken : FileTree × Except FileFault Unit)
    (start way : Place) : Prop where
  ok_iff : taken.2 = .ok () ↔ before.IsClear start way
  paved : taken.2 = .ok () → taken.1.IsPaved start way
  beside : ∀ other, (∀ front, front <+: way → front ≠ [] → other ≠ start ++ front) →
    taken.1.node? other = before.node? other

theorem Paves.node?_start {taken : FileTree × Except FileFault Unit} {way : Place}
    (paves : tree.Paves taken start way) : taken.1.node? start = tree.node? start :=
  paves.beside start fun _ _ inner same => inner (List.self_eq_append_right.mp same)

/-- Paving a way that has been paved in part. -/
theorem Paves.onwards {middle : FileTree} {result : Except FileFault Unit}
    {taken : FileTree × Except FileFault Unit} {way : Place} (paves : middle.Paves taken start way)
    (earlier : tree.Paves (middle, result) start above) (grows : tree.Grows middle)
    (leads : above <+: way) : tree.Paves taken start way where
  ok_iff := paves.ok_iff.trans (grows.isClear_iff earlier.node?_start)
  paved := paves.paved
  beside other apart :=
    (paves.beside other apart).trans
      (earlier.beside other fun front on => apart front (on.trans leads))

theorem not_prefix_above : ¬ above ++ [leaf] <+: above := by
  intro leads
  have shorter := leads.length_le
  rw [List.length_append, List.length_singleton] at shorter
  omega

section

variable (down : Path.LeadsDown path)

include down

/-- Of the way to a directory, only the last component is made. -/
theorem paves_ensureDirectory (tree : FileTree)
    (above : tree.IsPaved (tree.start path) (Path.components (Path.parent path)) ∨
      ¬ tree.IsClear (tree.start path) (Path.components (Path.parent path))) :
    tree.Paves (tree.ensureDirectory path) (tree.start path) (Path.components path) := by
  have isComponents := down.components_eq
  cases leads : tree.place path with
  | error problem =>
    have blocked : ¬ tree.IsClear (tree.start path) (Path.components (Path.parent path)) := by
      refine above.resolve_left ?_
      intro paved
      cases leads.symm.trans ((place_eq_ok_iff down).mpr ⟨rfl, paved⟩)
    have fails : tree.ensureDirectory path = (tree, .error ⟨problem, path⟩) := by
      simp [ensureDirectory, makeDirectory, isDirectory, leads]
    rw [fails]
    refine ⟨iff_of_false (by simp) ?_, by simp, fun _ _ => rfl⟩
    rw [isComponents, isClear_concat_iff]
    exact fun clear => blocked clear.1
  | ok place =>
    obtain ⟨rfl, paved⟩ := (place_eq_ok_iff down).mp leads
    generalize tree.start path = start at leads paved ⊢
    have clear_iff : tree.IsClear start (Path.components path) ↔
        ∀ octets, tree.node? (start ++ Path.components path) ≠ some (.file octets) := by
      rw [isComponents, isClear_concat_iff, and_iff_right paved.isClear]
    cases there : tree.node? (start ++ Path.components path) with
    | none =>
      have makes : tree.ensureDirectory path =
          (tree.put (start ++ Path.components path) .directory, .ok ()) := by
        simp [ensureDirectory, makeDirectory, leads, there]
      have inner : Path.components path ≠ [] := by simp [isComponents]
      rw [makes]
      refine ⟨iff_of_true rfl (clear_iff.mpr (by simp [there])), fun _ => ?_, ?_⟩
      · have stays := (grows_put_directory there).isPaved paved
        have made := tree.node?_put_self (List.append_ne_nil_of_right_ne_nil start inner) .directory
        rw [isComponents] at stays made ⊢
        exact isPaved_concat_iff.mpr ⟨stays, made⟩
      · intro other beside
        exact tree.node?_put_of_ne .directory (beside _ List.prefix_rfl inner)
    | some node =>
      cases node with
      | directory =>
        have finds : tree.ensureDirectory path = (tree, .ok ()) := by
          simp [ensureDirectory, makeDirectory, isDirectory, leads, there]
        rw [finds]
        refine ⟨iff_of_true rfl (clear_iff.mpr (by simp [there])), fun _ => ?_, fun _ _ => rfl⟩
        rw [isComponents] at there ⊢
        exact isPaved_concat_iff.mpr ⟨paved, there⟩
      | file octets =>
        have fails : tree.ensureDirectory path = (tree, .error ⟨.taken, path⟩) := by
          simp [ensureDirectory, makeDirectory, isDirectory, leads, there]
        rw [fails]
        refine ⟨iff_of_false (by simp) ?_, by simp, fun _ _ => rfl⟩
        rw [clear_iff]
        exact fun clear => clear octets there

/-- A directory of which something is said to be there is at the end of a paved way, or something
else is. -/
theorem isPaved_or_of_has (there : tree.has path = true) :
    tree.IsPaved (tree.start path) (Path.components path) ∨
      ¬ tree.IsClear (tree.start path) (Path.components path) := by
  rw [has] at there
  split at there
  · cases there
  · next place leads =>
    obtain ⟨rfl, paved⟩ := (place_eq_ok_iff down).mp leads
    rw [down.components_eq, isPaved_concat_iff, isClear_concat_iff, ← down.components_eq]
    split at there
    · cases there
    · next isDirectory => exact Or.inl ⟨paved, isDirectory⟩
    · next octets isFile => exact Or.inr fun clear => clear.2 octets isFile

end

section

variable (root : Path.IsRoot path)

include root

theorem start_of_isRoot (tree : FileTree) : tree.start path = [] := by
  have absolute := root.isAbsolute_append []
  rw [List.append_nil] at absolute
  rw [FileTree.start, if_pos absolute]

theorem place_of_isRoot (tree : FileTree) : tree.place path = .ok [] := by
  rw [FileTree.place, if_neg (mt List.isEmpty_iff.mp root.nonempty), start_of_isRoot root,
    root.components_eq]
  rfl

theorem has_of_isRoot (tree : FileTree) : tree.has path = true := by
  rw [has, place_of_isRoot root]
  rfl

/-- Nothing needs to be made at the root. -/
theorem makeDirectories_of_isRoot (tree : FileTree) :
    tree.makeDirectories path = (tree, .ok ()) := by
  have there : tree.ensureDirectory path = (tree, .ok ()) := by
    simp [ensureDirectory, makeDirectory, isDirectory, place_of_isRoot root, node?]
  rw [makeDirectories]
  cases path.length with
  | zero => exact there
  | succ fuel =>
    rw [ensureAll]
    simp only [root.leaf_eq, root.parent_eq, List.isEmpty_nil, if_true, Bool.or_true, Bool.true_or]
    exact there

end

/-- The directory that is home is never made. -/
theorem paves_home (tree : FileTree) : tree.Paves (tree.makeDirectories ['.']) tree.home [] := by
  have checked : tree.makeDirectories ['.'] = tree.ensureDirectory ['.'] := rfl
  have leads : tree.place ['.'] = tree.walk tree.home [['.']] := rfl
  have unpaved (result : Except FileFault Unit) (fails : result ≠ .ok ())
      (absent : tree.node? tree.home ≠ some .directory) : tree.Paves (tree, result) tree.home [] :=
    ⟨iff_of_false fails fun clear => absent clear.1, fun made => absurd made fails, fun _ _ => rfl⟩
  rw [checked]
  cases home : tree.node? tree.home with
  | none =>
    have fails : tree.ensureDirectory ['.'] = (tree, .error ⟨.notFound, ['.']⟩) := by
      simp [ensureDirectory, makeDirectory, isDirectory, leads, walk, enter, home]
    rw [fails]
    exact unpaved _ (by simp) (by simp [home])
  | some node =>
    cases node with
    | file octets =>
      have fails : tree.ensureDirectory ['.'] = (tree, .error ⟨.notDirectory, ['.']⟩) := by
        simp [ensureDirectory, makeDirectory, isDirectory, leads, walk, enter, home]
      rw [fails]
      exact unpaved _ (by simp) (by simp [home])
    | directory =>
      have finds : tree.ensureDirectory ['.'] = (tree, .ok ()) := by
        simp [ensureDirectory, makeDirectory, isDirectory, leads, walk, enter, home]
      have paved := isPaved_nil_iff.mpr home
      rw [finds]
      exact ⟨iff_of_true rfl paved.isClear, fun _ => paved, fun _ _ => rfl⟩

/-- The directories on a way are made from the outermost on, unless there is a file. -/
theorem paves_ensureAll (down : Path.LeadsDown path) (fuel : Nat) (enough : path.length ≤ fuel)
    (tree : FileTree) :
    tree.Paves (ensureAll fuel tree path) (tree.start path) (Path.components path) := by
  induction fuel generalizing path with
  | zero => exact absurd (List.length_eq_zero_iff.mp (Nat.le_zero.mp enough)) down.nonempty
  | succ fuel inductionHypothesis =>
    have named : (Path.leaf path).isEmpty = false := by
      simpa using Path.leaf_ne_nil down.nonempty down.noSlash
    rw [ensureAll]
    simp only [named, Bool.false_eq_true, if_false, Bool.or_false, if_neg down.isPlain_leaf.1]
    rcases down.parent_cases with ⟨outermost, -⟩ | ⟨root, -⟩ | ⟨downAbove, sameStart, shorter⟩
    · rw [outermost]
      exact paves_ensureDirectory down tree (outermost ▸ isPaved_nil_or tree _)
    · rw [has_of_isRoot root, Bool.or_true]
      refine paves_ensureDirectory down tree ?_
      rw [root.components_eq]
      exact isPaved_nil_or tree _
    · have inner : (Path.parent path).isEmpty = false := by simpa using downAbove.nonempty
      rw [inner, Bool.false_or]
      by_cases there : tree.has (Path.parent path) = true
      · rw [if_pos there]
        exact paves_ensureDirectory down tree
          (tree.start_congr sameStart ▸ isPaved_or_of_has downAbove there)
      · have paves := inductionHypothesis downAbove
          (Nat.le_of_lt_succ (Nat.lt_of_lt_of_le shorter enough))
        have grows := grows_ensureAll fuel tree (Path.parent path)
        have leads : Path.components (Path.parent path) <+: Path.components path :=
          ⟨[Path.leaf path], down.components_eq.symm⟩
        rw [tree.start_congr sameStart] at paves
        rw [if_neg there]
        cases made : ensureAll fuel tree (Path.parent path) with
        | mk middle result =>
          rw [made] at paves grows
          have onwards
              (state : middle.IsPaved (tree.start path) (Path.components (Path.parent path)) ∨
                ¬ middle.IsClear (tree.start path) (Path.components (Path.parent path))) :
              tree.Paves (middle.ensureDirectory path) (tree.start path) (Path.components path) := by
            have further := paves_ensureDirectory down middle (grows.start path ▸ state)
            rw [grows.start path] at further
            exact further.onwards paves grows leads
          cases result with
          | ok _ => exact onwards (Or.inl (paves.paved rfl))
          | error fault =>
            have blocked : ¬ tree.IsClear (tree.start path)
                (Path.components (Path.parent path)) := by
              rw [← paves.ok_iff]
              simp
            dsimp only
            by_cases isTaken : fault.problem = .taken
            · -- Going on as if all were well only finds the file once more.
              rw [if_pos isTaken]
              exact onwards (Or.inr (mt (grows.isClear_iff paves.node?_start).mp blocked))
            · rw [if_neg isTaken]
              refine ⟨iff_of_false (by simp) ?_, by simp, ?_⟩
              · exact fun clear => blocked (clear.of_prefix leads)
              · intro other apart
                exact paves.beside other fun front on => apart front (on.trans leads)

end FileTree

/-! ### Emitting -/

namespace Folder

variable {folder : Folder} {tree after : FileTree} {name text : Text}

theorem emit_eq_ok_iff :
    folder.emit tree name text = (after, .ok ()) ↔
      (tree.makeDirectories (folder.directory name)).2 = .ok () ∧
        (tree.makeDirectories (folder.directory name)).1.write (folder.path name) text.octets =
          .ok after := by
  rw [emit]
  split
  · next middle fault fails => simp [fails]
  · next middle made =>
    rw [made]
    split
    · next written => simp [written]
    · next problem fails => simp [fails]

/-- The directories on the way to the file of a unit are made, unless there is a file. -/
theorem paves_directory (down : Path.LeadsDown (folder.path name)) (tree : FileTree) :
    tree.Paves (tree.makeDirectories (folder.directory name)) (tree.start (folder.path name))
      (Path.components (Path.parent (folder.path name))) := by
  rw [directory]
  rcases down.parent_cases with ⟨outermost, relative⟩ | ⟨root, absolute⟩ | ⟨downAbove, sameStart, -⟩
  · rw [outermost, FileTree.start, relative]
    exact tree.paves_home
  · have inner : (Path.parent (folder.path name)).isEmpty = false := by simpa using root.nonempty
    have paved : tree.IsPaved [] [] := FileTree.isPaved_nil_iff.mpr rfl
    simp only [inner, Bool.false_eq_true, if_false]
    rw [FileTree.start, absolute, root.components_eq, FileTree.makeDirectories_of_isRoot root]
    exact ⟨iff_of_true rfl paved.isClear, fun _ => paved, fun _ _ => rfl⟩
  · have inner : (Path.parent (folder.path name)).isEmpty = false := by
      simpa using downAbove.nonempty
    simp only [inner, Bool.false_eq_true, if_false]
    rw [← tree.start_congr sameStart]
    exact FileTree.paves_ensureAll downAbove _ (Nat.le_refl _) tree

/-- What is emitted along a way down is refused only if a file is on the way, a directory is where
the file would be, or there is none to start from. -/
theorem emit_ok_iff_of_leadsDown (down : Path.LeadsDown (folder.path name)) :
    (folder.emit tree name text).2 = .ok () ↔
      tree.IsClear (tree.start (folder.path name))
          (Path.components (Path.parent (folder.path name))) ∧
        tree.node? (tree.start (folder.path name) ++ Path.components (folder.path name)) ≠
          some .directory := by
  have paves := paves_directory down tree
  have begins := (tree.grows_makeDirectories (folder.directory name)).start (folder.path name)
  have untouched := paves.beside
    (tree.start (folder.path name) ++ Path.components (folder.path name)) fun front on _ same => by
      rw [← List.append_cancel_left same, down.components_eq] at on
      exact FileTree.not_prefix_above on
  constructor
  · intro emits
    obtain ⟨made, written⟩ := emit_eq_ok_iff.mp (Prod.ext rfl emits)
    obtain ⟨place, leads, -, free, -⟩ := FileTree.write_eq_ok_iff.mp written
    obtain ⟨rfl, -⟩ := (FileTree.place_eq_ok_iff down).mp leads
    rw [begins, untouched] at free
    exact ⟨paves.ok_iff.mp made, free⟩
  · rintro ⟨clear, free⟩
    have made := paves.ok_iff.mpr clear
    have leads := (FileTree.place_eq_ok_iff down).mpr ⟨rfl, begins ▸ paves.paved made⟩
    rw [← untouched, ← begins] at free
    obtain ⟨after, written⟩ : ∃ after,
        (tree.makeDirectories (folder.directory name)).1.write (folder.path name) text.octets =
          .ok after := ⟨_, FileTree.write_eq_ok_iff.mpr ⟨_, leads, down.noSlash, free, rfl⟩⟩
    exact congrArg Prod.snd (emit_eq_ok_iff.mpr ⟨made, written⟩)

theorem emit_eq_ok (emits : folder.emit tree name text = (after, .ok ())) :
    folder.read after name = .ok text.unifyLineEnds ∧
      ∃ place, after.place (folder.path name) = .ok place ∧
        after.node? place = some (.file text.octets) ∧
        ∀ other ≠ place, tree.KeepsAt after other := by
  obtain ⟨-, written⟩ := emit_eq_ok_iff.mp emits
  obtain ⟨reads, place, leads, stands, others⟩ := FileTree.read_of_write written
  refine ⟨?_, place, leads, stands, ?_⟩
  · simp only [Folder.read, FileTree.readText, reads, decode_octets]
  · intro other different
    rw [FileTree.KeepsAt, others other different]
    exact (tree.grows_makeDirectories (folder.directory name)).keeps other

theorem emit_eq_error {failure : Failure}
    (fails : folder.emit tree name text = (after, .error failure)) :
    (∃ fault, failure = folder.emitFailure name fault) ∧ tree.Grows after := by
  have grows := tree.grows_makeDirectories (folder.directory name)
  rw [emit] at fails
  split at fails
  · next middle fault made =>
    cases fails
    rw [made] at grows
    exact ⟨⟨fault, rfl⟩, grows⟩
  · next middle made =>
    rw [made] at grows
    split at fails
    · cases fails
    · next problem _ =>
      cases fails
      exact ⟨⟨⟨problem, folder.path name⟩, rfl⟩, grows⟩

/-- What is emitted can be read, with line ends unified, and no other file is touched. What cannot
be emitted touches no file at all; directories may have been made in either case. Along a path whose
components lead down, a unit is emitted unless a file is on the way, a directory is where the file
would be, or there is no directory to start from, which there always is for an absolute path. -/
theorem read_emit (folder : Folder) (tree : FileTree) (name text : Text) :
    (∀ after, folder.emit tree name text = (after, .ok ()) →
      folder.read after name =
        .ok (Text.replaceAll ['\r'] ['\n'] (Text.replaceAll ['\r', '\n'] ['\n'] text)) ∧
      ('\r' ∉ text → folder.read after name = .ok text) ∧
      ∃ place, after.place (folder.path name) = .ok place ∧
        after.node? place = some (.file text.octets) ∧
        ∀ other ≠ place, tree.KeepsAt after other) ∧
    (∀ after failure, folder.emit tree name text = (after, .error failure) →
      (∃ fault, failure = folder.emitFailure name fault) ∧ ∀ place, tree.KeepsAt after place) ∧
    ((∀ component ∈ Path.components (folder.path name), Path.IsPlain component) →
      ((folder.emit tree name text).2 = .ok () ↔
        folder.path name ≠ [] ∧ Path.endsInSlash (folder.path name) = false ∧
        tree.node? (tree.start (folder.path name)) = some .directory ∧
        (∀ front, front <+: Path.components (folder.path name) →
          front ≠ Path.components (folder.path name) →
          ∀ octets, tree.node? (tree.start (folder.path name) ++ front) ≠ some (.file octets)) ∧
        tree.node? (tree.start (folder.path name) ++ Path.components (folder.path name)) ≠
          some .directory)) := by
  refine ⟨?_, fun after failure fails => ?_, ?_⟩
  · intro after emits
    obtain ⟨reads, stands⟩ := emit_eq_ok emits
    refine ⟨?_, ?_, stands⟩
    · rw [reads, Text.unifyLineEnds_eq_replaceAll]
    · intro free
      rw [reads, Text.unifyLineEnds_of_not_mem free]
  · exact ⟨(emit_eq_error fails).1, (emit_eq_error fails).2.keeps⟩
  · intro plain
    constructor
    · intro emits
      obtain ⟨-, written⟩ := emit_eq_ok_iff.mp (Prod.ext rfl emits)
      obtain ⟨place, leads, noSlash, -⟩ := FileTree.write_eq_ok_iff.mp written
      have nonempty : folder.path name ≠ [] := by
        intro empty
        rw [empty] at leads
        cases leads
      have down : Path.LeadsDown (folder.path name) := ⟨nonempty, noSlash, plain⟩
      obtain ⟨clear, free⟩ := (emit_ok_iff_of_leadsDown down).mp emits
      refine ⟨nonempty, noSlash, clear.1, ?_, free⟩
      intro front leadsOn proper
      rw [down.components_eq] at leadsOn proper
      exact clear.2 front ((List.prefix_concat_iff.mp leadsOn).resolve_left proper)
    · rintro ⟨nonempty, noSlash, rooted, clear, free⟩
      have down : Path.LeadsDown (folder.path name) := ⟨nonempty, noSlash, plain⟩
      refine (emit_ok_iff_of_leadsDown down).mpr ⟨⟨rooted, ?_⟩, free⟩
      intro front leadsOn
      rw [down.components_eq] at clear
      refine clear front (leadsOn.trans (List.prefix_append _ _)) ?_
      rintro rfl
      exact FileTree.not_prefix_above leadsOn

/-- Units below a directory of the one that is home. -/
def henFolder : Folder := ⟨"out".toList, ".java".toList⟩

/-- The same directory by its absolute path. -/
def penFolder : Folder := ⟨"/pen/out".toList, ".java".toList⟩

/-- The directory that is home, the directory below it, and a file in that which has no extension. -/
def henTree : FileTree where
  entries := [(["pen".toList], .directory), (["pen".toList, "out".toList], .directory),
    (["pen".toList, "out".toList, ['c']], .file [7])]
  home := ["pen".toList]

/-- A unit is emitted by a relative path, and by an absolute one, and read; another one is refused.
The file is there before and after. -/
theorem read_emit_hen :
    let emitted := henFolder.emit henTree "a.Hen".toList "x\r\ny\rz".toList
    let straight := penFolder.emit henTree "a.Hen".toList "x".toList
    let refused := penFolder.emit henTree "c.Hen".toList "x".toList
    henFolder.read emitted.1 "a.Hen".toList = .ok "x\ny\nz".toList ∧
      henTree.KeepsAt emitted.1 ["pen".toList, "out".toList, ['c']] ∧
      penFolder.read straight.1 "a.Hen".toList = .ok "x".toList ∧
      refused.2 ≠ .ok () ∧ henTree.KeepsAt refused.1 ["pen".toList, "out".toList, ['c']] := by
  intro emitted straight refused
  obtain ⟨onSuccess, -, -⟩ := read_emit henFolder henTree "a.Hen".toList "x\r\ny\rz".toList
  obtain ⟨onStraight, -, -⟩ := read_emit penFolder henTree "a.Hen".toList "x".toList
  obtain ⟨-, onFailure, onWay⟩ := read_emit penFolder henTree "c.Hen".toList "x".toList
  obtain ⟨reads, -, place, leads, -, others⟩ := onSuccess emitted.1 rfl
  have isPlace : emitted.1.place (henFolder.path "a.Hen".toList) =
      .ok ["pen".toList, "out".toList, ['a'], "Hen.java".toList] := rfl
  cases leads.symm.trans isPlace
  have fails : refused.2 ≠ .ok () := by
    intro emits
    have plain : ∀ component ∈ Path.components (penFolder.path "c.Hen".toList),
        Path.IsPlain component := by decide +kernel
    obtain ⟨-, -, -, clear, -⟩ := (onWay plain).mp emits
    exact clear ["pen".toList, "out".toList, ['c']] (by decide) (by decide) [7] rfl
  refine ⟨reads, others _ (by decide), (onStraight straight.1 rfl).2.1 (by decide), fails, ?_⟩
  cases outcome : refused.2 with
  | ok _ => exact absurd outcome fails
  | error failure => exact (onFailure refused.1 failure (Prod.ext rfl outcome)).2 _

end Folder

end Stencil
