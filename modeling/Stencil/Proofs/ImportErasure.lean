/-
This file proves what erasing the imports of a name makes of a text. The text is cut into blocks:
blank lines, the import statements of the name, and the other lines. A line counts as one of the
others if no statement begins with it, and since statements do not overlap, every statement that
begins at the start of a line is a block. One round of erasing takes the blank lines up to the next
other block and that block, and, if this is a statement, the blank lines behind it; so everything
follows from three equations, by an induction that goes through the blocks in the same strides.
-/
import Stencil.Proofs.ImportStatements

namespace Stencil

namespace Import

/-! ### Blocks -/

/-- A part of a text that erasing treats as one: a blank line with its end, an import statement, or
another line. -/
inductive Block where
  | blank (line : Text)
  | statement (part : Text)
  | kept (line : Text)

namespace Block

def text : Block → Text
  | .blank line => line
  | .statement part => part
  | .kept line => line

def isBlank : Block → Bool
  | .blank _ => true
  | _ => false

def isStatement : Block → Bool
  | .statement _ => true
  | _ => false

def isKept : Block → Bool
  | .kept _ => true
  | _ => false

end Block

/-- The text that blocks are cut from. -/
def textOf (blocks : List Block) : Text := blocks.flatMap Block.text

/-- A blank line with its end. -/
def IsBlankLine (line : Text) : Prop :=
  ∃ blanks, line = blanks ++ ['\n'] ∧ ∀ c ∈ blanks, isInlineBlank c = true

/-- A line with its end, or the last line of a text without one. -/
def IsLine (line rest : Text) : Prop :=
  (∃ content, line = content ++ ['\n'] ∧ '\n' ∉ content) ∨ line ≠ [] ∧ '\n' ∉ line ∧ rest = []

/-- A statement stands at the front of the text. -/
def Opens (segments : List Text) (text : Text) : Prop :=
  ∃ (statement : Statement segments) (rest : Text),
    text = statement.text ++ rest ∧ statement.Before rest

/-- A block is what it says, when `rest` follows it. -/
def Block.Fits (segments : List Text) (rest : Text) : Block → Prop
  | .blank line => IsBlankLine line
  | .statement part => ∃ statement : Statement segments, statement.text = part ∧
      statement.Before rest
  | .kept line => IsLine line rest ∧ ¬ IsBlankLine line ∧ ¬ Opens segments (line ++ rest)

/-- All blocks are what they say. -/
def Fit (segments : List Text) : List Block → Prop
  | [] => True
  | block :: rest => block.Fits segments (textOf rest) ∧ Fit segments rest

theorem textOf_nil : textOf [] = [] := rfl

theorem textOf_cons (block : Block) (rest : List Block) :
    textOf (block :: rest) = block.text ++ textOf rest := rfl

theorem textOf_singleton (block : Block) : textOf [block] = block.text := List.append_nil _

theorem textOf_append (front back : List Block) :
    textOf (front ++ back) = textOf front ++ textOf back :=
  List.flatMap_append

variable {segments : List Text}

theorem Fit.of_append {front back : List Block} (fit : Fit segments (front ++ back)) :
    Fit segments back := by
  induction front with
  | nil => exact fit
  | cons block front inductionHypothesis => exact inductionHypothesis fit.2

theorem Statement.ink_mem_text (statement : Statement segments) : 'i' ∈ statement.text := by
  rw [Statement.text]
  exact List.mem_append_right _ (List.mem_append_left _ (by decide))

theorem Statement.text_ne_nil (statement : Statement segments) : statement.text ≠ [] :=
  List.ne_nil_of_mem statement.ink_mem_text

theorem Block.Fits.text_ne_nil {block : Block} {rest : Text} (fits : block.Fits segments rest) :
    block.text ≠ [] := by
  cases block with
  | blank line =>
    obtain ⟨blanks, same, -⟩ := fits
    rw [Block.text, same]
    exact List.append_ne_nil_of_right_ne_nil _ (List.cons_ne_nil _ _)
  | statement part =>
    obtain ⟨statement, same, -⟩ := fits
    rw [Block.text, ← same]
    exact statement.text_ne_nil
  | kept line =>
    rcases fits.1 with ⟨content, same, -⟩ | ⟨nonempty, -⟩
    · rw [Block.text, same]
      exact List.append_ne_nil_of_right_ne_nil _ (List.cons_ne_nil _ _)
    · exact nonempty

theorem Block.Fits.exists_inline {block : Block} {rest : Text} (fits : block.Fits segments rest)
    (blank : block.isBlank = true) :
    ∃ blanks, block.text = blanks ++ ['\n'] ∧ ∀ c ∈ blanks, isInlineBlank c = true := by
  cases block with
  | blank line => exact fits
  | statement part => cases blank
  | kept line => cases blank

theorem Block.isBlank_of_isKept {block : Block} (kept : block.isKept = true) :
    block.isBlank = false := by
  cases block with
  | blank line => cases kept
  | statement part => rfl
  | kept line => rfl

theorem Fit.eq_nil {blocks : List Block} (fit : Fit segments blocks) (empty : textOf blocks = []) :
    blocks = [] := by
  cases blocks with
  | nil => rfl
  | cons block rest => exact absurd (List.append_eq_nil_iff.mp empty).1 fit.1.text_ne_nil

theorem opens_iff (isName : IsName segments) {text : Text} :
    Opens segments text ↔ (afterStatement? segments text).isSome = true := by
  rw [Option.isSome_iff_exists]
  simp only [afterStatement?_eq_some_iff isName]
  exact exists_comm

theorem fits_statement_iff (isName : IsName segments) {part rest : Text} :
    (Block.statement part).Fits segments rest ↔
      afterStatement? segments (part ++ rest) = some rest := by
  rw [afterStatement?_eq_some_iff isName]
  constructor
  · rintro ⟨statement, rfl, before⟩
    exact ⟨statement, rfl, before⟩
  · rintro ⟨statement, split, before⟩
    exact ⟨statement, (List.append_cancel_right split).symm, before⟩

theorem not_isBlankLine_of_mem {line : Text} {c : Char} (member : c ∈ line)
    (ink : isBlank c = false) : ¬ IsBlankLine line := by
  rintro ⟨blanks, rfl, inline⟩
  rcases List.mem_append.mp member with inside | last
  · rw [isBlank_of_isInlineBlank (inline c inside)] at ink
    cases ink
  · rw [List.mem_singleton.mp last] at ink
    cases ink

/-- Every text can be cut into blocks. -/
theorem exists_fit (segments : List Text) (text : Text) :
    ∃ blocks, textOf blocks = text ∧ Fit segments blocks := by
  induction length : text.length using Nat.strong_induction_on generalizing text with
  | _ bound inductionHypothesis =>
    -- One block is cut off, and what follows it is shorter.
    have after {block : Block} {rest : Text} (split : text = block.text ++ rest)
        (fits : block.Fits segments rest) :
        ∃ blocks, textOf blocks = text ∧ Fit segments blocks := by
      have shorter : rest.length < bound := by
        have positive := List.length_pos_iff.mpr fits.text_ne_nil
        rw [← length, split, List.length_append]
        omega
      obtain ⟨blocks, rfl, fit⟩ := inductionHypothesis _ shorter rest rfl
      exact ⟨block :: blocks, split.symm, fits, fit⟩
    by_cases empty : text = []
    · exact ⟨[], empty.symm, trivial⟩
    by_cases opens : Opens segments text
    · obtain ⟨statement, rest, split, before⟩ := opens
      exact @after (.statement statement.text) rest split ⟨statement, rfl, before⟩
    by_cases broken : '\n' ∈ text
    · obtain ⟨content, rest, split, free⟩ := List.eq_append_cons_of_mem broken
      have lined : text = (content ++ ['\n']) ++ rest := by
        rw [split, List.append_assoc, List.singleton_append]
      by_cases blank : IsBlankLine (content ++ ['\n'])
      · exact @after (.blank (content ++ ['\n'])) rest lined blank
      · refine @after (.kept (content ++ ['\n'])) rest lined
          ⟨Or.inl ⟨content, rfl, free⟩, blank, ?_⟩
        rw [← lined]
        exact opens
    · have noEnd : ¬ IsBlankLine text := by
        rintro ⟨blanks, ended, -⟩
        exact broken (ended ▸ List.mem_append_right _ List.mem_cons_self)
      refine @after (.kept text) [] (List.append_nil text).symm
        ⟨Or.inr ⟨empty, broken, rfl⟩, noEnd, ?_⟩
      rw [List.append_nil]
      exact opens

/-! ### Blank lines and lines -/

theorem blankLines_blank {blanks : Text} (more : Text) (blank : ∀ c ∈ blanks, isBlank c = true) :
    blankLines (blanks ++ '\n' :: more) = blanks ++ '\n' :: blankLines more := by
  have stops : ('\n' :: blanks.reverse).dropWhile (· != '\n') = '\n' :: blanks.reverse := rfl
  rw [blankLines, List.takeWhile_append_of_pos blank, List.takeWhile_cons_of_pos (by decide),
    List.reverse_append, List.reverse_cons, List.append_assoc, List.singleton_append,
    List.dropWhile_append, stops]
  split
  · next empty =>
    rw [blankLines, List.isEmpty_iff.mp empty, List.reverse_cons, List.reverse_reverse]
    rfl
  · rw [blankLines, List.reverse_append, List.reverse_cons, List.reverse_reverse,
      List.append_assoc, List.singleton_append]

theorem blankLines_eq_nil {text : Text} (free : '\n' ∉ text.takeWhile isBlank) :
    blankLines text = [] := by
  rw [blankLines, List.reverse_eq_nil_iff, List.dropWhile_eq_nil_iff]
  intro c member
  rw [bne_iff_ne]
  rintro rfl
  exact free (List.mem_reverse.mp member)

theorem lineFeed_not_mem_takeWhile {first : Text} (more : Text) (free : '\n' ∉ first)
    (ink : ∃ c ∈ first, isBlank c = false) : '\n' ∉ (first ++ more).takeWhile isBlank := by
  induction first with
  | nil => simp at ink
  | cons c first inductionHypothesis =>
    rw [List.mem_cons, not_or] at free
    rw [List.cons_append]
    cases blank : isBlank c with
    | false =>
      rw [List.takeWhile_cons_of_neg (Bool.eq_false_iff.mp blank)]
      exact List.not_mem_nil
    | true =>
      obtain ⟨d, member, inked⟩ := ink
      have later : d ∈ first := by
        rcases List.mem_cons.mp member with rfl | later
        · rw [blank] at inked
          cases inked
        · exact later
      rw [List.takeWhile_cons_of_pos blank, List.mem_cons, not_or]
      exact ⟨free.1, inductionHypothesis free.2 ⟨d, later, inked⟩⟩

/-- No blank line ends within the blanks before a block that is none. -/
theorem Block.Fits.blankLines_eq_nil {block : Block} {rest : Text}
    (fits : block.Fits segments rest) (noBlank : block.isBlank = false) :
    blankLines (block.text ++ rest) = [] := by
  apply Import.blankLines_eq_nil
  cases block with
  | blank line => cases noBlank
  | statement part =>
    obtain ⟨statement, rfl, -⟩ := fits
    rw [Block.text, statement.text_eq, List.append_assoc]
    refine lineFeed_not_mem_takeWhile _ statement.lineFeed_not_mem_lead ⟨'i', ?_, by decide⟩
    exact List.mem_append_right _ (List.mem_append_left _ (by decide))
  | kept line =>
    obtain ⟨⟨content, rfl, free⟩ | ⟨-, free, rfl⟩, noBlank, -⟩ := fits
    · rw [Block.text, List.append_assoc]
      refine lineFeed_not_mem_takeWhile _ free ?_
      by_contra allBlank
      refine noBlank ⟨content, rfl, fun c member => ?_⟩
      have blank : Stencil.isBlank c = true := by
        by_contra ink
        exact allBlank ⟨c, member, Bool.eq_false_iff.mpr ink⟩
      rw [isInlineBlank, blank, Bool.true_and, bne_iff_ne]
      rintro rfl
      exact free member
    · rw [Block.text, List.append_nil]
      exact fun member => free ((List.takeWhile_prefix _).subset member)

theorem blankLines_textOf {before rest : List Block} (fit : Fit segments (before ++ rest))
    (blank : ∀ block ∈ before, block.isBlank = true)
    (stops : ∀ block, rest.head? = some block → block.isBlank = false) :
    blankLines (textOf (before ++ rest)) = textOf before := by
  induction before with
  | nil =>
    cases rest with
    | nil => rfl
    | cons block rest => exact fit.1.blankLines_eq_nil (stops block rfl)
  | cons block before inductionHypothesis =>
    obtain ⟨here, later⟩ := List.forall_mem_cons.mp blank
    obtain ⟨blanks, same, inline⟩ := fit.1.exists_inline here
    have lines := blankLines_blank (textOf (before ++ rest)) (blank_of_inline inline)
    rw [inductionHypothesis fit.2 later] at lines
    rw [List.cons_append, textOf_cons, textOf_cons, same, List.append_assoc, List.append_assoc]
    exact lines

theorem lineFeeds_textOf {before rest : List Block} (fit : Fit segments (before ++ rest))
    (blank : ∀ block ∈ before, block.isBlank = true) :
    (textOf before).lineFeeds = before.length := by
  induction before with
  | nil => rfl
  | cons block before inductionHypothesis =>
    obtain ⟨here, later⟩ := List.forall_mem_cons.mp blank
    obtain ⟨blanks, same, inline⟩ := fit.1.exists_inline here
    have count := inductionHypothesis fit.2 later
    rw [Text.lineFeeds] at count
    rw [textOf_cons, same, Text.lineFeeds, List.count_append, List.count_append, count,
      List.count_eq_zero_of_not_mem (lineFeed_not_mem_inline inline), List.length_cons,
      List.count_singleton_self]
    omega

theorem splitLine_append_rest {line rest : Text} (isLine : IsLine line rest) :
    splitLine (line ++ rest) = (line, rest) := by
  have passed {content : Text} (free : '\n' ∉ content) :
      ∀ c ∈ content, (c != '\n') = true := by
    intro c member
    rw [bne_iff_ne]
    rintro rfl
    exact free member
  rcases isLine with ⟨content, rfl, free⟩ | ⟨-, free, rfl⟩
  · rw [List.append_assoc, List.singleton_append, splitLine,
      List.dropWhile_append_of_pos (passed free), List.takeWhile_append_of_pos (passed free)]
    simp
  · rw [List.append_nil, splitLine, List.dropWhile_eq_nil_iff.mpr (passed free)]

/-! ### One round of erasing -/

/-- The blocks in the strides of erasing: blank lines up to the end, blank lines up to a line that
is kept, or blank lines up to a statement with the blank lines behind it. -/
@[elab_as_elim]
theorem blockInduction {motive : List Block → Prop}
    (blanks : ∀ before : List Block, (∀ block ∈ before, block.isBlank = true) → motive before)
    (kept : ∀ (before : List Block) (line : Text) (rest : List Block),
      (∀ block ∈ before, block.isBlank = true) → motive rest →
      motive (before ++ .kept line :: rest))
    (statement : ∀ (before : List Block) (part : Text) (after rest : List Block),
      (∀ block ∈ before, block.isBlank = true) → (∀ block ∈ after, block.isBlank = true) →
      (∀ block, rest.head? = some block → block.isBlank = false) → motive rest →
      motive (before ++ .statement part :: (after ++ rest)))
    (blocks : List Block) : motive blocks := by
  induction length : blocks.length using Nat.strong_induction_on generalizing blocks with
  | _ bound inductionHypothesis =>
    have taken (blocks : List Block) : ∀ block ∈ blocks.takeWhile Block.isBlank,
        block.isBlank = true := List.all_eq_true.mp List.all_takeWhile
    have left (blocks : List Block) (block : Block)
        (first : (blocks.dropWhile Block.isBlank).head? = some block) : block.isBlank = false := by
      have head := List.head?_dropWhile_not Block.isBlank blocks
      rw [first] at head
      exact head
    have whole := @List.takeWhile_append_dropWhile _ Block.isBlank blocks
    cases ahead : blocks.dropWhile Block.isBlank with
    | nil =>
      rw [ahead, List.append_nil] at whole
      rw [← whole]
      exact blanks _ (taken blocks)
    | cons block rest =>
      rw [ahead] at whole
      have shorter : rest.length < bound := by
        rw [← length, ← whole, List.length_append, List.length_cons]
        omega
      rw [← whole]
      cases block with
      | blank line => cases left blocks (.blank line) (by rw [ahead]; rfl)
      | kept line => exact kept _ line rest (taken blocks) (inductionHypothesis _ shorter rest rfl)
      | statement part =>
        have further : (rest.dropWhile Block.isBlank).length < bound :=
          Nat.lt_of_le_of_lt (List.length_dropWhile_le _ _) shorter
        rw [← @List.takeWhile_append_dropWhile _ Block.isBlank rest]
        exact statement _ part _ _ (taken blocks) (taken rest) (left rest)
          (inductionHypothesis _ further _ rfl)

theorem eraseFrom_blanks {before : List Block} (fuel : Nat) (first : Bool)
    (fit : Fit segments before) (blank : ∀ block ∈ before, block.isBlank = true) :
    eraseFrom segments fuel first (textOf before) = textOf before := by
  cases fuel with
  | zero => rfl
  | succ fuel =>
    have lines : blankLines (textOf before) = textOf before := by
      rw [← List.append_nil before] at fit
      have lines := blankLines_textOf fit blank fun block none => by cases none
      rwa [List.append_nil] at lines
    have nothing : afterStatement? segments [] = none := rfl
    rw [eraseFrom, lines, List.drop_length, nothing]
    exact List.append_nil _

theorem eraseFrom_kept {before rest : List Block} {line : Text} (fuel : Nat) (first : Bool)
    (isName : IsName segments) (fit : Fit segments (before ++ .kept line :: rest))
    (blank : ∀ block ∈ before, block.isBlank = true) :
    eraseFrom segments (fuel + 1) first (textOf (before ++ .kept line :: rest)) =
      textOf before ++ (line ++ eraseFrom segments fuel false (textOf rest)) := by
  obtain ⟨⟨isLine, -, closed⟩, later⟩ := fit.of_append
  have lines := blankLines_textOf fit blank fun block here => by cases here; rfl
  have none : afterStatement? segments (line ++ textOf rest) = none := by
    rw [opens_iff isName, Option.not_isSome_iff_eq_none] at closed
    exact closed
  rw [eraseFrom, lines, textOf_append, List.drop_left, textOf_cons, Block.text, none,
    splitLine_append_rest isLine]
  cases empty : textOf rest with
  | nil =>
    have nothing := @eraseFrom_blanks segments [] fuel false trivial (List.forall_mem_nil _)
    show textOf before ++ line = _
    rw [show eraseFrom segments fuel false [] = [] from nothing, List.append_nil]
  | cons c others => exact List.append_assoc _ _ _

theorem eraseFrom_statement {before after rest : List Block} {part : Text} (fuel : Nat)
    (first : Bool) (isName : IsName segments)
    (fit : Fit segments (before ++ .statement part :: (after ++ rest)))
    (blank : ∀ block ∈ before, block.isBlank = true)
    (afterBlank : ∀ block ∈ after, block.isBlank = true)
    (stops : ∀ block, rest.head? = some block → block.isBlank = false) :
    eraseFrom segments (fuel + 1) first (textOf (before ++ .statement part :: (after ++ rest))) =
      (if first then [] else List.replicate (max before.length after.length) '\n') ++
        eraseFrom segments fuel false (textOf rest) := by
  obtain ⟨fits, later⟩ := fit.of_append
  have lines := blankLines_textOf fit blank fun block here => by cases here; rfl
  have afterLines := blankLines_textOf later afterBlank stops
  have passes := (fits_statement_iff isName).mp fits
  have rest_eq : (textOf (after ++ rest)).drop (textOf after).length = textOf rest := by
    rw [textOf_append, List.drop_left]
  rw [eraseFrom, lines, textOf_append, List.drop_left, textOf_cons, Block.text, passes]
  simp only [afterLines, rest_eq, lineFeeds_textOf fit blank, lineFeeds_textOf later afterBlank]

/-! ### Whole runs -/

/-- What is left of a text from the start of a line on. -/
def erased (segments : List Text) (first : Bool) (text : Text) : Text :=
  eraseFrom segments (text.length + 1) first text

theorem Fit.length_lt {before rest : List Block} {block : Block}
    (fit : Fit segments (before ++ block :: rest)) :
    (textOf rest).length < (textOf (before ++ block :: rest)).length := by
  have positive := List.length_pos_iff.mpr fit.of_append.1.text_ne_nil
  rw [textOf_append, textOf_cons, List.length_append, List.length_append]
  omega

/-- More fuel than enough changes nothing. -/
theorem eraseFrom_eq_of_lt (isName : IsName segments) {blocks : List Block}
    (fit : Fit segments blocks) {fuel other : Nat} (enough : (textOf blocks).length < fuel)
    (otherEnough : (textOf blocks).length < other) (first : Bool) :
    eraseFrom segments fuel first (textOf blocks) =
      eraseFrom segments other first (textOf blocks) := by
  induction blocks using blockInduction generalizing fuel other first with
  | blanks before blank => rw [eraseFrom_blanks _ _ fit blank, eraseFrom_blanks _ _ fit blank]
  | kept before line rest blank inductionHypothesis =>
    have shorter := fit.length_lt
    obtain ⟨fuel, rfl⟩ := Nat.exists_eq_add_one_of_ne_zero (Nat.ne_zero_of_lt enough)
    obtain ⟨other, rfl⟩ := Nat.exists_eq_add_one_of_ne_zero (Nat.ne_zero_of_lt otherEnough)
    rw [eraseFrom_kept fuel first isName fit blank, eraseFrom_kept other first isName fit blank,
      @inductionHypothesis fit.of_append.2 fuel other (by omega) (by omega)]
  | statement before part after rest blank afterBlank stops inductionHypothesis =>
    have shorter := fit.length_lt
    rw [textOf_append after rest, List.length_append] at shorter
    obtain ⟨fuel, rfl⟩ := Nat.exists_eq_add_one_of_ne_zero (Nat.ne_zero_of_lt enough)
    obtain ⟨other, rfl⟩ := Nat.exists_eq_add_one_of_ne_zero (Nat.ne_zero_of_lt otherEnough)
    rw [eraseFrom_statement fuel first isName fit blank afterBlank stops,
      eraseFrom_statement other first isName fit blank afterBlank stops,
      @inductionHypothesis fit.of_append.2.of_append fuel other (by omega) (by omega)]

section

variable {before rest : List Block} {line part : Text} (first : Bool)

theorem erased_nil : erased segments first [] = [] :=
  @eraseFrom_blanks segments [] 1 first trivial (List.forall_mem_nil _)

theorem erased_blanks (fit : Fit segments before)
    (blank : ∀ block ∈ before, block.isBlank = true) :
    erased segments first (textOf before) = textOf before :=
  eraseFrom_blanks _ _ fit blank

theorem erased_kept (isName : IsName segments) (fit : Fit segments (before ++ .kept line :: rest))
    (blank : ∀ block ∈ before, block.isBlank = true) :
    erased segments first (textOf (before ++ .kept line :: rest)) =
      textOf before ++ (line ++ erased segments false (textOf rest)) := by
  rw [erased, eraseFrom_kept _ first isName fit blank, erased,
    eraseFrom_eq_of_lt isName fit.of_append.2 fit.length_lt (Nat.lt_succ_self _)]

theorem erased_statement {after : List Block} (isName : IsName segments)
    (fit : Fit segments (before ++ .statement part :: (after ++ rest)))
    (blank : ∀ block ∈ before, block.isBlank = true)
    (afterBlank : ∀ block ∈ after, block.isBlank = true)
    (stops : ∀ block, rest.head? = some block → block.isBlank = false) :
    erased segments first (textOf (before ++ .statement part :: (after ++ rest))) =
      (if first then [] else List.replicate (max before.length after.length) '\n') ++
        erased segments false (textOf rest) := by
  have shorter := fit.length_lt
  rw [textOf_append after rest, List.length_append] at shorter
  rw [erased, eraseFrom_statement _ first isName fit blank afterBlank stops, erased,
    eraseFrom_eq_of_lt isName fit.of_append.2.of_append (by omega) (Nat.lt_succ_self _)]

end

/-- Where there is no statement, nothing changes. -/
theorem erased_of_no_statement (isName : IsName segments) {blocks : List Block}
    (fit : Fit segments blocks) (none : ∀ block ∈ blocks, block.isStatement = false)
    (first : Bool) : erased segments first (textOf blocks) = textOf blocks := by
  induction blocks using blockInduction generalizing first with
  | blanks before blank => exact erased_blanks first fit blank
  | kept before line rest blank inductionHypothesis =>
    have later : ∀ block ∈ rest, block.isStatement = false := fun block member =>
      none block (List.mem_append_right _ (List.mem_cons_of_mem _ member))
    rw [erased_kept first isName fit blank, inductionHypothesis fit.of_append.2 later false,
      textOf_append, textOf_cons]
    rfl
  | statement before part after rest =>
    cases none (.statement part) (List.mem_append_right _ List.mem_cons_self)

/-! ### Lines that are kept -/

/-- The lines of a text that are not blank, without their ends. -/
def inkedLines (text : Text) : List Text :=
  (Text.splitAtAll (· == '\n') text).filter fun line => !line.all isBlank

theorem inkedLines_append (first rest : Text) :
    inkedLines (first ++ '\n' :: rest) = inkedLines first ++ inkedLines rest := by
  rw [inkedLines, @Text.splitAtAll_append_cut (· == '\n') '\n' rfl, List.filter_append]
  rfl

theorem splitAtAll_lineFeed {content : Text} (free : '\n' ∉ content) :
    Text.splitAtAll (· == '\n') content = [content] :=
  Text.splitAtAll_of_free fun c member => beq_eq_false_iff_ne.mpr (by
    rintro rfl
    exact free member)

theorem inkedLines_inline {blanks : Text} (inline : ∀ c ∈ blanks, isInlineBlank c = true) :
    inkedLines blanks = [] := by
  have blank : blanks.all isBlank = true := List.all_eq_true.mpr (blank_of_inline inline)
  rw [inkedLines, splitAtAll_lineFeed (lineFeed_not_mem_inline inline), List.filter_cons, blank]
  rfl

theorem inkedLines_replicate (count : Nat) (rest : Text) :
    inkedLines (List.replicate count '\n' ++ rest) = inkedLines rest := by
  induction count with
  | zero => rfl
  | succ count inductionHypothesis =>
    exact (inkedLines_append [] (List.replicate count '\n' ++ rest)).trans inductionHypothesis

theorem inkedLines_blanks {before rest : List Block} (fit : Fit segments (before ++ rest))
    (blank : ∀ block ∈ before, block.isBlank = true) (more : Text) :
    inkedLines (textOf before ++ more) = inkedLines more := by
  induction before with
  | nil => rfl
  | cons block before inductionHypothesis =>
    obtain ⟨here, later⟩ := List.forall_mem_cons.mp blank
    obtain ⟨blanks, same, inline⟩ := fit.1.exists_inline here
    rw [textOf_cons, same]
    simp only [List.append_assoc, List.cons_append, List.nil_append]
    rw [inkedLines_append, inkedLines_inline inline, inductionHypothesis fit.2 later]
    rfl

theorem inkedLines_line {line rest more : Text} (isLine : IsLine line rest)
    (ends : rest = [] → more = []) :
    inkedLines (line ++ more) = inkedLines line ++ inkedLines more := by
  rcases isLine with ⟨content, rfl, -⟩ | ⟨-, -, empty⟩
  · rw [List.append_assoc, List.singleton_append, inkedLines_append, inkedLines_append]
    exact congrArg (· ++ inkedLines more) (List.append_nil _).symm
  · rw [ends empty, List.append_nil]
    exact (List.append_nil _).symm

/-- The lines that are kept, and no others, are the lines with ink in what is left. -/
theorem inkedLines_erased (isName : IsName segments) {blocks : List Block}
    (fit : Fit segments blocks) (first : Bool) :
    inkedLines (erased segments first (textOf blocks)) =
      (blocks.filter Block.isKept).flatMap fun block => inkedLines block.text := by
  have noKept {before : List Block} (blank : ∀ block ∈ before, block.isBlank = true) :
      before.filter Block.isKept = [] := by
    refine List.filter_eq_nil_iff.mpr fun block member kept => ?_
    exact Bool.false_ne_true ((Block.isBlank_of_isKept kept).symm.trans (blank block member))
  induction blocks using blockInduction generalizing first with
  | blanks before blank =>
    rw [← List.append_nil before] at fit
    have none := inkedLines_blanks fit blank []
    rw [List.append_nil] at none fit
    rw [erased_blanks first fit blank, none, noKept blank]
    rfl
  | kept before line rest blank inductionHypothesis =>
    obtain ⟨fits, later⟩ := fit.of_append
    have ends (empty : textOf rest = []) : erased segments false (textOf rest) = [] := by
      rw [empty, erased_nil]
    rw [erased_kept first isName fit blank, inkedLines_blanks fit blank,
      inkedLines_line fits.1 ends, inductionHypothesis later false, List.filter_append,
      noKept blank]
    rfl
  | statement before part after rest blank afterBlank stops inductionHypothesis =>
    have later := fit.of_append.2.of_append
    have filler : inkedLines ((if first then [] else
        List.replicate (max before.length after.length) '\n') ++
          erased segments false (textOf rest)) =
        inkedLines (erased segments false (textOf rest)) := by
      split
      · rfl
      · exact inkedLines_replicate _ _
    rw [erased_statement first isName fit blank afterBlank stops, filler,
      inductionHypothesis later false, List.filter_append, noKept blank,
      List.filter_cons_of_neg Bool.false_ne_true, List.filter_append, noKept afterBlank]
    rfl

/-- The statement with an end of its line. -/
def Statement.closed (statement : Statement segments) : Statement segments :=
  { statement with ending := ['\n'], isEnding := Or.inr rfl }

theorem Statement.text_closed (statement : Statement segments) (unended : statement.ending = []) :
    statement.closed.text = statement.text ++ ['\n'] := by
  simp only [Statement.text, Statement.tail, Statement.closed, unended, List.append_assoc,
    List.nil_append]

/-- No line of what is left is an import statement by itself. -/
theorem not_statement_of_mem_erased (isName : IsName segments) {blocks : List Block}
    (fit : Fit segments blocks) (first : Bool) (statement : Statement segments) :
    statement.text ∉ Text.splitAtAll (· == '\n') (erased segments first (textOf blocks)) := by
  intro member
  have inked : statement.text ∈ inkedLines (erased segments first (textOf blocks)) := by
    refine List.mem_filter.mpr ⟨member, ?_⟩
    rw [Bool.not_eq_true', List.all_eq_false]
    exact ⟨'i', statement.ink_mem_text, by decide⟩
  rw [inkedLines_erased isName fit] at inked
  obtain ⟨block, filtered, inside⟩ := List.mem_flatMap.mp inked
  obtain ⟨inBlocks, isKept⟩ := List.mem_filter.mp filtered
  obtain ⟨front, back, rfl⟩ := List.append_of_mem inBlocks
  cases block with
  | blank line => cases isKept
  | statement part => cases isKept
  | kept line =>
    obtain ⟨isLine, -, closed⟩ := fit.of_append.1
    apply closed
    have alone := (List.mem_filter.mp inside).1
    rcases isLine with ⟨content, rfl, free⟩ | ⟨-, free, empty⟩
    · rw [Block.text, @Text.splitAtAll_append_cut (· == '\n') '\n' rfl, splitAtAll_lineFeed free]
        at alone
      have same : statement.text = content :=
        (List.mem_cons.mp alone).resolve_right fun last =>
          statement.text_ne_nil (List.mem_singleton.mp last)
      have unended : statement.ending = [] := by
        refine statement.isEnding.resolve_right fun ended => free ?_
        rw [← same, statement.text_eq, ended]
        simp only [List.mem_append, List.mem_singleton, or_true]
      refine ⟨statement.closed, textOf back, ?_, fun impossible => ?_⟩
      · rw [statement.text_closed unended, same]
      · cases impossible
    · rw [Block.text, splitAtAll_lineFeed free, List.mem_singleton] at alone
      rw [empty]
      exact ⟨statement, [], by rw [alone], fun _ => rfl⟩

/-! ### Statements that are found -/

theorem eq_nil_of_append_lineFeed {content front between : Text} (free : '\n' ∉ content)
    (split : content ++ ['\n'] = front ++ '\n' :: between) : between = [] := by
  rcases Text.append_eq_append_cons split with ⟨part, -, single⟩ | ⟨part, rfl, -⟩
  · have length := congrArg List.length single
    simp only [List.length_append, List.length_cons, List.length_nil] at length
    exact List.length_eq_zero_iff.mp (by omega)
  · exact absurd (List.mem_append_right _ List.mem_cons_self) free

/-- A line that begins within a block does not begin as an import does. -/
theorem Block.Fits.eq_nil_of_beginsImport (isName : IsName segments) {block : Block}
    {rest front between : Text} (fits : block.Fits segments rest)
    (split : block.text = front ++ '\n' :: between) (begins : BeginsImport (between ++ rest)) :
    between = [] := by
  cases block with
  | blank line =>
    obtain ⟨blanks, rfl, inline⟩ := fits
    exact eq_nil_of_append_lineFeed (lineFeed_not_mem_inline inline) split
  | kept line =>
    rcases fits.1 with ⟨content, rfl, free⟩ | ⟨-, free, -⟩
    · exact eq_nil_of_append_lineFeed free split
    · exact absurd (List.mem_iff_append.mpr ⟨front, between, split⟩) free
  | statement part =>
    obtain ⟨statement, rfl, before⟩ := fits
    by_contra nonempty
    have positive := List.length_pos_iff.mpr nonempty
    replace split : statement.text = front ++ '\n' :: between := split
    have whole : statement.text ++ rest = front ++ '\n' :: (between ++ rest) := by
      rw [split, List.append_assoc, List.cons_append]
    refine statement.not_beginsImport isName before whole ?_ begins
    rw [split, List.length_append, List.length_cons]
    omega

/-- Every statement at the start of a line is a block. -/
theorem exists_block_of_statement (isName : IsName segments) {blocks : List Block}
    (fit : Fit segments blocks) (statement : Statement segments) {before after : Text}
    (ends : statement.Before after) (split : textOf blocks = before ++ (statement.text ++ after))
    (start : before = [] ∨ ∃ front, before = front ++ ['\n']) :
    ∃ front back, blocks = front ++ .statement statement.text :: back ∧ textOf front = before := by
  induction blocks generalizing before with
  | nil =>
    have empty := (List.append_eq_nil_iff.mp split.symm).2
    exact absurd (List.append_eq_nil_iff.mp empty).1 statement.text_ne_nil
  | cons block rest inductionHypothesis =>
    obtain ⟨fits, fit⟩ := fit
    rw [textOf_cons] at split
    rcases start with rfl | ⟨front, rfl⟩
    · rw [List.nil_append] at split
      cases block with
      | blank line =>
        -- Blank lines would begin the text, but none stands before a statement.
        obtain ⟨blanks, rfl, inline⟩ := fits
        have none := @Block.Fits.blankLines_eq_nil segments (.statement statement.text) after
          ⟨statement, rfl, ends⟩ rfl
        rw [Block.text, ← split, Block.text, List.append_assoc, List.singleton_append,
          blankLines_blank _ (blank_of_inline inline)] at none
        cases (List.append_eq_nil_iff.mp none).2
      | statement part =>
        obtain ⟨other, rfl, otherEnds⟩ := fits
        obtain ⟨same, -⟩ := Statement.text_unique isName otherEnds ends split
        exact ⟨[], rest, by rw [same]; rfl, rfl⟩
      | kept line => exact absurd ⟨statement, after, split, ends⟩ fits.2.2
    · rw [List.append_assoc, List.singleton_append] at split
      rcases Text.append_eq_append_cons split with ⟨between, rfl, later⟩ | ⟨between, inside, later⟩
      · have splitRest : textOf rest = (between ++ ['\n']) ++ (statement.text ++ after) := by
          rw [later, List.append_assoc, List.singleton_append]
        obtain ⟨front, back, rfl, same⟩ :=
          inductionHypothesis fit splitRest (Or.inr ⟨between, rfl⟩)
        refine ⟨block :: front, back, rfl, ?_⟩
        rw [textOf_cons, same, List.append_assoc]
      · have begins : BeginsImport (between ++ textOf rest) := by
          rw [← later]
          exact statement.beginsImport isName after
        obtain rfl := fits.eq_nil_of_beginsImport isName inside begins
        obtain ⟨found, back, rfl, same⟩ :=
          @inductionHypothesis fit [] later.symm (Or.inl rfl)
        refine ⟨block :: found, back, rfl, ?_⟩
        rw [textOf_cons, same, inside, List.append_nil]

/-! ### The two sides of a line that is kept -/

/-- Up to a line that is kept and from there on, a text is erased on its own. -/
theorem exists_erased_kept (isName : IsName segments) (front : List Block) (line : Text)
    (first : Bool) :
    ∃ kept, ∀ back, Fit segments (front ++ .kept line :: back) →
      erased segments first (textOf (front ++ .kept line :: back)) =
        kept ++ (line ++ erased segments false (textOf back)) := by
  induction front using blockInduction generalizing first with
  | blanks before blank =>
    exact ⟨textOf before, fun back fit => erased_kept first isName fit blank⟩
  | kept before other rest blank inductionHypothesis =>
    obtain ⟨kept, erasing⟩ := inductionHypothesis false
    refine ⟨textOf before ++ (other ++ kept), fun back fit => ?_⟩
    rw [List.append_assoc, List.cons_append] at fit ⊢
    rw [erased_kept first isName fit blank, erasing back fit.of_append.2]
    simp only [List.append_assoc]
  | statement before part after rest blank afterBlank stops inductionHypothesis =>
    obtain ⟨kept, erasing⟩ := inductionHypothesis false
    refine ⟨(if first then [] else List.replicate (max before.length after.length) '\n') ++ kept,
      fun back fit => ?_⟩
    have further (block : Block) (here : (rest ++ .kept line :: back).head? = some block) :
        block.isBlank = false := by
      cases rest with
      | nil =>
        cases here
        rfl
      | cons other others => exact stops block here
    rw [List.append_assoc, List.cons_append, List.append_assoc] at fit ⊢
    rw [erased_statement first isName fit blank afterBlank further,
      erasing back fit.of_append.2.of_append, List.append_assoc]

/-- What follows may be left out behind the end of a line. -/
theorem Block.Fits.shorten (isName : IsName segments) {block : Block} {rest more front : Text}
    (fits : block.Fits segments (rest ++ more)) (ended : block.text ++ rest = front ++ ['\n']) :
    block.Fits segments rest := by
  cases block with
  | blank line => exact fits
  | statement part =>
    obtain ⟨statement, same, before⟩ := fits
    exact ⟨statement, same, fun unended => (List.append_eq_nil_iff.mp (before unended)).1⟩
  | kept line =>
    obtain ⟨isLine, noBlank, closed⟩ := fits
    refine ⟨isLine.imp_right fun last => ⟨last.1, last.2.1, (List.append_eq_nil_iff.mp last.2.2).1⟩,
      noBlank, ?_⟩
    rintro ⟨statement, after, split, before⟩
    refine closed ⟨statement, after ++ more, ?_, fun unended => ?_⟩
    · rw [← List.append_assoc, split, List.append_assoc]
    · have all : statement.text = front ++ ['\n'] := by
        rw [← ended, Block.text, split, before unended, List.append_nil]
      rw [statement.ending_of_text_eq isName all] at unended
      cases unended

theorem Fit.shorten (isName : IsName segments) {front back : List Block} {line : Text}
    (fit : Fit segments (front ++ .kept line :: back)) :
    Fit segments (front ++ [.kept line]) := by
  obtain ⟨⟨⟨content, rfl, -⟩ | ⟨-, -, empty⟩, -⟩, later⟩ := fit.of_append
  · induction front with
    | nil =>
      obtain ⟨fits, -⟩ := fit
      exact ⟨@Block.Fits.shorten segments isName _ [] (textOf back) content fits
        (List.append_nil _), trivial⟩
    | cons block front inductionHypothesis =>
      rw [List.cons_append] at fit ⊢
      obtain ⟨fits, fit⟩ := fit
      have whole : textOf (front ++ .kept (content ++ ['\n']) :: back) =
          textOf (front ++ [.kept (content ++ ['\n'])]) ++ textOf back := by
        rw [← textOf_append, List.append_assoc, List.singleton_append]
      have ended : block.text ++ textOf (front ++ [.kept (content ++ ['\n'])]) =
          (block.text ++ (textOf front ++ content)) ++ ['\n'] := by
        rw [textOf_append, textOf_singleton, Block.text]
        simp only [List.append_assoc]
      rw [whole] at fits
      exact ⟨fits.shorten isName ended, inductionHypothesis fit⟩
  · rw [later.eq_nil empty] at fit
    exact fit

/-- Whether a text begins a file makes no difference to one that begins with a line that is kept. -/
theorem erased_first (isName : IsName segments) {back : List Block} (fit : Fit segments back)
    (startsKept : ∀ block, back.head? = some block → block.isKept = true) (first : Bool) :
    erased segments first (textOf back) = erased segments true (textOf back) := by
  cases back with
  | nil => rw [textOf_nil, erased_nil, erased_nil]
  | cons block rest =>
    have isKept := startsKept block rfl
    cases block with
    | blank line => cases isKept
    | statement part => cases isKept
    | kept line =>
      have here (first : Bool) := @erased_kept segments [] rest line first isName fit
        (List.forall_mem_nil _)
      exact (here first).trans (here true).symm

/-- A text that ends with a line that is kept still ends with it, and what follows the line is
erased on its own. -/
theorem erased_append_kept (isName : IsName segments) {front back : List Block} {line : Text}
    (fit : Fit segments (front ++ .kept line :: back)) (first : Bool) :
    line <:+ erased segments first (textOf (front ++ [.kept line])) ∧
      erased segments first (textOf (front ++ .kept line :: back)) =
        erased segments first (textOf (front ++ [.kept line])) ++
          erased segments false (textOf back) := by
  obtain ⟨kept, erasing⟩ := exists_erased_kept isName front line first
  have upTo : erased segments first (textOf (front ++ [.kept line])) = kept ++ line := by
    rw [erasing [] (fit.shorten isName), textOf_nil, erased_nil, List.append_nil]
  constructor
  · exact ⟨kept, upTo.symm⟩
  · rw [erasing back fit, upTo, List.append_assoc]

/-- Erasing the imports of a dotted name. The text falls into blank lines, import statements of the
name and other lines, and however it is cut so:

* every import statement of the name that begins at the start of a line is one of the statements;
* the lines with ink of the other lines are those of the result, in the same order;
* no line of the result is an import statement of the name by itself;
* where a statement has lines that are kept, or an end of the text, next to the blank lines around
  it, as many empty lines take the place of it and them as there were on the side that had more, and
  at the start of the text none do; both sides are erased on their own, and the neighbouring lines
  stay next to the empty ones;
* without a statement the text stays as it is. -/
theorem erase_keeps_lines_and_spacing (name text : Text) (dotted : isDottedName name = true) :
    (∃ blocks, textOf blocks = text ∧ Fit (nameSegments name) blocks) ∧
      ∀ blocks, textOf blocks = text → Fit (nameSegments name) blocks →
        (∀ (statement : Statement (nameSegments name)) (before after : Text),
          text = before ++ (statement.text ++ after) → statement.Before after →
          (before = [] ∨ ∃ front, before = front ++ ['\n']) →
          ∃ front back, blocks = front ++ .statement statement.text :: back ∧
            textOf front = before) ∧
        inkedLines (erase name text) =
          ((blocks.filter Block.isKept).flatMap fun block => inkedLines block.text) ∧
        (∀ line ∈ Text.splitAtAll (· == '\n') (erase name text),
          ∀ statement : Statement (nameSegments name), line ≠ statement.text) ∧
        (∀ (lead before after back : List Block) (part : Text),
          blocks = lead ++ (before ++ .statement part :: (after ++ back)) →
          (∀ block ∈ before, block.isBlank = true) → (∀ block ∈ after, block.isBlank = true) →
          (∀ block, back.head? = some block → block.isKept = true) →
          (∀ line more, back = .kept line :: more → line <+: erase name (textOf back)) ∧
          (lead = [] → erase name text = erase name (textOf back)) ∧
          ∀ front line, lead = front ++ [.kept line] →
            line <:+ erase name (textOf lead) ∧
              erase name text = erase name (textOf lead) ++
                (List.replicate (max before.length after.length) '\n' ++
                  erase name (textOf back))) ∧
        ((∀ block ∈ blocks, block.isStatement = false) → erase name text = text) := by
  have isName := isName_of_isDottedName dotted
  refine ⟨exists_fit (nameSegments name) text, ?_⟩
  rintro blocks rfl fit
  refine ⟨fun statement before after split ends start =>
      exists_block_of_statement isName fit statement ends split start,
    inkedLines_erased isName fit true, ?_, ?_, fun none =>
      erased_of_no_statement isName fit none true⟩
  · rintro _ member statement rfl
    exact not_statement_of_mem_erased isName fit true statement member
  · rintro lead before after back part rfl blank afterBlank startsKept
    have fitHere := fit.of_append
    have fitBack := fitHere.of_append.2.of_append
    have stops (block : Block) (here : back.head? = some block) : block.isBlank = false :=
      Block.isBlank_of_isKept (startsKept block here)
    refine ⟨?_, ?_, ?_⟩
    · rintro line more rfl
      have here := @erased_kept _ [] more line true isName fitBack (List.forall_mem_nil _)
      exact ⟨_, here.symm⟩
    · rintro rfl
      have here := erased_statement true isName fitHere blank afterBlank stops
      exact here.trans (erased_first isName fitBack startsKept false)
    · rintro front line rfl
      rw [List.append_assoc, List.singleton_append] at fit ⊢
      obtain ⟨ends, sides⟩ := erased_append_kept isName fit true
      refine ⟨ends, ?_⟩
      rw [erased_statement false isName fitHere blank afterBlank stops,
        erased_first isName fitBack startsKept false] at sides
      exact sides

/-- Two imports of one name: one with blank lines around it, and one on two lines that ends the
text. -/
def importingBlocks : List Block :=
  [.kept "package p;\n".toList, .blank "\n".toList, .statement " import a . b ;\n".toList,
    .blank " \n".toList, .blank "\n".toList, .kept "class K;\n".toList,
    .statement "import a.\n b".toList]

theorem erase_keeps_lines_and_spacing_importing :
    isDottedName "a.b".toList = true ∧ Fit (nameSegments "a.b".toList) importingBlocks ∧
      erase "a.b".toList (textOf importingBlocks) =
        "package p;\n".toList ++ (['\n', '\n'] ++
          erase "a.b".toList "class K;\nimport a.\n b".toList) ∧
      inkedLines (erase "a.b".toList (textOf importingBlocks)) =
        ["package p;".toList, "class K;".toList] := by
  have dotted : isDottedName "a.b".toList = true := by decide +kernel
  have isName := isName_of_isDottedName dotted
  have fit : Fit (nameSegments "a.b".toList) importingBlocks := by
    have closed {text : Text}
        (none : (afterStatement? (nameSegments "a.b".toList) text).isSome = false) :
        ¬ Opens (nameSegments "a.b".toList) text := by
      rw [opens_iff isName, none]
      exact Bool.false_ne_true
    refine ⟨⟨Or.inl ⟨"package p;".toList, rfl, by decide⟩, ?_, closed (by decide +kernel)⟩,
      ⟨[], rfl, List.forall_mem_nil _⟩, (fits_statement_iff isName).mpr (by decide +kernel),
      ⟨[' '], rfl, List.forall_mem_singleton.mpr (by decide)⟩, ⟨[], rfl, List.forall_mem_nil _⟩,
      ⟨Or.inl ⟨"class K;".toList, rfl, by decide⟩, ?_, closed (by decide +kernel)⟩,
      (fits_statement_iff isName).mpr (by decide +kernel), trivial⟩
    · exact @not_isBlankLine_of_mem _ 'p' (by decide) (by decide)
    · exact @not_isBlankLine_of_mem _ 'c' (by decide) (by decide)
  obtain ⟨-, properties⟩ :=
    erase_keeps_lines_and_spacing "a.b".toList (textOf importingBlocks) dotted
  obtain ⟨-, lines, -, spacing, -⟩ := properties importingBlocks rfl fit
  obtain ⟨-, -, apart⟩ := spacing [.kept "package p;\n".toList] [.blank "\n".toList]
    [.blank " \n".toList, .blank "\n".toList]
    [.kept "class K;\n".toList, .statement "import a.\n b".toList] " import a . b ;\n".toList rfl
    (by simp [Block.isBlank]) (by simp [Block.isBlank]) (by rintro _ ⟨⟩; rfl)
  obtain ⟨-, sides⟩ := apart [] "package p;\n".toList rfl
  have lead : erase "a.b".toList (textOf [.kept "package p;\n".toList]) =
      "package p;\n".toList := by decide +kernel
  rw [lead] at sides
  exact ⟨dotted, fit, sides, lines.trans (by decide +kernel)⟩

end Import

end Stencil
