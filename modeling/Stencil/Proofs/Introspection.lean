/-
This file proves when the type parameters that are read from a source are those of the header that
is replaced in it. They are read from the source as it stands, while the header is looked for in the
cleaned text. Looking for a declaration goes no further than the bracket that opens its list, and
reading the list goes no further than the bracket that closes it; so a declaration that is closed
before an edit is read the same after it. An edit that keeps clear of declarations leaves the first
one and its list as they were, and so does a cleaning of which every edit keeps clear.
-/
import Mathlib.Data.List.Basic
import Mathlib.Data.List.TakeWhile
import Stencil.Proofs.Edits

namespace Stencil

/-! ### Lists of type parameters -/

/-- A scan that stops behind a closing bracket, after `count` characters, whatever follows. -/
def StopsAt (close : Char) (scan : Text → Option Nat) (text : Text) (count : Nat) : Prop :=
  ∃ inside rest, text = inside ++ close :: rest ∧ count = inside.length + 1 ∧
    ∀ more, scan (inside ++ close :: more) = some count

theorem StopsAt.cons {close c : Char} {scan longer : Text → Option Nat} {text : Text} {count : Nat}
    (stops : StopsAt close scan text count)
    (goesOn : ∀ text, longer (c :: text) = (scan text).map (· + 1)) :
    StopsAt close longer (c :: text) (count + 1) := by
  obtain ⟨inside, rest, rfl, rfl, reads⟩ := stops
  refine ⟨c :: inside, rest, rfl, rfl, fun more => ?_⟩
  rw [List.cons_append, goesOn, reads]
  rfl

/-- A bracket that balances is a closing one, and nothing behind it is looked at. -/
theorem balancedLength_eq_some {pair : BracketPair} {close : Char} (closes : pair.closing = [close])
    {quoted : Bool} {depth : Int} {text : Text} {count : Nat}
    (found : balancedLength pair quoted depth text = some count) :
    StopsAt close (balancedLength pair quoted depth) text count := by
  fun_induction balancedLength pair quoted depth text generalizing count with
  | case1 => cases found
  | case2 => cases found
  | case3 depth c rest inductionHypothesis =>
    -- A backslash is passed over together with the character behind it.
    obtain ⟨before, here, rfl⟩ := Option.map_eq_some_iff.mp found
    obtain ⟨inside, behind, rfl, rfl, reads⟩ := inductionHypothesis here
    refine ⟨'\\' :: c :: inside, behind, rfl, rfl, fun more => ?_⟩
    simp [balancedLength, reads more]
  | case4 depth c rest notEscape inductionHypothesis =>
    obtain ⟨before, here, rfl⟩ := Option.map_eq_some_iff.mp found
    exact (inductionHypothesis here).cons fun text => by simp [balancedLength]
  | case5 depth rest inductionHypothesis =>
    obtain ⟨before, here, rfl⟩ := Option.map_eq_some_iff.mp found
    exact (inductionHypothesis here).cons fun text => by simp [balancedLength]
  | case6 depth c rest notQuote opens inductionHypothesis =>
    obtain ⟨before, here, rfl⟩ := Option.map_eq_some_iff.mp found
    exact (inductionHypothesis here).cons fun text => by simp [balancedLength, notQuote, opens]
  | case7 c rest notQuote notOpening isClosing =>
    cases found
    obtain rfl : close = c := by simpa [closes] using isClosing
    refine ⟨[], rest, rfl, rfl, fun more => ?_⟩
    simp [balancedLength, notQuote, notOpening, isClosing]
  | case8 depth c rest notQuote notOpening isClosing deeper inductionHypothesis =>
    obtain ⟨before, here, rfl⟩ := Option.map_eq_some_iff.mp found
    exact (inductionHypothesis here).cons fun text => by
      simp [balancedLength, notQuote, notOpening, isClosing, deeper]
  | case9 depth c rest notQuote notOpening notClosing inductionHypothesis =>
    obtain ⟨before, here, rfl⟩ := Option.map_eq_some_iff.mp found
    exact (inductionHypothesis here).cons fun text => by
      simp [balancedLength, notQuote, notOpening, notClosing]

/-- The names of a list of type parameters, from what stands between its brackets. -/
def listedNames (inner : Text) : List Text :=
  ((splitTopLevel [','] inner).filter fun declaration => !declaration.isAllBlank).map parameterName

/-- The names of the list that follows a declared name, if it is closed. -/
def namesBehind? (tail : Text) : Option (List Text) :=
  (balancedLength .angle false 0 tail.dropBlanks).map fun count =>
    listedNames ((tail.dropBlanks.take (count - 1)).drop 1)

theorem namesBehind?_append {tail : Text} {names : List Text} (more : Text)
    (closed : namesBehind? tail = some names) : namesBehind? (tail ++ more) = some names := by
  obtain ⟨count, balanced, rfl⟩ := Option.map_eq_some_iff.mp closed
  obtain ⟨inside, rest, split, rfl, reads⟩ := balancedLength_eq_some rfl balanced
  have ink : tail.dropBlanks ≠ [] := by
    rw [split]
    simp
  have longer : (tail ++ more).dropBlanks = inside ++ '>' :: (rest ++ more) := by
    rw [Text.dropBlanks_append_of_ne_nil more ink, split, List.append_assoc]
    rfl
  rw [namesBehind?, longer, reads, split]
  simp only [Option.map_some, Nat.add_sub_cancel, List.take_left]

/-- Parameters are read from the list of the first generic declaration; without one there are
none. -/
theorem parameterNames_eq_ok_iff {text name : Text} {names : List Text} :
    parameterNames text name = .ok names ↔
      ((Header.findGeneric? name text).map DeclaredName.tail).elim (some []) namesBehind? =
        some names := by
  rw [parameterNames]
  cases Header.findGeneric? name text with
  | none =>
    simp only [Option.map_none, Option.elim_none, Except.ok.injEq, Option.some.injEq]
  | some declared =>
    simp only [Option.map_some, Option.elim_some, afterBalanced, namesBehind?]
    cases balanced : balancedLength .angle false 0 declared.tail.dropBlanks with
    | none => simp only [reduceCtorEq, Option.map_none]
    | some count =>
      obtain ⟨inside, rest, split, rfl, -⟩ := balancedLength_eq_some rfl balanced
      have counted : declared.tail.dropBlanks.length -
          (declared.tail.dropBlanks.drop (inside.length + 1)).length = inside.length + 1 := by
        rw [List.length_drop, split, List.length_append, List.length_cons]
        omega
      simp only [counted, Option.map_some, Except.ok.injEq, Option.some.injEq]
      rfl

/-! ### Looking for a declaration -/

namespace Header

theorem endsWord_of_isGenericTail {tail : Text} (generic : isGenericTail tail = true) :
    endsWord tail = true := by
  cases tail with
  | nil => rfl
  | cons c rest =>
    rw [isGenericTail, Text.dropBlanks, List.dropWhile_cons] at generic
    split at generic
    · next blank =>
      rw [endsWord, isIdentifierChar_of_isBlank blank]
      rfl
    · obtain rfl : c = '<' := by simpa using generic
      have sign : isIdentifierChar '<' = false := by decide +kernel
      rw [endsWord, sign]
      rfl

theorem dropBlanks_ne_nil_of_isGenericTail {tail : Text} (generic : isGenericTail tail = true) :
    tail.dropBlanks ≠ [] := by
  intro none
  rw [isGenericTail, none] at generic
  cases generic

theorem isGenericTail_append {tail : Text} (more : Text) (generic : isGenericTail tail = true) :
    isGenericTail (tail ++ more) = true := by
  rw [isGenericTail, Text.dropBlanks_append_of_ne_nil more
    (dropBlanks_ne_nil_of_isGenericTail generic)]
  rw [isGenericTail] at generic
  cases ahead : tail.dropBlanks with
  | nil => exact absurd ahead (dropBlanks_ne_nil_of_isGenericTail (by rw [isGenericTail, generic]))
  | cons c rest => rwa [ahead] at generic

/-- The declaration of a name whose keyword has been read, with the name at the front of `start`. -/
def namedAt? (name behind ahead start : Text) : Option DeclaredName :=
  match Text.after? name start with
  | some tail =>
    if endsWord tail && isGenericTail tail then
      some ⟨behind.reverse ++ ahead.take (ahead.length - start.length), tail⟩
    else none
  | none => none

theorem namedAt?_eq_some_iff {name behind ahead start : Text} {declared : DeclaredName} :
    namedAt? name behind ahead start = some declared ↔
      start = name ++ declared.tail ∧ isGenericTail declared.tail = true ∧
        declared.lead = behind.reverse ++ ahead.take (ahead.length - start.length) := by
  rw [namedAt?]
  cases ends : Text.after? name start with
  | none =>
    refine ⟨fun same => (nomatch same), fun ⟨split, _⟩ => ?_⟩
    rw [(Text.after?_eq_some_iff _ _ _).mpr split] at ends
    cases ends
  | some tail =>
    rw [Text.after?_eq_some_iff] at ends
    subst ends
    obtain ⟨lead, other⟩ := declared
    simp only [List.append_cancel_left_eq, Option.ite_none_right_eq_some, Bool.and_eq_true,
      Option.some.injEq, DeclaredName.mk.injEq]
    constructor
    · rintro ⟨⟨-, generic⟩, rfl, rfl⟩
      exact ⟨rfl, generic, rfl⟩
    · rintro ⟨rfl, generic, rfl⟩
      exact ⟨⟨endsWord_of_isGenericTail generic, generic⟩, rfl, rfl⟩

theorem findSome?_of_only {Item Result : Type} {test : Item → Option Result} {item : Item}
    {list : List Item} (member : item ∈ list)
    (only : ∀ other ∈ list, other ≠ item → test other = none) :
    list.findSome? test = test item := by
  cases here : test item with
  | none =>
    rw [List.findSome?_eq_none_iff]
    intro other inside
    by_cases same : other = item
    · rw [same, here]
    · exact only other inside same
  | some result =>
    obtain ⟨found, stops⟩ : ∃ found, list.findSome? test = some found := by
      rw [← Option.isSome_iff_exists, List.findSome?_isSome_iff]
      exact ⟨item, member, by rw [here]; rfl⟩
    obtain ⟨other, inside, passes⟩ := List.exists_of_findSome?_eq_some stops
    by_cases same : other = item
    · rw [stops, ← passes, same, here]
    · rw [only other inside same] at passes
      cases passes

/-- No two keywords begin with the same letter. -/
theorem keyword_eq_of_head? : ∀ keyword ∈ declarationKeywords, ∀ other ∈ declarationKeywords,
    keyword.head? = other.head? → keyword = other := by decide

theorem keyword_ne_nil : ∀ keyword ∈ declarationKeywords, keyword ≠ [] := by decide

/-- At a keyword no other one is found. -/
theorem findSome?_keyword {Result : Type} {keyword : Text}
    (isKeyword : keyword ∈ declarationKeywords) (rest : Text) (test : Text → Option Result) :
    (declarationKeywords.findSome? fun other => (Text.after? other (keyword ++ rest)).bind test) =
      test rest := by
  rw [findSome?_of_only isKeyword, Text.after?_append]
  · rfl
  · intro other isOther different
    cases passes : Text.after? other (keyword ++ rest) with
    | none => rfl
    | some behindOther =>
      rw [Text.after?_eq_some_iff] at passes
      have heads := congrArg List.head? passes
      rw [List.head?_append_of_ne_nil _ (keyword_ne_nil keyword isKeyword),
        List.head?_append_of_ne_nil _ (keyword_ne_nil other isOther)] at heads
      exact absurd (keyword_eq_of_head? keyword isKeyword other isOther heads) (Ne.symm different)

/-- At a keyword, the name is looked for behind every run of blanks, the longest first. -/
theorem declaredAt?_keyword {keyword : Text} (isKeyword : keyword ∈ declarationKeywords)
    (name : Text) {behind : Text} (begins : endsWord behind = true) (rest : Text) :
    declaredAt? isGenericTail name behind (keyword ++ rest) =
      (Text.afterSomeRuns isBlank rest).findSome? (namedAt? name behind (keyword ++ rest)) := by
  rw [declaredAt?, if_pos begins, findSome?_keyword isKeyword]
  rfl

/-- A name that is not found behind a run of blanks, although it is behind a shorter one, is not
found there with more text either: if it has a character that is no blank, then it would have to
begin with two different numbers of blanks, and if it has none, it would have been found. -/
theorem namedAt?_append_eq_none {name behind ahead longAhead start run : Text}
    {declared : DeclaredName} (more : Text) (nonempty : run ≠ [])
    (blank : ∀ c ∈ run, isBlank c = true)
    (found : namedAt? name behind ahead (run ++ start) = some declared)
    (notFound : namedAt? name behind ahead start = none) :
    namedAt? name behind longAhead (start ++ more) = none := by
  obtain ⟨reads, generic, -⟩ := namedAt?_eq_some_iff.mp found
  have ink : start.dropBlanks ≠ [] := by
    intro none
    have all : (run ++ start).dropBlanks = [] := by
      rw [Text.dropBlanks_append_of_blank _ blank, none]
    rw [reads] at all
    have blanks := List.dropWhile_eq_nil_iff.mp all
    refine dropBlanks_ne_nil_of_isGenericTail generic (List.dropWhile_eq_nil_iff.mpr ?_)
    exact fun c member => blanks c (List.mem_append_right _ member)
  cases other : namedAt? name behind longAhead (start ++ more) with
  | none => rfl
  | some further =>
    exfalso
    obtain ⟨alsoReads, -, -⟩ := namedAt?_eq_some_iff.mp other
    by_cases inked : name.dropBlanks = []
    · -- The name is blank, and the bracket follows it behind the longer run as well.
      have blankName := List.dropWhile_eq_nil_iff.mp inked
      rcases List.append_eq_append_iff.mp alsoReads with ⟨middle, same, -⟩ | ⟨middle, same, -⟩
      · refine ink (List.dropWhile_eq_nil_iff.mpr fun c member => blankName c ?_)
        rw [same]
        exact List.mem_append_left _ member
      · have generically : isGenericTail middle = true := by
          have ahead := congrArg Text.dropBlanks reads
          rw [Text.dropBlanks_append_of_blank _ blank, same,
            Text.dropBlanks_append_of_blank _ blankName,
            Text.dropBlanks_append_of_blank _ blankName] at ahead
          rw [isGenericTail, ahead]
          exact generic
        have isFound : namedAt? name behind ahead start =
            some ⟨behind.reverse ++ ahead.take (ahead.length - start.length), middle⟩ :=
          namedAt?_eq_some_iff.mpr ⟨same, generically, rfl⟩
        rw [notFound] at isFound
        cases isFound
    · -- The blanks that the name begins with would be those of `start`, and those of `run` as well.
      have first := congrArg List.length (congrArg Text.dropBlanks reads)
      have second := congrArg List.length (congrArg Text.dropBlanks alsoReads)
      rw [Text.dropBlanks_append_of_blank _ blank, Text.dropBlanks_append_of_ne_nil _ inked,
        List.length_append] at first
      rw [Text.dropBlanks_append_of_ne_nil _ ink, Text.dropBlanks_append_of_ne_nil _ inked,
        List.length_append, List.length_append] at second
      have whole := congrArg List.length reads
      have alsoWhole := congrArg List.length alsoReads
      simp only [List.length_append] at whole alsoWhole
      have longer := List.length_pos_iff.mpr nonempty
      omega

/-- A generic declaration that is found in a text is found there with more text behind it. -/
theorem declaredAt?_append {name behind here : Text} {declared : DeclaredName} (more : Text)
    (found : declaredAt? isGenericTail name behind here = some declared) :
    declaredAt? isGenericTail name behind (here ++ more) =
      some ⟨declared.lead, declared.tail ++ more⟩ := by
  obtain ⟨keyword, blanks, shape⟩ := declaredAt?_eq_some found
  obtain ⟨rest, split⟩ : ∃ rest, here = keyword ++ rest :=
    ⟨_, by rw [shape.reads, List.append_assoc, List.append_assoc]⟩
  have stops : ∃ c ∈ rest, isBlank c = false := by
    have reads := shape.reads
    rw [split, List.append_assoc, List.append_assoc, List.append_cancel_left_eq] at reads
    by_contra none
    simp only [not_exists, not_and, Bool.not_eq_false] at none
    refine dropBlanks_ne_nil_of_isGenericTail shape.tested (List.dropWhile_eq_nil_iff.mpr ?_)
    intro c member
    refine none c ?_
    rw [reads]
    exact List.mem_append_right _ (List.mem_append_right _ member)
  rw [split, declaredAt?_keyword shape.isKeyword name shape.begins] at found
  rw [split, List.append_assoc, declaredAt?_keyword shape.isKeyword name shape.begins,
    Text.afterSomeRuns_append more stops, List.findSome?_eq_some_iff]
  obtain ⟨shorter, start, longer, runs, named, unnamed⟩ := List.findSome?_eq_some_iff.mp found
  have order := Text.pairwise_afterSomeRuns isBlank rest
  rw [runs, List.pairwise_append] at order
  refine ⟨shorter.map (· ++ more), start ++ more, longer.map (· ++ more), ?_, ?_, ?_⟩
  · rw [runs, List.map_append, List.map_cons]
  · obtain ⟨reads, generic, lead⟩ := namedAt?_eq_some_iff.mp named
    refine namedAt?_eq_some_iff.mpr ⟨?_, isGenericTail_append more generic, ?_⟩
    · rw [reads, List.append_assoc]
    · have member : start ∈ Text.afterSomeRuns isBlank rest := by
        rw [runs]
        exact List.mem_append_right _ List.mem_cons_self
      obtain ⟨run, rfl⟩ := Text.suffix_of_mem_afterSomeRuns member
      have shorterTake : (keyword ++ (run ++ start)).take
          ((keyword ++ (run ++ start)).length - start.length) = keyword ++ run := by
        rw [← List.append_assoc, List.length_append, Nat.add_sub_cancel, List.take_left]
      have longerTake : (keyword ++ (run ++ start ++ more)).take
          ((keyword ++ (run ++ start ++ more)).length - (start ++ more).length) =
          keyword ++ run := by
        rw [List.append_assoc run, ← List.append_assoc, List.length_append, Nat.add_sub_cancel,
          List.take_left]
      rw [longerTake, lead, shorterTake]
  · intro other member
    obtain ⟨before, inside, rfl⟩ := List.mem_map.mp member
    obtain ⟨run, nonempty, longerStart, blank⟩ := order.2.2 before inside start List.mem_cons_self
    rw [longerStart] at named
    exact namedAt?_append_eq_none more nonempty blank named (unnamed before inside)

/-- No declaration begins with a blank. -/
theorem declaredAt?_blank {name behind rest : Text} {c : Char} (blank : isBlank c = true) :
    declaredAt? isGenericTail name behind (c :: rest) = none := by
  cases found : declaredAt? isGenericTail name behind (c :: rest) with
  | none => rfl
  | some declared =>
    obtain ⟨keyword, blanks, shape⟩ := declaredAt?_eq_some found
    have letters : ∀ word ∈ declarationKeywords, word.head?.all (fun c => !isBlank c) = true := by
      decide +kernel
    have inked := letters keyword shape.isKeyword
    have heads := congrArg List.head? shape.reads
    rw [List.append_assoc, List.append_assoc,
      List.head?_append_of_ne_nil _ (keyword_ne_nil keyword shape.isKeyword)] at heads
    rw [← heads, List.head?_cons, Option.all_some, blank] at inked
    cases inked

theorem declaredAt?_nil (name behind : Text) : declaredAt? isGenericTail name behind [] = none := by
  cases found : declaredAt? isGenericTail name behind [] with
  | none => rfl
  | some declared =>
    obtain ⟨keyword, blanks, shape⟩ := declaredAt?_eq_some found
    have parts := shape.reads.symm
    simp only [List.append_eq_nil_iff] at parts
    exact absurd parts.1.1.1 (keyword_ne_nil keyword shape.isKeyword)

/-- What stands behind a place matters only as to whether a word ends there. -/
theorem tail_declaredAt? (name behind ahead : Text) :
    (declaredAt? isGenericTail name behind ahead).map DeclaredName.tail =
      if endsWord behind then
        (declaredAt? isGenericTail name [] ahead).map DeclaredName.tail
      else none := by
  rw [declaredAt?, declaredAt?, if_pos (show endsWord [] = true from rfl)]
  split
  · simp only [List.map_findSome?, Function.comp_def, Option.map_bind]
    refine congrArg (List.findSome? · _) (funext fun keyword => ?_)
    refine congrArg (Option.bind _) (funext fun rest => ?_)
    refine congrArg (List.findSome? · _) (funext fun start => ?_)
    cases Text.after? name start with
    | none => rfl
    | some tail =>
      dsimp only
      split <;> rfl
  · rfl

/-- Whether every generic declaration of a name that begins in `here`, with `more` behind it, is
closed in `here`. -/
def staysIn (name : Text) : (behind here more : Text) → Bool
  | _, [], _ => true
  | behind, c :: rest, more =>
    ((declaredAt? isGenericTail name behind (c :: rest ++ more)).isNone ||
      (declaredAt? isGenericTail name behind (c :: rest)).any fun declared =>
        (namesBehind? declared.tail).isSome) &&
      staysIn name (c :: behind) rest more

/-- Whether a generic declaration of a name begins in `here`, with `more` behind it. -/
def beginsIn (name : Text) : (behind here more : Text) → Bool
  | _, [], _ => false
  | behind, c :: rest, more =>
    (declaredAt? isGenericTail name behind (c :: rest ++ more)).isSome ||
      beginsIn name (c :: behind) rest more

theorem beginsIn_of_blank {name blanks more : Text} (blank : ∀ c ∈ blanks, isBlank c = true)
    (behind : Text) : beginsIn name behind blanks more = false := by
  induction blanks generalizing behind with
  | nil => rfl
  | cons c blanks inductionHypothesis =>
    rw [beginsIn, List.cons_append, declaredAt?_blank (blank c List.mem_cons_self),
      inductionHypothesis fun other member => blank other (List.mem_cons_of_mem _ member)]
    rfl

section

variable {name behind here more : Text}

/-- A search goes on behind a stretch in which no declaration begins. -/
theorem firstPlace_of_beginsIn (none : beginsIn name behind here more = false) :
    Text.firstPlace (declaredAt? isGenericTail name) behind (here ++ more) =
      Text.firstPlace (declaredAt? isGenericTail name) (here.reverse ++ behind) more := by
  induction here generalizing behind with
  | nil => rfl
  | cons c here inductionHypothesis =>
    rw [beginsIn, Bool.or_eq_false_iff, Option.isSome_eq_false_iff, Option.isNone_iff_eq_none,
      List.cons_append] at none
    rw [List.cons_append, Text.firstPlace, none.1, List.reverse_cons, List.append_assoc]
    exact inductionHypothesis none.2

/-- Where declarations stay in a stretch, a search that finds none in it alone finds none in it with
more behind. -/
theorem beginsIn_of_staysIn (stays : staysIn name behind here more = true)
    (none : Text.firstPlace (declaredAt? isGenericTail name) behind here = none) :
    beginsIn name behind here more = false := by
  induction here generalizing behind with
  | nil => rfl
  | cons c here inductionHypothesis =>
    rw [staysIn, Bool.and_eq_true] at stays
    rw [Text.firstPlace] at none
    cases alone : declaredAt? isGenericTail name behind (c :: here) with
    | some declared =>
      rw [alone] at none
      cases none
    | none =>
      rw [alone] at none
      rw [alone, Option.any_none, Bool.or_false, Option.isNone_iff_eq_none] at stays
      rw [beginsIn, stays.1, inductionHypothesis stays.2 none]
      rfl

/-- Where declarations stay in a stretch, the first one that is found in it alone is found with more
behind it as well, and its list is closed. -/
theorem firstPlace_of_staysIn (stays : staysIn name behind here more = true)
    {declared : DeclaredName}
    (found : Text.firstPlace (declaredAt? isGenericTail name) behind here = some declared) :
    Text.firstPlace (declaredAt? isGenericTail name) behind (here ++ more) =
        some ⟨declared.lead, declared.tail ++ more⟩ ∧
      (namesBehind? declared.tail).isSome = true := by
  induction here generalizing behind with
  | nil =>
    rw [Text.firstPlace, declaredAt?_nil] at found
    cases found
  | cons c here inductionHypothesis =>
    rw [staysIn, Bool.and_eq_true] at stays
    rw [Text.firstPlace] at found
    rw [List.cons_append, Text.firstPlace]
    cases alone : declaredAt? isGenericTail name behind (c :: here) with
    | some other =>
      rw [alone] at found
      cases found
      have longer := declaredAt?_append more alone
      rw [List.cons_append] at longer stays
      rw [longer]
      rw [longer, alone, Option.isNone_some, Bool.false_or, Option.any_some] at stays
      exact ⟨rfl, stays.1⟩
    | none =>
      rw [alone] at found
      rw [alone, Option.any_none, Bool.or_false, Option.isNone_iff_eq_none,
        List.cons_append] at stays
      rw [stays.1]
      exact inductionHypothesis stays.2 found

end

/-- From the same text on, searches find the same list, unless a declaration begins at once that one
of them cannot see for the word that stands behind. -/
theorem tail_firstPlace {name first second after : Text}
    (edge : endsWord first = endsWord second ∨ declaredAt? isGenericTail name [] after = none) :
    (Text.firstPlace (declaredAt? isGenericTail name) first after).map DeclaredName.tail =
      (Text.firstPlace (declaredAt? isGenericTail name) second after).map DeclaredName.tail := by
  induction after generalizing first second with
  | nil => rw [Text.firstPlace, Text.firstPlace, declaredAt?_nil, declaredAt?_nil]
  | cons c after inductionHypothesis =>
    have here : (declaredAt? isGenericTail name first (c :: after)).map DeclaredName.tail =
        (declaredAt? isGenericTail name second (c :: after)).map DeclaredName.tail := by
      rw [tail_declaredAt?, tail_declaredAt? name second]
      rcases edge with same | none
      · rw [same]
      · rw [none, Option.map_none, ite_self, ite_self]
    have later := @inductionHypothesis (c :: first) (c :: second) (Or.inl rfl)
    rw [Text.firstPlace, Text.firstPlace]
    cases one : declaredAt? isGenericTail name first (c :: after) with
    | none =>
      rw [one, Option.map_none, eq_comm, Option.map_eq_none_iff] at here
      rw [here]
      exact later
    | some declared =>
      rw [one] at here
      cases two : declaredAt? isGenericTail name second (c :: after) with
      | none =>
        rw [two] at here
        cases here
      | some other =>
        rw [two] at here
        exact here

end Header

/-! ### Edits that keep clear of declarations -/

namespace Edit

/-- An edit that keeps clear of the generic declarations of a name: those that begin before the cut
are closed before it, in the old text and in the new one; and unless there is such a declaration,
none begins in the cut, and none behind it comes to stand at the end of a word or away from one. -/
def Clear (name : Text) (edit : Edit) : Prop :=
  Header.staysIn name [] edit.before (edit.cut ++ edit.after) = true ∧
    Header.staysIn name [] edit.before (edit.filler ++ edit.after) = true ∧
    ((Header.findGeneric? name edit.before).isSome = true ∨
      Header.beginsIn name edit.before.reverse edit.cut edit.after = false ∧
        (endsWord (edit.cut.reverse ++ edit.before.reverse) =
            endsWord (edit.filler.reverse ++ edit.before.reverse) ∨
          Header.declaredAt? Header.isGenericTail name [] edit.after = none))

instance (name : Text) (edit : Edit) : Decidable (edit.Clear name) :=
  inferInstanceAs (Decidable (_ ∧ _ ∧ _))

/-- Such an edit leaves the parameters that are read. -/
theorem Clear.parameterNames_iff {name : Text} {edit : Edit} (clear : edit.Clear name)
    (names : List Text) :
    parameterNames edit.old name = .ok names ↔ parameterNames edit.new name = .ok names := by
  obtain ⟨old, new, apart⟩ := clear
  rw [parameterNames_eq_ok_iff, parameterNames_eq_ok_iff]
  unfold Header.findGeneric? at apart ⊢
  cases found : Text.firstPlace (Header.declaredAt? Header.isGenericTail name) [] edit.before with
  | some declared =>
    obtain ⟨inOld, closed⟩ := Header.firstPlace_of_staysIn old found
    obtain ⟨inNew, -⟩ := Header.firstPlace_of_staysIn new found
    obtain ⟨listed, isListed⟩ := Option.isSome_iff_exists.mp closed
    rw [Edit.old, Edit.new, inOld, inNew]
    simp only [Option.map_some, Option.elim_some, namesBehind?_append _ isListed]
  | none =>
    rw [found] at apart
    obtain ⟨cut, edge⟩ := apart.resolve_left (by simp)
    rw [Edit.old, Header.firstPlace_of_beginsIn (Header.beginsIn_of_staysIn old found),
      List.append_nil, Header.firstPlace_of_beginsIn cut, Edit.new,
      Header.firstPlace_of_beginsIn (Header.beginsIn_of_staysIn new found), List.append_nil,
      Header.firstPlace_of_beginsIn (Header.beginsIn_of_blank edit.blank _),
      Header.tail_firstPlace edge]

end Edit

theorem Performed.parameterNames_iff {name text result : Text} {edits : List Edit}
    (performed : Performed text edits result) (clear : ∀ edit ∈ edits, edit.Clear name)
    (names : List Text) :
    parameterNames text name = .ok names ↔ parameterNames result name = .ok names := by
  induction performed with
  | nil => exact Iff.rfl
  | cons edit starts _ inductionHypothesis =>
    rw [starts, (clear edit List.mem_cons_self).parameterNames_iff]
    exact inductionHypothesis fun other member => clear other (List.mem_cons_of_mem _ member)

/-! ### The header that is replaced -/

/-- The list that goes with a header is the one that the parameters are read from. -/
theorem Header.exists_list_of_find {name text : Text} {header : Header}
    (found : find name text = .ok header) :
    ∃ blanks inner rest, text = header.lead ++ name ++ blanks ++ '<' :: (inner ++ '>' :: rest) ∧
      (∀ c ∈ blanks, isBlank c = true) ∧ Text.dropBlanks rest = header.opening ++ header.tail ∧
      parameterNames text name = .ok (listedNames inner) := by
  rw [find] at found
  cases declaredFound : findGeneric? name text with
  | none =>
    rw [declaredFound] at found
    cases found
  | some declared =>
    simp only [declaredFound, afterBalanced] at found
    cases balanced : balancedLength .angle false 0 declared.tail.dropBlanks with
    | none =>
      rw [balanced] at found
      cases found
    | some count =>
      simp only [balanced] at found
      cases found
      obtain ⟨inside, rest, split, rfl, -⟩ := balancedLength_eq_some rfl balanced
      obtain ⟨_, _, _, _, _, shape⟩ := firstDeclared_shape declaredFound
      obtain ⟨inner, rfl⟩ : ∃ inner, inside = '<' :: inner := by
        have opens := shape.tested
        rw [isGenericTail, split] at opens
        cases inside with
        | nil => exact absurd opens (by simp)
        | cons c inner =>
          obtain rfl : c = '<' := by simpa using opens
          exact ⟨inner, rfl⟩
      have whole : declared.tail = declared.tail.takeWhile isBlank ++
          '<' :: (inner ++ '>' :: rest) := by
        rw [← List.cons_append, ← split]
        exact List.takeWhile_append_dropWhile.symm
      have behind : declared.tail.dropBlanks.drop (('<' :: inner).length + 1) = rest := by
        rw [split, List.drop_append, List.drop_of_length_le (Nat.le_succ _), Nat.add_sub_cancel_left]
        rfl
      refine ⟨declared.tail.takeWhile isBlank, inner, rest, ?_, ?_, ?_, ?_⟩
      · rw [List.append_assoc, ← whole]
        exact firstDeclared_eq_some declaredFound
      · exact fun c member => List.all_eq_true.mp List.all_takeWhile c member
      · rw [← behind, splitOpening_append]
      · rw [parameterNames_eq_ok_iff, declaredFound]
        simp only [Option.map_some, Option.elim_some, namesBehind?, balanced]
        rw [split, Nat.add_sub_cancel, List.take_left]
        rfl

/-- Where all edits of a cleaning keep clear of the declarations of a unit's name, the parameters
that are read from the source are those that the cleaned text declares; and where the header of an
instantiation is found in the cleaned text, they are those in the list that goes with it. -/
theorem SourceUnit.parameters_of_replaced_header (unit : SourceUnit) (text : Text)
    (cleaned : unit.cleaned = .ok text) (clear : ∀ edit ∈ unit.edits, edit.Clear unit.simple) :
    (∀ names, (∃ read, SourceUnit.ofText unit.name unit.text none (some unit.markers) unit.imports
        unit.sigil = .ok read ∧ read.parameters = names) ↔
      parameterNames text unit.simple = .ok names) ∧
    ∀ header, Header.find unit.simple text = .ok header →
      ∃ blanks inner rest read,
        text = header.lead ++ unit.simple ++ blanks ++ '<' :: (inner ++ '>' :: rest) ∧
        (∀ c ∈ blanks, isBlank c = true) ∧ Text.dropBlanks rest = header.opening ++ header.tail ∧
        SourceUnit.ofText unit.name unit.text none (some unit.markers) unit.imports unit.sigil =
          .ok read ∧ read.parameters = listedNames inner := by
  have raw (names : List Text) : (∃ read, SourceUnit.ofText unit.name unit.text none
      (some unit.markers) unit.imports unit.sigil = .ok read ∧ read.parameters = names) ↔
      parameterNames unit.text unit.simple = .ok names := by
    unfold SourceUnit.ofText SourceUnit.simple
    cases parameterNames unit.text (simpleName unit.name) with
    | error failure => exact ⟨fun ⟨_, same, _⟩ => (nomatch same), fun same => (nomatch same)⟩
    | ok parameters =>
      constructor
      · rintro ⟨read, ⟨⟩, rfl⟩
        rfl
      · rintro ⟨⟩
        exact ⟨_, rfl, rfl⟩
  have same (names : List Text) :=
    (raw names).trans ((SourceUnit.performed_of_cleaned cleaned).parameterNames_iff clear names)
  refine ⟨same, fun header found => ?_⟩
  obtain ⟨blanks, inner, rest, reads, blank, behind, listed⟩ := Header.exists_list_of_find found
  obtain ⟨read, isRead, parameters⟩ := (same _).mpr listed
  exact ⟨blanks, inner, rest, read, reads, blank, behind, isRead, parameters⟩

namespace SourceUnit

/-- A unit with an import that goes and a directive that mentions the unit's name in its
arguments. -/
def mentioningUnit : SourceUnit where
  name := "x.Pair".toList
  text := ("package x;\n\nimport a.Template;\n\n@Template(doc = \"expands Pair<T> style\")\n" ++
    "class Pair<A, B> \x7b A a; B b; \x7d\n").toList
  parameters := []
  markers := defaultMarkers
  imports := ["a.Template".toList]
  sigil := defaultSigil

theorem parameters_of_replaced_header_mentioning :
    mentioningUnit.cleaned =
        .ok "package x;\n\nclass Pair<A, B> \x7b A a; B b; \x7d\n".toList ∧
      (∀ edit ∈ mentioningUnit.edits, edit.Clear mentioningUnit.simple) ∧
      mentioningUnit.edits.length = 2 ∧
      ∃ read, SourceUnit.ofText mentioningUnit.name mentioningUnit.text none
        (some mentioningUnit.markers) mentioningUnit.imports mentioningUnit.sigil = .ok read ∧
        read.parameters = [['A'], ['B']] := by
  have cleaned : mentioningUnit.cleaned =
      .ok "package x;\n\nclass Pair<A, B> \x7b A a; B b; \x7d\n".toList := by decide +kernel
  have clear : ∀ edit ∈ mentioningUnit.edits, edit.Clear mentioningUnit.simple := by
    decide +kernel
  have both := parameters_of_replaced_header mentioningUnit _ cleaned clear
  exact ⟨cleaned, clear, by decide +kernel, (both.1 [['A'], ['B']]).mpr (by decide +kernel)⟩

/-- A unit with a directive that has a declaration of the unit's name in its arguments. -/
def misleadingUnit : SourceUnit where
  name := "x.Pair".toList
  text := "@Template(\"class Pair<X>\")\nclass Pair<A, B> \x7b A a; B b; \x7d\n".toList
  parameters := []
  markers := defaultMarkers
  imports := []
  sigil := defaultSigil

/-- What a directive's arguments declare is read in place of what the unit declares, although it is
gone when the header is replaced. -/
theorem parameters_of_misleading_directive :
    misleadingUnit.cleaned = .ok "class Pair<A, B> \x7b A a; B b; \x7d\n".toList ∧
      (SourceUnit.ofText misleadingUnit.name misleadingUnit.text none
        (some misleadingUnit.markers) misleadingUnit.imports misleadingUnit.sigil).map
          SourceUnit.parameters = .ok [['X']] ∧
      parameterNames "class Pair<A, B> \x7b A a; B b; \x7d\n".toList misleadingUnit.simple =
        .ok [['A'], ['B']] :=
  ⟨by decide +kernel, by decide +kernel, by decide +kernel⟩

end SourceUnit

end Stencil
