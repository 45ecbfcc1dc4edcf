/-
This file proves which name is found behind annotations. The arguments of an annotation are passed
over up to the first closing parenthesis, which is the right one unless the arguments have
parentheses themselves. If they have, the search goes on in the middle of them, with a closing
parenthesis still ahead that nothing opens any more. No search gets beyond such a parenthesis:
blanks, names and annotations without arguments stop in front of it, and arguments that begin before
it end before it, or at it in the middle of others. So the name of the parameter is read exactly if
no arguments have parentheses in them; otherwise what is found is a piece of the annotations, or
nothing, whatever follows them.
-/
import Mathlib.Data.List.DropRight
import Stencil.Proofs.ParameterLists

namespace Stencil

/-! ### Annotations -/

/-- The brackets of arguments. -/
def roundBrackets : List (Char × Char) := [('(', ')')]

/-- Arguments as they are written, in properly nested parentheses. -/
structure Arguments where
  gap : Text
  inner : Text
  gapBlank : ∀ c ∈ gap, isBlank c = true
  nested : Nested roundBrackets [] inner

/-- An annotation as it is written: blanks, its sign and its name, and perhaps arguments. -/
structure Annotation where
  lead : Text
  gap : Text
  name : Text
  arguments : Option Arguments
  leadBlank : ∀ c ∈ lead, isBlank c = true
  gapBlank : ∀ c ∈ gap, isBlank c = true
  named : name ≠ []
  letters : ∀ c ∈ name, isAnnotationChar c = true

/-- What follows the first closing parenthesis of a text. -/
def behindFirstClosing (text : Text) : Text := (text.dropWhile (· != ')')).drop 1

namespace Annotation

/-- The arguments with their parentheses; nothing if there are none. -/
def argumentsText (label : Annotation) : Text :=
  label.arguments.elim [] fun arguments =>
    arguments.gap ++ '(' :: (arguments.inner ++ [')'])

/-- The annotation as it is written. -/
def text (label : Annotation) : Text :=
  label.lead ++ '@' :: (label.gap ++ (label.name ++ label.argumentsText))

/-- Annotations one after another. -/
def texts (annotations : List Annotation) : Text := annotations.flatMap text

/-- An annotation whose arguments, if any, have no parentheses in them. -/
def IsFlat (label : Annotation) : Prop :=
  ∀ arguments ∈ label.arguments, '(' ∉ arguments.inner

/-- Where the search goes on behind an annotation that `ahead` follows. -/
def behind (label : Annotation) (ahead : Text) : Text :=
  label.arguments.elim ahead fun arguments =>
    behindFirstClosing (arguments.inner ++ ')' :: ahead)

end Annotation

/-! ### The first closing parenthesis -/

theorem behindFirstClosing_cons {c : Char} (notClosing : c ≠ ')') (text : Text) :
    behindFirstClosing (c :: text) = behindFirstClosing text := by
  rw [behindFirstClosing, List.dropWhile_cons_of_pos (by simpa using notClosing)]
  rfl

/-- The first closing parenthesis behind nested parentheses is the one that closes them if there are
none; if there are some, another one stays ahead that no opening one goes with. -/
theorem Nested.behindFirstClosing {barred : List Char} {inner : Text}
    (nested : Nested roundBrackets barred inner) :
    ('(' ∉ inner ∧ ∀ ahead, behindFirstClosing (inner ++ ')' :: ahead) = ahead) ∨
      '(' ∈ inner ∧ ∃ part rest, Nested roundBrackets [] part ∧
        ∀ ahead, behindFirstClosing (inner ++ ')' :: ahead) = part ++ ')' :: (rest ++ ahead) := by
  induction nested with
  | nil => exact Or.inl ⟨List.not_mem_nil, fun ahead => rfl⟩
  | @sign barred c text noBracket _ _ inductionHypothesis =>
    obtain ⟨notOpening, notClosing⟩ := noBracket ('(', ')') List.mem_cons_self
    simp only [List.cons_append, behindFirstClosing_cons notClosing, List.mem_cons,
      Ne.symm notOpening, false_or]
    exact inductionHypothesis
  | @group barred pair inner text listed _ later insideHypothesis _ =>
    obtain rfl := List.mem_singleton.mp listed
    refine Or.inr ⟨List.mem_cons_self, ?_⟩
    rcases insideHypothesis with ⟨-, flat⟩ | ⟨-, part, rest, nested, deep⟩
    · refine ⟨text, [], later.unbarred, fun ahead => ?_⟩
      rw [List.cons_append, behindFirstClosing_cons (by decide), List.append_assoc,
        List.cons_append, flat]
      rfl
    · refine ⟨part, rest ++ (text ++ [')']), nested, fun ahead => ?_⟩
      rw [List.cons_append, behindFirstClosing_cons (by decide), List.append_assoc,
        List.cons_append, deep]
      simp only [List.append_assoc, List.singleton_append]

/-- What nested parentheses begin with: a character that is none, or a group. -/
theorem Nested.first_cases {barred : List Char} {c : Char} {text : Text}
    (nested : Nested roundBrackets barred (c :: text)) :
    c ≠ '(' ∧ Nested roundBrackets barred text ∨
      c = '(' ∧ ∃ inner rest, text = inner ++ ')' :: rest ∧ Nested roundBrackets [] inner ∧
        Nested roundBrackets barred rest := by
  cases nested with
  | sign noBracket _ later => exact Or.inl ⟨(noBracket ('(', ')') List.mem_cons_self).1, later⟩
  | group pair listed inside later =>
    rw [List.mem_singleton.mp listed]
    exact Or.inr ⟨rfl, _, _, rfl, inside, later⟩

theorem Nested.dropWhile {pairs : List (Char × Char)} {barred : List Char} {text : Text}
    {inClass : Char → Bool} (outside : ∀ pair ∈ pairs, inClass pair.1 = false)
    (nested : Nested pairs barred text) : Nested pairs barred (text.dropWhile inClass) := by
  induction nested with
  | nil => exact .nil _
  | sign noBracket allowed later inductionHypothesis =>
    rw [List.dropWhile_cons]
    split
    · exact inductionHypothesis
    · exact .sign noBracket allowed later
  | group pair listed inside later _ _ =>
    rw [List.dropWhile_cons_of_neg (Bool.eq_false_iff.mp (outside pair listed))]
    exact .group pair listed inside later

theorem afterArguments?_opening (inner ahead : Text) :
    afterArguments? ('(' :: (inner ++ ')' :: ahead)) =
      some (behindFirstClosing (inner ++ ')' :: ahead)) := by
  rw [afterArguments?, behindFirstClosing, Text.dropWhile_append_cut (by decide)]
  cases inner.dropWhile (· != ')') <;> rfl

theorem afterArguments?_of_head? {text : Text} (other : text.head? ≠ some '(') :
    afterArguments? text = none := by
  unfold afterArguments?
  split
  · exact absurd rfl other
  · rfl

/-- What follows arguments comes behind one character at least. -/
theorem exists_lead_of_afterArguments? {text rest : Text} (found : afterArguments? text = some rest) :
    ∃ c lead, text = c :: lead ++ rest := by
  unfold afterArguments? at found
  split at found
  · next inner =>
    split at found
    · cases found
    · next c behind same =>
      cases found
      refine ⟨'(', inner.takeWhile (· != ')') ++ [c], ?_⟩
      rw [List.cons_append, List.append_assoc, List.singleton_append, ← same,
        List.takeWhile_append_dropWhile]
  · cases found

/-! ### The search -/

/-- The name of the annotation whose sign has just been read. -/
def annotationName (text : Text) : Text := text.dropBlanks.takeWhile isAnnotationChar

/-- What follows the name of the annotation whose sign has just been read. -/
def behindName (text : Text) : Text :=
  Text.dropBlanks (text.dropBlanks.dropWhile isAnnotationChar)

section

variable {fuel : Nat} {text rest : Text}

theorem nameBehindAnnotations?_sign (annotated : text.dropBlanks = '@' :: rest) :
    nameBehindAnnotations? (fuel + 1) text =
      if (annotationName rest).isEmpty then none
      else ((afterArguments? (behindName rest)).bind (nameBehindAnnotations? fuel)).or
        ((nameBehindAnnotations? fuel (behindName rest)).or
          (innerName? (annotationName rest))) := by
  rw [nameBehindAnnotations?, annotated]
  rfl

theorem nameBehindAnnotations?_plain (plain : text.dropBlanks.head? ≠ some '@') :
    nameBehindAnnotations? (fuel + 1) text = leadingName? text.dropBlanks := by
  rw [nameBehindAnnotations?]
  split
  · next same =>
    rw [same] at plain
    exact absurd rfl plain
  · rfl

/-- A text either begins with the sign of an annotation, behind blanks, or it does not. -/
theorem sign_or_plain (text : Text) :
    (∃ rest, text.dropBlanks = '@' :: rest) ∨ text.dropBlanks.head? ≠ some '@' := by
  by_cases annotated : text.dropBlanks.head? = some '@'
  · exact Or.inl (List.head?_eq_some_iff.mp annotated)
  · exact Or.inr annotated

theorem length_behindName (annotated : text.dropBlanks = '@' :: rest) :
    (behindName rest).length < text.length := by
  have whole := List.length_dropWhile_le isBlank text
  have blanks := List.length_dropWhile_le isBlank rest
  have name := List.length_dropWhile_le isAnnotationChar rest.dropBlanks
  have behind := List.length_dropWhile_le isBlank (rest.dropBlanks.dropWhile isAnnotationChar)
  rw [← Text.dropBlanks, annotated, List.length_cons] at whole
  rw [← Text.dropBlanks] at blanks behind
  rw [behindName]
  omega

/-- Fuel that is more than the length of the text is enough. -/
theorem nameBehindAnnotations?_of_lt {other : Nat} (enough : text.length < fuel)
    (alsoEnough : text.length < other) :
    nameBehindAnnotations? fuel text = nameBehindAnnotations? other text := by
  induction fuel generalizing text other with
  | zero => exact absurd enough (Nat.not_lt_zero _)
  | succ fuel inductionHypothesis =>
    obtain ⟨other, rfl⟩ := Nat.exists_eq_succ_of_ne_zero (Nat.ne_zero_of_lt alsoEnough)
    rcases sign_or_plain text with ⟨rest, annotated⟩ | plain
    · have shorter := length_behindName annotated
      have arguments : (afterArguments? (behindName rest)).bind (nameBehindAnnotations? fuel) =
          (afterArguments? (behindName rest)).bind (nameBehindAnnotations? other) := by
        refine Option.bind_congr fun behind found => ?_
        obtain ⟨c, lead, split⟩ := exists_lead_of_afterArguments? found
        rw [split, List.length_append, List.length_cons] at shorter
        exact inductionHypothesis (by omega) (by omega)
      rw [nameBehindAnnotations?_sign annotated, nameBehindAnnotations?_sign annotated, arguments,
        @inductionHypothesis _ other (by omega) (by omega)]
    · rw [nameBehindAnnotations?_plain plain, nameBehindAnnotations?_plain plain]

theorem nameBehindAnnotations?_dropBlanks (fuel : Nat) (text : Text) :
    nameBehindAnnotations? fuel text.dropBlanks = nameBehindAnnotations? fuel text := by
  have twice : text.dropBlanks.dropBlanks = text.dropBlanks := List.dropWhile_idempotent isBlank text
  cases fuel with
  | zero => rfl
  | succ fuel => rw [nameBehindAnnotations?, nameBehindAnnotations?, twice]

end

/-! ### One annotation -/

theorem isBlank_of_isAnnotationChar {c : Char} (letter : isAnnotationChar c = true) :
    isBlank c = false := by
  rw [← Bool.not_eq_true]
  intro blank
  rw [isAnnotationChar, isIdentifierChar_of_isBlank blank, Bool.or_false, beq_iff_eq] at letter
  subst letter
  revert blank
  decide

theorem isAnnotationChar_of_isBlank {c : Char} (blank : isBlank c = true) :
    isAnnotationChar c = false := by
  rw [← Bool.not_eq_true]
  intro letter
  exact Bool.false_ne_true ((isBlank_of_isAnnotationChar letter).symm.trans blank)

namespace Annotation

variable {ahead : Text}

/-- What follows an annotation without arguments goes on neither with its name nor with
arguments. -/
def EndsBefore (label : Annotation) (ahead : Text) : Prop :=
  label.arguments = none →
    (∀ c, ahead.head? = some c → isAnnotationChar c = false) ∧ ahead.dropBlanks.head? ≠ some '('

/-- What follows the name of an annotation. -/
theorem behindName_text (label : Annotation) (ends : label.EndsBefore ahead) :
    annotationName (label.gap ++ (label.name ++ (label.argumentsText ++ ahead))) =
        label.name ∧
      behindName (label.gap ++ (label.name ++ (label.argumentsText ++ ahead))) =
        Text.dropBlanks (label.argumentsText ++ ahead) := by
  have named (c : Char)
      (first : (label.name ++ (label.argumentsText ++ ahead)).head? = some c) :
      isBlank c = false := by
    rw [List.head?_append_of_ne_nil _ label.named] at first
    exact isBlank_of_isAnnotationChar (label.letters c (List.mem_of_mem_head? first))
  have nameEnds (c : Char) (first : (label.argumentsText ++ ahead).head? = some c) :
      isAnnotationChar c = false := by
    rw [argumentsText] at first
    cases same : label.arguments with
    | none =>
      rw [same] at first
      exact (ends same).1 c first
    | some arguments =>
      rw [same] at first
      cases gap : arguments.gap with
      | nil =>
        obtain rfl : '(' = c := by simpa [gap] using first
        decide +kernel
      | cons d blanks =>
        obtain rfl : d = c := by simpa [gap] using first
        exact isAnnotationChar_of_isBlank (arguments.gapBlank d (gap ▸ List.mem_cons_self))
  have unspaced : Text.dropBlanks
      (label.gap ++ (label.name ++ (label.argumentsText ++ ahead))) =
        label.name ++ (label.argumentsText ++ ahead) :=
    Text.dropWhile_append_of_stops label.gapBlank named
  rw [annotationName, behindName, unspaced]
  exact ⟨Text.takeWhile_append_of_stops label.letters nameEnds,
    congrArg Text.dropBlanks (Text.dropWhile_append_of_stops label.letters nameEnds)⟩

theorem dropBlanks_text (label : Annotation) (ahead : Text) :
    Text.dropBlanks (label.text ++ ahead) =
      '@' :: (label.gap ++ (label.name ++ (label.argumentsText ++ ahead))) := by
  simp only [text, List.append_assoc, List.cons_append]
  exact Text.dropWhile_append_of_stops label.leadBlank (Text.stops_cons (by decide))

/-- The search goes on behind an annotation; if it finds nothing there, a piece of the annotation's
name is found. -/
theorem nameBehindAnnotations?_text (fuel : Nat) (label : Annotation)
    (ends : label.EndsBefore ahead) :
    nameBehindAnnotations? (fuel + 1) (label.text ++ ahead) =
      (nameBehindAnnotations? fuel (label.behind ahead)).or (innerName? label.name) := by
  obtain ⟨named, behindIt⟩ := label.behindName_text ends
  have nonempty : ¬ label.name.isEmpty = true := by simpa using label.named
  rw [nameBehindAnnotations?_sign (label.dropBlanks_text ahead), named, behindIt,
    if_neg nonempty, argumentsText, behind]
  cases same : label.arguments with
  | none =>
    simp only [Option.elim_none, List.nil_append]
    rw [afterArguments?_of_head? (ends same).2, nameBehindAnnotations?_dropBlanks]
    rfl
  | some arguments =>
    have opens : Text.dropBlanks (arguments.gap ++ '(' :: (arguments.inner ++ [')']) ++ ahead) =
        '(' :: (arguments.inner ++ ')' :: ahead) := by
      simp only [List.append_assoc, List.cons_append, List.nil_append]
      exact Text.dropWhile_append_of_stops arguments.gapBlank (Text.stops_cons (by decide))
    -- A name does not begin with a parenthesis, so that going back to it is of no use.
    have nothing : nameBehindAnnotations? fuel ('(' :: (arguments.inner ++ ')' :: ahead)) = none := by
      cases fuel with
      | zero => rfl
      | succ fuel =>
        have unspaced : Text.dropBlanks ('(' :: (arguments.inner ++ ')' :: ahead)) =
            '(' :: (arguments.inner ++ ')' :: ahead) :=
          List.dropWhile_cons_of_neg (by decide)
        rw [nameBehindAnnotations?_plain (by rw [unspaced]; simp), unspaced, leadingName?,
          if_neg (by decide +kernel)]
    simp only [Option.elim_some]
    rw [opens, afterArguments?_opening, nothing]
    rfl

end Annotation

/-! ### Beyond a closing parenthesis -/

/-- The name at the front of a text goes no further than a closing parenthesis. -/
theorem leadingName?_closing (text ahead other : Text) :
    leadingName? (text ++ ')' :: ahead) = leadingName? (text ++ ')' :: other) := by
  have noLetter : isIdentifierChar ')' = false := by decide +kernel
  cases text with
  | nil => rw [List.nil_append, List.nil_append, leadingName?, leadingName?,
      if_neg (by decide +kernel), if_neg (by decide +kernel)]
  | cons c text =>
    rw [List.cons_append, List.cons_append, leadingName?, leadingName?,
      Text.takeWhile_append_cut noLetter, Text.takeWhile_append_cut noLetter]

theorem roundBrackets_outside {inClass : Char → Bool} (outside : inClass '(' = false) :
    ∀ pair ∈ roundBrackets, inClass pair.1 = false := by
  intro pair listed
  rw [List.mem_singleton.mp listed]
  exact outside

theorem behindName_closing (text ahead : Text) :
    annotationName (text ++ ')' :: ahead) = annotationName text ∧
      behindName (text ++ ')' :: ahead) = behindName text ++ ')' :: ahead := by
  have noBlank : isBlank ')' = false := by decide
  have noLetter : isAnnotationChar ')' = false := by decide +kernel
  rw [annotationName, behindName, Text.dropBlanks, Text.dropWhile_append_cut noBlank,
    Text.takeWhile_append_cut noLetter, Text.dropWhile_append_cut noLetter, Text.dropBlanks,
    Text.dropWhile_append_cut noBlank]
  exact ⟨rfl, rfl⟩

/-- Arguments that begin before such a parenthesis end before it, or leave another one ahead. -/
theorem bind_afterArguments?_closing {part : Text} (nested : Nested roundBrackets [] part)
    {search : Text → Option Text}
    (blind : ∀ part, Nested roundBrackets [] part → ∀ ahead other,
      search (part ++ ')' :: ahead) = search (part ++ ')' :: other)) (ahead other : Text) :
    (afterArguments? (part ++ ')' :: ahead)).bind search =
      (afterArguments? (part ++ ')' :: other)).bind search := by
  cases part with
  | nil => rw [afterArguments?_of_head? (by simp), afterArguments?_of_head? (by simp)]
  | cons c text =>
    rcases nested.first_cases with ⟨notOpening, -⟩ | ⟨rfl, inner, rest, rfl, inside, later⟩
    · rw [afterArguments?_of_head? (by simpa using notOpening),
        afterArguments?_of_head? (by simpa using notOpening)]
    · simp only [List.cons_append, List.append_assoc, afterArguments?_opening, Option.bind_some]
      rcases inside.behindFirstClosing with ⟨-, flat⟩ | ⟨-, inPart, behind, deeper, deep⟩
      · rw [flat, flat]
        exact blind rest later ahead other
      · rw [deep, deep]
        exact blind inPart deeper _ _

/-- No search gets beyond a closing parenthesis that no opening one goes with. -/
theorem nameBehindAnnotations?_closing {part : Text} (nested : Nested roundBrackets [] part)
    (fuel : Nat) (ahead other : Text) :
    nameBehindAnnotations? fuel (part ++ ')' :: ahead) =
      nameBehindAnnotations? fuel (part ++ ')' :: other) := by
  -- Behind the arguments of an annotation inside of `part` there is again a nested text and such a
  -- parenthesis, perhaps another one, so that `part` and what follows are general.
  induction fuel generalizing part ahead other with
  | zero => rfl
  | succ fuel inductionHypothesis =>
    have unspaced (more : Text) :
        Text.dropBlanks (part ++ ')' :: more) = part.dropBlanks ++ ')' :: more :=
      Text.dropWhile_append_cut (by decide) part more
    have inked : Nested roundBrackets [] part.dropBlanks :=
      nested.dropWhile (roundBrackets_outside (by decide))
    rcases sign_or_plain part with ⟨rest, annotated⟩ | plain
    · have annotatedToo (more : Text) :
          Text.dropBlanks (part ++ ')' :: more) = '@' :: (rest ++ ')' :: more) := by
        rw [unspaced, annotated]
        rfl
      have later : Nested roundBrackets [] (behindName rest) := by
        rw [annotated] at inked
        rcases inked.first_cases with ⟨-, nestedRest⟩ | ⟨isOpening, -⟩
        · exact ((nestedRest.dropWhile (roundBrackets_outside (by decide))).dropWhile
            (roundBrackets_outside (by decide +kernel))).dropWhile
              (roundBrackets_outside (by decide))
        · exact absurd isOpening (by decide)
      rw [nameBehindAnnotations?_sign (annotatedToo ahead),
        nameBehindAnnotations?_sign (annotatedToo other), (behindName_closing rest ahead).1,
        (behindName_closing rest other).1, (behindName_closing rest ahead).2,
        (behindName_closing rest other).2, inductionHypothesis later ahead other,
        bind_afterArguments?_closing later (fun _ => inductionHypothesis) ahead other]
    · have plainToo (more : Text) : (Text.dropBlanks (part ++ ')' :: more)).head? ≠ some '@' := by
        rw [unspaced]
        cases first : part.dropBlanks with
        | nil => simp
        | cons c text => rwa [first] at plain
      rw [nameBehindAnnotations?_plain (plainToo ahead),
        nameBehindAnnotations?_plain (plainToo other), unspaced, unspaced]
      exact leadingName?_closing _ _ _

/-! ### Pieces of the text -/

theorem prefix_of_leadingName? {text name : Text} (found : leadingName? text = some name) :
    name <+: text := by
  cases text with
  | nil => cases found
  | cons c text =>
    rw [leadingName?] at found
    split at found
    · cases found
      exact List.cons_prefix_cons.mpr ⟨rfl, List.takeWhile_prefix isIdentifierChar⟩
    · cases found

theorem infix_of_innerName? {text name : Text} (found : innerName? text = some name) :
    name <:+: text := by
  induction text with
  | nil => cases found
  | cons c text inductionHypothesis =>
    rw [innerName?] at found
    split at found
    · next deeper same =>
      cases found
      exact List.infix_cons (inductionHypothesis same)
    · exact List.infix_cons (prefix_of_leadingName? found).isInfix

/-- What is found is a piece of the text. -/
theorem infix_of_nameBehindAnnotations? {fuel : Nat} {text name : Text}
    (found : nameBehindAnnotations? fuel text = some name) : name <:+: text := by
  induction fuel generalizing text with
  | zero => cases found
  | succ fuel inductionHypothesis =>
    have inked : text.dropBlanks <:+ text := List.dropWhile_suffix isBlank
    rcases sign_or_plain text with ⟨rest, annotated⟩ | plain
    · have behindSign : rest <:+ text :=
        (List.suffix_cons '@' rest).trans (annotated ▸ inked)
      have unspaced : Text.dropBlanks rest <:+ text :=
        (List.dropWhile_suffix isBlank).trans behindSign
      have behind : behindName rest <:+ text :=
        ((List.dropWhile_suffix isBlank).trans (List.dropWhile_suffix isAnnotationChar)).trans
          unspaced
      rw [nameBehindAnnotations?_sign annotated] at found
      split at found
      · cases found
      · rcases Option.or_eq_some_iff.mp found with arguments | ⟨-, found⟩
        · obtain ⟨ahead, passed, later⟩ := Option.bind_eq_some_iff.mp arguments
          obtain ⟨c, lead, split⟩ := exists_lead_of_afterArguments? passed
          have suffix : ahead <:+ behindName rest := ⟨c :: lead, split.symm⟩
          exact (inductionHypothesis later).trans (suffix.trans behind).isInfix
        · rcases Option.or_eq_some_iff.mp found with later | ⟨-, inName⟩
          · exact (inductionHypothesis later).trans behind.isInfix
          · exact (infix_of_innerName? inName).trans
              ((List.takeWhile_prefix isAnnotationChar).isInfix.trans unspaced.isInfix)
    · rw [nameBehindAnnotations?_plain plain] at found
      exact (prefix_of_leadingName? found).isInfix.trans inked.isInfix

/-! ### Several annotations -/

namespace Annotation

variable {annotations : List Annotation}

theorem texts_cons (label : Annotation) (annotations : List Annotation) (ahead : Text) :
    texts (label :: annotations) ++ ahead =
      label.text ++ (texts annotations ++ ahead) := by
  rw [texts, List.flatMap_cons, List.append_assoc]
  rfl

/-- An annotation ends before further ones. -/
theorem endsBefore_texts (label : Annotation) (more : annotations ≠ []) (ahead : Text) :
    label.EndsBefore (texts annotations ++ ahead) := by
  obtain ⟨next, others, rfl⟩ := List.exists_cons_of_ne_nil more
  rw [texts_cons]
  refine fun _ => ⟨fun c first => ?_, ?_⟩
  · rw [text] at first
    cases lead : next.lead with
    | nil =>
      obtain rfl : '@' = c := by simpa [lead] using first
      decide +kernel
    | cons d blanks =>
      obtain rfl : d = c := by simpa [lead] using first
      exact isAnnotationChar_of_isBlank (next.leadBlank d (lead ▸ List.mem_cons_self))
  · rw [next.dropBlanks_text]
    simp

/-- An annotation ends before the blank in front of a name. -/
theorem endsBefore_name (label : Annotation) {name : Text} (isName : isParameterName name = true)
    (remainder : Text) : label.EndsBefore (' ' :: (name ++ remainder)) := by
  refine fun _ => ⟨Text.stops_cons (isAnnotationChar_of_isBlank (by decide)), ?_⟩
  have isWord := isWord_of_isParameterName isName
  have blank : ∀ c ∈ [' '], isBlank c = true := List.forall_mem_singleton.mpr (by decide)
  have ahead : Text.dropBlanks ([' '] ++ (name ++ remainder)) = name ++ remainder :=
    Text.dropWhile_append_of_stops blank (Header.isBlank_of_head? isWord remainder)
  rw [List.singleton_append] at ahead
  rw [ahead, List.head?_append_of_ne_nil _ isWord.ne_nil]
  intro first
  exact absurd (isWord.isIdentifierChar (List.mem_of_mem_head? first)) (by decide +kernel)

theorem IsFlat.behind_eq {label : Annotation} (flat : label.IsFlat) (ahead : Text) :
    label.behind ahead = ahead := by
  rw [behind]
  cases same : label.arguments with
  | none => rfl
  | some arguments =>
    rcases arguments.nested.behindFirstClosing with ⟨-, closes⟩ | ⟨inside, -⟩
    · exact closes ahead
    · exact absurd inside (flat arguments same)

/-- Behind arguments with parentheses in them the search is still among the annotations. -/
theorem exists_closing_of_not_isFlat {label : Annotation} (deep : ¬ label.IsFlat) :
    label.arguments ≠ none ∧ ∃ part rest, Nested roundBrackets [] part ∧
      ∀ ahead, label.behind ahead = part ++ ')' :: (rest ++ ahead) := by
  rw [IsFlat] at deep
  cases same : label.arguments with
  | none =>
    rw [same] at deep
    exact absurd (fun _ member => by cases member) deep
  | some arguments =>
    refine ⟨Option.some_ne_none arguments, ?_⟩
    rcases arguments.nested.behindFirstClosing with ⟨outside, -⟩ | ⟨-, part, rest, nested, closes⟩
    · rw [same] at deep
      refine absurd (fun other member => ?_) deep
      cases member
      exact outside
    · refine ⟨part, rest, nested, fun ahead => ?_⟩
      rw [behind, same]
      exact closes ahead

/-- Behind annotations without parentheses in their arguments the name is found. -/
theorem nameBehindAnnotations?_of_flat (flat : ∀ label ∈ annotations, label.IsFlat)
    {fuel : Nat} (enough : annotations.length < fuel) {name remainder : Text}
    (isName : isParameterName name = true) (ends : endsWord remainder = true) :
    nameBehindAnnotations? fuel (texts annotations ++ ' ' :: (name ++ remainder)) = some name := by
  induction annotations generalizing fuel with
  | nil =>
    obtain ⟨fuel, rfl⟩ := Nat.exists_eq_succ_of_ne_zero (Nat.ne_zero_of_lt enough)
    have blank : ∀ c ∈ [' '], isBlank c = true := List.forall_mem_singleton.mpr (by decide)
    exact nameBehindAnnotations?_name blank isName ends
  | cons label annotations inductionHypothesis =>
    obtain ⟨here, later⟩ := List.forall_mem_cons.mp flat
    obtain ⟨fuel, rfl⟩ := Nat.exists_eq_succ_of_ne_zero (Nat.ne_zero_of_lt enough)
    have endsBefore :
        label.EndsBefore (texts annotations ++ ' ' :: (name ++ remainder)) := by
      by_cases last : annotations = []
      · rw [last]
        exact label.endsBefore_name isName remainder
      · exact label.endsBefore_texts last _
    rw [texts_cons, label.nameBehindAnnotations?_text fuel endsBefore, here.behind_eq,
      inductionHypothesis later (Nat.lt_of_succ_lt_succ enough)]
    rfl

/-- Behind annotations of which one has parentheses in its arguments nothing is looked at. -/
theorem nameBehindAnnotations?_of_not_flat (deep : ∃ label ∈ annotations, ¬ label.IsFlat)
    (fuel : Nat) (ahead other : Text) :
    nameBehindAnnotations? fuel (texts annotations ++ ahead) =
      nameBehindAnnotations? fuel (texts annotations ++ other) := by
  induction annotations generalizing fuel with
  | nil =>
    obtain ⟨_, member, -⟩ := deep
    cases member
  | cons label annotations inductionHypothesis =>
    cases fuel with
    | zero => rfl
    | succ fuel =>
      rw [texts_cons, texts_cons]
      by_cases flat : label.IsFlat
      · have later : ∃ next ∈ annotations, ¬ next.IsFlat := by
          obtain ⟨next, member, deep⟩ := deep
          rcases List.mem_cons.mp member with rfl | later
          · exact absurd flat deep
          · exact ⟨next, later, deep⟩
        have more : annotations ≠ [] := by
          obtain ⟨_, member, -⟩ := later
          exact List.ne_nil_of_mem member
        rw [label.nameBehindAnnotations?_text fuel (label.endsBefore_texts more ahead),
          label.nameBehindAnnotations?_text fuel (label.endsBefore_texts more other),
          flat.behind_eq, flat.behind_eq, inductionHypothesis later fuel]
      · obtain ⟨arguments, part, rest, nested, closes⟩ := exists_closing_of_not_isFlat flat
        have endsBefore (more : Text) : label.EndsBefore more :=
          fun none => absurd none arguments
        rw [label.nameBehindAnnotations?_text fuel (endsBefore _),
          label.nameBehindAnnotations?_text fuel (endsBefore _), closes, closes,
          nameBehindAnnotations?_closing nested]

/-- What is found in place of a name where arguments have parentheses in them. -/
theorem parameterName_of_not_flat (deep : ∃ label ∈ annotations, ¬ label.IsFlat)
    (ahead : Text) :
    parameterName (texts annotations ++ ahead) =
      (nameBehindAnnotations? ((texts annotations).length + 1) (texts annotations)).getD
        (Text.trim (texts annotations ++ ahead)) := by
  have blind := nameBehindAnnotations?_of_not_flat deep
    ((texts annotations ++ ahead).length + 1) ahead []
  rw [List.append_nil] at blind
  rw [parameterName, blind, nameBehindAnnotations?_of_lt (Nat.lt_succ_of_le (by simp))
    (Nat.lt_succ_self _)]

theorem length_lt_fuel (annotations : List Annotation) (ahead : Text) :
    annotations.length < (texts annotations ++ ahead).length + 1 := by
  induction annotations with
  | nil => exact Nat.succ_pos _
  | cons label annotations inductionHypothesis =>
    rw [texts_cons, List.length_append, text]
    simp only [List.length_append, List.length_cons] at inductionHypothesis ⊢
    omega

theorem sign_mem_texts (more : annotations ≠ []) : '@' ∈ texts annotations := by
  obtain ⟨label, others, rfl⟩ := List.exists_cons_of_ne_nil more
  rw [texts, List.flatMap_cons, text]
  simp

end Annotation

/-- Trimming keeps what is no blank. -/
theorem Text.mem_trim {c : Char} {text : Text} (member : c ∈ text) (ink : isBlank c = false) :
    c ∈ text.trim := by
  have kept {text : Text} (member : c ∈ text) : c ∈ text.dropWhile isBlank := by
    rw [← List.takeWhile_append_dropWhile (p := isBlank) (l := text)] at member
    rcases List.mem_append.mp member with blank | later
    · exact absurd (List.mem_takeWhile_imp blank) (Bool.eq_false_iff.mp ink)
    · exact later
  exact List.mem_reverse.mpr (kept (List.mem_reverse.mpr (kept member)))

open Annotation in
/-- Behind annotations the name of a parameter is found, whatever it is and whatever follows it,
exactly if no annotation has arguments with parentheses in them. If one has, then what is behind the
annotations is not looked at: there is one piece of the annotations that is taken for the name
whatever follows them, or none, and then the whole text is. -/
theorem parameterName_behind_annotations (annotations : List Annotation) :
    ((∀ label ∈ annotations, label.IsFlat) ↔
      ∀ name remainder : Text, isParameterName name = true →
        (∀ c, remainder.head? = some c → isBlank c = true) →
        parameterName (texts annotations ++ ' ' :: (name ++ remainder)) = name) ∧
    ((∃ label ∈ annotations, ¬ label.IsFlat) →
      ∃ fragment : Option Text, (∀ piece ∈ fragment, piece <:+: texts annotations) ∧
        ∀ ahead, parameterName (texts annotations ++ ahead) =
          fragment.getD (Text.trim (texts annotations ++ ahead))) := by
  refine ⟨⟨fun flat name remainder isName blank => ?_, fun finds => ?_⟩, fun deep => ?_⟩
  · have ends : endsWord remainder = true := by
      cases remainder with
      | nil => rfl
      | cons c remainder =>
        rw [endsWord_cons, isIdentifierChar_of_isBlank (blank c rfl)]
        rfl
    rw [parameterName, nameBehindAnnotations?_of_flat flat (length_lt_fuel _ _) isName ends]
    rfl
  · by_contra deep
    simp only [not_forall] at deep
    obtain ⟨label, member, deep⟩ := deep
    have found (c : Char) (isName : isParameterName [c] = true) :=
      (parameterName_of_not_flat ⟨label, member, deep⟩ (' ' :: ([c] ++ []))).symm.trans
        (finds [c] [] isName (by simp))
    have first := found 'a' (by decide +kernel)
    have second := found 'b' (by decide +kernel)
    cases fragment : nameBehindAnnotations? ((texts annotations).length + 1)
        (texts annotations) with
    | some piece =>
      -- One piece would have to be two names.
      rw [fragment] at first second
      exact absurd (first.symm.trans second) (by decide)
    | none =>
      rw [fragment] at first
      have sign : '@' ∈ Text.trim (texts annotations ++ ' ' :: (['a'] ++ [])) :=
        Text.mem_trim (List.mem_append_left _ (sign_mem_texts (List.ne_nil_of_mem member)))
          (by decide)
      rw [Option.getD_none] at first
      rw [first] at sign
      exact absurd sign (by decide)
  · exact ⟨_, fun piece found => infix_of_nameBehindAnnotations? found,
      parameterName_of_not_flat deep⟩

/-- An annotation whose arguments have no parentheses in them. -/
def sizedLabel : Annotation where
  lead := []
  gap := []
  name := "Size".toList
  arguments := some ⟨[], "min = 1".toList, by simp, .of_free (by simp [roundBrackets])⟩
  leadBlank := by simp
  gapBlank := by simp
  named := by decide +kernel
  letters := List.all_eq_true.mp (by decide +kernel)

/-- An annotation with a dotted name. -/
def dottedLabel : Annotation where
  lead := "\n\t".toList
  gap := "\t".toList
  name := "x.Y".toList
  arguments := none
  leadBlank := List.all_eq_true.mp (by decide +kernel)
  gapBlank := List.all_eq_true.mp (by decide +kernel)
  named := by decide +kernel
  letters := List.all_eq_true.mp (by decide +kernel)

/-- An annotation with a call in its arguments. -/
def calledLabel : Annotation where
  lead := []
  gap := []
  name := "Size".toList
  arguments := some ⟨[], "max".toList ++ '(' :: ("1".toList ++ ')' :: []), by simp,
    (Nested.of_free (by simp [roundBrackets])).append
      (.group ('(', ')') (by decide) (.of_free (by simp [roundBrackets])) (.nil _))⟩
  leadBlank := by simp
  gapBlank := by simp
  named := by decide +kernel
  letters := List.all_eq_true.mp (by decide +kernel)

open Annotation in
theorem parameterName_behind_annotations_sized :
    (∀ label ∈ [sizedLabel, dottedLabel], label.IsFlat) ∧
      ¬ calledLabel.IsFlat ∧
      parameterName (texts [sizedLabel, dottedLabel] ++
        ' ' :: ("V".toList ++ " extends N".toList)) = "V".toList ∧
      ∃ fragment : Option Text,
        (∀ piece ∈ fragment, piece <:+: texts [calledLabel, dottedLabel]) ∧
        ∀ ahead, parameterName (texts [calledLabel, dottedLabel] ++ ahead) =
          fragment.getD (Text.trim (texts [calledLabel, dottedLabel] ++ ahead)) := by
  have flat : ∀ label ∈ [sizedLabel, dottedLabel], label.IsFlat := by
    intro label member arguments given
    simp only [List.mem_cons, List.not_mem_nil, or_false] at member
    rcases member with rfl | rfl
    · cases given
      decide +kernel
    · cases given
  have deep : ¬ calledLabel.IsFlat := by
    intro flat
    exact absurd (flat _ rfl) (by decide +kernel)
  have finds := (parameterName_behind_annotations [sizedLabel, dottedLabel]).1.mp flat
  refine ⟨flat, deep, finds _ _ (by decide +kernel) ?_, ?_⟩
  · intro c first
    obtain rfl : ' ' = c := by simpa using first
    decide
  · exact (parameterName_behind_annotations [calledLabel, dottedLabel]).2
      ⟨calledLabel, by simp, deep⟩

open Annotation in
/-- A letter of the annotation's own name is taken for the name of the parameter. -/
theorem parameterName_in_annotation_name :
    texts [calledLabel] ++ ' ' :: "T".toList = "@Size(max(1)) T".toList ∧
      isParameterName "T".toList = true ∧
      parameterName (texts [calledLabel] ++ ' ' :: "T".toList) = "e".toList ∧
      "e".toList <:+: calledLabel.name ∧ "e".toList ≠ "T".toList := by
  decide +kernel

end Stencil
