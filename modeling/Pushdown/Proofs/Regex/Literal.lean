import Mathlib.Data.List.Forall2
import Pushdown.Proofs.Regex.Folding
import Pushdown.Sql.TextPattern

/-!
# Regular expressions that are literals

The form of a regular expression is judged by the text of its pattern alone. When the form is
reducible, reading the pattern gives characters in a row between two anchors that may be absent, and
such a program leads from a position to the position behind the literal. So the expression matches
exactly the texts that its form asks for.
-/

namespace Pushdown

open Regex

namespace TextPattern

def ofAnchors (start finish : Bool) (literal : String) : TextPattern :=
  match start, finish with
  | true, true => .exact literal
  | true, false => .starts literal
  | false, true => .ends literal
  | false, false => .contains literal

def anchored (start finish : Bool) (body : List Char) : List Char :=
  (if start then ['^'] else []) ++ body ++ (if finish then ['$'] else [])

theorem splitStart_eq (text : List Char) :
    text = (if (splitStart text).1 then ['^'] else []) ++ (splitStart text).2 := by
  unfold splitStart
  split <;> rfl

theorem splitEnd_eq (text : List Char) :
    text = (splitEnd text).2 ++ (if (splitEnd text).1 then ['$'] else []) := by
  unfold splitEnd
  split
  · next h => exact (List.dropLast_append_getLast? '$' h.1).symm
  · simp

/-- A reducible form is that of a literal, spelled in the pattern between its anchors. -/
theorem classify_reducible {pattern : String} (reducible : classify pattern ≠ .irreducible) :
    ∃ start finish body chars, pattern.toList = anchored start finish body ∧
      literalOf? body = some chars ∧
      classify pattern = ofAnchors start finish (String.ofList chars) := by
  have start := splitStart_eq pattern.toList
  have finish := splitEnd_eq (splitStart pattern.toList).2
  unfold classify at reducible ⊢
  cases read : literalOf? (splitEnd (splitStart pattern.toList).2).2 with
  | none => simp [read] at reducible
  | some chars =>
      refine ⟨(splitStart pattern.toList).1, (splitEnd (splitStart pattern.toList).2).1, _, chars,
        ?_, read, ?_⟩
      · rw [anchored, List.append_assoc, ← finish, ← start]
      · simp only [read]
        rfl

end TextPattern

/-! ## Reading a literal -/

namespace Regex

open TextPattern

theorem isEscapable_of_isPunctuation {c : Char} (punctuation : isPunctuation c = true)
    (noAngle : c ≠ '<' ∧ c ≠ '>') : isEscapable c = true := by
  simp only [isPunctuation, Bool.or_eq_true, Bool.and_eq_true, decide_eq_true_eq] at punctuation
  have noLetter : c.isAlphanum = false := by
    delta Char.isAlphanum Char.isAlpha Char.isUpper Char.isLower Char.isDigit
    simp only [UInt32.le_iff_toNat_le, Bool.or_eq_false_iff, ge_iff_le]
    have code : c.val.toNat = c.toNat := rfl
    simp
    omega
  have small : c.toNat < 128 := by omega
  simp [isEscapable, noLetter, small, noAngle]

theorem readEscape_punctuation {c : Char} (punctuation : isPunctuation c = true)
    (noAngle : c ≠ '<' ∧ c ≠ '>') (rest : List Char) :
    readEscape false (c :: rest) = some (.char c false, rest) := by
  have escapable := isEscapable_of_isPunctuation punctuation noAngle
  rw [readEscape.eq_def]
  split <;> simp_all [isPunctuation]

theorem readParts_char {c : Char} (ordinary : (c = '\\' || isOperator c) = false) (fuel : Nat)
    (parts : List Pattern) (names : List String) (rest : List Char) :
    readParts (fuel + 1) parts ⟨false, names, c :: rest⟩ =
      readParts fuel (.atom (.char c false) :: parts) ⟨false, names, rest⟩ := by
  rw [readParts.eq_def]
  simp only [skip]
  split <;> simp_all [isOperator]

theorem readParts_escape {c : Char} (punctuation : isPunctuation c = true)
    (noAngle : c ≠ '<' ∧ c ≠ '>') (fuel : Nat) (parts : List Pattern) (names : List String)
    (rest : List Char) :
    readParts (fuel + 1) parts ⟨false, names, '\\' :: c :: rest⟩ =
      readParts fuel (.atom (.char c false) :: parts) ⟨false, names, rest⟩ := by
  rw [readParts.eq_def]
  simp [skip, readEscape_punctuation punctuation noAngle]

def literalParts (chars : List Char) : List Pattern := chars.map fun c => .atom (.char c false)

theorem readParts_literal {body chars : List Char} (literal : literalOf? body = some chars)
    (fuel : Nat) (parts : List Pattern) (names : List String) (rest : List Char) :
    readParts (fuel + chars.length) parts ⟨false, names, body ++ rest⟩ =
      readParts fuel ((literalParts chars).reverse ++ parts) ⟨false, names, rest⟩ := by
  fun_induction literalOf? body generalizing chars parts with
  | case1 =>
      cases literal
      rfl
  | case2 c text escaped ih =>
      obtain ⟨inner, read, rfl⟩ := Option.map_eq_some_iff.mp literal
      simp only [Bool.and_eq_true, decide_eq_true_eq] at escaped
      have step := readParts_escape escaped.1.1 ⟨escaped.1.2, escaped.2⟩
      rw [List.length_cons, ← Nat.add_assoc, List.cons_append, List.cons_append, step, ih read]
      simp [literalParts]
  | case3 c text notEscaped => cases literal
  | case4 c text notPair operator => cases literal
  | case5 c text notPair ordinary ih =>
      obtain ⟨inner, read, rfl⟩ := Option.map_eq_some_iff.mp literal
      rw [Bool.not_eq_true] at ordinary
      rw [List.length_cons, ← Nat.add_assoc, List.cons_append, readParts_char ordinary, ih read]
      simp [literalParts]

def anchoredParts (start finish : Bool) (chars : List Char) : List Pattern :=
  (if start then [.atom (.anchor .lineStart)] else []) ++ literalParts chars ++
    (if finish then [.atom (.anchor .lineEnd)] else [])

theorem literalOf?_length {body chars : List Char} (literal : literalOf? body = some chars) :
    chars.length ≤ body.length := by
  fun_induction literalOf? body generalizing chars with
  | case1 =>
      cases literal
      rfl
  | case2 c text escaped ih =>
      obtain ⟨inner, read, rfl⟩ := Option.map_eq_some_iff.mp literal
      have shorter := ih read
      simp only [List.length_cons]
      omega
  | case3 c text notEscaped => cases literal
  | case4 c text notPair operator => cases literal
  | case5 c text notPair ordinary ih =>
      obtain ⟨inner, read, rfl⟩ := Option.map_eq_some_iff.mp literal
      have shorter := ih read
      simp only [List.length_cons]
      omega

theorem length_anchored (start finish : Bool) (body : List Char) :
    (anchored start finish body).length = body.length + start.toNat + finish.toNat := by
  cases start <;> cases finish <;> simp [anchored]

theorem readParts_anchored {body chars : List Char} (literal : literalOf? body = some chars)
    (start finish : Bool) {fuel : Nat} (enough : chars.length + start.toNat + finish.toNat < fuel)
    (names : List String) :
    readParts fuel [] ⟨false, names, anchored start finish body⟩ =
      some (concatOf (anchoredParts start finish chars), ⟨false, names, []⟩) := by
  have last (fuel : Nat) (parts : List Pattern) :
      readParts (fuel + 1 + finish.toNat) parts
          ⟨false, names, if finish then ['$'] else []⟩ =
        some (concatOf (parts.reverse ++ if finish then [.atom (.anchor .lineEnd)] else []),
          ⟨false, names, []⟩) := by
    cases finish <;> simp [readParts, skip]
  have whole (fuel : Nat) (parts : List Pattern) :
      readParts (fuel + 1 + finish.toNat + chars.length) parts
          ⟨false, names, body ++ if finish then ['$'] else []⟩ =
        some (concatOf (parts.reverse ++ literalParts chars ++
          if finish then [.atom (.anchor .lineEnd)] else []), ⟨false, names, []⟩) := by
    rw [readParts_literal literal, last]
    simp
  obtain ⟨spare, rfl⟩ : ∃ spare, fuel = spare + 1 + finish.toNat + chars.length + start.toNat :=
    ⟨fuel - (chars.length + start.toNat + finish.toNat + 1), by omega⟩
  cases start with
  | false => exact whole spare []
  | true =>
      have step : readParts (spare + 1 + finish.toNat + chars.length + 1) []
          ⟨false, names, anchored true finish body⟩ =
            readParts (spare + 1 + finish.toNat + chars.length) [.atom (.anchor .lineStart)]
              ⟨false, names, body ++ if finish then ['$'] else []⟩ := by
        rw [readParts.eq_def]
        simp [skip, anchored]
      exact step.trans (whole spare _)

/-- A literal with or without anchors is read as its characters in a row. -/
theorem Pattern.parse?_anchored {pattern : String} {start finish : Bool} {body chars : List Char}
    (spelled : pattern.toList = anchored start finish body)
    (literal : literalOf? body = some chars) {tree : Pattern}
    (read : Pattern.parse? false pattern = some tree) :
    tree = concatOf (anchoredParts start finish chars) := by
  have branches : readBranches (2 * pattern.toList.length + 2) ⟨false, [], pattern.toList⟩ =
      some ([concatOf (anchoredParts start finish chars)], ⟨false, [], []⟩) := by
    have enough : chars.length + start.toNat + finish.toNat < 2 * pattern.toList.length + 1 := by
      have shorter := literalOf?_length literal
      rw [spelled, length_anchored]
      omega
    rw [spelled] at enough ⊢
    rw [readBranches, readParts_anchored literal start finish enough]
    rfl
  rw [Pattern.parse?, branches] at read
  simp only [Option.bind_eq_bind, Option.bind_some] at read
  split at read
  · cases read
    rfl
  · cases read

/-! ## Running a literal -/

def literalSet (ignoreCase : Bool) (c : Char) : CharSet :=
  if ignoreCase then .folded (.single c) else .single c

def anchoredPrograms (ignoreCase start finish : Bool) (chars : List Char) : List Program :=
  (if start then [.look .textStart] else []) ++
    (chars.map fun c => .set (literalSet ignoreCase c)) ++
    (if finish then [.look .textEnd] else [])

/-- The flags when no option but `i` is given. -/
def plainFlags (ignoreCase : Bool) : Flags where
  caseInsensitive := ignoreCase
  multiLine := false
  dotMatchesNewline := false
  swapGreed := false
  unicode := true
  crlf := false

theorem program?_anchoredParts (ignoreCase start finish : Bool) (chars : List Char) :
    List.Forall₂ (fun part program =>
        Pattern.program? (plainFlags ignoreCase) part = some (program, plainFlags ignoreCase))
      (anchoredParts start finish chars) (anchoredPrograms ignoreCase start finish chars) := by
  refine List.rel_append (List.rel_append ?_ ?_) ?_
  · cases start
    · exact .nil
    · exact .cons rfl .nil
  · rw [literalParts, List.forall₂_map_left_iff, List.forall₂_map_right_iff, List.forall₂_same]
    intro c _
    rfl
  · cases finish
    · exact .nil
    · exact .cons rfl .nil

theorem Pattern.programs?_forall₂ {flags : Flags} {parts : List Pattern} {programs : List Program}
    (h : List.Forall₂ (fun part program => Pattern.program? flags part = some (program, flags))
      parts programs) : Pattern.programs? flags parts = some (programs, flags) := by
  induction h with
  | nil => rfl
  | cons first _ ih => simp [Pattern.programs?, first, ih]

/-- Parts in a row run as their programs in a row. -/
theorem run_concatOf {flags : Flags} {parts : List Pattern} {programs : List Program}
    (h : List.Forall₂ (fun part program => Pattern.program? flags part = some (program, flags))
      parts programs) {program : Program} {after : Flags}
    (compiled : Pattern.program? flags (concatOf parts) = some (program, after))
    (text : Array Char) (positions : Positions) :
    program.run text positions = Program.runAll text programs positions := by
  cases h with
  | nil =>
      cases compiled
      rfl
  | cons first rest =>
      cases rest with
      | nil =>
          rw [concatOf, first] at compiled
          cases compiled
          rfl
      | cons second others =>
          have all := Pattern.programs?_forall₂ (.cons first (.cons second others))
          change Pattern.program? flags (.concat _) = _ at compiled
          rw [Pattern.program?, all] at compiled
          cases compiled
          rfl

/-- Without options other than `i`, the program of a literal runs its characters in a row. -/
theorem run_programOf? {pattern options : String} {program : Program}
    (compiled : programOf? pattern options = some program)
    (plain : hasOption options 'm' = false ∧ hasOption options 's' = false ∧
      hasOption options 'x' = false)
    {start finish : Bool} {body chars : List Char}
    (spelled : pattern.toList = anchored start finish body)
    (literal : literalOf? body = some chars) (text : Array Char) (positions : Positions) :
    program.run text positions =
      Program.runAll text (anchoredPrograms (hasOption options 'i') start finish chars)
        positions := by
  rw [programOf?, plain.1, plain.2.1, plain.2.2] at compiled
  simp only [Option.bind_eq_bind, Option.bind_eq_some_iff] at compiled
  obtain ⟨tree, read, ⟨whole, flags⟩, made, admitted⟩ := compiled
  obtain ⟨-, same⟩ := Option.ite_none_right_eq_some.mp admitted
  cases same
  cases Pattern.parse?_anchored spelled literal read
  exact run_concatOf (program?_anchoredParts _ start finish chars) made text positions

/-- The characters at the beginning of a text are in the sets, one by one. -/
def fitsSets : List CharSet → List Char → Bool
  | [], _ => true
  | _ :: _, [] => false
  | set :: sets, c :: text => set.holds c.toNat && fitsSets sets text

theorem fitsSets_cons_drop (set : CharSet) (sets : List CharSet) (text : List Char) (i : Nat) :
    fitsSets (set :: sets) (text.drop i) =
      (text[i]?.any (set.holds ·.toNat) && fitsSets sets (text.drop (i + 1))) := by
  by_cases inside : i < text.length
  · rw [List.drop_eq_getElem_cons inside, List.getElem?_eq_getElem inside]
    rfl
  · rw [List.drop_eq_nil_of_le (by omega), List.getElem?_eq_none (by omega)]
    rfl

/-- A literal leads from where it begins to the position behind it. -/
theorem runAll_sets (text : List Char) (sets : List CharSet) (rest : List Program)
    (positions : Positions) :
    Program.runAll text.toArray (sets.map .set ++ rest) positions =
      Program.runAll text.toArray rest
        ((positions.filter fun i => fitsSets sets (text.drop i)).map (· + sets.length)) := by
  induction sets generalizing positions with
  | nil => simp [fitsSets]
  | cons set sets ih =>
      rw [List.map_cons, List.cons_append, Program.runAll, Program.run, ih, List.filter_map,
        List.map_map, List.filter_filter]
      simp only [fitsSets_cons_drop, List.length_cons, Function.comp_def, List.getElem?_toArray,
        Bool.and_comm, Nat.add_comm, Nat.add_left_comm]

/-- A program of a literal matches where the literal stands, at the edges that are anchored. -/
theorem runAll_anchoredPrograms (ignoreCase start finish : Bool) (chars text : List Char) :
    (!(Program.runAll text.toArray (anchoredPrograms ignoreCase start finish chars)
        (List.range (text.length + 1))).isEmpty) = true ↔
      ∃ i ≤ text.length, (start = true → i = 0) ∧
        fitsSets (chars.map (literalSet ignoreCase)) (text.drop i) = true ∧
        (finish = true → i + chars.length = text.length) := by
  have sets : (chars.map fun c => Program.set (literalSet ignoreCase c)) =
      (chars.map (literalSet ignoreCase)).map .set := by simp
  have begins (positions : Positions) (rest : List Program) :
      Program.runAll text.toArray ((if start then [.look .textStart] else []) ++ rest) positions =
        Program.runAll text.toArray rest (positions.filter fun i => !start || i == 0) := by
    cases start
    · simp
    · rfl
  have ends (positions : Positions) :
      Program.runAll text.toArray (if finish then [.look .textEnd] else []) positions =
        positions.filter fun i => !finish || i == text.length := by
    cases finish
    · simp [Program.runAll]
    · rfl
  rw [anchoredPrograms, List.append_assoc, begins, sets, runAll_sets, ends]
  simp only [Bool.not_eq_true', List.isEmpty_eq_false_iff_exists_mem, List.mem_filter,
    List.mem_map, List.mem_range]
  constructor
  · rintro ⟨_, ⟨i, ⟨⟨inside, first⟩, fits⟩, rfl⟩, last⟩
    refine ⟨i, by omega, ?_, fits, ?_⟩
    · intro anchored
      simpa [anchored] using first
    · intro anchored
      simpa [anchored] using last
  · rintro ⟨i, inside, first, fits, last⟩
    refine ⟨_, ⟨i, ⟨⟨by omega, ?_⟩, fits⟩, rfl⟩, ?_⟩
    · cases start
      · rfl
      · simpa using first rfl
    · cases finish
      · rfl
      · simpa using last rfl

end Regex

/-! ## The form of a literal -/

namespace TextPattern

/-- A character as it counts, in lower case when case is ignored. -/
def foldedChar (ignoreCase : Bool) (c : Char) : Char := if ignoreCase then c.toLower else c

theorem folded_eq_map (ignoreCase : Bool) (text : String) :
    folded ignoreCase text = text.toList.map (foldedChar ignoreCase) := by
  cases ignoreCase
  · exact (List.map_id' _).symm
  · rfl

/-- The set of a character that SQL can fold holds of the characters that count the same. -/
theorem holds_literalSet {ignoreCase : Bool} {literal : List Char}
    (foldable : ignoreCase = true → isFoldable (String.ofList literal) = true) {c : Char}
    (member : c ∈ literal) (d : Char) :
    (literalSet ignoreCase c).holds d.toNat =
      (foldedChar ignoreCase c == foldedChar ignoreCase d) := by
  cases ignoreCase with
  | false =>
      change (CharSet.single c).holds d.toNat = (c == d)
      rw [CharSet.holds_single, Bool.eq_iff_iff, beq_iff_eq, beq_iff_eq, Char.toNat_inj]
  | true =>
      have all := foldable rfl
      rw [isFoldable, String.toList_ofList, List.all_eq_true] at all
      have plain := all c member
      simp only [Bool.and_eq_true, decide_eq_true_eq, ne_eq, ← Char.toNat_inj] at plain
      have noSpecial : ¬ Unicode.foldsBeyond c.toNat := by
        rintro (same | same | same | same)
        · exact plain.1.1.2 same
        · exact plain.2 same
        · exact plain.1.1.1.2 same
        · exact plain.1.2 same
      exact CharSet.holds_folded_single plain.1.1.1.1 noSpecial d

theorem fitsSets_literalSet {ignoreCase : Bool} {literal : List Char}
    (foldable : ignoreCase = true → isFoldable (String.ofList literal) = true) (text : List Char) :
    fitsSets (literal.map (literalSet ignoreCase)) text = true ↔
      literal.map (foldedChar ignoreCase) <+: text.map (foldedChar ignoreCase) := by
  have holds : ∀ c ∈ literal, ∀ d : Char, (literalSet ignoreCase c).holds d.toNat =
      (foldedChar ignoreCase c == foldedChar ignoreCase d) :=
    fun c member => holds_literalSet foldable member
  clear foldable
  induction literal generalizing text with
  | nil => simp [fitsSets]
  | cons c literal ih =>
      cases text with
      | nil => simp [fitsSets]
      | cons d text =>
          have others : fitsSets (literal.map (literalSet ignoreCase)) text = true ↔
              literal.map (foldedChar ignoreCase) <+: text.map (foldedChar ignoreCase) :=
            ih text fun c member => holds c (List.mem_cons_of_mem _ member)
          rw [List.map_cons, fitsSets, holds c List.mem_cons_self, Bool.and_eq_true, beq_iff_eq,
            others, List.map_cons, List.map_cons, List.cons_prefix_cons]

/-- A form asks that its literal stands somewhere in a text, at the edges that are anchored. -/
theorem accepts_ofAnchors (ignoreCase start finish : Bool) (literal text : String) :
    (ofAnchors start finish literal).accepts ignoreCase text = true ↔
      ∃ i ≤ (folded ignoreCase text).length, (start = true → i = 0) ∧
        folded ignoreCase literal <+: (folded ignoreCase text).drop i ∧
        (finish = true →
          i + (folded ignoreCase literal).length = (folded ignoreCase text).length) := by
  cases start <;> cases finish <;>
    simp only [ofAnchors, accepts, Bool.false_eq_true, true_implies]
  all_goals
    generalize folded ignoreCase text = whole
    generalize folded ignoreCase literal = part
  · rw [List.any_eq_true]
    constructor
    · rintro ⟨tail, member, begins⟩
      rw [List.mem_tails, List.suffix_iff_eq_drop] at member
      rw [List.isPrefixOf_iff_prefix, member] at begins
      exact ⟨_, Nat.sub_le _ _, False.elim, begins, False.elim⟩
    · rintro ⟨i, -, -, begins, -⟩
      refine ⟨whole.drop i, ?_, List.isPrefixOf_iff_prefix.mpr begins⟩
      exact (List.mem_tails _ _).mpr (List.drop_suffix i whole)
  · rw [List.isSuffixOf_iff_suffix]
    constructor
    · rintro ⟨front, rfl⟩
      exact ⟨front.length, by simp, False.elim, by simp, by simp⟩
    · rintro ⟨i, -, -, begins, last⟩
      have length : part.length = (whole.drop i).length := by
        rw [List.length_drop]
        omega
      rw [begins.eq_of_length length]
      exact List.drop_suffix i whole
  · rw [List.isPrefixOf_iff_prefix]
    constructor
    · intro begins
      exact ⟨0, Nat.zero_le _, rfl, begins, False.elim⟩
    · rintro ⟨i, -, first, begins, -⟩
      rw [first] at begins
      exact begins
  · rw [beq_iff_eq]
    constructor
    · rintro rfl
      exact ⟨0, Nat.zero_le _, rfl, List.prefix_rfl, Nat.zero_add _⟩
    · rintro ⟨i, -, first, begins, last⟩
      rw [first] at begins last
      rw [Nat.zero_add] at last
      exact begins.eq_of_length last

/-- A reducible form asks of every text what its regular expression matches. -/
theorem accepts_ofRegex {expression : RegularExpression}
    (reducible : TextPattern.ofRegex expression ≠ .irreducible) (text : String) :
    (TextPattern.ofRegex expression).accepts expression.caseInsensitive text =
      expression.matchesIn text := by
  have plain : expression.hasSemanticFlags = false := by
    by_contra other
    rw [Bool.not_eq_false] at other
    exact reducible (if_pos other)
  have foldable : (expression.caseInsensitive &&
      !(classify expression.pattern).literal?.all isFoldable) = false := by
    by_contra other
    rw [Bool.not_eq_false] at other
    exact reducible (by simp [ofRegex, plain, other])
  have form : ofRegex expression = classify expression.pattern := by
    simp [ofRegex, plain, foldable]
  rw [form] at reducible ⊢
  obtain ⟨start, finish, body, chars, spelled, literal, anchors⟩ := classify_reducible reducible
  have lettersFold :
      expression.caseInsensitive = true → isFoldable (String.ofList chars) = true := by
    intro ignoreCase
    rw [ignoreCase, anchors] at foldable
    cases start <;> cases finish <;> simpa [ofAnchors, literal?] using foldable
  have noOption : hasOption expression.options 'm' = false ∧
      hasOption expression.options 's' = false ∧ hasOption expression.options 'x' = false := by
    simpa [RegularExpression.hasSemanticFlags] using plain
  have fits (rest : List Char) :
      fitsSets (chars.map (literalSet (hasOption expression.options 'i'))) rest = true ↔
        chars.map (foldedChar expression.caseInsensitive) <+:
          rest.map (foldedChar expression.caseInsensitive) :=
    fitsSets_literalSet lettersFold rest
  rw [anchors, Bool.eq_iff_iff, accepts_ofAnchors, RegularExpression.matchesIn,
    Program.matchesIn, run_programOf? expression.program_eq noOption spelled literal,
    List.size_toArray, runAll_anchoredPrograms]
  simp only [fits, folded_eq_map, List.length_map, List.map_drop, String.toList_ofList]

end TextPattern

end Pushdown
