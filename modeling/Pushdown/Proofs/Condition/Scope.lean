import Pushdown.Proofs.Condition.Lexeme
import Pushdown.Sql.TextPattern

/-!
# Scopes of SQL text

A cursor goes through the lexemes of a text and keeps track of the parentheses that are open. Those
of `EXISTS` hold a scan: first its source, then the name of its rows, and behind `WHERE` its body.
An unqualified name between them is one of the columns that the rows of the scan have, if there is
such a column, and belongs to the rows outside only if there is none. Operands of `IN` that are a
subquery are a scope of their own.

`Passes` says what a cursor meets in a text: that names of rows are used in the bodies of their
scans only, that unqualified names in scans are the column of documents, and which names of rows are
introduced.
-/

namespace Pushdown.Sql

/-! ## Cursors -/

/-- What a parenthesis that is open belongs to. -/
inductive Bracket where
  | group
  /-- The operands of `IN`. -/
  | list
  /-- Operands that are a subquery. -/
  | select
  /-- The subquery of `EXISTS`, up to the name of its rows. -/
  | source
  /-- The subquery of `EXISTS`, from the name of its rows on. -/
  | rows (name : String)
  /-- The condition on the rows of a scan. -/
  | body (name : String)
deriving DecidableEq, Repr

namespace Bracket

/-- The bracket of a parenthesis that opens behind a lexeme. -/
def opened (before : Option Lexeme) : Bracket :=
  if before = some (.word "EXISTS") then .source
  else if before = some (.word "IN") then .list
  else .group

/-- The bracket behind a word in it, which stands behind a lexeme. -/
def next (before : Option Lexeme) (word : String) : Bracket → Bracket
  | .list => if word = "SELECT" then .select else .list
  | .source => if before = some (.word "AS") then .rows word else .source
  | .rows name => if word = "WHERE" then .body name else .rows name
  | other => other

end Bracket

/-- The innermost subquery of some brackets is that of a scan. -/
def inScan : List Bracket → Bool
  | [] => false
  | .group :: outer | .list :: outer => inScan outer
  | .select :: _ => false
  | .source :: _ | .rows _ :: _ | .body _ :: _ => true

/-- What is known between two lexemes: the brackets that are open, the innermost first, and the
lexeme before. -/
@[ext]
structure Cursor where
  scopes : List Bracket
  before : Option Lexeme
deriving DecidableEq, Repr

/-- A lexeme of a text, with the brackets that are open there and the lexeme before. -/
structure Occurrence where
  scopes : List Bracket
  before : Option Lexeme
  lexeme : Lexeme
deriving DecidableEq, Repr

namespace Cursor

def start : Cursor := ⟨[], none⟩

def read (cursor : Cursor) : Lexeme → Cursor
  | .word word => {
      scopes := match cursor.scopes with
        | [] => []
        | bracket :: outer => bracket.next cursor.before word :: outer
      before := some (.word word) }
  | .mark c => {
      scopes :=
        if c = '(' then .opened cursor.before :: cursor.scopes
        else if c = ')' then cursor.scopes.tail
        else cursor.scopes
      before := some (.mark c) }

def after (cursor : Cursor) (list : List Lexeme) : Cursor := list.foldl read cursor

/-- The lexemes where the cursor meets them. -/
def occurrences : Cursor → List Lexeme → List Occurrence
  | _, [] => []
  | cursor, lexeme :: rest =>
    ⟨cursor.scopes, cursor.before, lexeme⟩ :: occurrences (cursor.read lexeme) rest

theorem after_append (cursor : Cursor) (front back : List Lexeme) :
    cursor.after (front ++ back) = (cursor.after front).after back := List.foldl_append

theorem occurrences_append (cursor : Cursor) (front back : List Lexeme) :
    cursor.occurrences (front ++ back) =
      cursor.occurrences front ++ (cursor.after front).occurrences back := by
  induction front generalizing cursor with
  | nil => rfl
  | cons lexeme front ih =>
      rw [List.cons_append, occurrences, occurrences, ih, List.cons_append]
      rfl

theorem mem_of_mem_occurrences {cursor : Cursor} {list : List Lexeme} {o : Occurrence}
    (occurs : o ∈ cursor.occurrences list) : o.lexeme ∈ list := by
  induction list generalizing cursor with
  | nil => cases occurs
  | cons lexeme list ih =>
      obtain rfl | later := List.mem_cons.mp occurs
      · exact List.mem_cons_self
      · exact List.mem_cons_of_mem lexeme (ih later)

end Cursor

/-! ## Names -/

/-- The words of the texts of conditions that name nothing in the rows of the store. -/
def vocabulary : List String :=
  ["EXISTS", "SELECT", "FROM", "AS", "WHERE", "AND", "OR", "NOT", "IN", "IS", "NULL", "LIKE",
    "ESCAPE", "COLLATE", "NOCASE", "CAST", "INTEGER", "COALESCE", "lower", "json_type",
    "json_extract", "json_each", "json_array_length", "0", "1"]

def rowColumns : List String :=
  ["key", "value", "type", "atom", "id", "parent", "fullkey", "path", "json", "root"]

/-- A name of a column of the rows of a scan, in letters of either case. -/
def isRowColumn (name : String) : Bool := rowColumns.contains (TextPattern.lowered name)

def isQualified (word : String) : Bool := word.toList.contains '.'

namespace Occurrence

/-- The name that is introduced behind `AS`. -/
def alias? (o : Occurrence) : Option String :=
  match o.lexeme with
  | .word word => if o.before = some (.word "AS") then some word else none
  | .mark _ => none

/-- The unqualified name of a column. -/
def reference? (o : Occurrence) : Option String :=
  match o.lexeme with
  | .word word =>
    if o.before = some (.word "AS") || isQualified word || vocabulary.contains word then none
    else some word
  | .mark _ => none

/-- A column of the rows of a scan is used by the name of the rows. -/
def Uses (scan : Nat) (o : Occurrence) : Prop :=
  o.lexeme = .word (scanName scan ++ ".value") ∨ o.lexeme = .word (scanName scan ++ ".type") ∨
    o.lexeme = .word (scanName scan ++ ".fullkey")

end Occurrence

/-- The lexemes of a text where a cursor meets them. -/
def occurrences (text : String) : List Occurrence := Cursor.start.occurrences (lexemes text)

def aliases (text : String) : List String := (occurrences text).filterMap Occurrence.alias?

/-! ## What a cursor meets -/

variable {document : String}

/-- Rows are used in the bodies of their scans, and an unqualified name in a scan is the column of
documents and not between quotes. -/
structure Occurrence.Sound (document : String) (o : Occurrence) : Prop where
  within : ∀ scan, o.Uses scan → .body (scanName scan) ∈ o.scopes
  outer : inScan o.scopes = true → ∀ name ∈ o.reference?, name = document
  unquoted : inScan o.scopes = true → o.lexeme ≠ .mark '"'

/-- The column of documents is read in a scan. -/
def Occurrence.Reads (document : String) (o : Occurrence) : Prop :=
  inScan o.scopes = true ∧ o.before = some (.mark '(') ∧ o.lexeme = .word document

/-- Lexemes that are sound introduce the names of some scans and no others, and if `read`, the
column of documents is read in a scan. -/
structure Account (document : String) (numbers : List Nat) (read : Prop) (os : List Occurrence) :
    Prop where
  sound : ∀ o ∈ os, o.Sound document
  introduced : ∀ scan, (os.filterMap Occurrence.alias?).count (scanName scan) = numbers.count scan
  reads : read → ∃ o ∈ os, o.Reads document

theorem Account.append {m n : List Nat} {read read' : Prop} {os ps : List Occurrence}
    (front : Account document m read os) (back : Account document n read' ps) :
    Account document (m ++ n) (read ∨ read') (os ++ ps) where
  sound := List.forall_mem_append.mpr ⟨front.sound, back.sound⟩
  introduced scan := by
    rw [List.filterMap_append, List.count_append, List.count_append, front.introduced,
      back.introduced]
  reads := by
    rintro (here | there)
    · obtain ⟨o, member, reads⟩ := front.reads here
      exact ⟨o, List.mem_append_left ps member, reads⟩
    · obtain ⟨o, member, reads⟩ := back.reads there
      exact ⟨o, List.mem_append_right os member, reads⟩

/-- The cursor passes a text, of whose lexemes there is an account, and is then as promised. -/
def Passes (document : String) (cursor : Cursor) (text : String) (numbers : List Nat) (read : Prop)
    (ends : Cursor → Prop) : Prop :=
  ∃ list, Lexes text list ∧ Account document numbers read (cursor.occurrences list) ∧
    ends (cursor.after list)

namespace Passes

variable {cursor : Cursor} {a b text : String} {m n numbers : List Nat} {read read' : Prop}
  {ends ends' : Cursor → Prop}

theorem append (front : Passes document cursor a m read ends)
    (back : ∀ between, ends between → Passes document between b n read' ends')
    (apart : beginsApart b = true ∨ endsApart a = true) :
    Passes document cursor (a ++ b) (m ++ n) (read ∨ read') ends' := by
  obtain ⟨l, lexes, account, reaches⟩ := front
  obtain ⟨k, lexes', account', reaches'⟩ := back _ reaches
  refine ⟨l ++ k, lexes.append lexes' apart, ?_, ?_⟩
  · rw [Cursor.occurrences_append]
    exact account.append account'
  · rw [Cursor.after_append]
    exact reaches'

theorem imp (passes : Passes document cursor text numbers read ends) (reads : read' → read)
    (reaches : ∀ cursor, ends cursor → ends' cursor) :
    Passes document cursor text numbers read' ends' := by
  obtain ⟨l, lexes, account, reached⟩ := passes
  exact ⟨l, lexes, ⟨account.sound, account.introduced, account.reads ∘ reads⟩, reaches _ reached⟩

end Passes

/-! ## Fixed text -/

/-- A word that names nothing, or a mark with which no name begins. -/
def Lexeme.isFixed : Lexeme → Bool
  | .word text => vocabulary.contains text
  | .mark c => c ≠ '"'

/-- Fixed text that consists of the lexemes. -/
structure Fixed (text : String) (list : List Lexeme) : Prop where
  lexes : Lexes text list
  all : list.all Lexeme.isFixed = true

instance (text : String) (list : List Lexeme) : Decidable (Fixed text list) :=
  decidable_of_iff _ ⟨fun h => ⟨h.1, h.2⟩, fun h => And.intro h.lexes h.all⟩

/-- A word that could be the name of a scan. -/
def isNumbered (word : String) : Bool :=
  match word.toList with
  | 'j' :: c :: _ => c.isDigit
  | _ => false

theorem toList_scanName (scan : Nat) : (scanName scan).toList = 'j' :: decimalDigits scan := by
  have letter : "j".toList = ['j'] := by decide
  rw [scanName, String.toList_append, letter, decimalText, String.toList_ofList,
    List.singleton_append]

theorem isNumbered_scanName (scan : Nat) : isNumbered (scanName scan) = true := by
  rw [isNumbered, toList_scanName]
  cases text : decimalDigits scan with
  | nil => exact absurd text (decimalDigits_ne_nil scan)
  | cons c rest => exact isDigit_of_mem_decimalDigits (text ▸ List.mem_cons_self)

theorem scanName_injective {m n : Nat} (h : scanName m = scanName n) : m = n := by
  have texts := congrArg String.toList h
  rw [toList_scanName, toList_scanName] at texts
  exact decimalDigits_injective (List.cons.inj texts).2

/-- The name of a scan ends where a point follows. -/
theorem scanName_append_injective {m n : Nat} {a b : String} (first : a.toList.head? = some '.')
    (second : b.toList.head? = some '.') (h : scanName m ++ a = scanName n ++ b) : m = n := by
  have ends {k : Nat} {column : String} (point : column.toList.head? = some '.') :
      (scanName k ++ column).toList.takeWhile (· ≠ '.') = (scanName k).toList := by
    obtain ⟨rest, text⟩ := List.head?_eq_some_iff.mp point
    have plain (c : Char) (member : c ∈ (scanName k).toList) : decide (c ≠ '.') = true := by
      rw [decide_eq_true_eq]
      rintro rfl
      cases continues_scanName k '.' member
    rw [String.toList_append, List.takeWhile_append_of_pos plain, text]
    exact List.append_nil _
  apply scanName_injective
  rw [← String.toList_inj, ← ends first, ← ends second, h]

theorem isNumbered_of_vocabulary {word : String} (known : vocabulary.contains word = true) :
    isNumbered word = false := by
  have none : vocabulary.all (fun word => !isNumbered word) = true := by decide
  simpa using List.all_eq_true.mp none word (List.contains_iff_mem.mp known)

theorem isQualified_of_vocabulary {word : String} (known : vocabulary.contains word = true) :
    isQualified word = false := by
  have none : vocabulary.all (fun word => !isQualified word) = true := by decide
  simpa using List.all_eq_true.mp none word (List.contains_iff_mem.mp known)

theorem isQualified_append {a b : String} (h : isQualified b = true) :
    isQualified (a ++ b) = true := by
  rw [isQualified, List.contains_iff_mem] at h ⊢
  rw [String.toList_append]
  exact List.mem_append_right _ h

theorem isQualified_of_continues {word : String}
    (plain : ∀ c ∈ word.toList, continuesIdentifier c = true) : isQualified word = false := by
  rw [isQualified, Bool.eq_false_iff, ne_eq, List.contains_iff_mem]
  intro member
  cases plain '.' member

namespace Occurrence

variable {o : Occurrence} {word : String}

/-- A use is a qualified word. -/
theorem Uses.isQualified {scan : Nat} (uses : o.Uses scan) (h : o.lexeme = .word word) :
    Sql.isQualified word = true := by
  rw [Uses, h, Lexeme.word.injEq, Lexeme.word.injEq, Lexeme.word.injEq] at uses
  obtain rfl | rfl | rfl := uses <;> exact isQualified_append (by decide)

/-- What is used is the scan whose name a word begins with. -/
theorem Uses.eq_scan {scan used : Nat} {column : String} (uses : o.Uses used)
    (h : o.lexeme = .word (scanName scan ++ column)) (point : column.toList.head? = some '.') :
    used = scan := by
  rw [Uses, h, Lexeme.word.injEq, Lexeme.word.injEq, Lexeme.word.injEq] at uses
  obtain eq | eq | eq := uses <;> exact (scanName_append_injective point (by decide) eq).symm

/-- A word without a point is no use. -/
theorem Sound.of_unqualified (h : o.lexeme = .word word) (plain : isQualified word = false)
    (outer : inScan o.scopes = true → ∀ name ∈ o.reference?, name = document) :
    o.Sound document where
  within scan uses := by
    rw [uses.isQualified h] at plain
    cases plain
  outer := outer
  unquoted := by
    rw [h]
    exact fun _ impossible => by cases impossible

theorem Sound.of_fixed (fixed : o.lexeme.isFixed = true) : o.Sound document := by
  obtain ⟨scopes, before, word | c⟩ := o
  · have known : vocabulary.contains word = true := fixed
    apply Sound.of_unqualified rfl (isQualified_of_vocabulary known)
    intro _ name given
    have none : reference? ⟨scopes, before, .word word⟩ = none := by
      rw [reference?]
      dsimp only
      rw [known, Bool.or_true, if_pos rfl]
    rw [none] at given
    cases given
  · constructor
    · intro scan uses
      simp [Uses] at uses
    · intro _ name given
      cases given
    · rintro - ⟨⟩
      cases fixed

end Occurrence

theorem Account.fixed (cursor : Cursor) {list : List Lexeme}
    (fixed : list.all Lexeme.isFixed = true) :
    Account document [] False (cursor.occurrences list) := by
  have known (o : Occurrence) (occurs : o ∈ cursor.occurrences list) : o.lexeme.isFixed = true :=
    List.all_eq_true.mp fixed _ (Cursor.mem_of_mem_occurrences occurs)
  refine ⟨fun o occurs => .of_fixed (known o occurs), ?_, False.elim⟩
  intro scan
  rw [List.count_nil, List.count_eq_zero]
  intro member
  obtain ⟨⟨scopes, before, word | c⟩, occurs, given⟩ := List.mem_filterMap.mp member
  · rw [Occurrence.alias?, Option.ite_none_right_eq_some, Option.some.injEq] at given
    obtain ⟨-, rfl⟩ := given
    have numbered := isNumbered_scanName scan
    have fixed : vocabulary.contains (scanName scan) = true := known _ occurs
    rw [isNumbered_of_vocabulary fixed] at numbered
    cases numbered
  · cases given

/-- A word that introduces nothing. -/
theorem Account.word {cursor : Cursor} {word : String}
    (sound : Occurrence.Sound document ⟨cursor.scopes, cursor.before, .word word⟩)
    (noAlias : cursor.before ≠ some (.word "AS")) :
    Account document [] False (cursor.occurrences [.word word]) := by
  refine ⟨List.forall_mem_singleton.mpr sound, ?_, False.elim⟩
  intro scan
  simp [Cursor.occurrences, Occurrence.alias?, noAlias]

namespace Passes

variable {cursor : Cursor} {a b text : String} {numbers : List Nat} {read : Prop}
  {ends ends' : Cursor → Prop} {list : List Lexeme}

theorem fixed (fixed : Fixed text list) :
    Passes document cursor text [] False (· = cursor.after list) :=
  ⟨list, fixed.lexes, .fixed cursor fixed.all, rfl⟩

/-- A text is followed by one that introduces no names. -/
theorem andThen (front : Passes document cursor a numbers read ends)
    (back : ∀ between, ends between → Passes document between b [] False ends')
    (apart : beginsApart b = true ∨ endsApart a = true) :
    Passes document cursor (a ++ b) numbers read ends' := by
  have both := front.append back apart
  rw [List.append_nil] at both
  exact both.imp .inl fun _ => id

/-- A text is followed by fixed text. -/
theorem followed (front : Passes document cursor a numbers read ends) (b : String)
    (list : List Lexeme) (known : Fixed b list ∧ beginsApart b = true)
    (reaches : ∀ between, ends between → ends' (between.after list)) :
    Passes document cursor (a ++ b) numbers read ends' :=
  front.andThen (fun between reached =>
    (fixed known.1).imp id fun _ eq => eq ▸ reaches between reached) (.inl known.2)

/-- A text is preceded by fixed text. -/
theorem preceded (a : String) (list : List Lexeme) (known : Fixed a list ∧ endsApart a = true)
    (back : Passes document (cursor.after list) b numbers read ends) :
    Passes document cursor (a ++ b) numbers read ends := by
  have both := (fixed known.1).append (fun _ eq => eq ▸ back) (.inr known.2)
  exact both.imp .inr fun _ => id

/-- A literal is passed over. -/
theorem literal (cursor : Cursor) (text : String) :
    Passes document cursor (Sql.literal text) [] False (· = cursor) :=
  ⟨[], .literal text, ⟨List.forall_mem_nil _, fun _ => rfl, False.elim⟩, rfl⟩

/-- A word that introduces nothing. -/
theorem word {word : String} (lexes : Lexes text [.word word])
    (sound : Occurrence.Sound document ⟨cursor.scopes, cursor.before, .word word⟩)
    (noAlias : cursor.before ≠ some (.word "AS")) :
    Passes document cursor text [] False (· = cursor.read (.word word)) :=
  ⟨_, lexes, .word sound noAlias, rfl⟩

/-- A name that is no plain identifier may stand outside of all scans. -/
theorem quotedName {name : String} (other : isIdentifier name = false)
    (outside : inScan cursor.scopes = false) :
    Passes document cursor (quoteIdentifier name) [] False (·.scopes = cursor.scopes) := by
  obtain ⟨list, lexes, marks⟩ := Lexes.quotedName other
  have read : (cursor.after list).scopes = cursor.scopes ∧ ∀ o ∈ cursor.occurrences list,
      o.scopes = cursor.scopes := by
    clear lexes outside
    induction list generalizing cursor with
    | nil => exact ⟨rfl, List.forall_mem_nil _⟩
    | cons lexeme list ih =>
        obtain ⟨rfl, later⟩ := List.forall_mem_cons.mp marks
        obtain ⟨last, others⟩ := @ih (cursor.read (.mark '"')) later
        exact ⟨last, List.forall_mem_cons.mpr ⟨rfl, others⟩⟩
  have mark (o : Occurrence) (occurs : o ∈ cursor.occurrences list) : o.lexeme = .mark '"' :=
    marks _ (Cursor.mem_of_mem_occurrences occurs)
  refine ⟨list, lexes, ⟨fun o occurs => ?_, fun scan => ?_, False.elim⟩, read.1⟩
  · have not : inScan o.scopes ≠ true := by
      rw [read.2 o occurs, outside]
      exact Bool.false_ne_true
    refine ⟨fun scan uses => ?_, fun inside => absurd inside not, fun inside => absurd inside not⟩
    simp [Occurrence.Uses, mark o occurs] at uses
  · rw [List.count_nil, List.count_eq_zero]
    intro member
    obtain ⟨o, occurs, given⟩ := List.mem_filterMap.mp member
    rw [Occurrence.alias?, mark o occurs] at given
    cases given

/-- The name of a scan behind `AS`. -/
theorem rowName (scan : Nat) (introduces : cursor.before = some (.word "AS")) :
    Passes document cursor (scanName scan) [scan] False
      (· = cursor.read (.word (scanName scan))) := by
  have lexes : Lexes (scanName scan) [.word (scanName scan)] := by
    have whole := Lexes.scanName scan "" rfl
    rwa [String.append_empty] at whole
  refine ⟨_, lexes, ⟨?_, ?_, False.elim⟩, rfl⟩
  · refine List.forall_mem_singleton.mpr (.of_unqualified rfl ?_ ?_)
    · exact isQualified_of_continues (continues_scanName scan)
    · intro _ name given
      simp [Occurrence.reference?, introduces] at given
  · intro other
    have only : (cursor.occurrences [.word (scanName scan)]).filterMap
        Occurrence.alias? = [scanName scan] := by
      simp [Cursor.occurrences, Occurrence.alias?, introduces]
    rw [only, List.count_singleton, List.count_singleton]
    by_cases same : scan = other
    · subst same
      rw [beq_self_eq_true, beq_self_eq_true]
    · rw [if_neg (mt (fun eq => scanName_injective (eq_of_beq eq)) same),
        if_neg (mt eq_of_beq same)]

end Passes

end Pushdown.Sql
