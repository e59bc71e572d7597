import Pushdown.Proofs.Condition.Scope

/-!
# Pieces of SQL text

A piece of SQL is read with some parentheses open, and when it has been read the same ones are open
again. `Embeds` says that a cursor passes a piece of text so, wherever it is put in the body of a
scan, or outside of all scans. `Spans` says the same of a piece that opens or closes groups, such as
the part of an expression in front of an operand. Pieces are put together with fixed text before,
between and behind them.
-/

namespace Pushdown.Sql

/-! ## Places for pieces of text -/

/-- Words leave the innermost bracket as it is. -/
def isOpen : List Bracket → Bool
  | [] | .group :: _ | .select :: _ | .body _ :: _ => true
  | .list :: _ | .source :: _ | .rows _ :: _ => false

/-- The place is in the body of a scan, or outside of all scans. -/
def Admits : Option Nat → List Bracket → Prop
  | none, scopes => inScan scopes = false
  | some scan, scopes => .body (scanName scan) ∈ scopes

/-- The lexeme before says nothing about the next one. -/
def Calm (before : Option Lexeme) : Prop :=
  before ≠ some (.word "AS") ∧ before ≠ some (.word "EXISTS") ∧ before ≠ some (.word "IN")

instance (before : Option Lexeme) : Decidable (Calm before) :=
  inferInstanceAs (Decidable (_ ∧ _ ∧ _))

theorem Calm.mark (c : Char) : Calm (some (.mark c)) := by
  refine ⟨?_, ?_, ?_⟩ <;> exact fun impossible => by cases impossible

theorem Calm.opened {before : Option Lexeme} (calm : Calm before) :
    Bracket.opened before = .group := by
  rw [Bracket.opened, if_neg calm.2.1, if_neg calm.2.2]

namespace Cursor

variable {scope : Option Nat} {cursor : Cursor}

theorem read_word (isOpen : isOpen cursor.scopes = true) (word : String) :
    cursor.read (.word word) = ⟨cursor.scopes, some (.word word)⟩ := by
  obtain ⟨scopes, before⟩ := cursor
  rcases scopes with _ | ⟨_ | _ | _ | _ | _ | _, outer⟩ <;> first | rfl | cases isOpen

theorem after_cons (cursor : Cursor) (lexeme : Lexeme) (list : List Lexeme) :
    cursor.after (lexeme :: list) = (cursor.read lexeme).after list := rfl

theorem before_read (cursor : Cursor) (lexeme : Lexeme) :
    (cursor.read lexeme).before = some lexeme := by
  cases lexeme <;> rfl

theorem before_after (cursor : Cursor) (list : List Lexeme) :
    (cursor.after list).before = list.getLast?.or cursor.before := by
  induction list generalizing cursor with
  | nil => rfl
  | cons lexeme list ih =>
      rw [after_cons, ih, before_read, List.getLast?_cons, Option.some_or]
      cases list.getLast? <;> rfl

/-- The cursor behind `IN` and its parenthesis. -/
theorem after_operands {scopes : List Bracket} (isOpen : isOpen scopes = true)
    (before : Option Lexeme) (list : List Lexeme) :
    (⟨scopes, before⟩ : Cursor).after (.word "IN" :: .mark '(' :: list) =
      (⟨.list :: scopes, some (.mark '(')⟩ : Cursor).after list := by
  have word : Cursor.read ⟨scopes, before⟩ (.word "IN") = _ := read_word isOpen "IN"
  rw [after_cons, word]
  rfl

theorem scopes_after_commas (n : Nat) :
    (cursor.after (List.replicate n (.mark ','))).scopes = cursor.scopes := by
  induction n generalizing cursor with
  | zero => rfl
  | succ n ih => exact @ih (cursor.read (.mark ','))

/-- The cursor is at a place for a piece of text of the scope. -/
structure Ready (scope : Option Nat) (cursor : Cursor) : Prop where
  admits : Admits scope cursor.scopes
  isOpen : Sql.isOpen cursor.scopes = true
  calm : Calm cursor.before

theorem Ready.start : Ready none start := ⟨rfl, rfl, by decide⟩

/-- The place in parentheses. -/
theorem Ready.groups (ready : Ready scope cursor) (n : Nat) {before : Option Lexeme}
    (calm : Calm before) : Ready scope ⟨List.replicate n .group ++ cursor.scopes, before⟩ := by
  induction n with
  | zero => exact ⟨ready.admits, ready.isOpen, calm⟩
  | succ n ih =>
      rw [List.replicate_succ, List.cons_append]
      refine ⟨?_, rfl, calm⟩
      cases scope with
      | none => exact ih.admits
      | some scan => exact List.mem_cons_of_mem _ ih.admits

end Cursor

/-! ## Groups -/

/-- The number of groups that are open behind lexemes, if they open and close no other parentheses;
`calm` if the lexeme before is known to say nothing about the first one. -/
def groups : Bool → Nat → List Lexeme → Option Nat
  | _, n, [] => some n
  | _, n, .word word :: rest => groups (Calm (some (.word word))) n rest
  | calm, n, .mark c :: rest =>
    if c = '(' then if calm then groups true (n + 1) rest else none
    else if c = ')' then if n = 0 then none else groups true (n - 1) rest
    else groups true n rest

/-- Fixed text, which is read with `n` groups open and leaves `m` groups open. -/
structure Turns (calm : Bool) (n m : Nat) (text : String) : Prop where
  fixed : Fixed text (lexemes text)
  groups : groups calm n (lexemes text) = some m

instance (calm : Bool) (n m : Nat) (text : String) : Decidable (Turns calm n m text) :=
  decidable_of_iff _ ⟨fun h => ⟨h.1, h.2⟩, fun h => And.intro h.fixed h.groups⟩

/-- The text ends with a lexeme of its own that says nothing about the next one. -/
def endsCalm (text : String) : Bool :=
  endsApart text && (lexemes text).getLast?.any fun last => Calm (some last)

theorem endsCalm_iff {text : String} : endsCalm text = true ↔
    endsApart text = true ∧ ∃ last, (lexemes text).getLast? = some last ∧ Calm (some last) := by
  rw [endsCalm, Bool.and_eq_true, Option.any_eq_true]
  simp only [decide_eq_true_eq]

theorem endsApart_append_of_endsCalm (a : String) {b : String} (ends : endsCalm b = true) :
    endsApart (a ++ b) = true := by
  obtain ⟨apart, last, given, -⟩ := endsCalm_iff.mp ends
  apply endsApart_append apart
  intro none
  rw [lexemes, none] at given
  cases given

theorem isOpen_groups {scopes : List Bracket} (isOpen : isOpen scopes = true) (n : Nat) :
    Sql.isOpen (List.replicate n .group ++ scopes) = true := by
  cases n with
  | zero => exact isOpen
  | succ n => rfl

theorem scopes_after_groups {scopes : List Bracket} (isOpen : isOpen scopes = true)
    {list : List Lexeme} {calm : Bool} {n m : Nat} (turns : groups calm n list = some m)
    {before : Option Lexeme} (known : calm = false ∨ Calm before) :
    ((⟨List.replicate n .group ++ scopes, before⟩ : Cursor).after list).scopes =
      List.replicate m .group ++ scopes := by
  induction list generalizing calm n before with
  | nil =>
      cases turns
      rfl
  | cons lexeme list ih =>
      rw [Cursor.after_cons]
      cases lexeme with
      | word word =>
          rw [Cursor.read_word (isOpen_groups isOpen n)]
          exact ih turns ((Decidable.em _).symm.imp_left decide_eq_false)
      | mark c =>
          rw [groups] at turns
          rw [Cursor.read]
          split at turns
          · next opening =>
            rw [Option.ite_none_right_eq_some] at turns
            have calm := known.resolve_left (ne_false_of_eq_true turns.1)
            rw [if_pos opening, calm.opened]
            exact ih turns.2 (.inr (.mark c))
          · next notOpening =>
            rw [if_neg notOpening]
            split at turns
            · next closing =>
              rw [Option.ite_none_left_eq_some] at turns
              obtain ⟨n, rfl⟩ := Nat.exists_eq_succ_of_ne_zero turns.1
              rw [if_pos closing]
              exact ih turns.2 (.inr (.mark c))
            · next notClosing =>
              rw [if_neg notClosing]
              exact ih turns (.inr (.mark c))

/-! ## Pieces of text -/

variable {document text a b c : String} {scope : Option Nat} {numbers numbers' : List Nat}
  {n k l m : Nat}

/-- A piece of text that is read with `n` groups open at a place of the scope, and leaves `m` groups
open there. If it introduces names, it reads the column of documents in a scan. -/
def Spans (document : String) (scope : Option Nat) (n m : Nat) (text : String)
    (numbers : List Nat) : Prop :=
  ∀ cursor : Cursor, cursor.Ready scope →
    Passes document ⟨List.replicate n .group ++ cursor.scopes, cursor.before⟩ text numbers
      (numbers ≠ []) (·.scopes = List.replicate m .group ++ cursor.scopes)

/-- A piece of text that is read at a place of the scope and leaves the same parentheses open. -/
abbrev Embeds (document : String) (scope : Option Nat) (text : String) (numbers : List Nat) :
    Prop :=
  Spans document scope 0 0 text numbers

namespace Spans

/-- Text that introduces no names. -/
theorem of_passes (passes : ∀ cursor : Cursor, cursor.Ready scope →
    Passes document cursor text [] False (·.scopes = cursor.scopes)) :
    Embeds document scope text [] :=
  fun cursor ready => (passes cursor ready).imp (absurd rfl) fun _ same => same

/-- Where a piece that introduces no names is put. -/
theorem passes (piece : Embeds document scope text []) {cursor : Cursor}
    (ready : cursor.Ready scope) :
    Passes document cursor text [] False (·.scopes = cursor.scopes) :=
  (piece cursor ready).imp False.elim fun _ same => same

theorem literal (text : String) : Embeds document scope (Sql.literal text) [] :=
  of_passes fun cursor _ => (Passes.literal cursor text).imp id fun _ same => same ▸ rfl

/-- Text of which all is fixed. -/
theorem fixed (text : String) (turns : Turns true n m text) : Spans document scope n m text [] := by
  intro cursor ready
  refine (Passes.fixed turns.fixed).imp (absurd rfl) ?_
  rintro _ rfl
  exact scopes_after_groups ready.isOpen turns.groups (.inr ready.calm)

/-- A piece may stand in groups. -/
theorem within (embeds : Embeds document scope text numbers) (n : Nat) :
    Spans document scope n n text numbers := by
  intro cursor ready
  exact embeds ⟨_, cursor.before⟩ (ready.groups n ready.calm)

/-- A piece is followed by fixed text. -/
theorem followed (front : Spans document scope n k a numbers) (b : String)
    (turns : Turns false k m b ∧ beginsApart b = true) :
    Spans document scope n m (a ++ b) numbers := by
  intro cursor ready
  refine (front cursor ready).followed b _ ⟨turns.1.fixed, turns.2⟩ ?_
  rintro ⟨scopes, before⟩ rfl
  exact scopes_after_groups ready.isOpen turns.1.groups (.inl rfl)

/-- Fixed text between two pieces. -/
theorem between (front : Spans document scope n k a numbers) (b : String)
    (known : Turns false k l b ∧ beginsApart b = true ∧ endsCalm b = true)
    (back : Spans document scope l m c numbers') :
    Spans document scope n m (a ++ b ++ c) (numbers ++ numbers') := by
  obtain ⟨turns, begins, ends⟩ := known
  obtain ⟨-, last, given, calm⟩ := endsCalm_iff.mp ends
  intro cursor ready
  have joined : Passes document ⟨List.replicate n .group ++ cursor.scopes, cursor.before⟩ (a ++ b)
      numbers (numbers ≠ []) (· = ⟨List.replicate l .group ++ cursor.scopes, some last⟩) := by
    refine (front cursor ready).followed b _ ⟨turns.fixed, begins⟩ ?_
    rintro ⟨scopes, before⟩ rfl
    refine Cursor.ext (scopes_after_groups ready.isOpen turns.groups (.inl rfl)) ?_
    rw [Cursor.before_after, given, Option.some_or]
  have rest := back ⟨cursor.scopes, some last⟩ ⟨ready.admits, ready.isOpen, calm⟩
  have both := joined.append (fun _ eq => eq ▸ rest) (.inr (endsApart_append_of_endsCalm a ends))
  refine both.imp ?_ fun _ same => same
  intro some
  by_contra none
  rw [not_or, not_not, not_not] at none
  rw [none.1, none.2] at some
  exact some rfl

/-- A piece is preceded by fixed text. -/
theorem preceded (back : Spans document scope k m b numbers) (a : String)
    (known : Turns true n k a ∧ endsCalm a = true) :
    Spans document scope n m (a ++ b) numbers := by
  obtain ⟨turns, ends⟩ := known
  obtain ⟨apart, last, given, calm⟩ := endsCalm_iff.mp ends
  intro cursor ready
  apply Passes.preceded a _ ⟨turns.fixed, apart⟩
  have scopes := scopes_after_groups ready.isOpen turns.groups (.inr ready.calm)
  have before := Cursor.before_after ⟨List.replicate n .group ++ cursor.scopes, cursor.before⟩
    (lexemes a)
  rw [given, Option.some_or] at before
  have passes := back ⟨cursor.scopes, some last⟩ ⟨ready.admits, ready.isOpen, calm⟩
  rw [← before, ← scopes] at passes
  exact passes

/-- A piece between fixed texts. -/
theorem enclosed (inner : Embeds document scope text numbers) (a b : String) (n : Nat)
    (opening : Turns true 0 n a ∧ endsCalm a = true)
    (closing : Turns false n 0 b ∧ beginsApart b = true) :
    Embeds document scope (a ++ text ++ b) numbers :=
  ((inner.within n).preceded a opening).followed b closing

theorem parenthesised (inner : Embeds document scope text numbers) :
    Embeds document scope ("(" ++ text ++ ")") numbers :=
  inner.enclosed "(" ")" 1 (by decide) (by decide)

/-- Pieces with a separator between each two. -/
theorem joinWith {separator : String} (known : Turns false 0 0 separator ∧
      beginsApart separator = true ∧ endsCalm separator = true) {texts : List String}
    {numbers : List (List Nat)} (each : List.Forall₂ (Embeds document scope) texts numbers) :
    Embeds document scope (Pushdown.joinWith separator texts) numbers.flatten := by
  induction each with
  | nil => exact fixed "" (by decide)
  | @cons text first texts others piece rest ih =>
      cases texts with
      | nil =>
          cases rest
          rw [List.flatten_singleton]
          exact piece
      | cons second texts =>
          rw [Pushdown.joinWith, List.flatten_cons]
          · exact piece.between separator known ih
          · intro none
            cases none

end Spans

/-! ## Names in pieces -/

namespace Passes

variable {cursor : Cursor}

/-- The column of documents is read as the first argument of a function. -/
theorem documentColumn (plain : isIdentifier document = true)
    (argument : cursor.before = some (.mark '(')) (isOpen : isOpen cursor.scopes = true) :
    Passes document cursor document [] (inScan cursor.scopes = true)
      (· = ⟨cursor.scopes, some (.word document)⟩) := by
  have noAlias : cursor.before ≠ some (.word "AS") := by
    rw [argument]
    exact (Calm.mark '(').1
  have unqualified : isQualified document = false :=
    isQualified_of_continues (continues_of_isIdentifier plain).2
  have sound : Occurrence.Sound document ⟨cursor.scopes, cursor.before, .word document⟩ := by
    refine .of_unqualified rfl unqualified ?_
    intro _ name given
    rw [Occurrence.reference?, Option.mem_def, Option.ite_none_left_eq_some] at given
    exact (Option.some.inj given.2).symm
  have account := Account.word sound noAlias
  exact ⟨_, .identifier plain, ⟨account.sound, account.introduced,
    fun inside => ⟨_, List.mem_singleton_self _, inside, argument, rfl⟩⟩,
    Cursor.read_word isOpen document⟩

/-- A column of the rows of a scan is used in its body. -/
theorem rowColumn {scan : Nat} {column : String} (known : column ∈ [".value", ".type", ".fullkey"])
    (inside : .body (scanName scan) ∈ cursor.scopes) (isOpen : isOpen cursor.scopes = true)
    (noAlias : cursor.before ≠ some (.word "AS")) :
    Passes document cursor (scanName scan ++ column) [] False
      (·.scopes = cursor.scopes) := by
  have facts : column.toList.all inWord = true ∧ column.toList.head? = some '.' ∧
      isQualified column = true := by
    revert column
    decide
  have sound : Occurrence.Sound document
      ⟨cursor.scopes, cursor.before, .word (scanName scan ++ column)⟩ := by
    refine ⟨fun used uses => ?_, fun _ name given => ?_, fun _ mark => ?_⟩
    · rw [uses.eq_scan rfl facts.2.1]
      exact inside
    · rw [Occurrence.reference?, Option.mem_def, Option.ite_none_left_eq_some] at given
      simp [isQualified_append facts.2.2] at given
    · cases mark
  refine (Passes.word (.scanName scan column facts.1) sound noAlias).imp id ?_
  rintro _ rfl
  rw [Cursor.read_word isOpen]

end Passes

end Pushdown.Sql
