import Mathlib.Data.List.Forall2
import Pushdown.Sql.Condition

/-!
# Reading the SQL of conditions

SQL reads a condition by precedence: `NOT` binds closer than `AND`, and `AND` closer than `OR`. The
tokens of a condition are its operators and parentheses, and each leaf as one token. `read` is a
shift-reduce reader over tokens, so it gives a text at most one expression, and `Expression.truth`
is the value of an expression in three-valued logic, `none` standing for NULL.

Leaves and the sources of rows are arbitrary names. What a leaf is worth is judged in a row, and a
source gives the inner rows that a scan runs through.
-/

namespace Pushdown.Sql

/-! ## Three-valued logic -/

namespace Truth

/-- The conjunction: false wins over NULL. -/
def and : Option Bool → Option Bool → Option Bool
  | some false, _ => some false
  | _, some false => some false
  | some true, some true => some true
  | _, _ => none

/-- The disjunction: true wins over NULL. -/
def or : Option Bool → Option Bool → Option Bool
  | some true, _ => some true
  | _, some true => some true
  | some false, some false => some false
  | _, _ => none

@[simp] theorem and_eq_true {a b : Option Bool} :
    and a b = some true ↔ a = some true ∧ b = some true := by
  rcases a with _ | _ | _ <;> rcases b with _ | _ | _ <;> simp [and]

@[simp] theorem or_eq_true {a b : Option Bool} :
    or a b = some true ↔ a = some true ∨ b = some true := by
  rcases a with _ | _ | _ <;> rcases b with _ | _ | _ <;> simp [or]

theorem and_ne_none {a b : Option Bool} (ha : a ≠ none) (hb : b ≠ none) : and a b ≠ none := by
  rcases a with _ | _ | _ <;> rcases b with _ | _ | _ <;> simp_all [and]

theorem or_ne_none {a b : Option Bool} (ha : a ≠ none) (hb : b ≠ none) : or a b ≠ none := by
  rcases a with _ | _ | _ <;> rcases b with _ | _ | _ <;> simp_all [or]

end Truth

/-- A condition as SQL understands it. -/
inductive Expression (ι σ : Type) where
  | constant (value : Bool)
  | leaf (name : ι)
  | and (left right : Expression ι σ)
  | or (left right : Expression ι σ)
  | not (operand : Expression ι σ)
  /-- The operand, or false where it is NULL. -/
  | orFalse (operand : Expression ι σ)
  | someRow (source : σ)
  | someRowWhere (source : σ) (filter : Expression ι σ)

namespace Expression

variable {ι σ ρ : Type}

/-- The value of an expression in a row. A scan asks for an inner row whose filter is true. -/
def truth (value : ι → ρ → Option Bool) (rows : σ → ρ → List ρ) :
    Expression ι σ → ρ → Option Bool
  | .constant b, _ => some b
  | .leaf name, row => value name row
  | .and left right, row => Truth.and (truth value rows left row) (truth value rows right row)
  | .or left right, row => Truth.or (truth value rows left row) (truth value rows right row)
  | .not operand, row => (truth value rows operand row).map Bool.not
  | .orFalse operand, row => some ((truth value rows operand row).getD false)
  | .someRow source, row => some (!(rows source row).isEmpty)
  | .someRowWhere source filter, row =>
    some ((rows source row).any fun inner => truth value rows filter inner == some true)

/-- An expression joined to what stands on its left, if there is anything. -/
def joined (join : Expression ι σ → Expression ι σ → Expression ι σ) :
    Option (Expression ι σ) → Expression ι σ → Expression ι σ
  | none, right => right
  | some left, right => join left right

/-- Expressions joined from left to right, the first of them to what stands on its left. -/
def chain (join : Expression ι σ → Expression ι σ → Expression ι σ)
    (left? : Option (Expression ι σ)) (first : Expression ι σ) (rest : List (Expression ι σ)) :
    Expression ι σ :=
  rest.foldl join (joined join left? first)

section

variable {value : ι → ρ → Option Bool} {rows : σ → ρ → List ρ}

theorem truth_chain_and (first : Expression ι σ) (rest : List (Expression ι σ)) (row : ρ) :
    (chain .and none first rest).truth value rows row = some true ↔
      ∀ part ∈ first :: rest, part.truth value rows row = some true := by
  induction rest generalizing first with
  | nil => simp [chain, joined]
  | cons next rest ih =>
      change (chain .and none (.and first next) rest).truth value rows row = some true ↔ _
      rw [ih]
      simp only [List.forall_mem_cons, truth, Truth.and_eq_true, and_assoc]

theorem truth_chain_or (first : Expression ι σ) (rest : List (Expression ι σ)) (row : ρ) :
    (chain .or none first rest).truth value rows row = some true ↔
      ∃ part ∈ first :: rest, part.truth value rows row = some true := by
  induction rest generalizing first with
  | nil => simp [chain, joined]
  | cons next rest ih =>
      change (chain .or none (.or first next) rest).truth value rows row = some true ↔ _
      rw [ih]
      simp only [List.exists_mem_cons_iff, truth, Truth.or_eq_true, or_assoc]

theorem truth_chain_and_ne_none {first : Expression ι σ} {rest : List (Expression ι σ)} {row : ρ}
    (known : ∀ part ∈ first :: rest, part.truth value rows row ≠ none) :
    (chain .and none first rest).truth value rows row ≠ none := by
  induction rest generalizing first with
  | nil => exact known first (by simp)
  | cons next rest ih =>
      rw [List.forall_mem_cons, List.forall_mem_cons] at known
      obtain ⟨knownFirst, knownNext, knownRest⟩ := known
      refine @ih (.and first next) ?_
      exact List.forall_mem_cons.mpr ⟨Truth.and_ne_none knownFirst knownNext, knownRest⟩

theorem truth_chain_or_ne_none {first : Expression ι σ} {rest : List (Expression ι σ)} {row : ρ}
    (known : ∀ part ∈ first :: rest, part.truth value rows row ≠ none) :
    (chain .or none first rest).truth value rows row ≠ none := by
  induction rest generalizing first with
  | nil => exact known first (by simp)
  | cons next rest ih =>
      rw [List.forall_mem_cons, List.forall_mem_cons] at known
      obtain ⟨knownFirst, knownNext, knownRest⟩ := known
      refine @ih (.or first next) ?_
      exact List.forall_mem_cons.mpr ⟨Truth.or_ne_none knownFirst knownNext, knownRest⟩

end

end Expression

/-! ## Tokens -/

inductive Token (ι σ : Type) where
  | constant (value : Bool)
  | leaf (name : ι)
  | and
  | or
  | not
  | opening
  | closing
  | coalesce
  /-- The end of a `COALESCE` with false for NULL. -/
  | orFalse
  | someRow (source : σ)
  | someRowWhere (source : σ)

/-- How leaves and sources of rows are written. -/
structure Spelling (ι σ : Type) where
  leaf : ι → String
  source : σ → String

namespace Token

variable {ι σ : Type} (spelling : Spelling ι σ)

def text : Token ι σ → String
  | .constant true => "1=1"
  | .constant false => "1=0"
  | .leaf name => spelling.leaf name
  | .and => " AND "
  | .or => " OR "
  | .not => "NOT "
  | .opening => "("
  | .closing => ")"
  | .coalesce => "COALESCE("
  | .orFalse => ", 0)"
  | .someRow source => "EXISTS(SELECT 1 FROM " ++ spelling.source source ++ ")"
  | .someRowWhere source => "EXISTS(SELECT 1 FROM " ++ spelling.source source ++ " WHERE "

def textOf : List (Token ι σ) → String
  | [] => ""
  | token :: rest => token.text spelling ++ textOf rest

@[simp] theorem textOf_nil : textOf spelling ([] : List (Token ι σ)) = "" := rfl

@[simp] theorem textOf_cons (token : Token ι σ) (rest : List (Token ι σ)) :
    textOf spelling (token :: rest) = token.text spelling ++ textOf spelling rest := rfl

@[simp] theorem textOf_append (first second : List (Token ι σ)) :
    textOf spelling (first ++ second) = textOf spelling first ++ textOf spelling second := by
  induction first with
  | nil => simp
  | cons token rest ih => simp [ih, String.append_assoc]

/-- Groups of tokens with a separator between each two. -/
def separated (separator : Token ι σ) : List (List (Token ι σ)) → List (Token ι σ)
  | [] => []
  | [last] => last
  | first :: rest => first ++ separator :: separated separator rest

theorem textOf_separated (separator : Token ι σ) (groups : List (List (Token ι σ))) :
    textOf spelling (separated separator groups) =
      joinWith (separator.text spelling) (groups.map (textOf spelling)) := by
  induction groups with
  | nil => rfl
  | cons first rest ih =>
      cases rest with
      | nil => rfl
      | cons next rest =>
          have join : joinWith (separator.text spelling)
              ((first :: next :: rest).map (textOf spelling)) =
              textOf spelling first ++ separator.text spelling ++
                joinWith (separator.text spelling) ((next :: rest).map (textOf spelling)) := rfl
          have split : separated separator (first :: next :: rest) =
              first ++ separator :: separated separator (next :: rest) := rfl
          rw [join, split, textOf_append, textOf_cons, ih, String.append_assoc]

end Token

/-! ## The reader -/

/-- What opened the parentheses that are being read. -/
inductive Opener (σ : Type) where
  | group
  | coalesce
  | rows (source : σ)

/-- What has been read inside one pair of parentheses, apart from the last operand. -/
structure Frame (ι σ : Type) where
  /-- The disjunction that the last `OR` has ended. -/
  disjunction? : Option (Expression ι σ)
  /-- The conjunction that the last `AND` has ended. -/
  conjunction? : Option (Expression ι σ)
  /-- The number of `NOT` that wait for their operand. -/
  negations : Nat

namespace Frame

variable {ι σ : Type}

def fresh : Frame ι σ := ⟨none, none, 0⟩

/-- The expression between the parentheses when an operand is the last one. -/
def whole (frame : Frame ι σ) (operand : Expression ι σ) : Expression ι σ :=
  .joined .or frame.disjunction? (.joined .and frame.conjunction? operand)

def negated : Nat → Expression ι σ → Expression ι σ
  | 0, operand => operand
  | n + 1, operand => negated n (.not operand)

end Frame

/-- The reader: the innermost parentheses, the operand that was read last if one is complete, and
the parentheses around. -/
structure Reader (ι σ : Type) where
  frame : Frame ι σ
  operand? : Option (Expression ι σ)
  outer : List (Opener σ × Frame ι σ)

namespace Reader

variable {ι σ : Type}

/-- A complete operand, which takes the negations that waited for it. -/
def put (frame : Frame ι σ) (outer : List (Opener σ × Frame ι σ)) (operand : Expression ι σ) :
    Reader ι σ :=
  ⟨{ frame with negations := 0 }, some (Frame.negated frame.negations operand), outer⟩

def enter (opener : Opener σ) (frame : Frame ι σ) (outer : List (Opener σ × Frame ι σ)) :
    Reader ι σ :=
  ⟨.fresh, none, (opener, frame) :: outer⟩

/-- Reads a token where an operand must begin. -/
def begin? (frame : Frame ι σ) (outer : List (Opener σ × Frame ι σ)) :
    Token ι σ → Option (Reader ι σ)
  | .constant value => some (put frame outer (.constant value))
  | .leaf name => some (put frame outer (.leaf name))
  | .someRow source => some (put frame outer (.someRow source))
  | .not => some ⟨{ frame with negations := frame.negations + 1 }, none, outer⟩
  | .opening => some (enter .group frame outer)
  | .coalesce => some (enter .coalesce frame outer)
  | .someRowWhere source => some (enter (.rows source) frame outer)
  | _ => none

/-- Reads a token after an operand. -/
def continue? (frame : Frame ι σ) (operand : Expression ι σ) :
    List (Opener σ × Frame ι σ) → Token ι σ → Option (Reader ι σ)
  | outer, .and =>
    some ⟨⟨frame.disjunction?, some (.joined .and frame.conjunction? operand), 0⟩,
      none, outer⟩
  | outer, .or => some ⟨⟨some (frame.whole operand), none, 0⟩, none, outer⟩
  | (.group, around) :: outer, .closing => some (put around outer (frame.whole operand))
  | (.rows source, around) :: outer, .closing =>
    some (put around outer (.someRowWhere source (frame.whole operand)))
  | (.coalesce, around) :: outer, .orFalse =>
    some (put around outer (.orFalse (frame.whole operand)))
  | _, _ => none

def step (reader : Reader ι σ) (token : Token ι σ) : Option (Reader ι σ) :=
  match reader.operand? with
  | none => begin? reader.frame reader.outer token
  | some operand => continue? reader.frame operand reader.outer token

def run (reader : Reader ι σ) (tokens : List (Token ι σ)) : Option (Reader ι σ) :=
  tokens.foldlM step reader

/-- The expression that was read, when all parentheses are closed and no operand is missing. -/
def result? (reader : Reader ι σ) : Option (Expression ι σ) :=
  match reader.operand?, reader.outer with
  | some operand, [] => some (reader.frame.whole operand)
  | _, _ => none

@[simp] theorem run_nil (reader : Reader ι σ) : reader.run [] = some reader := rfl

@[simp] theorem run_cons (reader : Reader ι σ) (token : Token ι σ) (rest : List (Token ι σ)) :
    reader.run (token :: rest) = (reader.step token).bind fun next => next.run rest := rfl

@[simp] theorem run_append (reader : Reader ι σ) (first second : List (Token ι σ)) :
    reader.run (first ++ second) = (reader.run first).bind fun next => next.run second := by
  simp only [run, List.foldlM_append]
  rfl

end Reader

/-- The expression that tokens stand for by the precedence of SQL. -/
def read {ι σ : Type} (tokens : List (Token ι σ)) : Option (Expression ι σ) :=
  (Reader.run ⟨.fresh, none, []⟩ tokens).bind Reader.result?

/-! ## What tokens are read as

An operand is read alike wherever one may stand. A whole expression is read between parentheses or
by itself; the reader has then closed nothing that was opened before it. -/

variable {ι σ : Type}

/-- The tokens are one operand. -/
def Reads (tokens : List (Token ι σ)) (operand : Expression ι σ) : Prop :=
  ∀ frame outer, Reader.run ⟨frame, none, outer⟩ tokens = some (Reader.put frame outer operand)

/-- The tokens are a whole expression. -/
def ReadsWhole (tokens : List (Token ι σ)) (expression : Expression ι σ) : Prop :=
  ∀ outer, ∃ frame operand,
    Reader.run ⟨.fresh, none, outer⟩ tokens = some ⟨frame, some operand, outer⟩ ∧
      frame.whole operand = expression

theorem ReadsWhole.read {tokens : List (Token ι σ)} {expression : Expression ι σ}
    (h : ReadsWhole tokens expression) : Sql.read tokens = some expression := by
  obtain ⟨frame, operand, run, whole⟩ := h []
  simp [Sql.read, run, Reader.result?, whole]

theorem Reads.whole {tokens : List (Token ι σ)} {operand : Expression ι σ}
    (h : Reads tokens operand) : ReadsWhole tokens operand :=
  fun outer => ⟨_, _, h .fresh outer, rfl⟩

theorem reads_constant (value : Bool) :
    Reads [.constant value] (.constant value : Expression ι σ) := fun _ _ => rfl

theorem reads_leaf (name : ι) : Reads [.leaf name] (.leaf name : Expression ι σ) := fun _ _ => rfl

theorem reads_someRow (source : σ) :
    Reads [.someRow source] (.someRow source : Expression ι σ) := fun _ _ => rfl

/-- Tokens between two others are one operand, made of the whole expression that they are. -/
theorem ReadsWhole.between (opener : Opener σ) (build : Expression ι σ → Expression ι σ)
    {first last : Token ι σ}
    (opens : ∀ frame outer, Reader.begin? frame outer first =
      some (Reader.enter opener frame outer))
    (closes : ∀ inner operand around outer,
      Reader.continue? inner operand ((opener, around) :: outer) last =
        some (Reader.put around outer (build (inner.whole operand))))
    {tokens : List (Token ι σ)} {expression : Expression ι σ} (h : ReadsWhole tokens expression) :
    Reads (first :: (tokens ++ [last])) (build expression) := by
  intro frame outer
  obtain ⟨inner, operand, run, whole⟩ := h ((opener, frame) :: outer)
  have opened : Reader.step ⟨frame, none, outer⟩ first =
      some (Reader.enter opener frame outer) := opens frame outer
  have closed : Reader.step ⟨inner, some operand, (opener, frame) :: outer⟩ last =
      some (Reader.put frame outer (build expression)) := by
    rw [← whole]
    exact closes inner operand frame outer
  simp only [Reader.run_cons, opened, Option.bind_some, Reader.run_append, Reader.enter, run,
    closed, Reader.run_nil]

theorem ReadsWhole.parenthesised {tokens : List (Token ι σ)} {expression : Expression ι σ}
    (h : ReadsWhole tokens expression) : Reads (.opening :: (tokens ++ [.closing])) expression :=
  h.between .group id (fun _ _ => rfl) (fun _ _ _ _ => rfl)

theorem ReadsWhole.orFalse {tokens : List (Token ι σ)} {expression : Expression ι σ}
    (h : ReadsWhole tokens expression) :
    Reads (.coalesce :: (tokens ++ [.orFalse])) (.orFalse expression) :=
  h.between .coalesce .orFalse (fun _ _ => rfl) (fun _ _ _ _ => rfl)

theorem ReadsWhole.someRowWhere (source : σ) {tokens : List (Token ι σ)}
    {expression : Expression ι σ} (h : ReadsWhole tokens expression) :
    Reads (.someRowWhere source :: (tokens ++ [.closing])) (.someRowWhere source expression) :=
  h.between (.rows source) (.someRowWhere source) (fun _ _ => rfl) (fun _ _ _ _ => rfl)

theorem Reads.not {tokens : List (Token ι σ)} {operand : Expression ι σ}
    (h : Reads tokens operand) : Reads (.not :: tokens) (.not operand) := by
  intro frame outer
  have waits : Reader.step ⟨frame, none, outer⟩ .not =
      some ⟨{ frame with negations := frame.negations + 1 }, none, outer⟩ := rfl
  rw [Reader.run_cons, waits, Option.bind_some, h]
  rfl

/-- Operands with a separator between each two, read after what stands on their left. The frame
keeps what stands on the left, and the separator joins the operand before it to that. -/
theorem run_separated (join : Expression ι σ → Expression ι σ → Expression ι σ)
    (separator : Token ι σ) (place : Option (Expression ι σ) → Frame ι σ)
    (puts : ∀ left? outer operand,
      Reader.put (place left?) outer operand = ⟨place left?, some operand, outer⟩)
    (joins : ∀ left? operand outer, Reader.continue? (place left?) operand outer separator =
      some ⟨place (some (.joined join left? operand)), none, outer⟩)
    {groups : List (List (Token ι σ))} {operands : List (Expression ι σ)}
    (h : List.Forall₂ Reads groups operands) :
    ∀ {tokens : List (Token ι σ)} {first : Expression ι σ}, Reads tokens first →
      ∀ left? outer, ∃ left'? last,
        Reader.run ⟨place left?, none, outer⟩ (Token.separated separator (tokens :: groups)) =
          some ⟨place left'?, some last, outer⟩ ∧
        Expression.joined join left'? last = Expression.chain join left? first operands := by
  induction h with
  | nil =>
      intro tokens first reads left? outer
      exact ⟨left?, first, by rw [← puts]; exact reads (place left?) outer, rfl⟩
  | cons next rest ih =>
      intro tokens first reads left? outer
      obtain ⟨left'?, last, run, joined⟩ := ih next (some (.joined join left? first)) outer
      refine ⟨left'?, last, ?_, joined⟩
      change Reader.run _ (tokens ++ separator :: _) = _
      have joinsFirst : Reader.step ⟨place left?, some first, outer⟩ separator =
          some ⟨place (some (.joined join left? first)), none, outer⟩ := joins left? first outer
      rw [Reader.run_append, reads, puts, Option.bind_some, Reader.run_cons, joinsFirst]
      exact run

theorem readsWhole_conjunction {groups : List (List (Token ι σ))}
    {operands : List (Expression ι σ)} {tokens : List (Token ι σ)} {first : Expression ι σ}
    (reads : Reads tokens first) (h : List.Forall₂ Reads groups operands) :
    ReadsWhole (Token.separated .and (tokens :: groups)) (.chain .and none first operands) := by
  intro outer
  obtain ⟨left?, last, run, joined⟩ :=
    run_separated .and .and (fun left? => ⟨none, left?, 0⟩) (fun _ _ _ => rfl) (fun _ _ _ => rfl)
      h reads none outer
  exact ⟨_, last, run, joined⟩

theorem readsWhole_disjunction {groups : List (List (Token ι σ))}
    {operands : List (Expression ι σ)} {tokens : List (Token ι σ)} {first : Expression ι σ}
    (reads : Reads tokens first) (h : List.Forall₂ Reads groups operands) :
    ReadsWhole (Token.separated .or (tokens :: groups)) (.chain .or none first operands) := by
  intro outer
  obtain ⟨left?, last, run, joined⟩ :=
    run_separated .or .or (fun left? => ⟨left?, none, 0⟩) (fun _ _ _ => rfl) (fun _ _ _ => rfl)
      h reads none outer
  exact ⟨_, last, run, joined⟩

end Pushdown.Sql
