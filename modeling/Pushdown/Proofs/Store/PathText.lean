import Mathlib.Data.List.TakeWhile
import Pushdown.Proofs.Store.Path

/-!
# The text of paths in the store

The store reads a path from its text: a dollar sign, and then steps. A dot leads to a member of an
object, whose key is bare up to the next step or stands between double quotes; digits in brackets
lead to an item of an array. Text that is not read leads nowhere.

The text that is written for steps is read as these steps, also when it is appended to another path
that leads to a value.
-/

namespace Pushdown

/-! ## Reading paths -/

namespace PathText

/-- A character at which a bare key ends. -/
def beginsStep (c : Char) : Bool := c = '.' || c = '['

/-- The step at the beginning of a text, and the text after it. -/
def step? : List Char → Option (PathStep × List Char)
  | '.' :: '"' :: rest =>
    match rest.dropWhile (· ≠ '"') with
    | [] => none
    | _ :: later => some (.key (String.ofList (rest.takeWhile (· ≠ '"'))), later)
  | '.' :: rest =>
    let key := rest.takeWhile fun c => !beginsStep c
    if key.isEmpty then none
    else some (.key (String.ofList key), rest.dropWhile fun c => !beginsStep c)
  | '[' :: rest =>
    let digits := rest.takeWhile Char.isDigit
    match rest.dropWhile Char.isDigit with
    | ']' :: later =>
      if digits.isEmpty then none else some (.position (String.ofList digits), later)
    | _ => none
  | _ => none

/-- A step takes a character. -/
theorem step?_shorter {text rest : List Char} {step : PathStep}
    (h : step? text = some (step, rest)) : rest.length < text.length := by
  unfold step? at h
  split at h
  · next text =>
    have := List.length_dropWhile_le (fun c => decide (c ≠ '"')) text
    split at h
    · cases h
    · next shown =>
      cases h
      rw [shown] at this
      simp only [List.length_cons] at *
      omega
  · next text _ =>
    have := List.length_dropWhile_le (fun c => !beginsStep c) text
    dsimp only at h
    split at h
    · cases h
    · cases h
      simp only [List.length_cons]
      omega
  · next text =>
    have := List.length_dropWhile_le Char.isDigit text
    dsimp only at h
    split at h
    · next shown =>
      rw [shown] at this
      split at h
      · cases h
      · cases h
        simp only [List.length_cons] at *
        omega
    · cases h
  · cases h

def steps? (text : List Char) : Option (List PathStep) :=
  if text.isEmpty then some []
  else
    match _read : step? text with
    | none => none
    | some (step, rest) => (steps? rest).map (step :: ·)
termination_by text.length
decreasing_by exact step?_shorter _read

@[simp] theorem steps?_nil : steps? [] = some [] := by
  rw [steps?]
  rfl

theorem steps?_of_step? {text rest : List Char} {step : PathStep}
    (h : step? text = some (step, rest)) : steps? text = (steps? rest).map (step :: ·) := by
  cases text with
  | nil => cases h
  | cons c later =>
      rw [steps?, if_neg (by simp)]
      split
      · next none =>
        rw [h] at none
        cases none
      · next some =>
        rw [h] at some
        cases some
        rfl

end PathText

/-- The value at a path that is given as text. -/
def Json.atPath? (path : String) (v : Json) : Option Json :=
  match path.toList with
  | '$' :: text => (PathText.steps? text).bind fun steps => walk? steps v
  | _ => none

/-! ## Appended text -/

namespace PathText

/-- Nothing, or the text of a further step. -/
def Follows (text : List Char) : Prop := ∀ c ∈ text.head?, beginsStep c = true

section

variable {p : Char → Bool} {text later : List Char} {c : Char}

/-- Where a stop is found, it does not matter what stands behind the text. -/
theorem stop_append (h : text.dropWhile p = c :: later) (suffix : List Char) :
    (text ++ suffix).takeWhile p = text.takeWhile p ∧
      (text ++ suffix).dropWhile p = c :: (later ++ suffix) := by
  have whole := congrArg List.length (List.takeWhile_append_dropWhile (p := p) (l := text))
  rw [h, List.length_append, List.length_cons] at whole
  rw [List.takeWhile_append, List.dropWhile_append, if_neg (by omega), h]
  exact ⟨rfl, rfl⟩

/-- A bare key ends where the text of a further step begins. -/
theorem bareKey_append {suffix : List Char} (follows : Follows suffix) (text : List Char) :
    (text ++ suffix).takeWhile (fun c => !beginsStep c) =
        text.takeWhile (fun c => !beginsStep c) ∧
      (text ++ suffix).dropWhile (fun c => !beginsStep c) =
        text.dropWhile (fun c => !beginsStep c) ++ suffix := by
  cases stop : text.dropWhile (fun c => !beginsStep c) with
  | cons c later => exact stop_append stop suffix
  | nil =>
      have all : text.takeWhile (fun c => !beginsStep c) = text := by
        have whole := List.takeWhile_append_dropWhile (p := fun c => !beginsStep c) (l := text)
        rwa [stop, List.append_nil] at whole
      have none : suffix.takeWhile (fun c => !beginsStep c) = [] ∧
          suffix.dropWhile (fun c => !beginsStep c) = suffix := by
        cases suffix with
        | nil => exact ⟨rfl, rfl⟩
        | cons c rest =>
            have begins : beginsStep c = true := follows c rfl
            simp [begins]
      rw [List.takeWhile_append, List.dropWhile_append, all, stop, none.1, none.2]
      simp

end

/-- A step is read in the same way when further steps are appended. -/
theorem step?_append {text rest suffix : List Char} {step : PathStep}
    (h : step? text = some (step, rest)) (follows : Follows suffix) :
    step? (text ++ suffix) = some (step, rest ++ suffix) := by
  unfold step? at h
  split at h
  · next text =>
    split at h
    · cases h
    · next stop =>
      cases h
      obtain ⟨key, after⟩ := stop_append stop suffix
      simp only [List.cons_append, step?, after, key]
  · next text notQuoted =>
    obtain ⟨key, after⟩ := bareKey_append follows text
    dsimp only at h
    split at h
    · cases h
    · next some =>
      cases h
      cases text with
      | nil => exact absurd rfl some
      | cons c text =>
          rw [List.cons_append] at key after
          rw [List.cons_append, List.cons_append, step?]
          · simp only [key, after, some]
            rfl
          · rintro rest ⟨rfl, rfl⟩
            exact notQuoted text rfl
  · next text =>
    dsimp only at h
    split at h
    · next stop =>
      split at h
      · cases h
      · next some =>
        cases h
        obtain ⟨digits, after⟩ := stop_append stop suffix
        simp only [List.cons_append, step?, after, digits, some]
        rfl
    · cases h
  · cases h

/-- The steps of two texts, the second of which begins a step, are read one after the other. -/
theorem steps?_append {text suffix : List Char} {steps further : List PathStep}
    (first : steps? text = some steps) (second : steps? suffix = some further)
    (follows : Follows suffix) : steps? (text ++ suffix) = some (steps ++ further) := by
  fun_induction steps? text generalizing steps with
  | case1 text empty =>
      rw [List.isEmpty_iff.mp empty]
      cases first
      exact second
  | case2 => cases first
  | case3 text _ step rest read ih =>
      obtain ⟨others, shown, rfl⟩ := Option.map_eq_some_iff.mp first
      rw [steps?_of_step? (step?_append read follows), ih shown]
      rfl

end PathText

/-! ## The text of steps -/

namespace PathStep

/-- A step that can be written: its key has a written form, or its position is in digits. -/
def isWritten : PathStep → Bool
  | .key name => isAddressable name
  | .position digits => !digits.toList.isEmpty && digits.toList.all Char.isDigit

theorem isWritten_index {digits : String} (index : FieldPath.isIndex digits = true) :
    (position digits).isWritten = true := by
  simp only [FieldPath.isIndex, Bool.and_eq_true] at index
  exact Bool.and_eq_true_iff.mpr ⟨index.1.1, index.2⟩

/-- The position of any item can be written. -/
theorem isWritten_decimalText (n : Nat) : (position (decimalText n)).isWritten = true := by
  have digits : (decimalText n).toList = Nat.toDigits 10 n := String.toList_ofList
  rw [isWritten, digits, Bool.and_eq_true, List.all_eq_true, Bool.not_eq_true',
    List.isEmpty_eq_false_iff]
  exact ⟨Nat.toDigits_ne_nil, fun c => Nat.isDigit_of_mem_toDigits (by decide) (by decide)⟩

theorem text_key (name : String) :
    (key name).text.toList =
      if Sql.isIdentifier name then '.' :: name.toList
      else '.' :: '"' :: (name.toList ++ ['"']) := by
  rw [text]
  split <;> simp

theorem text_position (digits : String) :
    (position digits).text.toList = '[' :: (digits.toList ++ [']']) := by
  simp [text]

theorem text_begins (step : PathStep) :
    ∃ c rest, step.text.toList = c :: rest ∧ PathText.beginsStep c = true := by
  cases step with
  | key name =>
      rw [text_key]
      split <;> exact ⟨'.', _, rfl, rfl⟩
  | position digits => exact ⟨'[', _, text_position digits, rfl⟩

/-- A plain identifier has no character that begins a step, and does not begin with a quote. -/
theorem identifier_chars {name : String} (plain : Sql.isIdentifier name = true) :
    ∃ first rest, name.toList = first :: rest ∧ first ≠ '"' ∧
      ∀ c ∈ name.toList, (!PathText.beginsStep c) = true := by
  unfold Sql.isIdentifier at plain
  split at plain
  · cases plain
  · next first rest shown =>
    rw [Bool.and_eq_true, List.all_eq_true] at plain
    obtain ⟨begins, continues⟩ := plain
    have free (c : Char) (h : Sql.continuesIdentifier c = true) :
        (!PathText.beginsStep c) = true := by
      by_contra stops
      simp only [Bool.not_eq_true', Bool.not_eq_false, PathText.beginsStep, Bool.or_eq_true,
        decide_eq_true_eq] at stops
      obtain rfl | rfl := stops <;> cases h
    refine ⟨first, rest, shown, ?_, ?_⟩
    · rintro rfl
      cases begins
    · rw [shown, List.forall_mem_cons]
      refine ⟨free first ?_, fun c member => free c (continues c member)⟩
      unfold Sql.beginsIdentifier at begins
      unfold Sql.continuesIdentifier Char.isAlphanum
      grind

/-- The text of a step that can be written is read as the step. -/
theorem step?_text {step : PathStep} (written : step.isWritten = true) :
    PathText.step? step.text.toList = some (step, []) := by
  cases step with
  | key name =>
      rw [text_key]
      split
      · next plain =>
        obtain ⟨first, rest, shown, notQuote, free⟩ := identifier_chars plain
        have key : name.toList.takeWhile (fun c => !PathText.beginsStep c) = name.toList :=
          List.takeWhile_eq_self_iff.mpr free
        have after : name.toList.dropWhile (fun c => !PathText.beginsStep c) = [] :=
          List.dropWhile_eq_nil_iff.mpr free
        rw [PathText.step?]
        · simp only [key, after, String.ofList_toList]
          rw [shown]
          rfl
        · intro rest' quoted
          rw [shown] at quoted
          cases quoted
          exact notQuote rfl
      · have free : ∀ c ∈ name.toList, decide (c ≠ '"') = true := by
          intro c member
          have := List.all_eq_true.mp (Bool.and_eq_true_iff.mp written).2 c member
          simp only [Bool.and_eq_true] at this
          exact this.1.1
        simp only [PathText.step?, List.dropWhile_append_of_pos free,
          List.takeWhile_append_of_pos free]
        simp
  | position digits =>
      simp only [isWritten, Bool.and_eq_true, List.all_eq_true, Bool.not_eq_true'] at written
      obtain ⟨some, all⟩ := written
      rw [text_position]
      simp only [PathText.step?, List.dropWhile_append_of_pos all,
        List.takeWhile_append_of_pos all]
      have stop : ']'.isDigit = false := by decide
      simp [stop, some]

end PathStep

namespace Location

theorem stepsText_cons (step : PathStep) (rest : List PathStep) :
    stepsText (step :: rest) = step.text ++ stepsText rest := by
  cases rest with
  | nil => simp [stepsText, joinWith]
  | cons => simp [stepsText, joinWith]

theorem stepsText_ne_empty (step : PathStep) (rest : List PathStep) :
    stepsText (step :: rest) ≠ "" := by
  obtain ⟨c, others, shown, -⟩ := step.text_begins
  intro empty
  have chars := congrArg String.toList empty
  rw [stepsText_cons, String.toList_append, shown] at chars
  cases chars

theorem stepsText_follows (steps : List PathStep) : PathText.Follows (stepsText steps).toList := by
  intro c head
  cases steps with
  | nil => cases head
  | cons step rest =>
      obtain ⟨first, others, shown, begins⟩ := step.text_begins
      rw [stepsText_cons, String.toList_append, shown] at head
      cases head
      exact begins

/-- The text of steps that can be written is read as the steps. -/
theorem steps?_stepsText {steps : List PathStep} (written : ∀ step ∈ steps, step.isWritten = true) :
    PathText.steps? (stepsText steps).toList = some steps := by
  induction steps with
  | nil => exact PathText.steps?_nil
  | cons step rest ih =>
      rw [List.forall_mem_cons] at written
      have first : PathText.steps? step.text.toList = some [step] := by
        rw [PathText.steps?_of_step? (PathStep.step?_text written.1), PathText.steps?_nil]
        rfl
      rw [stepsText_cons, String.toList_append]
      exact PathText.steps?_append first (ih written.2) (stepsText_follows rest)

end Location

/-! ## Resolved paths -/

theorem PathStep.key?_isWritten {name : String} {step : PathStep}
    (h : PathStep.key? name = some step) : step.isWritten = true := by
  unfold PathStep.key? at h
  split at h
  · next addressable =>
    cases h
    exact addressable
  · cases h

theorem PathStep.below?_isWritten {type below : FieldType} {segment : String} {step : PathStep}
    (h : PathStep.below? type segment = some (step, below)) : step.isWritten = true := by
  have keyed {below' : FieldType} (h : (PathStep.key? segment).map (fun step => (step, below')) =
      some (step, below)) : step.isWritten = true := by
    obtain ⟨_, key, pair⟩ := Option.map_eq_some_iff.mp h
    cases pair
    exact PathStep.key?_isWritten key
  cases type with
  | object fields =>
      simp only [PathStep.below?, Option.bind_eq_bind, Option.bind_eq_some_iff] at h
      obtain ⟨_, key, pair⟩ := h
      cases pair
      exact PathStep.key?_isWritten key
  | array items =>
      rw [PathStep.below?] at h
      split at h
      · next index =>
        cases h
        exact PathStep.isWritten_index index
      · exact keyed h
  | unknown =>
      rw [PathStep.below?] at h
      split at h
      · cases h
      · exact keyed h
  | string | number | boolean | null => exact keyed h

theorem stepsBelow?_isWritten {segments : List String} :
    ∀ {type last : FieldType} {steps : List PathStep},
      stepsBelow? type segments = some (steps, last) → ∀ step ∈ steps, step.isWritten = true := by
  induction segments with
  | nil =>
      intro type last steps h step member
      cases h
      cases member
  | cons segment rest ih =>
      intro type last steps h
      simp only [stepsBelow?, Option.bind_eq_bind, Option.bind_eq_some_iff] at h
      obtain ⟨⟨first, below⟩, hstep, ⟨others, last'⟩, hrest, pair⟩ := h
      cases pair
      exact List.forall_mem_cons.mpr ⟨PathStep.below?_isWritten hstep, ih hrest⟩

namespace Location

variable {schema : Schema} {layout : Layout} {segments : List String} {place : Location}

/-- A path that is resolved in a document is written as a literal that is read as its steps, and
has the type that the schema declares for it. -/
theorem resolve?_document_written
    (h : resolve? schema layout .document segments = some place) :
    place.origin = .document ∧ (∀ step ∈ place.steps, step.isWritten = true) ∧
      place.declared = (schema.typeAt? segments).getD .unknown := by
  cases segments with
  | nil => cases h
  | cons first rest =>
      simp only [resolve?, Option.bind_eq_bind, Option.bind_eq_some_iff] at h
      obtain ⟨step, key, ⟨steps, declared⟩, below, place⟩ := h
      cases place
      refine ⟨rfl, ?_, ?_⟩
      · exact List.forall_mem_cons.mpr
          ⟨PathStep.key?_isWritten key, stepsBelow?_isWritten below⟩
      · refine (stepsBelow?_declared below).trans ?_
        rw [Schema.typeAt?]
        cases schema.fields.find? first with
        | none => exact Schema.typeBelow?_unknown rest
        | some declaration => rfl

/-- The same of a path that is resolved in an item, below the type of the items. -/
theorem resolve?_item_written {scan : Nat} {type : FieldType}
    (h : resolve? schema layout (.item scan type) segments = some place) :
    place.origin = .item scan ∧ stepsBelow? type segments = some (place.steps, place.declared) := by
  simp only [resolve?, Option.bind_eq_bind, Option.bind_eq_some_iff] at h
  obtain ⟨⟨steps, declared⟩, below, place⟩ := h
  cases place
  exact ⟨rfl, below⟩

end Location

/-- The text of steps leads from the document where the steps lead. -/
theorem Json.atPath?_stepsText {steps : List PathStep}
    (written : ∀ step ∈ steps, step.isWritten = true) (v : Json) :
    v.atPath? ("$" ++ Location.stepsText steps) = walk? steps v := by
  have text : ("$" ++ Location.stepsText steps).toList =
      '$' :: (Location.stepsText steps).toList := by
    simp
  rw [Json.atPath?, text]
  simp only [Location.steps?_stepsText written, Option.bind_some]

/-- Appended to a path that leads to a value, the text of steps leads where the steps lead from
there. -/
theorem Json.atPath?_append {own : String} {steps : List PathStep}
    (written : ∀ step ∈ steps, step.isWritten = true) {v item : Json}
    (leads : v.atPath? own = some item) :
    v.atPath? (own ++ Location.stepsText steps) = walk? steps item := by
  unfold Json.atPath? at leads ⊢
  rw [String.toList_append]
  split at leads
  · next text shown =>
    obtain ⟨before, read, walk⟩ := Option.bind_eq_some_iff.mp leads
    rw [shown, List.cons_append]
    simp only [PathText.steps?_append read (Location.steps?_stepsText written)
      (Location.stepsText_follows steps), Option.bind_some, walk?_append, walk]
  · cases leads

/-- What a path leads to is no larger than the whole. -/
theorem Json.atPath?_fitsMemory {path : String} {v w : Json} (fits : v.fitsMemory = true)
    (leads : v.atPath? path = some w) : w.fitsMemory = true := by
  unfold Json.atPath? at leads
  split at leads
  · obtain ⟨steps, -, walk⟩ := Option.bind_eq_some_iff.mp leads
    exact walk?_fitsMemory fits walk
  · cases leads

end Pushdown
