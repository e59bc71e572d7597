import Pushdown.Sql.Location

/-!
# Paths in the store

The store reaches a value by the steps of a JSON path: a key leads into an object and a position
into an array. The steps that a field path is resolved to lead to the value that the matcher finds
at its segments, for every value of the declared type, and the value found there has the type that
is declared at the end.
-/

namespace Pushdown

/-! ## Values of declared types -/

namespace FieldType

@[simp] theorem accepts_null (type : FieldType) : type.accepts .null = true := by
  cases type <;> simp [accepts]

@[simp] theorem accepts_unknown (v : Json) : unknown.accepts v = true := by
  cases v <;> simp [accepts]

/-- A value of an object type is an object with conforming members, or null. -/
theorem accepts_object {fields : Fields} {v : Json} (h : (object fields).accepts v = true) :
    v = .null ∨ ∃ members, v = .object members ∧ acceptsMembers fields members = true := by
  cases v <;> simp_all [accepts]

/-- A value of an array type is an array with items of their type, or null. -/
theorem accepts_array {items : FieldType} {v : Json} (h : (array items).accepts v = true) :
    v = .null ∨ ∃ values, v = .array values ∧ ∀ value ∈ values, items.accepts value = true := by
  cases v <;> simp_all [accepts]

/-- The member of a declared field has the declared type, and is there if it is required. -/
theorem acceptsMembers_find {fields : Fields} {members : List (String × Json)}
    (h : acceptsMembers fields members = true) {name : String} {declaration : FieldDef}
    (found : Fields.find? name fields = some declaration) :
    (∀ v, Json.member? name members = some v → declaration.type.accepts v = true) ∧
      (declaration.required = true → (Json.member? name members).isSome = true) := by
  induction fields with
  | nil => simp [Fields.find?] at found
  | cons field rest ih =>
      obtain ⟨key, type, required⟩ := field
      rw [acceptsMembers, Bool.and_eq_true] at h
      obtain ⟨here, there⟩ := h
      rw [Fields.find?] at found
      split at found
      · next same =>
        subst same
        cases found
        cases value : Json.member? key members <;> simp_all
      · exact ih there found

end FieldType

/-! ## Steps -/

namespace PathStep

def from? : PathStep → Json → Option Json
  | .key name, .object members => Json.member? name members
  | .position digits, .array items => items[FieldPath.indexOf digits]?
  | _, _ => none

end PathStep

def walk? : List PathStep → Json → Option Json
  | [], v => some v
  | step :: rest, v => (step.from? v).bind (walk? rest)

theorem walk?_append (first second : List PathStep) (v : Json) :
    walk? (first ++ second) v = (walk? first v).bind (walk? second) := by
  induction first generalizing v with
  | nil => rfl
  | cons step rest ih =>
      simp only [List.cons_append, walk?, Option.bind_assoc]
      exact congrArg _ (funext ih)

theorem indexOf_decimalText (n : Nat) : FieldPath.indexOf (decimalText n) = n := by
  simp only [FieldPath.indexOf, decimalText, decimalDigits, String.toList_ofList]
  exact Nat.ofDigitChars_ten_toDigits

theorem PathStep.key?_eq {name : String} {step : PathStep} (h : PathStep.key? name = some step) :
    step = .key name := by
  unfold PathStep.key? at h
  split at h
  · exact (Option.some.inj h).symm
  · cases h

/-- A step below a declared type leads where the segment leads, to a value of the type below. -/
theorem PathStep.below?_sound {type below : FieldType} {segment : String} {step : PathStep}
    (h : PathStep.below? type segment = some (step, below)) {v : Json}
    (accepts : type.accepts v = true) :
    step.from? v = v.child? segment ∧
      ∀ w, v.child? segment = some w → below.accepts w = true := by
  have unknownBelow (h : (PathStep.key? segment).map (fun step => (step, FieldType.unknown)) =
      some (step, below)) : step = .key segment ∧ below = .unknown := by
    obtain ⟨_, key, pair⟩ := Option.map_eq_some_iff.mp h
    cases pair
    exact ⟨PathStep.key?_eq key, rfl⟩
  cases type with
  | object fields =>
      simp only [PathStep.below?, Option.bind_eq_bind, Option.bind_eq_some_iff] at h
      obtain ⟨_, key, pair⟩ := h
      cases pair
      cases PathStep.key?_eq key
      obtain rfl | ⟨members, rfl, conform⟩ := FieldType.accepts_object accepts
      · simp [PathStep.from?, Json.child?]
      · refine ⟨rfl, ?_⟩
        intro w found
        cases declared : Fields.find? segment fields with
        | none => simp
        | some declaration =>
            exact (FieldType.acceptsMembers_find conform declared).1 w found
  | array items =>
      simp only [PathStep.below?] at h
      obtain rfl | ⟨values, rfl, typed⟩ := FieldType.accepts_array accepts
      · cases step <;> simp [PathStep.from?, Json.child?]
      · split at h
        · next index =>
          cases h
          refine ⟨by simp [PathStep.from?, Json.child?, index], ?_⟩
          intro w found
          rw [Json.child?, if_pos index] at found
          exact typed w (List.mem_of_getElem? found)
        · next noIndex =>
          obtain ⟨rfl, rfl⟩ := unknownBelow h
          simp [PathStep.from?, Json.child?, noIndex]
  | unknown =>
      simp only [PathStep.below?] at h
      split at h
      · cases h
      · next noIndex =>
        obtain ⟨rfl, rfl⟩ := unknownBelow h
        cases v <;> simp [PathStep.from?, Json.child?, noIndex]
  | string | number | boolean | null =>
      obtain ⟨rfl, rfl⟩ := unknownBelow h
      cases v <;> simp_all [PathStep.from?, Json.child?, FieldType.accepts]

/-- The steps below a declared type lead where the segments lead. -/
theorem stepsBelow?_sound {segments : List String} :
    ∀ {type last : FieldType} {steps : List PathStep},
      stepsBelow? type segments = some (steps, last) → ∀ {v : Json}, type.accepts v = true →
        walk? steps v = v.lookup? segments ∧
          ∀ w, v.lookup? segments = some w → last.accepts w = true := by
  induction segments with
  | nil =>
      intro type last steps h v accepts
      cases h
      refine ⟨rfl, ?_⟩
      intro w found
      cases found
      exact accepts
  | cons segment rest ih =>
      intro type last steps h v accepts
      simp only [stepsBelow?, Option.bind_eq_bind, Option.bind_eq_some_iff] at h
      obtain ⟨⟨step, below⟩, hstep, ⟨steps', last'⟩, hrest, pair⟩ := h
      cases pair
      obtain ⟨leads, typed⟩ := PathStep.below?_sound hstep accepts
      rw [walk?, Json.lookup?, leads]
      cases child : v.child? segment with
      | none => simp
      | some w => exact ih hrest (typed w child)

/-! ## Declared types -/

theorem Schema.typeBelow?_unknown (segments : List String) :
    (Schema.typeBelow? segments .unknown).getD .unknown = .unknown := by
  cases segments <;> rfl

/-- A step leads to the type that the schema declares one segment below, if it declares one. -/
theorem PathStep.below?_declared {type below : FieldType} {segment : String} {step : PathStep}
    (h : PathStep.below? type segment = some (step, below)) (rest : List String) :
    (Schema.typeBelow? (segment :: rest) type).getD .unknown =
      (Schema.typeBelow? rest below).getD .unknown := by
  have unknownBelow (h : (PathStep.key? segment).map (fun step => (step, FieldType.unknown)) =
      some (step, below)) : (Schema.typeBelow? rest below).getD .unknown = .unknown := by
    obtain ⟨_, -, pair⟩ := Option.map_eq_some_iff.mp h
    cases pair
    exact Schema.typeBelow?_unknown rest
  cases type with
  | object fields =>
      simp only [PathStep.below?, Option.bind_eq_bind, Option.bind_eq_some_iff] at h
      obtain ⟨_, -, pair⟩ := h
      cases pair
      rw [Schema.typeBelow?]
      cases Fields.find? segment fields with
      | none => exact (Schema.typeBelow?_unknown rest).symm
      | some declaration => rfl
  | array items =>
      rw [PathStep.below?] at h
      rw [Schema.typeBelow?]
      split at h
      · next index =>
        cases h
        rw [if_pos index]
      · next noIndex =>
        rw [if_neg noIndex, unknownBelow h]
        rfl
  | unknown =>
      rw [PathStep.below?] at h
      split at h
      · cases h
      · exact (unknownBelow h).symm
  | string | number | boolean | null => exact (unknownBelow h).symm

/-- The type at the end of the steps is the one that the schema declares for the segments, if it
declares one. -/
theorem stepsBelow?_declared {segments : List String} :
    ∀ {type last : FieldType} {steps : List PathStep},
      stepsBelow? type segments = some (steps, last) →
        last = (Schema.typeBelow? segments type).getD .unknown := by
  induction segments with
  | nil =>
      intro type last steps h
      cases h
      rfl
  | cons segment rest ih =>
      intro type last steps h
      simp only [stepsBelow?, Option.bind_eq_bind, Option.bind_eq_some_iff] at h
      obtain ⟨⟨step, below⟩, hstep, ⟨steps', last'⟩, hrest, pair⟩ := h
      cases pair
      rw [PathStep.below?_declared hstep]
      exact ih hrest

/-! ## Sizes -/

mutual

/-- No array inside a value has more than `2 ^ 53` items. An item takes at least 16 bytes, so a
longer array would take more than the `2 ^ 57` bytes that an address of 57 bits can tell apart. -/
def Json.fitsMemory : Json → Bool
  | .array items => items.length ≤ 2 * fullSignificand && Json.fitMemory items
  | .object members => Json.membersFitMemory members
  | _ => true

def Json.fitMemory : List Json → Bool
  | [] => true
  | item :: rest => Json.fitsMemory item && Json.fitMemory rest

def Json.membersFitMemory : List (String × Json) → Bool
  | [] => true
  | (_, value) :: rest => Json.fitsMemory value && Json.membersFitMemory rest

end

theorem Json.fitMemory_mem {items : List Json} (h : Json.fitMemory items = true) {item : Json}
    (member : item ∈ items) : item.fitsMemory = true := by
  induction items with
  | nil => cases member
  | cons first rest ih =>
      rw [Json.fitMemory, Bool.and_eq_true] at h
      obtain rfl | later := List.mem_cons.mp member
      · exact h.1
      · exact ih h.2 later

theorem Json.membersFitMemory_member {members : List (String × Json)}
    (h : Json.membersFitMemory members = true) {key : String} {v : Json}
    (found : Json.member? key members = some v) : v.fitsMemory = true := by
  induction members with
  | nil => cases found
  | cons member rest ih =>
      rw [Json.membersFitMemory, Bool.and_eq_true] at h
      rw [Json.member?] at found
      split at found
      · cases found
        exact h.1
      · exact ih h.2 found

theorem walk?_fitsMemory {steps : List PathStep} :
    ∀ {v w : Json}, v.fitsMemory = true → walk? steps v = some w → w.fitsMemory = true := by
  induction steps with
  | nil =>
      intro v w h walk
      cases walk
      exact h
  | cons step rest ih =>
      intro v w h walk
      obtain ⟨below, hbelow, walk⟩ := Option.bind_eq_some_iff.mp walk
      refine ih ?_ walk
      cases step with
      | key name =>
          cases v with
          | object members => exact Json.membersFitMemory_member h hbelow
          | null | bool | number | string | array => cases hbelow
      | position digits =>
          cases v with
          | array items =>
              rw [Json.fitsMemory, Bool.and_eq_true] at h
              exact Json.fitMemory_mem h.2 (List.mem_of_getElem? hbelow)
          | null | bool | number | string | object => cases hbelow

end Pushdown
