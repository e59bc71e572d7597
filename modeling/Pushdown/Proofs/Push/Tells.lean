import Mathlib.Data.List.Forall2
import Pushdown.Proofs.Push.Ensures
import Pushdown.Proofs.Store.Truth

/-!
# What pushed conditions say

A condition says a verdict about the values of a domain when three things hold. Its text can be
read; where it is a constant, the verdict is that constant; and, in an exact setting, it is true in
the store exactly where the verdict is true. The domain tells which values stand at the place that
the condition is about, in the current rows of the scans.

The building functions of conditions carry this along, so a pushed selector is judged part by part.
The second point needs nothing of the store, and holds also where SQL only approximates the matcher.
-/

namespace Pushdown

/-- What conditions are judged in: a store with a document, the schema and layout that the selector
is pushed for, and whether every test is expected to agree with the matcher. -/
structure Setting where
  store : Store
  schema : Schema
  layout : Layout
  document : Json
  exact : Prop

namespace Setting

variable (setting : Setting)

def column : String := setting.layout.documentColumn

def isTrue (rows : Rows) (test : Test) : Bool :=
  test.isTrue setting.store setting.document setting.column rows

/-- A value stands at a location in the current rows. -/
def At (place : Location) (rows : Rows) (v? : Option Json) : Prop :=
  place.Denotes setting.document rows v?

/-- A value stands at the beginning of a scope in the current rows. -/
def In (scope : Scope) (rows : Rows) (v : Json) : Prop :=
  scope.Denotes setting.schema setting.document rows v

end Setting

variable {setting : Setting} {X : Type} {domain : Rows → X → Prop}

/-- A condition gives a verdict about the values of a domain. -/
structure Tells (setting : Setting) (domain : Rows → X → Prop) (c : Condition Test)
    (verdict : X → Bool) : Prop where
  readable : c.Normal (Test.Readable setting.column)
  decided : ∀ b, c = .const b → ∀ rows x, domain rows x → verdict x = b
  holds : setting.exact → ∀ rows x, domain rows x → c.holds (setting.isTrue rows) = verdict x

namespace Tells

theorem congr {c : Condition Test} {verdict verdict' : X → Bool}
    (h : Tells setting domain c verdict) (same : ∀ rows x, domain rows x → verdict x = verdict' x) :
    Tells setting domain c verdict' where
  readable := h.readable
  decided b eq rows x hx := same rows x hx ▸ h.decided b eq rows x hx
  holds exact rows x hx := same rows x hx ▸ h.holds exact rows x hx

/-- A verdict about what is found at a value is a verdict about the value. -/
theorem along {Y : Type} {domain' : Rows → Y → Prop} {c : Condition Test} {verdict : X → Bool}
    (h : Tells setting domain c verdict) (f : Y → X)
    (leads : ∀ rows y, domain' rows y → domain rows (f y)) :
    Tells setting domain' c fun y => verdict (f y) where
  readable := h.readable
  decided b eq rows y hy := h.decided b eq rows (f y) (leads rows y hy)
  holds exact rows y hy := h.holds exact rows (f y) (leads rows y hy)

theorem restrict {domain' : Rows → X → Prop} {c : Condition Test} {verdict : X → Bool}
    (h : Tells setting domain c verdict) (sub : ∀ rows x, domain' rows x → domain rows x) :
    Tells setting domain' c verdict :=
  h.along id sub

theorem const {b : Bool} {verdict : X → Bool} (same : ∀ rows x, domain rows x → verdict x = b) :
    Tells setting domain (.const b) verdict where
  readable := .const b
  decided b' eq rows x hx := by
    cases eq
    exact same rows x hx
  holds _ rows x hx := (same rows x hx).symm

theorem leaf {test : Test} {verdict : X → Bool} (readable : test.Readable setting.column)
    (holds : setting.exact → ∀ rows x, domain rows x → setting.isTrue rows test = verdict x) :
    Tells setting domain (.leaf test) verdict where
  readable := .leaf readable
  decided _ eq := by cases eq
  holds := holds

/-- A test other than a scan tells what the store answers. -/
theorem answered {test : Test} {verdict : X → Bool} (plain : test.isScan = false)
    (answers : setting.exact → ∀ rows x, domain rows x →
      (test.answer setting.store setting.document rows == some true) = verdict x) :
    Tells setting domain (.leaf test) verdict := by
  refine .leaf (Test.readable_of_plain plain) ?_
  intro exact rows x hx
  rw [Setting.isTrue, Test.isTrue_eq plain]
  exact answers exact rows x hx

section

variable {cs : List (Condition Test)} {verdicts : List (X → Bool)}

theorem readable_each (h : List.Forall₂ (Tells setting domain) cs verdicts) :
    ∀ c ∈ cs, c.Normal (Test.Readable setting.column) := by
  induction h with
  | nil => simp
  | cons first _ ih => exact List.forall_mem_cons.mpr ⟨first.readable, ih⟩

/-- A constant among conditions is one of the verdicts. -/
theorem decided_some (h : List.Forall₂ (Tells setting domain) cs verdicts) {b : Bool}
    (found : .const b ∈ cs) {rows : Rows} {x : X} (hx : domain rows x) :
    ∃ verdict ∈ verdicts, verdict x = b := by
  induction h with
  | nil => cases found
  | cons first _ ih =>
      rw [List.exists_mem_cons_iff]
      obtain eq | later := List.mem_cons.mp found
      · exact .inl (first.decided b eq.symm rows x hx)
      · exact .inr (ih later)

/-- Where all conditions are one constant, so are the verdicts. -/
theorem decided_each (h : List.Forall₂ (Tells setting domain) cs verdicts) {b : Bool}
    (same : ∀ c ∈ cs, c = .const b) {rows : Rows} {x : X} (hx : domain rows x) :
    ∀ verdict ∈ verdicts, verdict x = b := by
  induction h with
  | nil => simp
  | cons first _ ih =>
      rw [List.forall_mem_cons] at same ⊢
      exact ⟨first.decided b same.1 rows x hx, ih same.2⟩

theorem holds_each (h : List.Forall₂ (Tells setting domain) cs verdicts) (exact : setting.exact)
    {rows : Rows} {x : X} (hx : domain rows x) :
    cs.map (Condition.holds (setting.isTrue rows)) = verdicts.map (· x) := by
  induction h with
  | nil => rfl
  | cons first _ ih => rw [List.map_cons, List.map_cons, first.holds exact rows x hx, ih]

theorem all (h : List.Forall₂ (Tells setting domain) cs verdicts) :
    Tells setting domain (.all cs) fun x => verdicts.all (· x) := by
  refine ⟨.all (readable_each h), ?_, ?_⟩
  · intro b eq rows x hx
    obtain ⟨rfl, someFalse⟩ | ⟨rfl, allTrue⟩ :=
      Condition.Normal.all_eq_const (readable_each h) eq
    · obtain ⟨verdict, inside, isFalse⟩ := decided_some h someFalse hx
      rw [List.all_eq_false]
      exact ⟨verdict, inside, by simp [isFalse]⟩
    · rw [List.all_eq_true]
      exact decided_each h allTrue hx
  · intro exact rows x hx
    have each := holds_each h exact hx
    rw [Condition.holds_all]
    calc cs.all (Condition.holds (setting.isTrue rows))
        = (cs.map (Condition.holds (setting.isTrue rows))).all id := by
          rw [List.all_map, Function.id_comp]
      _ = (verdicts.map (· x)).all id := by rw [each]
      _ = verdicts.all (· x) := by rw [List.all_map, Function.id_comp]

theorem any (h : List.Forall₂ (Tells setting domain) cs verdicts) :
    Tells setting domain (.any cs) fun x => verdicts.any (· x) := by
  refine ⟨.any (readable_each h), ?_, ?_⟩
  · intro b eq rows x hx
    obtain ⟨rfl, someTrue⟩ | ⟨rfl, allFalse⟩ :=
      Condition.Normal.any_eq_const (readable_each h) eq
    · rw [List.any_eq_true]
      exact decided_some h someTrue hx
    · rw [List.any_eq_false]
      intro verdict inside
      rw [decided_each h allFalse hx verdict inside]
      exact Bool.false_ne_true
  · intro exact rows x hx
    have each := holds_each h exact hx
    rw [Condition.holds_any]
    calc cs.any (Condition.holds (setting.isTrue rows))
        = (cs.map (Condition.holds (setting.isTrue rows))).any id := by
          rw [List.any_map, Function.id_comp]
      _ = (verdicts.map (· x)).any id := by rw [each]
      _ = verdicts.any (· x) := by rw [List.any_map, Function.id_comp]

end

/-- A part that may be absent. -/
theorem optional {c : Condition Test} {verdict : X → Bool} (absent : Bool)
    (h : Tells setting domain c verdict) :
    List.Forall₂ (Tells setting domain) (if absent then [] else [c])
      (if absent then [] else [verdict]) := by
  cases absent
  · exact .cons h .nil
  · exact .nil

theorem negate {c : Condition Test} {verdict : X → Bool} (h : Tells setting domain c verdict) :
    Tells setting domain (.negate c) fun x => !verdict x where
  readable := h.readable.negate
  decided b eq rows x hx := by
    rw [h.decided _ (h.readable.negate_eq_const eq) rows x hx, Bool.not_not]
  holds exact rows x hx := by
    rw [Condition.holds_negate, h.holds exact rows x hx]

/-- Behind a guard a condition need only be right where the guard is true. -/
theorem guarded {guard c : Condition Test} {allowed verdict : X → Bool}
    (first : Tells setting domain guard allowed)
    (second : Tells setting (fun rows x => domain rows x ∧ allowed x = true) c verdict) :
    Tells setting domain (.all [guard, c]) fun x => allowed x && verdict x := by
  have readable : ∀ part ∈ [guard, c], part.Normal (Test.Readable setting.column) := by
    simp [first.readable, second.readable]
  refine ⟨.all readable, ?_, ?_⟩
  · intro b eq rows x hx
    obtain ⟨rfl, someFalse⟩ | ⟨rfl, allTrue⟩ := Condition.Normal.all_eq_const readable eq
    · rw [List.mem_pair] at someFalse
      obtain eq | eq := someFalse
      · rw [first.decided _ eq.symm rows x hx, Bool.false_and]
      · cases open? : allowed x with
        | false => rfl
        | true => rw [second.decided _ eq.symm rows x ⟨hx, open?⟩, Bool.and_false]
    · have open? : allowed x = true := first.decided _ (allTrue guard (by simp)) rows x hx
      rw [open?, second.decided _ (allTrue c (by simp)) rows x ⟨hx, open?⟩, Bool.and_true]
  · intro exact rows x hx
    rw [Condition.holds_all, List.all_cons, first.holds exact rows x hx]
    cases open? : allowed x with
    | false => rfl
    | true =>
        rw [List.all_cons, second.holds exact rows x ⟨hx, open?⟩, List.all_nil, Bool.and_true]

end Tells

/-! ## Scans -/

/-- What a scan tells about a value, when its body tells a verdict about every row. -/
def rowVerdict (verdict : Json → Bool) : Option Json → Bool
  | some (.array items) => items.any verdict
  | some .null => verdict .null
  | _ => false

/-- The values whose rows are all of a type: arrays of such items, null and nothing. -/
def Scannable (type : FieldType) (v? : Option Json) : Prop :=
  v? = none ∨ v? = some .null ∨
    ∃ items, v? = some (.array items) ∧ ∀ item ∈ items, type.accepts item = true

theorem FieldType.scannable {items : FieldType} {v? : Option Json}
    (accepts : ∀ v, v? = some v → (FieldType.array items).accepts v = true) :
    Scannable items v? := by
  cases v? with
  | none => exact .inl rfl
  | some v =>
      obtain rfl | ⟨values, rfl, typed⟩ := FieldType.accepts_array (accepts v rfl)
      · exact .inr (.inl rfl)
      · exact .inr (.inr ⟨values, rfl, typed⟩)

/-- The rows of a value with rows of one type are what a scan tells about. -/
theorem Setting.At.any_rows {place : Location} {rows : Rows} {v? : Option Json} {number : Nat}
    {type : FieldType} (denotes : setting.At place rows v?) (typed : Scannable type v?)
    {verdict : Json → Bool} {test : Row → Bool}
    (same : ∀ row, setting.In (.item number type) (rows.move number row) row.value →
      test row = verdict row.value) :
    (rowsOf (place.path rows) v?).any test = rowVerdict verdict v? := by
  have walk : setting.document.atPath? (place.path rows) = v? := denotes.node
  obtain rfl | rfl | ⟨items, rfl, accepts⟩ := typed
  · rfl
  · obtain ⟨single, begins⟩ := rowsOf_null walk number type
    rw [single, List.any_cons, List.any_nil, Bool.or_false, same _ begins]
    rfl
  · obtain ⟨values, begins⟩ := rowsOf_array walk accepts number
    have items : rowVerdict verdict (some (.array items)) =
        ((rowsOf (place.path rows) (some (.array items))).map Row.value).any verdict := by
      rw [values]
      rfl
    rw [items, List.any_map, Bool.eq_iff_iff, List.any_eq_true, List.any_eq_true]
    refine exists_congr fun row => and_congr_right fun hrow => ?_
    rw [same row (begins row hrow)]
    rfl

/-- A scan over a value with rows of one type says what its body says about the rows. -/
theorem Tells.scan {place : Location} {number : Nat} {type : FieldType} {body : Condition Test}
    {verdict : X → Bool} {item : Json → X}
    (begins : ∀ rows v, setting.In (.item number type) rows v → domain rows (item v))
    (h : Tells setting domain body verdict) :
    Tells setting (fun rows v? => setting.At place rows v? ∧ Scannable type v?)
      (.scan place number body) (rowVerdict fun v => verdict (item v)) := by
  unfold Condition.scan
  split
  · next noRow =>
    rw [Condition.isFalse_iff] at noRow
    refine .const ?_
    intro rows v? hx
    have never : (rowsOf (place.path rows) v?).any (fun _ => false) =
        rowVerdict (fun v => verdict (item v)) v? := by
      apply hx.1.any_rows hx.2
      intro row inside
      exact (h.decided false noRow _ _ (begins _ _ inside)).symm
    rw [← never]
    simp
  · refine .leaf (Test.readable_scan place number h.readable) ?_
    intro exact rows v? hx
    have node : place.node? setting.document rows = v? := hx.1.node
    rw [Setting.isTrue, Test.isTrue_scan place number h.readable, node]
    apply hx.1.any_rows hx.2
    intro row inside
    exact h.holds exact _ _ (begins _ _ inside)

end Pushdown
