import Pushdown.Proofs.Store.PathText

/-!
# Rows of scans and the values that locations denote

A scan runs through the rows that the store makes of a value: one for each item of an array or
member of an object, one for a value of any other kind, and none for a missing value. A row gives
the value and the text of its own path, and each scan has a current row.

A location reads its value from the column of its field, from the row of its scan, or from the
document at a path, which the store reads from its text. `Location.Denotes` says that all of these
agree on one value, which has the declared type. It holds for every field path that is resolved and
for every item of a scan over an array.
-/

namespace Pushdown

/-- A row of a scan: a value and the text of the path to it from the document. -/
structure Row where
  value : Json
  path : String

abbrev Rows := Nat → Row

namespace Rows

def initial : Rows := fun _ => ⟨.null, ""⟩

def move (rows : Rows) (scan : Nat) (row : Row) : Rows :=
  fun number => if number = scan then row else rows number

@[simp] theorem move_same (rows : Rows) (scan : Nat) (row : Row) : rows.move scan row scan = row :=
  if_pos rfl

end Rows

/-- The rows of a value that stands at a path. -/
def rowsOf (path : String) : Option Json → List Row
  | none => []
  | some (.array items) =>
    items.mapIdx fun position item => ⟨item, path ++ "[" ++ decimalText position ++ "]"⟩
  | some (.object members) =>
    members.map fun (key, value) => ⟨value, path ++ (PathStep.key key).text⟩
  | some value => [⟨value, path⟩]

namespace Location

variable (document : Json) (rows : Rows) (place : Location)

/-- The text of the path of a location from the document. -/
def path : String :=
  match place.origin with
  | .document => "$" ++ stepsText place.steps
  | .item scan => (rows scan).path ++ stepsText place.steps

/-- The value in the document at the path. -/
def node? : Option Json := document.atPath? (place.path rows)

/-- The value whose type name the store gives, which for an item is the value of its row. -/
def typed? : Option Json :=
  match place.origin, place.steps with
  | .item scan, [] => some (rows scan).value
  | _, _ => place.node? document rows

/-- The value that the store reads, from the column of the field if it has one. -/
def value? : Option Json :=
  match place.ownColumn with
  | some field => document.child? field
  | none => place.typed? document rows

/-- All ways to read a location lead to one value, which has the declared type and is there if it
is required. -/
structure Denotes (v? : Option Json) : Prop where
  value : place.value? document rows = v?
  typed : place.typed? document rows = v?
  node : place.node? document rows = v?
  accepts : ∀ v, v? = some v → place.declared.accepts v = true
  required : place.required = true → v?.isSome = true

end Location

/-- A scope begins at a value: the document, or the item in the current row of a scan. -/
def Scope.Denotes (schema : Schema) (document : Json) (rows : Rows) : Scope → Json → Prop
  | .document, v => v = document ∧ schema.conforms document = true
  | .item scan type, v =>
    (rows scan).value = v ∧ document.atPath? (rows scan).path = some v ∧ type.accepts v = true

variable {schema : Schema} {layout : Layout} {document : Json} {rows : Rows}

/-- A document that conforms is an object with conforming members. -/
theorem Schema.conforms_object (h : schema.conforms document = true) :
    ∃ members, document = .object members ∧
      FieldType.acceptsMembers schema.fields members = true := by
  cases document <;> simp_all [Schema.conforms]

/-- A member of a conforming document has the type that is declared at the top for its key. -/
theorem Schema.top_accepts {members : List (String × Json)}
    (conform : FieldType.acceptsMembers schema.fields members = true) {name : String} {v : Json}
    (found : Json.member? name members = some v) :
    (((schema.fields.find? name).map Declaration.type).getD .unknown).accepts v = true := by
  cases declared : schema.fields.find? name with
  | none => simp
  | some declaration => exact (FieldType.acceptsMembers_find conform declared).1 v found

theorem Schema.required_present {members : List (String × Json)}
    (conform : FieldType.acceptsMembers schema.fields members = true) {name : String}
    (required : schema.isRequired [name] = true) : (Json.member? name members).isSome = true := by
  cases declared : schema.fields.find? name with
  | none => simp [Schema.isRequired, declared] at required
  | some declaration =>
      apply (FieldType.acceptsMembers_find conform declared).2
      simpa [Schema.isRequired, declared] using required

/-- A field path that is resolved in a document denotes the value at its segments. -/
theorem Location.resolve?_document_denotes {segments : List String} {place : Location}
    (h : Location.resolve? schema layout .document segments = some place)
    (conforms : schema.conforms document = true) :
    place.Denotes document rows (document.lookup? segments) := by
  cases segments with
  | nil => cases h
  | cons first rest =>
      obtain ⟨members, rfl, conform⟩ := Schema.conforms_object conforms
      obtain ⟨-, written, -⟩ := Location.resolve?_document_written h
      simp only [Location.resolve?, Option.bind_eq_bind, Option.bind_eq_some_iff] at h
      obtain ⟨step, key, ⟨steps, declared⟩, below, place⟩ := h
      cases PathStep.key?_eq key
      cases place
      have child : (Json.object members).child? first = Json.member? first members := rfl
      have leads : walk? (.key first :: steps) (.object members) =
            (Json.object members).lookup? (first :: rest) ∧
          ∀ w, (Json.object members).lookup? (first :: rest) = some w →
            declared.accepts w = true := by
        rw [walk?, Json.lookup?, child, PathStep.from?]
        cases top : Json.member? first members with
        | none => simp
        | some w => exact stepsBelow?_sound below (Schema.top_accepts conform top)
      have node : (Json.object members).atPath? ("$" ++ Location.stepsText (.key first :: steps)) =
          (Json.object members).lookup? (first :: rest) :=
        (Json.atPath?_stepsText written _).trans leads.1
      refine ⟨?_, node, node, leads.2, ?_⟩
      · simp only [Location.value?]
        split
        · next field own =>
          obtain ⟨conditions, same⟩ := Option.ite_none_right_eq_some.mp own
          cases same
          simp only [Bool.and_eq_true, List.isEmpty_iff] at conditions
          rw [conditions.1.2, Json.lookup?]
          cases (Json.object members).child? first <;> rfl
        · exact node
      · intro required
        simp only [Bool.and_eq_true, List.isEmpty_iff] at required
        obtain ⟨rfl, required⟩ := required
        have present := Schema.required_present conform required
        rw [Json.lookup?, child]
        cases top : Json.member? first members with
        | none => simp [top] at present
        | some w => rfl

/-- A field path that is resolved in an item denotes the value at its segments. -/
theorem Location.resolve?_item_denotes {scan : Nat} {type : FieldType} {segments : List String}
    {place : Location}
    (h : Location.resolve? schema layout (.item scan type) segments = some place) {v : Json}
    (begins : (Scope.item scan type).Denotes schema document rows v) :
    place.Denotes document rows (v.lookup? segments) := by
  obtain ⟨rfl, walk, accepts⟩ := begins
  simp only [Location.resolve?, Option.bind_eq_bind, Option.bind_eq_some_iff] at h
  obtain ⟨⟨steps, declared⟩, below, place⟩ := h
  cases place
  obtain ⟨leads, typed⟩ := stepsBelow?_sound below accepts
  have node : document.atPath? ((rows scan).path ++ Location.stepsText steps) =
      (rows scan).value.lookup? segments :=
    (Json.atPath?_append (stepsBelow?_isWritten below) walk).trans leads
  have reads : Location.typed? document rows ⟨.item scan, steps, none, declared, false, none⟩ =
      (rows scan).value.lookup? segments := by
    cases steps with
    | nil =>
        rw [← leads]
        rfl
    | cons step rest => exact node
  refine ⟨reads, reads, node, typed, ?_⟩
  intro required
  cases required

/-- A field path that is resolved denotes the value that the matcher finds at its segments. -/
theorem Location.resolve?_denotes {scope : Scope} {segments : List String} {place : Location}
    (h : Location.resolve? schema layout scope segments = some place) {v : Json}
    (begins : scope.Denotes schema document rows v) :
    place.Denotes document rows (v.lookup? segments) := by
  cases scope with
  | document =>
      obtain ⟨rfl, conforms⟩ := begins
      exact Location.resolve?_document_denotes h conforms
  | item scan type => exact Location.resolve?_item_denotes h begins

/-- The item in the current row of a scan is denoted by the location of items. -/
theorem Location.item_denotes {scan : Nat} {type : FieldType} {v : Json}
    (begins : (Scope.item scan type).Denotes schema document rows v) :
    (Location.item scan type).Denotes document rows (some v) := by
  obtain ⟨rfl, walk, accepts⟩ := begins
  refine ⟨rfl, rfl, ?_, ?_, ?_⟩
  · change document.atPath? ((rows scan).path ++ "") = _
    rw [String.append_empty, walk]
  · intro v same
    cases same
    exact accepts
  · intro required
    cases required

/-- Every row of a scan over an array is an item, at which the scope of the scan begins. -/
theorem rowsOf_array {path : String} {items : List Json} {type : FieldType}
    (walk : document.atPath? path = some (.array items))
    (accepts : ∀ item ∈ items, type.accepts item = true) (scan : Nat) :
    (rowsOf path (some (.array items))).map Row.value = items ∧
      ∀ row ∈ rowsOf path (some (.array items)),
        (Scope.item scan type).Denotes schema document (rows.move scan row) row.value := by
  refine ⟨List.ext_getElem (by simp [rowsOf]) (by simp [rowsOf]), ?_⟩
  intro row member
  obtain ⟨position, inside, rfl⟩ := List.mem_mapIdx.mp member
  have written : ∀ step ∈ [PathStep.position (decimalText position)], step.isWritten = true :=
    List.forall_mem_singleton.mpr (PathStep.isWritten_decimalText position)
  have text : path ++ "[" ++ decimalText position ++ "]" =
      path ++ Location.stepsText [.position (decimalText position)] := by
    simp [Location.stepsText, joinWith, PathStep.text, String.append_assoc]
  simp only [Scope.Denotes, Rows.move_same, true_and]
  refine ⟨?_, accepts _ (List.getElem_mem inside)⟩
  rw [text, Json.atPath?_append written walk, walk?, PathStep.from?, indexOf_decimalText,
    List.getElem?_eq_getElem inside]
  rfl

/-- A scan over null has null as its only row. -/
theorem rowsOf_null {path : String} (walk : document.atPath? path = some .null) (scan : Nat)
    (type : FieldType) :
    rowsOf path (some .null) = [⟨.null, path⟩] ∧
      (Scope.item scan type).Denotes schema document (rows.move scan ⟨.null, path⟩) .null := by
  refine ⟨rfl, ?_⟩
  simp [Scope.Denotes, walk]

/-! ## Addresses -/

/-- A field path that is resolved is read in the store where the matcher looks it up. At a
document its path is a literal, and the path text leads in every conforming document to the value at
the segments; at an item of a scan a suffix is appended to the path of the item, and the result
leads to the value at the segments below the item, whatever that is and wherever it stands. The
declared type is the one that the schema gives for the segments, unknown where it gives none, and
the value conforms to it. -/
theorem Location.path_addresses_lookup (schema : Schema) (layout : Layout) (document : Json)
    (segments : List String) (place : Location) :
    (resolve? schema layout .document segments = some place → schema.conforms document = true →
      place.declared = (schema.typeAt? segments).getD .unknown ∧
      (∃ path, place.pathExpression = Sql.literal path ∧
        document.atPath? path = document.lookup? segments) ∧
      ∀ v, document.lookup? segments = some v → place.declared.accepts v = true) ∧
    ∀ scan type, resolve? schema layout (.item scan type) segments = some place →
      place.declared = (Schema.typeBelow? segments type).getD .unknown ∧
      ∃ suffix,
        place.pathExpression = (if suffix = "" then scanName scan ++ ".fullkey"
          else scanName scan ++ ".fullkey || " ++ Sql.literal suffix) ∧
        ∀ own item, document.atPath? own = some item → type.accepts item = true →
          document.atPath? (own ++ suffix) = item.lookup? segments ∧
          ∀ v, item.lookup? segments = some v → place.declared.accepts v = true := by
  constructor
  · intro resolved conforms
    obtain ⟨origin, -, declared⟩ := resolve?_document_written resolved
    have denotes : place.Denotes document Rows.initial (document.lookup? segments) :=
      resolve?_document_denotes resolved conforms
    have path : place.path Rows.initial = "$" ++ stepsText place.steps := by
      rw [Location.path, origin]
    refine ⟨declared, ⟨"$" ++ stepsText place.steps, ?_, ?_⟩, denotes.accepts⟩
    · rw [pathExpression, origin]
    · rw [← denotes.node, node?, path]
  · intro scan type resolved
    obtain ⟨origin, below⟩ := resolve?_item_written resolved
    refine ⟨stepsBelow?_declared below, stepsText place.steps, ?_, ?_⟩
    · rw [pathExpression, origin]
      cases place.steps with
      | nil => rfl
      | cons step rest => exact (if_neg (stepsText_ne_empty step rest)).symm
    · intro own item leads accepts
      obtain ⟨same, typed⟩ := stepsBelow?_sound below accepts
      rw [Json.atPath?_append (stepsBelow?_isWritten below) leads]
      exact ⟨same, typed⟩

/-- A position in an array with a key below it that must be quoted, and the same key in an item. -/
theorem Location.path_addresses_lookup_nested :
    let row : FieldType := .object [("0", ⟨.number, true⟩)]
    let schema : Schema := {
      version := 1, fields := [("rows", ⟨.array row, true⟩)], indexes := [] }
    let document : Json :=
      .object [("rows", .array [.object [("0", .ofNat 3)], .object [("0", .ofNat 5)]])]
    schema.conforms document = true ∧
      (∃ place path, resolve? schema .standard .document ["rows", "01", "0"] = some place ∧
        place.pathExpression = Sql.literal path ∧ document.atPath? path = some (.ofNat 5)) ∧
      ∃ place suffix, resolve? schema .standard (.item 1 row) ["0"] = some place ∧
        document.atPath? ("$.rows[01]" ++ suffix) = some (.ofNat 5) := by
  intro row schema document
  have conforms : schema.conforms document = true := by decide
  obtain ⟨-, ⟨path, written, found⟩, -⟩ :=
    (path_addresses_lookup schema .standard document ["rows", "01", "0"] _).1 rfl conforms
  obtain ⟨-, suffix, -, appended⟩ :=
    (path_addresses_lookup schema .standard document ["0"] _).2 1 row rfl
  have steps : ∀ step ∈ [PathStep.key "rows", .position "01"], step.isWritten = true := by decide
  have item : document.atPath? "$.rows[01]" = some (.object [("0", .ofNat 5)]) :=
    Json.atPath?_stepsText steps document
  exact ⟨conforms, ⟨_, path, rfl, written, found⟩, _, suffix, rfl,
    (appended _ _ item (by decide)).1⟩

end Pushdown
