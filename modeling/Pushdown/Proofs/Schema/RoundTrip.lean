import Pushdown.Proofs.Json.Reading
import Pushdown.Proofs.Schema.WellFormed
import Pushdown.Schema.Registry

/-!
# Schemas are read back

A field declaration is written as one object that holds the members of its type beside the
requiredness, and the fields of an object type stand in an object of their own. So a field may have
any name, also one that the format uses itself.

The text that a schema is saved as is read as the schema, provided that it is not too deep to be
read at all. Whether the structure of the schema is valid is decided anew when the text is loaded,
with the same result.
-/

namespace Pushdown

namespace Syntax

variable {key : String} {members : List (String × Syntax)}

/-! ## Written members -/

theorem keyed?_ofMembers (members : List (String × Json)) :
    keyed? (ofMembers members) = some (members.map fun member => (member.1, ofJson member.2)) := by
  induction members with
  | nil => rfl
  | cons member rest ih =>
      rw [ofMembers, keyed?, ih]
      rfl

theorem ofItems_eq_map (items : List Json) : ofItems items = items.map ofJson := by
  induction items with
  | nil => rfl
  | cons item rest ih => rw [ofItems, ih, List.map_cons]

theorem valuesOf_cons (key : String) (member : String × Syntax) :
    valuesOf key (member :: members) =
      if member.1 = key then member.2 :: valuesOf key members else valuesOf key members := by
  rw [valuesOf, List.filter_cons]
  simp only [beq_iff_eq]
  split <;> rfl

theorem valuesOf_eq_nil (absent : key ∉ members.map Prod.fst) : valuesOf key members = [] := by
  induction members with
  | nil => rfl
  | cons member rest ih =>
      rw [List.map_cons, List.mem_cons, not_or] at absent
      rw [valuesOf_cons, if_neg (Ne.symm absent.1), ih absent.2]

end Syntax

open Syntax (keyed? valuesOf)

/-! ## Types -/

namespace FieldType

/-- A declaration as it is written: the members of its type, and requiredness beside them. -/
def declarationJson (declaration : FieldDef) : Json :=
  .object (declaration.type.toMembers ++ [("required", .bool declaration.required)])

theorem toFieldMembers_eq_map (fields : Fields) :
    toFieldMembers fields = fields.map fun field => (field.1, declarationJson field.2) := by
  induction fields with
  | nil => rfl
  | cons field rest ih => rw [toFieldMembers, ih, List.map_cons, declarationJson]

def part? : FieldType → Option Json
  | .object fields => some (.object (toFieldMembers fields))
  | .array items => some (.object items.toMembers)
  | _ => none

/-- The members tell nothing of a type. -/
def Beside (members : List (String × Json)) : Prop :=
  ∀ key ∈ ["type", "fields", "items"], key ∉ members.map Prod.fst

theorem beside_required (required : Bool) : Beside [("required", .bool required)] := by
  intro key known
  simp only [List.mem_cons, List.not_mem_nil, or_false] at known
  rcases known with rfl | rfl | rfl <;> simp

theorem beside_nil : Beside [] := fun _ _ => List.not_mem_nil

/-- The name and the part of a type are found among members that tell nothing of it. -/
theorem nameAndPart?_toMembers (type : FieldType) {others : List (String × Json)}
    (beside : Beside others) (gathered : Bool) :
    nameAndPart? gathered (.ofJson (.object (type.toMembers ++ others))) =
      some (type.name, type.part?.map Syntax.ofJson) := by
  have absent {key : String} (known : key ∈ ["type", "fields", "items"]) :
      valuesOf key (others.map fun member => (member.1, Syntax.ofJson member.2)) = [] := by
    apply Syntax.valuesOf_eq_nil
    rw [List.map_map]
    exact beside key known
  rw [Syntax.ofJson, nameAndPart?, Syntax.keyed?_ofMembers]
  cases type <;>
    simp [toMembers, Syntax.required?, Syntax.optional?, Syntax.valuesOf_cons, absent, tag?,
      partKey?, part?, Syntax.ofJson, name]

/-- The fields of an object type are read one by one. -/
theorem fields?_object (read : Syntax → Option FieldDef) (fields : Fields) :
    fields? read (.ofJson (.object (toFieldMembers fields))) =
      ((fields.map fun field => (field.1, Syntax.ofJson (declarationJson field.2))).mapM
        fun member => (read member.2).map fun declaration => (member.1, declaration)).map
          Fields.ofList := by
  rw [Syntax.ofJson, fields?, Syntax.keyed?_ofMembers, toFieldMembers_eq_map, List.map_map,
    Option.map_eq_bind]
  rfl

/-- Fields in order are read back by any reader that reads each of their declarations back. -/
theorem fields?_toFieldMembers {read : Syntax → Option FieldDef} {fields : Fields}
    (ascending : (fields.map Prod.fst).Pairwise (· < ·))
    (reads : ∀ field ∈ fields, read (.ofJson (declarationJson field.2)) = some field.2) :
    fields? read (.ofJson (.object (toFieldMembers fields))) = some fields := by
  have declarations : (fields.map fun field =>
      (field.1, Syntax.ofJson (declarationJson field.2))).mapM
        (fun member => (read member.2).map fun declaration => (member.1, declaration)) =
      some fields := by
    rw [mapM_eq_some_iff, List.forall₂_map_left_iff, List.forall₂_same]
    intro field mem
    rw [reads field mem, Option.map_some]
  rw [fields?_object, declarations, Option.map_some, Fields.ofList_eq ascending]

/-- Each declaration of fields that were read was read. -/
theorem isSome_of_fields? {read : Syntax → Option FieldDef} {fields : Fields}
    (isSome : (fields? read (.ofJson (.object (toFieldMembers fields)))).isSome = true)
    {field : String × FieldDef} (mem : field ∈ fields) :
    (read (.ofJson (declarationJson field.2))).isSome = true := by
  rw [fields?_object, Option.isSome_map] at isSome
  obtain ⟨declarations, each⟩ := Option.isSome_iff_exists.mp isSome
  rw [mapM_eq_some_iff, List.forall₂_map_left_iff] at each
  clear isSome
  induction each with
  | nil => cases mem
  | cons head _ ih =>
      rcases List.mem_cons.mp mem with rfl | mem
      · obtain ⟨declaration, known, -⟩ := Option.map_eq_some_iff.mp head
        exact Option.isSome_iff_exists.mpr ⟨declaration, known⟩
      · exact ih mem

/-- A declaration is read back by any reader that reads its type back. -/
theorem declaration?_declarationJson {read : Syntax → Option FieldType} {declaration : FieldDef}
    (reads : read (.ofJson (declarationJson declaration)) = some declaration.type) :
    declaration? read (.ofJson (declarationJson declaration)) = some declaration := by
  obtain ⟨type, required⟩ := declaration
  have values : valuesOf "required" ((type.toMembers ++ [("required", Json.bool required)]).map
      fun member => (member.1, Syntax.ofJson member.2)) = [.bool required] := by
    cases type <;> simp [toMembers, valuesOf, Syntax.ofJson]
  rw [declarationJson, Syntax.ofJson] at reads ⊢
  rw [declaration?, Syntax.keyed?_ofMembers, Option.bind_eq_bind, Option.bind_some,
    Syntax.optional?, values]
  show (read _).bind (fun type => some (Declaration.mk type required)) = _
  rw [reads, Option.bind_some]

/-- The part of a type is less deep than the type. -/
theorem depth_part_lt {type : FieldType} {part : Json} (written : type.part? = some part)
    {others : List (String × Json)} {fuel : Nat}
    (enough : (Syntax.ofJson (.object (type.toMembers ++ others))).depth < fuel + 1) :
    (Syntax.ofJson part).depth < fuel := by
  rw [Syntax.ofJson, Syntax.depth, Nat.add_lt_add_iff_right] at enough
  have mem : ∃ key, (key, part) ∈ type.toMembers ++ others := by
    cases type with
    | object fields =>
        cases written
        exact ⟨"fields", List.mem_append_left _ (List.mem_cons_of_mem _ List.mem_cons_self)⟩
    | array items =>
        cases written
        exact ⟨"items", List.mem_append_left _ (List.mem_cons_of_mem _ List.mem_cons_self)⟩
    | string | number | boolean | null | unknown => cases written
  obtain ⟨key, mem⟩ := mem
  exact Nat.lt_of_le_of_lt
    (Syntax.depthMembers_ofMembers_le_iff.mp (Nat.le_refl _) _ mem) enough

mutual

/-- A type is read back, whatever else stands beside its members. -/
theorem ofTree?_toMembers : ∀ (type : FieldType), type.Ordered →
    ∀ {others : List (String × Json)}, Beside others → ∀ (fuel : Nat) (gathered : Bool),
    (Syntax.ofJson (.object (type.toMembers ++ others))).depth < fuel →
    ofTree? fuel gathered (.ofJson (.object (type.toMembers ++ others))) = some type
  | type, ordered, others, beside, 0, gathered, enough => absurd enough (Nat.not_lt_zero _)
  | .string, _, _, beside, fuel + 1, gathered, _ | .number, _, _, beside, fuel + 1, gathered, _
  | .boolean, _, _, beside, fuel + 1, gathered, _ | .null, _, _, beside, fuel + 1, gathered, _
  | .unknown, _, _, beside, fuel + 1, gathered, _ => by
      rw [ofTree?, nameAndPart?_toMembers _ beside]
      rfl
  | .object fields, ordered, others, beside, fuel + 1, gathered, enough => by
      rw [ofTree?, nameAndPart?_toMembers (.object fields) beside]
      rw [Ordered] at ordered
      have part := depth_part_lt rfl enough
      rw [Syntax.ofJson, Syntax.depth] at part
      have read := fields?_toFieldMembers ordered.1
        (declarations_toFieldMembers fields ordered.2 fuel (Nat.lt_of_succ_lt part))
      show (fields? (declaration? (ofTree? fuel true)) _).map FieldType.object = _
      rw [read, Option.map_some]
  | .array items, ordered, others, beside, fuel + 1, gathered, enough => by
      rw [ofTree?, nameAndPart?_toMembers (.array items) beside]
      rw [Ordered] at ordered
      have read := ofTree?_toMembers items ordered beside_nil fuel true
      rw [List.append_nil] at read
      show (ofTree? fuel true _).map FieldType.array = _
      rw [read (depth_part_lt rfl enough), Option.map_some]

/-- Every declaration is read back that is not too deep. -/
theorem declarations_toFieldMembers : ∀ fields : List (String × Declaration FieldType),
    OrderedFields fields → ∀ fuel : Nat,
    Syntax.depthMembers (Syntax.ofMembers (toFieldMembers fields)) < fuel →
    ∀ field ∈ fields, declaration? (ofTree? fuel true) (.ofJson (declarationJson field.2)) =
      some field.2
  | [], _, _, _, _, mem => by cases mem
  | (name, ⟨type, required⟩) :: rest, ordered, fuel, enough, field, mem => by
      rw [OrderedFields] at ordered
      rw [toFieldMembers, Syntax.ofMembers, Syntax.depthMembers, Nat.max_lt] at enough
      rcases List.mem_cons.mp mem with rfl | mem
      · exact declaration?_declarationJson
          (ofTree?_toMembers type ordered.1 (beside_required required) fuel true enough.1)
      · exact declarations_toFieldMembers rest ordered.2 fuel enough.2 field mem

end

/-! ## Text -/

theorem integralMembers_append {a b : List (String × Json)} (left : Json.IntegralMembers a)
    (right : Json.IntegralMembers b) : Json.IntegralMembers (a ++ b) := by
  induction a with
  | nil => exact right
  | cons member rest ih =>
      rw [Json.IntegralMembers] at left
      rw [List.cons_append, Json.IntegralMembers]
      exact ⟨left.1, ih left.2⟩

mutual

theorem integral_toMembers : ∀ type : FieldType, Json.IntegralMembers type.toMembers
  | .string | .number | .boolean | .null | .unknown => ⟨trivial, trivial⟩
  | .object fields => ⟨trivial, integral_toFieldMembers fields, trivial⟩
  | .array items => ⟨trivial, integral_toMembers items, trivial⟩

theorem integral_toFieldMembers : ∀ fields : List (String × Declaration FieldType),
    Json.IntegralMembers (toFieldMembers fields)
  | [] => trivial
  | (_, ⟨type, _⟩) :: rest =>
      ⟨integralMembers_append (integral_toMembers type) ⟨trivial, trivial⟩,
        integral_toFieldMembers rest⟩

end

end FieldType

/-! ## Indexes -/

namespace Index

theorem ofSyntax?_toJson (index : Index) : ofSyntax? (.ofJson index.toJson) = some index := by
  obtain ⟨field, kind⟩ := index
  cases kind <;> rfl

theorem listOfSyntax?_map_toJson (indexes : List Index) :
    listOfSyntax? (.ofJson (.array (indexes.map toJson))) = some indexes := by
  rw [Syntax.ofJson, listOfSyntax?, Syntax.ofItems_eq_map, List.map_map,
    mapM_eq_some_iff, List.forall₂_map_left_iff, List.forall₂_same]
  exact fun index _ => index.ofSyntax?_toJson

theorem depth_toJson (index : Index) : (Syntax.ofJson index.toJson).depth = 1 := rfl

end Index

/-! ## Schemas -/

namespace Schema

open FieldType (declarationJson toFieldMembers)

variable {schema : Schema}

theorem WellFormed.fitsWord (wellFormed : schema.WellFormed) : FitsWord schema.version := by
  have := wellFormed.version_le
  simp only [FitsWord, leastSigned]
  omega

theorem WellFormed.version_eq (wellFormed : schema.WellFormed) :
    Json.ofNat schema.version = .number (.integer schema.version wellFormed.fitsWord) := by
  rw [Json.ofNat, Json.ofInt, Number.ofInt, dif_pos wellFormed.fitsWord]

theorem WellFormed.integral (wellFormed : schema.WellFormed) : schema.toJson.Integral := by
  have indexes : Json.IntegralItems (schema.indexes.map Index.toJson) := by
    induction schema.indexes with
    | nil => trivial
    | cons index rest ih => exact ⟨⟨trivial, trivial, trivial⟩, ih⟩
  rw [toJson, wellFormed.version_eq]
  exact ⟨rfl, FieldType.integral_toFieldMembers schema.fields, indexes, trivial⟩

/-- The text of a schema is the text of its tree. -/
theorem WellFormed.syntax_text (wellFormed : schema.WellFormed) :
    Syntax.parse? schema.text = some (.ofJson schema.toJson) :=
  Json.parse?_indented wellFormed.integral

/-- A schema is two deeper than the deepest of its declarations. -/
theorem depth_toJson_le_iff :
    (Syntax.ofJson schema.toJson).depth ≤ Syntax.maxDepth ↔
      ∀ field ∈ schema.fields,
        (Syntax.ofJson (declarationJson field.2)).depth ≤ Syntax.maxDepth - 2 := by
  have indexes : Syntax.depthItems (Syntax.ofItems (schema.indexes.map Index.toJson)) ≤ 1 := by
    rw [Syntax.depthItems_ofItems_le_iff]
    intro item mem
    obtain ⟨index, -, rfl⟩ := List.mem_map.mp mem
    exact Nat.le_of_eq index.depth_toJson
  have fields : Syntax.depthMembers (Syntax.ofMembers (toFieldMembers schema.fields)) ≤
      Syntax.maxDepth - 2 ↔ ∀ field ∈ schema.fields,
        (Syntax.ofJson (declarationJson field.2)).depth ≤ Syntax.maxDepth - 2 := by
    rw [Syntax.depthMembers_ofMembers_le_iff, FieldType.toFieldMembers_eq_map,
      List.forall_mem_map]
  have depth : (Syntax.ofJson schema.toJson).depth =
      max 0 (max (Syntax.depthMembers (Syntax.ofMembers (toFieldMembers schema.fields)) + 1)
        (max (Syntax.depthItems (Syntax.ofItems (schema.indexes.map Index.toJson)) + 1) 0)) + 1 :=
    rfl
  rw [← fields, depth, Syntax.maxDepth]
  omega

theorem isGathered_ofJson (room : Nat) (value : Json) :
    (Syntax.ofJson value).isGathered room = decide ((Syntax.ofJson value).depth ≤ room) := by
  rw [Syntax.isGathered, Syntax.isSome_json?_ofJson, Bool.and_true]

theorem declaration?_declarationJson {declaration : FieldDef}
    (ordered : declaration.type.Ordered)
    (shallow : (Syntax.ofJson (declarationJson declaration)).depth ≤ Syntax.maxDepth - 2) :
    declaration? (.ofJson (declarationJson declaration)) = some declaration := by
  rw [declaration?, isGathered_ofJson, if_pos (decide_eq_true shallow)]
  exact FieldType.declaration?_declarationJson (FieldType.ofTree?_toMembers declaration.type ordered
    (FieldType.beside_required declaration.required) _ true (Nat.lt_succ_self _))

theorem natural?_version (wellFormed : schema.WellFormed) :
    Syntax.natural? (.ofJson (.ofNat schema.version)) = some schema.version := by
  rw [wellFormed.version_eq, Syntax.ofJson, Syntax.natural?, Number.unsigned?,
    if_pos (Int.natCast_nonneg _), Int.toNat_natCast]

/-- The tree of a schema is read as the schema when the reader of its fields reads them back. -/
theorem ofSyntax?_toJson (wellFormed : schema.WellFormed) :
    ofSyntax? (.ofJson schema.toJson) =
      (FieldType.fields? declaration? (.ofJson (.object (toFieldMembers schema.fields)))).map
        fun fields => { schema with fields } := by
  have version := natural?_version wellFormed
  have indexes := Index.listOfSyntax?_map_toJson schema.indexes
  show (Syntax.natural? (.ofJson (.ofNat schema.version))).bind (fun version =>
    (FieldType.fields? declaration? (.ofJson (.object (toFieldMembers schema.fields)))).bind
      fun fields => (Index.listOfSyntax? (.ofJson (.array (schema.indexes.map Index.toJson)))).bind
        fun indexes => some (Schema.mk version fields indexes)) = _
  rw [version, indexes, Option.bind_some, Option.map_eq_bind]
  rfl

theorem WellFormed.parse?_text (wellFormed : schema.WellFormed)
    (shallow : (Syntax.ofJson schema.toJson).depth ≤ Syntax.maxDepth) :
    parse? schema.text = some schema := by
  obtain ⟨ascending, types⟩ := FieldType.ordered_object_iff.mp wellFormed.ordered
  have reads : ∀ field ∈ schema.fields,
      declaration? (.ofJson (declarationJson field.2)) = some field.2 := by
    intro field mem
    exact declaration?_declarationJson (types field mem) (depth_toJson_le_iff.mp shallow field mem)
  rw [parse?, wellFormed.syntax_text, Option.bind_some, ofSyntax?_toJson wellFormed,
    FieldType.fields?_toFieldMembers ascending reads, Option.map_some]

/-- A schema that was read is read again from its own text, unless that is too deep. -/
theorem parse?_text_of_parse? {text : String} (read : parse? text = some schema)
    (shallow : (Syntax.ofJson schema.toJson).depth ≤ Syntax.maxDepth) :
    parse? schema.text = some schema := (wellFormed_of_parse? read).parse?_text shallow

/-- A schema that is too deep is not read back. -/
theorem WellFormed.parse?_text_eq_none (wellFormed : schema.WellFormed)
    (deep : Syntax.maxDepth < (Syntax.ofJson schema.toJson).depth) :
    parse? schema.text = none := by
  rw [← Nat.not_le, depth_toJson_le_iff] at deep
  have fields : FieldType.fields? declaration?
      (.ofJson (.object (toFieldMembers schema.fields))) = none := by
    rw [← Option.not_isSome_iff_eq_none]
    intro isSome
    apply deep
    intro field mem
    have read := FieldType.isSome_of_fields? isSome mem
    rw [declaration?, isGathered_ofJson] at read
    split at read
    · next shallow => exact of_decide_eq_true shallow
    · cases read
  rw [parse?, wellFormed.syntax_text, Option.bind_some, ofSyntax?_toJson wellFormed, fields,
    Option.map_none]

/-- What is read back is checked as it was before it was written. -/
theorem WellFormed.ofText_text (wellFormed : schema.WellFormed)
    (shallow : (Syntax.ofJson schema.toJson).depth ≤ Syntax.maxDepth) (location : String) :
    ofText location schema.text = schema.validate.map fun _ => schema := by
  rw [ofText, wellFormed.parse?_text shallow]
  show (schema.validate.bind fun _ => .ok schema) = schema.validate.map fun _ => schema
  cases schema.validate <;> rfl

theorem code_of_validate {error : SchemaError} (fails : schema.validate = .error error) :
    error.code = "DOCSQL_SCHEMA_INVALID" := by
  unfold validate at fails
  split at fails
  · cases fails
    rfl
  · cases fails

end Schema

/-! ## Saved schemas -/

namespace SchemaDirectory

/-- What is written under a name is the only file of that name. -/
theorem filter_write (fileName text : String) (directory : SchemaDirectory) :
    ((directory.write fileName text).files.getD []).filter (fun file => file.1 == fileName) =
      [(fileName, text)] := by
  have others : ((directory.files.getD []).filter fun file => file.1 != fileName).filter
      (fun file => file.1 == fileName) = [] := by
    rw [List.filter_filter, List.filter_eq_nil_iff]
    intro file _ both
    rw [Bool.and_eq_true, bne_iff_ne, beq_iff_eq] at both
    exact both.2 both.1
  have written : [(fileName, text)].filter (fun file => file.1 == fileName) = [(fileName, text)] :=
    List.filter_eq_self.mpr (by simp)
  rw [write, Option.getD_some, List.filter_append, others, written, List.nil_append]

/-- A well-formed schema that is not too deep and was saved is read back from its file. Loading the
file succeeds with the schema where the structure of the schema is valid, and fails with the same
fault where it is not. -/
theorem saved_text_read {directory after : SchemaDirectory} {collection path : String}
    {schema : Schema} (wellFormed : schema.WellFormed)
    (shallow : (Syntax.ofJson schema.toJson).depth ≤ Syntax.maxDepth)
    (saved : directory.save collection schema = (.ok path, after)) :
    ∃ text, (after.files.getD []).filter (fun file => file.1 == schemaFileName collection) =
        [(schemaFileName collection, text)] ∧
      Schema.parse? text = some schema ∧
      (∀ location, Schema.ofText location text = schema.validate.map fun _ => schema) ∧
      ∀ error, schema.validate = .error error → error.code = "DOCSQL_SCHEMA_INVALID" := by
  rw [save] at saved
  split at saved
  · cases saved
    exact ⟨schema.text, filter_write _ _ directory, wellFormed.parse?_text shallow,
      wellFormed.ofText_text shallow, fun _ => Schema.code_of_validate⟩
  · cases saved

/-- Fields that are named as the format names its own members, and an index that is at fault. -/
theorem reserved_names_read :
    let schema : Schema := ⟨greatestUnsigned,
      [("fields", ⟨.object [("required", ⟨.string, true⟩),
          ("type", ⟨.array (.object [("items", ⟨.null, false⟩)]), false⟩)], false⟩),
        ("type", ⟨.array (.array .unknown), true⟩)],
      [⟨"fields.required", .lowercase⟩, ⟨"type.0", .lowercase⟩]⟩
    let after := (save "users" schema ⟨"schemas", none⟩).2
    ∃ text, (after.files.getD []).filter (fun file => file.1 == schemaFileName "users") =
        [(schemaFileName "users", text)] ∧
      Schema.parse? text = some schema ∧
      (∀ location, Schema.ofText location text = schema.validate.map fun _ => schema) ∧
      ∀ error, schema.validate = .error error → error.code = "DOCSQL_SCHEMA_INVALID" := by
  intro schema after
  have wellFormed : schema.WellFormed := ⟨by decide, by decide⟩
  have admitted : isFileName (schemaFileName "users") = true := by decide +kernel
  have saved : save "users" schema ⟨"schemas", none⟩ =
      (.ok ("schemas" ++ "/" ++ schemaFileName "users"), after) :=
    Prod.ext (by rw [save, if_pos admitted, pathOf]) rfl
  exact saved_text_read wellFormed (by decide) saved

end SchemaDirectory

end Pushdown
