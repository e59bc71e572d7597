import Mathlib.Data.List.Forall2
import Pushdown.Schema.Reader

/-!
# Well-formed schemas

The version of a well-formed schema fits 64 bits, and the fields stand in ascending order of their
names, at the top and in every object type. Declaring fields one by one gives well-formed schemas,
and so does reading one from text.
-/

namespace Pushdown

namespace FieldType

mutual

/-- The names of the fields ascend in every object type. -/
def Ordered : FieldType → Prop
  | .object fields => (fields.map Prod.fst).Pairwise (· < ·) ∧ OrderedFields fields
  | .array items => Ordered items
  | _ => True

def OrderedFields : List (String × Declaration FieldType) → Prop
  | [] => True
  | (_, ⟨type, _⟩) :: rest => Ordered type ∧ OrderedFields rest

end

mutual

def decideOrdered : ∀ type : FieldType, Decidable type.Ordered
  | .object fields =>
    have := decideOrderedFields fields
    inferInstanceAs (Decidable ((fields.map Prod.fst).Pairwise (· < ·) ∧ OrderedFields fields))
  | .array items => decideOrdered items
  | .string | .number | .boolean | .null | .unknown => .isTrue trivial

def decideOrderedFields :
    ∀ fields : List (String × Declaration FieldType), Decidable (OrderedFields fields)
  | [] => .isTrue trivial
  | (_, ⟨type, _⟩) :: rest =>
    have := decideOrdered type
    have := decideOrderedFields rest
    inferInstanceAs (Decidable (Ordered type ∧ OrderedFields rest))

end

instance (type : FieldType) : Decidable type.Ordered := decideOrdered type

theorem orderedFields_iff {fields : Fields} :
    OrderedFields fields ↔ ∀ field ∈ fields, field.2.type.Ordered := by
  induction fields with
  | nil => exact iff_of_true trivial fun field mem => by cases mem
  | cons field rest ih => rw [OrderedFields, ih, List.forall_mem_cons]

theorem ordered_object_iff {fields : Fields} :
    (object fields).Ordered ↔
      (fields.map Prod.fst).Pairwise (· < ·) ∧ ∀ field ∈ fields, field.2.type.Ordered := by
  rw [Ordered, orderedFields_iff]

end FieldType

/-! ## Declaring fields -/

namespace Fields

variable {fields : Fields} {name : String} {declaration : FieldDef}

theorem mem_insert {field : String × FieldDef} (mem : field ∈ fields.insert name declaration) :
    field = (name, declaration) ∨ field ∈ fields := by
  induction fields with
  | nil => exact .inl (List.mem_singleton.mp mem)
  | cons first rest ih =>
      rw [insert] at mem
      split at mem
      · exact List.mem_cons.mp mem
      · split at mem
        · exact (List.mem_cons.mp mem).imp id (List.mem_cons_of_mem _)
        · rcases List.mem_cons.mp mem with rfl | mem
          · exact .inr List.mem_cons_self
          · exact (ih mem).imp id (List.mem_cons_of_mem _)

theorem insert_ascending (ascending : (fields.map Prod.fst).Pairwise (· < ·)) :
    ((fields.insert name declaration).map Prod.fst).Pairwise (· < ·) := by
  induction fields with
  | nil => exact List.pairwise_singleton _ _
  | cons first rest ih =>
      obtain ⟨below, ascending⟩ := List.pairwise_cons.mp ascending
      rw [insert]
      split
      · next less =>
        refine List.pairwise_cons.mpr ⟨List.forall_mem_cons.mpr ⟨less, fun other mem => ?_⟩,
          List.pairwise_cons.mpr ⟨below, ascending⟩⟩
        exact String.lt_trans less (below other mem)
      · next notLess =>
        split
        · next same =>
          rw [same]
          exact List.pairwise_cons.mpr ⟨below, ascending⟩
        · next differ =>
          have greater : first.1 < name :=
            Std.lt_of_le_of_ne (Std.not_lt.mp notLess) (Ne.symm differ)
          refine List.pairwise_cons.mpr ⟨fun other mem => ?_, ih ascending⟩
          obtain ⟨field, found, rfl⟩ := List.mem_map.mp mem
          rcases mem_insert found with rfl | found
          · exact greater
          · exact below field.1 (List.mem_map_of_mem found)

theorem insert_ordered (ordered : (FieldType.object fields).Ordered)
    (type : declaration.type.Ordered) :
    (FieldType.object (fields.insert name declaration)).Ordered := by
  rw [FieldType.ordered_object_iff] at ordered ⊢
  refine ⟨insert_ascending ordered.1, fun field mem => ?_⟩
  rcases mem_insert mem with rfl | mem
  · exact type
  · exact ordered.2 field mem

theorem ofList_ordered {declarations : List (String × FieldDef)}
    (types : ∀ field ∈ declarations, field.2.type.Ordered) :
    (FieldType.object (ofList declarations)).Ordered := by
  suffices fold : ∀ front : Fields, (FieldType.object front).Ordered →
      (FieldType.object (declarations.foldl (fun fields field => insert field.1 field.2 fields)
        front)).Ordered from fold [] (by decide)
  induction declarations with
  | nil => exact fun front ordered => ordered
  | cons field rest ih =>
      intro front ordered
      rw [List.forall_mem_cons] at types
      exact ih types.2 _ (insert_ordered ordered types.1)

/-- A name behind all others is declared at the end. -/
theorem insert_last (below : ∀ field ∈ fields, field.1 < name) :
    fields.insert name declaration = fields ++ [(name, declaration)] := by
  induction fields with
  | nil => rfl
  | cons field rest ih =>
      have less := below field List.mem_cons_self
      rw [insert, if_neg (String.lt_asymm less), if_neg (String.ne_of_lt less).symm,
        ih fun other mem => below other (List.mem_cons_of_mem _ mem), List.cons_append]

/-- Fields whose names ascend are kept as they are given. -/
theorem ofList_eq (ascending : (fields.map Prod.fst).Pairwise (· < ·)) :
    ofList fields = fields := by
  suffices fold : ∀ front : Fields, ((front ++ fields).map Prod.fst).Pairwise (· < ·) →
      fields.foldl (fun fields field => insert field.1 field.2 fields) front = front ++ fields from
    fold [] ascending
  clear ascending
  induction fields with
  | nil =>
      intro front _
      rw [List.foldl_nil, List.append_nil]
  | cons field rest ih =>
      intro front ascending
      have below : ∀ other ∈ front, other.1 < field.1 := by
        intro other mem
        rw [List.map_append, List.pairwise_append] at ascending
        exact ascending.2.2 _ (List.mem_map_of_mem mem) _ List.mem_cons_self
      rw [List.foldl_cons, insert_last below, ih, List.append_assoc, List.singleton_append]
      rwa [List.append_assoc, List.singleton_append]

end Fields

namespace Schema

/-- The version fits 64 bits, and fields stand in ascending order of their names at every depth. -/
structure WellFormed (schema : Schema) : Prop where
  version_le : schema.version ≤ greatestUnsigned
  ordered : (FieldType.object schema.fields).Ordered

theorem wellFormed_empty {version : Nat} (fits : version ≤ greatestUnsigned) :
    (empty version).WellFormed := ⟨fits, .nil, trivial⟩

theorem WellFormed.withField {schema : Schema} (h : schema.WellFormed) (name : String)
    {declaration : FieldDef} (type : declaration.type.Ordered) :
    (schema.withField name declaration).WellFormed :=
  ⟨h.version_le, Fields.insert_ordered h.ordered type⟩

theorem WellFormed.withIndex {schema : Schema} (h : schema.WellFormed) (index : Index) :
    (schema.withIndex index).WellFormed := ⟨h.version_le, h.ordered⟩

end Schema

/-! ## Reading -/

/-- Items are read one by one. -/
theorem mapM_eq_some_iff {α β : Type} {read : α → Option β} {items : List α} {values : List β} :
    items.mapM read = some values ↔ List.Forall₂ (fun item value => read item = some value) items
      values := by
  induction items generalizing values with
  | nil =>
      rw [List.mapM_nil, List.forall₂_nil_left_iff]
      exact Option.some_inj.trans eq_comm
  | cons item rest ih =>
      rw [List.mapM_cons, List.forall₂_cons_left_iff]
      simp only [Option.bind_eq_bind, Option.bind_eq_some_iff, Option.pure_def, Option.some_inj, ih]
      constructor
      · rintro ⟨value, head, others, tail, rfl⟩
        exact ⟨value, others, head, tail, rfl⟩
      · rintro ⟨value, others, head, tail, rfl⟩
        exact ⟨value, head, others, tail, rfl⟩

namespace FieldType

/-- Fields are ordered when the types of their declarations are. -/
theorem fields?_ordered {read : Syntax → Option FieldDef}
    (types : ∀ tree declaration, read tree = some declaration → declaration.type.Ordered)
    {tree : Syntax} {fields : Fields} (found : fields? read tree = some fields) :
    (object fields).Ordered := by
  unfold fields? at found
  split at found
  · next members =>
    obtain ⟨keyed, -, found⟩ := Option.bind_eq_some_iff.mp found
    obtain ⟨declarations, each, found⟩ := Option.bind_eq_some_iff.mp found
    cases found
    apply Fields.ofList_ordered
    have ordered : ∀ {members : List (String × Syntax)} {declarations : List (String × FieldDef)},
        List.Forall₂ (fun member declaration =>
          (read member.2).map (fun declaration => (member.1, declaration)) = some declaration)
          members declarations → ∀ field ∈ declarations, field.2.type.Ordered := by
      intro members declarations each
      induction each with
      | nil =>
          intro field mem
          cases mem
      | cons head _ ih =>
          obtain ⟨declaration, known, rfl⟩ := Option.map_eq_some_iff.mp head
          exact List.forall_mem_cons.mpr ⟨types _ _ known, ih⟩
    exact ordered (mapM_eq_some_iff.mp each)
  · cases found

theorem declaration?_ordered {read : Syntax → Option FieldType}
    (types : ∀ tree type, read tree = some type → type.Ordered) {tree : Syntax}
    {declaration : FieldDef} (found : declaration? read tree = some declaration) :
    declaration.type.Ordered := by
  unfold declaration? at found
  split at found
  · obtain ⟨keyed, -, found⟩ := Option.bind_eq_some_iff.mp found
    obtain ⟨required, -, found⟩ := Option.bind_eq_some_iff.mp found
    obtain ⟨type, known, found⟩ := Option.bind_eq_some_iff.mp found
    cases found
    exact types _ _ known
  · cases found

/-- Every type that is read is ordered. -/
theorem ofTree?_ordered (fuel : Nat) (gathered : Bool) (tree : Syntax) (type : FieldType)
    (read : ofTree? fuel gathered tree = some type) : type.Ordered := by
  induction fuel generalizing gathered tree type with
  | zero =>
      rw [ofTree?] at read
      cases read
  | succ fuel ih =>
      rw [ofTree?] at read
      obtain ⟨⟨name, part⟩, -, read⟩ := Option.bind_eq_some_iff.mp read
      split at read
      · cases read
        trivial
      · cases read
        trivial
      · cases read
        trivial
      · cases read
        trivial
      · cases read
        trivial
      · cases read
        exact ⟨.nil, trivial⟩
      · obtain ⟨fields, found, rfl⟩ := Option.map_eq_some_iff.mp read
        exact fields?_ordered (fun _ _ => declaration?_ordered (ih true)) found
      · cases read
        trivial
      · obtain ⟨items, found, rfl⟩ := Option.map_eq_some_iff.mp read
        exact ih true _ items found
      · cases read

end FieldType

namespace Schema

theorem natural?_le {tree : Syntax} {n : Nat} (read : tree.natural? = some n) :
    n ≤ greatestUnsigned := by
  unfold Syntax.natural? at read
  split at read
  · next number =>
    cases number with
    | integer i fits =>
        rw [Number.unsigned?] at read
        split at read
        · cases read
          have := fits
          simp only [FitsWord] at this
          omega
        · cases read
    | real x => cases read
  · cases read

theorem declaration?_ordered {tree : Syntax} {declaration : FieldDef}
    (read : declaration? tree = some declaration) : declaration.type.Ordered := by
  unfold declaration? at read
  split at read
  · exact FieldType.declaration?_ordered (FieldType.ofTree?_ordered _ true) read
  · cases read

/-- A member that may be missing has its default or was read. -/
theorem of_optional? {α : Type} {key : String} {standard value : α} {read : Syntax → Option α}
    {members : List (String × Syntax)}
    (found : Syntax.optional? key standard read members = some value) :
    value = standard ∨ ∃ tree, read tree = some value := by
  unfold Syntax.optional? at found
  split at found
  · exact .inl (Option.some_inj.mp found).symm
  · next tree _ => exact .inr ⟨tree, found⟩
  · cases found

/-- Every schema that is read is well-formed. -/
theorem wellFormed_of_parse? {text : String} {schema : Schema}
    (read : parse? text = some schema) : schema.WellFormed := by
  have fieldsOrdered {tree : Syntax} {fields : Fields}
      (found : FieldType.fields? declaration? tree = some fields) :
      (FieldType.object fields).Ordered :=
    FieldType.fields?_ordered (fun _ _ => declaration?_ordered) found
  obtain ⟨tree, -, read⟩ := Option.bind_eq_some_iff.mp read
  unfold ofSyntax? at read
  split at read
  · obtain ⟨keyed, -, read⟩ := Option.bind_eq_some_iff.mp read
    obtain ⟨version, given, read⟩ := Option.bind_eq_some_iff.mp read
    obtain ⟨fields, declared, read⟩ := Option.bind_eq_some_iff.mp read
    obtain ⟨indexes, -, read⟩ := Option.bind_eq_some_iff.mp read
    cases read
    refine ⟨?_, ?_⟩
    · rcases of_optional? given with rfl | ⟨tree, known⟩
      · exact Nat.zero_le _
      · exact natural?_le known
    · rcases of_optional? declared with rfl | ⟨tree, known⟩
      · exact ⟨.nil, trivial⟩
      · exact fieldsOrdered known
  · cases read
    exact wellFormed_empty (Nat.zero_le _)
  · obtain ⟨version, known, read⟩ := Option.bind_eq_some_iff.mp read
    cases read
    exact wellFormed_empty (natural?_le known)
  · obtain ⟨version, known, read⟩ := Option.bind_eq_some_iff.mp read
    obtain ⟨fields, declared, read⟩ := Option.bind_eq_some_iff.mp read
    cases read
    exact ⟨natural?_le known, fieldsOrdered declared⟩
  · obtain ⟨version, known, read⟩ := Option.bind_eq_some_iff.mp read
    obtain ⟨fields, declared, read⟩ := Option.bind_eq_some_iff.mp read
    obtain ⟨indexes, -, read⟩ := Option.bind_eq_some_iff.mp read
    cases read
    exact ⟨natural?_le known, fieldsOrdered declared⟩
  · cases read

end Schema

end Pushdown
