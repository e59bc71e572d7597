import Mathlib.Data.List.Nodup
import Pushdown.Json.Syntax

/-!
# Members of objects

The keys of a well-formed object are distinct, so a key has one value. Building an object from
members with distinct keys only changes their order. An object that is built from members in any
order is well-formed, and so is every value that is read from text.
-/

namespace Pushdown.Json

/-! ## Deciding well-formedness -/

/-- Whether keys ascend is decided from the first pair on. -/
def decideAscending : ∀ members : List (String × Json), Decidable (Ascending members)
  | [] | [_] => .isTrue trivial
  | (key, _) :: (next, v) :: rest =>
    have := decideAscending ((next, v) :: rest)
    inferInstanceAs (Decidable (key < next ∧ Ascending ((next, v) :: rest)))

instance (members : List (String × Json)) : Decidable (Ascending members) :=
  decideAscending members

mutual

def decideWellFormed : ∀ v : Json, Decidable v.WellFormed
  | .array items => decideWellFormedItems items
  | .object members =>
    have := decideWellFormedMembers members
    inferInstanceAs (Decidable (Ascending members ∧ WellFormedMembers members))
  | .null | .bool _ | .number _ | .string _ => .isTrue trivial

def decideWellFormedItems : ∀ items : List Json, Decidable (WellFormedItems items)
  | [] => .isTrue trivial
  | item :: rest =>
    have := decideWellFormed item
    have := decideWellFormedItems rest
    inferInstanceAs (Decidable (item.WellFormed ∧ WellFormedItems rest))

def decideWellFormedMembers :
    ∀ members : List (String × Json), Decidable (WellFormedMembers members)
  | [] => .isTrue trivial
  | (_, v) :: rest =>
    have := decideWellFormed v
    have := decideWellFormedMembers rest
    inferInstanceAs (Decidable (v.WellFormed ∧ WellFormedMembers rest))

end

instance (v : Json) : Decidable v.WellFormed := decideWellFormed v

/-! ## Keys -/

def isObject : Json → Bool
  | .object _ => true
  | _ => false

theorem exists_members (v : Json) (object : v.isObject = true) :
    ∃ members, v = .object members := by
  cases v with
  | object members => exact ⟨members, rfl⟩
  | null | bool | number | string | array => cases object

def keys (members : List (String × Json)) : List String := members.map Prod.fst

variable {members : List (String × Json)}

theorem Ascending.tail {member : String × Json} (h : Ascending (member :: members)) :
    Ascending members := by
  cases members with
  | nil => trivial
  | cons next rest => exact h.2

theorem Ascending.head_lt {key : String} {v : Json} (h : Ascending ((key, v) :: members)) :
    ∀ other ∈ keys members, key < other := by
  induction members generalizing key v with
  | nil =>
      intro other found
      cases found
  | cons next rest ih =>
      intro other found
      obtain rfl | later := List.mem_cons.mp found
      · exact h.1
      · exact String.lt_trans h.1 (ih h.2 other later)

/-- The keys of a well-formed object ascend as a list. -/
theorem Ascending.pairwise (h : Ascending members) : (keys members).Pairwise (· < ·) := by
  induction members with
  | nil => exact .nil
  | cons member rest ih => exact .cons h.head_lt (ih h.tail)

/-- No key of a well-formed object occurs twice. -/
theorem Ascending.nodup (h : Ascending members) : (keys members).Nodup := by
  refine h.pairwise.imp ?_
  rintro key _ less rfl
  exact String.lt_irrefl key less

theorem WellFormedMembers.value (h : WellFormedMembers members) {key : String} {v : Json}
    (member : (key, v) ∈ members) : WellFormed v := by
  induction members with
  | nil => cases member
  | cons first rest ih =>
      obtain rfl | later := List.mem_cons.mp member
      · exact h.1
      · exact ih h.2 later

/-- Where keys are distinct, a key has the value that stands with it. -/
theorem member?_eq_some (distinct : (keys members).Nodup) {key : String} {v : Json}
    (member : (key, v) ∈ members) : member? key members = some v := by
  induction members with
  | nil => cases member
  | cons first rest ih =>
      obtain ⟨fresh, distinct⟩ := List.nodup_cons.mp distinct
      obtain rfl | later := List.mem_cons.mp member
      · exact if_pos rfl
      · have other : first.1 ≠ key := by
          rintro rfl
          exact fresh (List.mem_map.mpr ⟨_, later, rfl⟩)
        rw [member?, if_neg other]
        exact ih distinct later

theorem mem_of_member?_eq_some {key : String} {v : Json}
    (found : member? key members = some v) : (key, v) ∈ members := by
  induction members with
  | nil => cases found
  | cons first rest ih =>
      rw [member?] at found
      split at found
      · next same =>
          cases found
          rw [← same]
          exact List.mem_cons_self
      · exact List.mem_cons_of_mem _ (ih found)

theorem member?_eq_none {key : String} (absent : key ∉ keys members) :
    member? key members = none := by
  induction members with
  | nil => rfl
  | cons first rest ih =>
      rw [keys, List.map_cons, List.mem_cons, not_or] at absent
      rw [member?, if_neg fun same => absent.1 same.symm]
      exact ih absent.2

theorem insertMember_perm {key : String} {v : Json} (fresh : key ∉ keys members) :
    (insertMember key v members).Perm ((key, v) :: members) := by
  induction members with
  | nil => exact List.Perm.refl _
  | cons first rest ih =>
      rw [keys, List.map_cons, List.mem_cons, not_or] at fresh
      rw [insertMember]
      split
      · exact List.Perm.refl _
      · rw [if_neg fresh.1]
        exact ((ih fresh.2).cons first).trans (List.Perm.swap _ _ _)

/-- Members with distinct keys stay as they are but for their order. -/
theorem ofMembers_perm (distinct : (keys members).Nodup) :
    ∃ sorted, ofMembers members = .object sorted ∧ sorted.Perm members := by
  suffices fold : ∀ sorted : List (String × Json), (keys (sorted ++ members)).Nodup →
      (members.foldl (fun sorted member => insertMember member.1 member.2 sorted) sorted).Perm
        (sorted ++ members) from
    ⟨_, rfl, fold [] distinct⟩
  clear distinct
  induction members with
  | nil => simp
  | cons first rest ih =>
      intro sorted distinct
      have moved : (sorted ++ first :: rest).Perm (first :: (sorted ++ rest)) :=
        List.perm_middle
      have distinct : (keys (first :: (sorted ++ rest))).Nodup :=
        (moved.map Prod.fst).nodup_iff.mp distinct
      have fresh : first.1 ∉ keys sorted := by
        intro again
        apply (List.nodup_cons.mp distinct).1
        rw [List.map_append]
        exact List.mem_append_left _ again
      have inserted : (insertMember first.1 first.2 sorted).Perm (first :: sorted) :=
        insertMember_perm fresh
      have step := ih (insertMember first.1 first.2 sorted)
        (((inserted.append_right rest).map Prod.fst).nodup_iff.mpr distinct)
      exact step.trans ((inserted.append_right rest).trans moved.symm)

/-! ## Building objects -/

theorem Ascending.cons {key : String} {v : Json} (below : ∀ other ∈ keys members, key < other)
    (h : Ascending members) : Ascending ((key, v) :: members) := by
  cases members with
  | nil => trivial
  | cons next rest => exact ⟨below _ List.mem_cons_self, h⟩

theorem mem_keys_insertMember {key other : String} {v : Json}
    (found : other ∈ keys (insertMember key v members)) : other = key ∨ other ∈ keys members := by
  induction members with
  | nil => exact .inl (List.mem_singleton.mp found)
  | cons first rest ih =>
      rw [insertMember] at found
      split at found
      · exact List.mem_cons.mp found
      · split at found
        · exact (List.mem_cons.mp found).imp id (List.mem_cons_of_mem _)
        · obtain rfl | later := List.mem_cons.mp found
          · exact .inr List.mem_cons_self
          · exact (ih later).imp id (List.mem_cons_of_mem _)

theorem Ascending.insertMember (h : Ascending members) (key : String) (v : Json) :
    Ascending (Json.insertMember key v members) := by
  induction members with
  | nil => trivial
  | cons first rest ih =>
      rw [Json.insertMember]
      split
      · next less => exact ⟨less, h⟩
      · next notLess =>
        split
        · next same =>
          rw [same]
          exact .cons h.head_lt h.tail
        · next differ =>
          have greater : first.1 < key :=
            Std.lt_of_le_of_ne (Std.not_lt.mp notLess) (Ne.symm differ)
          refine .cons ?_ (ih h.tail)
          intro other found
          obtain rfl | later := mem_keys_insertMember found
          · exact greater
          · exact h.head_lt other later

theorem WellFormedMembers.insertMember (h : WellFormedMembers members) (key : String) {v : Json}
    (value : v.WellFormed) : WellFormedMembers (Json.insertMember key v members) := by
  induction members with
  | nil => exact ⟨value, h⟩
  | cons first rest ih =>
      rw [Json.insertMember]
      split
      · exact ⟨value, h⟩
      · split
        · exact ⟨value, h.2⟩
        · exact ⟨h.1, ih h.2⟩

/-- An object that is built from well-formed values is well-formed. -/
theorem ofMembers_wellFormed (h : WellFormedMembers members) : (ofMembers members).WellFormed := by
  suffices fold : ∀ sorted : List (String × Json), Ascending sorted ∧ WellFormedMembers sorted →
      WellFormed (.object
        (members.foldl (fun sorted member => Json.insertMember member.1 member.2 sorted) sorted))
    from fold [] ⟨trivial, trivial⟩
  induction members with
  | nil => exact fun sorted kept => kept
  | cons first rest ih =>
      intro sorted kept
      exact ih h.2 _ ⟨kept.1.insertMember first.1 first.2, kept.2.insertMember first.1 h.1⟩

mutual

/-- The value of a tree is well-formed. -/
theorem wellFormed_of_json? : ∀ {tree : Syntax} {v : Json}, tree.json? = some v → v.WellFormed
  | .null, _, read | .bool _, _, read => by
    cases read
    trivial
  | .number _, _, read | .string _, _, read => by
    obtain ⟨_, -, rfl⟩ := Option.map_eq_some_iff.mp read
    trivial
  | .array items, _, read => by
    obtain ⟨values, found, rfl⟩ := Option.map_eq_some_iff.mp read
    exact wellFormed_of_jsonItems? found
  | .object members, _, read => by
    obtain ⟨values, found, rfl⟩ := Option.map_eq_some_iff.mp read
    exact ofMembers_wellFormed (wellFormed_of_jsonMembers? found)

theorem wellFormed_of_jsonItems? : ∀ {trees : List Syntax} {values : List Json},
    Syntax.jsonItems? trees = some values → WellFormedItems values
  | [], _, read => by
    cases read
    trivial
  | tree :: rest, _, read => by
    obtain ⟨v, value, read⟩ := Option.bind_eq_some_iff.mp read
    obtain ⟨values, found, read⟩ := Option.bind_eq_some_iff.mp read
    cases read
    exact ⟨wellFormed_of_json? value, wellFormed_of_jsonItems? found⟩

theorem wellFormed_of_jsonMembers? : ∀ {trees : List (Option String × Syntax)}
    {values : List (String × Json)},
    Syntax.jsonMembers? trees = some values → WellFormedMembers values
  | [], _, read => by
    cases read
    trivial
  | (key?, tree) :: rest, _, read => by
    obtain ⟨key, -, read⟩ := Option.bind_eq_some_iff.mp read
    obtain ⟨v, value, read⟩ := Option.bind_eq_some_iff.mp read
    obtain ⟨values, found, read⟩ := Option.bind_eq_some_iff.mp read
    cases read
    exact ⟨wellFormed_of_json? value, wellFormed_of_jsonMembers? found⟩

end

/-- Every value that is read from a text is well-formed. -/
theorem wellFormed_of_parse? {text : String} {v : Json} (read : parse? text = some v) :
    v.WellFormed := by
  obtain ⟨tree, -, read⟩ := Option.bind_eq_some_iff.mp read
  obtain ⟨-, value⟩ := Option.ite_none_right_eq_some.mp read
  exact wellFormed_of_json? value

end Pushdown.Json
