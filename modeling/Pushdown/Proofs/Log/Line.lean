import Mathlib.Data.List.Nodup
import Pushdown.Log.Record
import Pushdown.Proofs.Json.Members
import Pushdown.Proofs.Json.Reading

/-!
# Lines of a log carry their records

A record is written as one line, whatever texts it has: each line break in them is escaped. The line
is JSON text, and what is read from it is the object with the event, the severity and the fields of
the record, every key and every text as it was given. The fields are written in the order of their
keys, so records that differ in the order of fields with different keys have the same line.
-/

namespace Pushdown

namespace LogRecord

open Syntax (Reads ReadsMembers ReadsString Spells AllBlank)

variable (record : LogRecord)

/-! ## Characters -/

theorem spells_escapeChar (c : Char) : Spells (escapeChar c) c := by
  unfold escapeChar
  split
  · next eq => subst eq; exact .letter (by decide) rfl
  split
  · next eq => subst eq; exact .letter (by decide) rfl
  split
  · next eq => subst eq; exact .letter (by decide) rfl
  split
  · next eq => subst eq; exact .letter (by decide) rfl
  split
  · next eq => subst eq; exact .letter (by decide) rfl
  split
  · next control =>
    -- All control characters are below the surrogates.
    rw [isControl, Bool.or_eq_true, Bool.and_eq_true, decide_eq_true_eq, decide_eq_true_eq,
      decide_eq_true_eq] at control
    exact .unit (by omega)
  · next notQuote notEscape _ _ _ printable =>
    rw [isControl, Bool.or_eq_true, not_or, decide_eq_true_eq] at printable
    exact .plain notQuote notEscape printable.1

theorem readsString_quoted (text : String) : ReadsString (quoted text) text :=
  Syntax.readsString_escaped spells_escapeChar text

theorem not_mem_hexDigits4 (n : Nat) : '\n' ∉ hexDigits4 n := by
  have digit (m : Nat) : Nat.digitChar (m % 16) ≠ '\n' := by
    have all : ∀ d < 16, Nat.digitChar d ≠ '\n' := by decide
    exact all (m % 16) (Nat.mod_lt m (by decide))
  intro mem
  obtain ⟨d, known, eq⟩ := List.mem_map.mp mem
  simp only [List.mem_cons, List.not_mem_nil, or_false] at known
  rcases known with rfl | rfl | rfl | rfl <;> exact digit _ eq

theorem not_mem_escapeChar (c : Char) : '\n' ∉ escapeChar c := by
  unfold escapeChar
  split
  · decide
  split
  · decide
  split
  · decide
  split
  · decide
  split
  · decide
  split
  · intro mem
    rw [List.mem_cons, List.mem_cons] at mem
    rcases mem with escape | unit | digit
    · cases escape
    · cases unit
    · exact not_mem_hexDigits4 _ digit
  · next other _ _ _ =>
    intro mem
    exact other (List.mem_singleton.mp mem).symm

/-! ## One line -/

theorem not_mem_quoted (text : String) : '\n' ∉ quoted text := by
  intro mem
  obtain quote | inside := List.mem_cons.mp mem
  · cases quote
  obtain inside | quote := List.mem_append.mp inside
  · obtain ⟨c, -, found⟩ := List.mem_flatMap.mp inside
    exact not_mem_escapeChar c found
  · cases List.mem_singleton.mp quote

theorem not_mem_fieldChars (field : String × String) : '\n' ∉ fieldChars field := by
  intro mem
  obtain key | value := List.mem_append.mp mem
  · obtain comma | key := List.mem_cons.mp key
    · cases comma
    · exact not_mem_quoted field.1 key
  · obtain colon | value := List.mem_cons.mp value
    · cases colon
    · exact not_mem_quoted field.2 value

/-- The severity and the fields as they are written, behind the event. -/
def laterFields : List (String × String) :=
  ("severity", record.severity.name) :: record.sortedFields

theorem chars_eq : record.chars =
    '\x7b' :: (quoted "event" ++ ':' ::
      (quoted record.event ++ (record.laterFields.flatMap fieldChars ++ ['\x7d']))) := by
  simp only [chars, laterFields, List.flatMap_cons, List.cons_append, List.append_assoc]

/-- No text of a record breaks its line. -/
theorem not_mem_chars : '\n' ∉ record.chars := by
  rw [chars_eq]
  simp only [List.mem_append, List.mem_cons, List.mem_flatMap, List.not_mem_nil, or_false]
  rintro (brace | key | colon | event | ⟨field, -, inside⟩ | brace)
  · cases brace
  · exact not_mem_quoted _ key
  · cases colon
  · exact not_mem_quoted _ event
  · exact not_mem_fieldChars field inside
  · cases brace

/-! ## One object -/

def member (field : String × String) : String × Json := (field.1, .string field.2)

/-- The members of the object of a record: the event, the severity and the fields. -/
def members : List (String × Json) :=
  ("event", .string record.event) :: ("severity", .string record.severity.name) ::
    record.fields.map member

/-- The members in the order of the line. -/
def writtenMembers : List (String × Json) :=
  ("event", .string record.event) :: record.laterFields.map member

theorem sortedFields_perm : record.sortedFields.Perm record.fields :=
  List.mergeSort_perm record.fields _

theorem writtenMembers_perm : record.writtenMembers.Perm record.members :=
  ((record.sortedFields_perm.map member).cons _).cons _

/-- A key with its text, and behind it further fields, are the members of an object. -/
theorem readsMembers_fields (key text : String) (fields : List (String × String)) :
    ReadsMembers (quoted key ++ ':' :: (quoted text ++ (fields.flatMap fieldChars ++ ['\x7d'])))
      (Syntax.ofMembers ((key, .string text) :: fields.map member)) := by
  have value := (readsString_quoted text).reads
  induction fields generalizing key text with
  | nil =>
      rw [List.flatMap_nil, List.map_nil]
      exact value.lastMember (readsString_quoted key) Json.allBlank_nil
  | cons field fields ih =>
      have others := ih field.1 field.2 (readsString_quoted field.2).reads
      have read := others.cons (readsString_quoted key) value
      simp only [List.flatMap_cons, fieldChars, List.cons_append, List.append_assoc]
      exact read

/-- The line of a record is the text of an object with its members. -/
theorem syntax_line :
    Syntax.parse? record.line = some (.ofJson (.object record.writtenMembers)) := by
  have members := readsMembers_fields "event" record.event record.laterFields
  have blank : AllBlank ['\n'] := by
    intro c mem
    rw [List.mem_singleton.mp mem]
    rfl
  rw [line, chars_eq]
  exact members.reads.parse? blank

/-- Every member of a record is a text. -/
theorem exists_of_mem_writtenMembers {written : String × Json}
    (mem : written ∈ record.writtenMembers) : ∃ key text, written = (key, .string text) := by
  obtain rfl | later := List.mem_cons.mp mem
  · exact ⟨_, _, rfl⟩
  · obtain ⟨field, -, rfl⟩ := List.mem_map.mp later
    exact ⟨_, _, rfl⟩

theorem parse?_line : Json.parse? record.line = some (Json.ofMembers record.writtenMembers) := by
  have depth : (Syntax.ofJson (.object record.writtenMembers)).depth ≤ Syntax.maxDepth := by
    refine Nat.succ_le_succ (Syntax.depthMembers_ofMembers_le_iff.mpr fun written mem => ?_)
    obtain ⟨key, text, rfl⟩ := record.exists_of_mem_writtenMembers mem
    exact Nat.zero_le _
  have same := Syntax.jsonMembers?_ofMembers fun written mem => by
    obtain ⟨key, text, rfl⟩ := record.exists_of_mem_writtenMembers mem
    rfl
  rw [Json.parse?, syntax_line, Option.bind_eq_bind, Option.bind_some, if_pos depth,
    Syntax.ofJson, Syntax.json?, same, Option.map_some]

/-! ## The order of fields -/

theorem keys_members :
    Json.keys record.members = "event" :: "severity" :: record.fields.map Prod.fst := by
  simp only [Json.keys, members, member, List.map_cons, List.map_map, Function.comp_def]

/-- The keys of the object are distinct when those of the fields are, and none of these is one of
the two keys that every record has. -/
theorem nodup_keys (distinct : (record.fields.map Prod.fst).Nodup)
    (apart : ∀ field ∈ record.fields, field.1 ≠ "event" ∧ field.1 ≠ "severity") :
    (Json.keys record.members).Nodup := by
  rw [keys_members, List.nodup_cons, List.nodup_cons]
  refine ⟨?_, ?_, distinct⟩
  · rw [List.mem_cons, not_or]
    refine ⟨by decide, fun mem => ?_⟩
    obtain ⟨field, given, same⟩ := List.mem_map.mp mem
    exact (apart field given).1 same
  · intro mem
    obtain ⟨field, given, same⟩ := List.mem_map.mp mem
    exact (apart field given).2 same

theorem sortedFields_pairwise : record.sortedFields.Pairwise fun a b => a.1 ≤ b.1 := by
  have trans : ∀ a b c : String × String, decide (a.1 ≤ b.1) = true → decide (b.1 ≤ c.1) = true →
      decide (a.1 ≤ c.1) = true := by
    intro a b c first second
    exact decide_eq_true (String.le_trans (of_decide_eq_true first) (of_decide_eq_true second))
  have total : ∀ a b : String × String, (decide (a.1 ≤ b.1) || decide (b.1 ≤ a.1)) = true := by
    intro a b
    rw [Bool.or_eq_true, decide_eq_true_eq, decide_eq_true_eq]
    exact String.le_total a.1 b.1
  exact (List.pairwise_mergeSort trans total record.fields).imp of_decide_eq_true

/-- Fields with distinct keys are written in one order, in whatever order they are given. -/
theorem sortedFields_congr {fields : List (String × String)}
    (distinct : (record.fields.map Prod.fst).Nodup) (same : fields.Perm record.fields) :
    sortedFields { record with fields } = record.sortedFields := by
  have reordered := ((sortedFields_perm { record with fields }).trans same).trans
    record.sortedFields_perm.symm
  refine reordered.eq_of_pairwise ?_ (sortedFields_pairwise _) record.sortedFields_pairwise
  intro a b fromA fromB less greater
  have givenA := same.mem_iff.mp ((sortedFields_perm _).mem_iff.mp fromA)
  have givenB := record.sortedFields_perm.mem_iff.mp fromB
  exact List.inj_on_of_nodup_map distinct givenA givenB (String.le_antisymm less greater)

theorem line_congr {fields : List (String × String)}
    (distinct : (record.fields.map Prod.fst).Nodup) (same : fields.Perm record.fields) :
    line { record with fields } = record.line := by
  rw [line, line, chars, chars, record.sortedFields_congr distinct same]

/-- A record whose fields have distinct keys, all other than the two that every record has, is
written as one line that ends with its only line break. The line is read as the object whose members
are the event, the severity and the fields, each text as it was given, and it does not depend on the
order in which the fields were given. -/
theorem line_carries_record (distinct : (record.fields.map Prod.fst).Nodup)
    (apart : ∀ field ∈ record.fields, field.1 ≠ "event" ∧ field.1 ≠ "severity") :
    (record.line.toList.count '\n' = 1 ∧ record.line.toList.getLast? = some '\n') ∧
      (∃ members, Json.parse? record.line = some (.object members) ∧
        members.Perm record.members) ∧
      ∀ fields : List (String × String), fields.Perm record.fields →
        line { record with fields } = record.line := by
  refine ⟨?_, ?_, fun fields same => record.line_congr distinct same⟩
  · rw [line, String.toList_ofList, List.count_append, List.count_eq_zero.mpr record.not_mem_chars,
      List.getLast?_concat]
    exact ⟨rfl, rfl⟩
  · have keys : (Json.keys record.writtenMembers).Nodup :=
      (record.writtenMembers_perm.map Prod.fst).nodup_iff.mpr (record.nodup_keys distinct apart)
    obtain ⟨members, built, reordered⟩ := Json.ofMembers_perm keys
    exact ⟨members, by rw [parse?_line, built], reordered.trans record.writtenMembers_perm⟩

/-- A selector with a quote, a backslash and a line break, and a key with a control character beyond
ASCII, out of order. -/
theorem line_carries_selector :
    let record : LogRecord :=
      ⟨.trace, "SELECTOR_COMPILED", [("sql", "x = '\"\\\n'"), ("c\u0085", "\u007f𝄞"), ("", "")]⟩
    (record.line.toList.count '\n' = 1 ∧ record.line.toList.getLast? = some '\n') ∧
      (∃ members, Json.parse? record.line = some (.object members) ∧
        members.Perm record.members) ∧
      ∀ fields : List (String × String), fields.Perm record.fields →
        line { record with fields } = record.line :=
  line_carries_record _ (by decide) (by decide)

end LogRecord

end Pushdown
