import RecordRules.Check.Catalog
import RecordRules.Proofs.Languages

set_option autoImplicit false

namespace RecordRules

namespace Dictionary

variable {α : Type}

theorem find_absent {entries : List (String × α)} {name : String} (absent : name ∉ entries.map (·.1)) :
    (ofList entries).find? name = none := by
  induction entries with
  | nil => rfl
  | cons entry rest ih =>
      obtain ⟨different, later⟩ := not_or.mp (fun there => absent (List.mem_cons.mpr there))
      change ((empty.insert entry.1 entry.2).insertAll rest).find? name = none
      rw [find_insert_all, ih later, find_insert, if_neg (Ne.symm different)]
      rfl

theorem find_entry {entries : List (String × α)} (distinct : (entries.map (·.1)).Nodup) {name : String} {value : α}
    (member : (name, value) ∈ entries) : (ofList entries).find? name = some value := by
  induction entries with
  | nil => cases member
  | cons entry rest ih =>
      obtain ⟨outside, distinct⟩ := List.nodup_cons.mp distinct
      change ((empty.insert entry.1 entry.2).insertAll rest).find? name = some value
      rw [find_insert_all]
      rcases List.mem_cons.mp member with rfl | later
      · rw [find_absent outside, find_insert, if_pos rfl, Option.none_or]
      · rw [ih distinct later, Option.some_or]

end Dictionary

namespace Format

open Text Pattern

variable {n : Nat}

def accepts (name : String) (value : Value n) : Bool :=
  match Catalog.standard.build name none with
  | .ok check => (check value).isNone
  | .error _ => false

theorem builtin_found {name : String} {factory : CheckFactory n} (member : (name, factory) ∈ Catalog.builtins) :
    Catalog.standard.find? name = some factory := by
  have distinct : ((Catalog.builtins (n := 0)).map (·.1)).Nodup := by decide
  -- The names are the same for all schemas, and closed for one of no types.
  have same : (Catalog.builtins (n := n)).map (·.1) = (Catalog.builtins (n := 0)).map (·.1) := rfl
  exact Dictionary.find_entry (same ▸ distinct) member

theorem accepts_text {name : String} {test : String → Bool} {violation : Violation}
    (builtin : (name, Check.fixed name (Check.ofText test violation)) ∈ Catalog.builtins (n := n)) (text : String) :
    accepts name (.str text : Value n) = test text := by
  simp only [accepts, Catalog.build, builtin_found builtin, Check.fixed, Check.ofText]
  cases test text <;> rfl

theorem accepts_format {name expected : String} {pattern : Pattern}
    (builtin : Catalog.format name pattern expected ∈ Catalog.builtins (n := n)) (text : String) :
    accepts name (.str text : Value n) = pattern.isMatch text :=
  accepts_text builtin text

theorem contains_compl (a : Charset) (c : Char) : (Charset.compl a).contains c = !a.contains c := rfl

theorem contains_union (a b : Charset) (c : Char) :
    (Charset.union a b).contains c = (a.contains c || b.contains c) := rfl

theorem contains_of_list (sets : List Charset) (c : Char) :
    (Charset.ofList sets).contains c = sets.any (·.contains c) := by
  induction sets with
  | nil =>
      simp only [Charset.contains, Charset.ofList, List.foldr_nil, Charset.empty, Charset.containsPoint, List.any_nil,
        Bool.and_eq_false_iff, decide_eq_false_iff_not]
      omega
  | cons first rest ih =>
      rw [List.any_cons, ← ih]
      rfl

theorem contains_one_of (text : String) (c : Char) : (Charset.oneOf text).contains c = true ↔ c ∈ text.toList := by
  simp [Charset.oneOf, contains_of_list, contains_single]

theorem contains_space (c : Char) : Charset.space.contains c = isBlank c := by
  rw [Charset.space, contains_of_list, Bool.eq_iff_iff]
  simp only [List.any_cons, List.any_nil, Charset.contains, Charset.containsPoint, isBlank, Bool.or_eq_true,
    Bool.and_eq_true, decide_eq_true_eq, Bool.or_false]
  omega

-- What an address is made of behind the scheme. The second character may be any but the end of a line; all around
-- it blanks are refused.
def IsPlace (text : List Char) : Prop :=
  ∃ first second rest, text = first :: second :: rest ∧ isBlank first = false ∧ first ∉ "/$.?#".toList ∧
    second ≠ '\n' ∧ ∀ c ∈ rest, isBlank c = false

theorem place_iff (text : List Char) :
    text ∈ (sequence [char (.compl (.union .space (.oneOf "/$.?#"))), char inLine,
      many (char (.compl .space))]).language ↔ IsPlace text := by
  have heads (c : Char) : (Charset.compl (.union .space (.oneOf "/$.?#"))).contains c = true ↔
      isBlank c = false ∧ c ∉ "/$.?#".toList := by
    rw [contains_compl, contains_union, contains_space, Bool.not_eq_true', Bool.or_eq_false_iff,
      ← Bool.not_eq_true (Charset.contains _ c), contains_one_of]
  have inside (c : Char) : inLine.contains c = true ↔ c ≠ '\n' := by
    rw [inLine, contains_compl, Bool.not_eq_true', ← Bool.not_eq_true, contains_single]
  have solid (c : Char) : (Charset.compl .space).contains c = true ↔ isBlank c = false := by
    rw [contains_compl, contains_space, Bool.not_eq_true']
  simp only [mem_step, mem_alone, mem_many, heads, inside, solid]
  constructor
  · rintro ⟨first, ⟨noBlank, unmarked⟩, _, ⟨second, onLine, rest, blankless, rfl⟩, rfl⟩
    exact ⟨first, second, rest, rfl, noBlank, unmarked, onLine, blankless⟩
  · rintro ⟨first, second, rest, rfl, noBlank, unmarked, onLine, blankless⟩
    exact ⟨first, ⟨noBlank, unmarked⟩, _, ⟨second, onLine, rest, blankless, rfl⟩, rfl⟩

theorem url_iff (text : String) : accepts "url" (.str text : Value n) = true ↔
    ∃ scheme ∈ ["http://", "https://"], ∃ place, IsPlace place ∧ text.toList = scheme.toList ++ place := by
  have builtin : Catalog.format "url" Format.url "url" ∈ Catalog.builtins (n := n) := by simp [Catalog.builtins]
  rw [accepts_format builtin, Format.url, whole_iff rfl]
  simp only [mem_lead, mem_maybe, place_iff]
  constructor
  · rintro ⟨_, ⟨place, own, rfl⟩ | ⟨_, ⟨place, own, rfl⟩, rfl⟩, spelled⟩
    · exact ⟨"http://", by simp, place, own, spelled⟩
    · exact ⟨"https://", by simp, place, own, spelled⟩
  · rintro ⟨scheme, known, place, own, spelled⟩
    simp only [List.mem_cons, List.not_mem_nil, or_false] at known
    rcases known with rfl | rfl
    · exact ⟨_, .inl ⟨place, own, rfl⟩, spelled⟩
    · exact ⟨_, .inr ⟨_, ⟨place, own, rfl⟩, rfl⟩, spelled⟩

theorem url_with_blank : accepts "url" (.str "http://a b" : Value 0) = true ∧
    ' ' ∈ "http://a b".toList ∧ isBlank ' ' = true := by
  decide +kernel

end Format

end RecordRules
