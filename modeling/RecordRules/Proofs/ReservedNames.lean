import RecordRules.Proofs.Rows
import RecordRules.Rulebook.Edit
import RecordRules.Rulebook.Plan

set_option autoImplicit false

namespace RecordRules

def Edit.given? {n : Nat} (name : String) : Edit n → Option String
  | .addSettings settings => (Dictionary.ofList settings.aliases.entries).find? name
  | _ => none

namespace Rulebook

variable {n : Nat}

theorem edit_reserved (book : Rulebook n) (edit : Edit n) (name : String) (reserved : isReserved name = true) :
    (book.edit edit).settings.aliases.find? name = (edit.given? name).or (book.settings.aliases.find? name) := by
  cases edit with
  | addAlias other body =>
      rw [Rulebook.edit, withAlias]
      split
      case isTrue => rfl
      case isFalse free =>
        have apart : other ≠ name := fun same => free (same ▸ reserved)
        exact (Dictionary.find_insert _ other name body).trans (if_neg apart)
  | addSettings settings => exact Dictionary.find_insert_all _ _ name
  | setRecursion recurse => rfl
  | addFactory other factory => rfl
  | addCheck other check => rfl

theorem edits_last {α : Type} (view : Rulebook n → Option α) (given : Edit n → Option α)
    (step : ∀ book edit, view (book.edit edit) = (given edit).or (view book)) (edits : List (Edit n))
    (book : Rulebook n) :
    view (edits.foldl edit book) = (edits.reverse.findSome? given).or (view book) := by
  induction edits generalizing book with
  | nil => rfl
  | cons first rest ih =>
      rw [List.foldl_cons, ih (book.edit first), step, List.reverse_cons, List.findSome?_append,
        List.findSome?_singleton, Option.or_assoc]

theorem edits_reserved (edits : List (Edit n)) (book : Rulebook n) (name : String)
    (reserved : isReserved name = true) :
    (edits.foldl edit book).settings.aliases.find? name =
      (edits.reverse.findSome? (Edit.given? name)).or (book.settings.aliases.find? name) :=
  edits_last (fun book => book.settings.aliases.find? name) (Edit.given? name)
    (fun book edit => edit_reserved book edit name reserved) edits book

theorem edited_reserved (edits : List (Edit n)) (name : String) (reserved : isReserved name = true) :
    (edited edits).settings.aliases.find? name = edits.reverse.findSome? (Edit.given? name) := by
  rw [edited, edits_reserved edits standard name reserved]
  exact Option.or_none

theorem parse_bare (book : Rulebook n) (word : Keyword) (gate : Rule)
    (read : Grammar.readKeyword word none = .ok gate) (notBuiltin : Aliases.builtin.find? word.tag = none) :
    book.parse word.tag =
      match book.settings.aliases.find? word.tag with
      | none => .ok [gate]
      | some body => ((Grammar.segments body.toList).foldlM Grammar.addPart []).map List.reverse := by
  have branch := (tag_word word).branch
  rw [parse, Grammar.parse, Grammar.read_alone _ _ branch.toIsSegment, Grammar.aliasExpansion,
    String.ofList_toList, Aliases.body?, notBuiltin, Option.or_none, Grammar.read_single _ _ branch.noBar,
    Grammar.read_word, read]
  cases book.settings.aliases.find? word.tag <;> rfl

-- Adding an alias leaves reserved names out, a table of settings does not. What a reserved name stands
-- for is what the last settings that list it say.
theorem reserved_by_settings (edits : List (Edit n)) :
    ((∀ name, isReserved name = true → (edited edits).settings.aliases.find? name = none) ↔
      ∀ edit ∈ edits, ∀ name, isReserved name = true → edit.given? name = none) ∧
    (∀ name, isReserved name = true →
      (edited edits).settings.aliases.find? name = edits.reverse.findSome? (Edit.given? name)) ∧
    ∀ gate : Rule, gate = .skip ∨ gate = .omitEmpty →
      (edited edits).parse gate.tag =
        match edits.reverse.findSome? (Edit.given? gate.tag) with
        | none => .ok [gate]
        | some body => ((Grammar.segments body.toList).foldlM Grammar.addPart []).map List.reverse := by
  have found := edited_reserved edits
  refine ⟨?_, found, ?_⟩
  · constructor
    · intro free edit member name reserved
      have nothing := (found name reserved).symm.trans (free name reserved)
      exact List.findSome?_eq_none_iff.mp nothing edit (List.mem_reverse.mpr member)
    · intro unlisted name reserved
      rw [found name reserved, List.findSome?_eq_none_iff]
      exact fun edit member => unlisted edit (List.mem_reverse.mp member) name reserved
  rintro gate (rfl | rfl)
  · rw [← found Rule.skip.tag (by decide)]
    exact parse_bare (edited edits) .skip .skip rfl (by decide)
  · rw [← found Rule.omitEmpty.tag (by decide)]
    exact parse_bare (edited edits) .omitEmpty .omitEmpty rfl (by decide)

theorem omit_empty_renamed :
    let edits : List (Edit 0) := [
      .addAlias "-" "required",
      .addSettings ⟨.ofList [("omitempty", "required,min=3"), ("tint", "hexcolor|rgb")], false⟩,
      .addCheck "even" Check.required,
      .addAlias "omitempty" "email",
      .setRecursion true]
    isReserved "omitempty" = true ∧
    (edited edits).settings.aliases.find? "omitempty" = some "required,min=3" ∧
    (edited edits).parse "-" = .ok [.skip] ∧
    (edited edits).parse "omitempty" =
      .ok [.clause (.leaf "required" none), .clause (.leaf "min" (some "3"))] := by
  intro edits
  have named := reserved_by_settings edits
  refine ⟨by decide, ?_, ?_, ?_⟩
  · exact named.2.1 "omitempty" (by decide)
  · exact named.2.2 .skip (.inl rfl)
  · exact named.2.2 .omitEmpty (.inr rfl)

theorem skip_renamed :
    let edits : List (Edit 0) := [.addSettings ⟨.ofList [("-", "required")], true⟩]
    isReserved "-" = true ∧ (edited edits).settings.aliases.find? "-" = some "required" ∧
    (edited edits).parse "-" = .ok [.clause (.leaf "required" none)] ∧
    (edited edits).parse "-" ≠ .ok [.skip] := by
  intro edits
  have read : (edited edits).parse "-" = .ok [.clause (.leaf "required" none)] := rfl
  refine ⟨by decide, rfl, read, fun skipped => ?_⟩
  cases read.symm.trans skipped

end Rulebook

end RecordRules
