import RecordRules.Proofs.Printing
import RecordRules.Proofs.ReservedNames
import RecordRules.Proofs.WellFormed
import RecordRules.Rulebook.Build

set_option autoImplicit false

namespace RecordRules

open Text

variable {n : Nat}

theorem admits_name_iff (name : String) :
    Catalog.admitsName name = true ↔ Keyword.ofTag? name = none ∧ name.toList ≠ [] ∧ '|' ∉ name.toList ∧
      ',' ∉ name.toList ∧ '=' ∉ name.toList := by
  simp only [Catalog.admitsName, isReserved, Bool.and_eq_true, Bool.not_eq_true', List.any_eq_false,
    Bool.or_eq_true, decide_eq_true_eq, not_or, Option.isSome_eq_false_iff, Option.isNone_iff_eq_none]
  constructor
  · rintro ⟨⟨free, filled⟩, outside⟩
    exact ⟨free, by simpa using filled, fun member => (outside _ member).1.1 rfl,
      fun member => (outside _ member).1.2 rfl, fun member => (outside _ member).2 rfl⟩
  · rintro ⟨free, filled, noBar, noComma, noEquals⟩
    refine ⟨⟨free, by simpa using filled⟩, fun c member => ⟨⟨?_, ?_⟩, ?_⟩⟩
    · exact fun same => noBar (same ▸ member)
    · exact fun same => noComma (same ▸ member)
    · exact fun same => noEquals (same ▸ member)

namespace Grammar

theorem keyword_no_leaf (word : Keyword) (name : String) :
    readKeyword word none ≠ .ok (.clause (.leaf name none)) := by
  cases word <;> exact fun read => by cases read

theorem read_bare (segment : List Char) (someChar : segment ≠ []) (noEquals : '=' ∉ segment)
    (trimmed : trim segment = segment) :
    readRule segment =
      match Keyword.ofTag? (String.ofList segment) with
      | some word => readKeyword word none
      | none => .ok (.clause (.leaf (String.ofList segment) none)) := by
  simp only [readRule, nameAndParam, cut_none '=' segment noEquals, trimmed]
  rw [if_neg (by simpa using someChar)]
  rfl

theorem read_trimmed (expand : Expansion) (text : List Char) (noComma : ',' ∉ text) :
    readRules expand (trim text) = readRules expand text := by
  have noCommaTrimmed : ',' ∉ trim text := fun member => noComma ((mem_trim text ',' (by decide)).mp member)
  rw [readRules, readRules, segments_whole text noComma, segments_whole _ noCommaTrimmed, trim_trim]

theorem builtin_group {name body : String} (known : Aliases.builtin.find? name = some body) :
    ∃ branches, (segments body.toList).foldlM addPart [] = .ok [.anyOf branches] := by
  have listed : body = "hexcolor|rgb|rgba|hsl|hsla" := by
    simp only [Aliases.builtin, Dictionary.find?, List.find?_singleton] at known
    split at known
    · exact (Option.some.inj known).symm
    · cases known
  subst listed
  exact ⟨_, rfl⟩

theorem parse_name (name : String) (accepted : Catalog.admitsName name = true)
    (someChar : trim name.toList ≠ []) :
    let trimmed := String.ofList (trim name.toList)
    parse .empty name =
      match Aliases.builtin.find? trimmed with
      | some body => ((segments body.toList).foldlM addPart []).map List.reverse
      | none =>
          match Keyword.ofTag? trimmed with
          | some word => (readKeyword word none).map ([·])
          | none => .ok [.clause (.leaf trimmed none)] := by
  intro trimmed
  obtain ⟨_, _, noBar, noComma, noEquals⟩ := (admits_name_iff name).mp accepted
  have inside (c : Char) (solid : isBlank c = false) (outside : c ∉ name.toList) : c ∉ trim name.toList :=
    fun member => outside ((mem_trim name.toList c solid).mp member)
  have written : IsSegment (trim name.toList) := ⟨someChar, trim_trim _, inside ',' (by decide) noComma⟩
  have expansion : aliasExpansion .empty (trim name.toList) =
      (Aliases.builtin.find? trimmed).map String.toList := rfl
  rw [parse, ← read_trimmed _ _ noComma, read_alone _ _ written, expansion,
    read_single _ _ (inside '|' (by decide) noBar),
    read_bare _ someChar (inside '=' (by decide) noEquals) (trim_trim _)]
  cases Aliases.builtin.find? trimmed with
  | some body => rfl
  | none =>
      simp only [trimmed, Option.map_none]
      cases Keyword.ofTag? (String.ofList (trim name.toList)) with
      | none => rfl
      | some word =>
          dsimp only
          cases readKeyword word none <;> rfl

theorem parse_name_iff (name : String) (accepted : Catalog.admitsName name = true) :
    parse .empty name = .ok [.clause (.leaf name none)] ↔
      trim name.toList = name.toList ∧ Aliases.builtin.find? name = none := by
  obtain ⟨free, filled, _, noComma, _⟩ := (admits_name_iff name).mp accepted
  by_cases someChar : trim name.toList = []
  · rw [parse, ← read_trimmed _ _ noComma, someChar]
    constructor
    · exact fun read => by cases read
    · exact fun whole => absurd whole.1.symm filled
  rw [parse_name name accepted someChar]
  constructor
  · intro read
    cases known : Aliases.builtin.find? (String.ofList (trim name.toList)) with
    | some body =>
        obtain ⟨branches, group⟩ := builtin_group known
        simp only [known, group] at read
        cases read
    | none =>
        cases reserved : Keyword.ofTag? (String.ofList (trim name.toList)) with
        | some word =>
            simp only [known, reserved] at read
            obtain ⟨rule, keyword, same⟩ := ok_of_map read
            exact absurd (List.singleton_inj.mp same ▸ keyword) (keyword_no_leaf word name)
        | none =>
            simp only [known, reserved] at read
            have same : String.ofList (trim name.toList) = name := by simpa using read
            exact ⟨by rw [← String.toList_ofList (l := trim name.toList), same], same ▸ known⟩
  · rintro ⟨trimmed, unknown⟩
    simp only [trimmed, String.ofList_toList, unknown, free]

end Grammar

def Rule.clauses : Rule → List Clause
  | skip | omitEmpty | skipUnless _ => []
  | clause body => [body]
  | anyOf branches => branches

theorem leaf_trimmed {aliases : Aliases} {text name : String} {param : Option String} {rules : List Rule}
    (read : Grammar.parse aliases text = .ok rules) {rule : Rule} (member : rule ∈ rules)
    (there : .leaf name param ∈ rule.clauses) : trim name.toList = name.toList := by
  have formed : (Clause.leaf name param).IsWellFormed := by
    have whole := (Grammar.read_rules_formed read rule member).wellFormed
    cases rule with
    | skip => cases there
    | omitEmpty => cases there
    | skipUnless pairs => cases there
    | clause body => exact List.mem_singleton.mp there ▸ whole
    | anyOf branches => exact whole.2 _ there
  exact (leaf_name name formed).trimmed

namespace Catalog

variable (catalog : Catalog n) (name : String)

theorem register_accepts (factory : CheckFactory n) :
    (catalog.register name factory).2 = admitsName name ∧
      ((catalog.register name factory).2 = false → (catalog.register name factory).1 = catalog) := by
  rw [register]
  split
  case isTrue accepted => exact ⟨accepted.symm, fun refused => by cases refused⟩
  case isFalse refused => exact ⟨(Bool.eq_false_iff.mpr refused).symm, fun _ => rfl⟩

theorem register_find (factory : CheckFactory n) (other : String) :
    (catalog.register name factory).1.find? other =
      if name = other ∧ admitsName name = true then some factory else catalog.find? other := by
  rw [register]
  by_cases accepted : admitsName name = true
  · rw [if_pos accepted, Dictionary.find_insert]
    simp [accepted]
  · rw [if_neg accepted, if_neg fun both => accepted both.2]

end Catalog

def Edit.registered? (name : String) : Edit n → Option (CheckFactory n)
  | .addFactory other factory => if other = name ∧ Catalog.admitsName other = true then some factory else none
  | .addCheck other check =>
      if other = name ∧ Catalog.admitsName other = true then some (Check.fixed other check) else none
  | _ => none

namespace Rulebook

theorem edit_registered (book : Rulebook n) (edit : Edit n) (name : String) :
    (book.edit edit).catalog.find? name = (edit.registered? name).or (book.catalog.find? name) := by
  cases edit with
  | addFactory other factory =>
      rw [Rulebook.edit, withFactory, Catalog.register_find, Edit.registered?]
      split <;> rfl
  | addCheck other check =>
      rw [Rulebook.edit, withCheck, Catalog.registerCheck, Catalog.register_find, Edit.registered?]
      split <;> rfl
  | addAlias other body =>
      rw [Rulebook.edit, withAlias]
      split <;> rfl
  | addSettings settings => rfl
  | setRecursion recurse => rfl

theorem registered_accepted {edits : List (Edit n)} {name : String} {factory : CheckFactory n}
    (registered : edits.reverse.findSome? (Edit.registered? name) = some factory) :
    Catalog.admitsName name = true := by
  obtain ⟨edit, _, given⟩ := List.exists_of_findSome?_eq_some registered
  cases edit with
  | addFactory other own | addCheck other own =>
      rw [Edit.registered?] at given
      split at given
      case isTrue accepted => exact accepted.1 ▸ accepted.2
      case isFalse => cases given
  | addAlias | addSettings | setRecursion => cases given

theorem field_stages_single {book : Rulebook n} {name text : String}
    (read : book.parse text = .ok [.clause (.leaf name none)]) (S : Schema n) (id : Fin n) (field : FieldDef n)
    (index : Nat) (rules : field.rules = text) :
    book.fieldStages? S id field index =
      match book.catalog.build name none with
      | .ok check => .ok (some [.test (.leaf ⟨name, none, check⟩)])
      | .error cause => .error ⟨S.nameOf id, field.name, cause⟩ := by
  have stage (anchor : FieldPath n) : book.stage S anchor (.clause (.leaf name none)) =
      (book.catalog.build name none).map fun check => .test (.leaf ⟨name, none, check⟩) := by
    rw [Rulebook.stage, Constraint.ofClause, Constraint.ofLeaf]
    cases book.catalog.build name none <;> rfl
  rw [fieldStages?, rules, stages?, read]
  cases made : book.catalog.build name none with
  | error cause =>
      simp only [bind, Except.bind]
      rw [if_neg (by simp), List.mapM_cons, stage, made]
      rfl
  | ok check =>
      simp only [bind, Except.bind]
      rw [if_neg (by simp), List.mapM_cons, stage, made]
      rfl

theorem field_stages_leaf {book : Rulebook n} {name : String} {factory : CheckFactory n}
    (found : book.catalog.find? name = some factory) (read : book.parse name = .ok [.clause (.leaf name none)])
    (S : Schema n) (id : Fin n) (field : FieldDef n) (index : Nat) (rules : field.rules = name) :
    book.fieldStages? S id field index =
      match factory none with
      | .ok check => .ok (some [.test (.leaf ⟨name, none, check⟩)])
      | .error cause => .error ⟨S.nameOf id, field.name, cause⟩ := by
  rw [field_stages_single read S id field index rules, Catalog.build, found]

-- The grammar trims names and looks up aliases before leaves. So a catalog accepts names that are not
-- read as leaves: those with blank ends and, written alone, those of standard aliases.
theorem registrations_reached (book : Rulebook n) (edits : List (Edit n)) :
    let later := edits.foldl edit book
    (∀ (catalog : Catalog n) name,
      (∀ factory, (catalog.register name factory).2 = Catalog.admitsName name ∧
        ((catalog.register name factory).2 = false → (catalog.register name factory).1 = catalog)) ∧
      ∀ check, (catalog.registerCheck name check).2 = Catalog.admitsName name ∧
        ((catalog.registerCheck name check).2 = false → (catalog.registerCheck name check).1 = catalog)) ∧
    ∀ name factory, edits.reverse.findSome? (Edit.registered? name) = some factory →
      later.catalog.find? name = some factory ∧
      (later.settings.aliases = .empty →
        (later.parse name = .ok [.clause (.leaf name none)] ↔
          trim name.toList = name.toList ∧ Aliases.builtin.find? name = none)) ∧
      (later.parse name = .ok [.clause (.leaf name none)] →
        ∀ (S : Schema n) id field index, field.rules = name →
          later.fieldStages? S id field index =
            match factory none with
            | .ok check => .ok (some [.test (.leaf ⟨name, none, check⟩)])
            | .error cause => .error ⟨S.nameOf id, field.name, cause⟩) ∧
      (trim name.toList ≠ name.toList → ∀ aliases text rules, Grammar.parse aliases text = .ok rules →
        ∀ param, .leaf name param ∉ rules.flatMap Rule.clauses) := by
  intro later
  refine ⟨fun catalog name => ⟨catalog.register_accepts name, fun check => catalog.register_accepts name _⟩,
    fun name factory registered => ?_⟩
  have found : later.catalog.find? name = some factory := by
    have last := edits_last (fun book => book.catalog.find? name) (Edit.registered? name)
      (fun book edit => edit_registered book edit name) edits book
    rw [last, registered]
    rfl
  refine ⟨found, fun noAlias => ?_, field_stages_leaf found,
    fun untrimmed aliases text rules read param there => ?_⟩
  · rw [parse, noAlias]
    exact Grammar.parse_name_iff name (registered_accepted registered)
  · obtain ⟨rule, member, within⟩ := List.mem_flatMap.mp there
    exact untrimmed (leaf_trimmed read member within)

theorem even_reached :
    let edits : List (Edit 1) := [.addCheck "even" Check.isDefault, .addCheck " even" Check.boolean,
      .addCheck "a|b" Check.boolean, .addCheck "even" Check.required, .setRecursion false]
    let later := edits.foldl edit .standard
    let field : FieldDef 1 := ⟨"a", .uint, "even", true⟩
    edits.reverse.findSome? (Edit.registered? "even") = some (Check.fixed "even" Check.required) ∧
    edits.reverse.findSome? (Edit.registered? " even") = some (Check.fixed " even" Check.boolean) ∧
    later.settings.aliases = .empty ∧ later.parse "even" = .ok [.clause (.leaf "even" none)] ∧
    (∀ S id index, later.fieldStages? S id field index =
      .ok (some [.test (.leaf ⟨"even", none, Check.required⟩)])) ∧
    ∀ aliases text rules, Grammar.parse aliases text = .ok rules →
      ∀ param, .leaf " even" param ∉ rules.flatMap Rule.clauses := by
  intro edits later field
  have even : edits.reverse.findSome? (Edit.registered? "even") = some (Check.fixed "even" Check.required) := rfl
  have spaced : edits.reverse.findSome? (Edit.registered? " even") = some (Check.fixed " even" Check.boolean) :=
    rfl
  have noAlias : later.settings.aliases = .empty := rfl
  obtain ⟨_, reached⟩ := registrations_reached .standard edits
  obtain ⟨_, reads, stages, _⟩ := reached "even" _ even
  have read := (reads noAlias).mpr ⟨by decide, by decide⟩
  exact ⟨even, spaced, noAlias, read, fun S id index => stages read S id field index rfl,
    (reached " even" _ spaced).2.2.2 (by decide)⟩

theorem spaced_name_unreached :
    let later := edit (n := 1) .standard (.addCheck " even " Check.required)
    let field : FieldDef 1 := ⟨"a", .uint, " even ", true⟩
    let S : Schema 1 := fun _ => ⟨"T", [field], []⟩
    ((standard (n := 1)).catalog.registerCheck " even " Check.required).2 = true ∧
    later.settings.aliases = .empty ∧ later.parse " even " = .ok [.clause (.leaf "even" none)] ∧
    later.fieldStages? S 0 field 0 = .error ⟨"T", "a", .unknownRule "even"⟩ ∧
    ((standard (n := 1)).catalog.registerCheck "iscolor" Check.required).2 = true ∧
    later.parse "iscolor" = .ok [.anyOf [.leaf "hexcolor" none, .leaf "rgb" none, .leaf "rgba" none,
      .leaf "hsl" none, .leaf "hsla" none]] := by
  intro later field S
  have read : later.parse " even " = .ok [.clause (.leaf "even" none)] := rfl
  have unknown : later.catalog.build "even" none = .error (.unknownRule "even") := rfl
  refine ⟨by decide, rfl, read, ?_, by decide, rfl⟩
  rw [field_stages_single read S 0 field 0 rfl, unknown]
  rfl

end Rulebook

end RecordRules
