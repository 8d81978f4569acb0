import RecordRules.Proofs.Concatenation
import RecordRules.Proofs.Decoding

set_option autoImplicit false

namespace RecordRules

open Text

structure IsUnbroken (text : String) : Prop where
  filled : text ≠ ""
  blankless : ∀ c ∈ text.toList, isBlank c = false

structure Pair.IsWellFormed (pair : Pair) : Prop where
  field : IsUnbroken pair.field
  noColon : ':' ∉ pair.field.toList
  literal : ∀ c ∈ pair.literal.toList, isBlank c = false

def Clause.IsWellFormed : Clause → Prop
  | leaf name _ => isLeafName name = true
  | relational _ target => IsUnbroken target
  | presence _ targets => targets ≠ [] ∧ ∀ target ∈ targets, IsUnbroken target
  | conditional _ pairs => pairs ≠ [] ∧ ∀ pair ∈ pairs, pair.IsWellFormed

-- That the branches of a group are neither gates nor groups again is said by their type.
def Rule.IsWellFormed : Rule → Prop
  | skip | omitEmpty => True
  | skipUnless pairs => pairs ≠ [] ∧ ∀ pair ∈ pairs, pair.IsWellFormed
  | clause body => body.IsWellFormed
  | anyOf branches => 2 ≤ branches.length ∧ ∀ branch ∈ branches, branch.IsWellFormed

def Pair.texts (pair : Pair) : List String := [pair.field, pair.literal]

def Clause.texts : Clause → List String
  | leaf _ param => param.toList
  | relational _ target => [target]
  | presence _ targets => targets
  | conditional _ pairs => pairs.flatMap Pair.texts

def Rule.texts : Rule → List String
  | skip | omitEmpty => []
  | skipUnless pairs => pairs.flatMap Pair.texts
  | clause body => body.texts
  | anyOf branches => branches.flatMap Clause.texts

def Rule.IsDecoded (rule : Rule) : Prop := ∀ text ∈ rule.texts, Escape.isPlain text.toList = true

namespace Grammar

theorem unbroken_of (text : List Char) (filled : text ≠ []) (blankless : ∀ c ∈ text, isBlank c = false) :
    IsUnbroken (String.ofList text) :=
  ⟨by simpa using filled, by rwa [String.toList_ofList]⟩

theorem read_pair_formed {rule : String} {text : List Char} {pair : Pair} (read : readPair rule text = .ok pair)
    (blankless : ∀ c ∈ text, isBlank c = false) :
    pair.IsWellFormed ∧ ∀ own ∈ pair.texts, own.toList <:+: text := by
  rw [readPair] at read
  split at read
  case h_2 => cases read
  case h_1 field literal cut =>
    obtain ⟨rfl, noColon⟩ := cut_some cut
    split at read
    case isTrue => cases read
    case isFalse filled =>
      obtain rfl := Except.ok.inj read
      obtain ⟨fieldBlankless, behind⟩ := List.forall_mem_append.mp blankless
      have literalBlankless := (List.forall_mem_cons.mp behind).2
      refine ⟨⟨unbroken_of field (by simpa using filled) fieldBlankless, by simpa using noColon,
        by rwa [String.toList_ofList]⟩, ?_⟩
      rw [Pair.texts, List.forall_mem_cons, List.forall_mem_singleton, String.toList_ofList, String.toList_ofList]
      exact ⟨(List.prefix_append field _).isInfix, field ++ [':'], [], by simp⟩

theorem read_pairs_formed {rule : String} {text : List Char} {pairs : List Pair}
    (read : readPairs rule text = .ok pairs) :
    (∀ pair ∈ pairs, pair.IsWellFormed) ∧ (∀ own ∈ pairs.flatMap Pair.texts, own.toList <:+: text) ∧
      pairs.length = (words text).length := by
  have pointwise := pointwise_of_mapM _ _ _ read
  have each (pair : Pair) (member : pair ∈ pairs) :
      pair.IsWellFormed ∧ ∀ own ∈ pair.texts, own.toList <:+: text := by
    obtain ⟨word, there, wordRead⟩ := pointwise_mem pointwise pair member
    obtain ⟨_, blankless, within⟩ := mem_words there
    obtain ⟨formed, parts⟩ := read_pair_formed wordRead blankless
    exact ⟨formed, fun own ownThere => (parts own ownThere).trans within⟩
  refine ⟨fun pair member => (each pair member).1, fun own member => ?_, pointwise.length_eq.symm⟩
  obtain ⟨pair, there, within⟩ := List.mem_flatMap.mp member
  exact (each pair there).2 own within

theorem read_targets_formed (text : List Char) :
    (∀ target ∈ readTargets text, IsUnbroken target ∧ target.toList <:+: text) ∧
      (readTargets text).length = (words text).length := by
  refine ⟨List.forall_mem_map.mpr fun word member => ?_, List.length_map _⟩
  obtain ⟨filled, blankless, within⟩ := mem_words member
  exact ⟨unbroken_of word filled blankless, by rwa [String.toList_ofList]⟩

theorem ne_nil_of_words {α : Type} {items : List α} {text : List Char} (same : items.length = (words text).length)
    (someSolid : ∃ c ∈ text, isBlank c = false) : items ≠ [] := by
  obtain ⟨c, member, solid⟩ := someSolid
  rw [← List.length_pos_iff, same, List.length_pos_iff]
  exact words_ne_nil member solid

structure IsParam (param : List Char) : Prop where
  plain : Escape.isPlain param = true
  solid : param ≠ [] → ∃ c ∈ param, isBlank c = false

theorem decode_param (text : List Char) : IsParam (Escape.decode (trim text)) where
  plain := Escape.decode_plain _
  solid := fun someChar => by
    refine Escape.decode_some_solid _ ?_
    cases trimmed : trim text with
    | nil =>
        rw [trimmed] at someChar
        exact absurd rfl someChar
    | cons first rest =>
        have ends := (trim_eq_self (trim text)).mp (trim_trim text)
        exact ⟨first, List.mem_cons_self, ends.1 first (by rw [trimmed]; rfl)⟩

theorem require_ok {rule : String} {param : Option (List Char)} {text : List Char}
    (required : requireParam rule param = .ok text) : param = some text ∧ text ≠ [] := by
  match param with
  | none => cases required
  | some [] => cases required
  | some (c :: rest) => exact Except.ok.inj required ▸ ⟨rfl, List.cons_ne_nil c rest⟩

theorem keyword_formed {word : Keyword} {param : Option (List Char)} {rule : Rule}
    (each : ∀ text ∈ param, IsParam text) (read : readKeyword word param = .ok rule) :
    rule.IsWellFormed ∧ rule.IsDecoded := by
  have given (text : List Char) (required : requireParam word.tag param = .ok text) :
      Escape.isPlain text = true ∧ text ≠ [] ∧ ∃ c ∈ text, isBlank c = false := by
    obtain ⟨someText, someChar⟩ := require_ok required
    have isParam := each text someText
    exact ⟨isParam.plain, someChar, isParam.solid someChar⟩
  cases word with
  | skip =>
      obtain ⟨_, _, made⟩ := ok_of_bind read
      exact Except.ok.inj made ▸ ⟨trivial, nofun⟩
  | omitEmpty =>
      obtain ⟨_, _, made⟩ := ok_of_bind read
      exact Except.ok.inj made ▸ ⟨trivial, nofun⟩
  | skipUnless =>
      obtain ⟨text, required, made⟩ := ok_of_bind read
      obtain ⟨pairs, pairsRead, made⟩ := ok_of_bind made
      obtain ⟨plain, _, solid⟩ := given text required
      obtain ⟨formed, parts, length⟩ := read_pairs_formed pairsRead
      obtain rfl := Except.ok.inj made
      exact ⟨⟨ne_nil_of_words length solid, formed⟩,
        fun own member => Escape.plain_part (parts own member) plain⟩
  | relational op =>
      obtain ⟨text, required, made⟩ := ok_of_bind read
      obtain ⟨plain, someChar, _⟩ := given text required
      split at made
      case isTrue => cases made
      case isFalse blankless =>
        obtain rfl := Except.ok.inj made
        refine ⟨unbroken_of text someChar (blankless_of_any text (by simpa using blankless)), ?_⟩
        exact List.forall_mem_singleton.mpr (by rwa [String.toList_ofList])
  | presence kind =>
      obtain ⟨text, required, made⟩ := ok_of_bind read
      obtain ⟨plain, _, solid⟩ := given text required
      obtain ⟨formed, length⟩ := read_targets_formed text
      obtain rfl := Except.ok.inj made
      exact ⟨⟨ne_nil_of_words length solid, fun target member => (formed target member).1⟩,
        fun own member => Escape.plain_part (formed own member).2 plain⟩
  | conditional kind =>
      obtain ⟨text, required, made⟩ := ok_of_bind read
      obtain ⟨pairs, pairsRead, made⟩ := ok_of_bind made
      obtain ⟨plain, _, solid⟩ := given text required
      obtain ⟨formed, parts, length⟩ := read_pairs_formed pairsRead
      obtain rfl := Except.ok.inj made
      exact ⟨⟨ne_nil_of_words length solid, formed⟩,
        fun own member => Escape.plain_part (parts own member) plain⟩

theorem name_and_param_formed (segment : List Char) :
    let (name, param) := nameAndParam segment
    trim name = name ∧ '=' ∉ name ∧ name <:+: segment ∧ ∀ text ∈ param, IsParam text := by
  rw [nameAndParam]
  cases cut : cut? '=' segment with
  | none =>
      have noEquals := cut_eq_none cut
      exact ⟨trim_trim segment, fun member => noEquals ((trimmed_part segment).subset member),
        trimmed_part segment, fun text given => absurd given (Option.not_mem_none text)⟩
  | some parts =>
      obtain ⟨name, param⟩ := parts
      obtain ⟨rfl, noEquals⟩ := cut_some cut
      refine ⟨trim_trim name, fun member => noEquals ((trimmed_part name).subset member),
        (trimmed_part name).trans (List.prefix_append name _).isInfix, ?_⟩
      exact fun text given => Option.some.inj given ▸ decode_param param

theorem rule_formed {segment : List Char} {rule : Rule} (read : readRule segment = .ok rule) :
    rule.IsDecoded ∧ (',' ∉ segment → '|' ∉ segment → rule.IsWellFormed) := by
  have parts := name_and_param_formed segment
  rw [readRule] at read
  generalize nameAndParam segment = both at parts read
  obtain ⟨name, param⟩ := both
  obtain ⟨trimmed, noEquals, within, each⟩ := parts
  simp only at read
  split at read
  case isTrue => cases read
  case isFalse filled =>
    split at read
    case h_1 word found =>
      obtain ⟨formed, decoded⟩ := keyword_formed each read
      exact ⟨decoded, fun _ _ => formed⟩
    case h_2 free =>
      obtain rfl := Except.ok.inj read
      constructor
      · cases param with
        | none => exact List.forall_mem_nil _
        | some text =>
            refine List.forall_mem_singleton.mpr ?_
            rw [String.toList_ofList]
            exact (each text rfl).plain
      · intro noComma noBar
        have apart (c : Char) (member : c ∈ name) : ¬(c = ',' ∨ c = '|' ∨ c = '=') := by
          rintro (rfl | rfl | rfl)
          · exact noComma (within.subset member)
          · exact noBar (within.subset member)
          · exact noEquals member
        simp only [Rule.IsWellFormed, Clause.IsWellFormed, isLeafName, String.toList_ofList, trimmed, isReserved,
          free]
        simp only [Bool.and_eq_true, Bool.not_eq_true', List.any_eq_false, Bool.or_eq_true, decide_eq_true_eq]
        exact ⟨⟨⟨by simpa using filled, trivial⟩, rfl⟩, fun c member held => apart c member (by tauto)⟩

theorem branch_formed {text : List Char} {clause : Clause} (read : readBranch text = .ok clause)
    (noComma : ',' ∉ text) (noBar : '|' ∉ text) :
    clause.IsWellFormed ∧ ∀ own ∈ clause.texts, Escape.isPlain own.toList = true := by
  obtain ⟨rule, ruleRead, made⟩ := ok_of_bind read
  obtain ⟨decoded, formed⟩ := rule_formed ruleRead
  cases rule with
  | clause own =>
      obtain rfl := Except.ok.inj made
      exact ⟨formed noComma noBar, decoded⟩
  | _ => cases made

theorem branches_formed {expand : Expansion} {text : List Char} {clauses : List Clause}
    (read : readBranches expand text = .ok clauses) (noComma : ',' ∉ text) (noBar : '|' ∉ text) :
    clauses ≠ [] ∧ ∀ clause ∈ clauses,
      clause.IsWellFormed ∧ ∀ own ∈ clause.texts, Escape.isPlain own.toList = true := by
  have outside (c : Char) (text : List Char) (apart : c ∉ text) : c ∉ trim text :=
    fun member => apart ((trimmed_part text).subset member)
  rw [readBranches] at read
  split at read
  case isTrue => cases read
  case isFalse =>
    split at read
    case h_1 body _ =>
      split at read
      case isTrue => cases read
      case isFalse noComma =>
        have pointwise := pointwise_of_mapM _ _ _ read
        refine ⟨?_, fun clause member => ?_⟩
        · rw [← List.length_pos_iff, ← pointwise.length_eq, List.length_pos_iff]
          exact List.splitOn_ne_nil '|' body
        · obtain ⟨piece, there, pieceRead⟩ := pointwise_mem pointwise clause member
          obtain ⟨noBar, within⟩ := mem_pieces there
          have noComma : ',' ∉ piece := fun member => noComma (by simpa using within.subset member)
          exact branch_formed pieceRead (outside _ _ noComma) (outside _ _ noBar)
    case h_2 =>
      obtain ⟨clause, clauseRead, made⟩ := ok_of_bind read
      obtain rfl := Except.ok.inj made
      exact ⟨List.cons_ne_nil _ _, List.forall_mem_singleton.mpr
        (branch_formed clauseRead (outside _ _ noComma) (outside _ _ noBar))⟩

theorem length_le_flatten {α : Type} (lists : List (List α)) (filled : ∀ list ∈ lists, list ≠ []) :
    lists.length ≤ lists.flatten.length := by
  induction lists with
  | nil => exact Nat.le_refl 0
  | cons first rest ih =>
      obtain ⟨someFirst, later⟩ := List.forall_mem_cons.mp filled
      have counted := List.length_pos_iff.mpr someFirst
      rw [List.flatten_cons, List.length_append, List.length_cons]
      have others := ih later
      omega

theorem segment_formed {expand : Expansion} {segment : List Char} {rule : Rule}
    (read : readSegment expand segment = .ok rule) (noComma : ',' ∉ segment) :
    rule.IsWellFormed ∧ rule.IsDecoded := by
  rw [readSegment] at read
  split at read
  case isFalse noBar =>
    obtain ⟨decoded, formed⟩ := rule_formed read
    exact ⟨formed noComma (by simpa using noBar), decoded⟩
  case isTrue bar =>
    obtain ⟨lists, listsRead, made⟩ := ok_of_bind read
    obtain rfl := Except.ok.inj made
    have pointwise := pointwise_of_mapM _ _ _ listsRead
    have each (clauses : List Clause) (member : clauses ∈ lists) :
        clauses ≠ [] ∧ ∀ clause ∈ clauses,
          clause.IsWellFormed ∧ ∀ own ∈ clause.texts, Escape.isPlain own.toList = true := by
      obtain ⟨piece, there, pieceRead⟩ := pointwise_mem pointwise clauses member
      obtain ⟨noBar, within⟩ := mem_pieces there
      exact branches_formed pieceRead (fun member => noComma (within.subset member)) noBar
    have all (clause : Clause) (member : clause ∈ lists.flatten) :
        clause.IsWellFormed ∧ ∀ own ∈ clause.texts, Escape.isPlain own.toList = true := by
      obtain ⟨clauses, there, within⟩ := List.mem_flatten.mp member
      exact (each clauses there).2 clause within
    have several : 2 ≤ lists.flatten.length := by
      have pieces : 2 ≤ (pieces '|' segment).length := several_pieces (by simpa using bar)
      have counted := length_le_flatten lists fun clauses member => (each clauses member).1
      have lengths := pointwise.length_eq
      omega
    refine ⟨⟨several, fun clause member => (all clause member).1⟩, fun own member => ?_⟩
    obtain ⟨clause, there, within⟩ := List.mem_flatMap.mp member
    exact (all clause there).2 own within

theorem no_comma_segment {segment text : List Char} (member : segment ∈ segments text) : ',' ∉ segment := by
  obtain ⟨piece, there, rfl⟩ := List.mem_map.mp member
  exact fun within => (mem_pieces there).1 ((trimmed_part piece).subset within)

theorem extend_formed {segment : List Char} {last longer : Rule} (made : extend segment last = .ok longer)
    (formed : last.IsWellFormed) : longer.IsWellFormed := by
  have longerList {α : Type} {holds : α → Prop} {items more : List α}
      (before : items ≠ [] ∧ ∀ item ∈ items, holds item) (added : ∀ item ∈ more, holds item) :
      items ++ more ≠ [] ∧ ∀ item ∈ items ++ more, holds item :=
    ⟨List.append_ne_nil_of_left_ne_nil before.1 _, List.forall_mem_append.mpr ⟨before.2, added⟩⟩
  cases last with
  | clause clause =>
      cases clause with
      | presence kind targets =>
          obtain rfl := Except.ok.inj made
          exact longerList formed fun target member => ((read_targets_formed segment).1 target member).1
      | conditional kind pairs =>
          obtain ⟨more, moreRead, made⟩ := ok_of_bind made
          obtain rfl := Except.ok.inj made
          exact longerList formed (read_pairs_formed moreRead).1
      | _ => exact Except.ok.inj made ▸ formed
  | skipUnless pairs =>
      obtain ⟨more, moreRead, made⟩ := ok_of_bind made
      obtain rfl := Except.ok.inj made
      exact longerList formed (read_pairs_formed moreRead).1
  | _ => exact Except.ok.inj made ▸ formed

-- A rule starts as what one segment is read as, one of the rule string or of the body of an alias. The
-- segments that continue it add items to its list and change nothing else.
inductive Starts (expand : Expansion) (text : List Char) : Rule → Prop where
  | whole {segment : List Char} {rule : Rule} (member : segment ∈ segments text) (unaliased : expand segment = none)
      (read : readSegment expand segment = .ok rule) : Starts expand text rule
  | part {segment body part : List Char} {rule : Rule} (member : segment ∈ segments text)
      (aliased : expand segment = some body) (within : part ∈ segments body)
      (read : readSegment noExpansion part = .ok rule) : Starts expand text rule

theorem starts_formed {expand : Expansion} {text : List Char} {rule : Rule} (starts : Starts expand text rule) :
    rule.IsWellFormed ∧ rule.IsDecoded := by
  cases starts with
  | whole member _ read => exact segment_formed read (no_comma_segment member)
  | part _ _ within read => exact segment_formed read (no_comma_segment within)

structure Formed (expand : Expansion) (text : List Char) (rule : Rule) : Prop where
  wellFormed : rule.IsWellFormed
  started : ∃ origin, Starts expand text origin ∧ rule.Extends origin

theorem formed_start {expand : Expansion} {text : List Char} {rule : Rule} (starts : Starts expand text rule) :
    Formed expand text rule :=
  ⟨(starts_formed starts).1, rule, starts, .same rule⟩

theorem formed_extend {expand : Expansion} {text segment : List Char} {last longer : Rule}
    (formed : Formed expand text last) (made : extend segment last = .ok longer) : Formed expand text longer := by
  obtain ⟨origin, starts, extended⟩ := formed.started
  exact ⟨extend_formed made formed.wellFormed, origin, starts, Rule.extends_trans (extend_ok made) extended⟩

section Run

variable {expand : Expansion} {text : List Char}

theorem add_segment_formed {start : List Rule → Except RuleError (List Rule)} {segment : List Char}
    {done rules : List Rule} (added : addSegment start segment done = .ok rules)
    (each : ∀ rule ∈ done, Formed expand text rule)
    (started : start done = .ok rules → ∀ rule ∈ rules, Formed expand text rule) :
    ∀ rule ∈ rules, Formed expand text rule := by
  cases done with
  | nil =>
      rw [addSegment] at added
      split at added
      · cases added
      · exact started added
  | cons last before =>
      rw [addSegment] at added
      split at added
      · cases added
      · split at added
        · obtain ⟨longer, extended, rfl⟩ := ok_of_map added
          obtain ⟨lastFormed, others⟩ := List.forall_mem_cons.mp each
          exact List.forall_mem_cons.mpr ⟨formed_extend lastFormed extended, others⟩
        · exact started added

theorem add_all_formed {add : List Rule → List Char → Except RuleError (List Rule)} {items : List (List Char)}
    (step : ∀ segment ∈ items, ∀ done rules, add done segment = .ok rules →
      (∀ rule ∈ done, Formed expand text rule) → ∀ rule ∈ rules, Formed expand text rule)
    {done rules : List Rule} (added : items.foldlM add done = .ok rules)
    (each : ∀ rule ∈ done, Formed expand text rule) : ∀ rule ∈ rules, Formed expand text rule := by
  induction items generalizing done with
  | nil => exact Except.ok.inj added ▸ each
  | cons segment rest ih =>
      rw [List.foldlM_cons] at added
      obtain ⟨middle, first, later⟩ := ok_of_bind added
      exact ih (fun other member => step other (List.mem_cons_of_mem _ member)) later
        (step segment List.mem_cons_self done middle first each)

theorem add_whole_formed (segment : List Char) (member : segment ∈ segments text) (done rules : List Rule)
    (added : addWhole expand done segment = .ok rules) (each : ∀ rule ∈ done, Formed expand text rule) :
    ∀ rule ∈ rules, Formed expand text rule := by
  refine add_segment_formed added each fun started => ?_
  split at started
  case h_1 body aliased =>
    refine add_all_formed (fun part within before after partAdded beforeFormed => ?_) started each
    refine add_segment_formed partAdded beforeFormed fun pushed => ?_
    obtain ⟨rule, read, rfl⟩ := ok_of_map pushed
    exact List.forall_mem_cons.mpr ⟨formed_start (.part member aliased within read), beforeFormed⟩
  case h_2 unaliased =>
    obtain ⟨rule, read, rfl⟩ := ok_of_map started
    exact List.forall_mem_cons.mpr ⟨formed_start (.whole member unaliased read), each⟩

theorem read_rules_formed {rules : List Rule} (read : readRules expand text = .ok rules) :
    ∀ rule ∈ rules, Formed expand text rule := by
  rw [readRules] at read
  split at read
  case isTrue =>
    obtain rfl := Except.ok.inj read
    exact List.forall_mem_nil _
  case isFalse =>
    obtain ⟨done, added, rfl⟩ := ok_of_map read
    have each := add_all_formed add_whole_formed added (List.forall_mem_nil _)
    exact fun rule member => each rule (List.mem_reverse.mp member)

end Run

theorem parse_well_formed (aliases : Aliases) :
    (∀ segment rule, readRule segment = .ok rule → rule.IsDecoded) ∧
    ∀ text rules, parse aliases text = .ok rules → ∀ rule ∈ rules,
      rule.IsWellFormed ∧
      ∃ origin, Starts (aliasExpansion aliases) text.toList origin ∧ rule.Extends origin ∧ origin.IsDecoded := by
  refine ⟨fun segment rule read => (rule_formed read).1, fun text rules read rule member => ?_⟩
  have formed := read_rules_formed read rule member
  obtain ⟨origin, starts, extended⟩ := formed.started
  exact ⟨formed.wellFormed, origin, starts, extended, (starts_formed starts).2⟩

theorem hostile_bodies_formed :
    let aliases : Aliases := .ofList [("contact", "required_with=email,a0x2Cb"), ("size", "min=0x2C3|max=1")]
    let leaf : Rule := .clause (.leaf "len" (some "|"))
    let list : Rule := .clause (.presence ⟨true, true, false⟩ ["email", "a0x2Cb", "c0x2Cd"])
    let group : Rule := .anyOf [.leaf "min" (some ",3"), .leaf "max" (some "1"), .relational .eq "e"]
    readRule "len=0x7C".toList = .ok leaf ∧ leaf.IsDecoded ∧
    parse aliases "len=0x7C,contact,c0x2Cd,size|eqfield=e" = .ok [leaf, list, group] ∧
    list.IsWellFormed ∧ (∃ origin, list.Extends origin ∧ origin.IsDecoded) ∧ group.IsWellFormed := by
  intro aliases leaf list group
  have leafRead : readRule "len=0x7C".toList = .ok leaf := rfl
  have read : parse aliases "len=0x7C,contact,c0x2Cd,size|eqfield=e" = .ok [leaf, list, group] := rfl
  obtain ⟨decoded, formed⟩ := parse_well_formed aliases
  obtain ⟨listFormed, origin, _, extended, originDecoded⟩ := formed _ _ read list (by simp)
  exact ⟨leafRead, decoded _ _ leafRead, read, listFormed, ⟨origin, extended, originDecoded⟩,
    (formed _ _ read group (by simp)).1⟩

end Grammar

end RecordRules
