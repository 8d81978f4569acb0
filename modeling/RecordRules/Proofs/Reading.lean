import Mathlib.Data.List.Basic
import RecordRules.Proofs.Escapes
import RecordRules.Rule.Grammar
import RecordRules.Rule.Printer

set_option autoImplicit false

namespace RecordRules

open Text

theorem spaced_ne_nil (separator : List Char) (items : List (List Char)) (someItem : items ≠ [])
    (someChar : ∀ item ∈ items, item ≠ []) : separator.intercalate items ≠ [] := by
  cases items with
  | nil => exact absurd rfl someItem
  | cons first rest =>
      have head := someChar first List.mem_cons_self
      cases rest with
      | nil => rwa [List.intercalate_singleton]
      | cons second others =>
          rw [List.intercalate_cons_cons, List.append_assoc]
          exact List.append_ne_nil_of_left_ne_nil head _

theorem last_spaced (separator : List Char) (items : List (List Char)) (someChar : ∀ item ∈ items, item ≠ [])
    (c : Char) (found : c ∈ (separator.intercalate items).getLast?) : ∃ item ∈ items, c ∈ item.getLast? := by
  induction items with
  | nil => cases found
  | cons first rest ih =>
      cases rest with
      | nil =>
          rw [List.intercalate_singleton] at found
          exact ⟨first, List.mem_cons_self, found⟩
      | cons second others =>
          have later := fun item member => someChar item (List.mem_cons_of_mem first member)
          have behind := spaced_ne_nil separator (second :: others) (List.cons_ne_nil _ _) later
          rw [List.intercalate_cons_cons, List.getLast?_append_of_ne_nil _ behind] at found
          obtain ⟨item, member, last⟩ := ih later found
          exact ⟨item, List.mem_cons_of_mem _ member, last⟩

theorem head_spaced (separator : List Char) (items : List (List Char)) (someChar : ∀ item ∈ items, item ≠ [])
    (c : Char) (found : c ∈ (separator.intercalate items).head?) : ∃ item ∈ items, c ∈ item.head? := by
  cases items with
  | nil => cases found
  | cons first rest =>
      refine ⟨first, List.mem_cons_self, ?_⟩
      cases rest with
      | nil => rwa [List.intercalate_singleton] at found
      | cons second others =>
          rwa [List.intercalate_cons_cons, List.append_assoc,
            List.head?_append_of_ne_nil _ (someChar first List.mem_cons_self)] at found

theorem mem_spaced (separator : List Char) (items : List (List Char)) (c : Char)
    (member : c ∈ separator.intercalate items) : c ∈ separator ∨ ∃ item ∈ items, c ∈ item := by
  induction items with
  | nil => cases member
  | cons first rest ih =>
      cases rest with
      | nil =>
          rw [List.intercalate_singleton] at member
          exact .inr ⟨first, List.mem_cons_self, member⟩
      | cons second others =>
          rw [List.intercalate_cons_cons, List.append_assoc] at member
          rcases List.mem_append.mp member with here | behind
          · exact .inr ⟨first, List.mem_cons_self, here⟩
          · rcases List.mem_append.mp behind with between | later
            · exact .inl between
            · exact (ih later).imp_right fun ⟨item, there, within⟩ =>
                ⟨item, List.mem_cons_of_mem _ there, within⟩

theorem trim_spaced (separator : List Char) (items : List (List Char)) (someChar : ∀ item ∈ items, item ≠ [])
    (trimmed : ∀ item ∈ items, trim item = item) :
    trim (separator.intercalate items) = separator.intercalate items := by
  refine (trim_eq_self _).mpr ⟨fun c found => ?_, fun c found => ?_⟩
  · obtain ⟨item, member, first⟩ := head_spaced separator items someChar c found
    exact ((trim_eq_self item).mp (trimmed item member)).1 c first
  · obtain ⟨item, member, last⟩ := last_spaced separator items someChar c found
    exact ((trim_eq_self item).mp (trimmed item member)).2 c last

theorem trim_joined (before after : List Char) (c : Char) (solid : isBlank c = false)
    (someChar : before ≠ []) (trimmed : trim before = before) (trimmedAfter : trim after = after) :
    trim (before ++ c :: after) = before ++ c :: after := by
  refine (trim_eq_self _).mpr ⟨fun other found => ?_, fun other found => ?_⟩
  · rw [List.head?_append_of_ne_nil _ someChar] at found
    exact ((trim_eq_self before).mp trimmed).1 other found
  · rw [List.getLast?_append_of_ne_nil _ (List.cons_ne_nil _ _), List.getLast?_cons] at found
    cases last : after.getLast? with
    | none =>
        rw [last] at found
        exact Option.some.inj found ▸ solid
    | some back =>
        rw [last] at found
        exact Option.some.inj found ▸ ((trim_eq_self after).mp trimmedAfter).2 back last

structure IsSegment (text : List Char) : Prop where
  someChar : text ≠ []
  trimmed : trim text = text
  noComma : ',' ∉ text

structure IsBranch (text : List Char) : Prop extends IsSegment text where
  noBar : '|' ∉ text

structure IsWord (text : List Char) : Prop where
  someChar : text ≠ []
  blankless : ∀ c ∈ text, isBlank c = false
  noComma : ',' ∉ text
  noBar : '|' ∉ text

theorem IsWord.branch {text : List Char} (word : IsWord text) : IsBranch text :=
  ⟨⟨word.someChar, trim_blankless text word.blankless, word.noComma⟩, word.noBar⟩

theorem segment_row (items : List (List Char)) (someItem : items ≠ [])
    (segments : ∀ item ∈ items, IsSegment item) (separator : Char) (notComma : separator ≠ ',') :
    IsSegment ([separator].intercalate items) where
  someChar := spaced_ne_nil _ items someItem fun item member => (segments item member).someChar
  trimmed := trim_spaced _ items (fun item member => (segments item member).someChar)
    fun item member => (segments item member).trimmed
  noComma := fun member => by
    rcases mem_spaced _ items ',' member with between | ⟨item, there, within⟩
    · exact notComma (List.mem_singleton.mp between).symm
    · exact (segments item there).noComma within

theorem branch_row (items : List (List Char)) (someItem : items ≠ [])
    (branches : ∀ item ∈ items, IsBranch item) : IsBranch ([' '].intercalate items) where
  toIsSegment :=
    segment_row items someItem (fun item member => (branches item member).toIsSegment) ' ' (by decide)
  noBar := fun member => by
    rcases mem_spaced _ items '|' member with between | ⟨item, there, within⟩
    · exact absurd between (by decide)
    · exact (branches item there).noBar within

theorem branch_joined (name param : List Char) (branch : IsBranch name) (trimmed : trim param = param)
    (noComma : ',' ∉ param) (noBar : '|' ∉ param) : IsBranch (name ++ '=' :: param) where
  someChar := List.append_ne_nil_of_right_ne_nil _ (List.cons_ne_nil _ _)
  trimmed := trim_joined name param '=' (by decide) branch.someChar branch.trimmed trimmed
  noComma := by simp [branch.noComma, noComma]
  noBar := by simp [branch.noBar, noBar]

theorem tag_solid (word : Keyword) : ∀ c ∈ word.tag.toList,
    isBlank c = false ∧ c ≠ '=' ∧ c ≠ ',' ∧ c ≠ '|' := by
  have all : (Keyword.all.all fun word =>
      word.tag.toList.all fun c => !isBlank c && c != '=' && c != ',' && c != '|') = true := by decide
  intro c member
  simpa [and_assoc] using List.all_eq_true.mp (List.all_eq_true.mp all word word.mem_all) c member

theorem tag_ne_nil (word : Keyword) : word.tag.toList ≠ [] := by
  have all : ∀ word ∈ Keyword.all, word.tag.toList ≠ [] := by decide
  exact all word word.mem_all

theorem tag_word (word : Keyword) : IsWord word.tag.toList where
  someChar := tag_ne_nil word
  blankless := fun c member => (tag_solid word c member).1
  noComma := fun member => (tag_solid word _ member).2.2.1 rfl
  noBar := fun member => (tag_solid word _ member).2.2.2 rfl

theorem taking_branch (word : Keyword) (param : List Char) (branch : IsBranch param) :
    IsBranch (word.taking param) :=
  branch_joined _ param (tag_word word).branch branch.trimmed branch.noComma branch.noBar

theorem listing_branch (word : Keyword) (items : List (List Char)) (someItem : items ≠ [])
    (written : ∀ item ∈ items, IsWord item) : IsBranch (word.listing items) :=
  taking_branch word _ (branch_row items someItem fun item member => (written item member).branch)

namespace Grammar

theorem read_word (word : Keyword) : readRule word.tag.toList = readKeyword word none := by
  have noParam : cut? '=' word.tag.toList = none :=
    cut_none '=' _ fun member => (tag_solid word _ member).2.1 rfl
  simp only [readRule, nameAndParam, noParam, (tag_word word).branch.trimmed]
  rw [if_neg (by simpa using tag_ne_nil word), String.ofList_toList, Keyword.of_tag_tag]

theorem read_taking (word : Keyword) (param : List Char) :
    readRule (word.taking param) = readKeyword word (some (Escape.decode (trim param))) := by
  have cut : cut? '=' (word.taking param) = some (word.tag.toList, param) :=
    cut_first '=' _ _ fun member => (tag_solid word _ member).2.1 rfl
  simp only [readRule, nameAndParam, cut, (tag_word word).branch.trimmed]
  rw [if_neg (by simpa using tag_ne_nil word), String.ofList_toList, Keyword.of_tag_tag]

theorem require_some (rule : String) (param : List Char) (someChar : param ≠ []) :
    requireParam rule (some param) = .ok param := by
  cases param with
  | nil => exact absurd rfl someChar
  | cons c rest => rfl

end Grammar

inductive ListRule where
  | presence (kind : Presence)
  | conditional (kind : Conditional)
  | skipUnless

def IsPair (item : List Char) : Prop :=
  ∃ field literal, item = field ++ ':' :: literal ∧ field ≠ [] ∧ ':' ∉ field

def Pair.item (pair : Pair) : List Char := pair.field.toList ++ ':' :: pair.literal.toList

def Pair.ofItem (item : List Char) : Pair :=
  ⟨String.ofList (item.takeWhile (· != ':')), String.ofList (item.dropWhile (· != ':')).tail⟩

namespace ListRule

def word : ListRule → Keyword
  | presence kind => .presence kind
  | conditional kind => .conditional kind
  | skipUnless => .skipUnless

def holding (items : List (List Char)) : ListRule → Rule
  | presence kind => .clause (.presence kind (items.map String.ofList))
  | conditional kind => .clause (.conditional kind (items.map Pair.ofItem))
  | skipUnless => .skipUnless (items.map Pair.ofItem)

def Admits (item : List Char) : ListRule → Prop
  | presence _ => True
  | conditional _ | skipUnless => IsPair item

end ListRule

theorem of_item_append (field literal : List Char) (noColon : ':' ∉ field) :
    Pair.ofItem (field ++ ':' :: literal) = ⟨String.ofList field, String.ofList literal⟩ := by
  have passed : ∀ c ∈ field, (c != ':') = true := fun c member =>
    bne_iff_ne.mpr fun same => noColon (same ▸ member)
  rw [Pair.ofItem, List.takeWhile_append_of_pos passed, List.dropWhile_append_of_pos passed]
  simp

theorem item_of_item (item : List Char) (isPair : IsPair item) : (Pair.ofItem item).item = item := by
  obtain ⟨field, literal, rfl, _, noColon⟩ := isPair
  rw [of_item_append field literal noColon, Pair.item, String.toList_ofList, String.toList_ofList]

theorem decoded_pair (item : List Char) (isPair : IsPair item) : IsPair (Escape.decode item) := by
  obtain ⟨field, literal, rfl, someField, noColon⟩ := isPair
  refine ⟨Escape.decode field, Escape.decode literal,
    Escape.decode_append field literal ':' (by decide) (by decide), Escape.decode_ne_nil field someField,
    fun member => ?_⟩
  rcases Escape.mem_decode field ':' member with bar | comma | own
  · cases bar
  · cases comma
  · exact noColon own

theorem decoded_admitted (list : ListRule) (item : List Char) (admitted : list.Admits item) :
    list.Admits (Escape.decode item) := by
  cases list with
  | presence kind => trivial
  | conditional kind => exact decoded_pair item admitted
  | skipUnless => exact decoded_pair item admitted

theorem holding_injective (list : ListRule) (items others : List (List Char))
    (admitted : ∀ item ∈ items, list.Admits item) (othersAdmitted : ∀ item ∈ others, list.Admits item)
    (same : list.holding items = list.holding others) : items = others := by
  have pairs (all : ∀ item ∈ items, IsPair item) (othersAll : ∀ item ∈ others, IsPair item)
      (equal : items.map Pair.ofItem = others.map Pair.ofItem) : items = others := by
    have back (texts : List (List Char)) (each : ∀ item ∈ texts, IsPair item) :
        (texts.map Pair.ofItem).map Pair.item = texts := by
      rw [List.map_map]
      exact (List.map_congr_left fun item member => item_of_item item (each item member)).trans (List.map_id _)
    rw [← back items all, equal, back others othersAll]
  cases list with
  | presence kind =>
      simp only [ListRule.holding, Rule.clause.injEq, Clause.presence.injEq, true_and] at same
      exact (List.map_injective_iff.mpr fun text other equal => String.ofList_injective equal) same
  | conditional kind =>
      simp only [ListRule.holding, Rule.clause.injEq, Clause.conditional.injEq, true_and] at same
      exact pairs admitted othersAdmitted same
  | skipUnless =>
      simp only [ListRule.holding, Rule.skipUnless.injEq] at same
      exact pairs admitted othersAdmitted same

namespace Grammar

theorem read_pair_item (rule : String) (item : List Char) (admitted : IsPair item) :
    readPair rule item = .ok (Pair.ofItem item) := by
  obtain ⟨field, literal, rfl, someField, noColon⟩ := admitted
  rw [readPair, cut_first ':' field literal noColon, of_item_append field literal noColon]
  simp [someField]

theorem read_pairs_items (rule : String) (items : List (List Char))
    (admitted : ∀ item ∈ items, IsPair item) :
    items.mapM (readPair rule) = .ok (items.map Pair.ofItem) := by
  induction items with
  | nil => rfl
  | cons item rest ih =>
      rw [List.mapM_cons, read_pair_item rule item (admitted item List.mem_cons_self),
        ih fun other member => admitted other (List.mem_cons_of_mem _ member)]
      rfl

theorem read_list (list : ListRule) (param : List Char) (items : List (List Char)) (someChar : param ≠ [])
    (split : words param = items) (admitted : ∀ item ∈ items, list.Admits item) :
    readKeyword list.word (some param) = .ok (list.holding items) := by
  cases list with
  | presence kind =>
      simp only [ListRule.word, readKeyword, require_some _ _ someChar, bind, Except.bind]
      rw [readTargets, split]
      rfl
  | conditional kind =>
      simp only [ListRule.word, readKeyword, require_some _ _ someChar, bind, Except.bind]
      rw [readPairs, split, read_pairs_items _ items admitted]
      rfl
  | skipUnless =>
      simp only [ListRule.word, readKeyword, require_some _ _ someChar, bind, Except.bind]
      rw [readPairs, split, read_pairs_items _ items admitted]
      rfl

theorem read_listing (list : ListRule) (items : List (List Char)) (someItem : items ≠ [])
    (written : ∀ item ∈ items, IsWord item) (admitted : ∀ item ∈ items.map Escape.decode, list.Admits item) :
    readRule (list.word.listing items) = .ok (list.holding (items.map Escape.decode)) := by
  have trimmed := (branch_row items someItem fun item member => (written item member).branch).trimmed
  have someDecoded : ∀ item ∈ items.map Escape.decode, item ≠ [] :=
    List.forall_mem_map.mpr fun item member => Escape.decode_ne_nil item (written item member).someChar
  have solidDecoded : ∀ item ∈ items.map Escape.decode, ∀ c ∈ item, isBlank c = false :=
    List.forall_mem_map.mpr fun item member => Escape.solid_decode item (written item member).blankless
  have split := words_spaced (items.map Escape.decode) someDecoded solidDecoded
  have someParam := spaced_ne_nil [' '] (items.map Escape.decode) (by simpa using someItem) someDecoded
  rw [Keyword.listing, read_taking, trimmed, Escape.decode_spaced,
    read_list list _ (items.map Escape.decode) someParam split admitted]

theorem read_single (expand : Expansion) (segment : List Char) (noBar : '|' ∉ segment) :
    readSegment expand segment = readRule segment := by
  rw [readSegment, if_neg (by simpa using noBar)]

theorem read_row (expand : Expansion) (row : List (List Char)) (someSegment : row ≠ [])
    (written : ∀ segment ∈ row, IsSegment segment) :
    readRules expand ([','].intercalate row) = (row.foldlM (addWhole expand) []).map List.reverse := by
  have someChar := fun segment member => (written segment member).someChar
  have trimmed := fun segment member => (written segment member).trimmed
  have cut : segments ([','].intercalate row) = row := by
    rw [segments, pieces,
      List.splitOn_intercalate ',' (fun segment member => (written segment member).noComma) someSegment]
    exact (List.map_congr_left trimmed).trans (List.map_id _)
  have notBlank := spaced_ne_nil [','] row someSegment someChar
  rw [readRules, trim_spaced [','] row someChar trimmed, if_neg (by simpa using notBlank), cut]

theorem add_rule (expand : Expansion) (done : List Rule) (segment : List Char) (rule : Rule)
    (someChar : segment ≠ []) (apart : ∀ last ∈ done.head?, continues segment last = false)
    (unaliased : expand segment = none) (read : readSegment expand segment = .ok rule) :
    addWhole expand done segment = .ok (rule :: done) := by
  have filled : segment.isEmpty = false := by simpa using someChar
  cases done with
  | nil =>
      simp only [addWhole, addSegment, filled, Bool.false_eq_true, if_false, unaliased, read]
      rfl
  | cons last before =>
      simp only [addWhole, addSegment, filled, apart last rfl, Bool.false_eq_true, if_false, unaliased, read]
      rfl

end Grammar

end RecordRules
