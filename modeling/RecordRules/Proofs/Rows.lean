import Mathlib.Data.List.TakeWhile
import RecordRules.Proofs.Reading

set_option autoImplicit false

namespace RecordRules

open Text

theorem pieces_append (separator : Char) (before after : List Char) :
    pieces separator (before ++ separator :: after) =
      pieces separator before ++ pieces separator after :=
  List.splitOnP_append_cons before after (beq_self_eq_true separator)

theorem pieces_row (separator : Char) (texts : List (List Char)) (someText : texts ≠ []) :
    pieces separator ([separator].intercalate texts) = texts.flatMap (pieces separator) := by
  induction texts with
  | nil => exact absurd rfl someText
  | cons first rest ih =>
      cases rest with
      | nil => rw [List.intercalate_singleton, List.flatMap_singleton]
      | cons second others =>
          rw [List.intercalate_cons_cons, List.append_assoc, List.singleton_append, pieces_append,
            ih (List.cons_ne_nil _ _)]
          rfl

theorem pieces_whole (separator : Char) (text : List Char) (outside : separator ∉ text) :
    pieces separator text = [text] :=
  List.splitOn_eq_singleton outside

theorem pieces_cons (separator c : Char) (text : List Char) (different : c ≠ separator) :
    pieces separator (c :: text) = (pieces separator text).modifyHead (c :: ·) := by
  rw [pieces, List.splitOn, List.splitOnP_cons_eq_if_modifyHead, if_neg (by simpa using different)]
  rfl

theorem pieces_ahead (separator : Char) (front text : List Char) (outside : separator ∉ front) :
    pieces separator (front ++ text) = (pieces separator text).modifyHead (front ++ ·) := by
  induction front with
  | nil =>
      rw [List.nil_append]
      cases pieces separator text <;> rfl
  | cons c rest ih =>
      obtain ⟨different, outside⟩ := not_or.mp (fun member => outside (List.mem_cons.mpr member))
      rw [List.cons_append, pieces_cons _ _ _ (Ne.symm different), ih outside]
      cases pieces separator text <;> rfl

theorem pieces_behind (separator : Char) (text back : List Char) (outside : separator ∉ back) :
    ∃ others last, pieces separator text = others ++ [last] ∧
      pieces separator (text ++ back) = others ++ [last ++ back] := by
  induction text with
  | nil => exact ⟨[], [], rfl, pieces_whole separator back outside⟩
  | cons c rest ih =>
      obtain ⟨others, last, own, extended⟩ := ih
      by_cases same : c = separator
      · subst same
        have start (text : List Char) : pieces c (c :: text) = [] :: pieces c text :=
          pieces_append c [] text
        exact ⟨[] :: others, last, by rw [start, own]; rfl, by rw [List.cons_append, start, extended]; rfl⟩
      · rw [List.cons_append, pieces_cons _ _ _ same, pieces_cons _ _ _ same, own, extended]
        cases others with
        | nil => exact ⟨[], c :: last, rfl, rfl⟩
        | cons first more => exact ⟨(c :: first) :: more, last, rfl, rfl⟩

theorem trim_ahead (front text : List Char) (blank : ∀ c ∈ front, isBlank c = true) :
    trim (front ++ text) = trim text := by
  rw [trim, List.dropWhile_append_of_pos blank, trim]

theorem trim_behind (text back : List Char) (blank : ∀ c ∈ back, isBlank c = true) :
    trim (text ++ back) = trim text := by
  have nothing : back.dropWhile isBlank = [] := List.dropWhile_eq_nil_iff.mpr blank
  rw [trim, trim, List.dropWhile_append]
  split
  case isTrue empty => rw [nothing, List.isEmpty_iff.mp empty]
  case isFalse =>
    rw [List.reverse_append, List.dropWhile_append_of_pos (by simpa using blank)]

theorem trim_parts (text : List Char) : ∃ front back, text = front ++ trim text ++ back ∧
    (∀ c ∈ front, isBlank c = true) ∧ ∀ c ∈ back, isBlank c = true := by
  refine ⟨text.takeWhile isBlank, ((text.dropWhile isBlank).reverse.takeWhile isBlank).reverse, ?_,
    fun c member => List.mem_takeWhile_imp member,
    fun c member => List.mem_takeWhile_imp (List.mem_reverse.mp member)⟩
  rw [trim, List.append_assoc, ← List.reverse_append, List.takeWhile_append_dropWhile, List.reverse_reverse,
    List.takeWhile_append_dropWhile]

theorem trim_trim (text : List Char) : trim (trim text) = trim text := by
  obtain ⟨front, back, parts, frontBlank, backBlank⟩ := trim_parts text
  calc
    trim (trim text) = trim (front ++ trim text ++ back) := by
      rw [trim_behind _ back backBlank, trim_ahead front _ frontBlank]
    _ = trim text := by rw [← parts]

theorem mem_trim (text : List Char) (c : Char) (solid : isBlank c = false) : c ∈ trim text ↔ c ∈ text := by
  obtain ⟨front, back, parts, frontBlank, backBlank⟩ := trim_parts text
  have outside (ends : List Char) (blank : ∀ other ∈ ends, isBlank other = true) : c ∉ ends := fun member => by
    rw [blank c member] at solid
    cases solid
  conv_rhs => rw [parts]
  simp [outside front frontBlank, outside back backBlank]

theorem trim_ne_nil (text : List Char) (c : Char) (solid : isBlank c = false) (member : c ∈ text) :
    trim text ≠ [] :=
  List.ne_nil_of_mem ((mem_trim text c solid).mpr member)

theorem pieces_trim (separator : Char) (solid : isBlank separator = false) (text : List Char) :
    (pieces separator (trim text)).map trim = (pieces separator text).map trim := by
  obtain ⟨front, back, parts, frontBlank, backBlank⟩ := trim_parts text
  have outside (ends : List Char) (blank : ∀ c ∈ ends, isBlank c = true) : separator ∉ ends := fun member => by
    rw [blank separator member] at solid
    cases solid
  obtain ⟨others, last, own, extended⟩ := pieces_behind separator (trim text) back (outside back backBlank)
  conv_rhs => rw [parts, List.append_assoc, pieces_ahead separator front _ (outside front frontBlank), extended]
  rw [own]
  cases others with
  | nil => simp [trim_ahead front _ frontBlank, trim_behind last back backBlank]
  | cons first more => simp [trim_ahead front _ frontBlank, trim_behind last back backBlank]

namespace Grammar

theorem segments_row (texts : List (List Char)) (someText : texts ≠ []) :
    segments ([','].intercalate texts) = texts.flatMap segments := by
  rw [segments, pieces_row ',' texts someText, List.map_flatMap]
  rfl

theorem segments_whole (text : List Char) (noComma : ',' ∉ text) : segments text = [trim text] := by
  rw [segments, pieces_whole ',' text noComma]
  rfl

def addText (expand : Expansion) (done : List Rule) (text : List Char) : Except RuleError (List Rule) :=
  (segments text).foldlM (addWhole expand) done

theorem add_blank (expand : Expansion) (done : List Rule) (text : List Char) (blank : trim text = []) :
    addText expand done text = .error .emptyRule := by
  have noComma : ',' ∉ text := fun member => trim_ne_nil text ',' (by decide) member blank
  rw [addText, segments_whole text noComma, blank]
  rfl

theorem add_texts (expand : Expansion) (texts : List (List Char)) (done : List Rule) :
    (texts.flatMap segments).foldlM (addWhole expand) done = texts.foldlM (addText expand) done := by
  induction texts generalizing done with
  | nil => rfl
  | cons text rest ih =>
      rw [List.flatMap_cons, List.foldlM_append, List.foldlM_cons]
      exact bind_congr fun done => ih done

theorem read_filled (expand : Expansion) (text : List Char) (filled : trim text ≠ []) :
    readRules expand text = (addText expand [] text).map List.reverse := by
  rw [readRules, if_neg (by simpa using filled), addText]

theorem read_alone (expand : Expansion) (segment : List Char) (written : IsSegment segment) :
    readRules expand segment =
      (match expand segment with
        | some body => (segments body).foldlM addPart []
        | none => (readSegment expand segment).map ([·])).map List.reverse := by
  have filled : segment.isEmpty = false := by simpa using written.someChar
  have notBlank : trim segment ≠ [] := by
    rw [written.trimmed]
    exact written.someChar
  rw [read_filled expand segment notBlank, addText, segments_whole segment written.noComma, written.trimmed,
    List.foldlM_cons, addWhole, addSegment]
  cases expand segment <;> simp only [filled, Bool.false_eq_true, if_false, List.foldlM_nil, bind_pure]

theorem read_texts (expand : Expansion) (texts : List (List Char))
    (filled : trim ([','].intercalate texts) ≠ []) :
    readRules expand ([','].intercalate texts) = (texts.foldlM (addText expand) []).map List.reverse := by
  have someText : texts ≠ [] := fun noneThere => filled (by rw [noneThere]; rfl)
  rw [read_filled expand _ filled, addText, segments_row texts someText, add_texts]

def around (before : Option (List Char)) (middle : List Char) (after : Option (List Char)) : List Char :=
  [','].intercalate (before.toList ++ middle :: after.toList)

theorem around_filled (before after : Option (List Char)) (middle : List Char) (filled : trim middle ≠ []) :
    trim (around before middle after) ≠ [] := by
  cases before with
  | some text =>
      refine trim_ne_nil _ ',' (by decide) ?_
      rw [around, Option.toList_some, List.singleton_append, List.intercalate_cons_cons]
      simp
  | none =>
      cases after with
      | some text =>
          refine trim_ne_nil _ ',' (by decide) ?_
          rw [around, Option.toList_none, List.nil_append, Option.toList_some, List.intercalate_cons_cons]
          simp
      | none => rwa [around, Option.toList_none, List.nil_append, List.intercalate_singleton]

def readBefore (expand : Expansion) (before : Option (List Char)) : Except RuleError (List Rule) :=
  before.toList.foldlM (addText expand) []

theorem read_around (expand : Expansion) (before after : Option (List Char)) (middle : List Char)
    (filled : trim middle ≠ []) :
    readRules expand (around before middle after) =
      (do
        let done ← readBefore expand before
        let done ← addText expand done middle
        after.toList.foldlM (addText expand) done).map List.reverse := by
  rw [around, read_texts expand _ (around_filled before after middle filled), List.foldlM_append]
  rfl

theorem read_before_ok (expand : Expansion) (text : List Char) (done : List Rule)
    (read : readBefore expand (some text) = .ok done) : readRules expand text = .ok done.reverse := by
  have added : addText expand [] text = .ok done := by
    rw [readBefore, Option.toList_some, List.foldlM_cons] at read
    cases ends : addText expand [] text with
    | error error =>
        rw [ends] at read
        cases read
    | ok rules =>
        rw [ends] at read
        exact read
  have filled : trim text ≠ [] := fun blank => by
    rw [add_blank expand [] text blank] at added
    cases added
  rw [read_filled expand text filled, added]
  rfl

theorem read_before_made (expand : Expansion) (before : Option (List Char))
    (read : ∀ text ∈ before, trim text ≠ [] ∧ (readRules expand text).isOk) :
    ∃ done, readBefore expand before = .ok done := by
  cases before with
  | none => exact ⟨[], rfl⟩
  | some text =>
      obtain ⟨filled, made⟩ := read text rfl
      rw [read_filled expand text filled] at made
      rw [readBefore, Option.toList_some, List.foldlM_cons]
      cases ends : addText expand [] text with
      | error error =>
          rw [ends] at made
          cases made
      | ok done => exact ⟨done, rfl⟩

end Grammar

end RecordRules
