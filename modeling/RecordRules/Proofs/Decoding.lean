import Mathlib.Data.List.Infix
import RecordRules.Proofs.Rows

set_option autoImplicit false

namespace RecordRules

namespace Text

theorem occurs_iff (part text : List Char) : occurs part text = true ↔ part <:+: text := by
  induction text with
  | nil => rw [occurs, List.isEmpty_iff, List.infix_nil]
  | cons c rest ih =>
      rw [occurs, Bool.or_eq_true, ih, startsWith, List.isPrefixOf_iff_prefix, List.infix_cons_iff]

theorem split_parts (separates : Char → Bool) (text : List Char) :
    (∀ piece ∈ text.splitOnP separates, (∀ c ∈ piece, separates c = false) ∧ piece <:+: text) ∧
      ∀ c ∈ text, separates c = false → ∃ piece ∈ text.splitOnP separates, c ∈ piece := by
  -- The first piece begins the text, so that it stays a part of it when a character is put in front.
  suffices ∃ first rest, text.splitOnP separates = first :: rest ∧ first <+: text ∧
      (∀ piece ∈ first :: rest, (∀ c ∈ piece, separates c = false) ∧ piece <:+: text) ∧
      ∀ c ∈ text, separates c = false → ∃ piece ∈ first :: rest, c ∈ piece by
    obtain ⟨first, rest, parts, _, each, held⟩ := this
    exact parts ▸ ⟨each, held⟩
  induction text with
  | nil =>
      refine ⟨[], [], List.splitOnP_nil, List.nil_prefix, ?_, nofun⟩
      exact List.forall_mem_singleton.mpr ⟨nofun, List.nil_infix⟩
  | cons head tail ih =>
      obtain ⟨first, rest, parts, start, each, held⟩ := ih
      have later : ∀ piece ∈ first :: rest, (∀ c ∈ piece, separates c = false) ∧ piece <:+: head :: tail :=
        fun piece member => ⟨(each piece member).1, List.infix_cons (each piece member).2⟩
      rw [List.splitOnP_cons_eq_if_modifyHead, parts]
      by_cases cut : separates head = true
      · rw [if_pos cut]
        refine ⟨[], first :: rest, rfl, List.nil_prefix, ?_, fun c member solid => ?_⟩
        · exact List.forall_mem_cons.mpr ⟨⟨nofun, List.nil_infix⟩, later⟩
        · rcases List.mem_cons.mp member with rfl | behind
          · cases solid.symm.trans cut
          · obtain ⟨piece, there, within⟩ := held c behind solid
            exact ⟨piece, List.mem_cons_of_mem _ there, within⟩
      · rw [if_neg cut, List.modifyHead_cons]
        have longer : head :: first <+: head :: tail := List.cons_prefix_cons.mpr ⟨rfl, start⟩
        have solidFirst := (each first List.mem_cons_self).1
        refine ⟨head :: first, rest, rfl, longer, ?_, fun c member solid => ?_⟩
        · refine List.forall_mem_cons.mpr ⟨⟨?_, longer.isInfix⟩, (List.forall_mem_cons.mp later).2⟩
          exact List.forall_mem_cons.mpr ⟨Bool.eq_false_iff.mpr cut, solidFirst⟩
        · rcases List.mem_cons.mp member with rfl | behind
          · exact ⟨c :: first, List.mem_cons_self, List.mem_cons_self⟩
          · obtain ⟨piece, there, within⟩ := held c behind solid
            rcases List.mem_cons.mp there with rfl | other
            · exact ⟨head :: piece, List.mem_cons_self, List.mem_cons_of_mem _ within⟩
            · exact ⟨piece, List.mem_cons_of_mem _ other, within⟩

theorem mem_words {word text : List Char} (member : word ∈ words text) :
    word ≠ [] ∧ (∀ c ∈ word, isBlank c = false) ∧ word <:+: text := by
  obtain ⟨there, someChar⟩ := List.mem_filter.mp member
  exact ⟨by simpa using someChar, (split_parts isBlank text).1 word there⟩

theorem words_ne_nil {text : List Char} {c : Char} (member : c ∈ text) (solid : isBlank c = false) :
    words text ≠ [] := by
  obtain ⟨word, there, within⟩ := (split_parts isBlank text).2 c member solid
  refine List.ne_nil_of_mem (a := word) (List.mem_filter.mpr ⟨there, ?_⟩)
  simpa using List.ne_nil_of_mem within

theorem mem_pieces {separator : Char} {piece text : List Char} (member : piece ∈ pieces separator text) :
    separator ∉ piece ∧ piece <:+: text := by
  obtain ⟨apart, within⟩ := (split_parts (· == separator) text).1 piece member
  exact ⟨fun there => absurd (apart separator there) (by simp), within⟩

theorem several_pieces {separator : Char} {text : List Char} (member : separator ∈ text) :
    2 ≤ (pieces separator text).length := by
  obtain ⟨before, after, rfl⟩ := List.append_of_mem member
  have someBefore := List.length_pos_iff.mpr (List.splitOn_ne_nil separator before)
  have someAfter := List.length_pos_iff.mpr (List.splitOn_ne_nil separator after)
  rw [pieces_append, List.length_append, pieces, pieces]
  omega

theorem trimmed_part (text : List Char) : trim text <:+: text := by
  obtain ⟨front, back, parts, _⟩ := trim_parts text
  exact ⟨front, back, parts.symm⟩

theorem cut_some {separator : Char} {text before after : List Char}
    (cut : cut? separator text = some (before, after)) :
    text = before ++ separator :: after ∧ separator ∉ before := by
  rw [cut?] at cut
  split at cut
  case h_1 => cases cut
  case h_2 c behind dropped =>
    obtain ⟨rfl, rfl⟩ := Prod.mk.inj (Option.some.inj cut)
    have found := List.head?_dropWhile_not (· != separator) text
    rw [dropped] at found
    obtain rfl : c = separator := by simpa using found
    refine ⟨by rw [← dropped, List.takeWhile_append_dropWhile], fun member => ?_⟩
    simpa using List.mem_takeWhile_imp member

theorem cut_eq_none {separator : Char} {text : List Char} (uncut : cut? separator text = none) :
    separator ∉ text := by
  intro member
  obtain ⟨before, after, rfl, outside⟩ := List.eq_append_cons_of_mem member
  rw [cut_first separator before after outside] at uncut
  cases uncut

theorem search_induction {part : List Char} (somePart : part ≠ []) {holds : List Char → Prop}
    (nothing : holds []) (found : ∀ rest, holds rest → holds (part ++ rest))
    (kept : ∀ c rest, startsWith part (c :: rest) = false → holds rest → holds (c :: rest))
    (text : List Char) : holds text := by
  induction length : text.length using Nat.strongRecOn generalizing text with
  | _ limit ih =>
      cases text with
      | nil => exact nothing
      | cons c rest =>
          by_cases starts : startsWith part (c :: rest) = true
          · obtain ⟨behind, same⟩ := List.isPrefixOf_iff_prefix.mp starts
            have shorter : behind.length < limit := by
              have someChar := List.length_pos_iff.mpr somePart
              rw [← length, ← same, List.length_append]
              omega
            exact same ▸ found behind (ih _ shorter behind rfl)
          · have shorter : rest.length < limit := length ▸ Nat.lt_succ_self _
            exact kept c rest (Bool.eq_false_iff.mpr starts) (ih _ shorter rest rfl)

section Replaced

variable {part : List Char} (somePart : part ≠ []) {mark : Char} (outside : mark ∉ part)
include somePart

theorem replace_found (replacement rest : List Char) :
    replace part replacement (part ++ rest) = replacement ++ replace part replacement rest := by
  have passing (text : List Char) (passed : Nat) :
      replaceFrom part replacement passed text = replace part replacement (text.drop passed) := by
    induction text generalizing passed with
    | nil => cases passed <;> rfl
    | cons c behind ih =>
        cases passed with
        | zero => rfl
        | succ passed => exact ih passed
  cases part with
  | nil => exact absurd rfl somePart
  | cons first others =>
      have starts : startsWith (first :: others) (first :: (others ++ rest)) = true :=
        List.isPrefixOf_iff_prefix.mpr (List.prefix_append (first :: others) rest)
      rw [replace, List.cons_append, replaceFrom, if_pos starts, passing]
      simp

theorem prefix_of_replaced (text : List Char) {front : List Char} (unmarked : mark ∉ front)
    (starts : front <+: replace part [mark] text) : front <+: text := by
  induction front generalizing text with
  | nil => exact List.nil_prefix
  | cons first rest ih =>
      obtain ⟨different, unmarked⟩ := not_or.mp (fun member => unmarked (List.mem_cons.mpr member))
      cases text with
      | nil => exact starts
      | cons c behind =>
          by_cases found : startsWith part (c :: behind) = true
          · obtain ⟨others, same⟩ := List.isPrefixOf_iff_prefix.mp found
            rw [← same, replace_found somePart] at starts
            exact absurd (List.cons_prefix_cons.mp starts).1.symm different
          · rw [replace_cons _ _ _ _ (Bool.eq_false_iff.mpr found)] at starts
            obtain ⟨same, starts⟩ := List.cons_prefix_cons.mp starts
            exact List.cons_prefix_cons.mpr ⟨same, ih behind unmarked starts⟩

theorem infix_of_replaced (text : List Char) {inner : List Char} (someInner : inner ≠ []) (unmarked : mark ∉ inner)
    (within : inner <:+: replace part [mark] text) : inner <:+: text := by
  induction text using search_induction somePart with
  | nothing => exact within
  | found rest ih =>
      rw [replace_found somePart, List.singleton_append, List.infix_cons_iff] at within
      rcases within with start | behind
      · cases inner with
        | nil => exact absurd rfl someInner
        | cons first others =>
            exact absurd ((List.cons_prefix_cons.mp start).1 ▸ List.mem_cons_self) unmarked
      · exact List.infix_append_of_infix_right (ih behind)
  | kept c rest elsewhere ih =>
      have replaced := replace_cons part [mark] c rest elsewhere
      rw [replaced, List.infix_cons_iff] at within
      rcases within with start | behind
      · exact (prefix_of_replaced somePart (c :: rest) unmarked (replaced ▸ start)).isInfix
      · exact List.infix_cons (ih behind)

theorem solid_replaced (solid : isBlank mark = false) (text : List Char)
    (someSolid : ∃ c ∈ text, isBlank c = false) : ∃ c ∈ replace part [mark] text, isBlank c = false := by
  induction text using search_induction somePart with
  | nothing => exact someSolid
  | found rest ih =>
      rw [replace_found somePart]
      exact ⟨mark, List.mem_append_left _ List.mem_cons_self, solid⟩
  | kept c rest elsewhere ih =>
      obtain ⟨other, member, otherSolid⟩ := someSolid
      rw [replace_cons _ _ _ _ elsewhere]
      rcases List.mem_cons.mp member with rfl | behind
      · exact ⟨other, List.mem_cons_self, otherSolid⟩
      · obtain ⟨found, there, foundSolid⟩ := ih ⟨other, behind, otherSolid⟩
        exact ⟨found, List.mem_cons_of_mem _ there, foundSolid⟩

include outside

theorem replaced_away (text : List Char) : ¬ part <:+: replace part [mark] text := by
  induction text using search_induction somePart with
  | nothing => exact fun within => somePart (List.infix_nil.mp within)
  | found rest ih =>
      rw [replace_found somePart, List.singleton_append, List.infix_cons_iff]
      rintro (start | behind)
      · cases part with
        | nil => exact somePart rfl
        | cons first others => exact outside ((List.cons_prefix_cons.mp start).1 ▸ List.mem_cons_self)
      · exact ih behind
  | kept c rest elsewhere ih =>
      have replaced := replace_cons part [mark] c rest elsewhere
      rw [replaced, List.infix_cons_iff]
      rintro (start | behind)
      · have there := prefix_of_replaced somePart (c :: rest) outside (replaced ▸ start)
        rw [startsWith, List.isPrefixOf_iff_prefix.mpr there] at elsewhere
        cases elsewhere
      · exact ih behind

end Replaced

end Text

namespace Escape

open Text

theorem plain_iff (text : List Char) : isPlain text = true ↔ ¬ comma <:+: text ∧ ¬ bar <:+: text := by
  rw [isPlain, Bool.and_eq_true, Bool.not_eq_true', Bool.not_eq_true', ← occurs_iff, ← occurs_iff,
    Bool.not_eq_true, Bool.not_eq_true]

theorem plain_part {part text : List Char} (within : part <:+: text) (plain : isPlain text = true) :
    isPlain part = true := by
  obtain ⟨noComma, noBar⟩ := (plain_iff text).mp plain
  exact (plain_iff part).mpr ⟨fun found => noComma (found.trans within), fun found => noBar (found.trans within)⟩

theorem decode_plain (text : List Char) : isPlain (decode text) = true := by
  refine (plain_iff _).mpr ⟨fun found => ?_, replaced_away (by decide) (by decide) _⟩
  exact replaced_away (by decide) (by decide) text (infix_of_replaced (by decide) _ (by decide) (by decide) found)

theorem decode_some_solid (text : List Char) (someSolid : ∃ c ∈ text, isBlank c = false) :
    ∃ c ∈ decode text, isBlank c = false :=
  solid_replaced (by decide) (by decide) _ (solid_replaced (by decide) (by decide) text someSolid)

end Escape

end RecordRules
