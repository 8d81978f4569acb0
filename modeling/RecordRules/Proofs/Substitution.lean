import RecordRules.Proofs.Decoding
import RecordRules.Proofs.Escapes

set_option autoImplicit false

namespace RecordRules.Escape

open Text

def substitute : List Char → List Char
  | '0' :: 'x' :: '2' :: 'C' :: rest => ',' :: substitute rest
  | '0' :: 'x' :: '7' :: 'C' :: rest => '|' :: substitute rest
  | c :: rest => c :: substitute rest
  | [] => []

theorem starts_nowhere {part text : List Char} (nowhere : ∀ after, part ++ after ≠ text) :
    startsWith part text = false := by
  apply Bool.eq_false_iff.mpr
  intro found
  obtain ⟨after, same⟩ := List.isPrefixOf_iff_prefix.mp found
  exact nowhere after same

structure Apart (part other : List Char) (mark : Char) : Prop where
  somePart : part ≠ []
  someOther : other ≠ []
  unmarked : mark ∉ other
  passed : ∀ rest, replace part [mark] (other ++ rest) = other ++ replace part [mark] rest
  behind : ∀ rest, other <:+: part ++ rest → other <:+: rest

theorem comma_apart : Apart comma bar ',' where
  somePart := by decide
  someOther := by decide
  unmarked := by decide
  passed := fun _ => rfl
  behind := fun rest => by simp [comma, bar, List.infix_cons_iff, List.cons_prefix_cons]

theorem bar_apart : Apart bar comma '|' where
  somePart := by decide
  someOther := by decide
  unmarked := by decide
  passed := fun _ => rfl
  behind := fun rest => by simp [comma, bar, List.infix_cons_iff, List.cons_prefix_cons]

namespace Apart

variable {part other : List Char} {mark : Char} (apart : Apart part other mark)
include apart

theorem infix_iff (text : List Char) : other <:+: replace part [mark] text ↔ other <:+: text := by
  refine ⟨infix_of_replaced apart.somePart text apart.someOther apart.unmarked, fun within => ?_⟩
  induction text using search_induction apart.somePart with
  | nothing => exact within
  | found rest ih =>
      rw [replace_found apart.somePart]
      exact List.infix_append_of_infix_right (ih (apart.behind rest within))
  | kept c rest elsewhere ih =>
      rcases List.infix_cons_iff.mp within with start | later
      · obtain ⟨after, same⟩ := start
        rw [← same, apart.passed]
        exact (List.prefix_append _ _).isInfix
      · rw [replace_cons _ _ _ _ elsewhere]
        exact List.infix_cons (ih later)

variable (second : Char) (rest : List Char)

theorem rounds_part :
    replace other [second] (replace part [mark] (part ++ rest)) =
      mark :: replace other [second] (replace part [mark] rest) := by
  have noStart (behind : List Char) : startsWith other (mark :: behind) = false := by
    apply starts_nowhere
    intro after same
    obtain ⟨first, others, rfl⟩ := List.exists_cons_of_ne_nil apart.someOther
    exact apart.unmarked ((List.cons.inj same).1 ▸ List.mem_cons_self)
  rw [replace_found apart.somePart, List.singleton_append, replace_cons _ _ _ _ (noStart _)]

theorem rounds_other :
    replace other [second] (replace part [mark] (other ++ rest)) =
      second :: replace other [second] (replace part [mark] rest) := by
  rw [apart.passed, replace_found apart.someOther, List.singleton_append]

theorem rounds_kept {c : Char} (noPart : startsWith part (c :: rest) = false)
    (noOther : startsWith other (c :: rest) = false) :
    replace other [second] (replace part [mark] (c :: rest)) =
      c :: replace other [second] (replace part [mark] rest) := by
  have kept := replace_cons part [mark] c rest noPart
  have noStart : startsWith other (c :: replace part [mark] rest) = false := by
    apply starts_nowhere
    intro after same
    have start : other <+: replace part [mark] (c :: rest) := ⟨after, same.trans kept.symm⟩
    have before := prefix_of_replaced apart.somePart (c :: rest) apart.unmarked start
    rw [startsWith, List.isPrefixOf_iff_prefix.mpr before] at noOther
    cases noOther
  rw [kept, replace_cons _ _ _ _ noStart]

end Apart

theorem kept_apart {c : Char} {rest : List Char}
    (noComma : ∀ after, c = '0' → rest = 'x' :: '2' :: 'C' :: after → False)
    (noBar : ∀ after, c = '0' → rest = 'x' :: '7' :: 'C' :: after → False) :
    startsWith comma (c :: rest) = false ∧ startsWith bar (c :: rest) = false := by
  refine ⟨starts_nowhere fun after same => ?_, starts_nowhere fun after same => ?_⟩
  · obtain ⟨rfl, rfl⟩ := List.cons.inj same
    exact noComma after rfl rfl
  · obtain ⟨rfl, rfl⟩ := List.cons.inj same
    exact noBar after rfl rfl

-- Neither round makes or breaks what the other one looks for, so that both together are one pass from
-- left to right.
theorem decode_substitute (text : List Char) : decode text = substitute text := by
  fun_induction substitute text with
  | case1 rest ih =>
      rw [← ih]
      exact comma_apart.rounds_part '|' rest
  | case2 rest ih =>
      rw [← ih]
      exact comma_apart.rounds_other '|' rest
  | case3 c rest noComma noBar ih =>
      obtain ⟨commaElsewhere, barElsewhere⟩ := kept_apart noComma noBar
      rw [← ih]
      exact comma_apart.rounds_kept '|' rest commaElsewhere barElsewhere
  | case4 => rfl

theorem swapped_substitute (text : List Char) :
    replace comma [','] (replace bar ['|'] text) = substitute text := by
  fun_induction substitute text with
  | case1 rest ih =>
      rw [← ih]
      exact bar_apart.rounds_other ',' rest
  | case2 rest ih =>
      rw [← ih]
      exact bar_apart.rounds_part ',' rest
  | case3 c rest noComma noBar ih =>
      obtain ⟨commaElsewhere, barElsewhere⟩ := kept_apart noComma noBar
      rw [← ih]
      exact bar_apart.rounds_kept ',' rest barElsewhere commaElsewhere
  | case4 => rfl

theorem decode_of_plain (text : List Char) (plain : isPlain text = true) : decode text = text := by
  obtain ⟨noComma, noBar⟩ := (plain_iff text).mp plain
  rw [decode_substitute]
  fun_induction substitute text with
  | case1 rest => exact absurd (List.prefix_append comma rest).isInfix noComma
  | case2 rest => exact absurd (List.prefix_append bar rest).isInfix noBar
  | case3 c rest _ _ ih =>
      have part := List.suffix_cons c rest |>.isInfix
      rw [ih (plain_part part plain) (fun found => noComma (found.trans part))
        fun found => noBar (found.trans part)]
  | case4 => rfl

theorem decode_encode_iff (text : List Char) :
    decode (encode text) = text ↔ ¬ comma <:+: text ∧ ¬ bar <:+: text := by
  rw [← plain_iff]
  exact ⟨fun back => back ▸ decode_plain _, decode_encode text⟩

theorem decode_once (text : List Char) :
    decode text = substitute text ∧
    decode text = replace comma [','] (replace bar ['|'] text) ∧
    (bar <:+: replace comma [','] text ↔ bar <:+: text) ∧
    (comma <:+: replace bar ['|'] text ↔ comma <:+: text) ∧
    (¬ comma <:+: decode text ∧ ¬ bar <:+: decode text) ∧
    decode (decode text) = decode text ∧
    (decode (encode text) = text ↔ ¬ comma <:+: text ∧ ¬ bar <:+: text) := by
  have plain := decode_plain text
  have swapped : decode text = replace comma [','] (replace bar ['|'] text) := by
    rw [swapped_substitute, decode_substitute]
  exact ⟨decode_substitute text, swapped, comma_apart.infix_iff text, bar_apart.infix_iff text,
    (plain_iff _).mp plain, decode_of_plain _ plain, decode_encode_iff text⟩

example : decode "0x0x2C2C0x7C".toList = "0x,2C|".toList := by decide

end RecordRules.Escape
