set_option autoImplicit false

namespace RecordRules.Text

def pieces (separator : Char) (text : List Char) : List (List Char) :=
  text.splitOn separator

def cut? (separator : Char) (text : List Char) : Option (List Char × List Char) :=
  match text.dropWhile (· != separator) with
  | [] => none
  | _ :: after => some (text.takeWhile (· != separator), after)

def startsWith (part text : List Char) : Bool := part.isPrefixOf text

def endsWith (part text : List Char) : Bool := part.reverse.isPrefixOf text.reverse

def occurs (part : List Char) : List Char → Bool
  | [] => part.isEmpty
  | c :: rest => startsWith part (c :: rest) || occurs part rest

-- A found part is written once and its remaining characters are passed over.
def replaceFrom (part replacement : List Char) : Nat → List Char → List Char
  | _, [] => []
  | passed + 1, _ :: rest => replaceFrom part replacement passed rest
  | 0, c :: rest =>
      if startsWith part (c :: rest) then
        replacement ++ replaceFrom part replacement (part.length - 1) rest
      else c :: replaceFrom part replacement 0 rest

def replace (part replacement text : List Char) : List Char :=
  replaceFrom part replacement 0 text

example : pieces ',' ",a,".toList = [[], ['a'], []] := by decide

theorem cut_first (separator : Char) (before after : List Char) (outside : separator ∉ before) :
    cut? separator (before ++ separator :: after) = some (before, after) := by
  have passed : ∀ c ∈ before, (c != separator) = true := fun c member =>
    bne_iff_ne.mpr fun same => outside (same ▸ member)
  rw [cut?, List.dropWhile_append_of_pos passed, List.takeWhile_append_of_pos passed]
  simp

theorem cut_none (separator : Char) (text : List Char) (outside : separator ∉ text) :
    cut? separator text = none := by
  have passed : ∀ c ∈ text, (c != separator) = true := fun c member =>
    bne_iff_ne.mpr fun same => outside (same ▸ member)
  rw [cut?, ← List.append_nil text, List.dropWhile_append_of_pos passed]
  rfl

example : cut? '=' "a=b=c".toList = some (['a'], "b=c".toList) := by decide

theorem starts_with_append (part before after : List Char) (c : Char) (outside : c ∉ part) :
    startsWith part (before ++ c :: after) = startsWith part before := by
  rw [startsWith, startsWith]
  induction part generalizing before with
  | nil => simp
  | cons first rest ih =>
      obtain ⟨different, outside⟩ := not_or.mp (fun member => outside (List.mem_cons.mpr member))
      cases before with
      | nil =>
          rw [List.nil_append, List.isPrefixOf_cons_cons, beq_false_of_ne (Ne.symm different)]
          rfl
      | cons head tail =>
          rw [List.cons_append, List.isPrefixOf_cons_cons, List.isPrefixOf_cons_cons, ih tail outside]

theorem replace_append (part replacement before after : List Char) (c : Char) (somePart : part ≠ [])
    (outside : c ∉ part) :
    replace part replacement (before ++ c :: after) =
      replace part replacement before ++ c :: replace part replacement after := by
  have passing (passed : Nat) (within : passed ≤ before.length) :
      replaceFrom part replacement passed (before ++ c :: after) =
        replaceFrom part replacement passed before ++ c :: replace part replacement after := by
    induction before generalizing passed with
    | nil =>
        have apart : startsWith part (c :: after) = false := by
          have nowhere := starts_with_append part [] after c outside
          rw [List.nil_append] at nowhere
          rw [nowhere, startsWith]
          cases part with
          | nil => exact absurd rfl somePart
          | cons first rest => rfl
        obtain rfl := Nat.le_zero.mp within
        simp only [List.nil_append, replaceFrom, apart, Bool.false_eq_true, if_false]
        rfl
    | cons head tail ih =>
        cases passed with
        | succ passed => exact ih passed (Nat.le_of_succ_le_succ within)
        | zero =>
            have same := starts_with_append part (head :: tail) after c outside
            rw [List.cons_append] at same
            rw [List.cons_append, replaceFrom, replaceFrom, same]
            by_cases found : startsWith part (head :: tail)
            · have room : part.length - 1 ≤ tail.length := by
                have fits := (List.isPrefixOf_iff_prefix.mp found).length_le
                rw [List.length_cons] at fits
                omega
              rw [if_pos found, if_pos found, ih _ room, List.append_assoc]
            · rw [if_neg found, if_neg found, ih 0 (Nat.zero_le _), List.cons_append]
  exact passing 0 (Nat.zero_le _)

theorem mem_replace_from (part replacement text : List Char) (c : Char) (passed : Nat)
    (member : c ∈ replaceFrom part replacement passed text) : c ∈ replacement ∨ c ∈ text := by
  induction text generalizing passed with
  | nil => cases passed <;> cases member
  | cons head tail ih =>
      cases passed with
      | succ passed => exact (ih passed member).imp_right (List.mem_cons_of_mem _)
      | zero =>
          rw [replaceFrom] at member
          split at member
          · rcases List.mem_append.mp member with written | later
            · exact .inl written
            · exact (ih _ later).imp_right (List.mem_cons_of_mem _)
          · rcases List.mem_cons.mp member with here | later
            · exact .inr (here ▸ List.mem_cons_self)
            · exact (ih 0 later).imp_right (List.mem_cons_of_mem _)

theorem replace_ne_nil (part replacement text : List Char) (someReplacement : replacement ≠ [])
    (someText : text ≠ []) : replace part replacement text ≠ [] := by
  cases text with
  | nil => exact absurd rfl someText
  | cons head tail =>
      rw [replace, replaceFrom]
      split
      · simp [someReplacement]
      · exact List.cons_ne_nil _ _

theorem replace_cons (part replacement : List Char) (c : Char) (rest : List Char)
    (elsewhere : startsWith part (c :: rest) = false) :
    replace part replacement (c :: rest) = c :: replace part replacement rest := by
  simp only [replace, replaceFrom, elsewhere, Bool.false_eq_true, if_false]

example : replace "aa".toList ['b'] "aaaaa".toList = "bba".toList := by decide

end RecordRules.Text
