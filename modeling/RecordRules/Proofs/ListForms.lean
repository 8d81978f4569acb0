import RecordRules.Proofs.Reading

set_option autoImplicit false

namespace RecordRules

open Text

structure IsEntry (item : List Char) : Prop extends IsWord item where
  noEquals : '=' ∉ item

-- Two gates start a rule of their own after a list of fields.
def ListRule.Continues (item : List Char) : ListRule → Prop
  | presence _ => item ≠ Keyword.skip.tag.toList ∧ item ≠ Keyword.omitEmpty.tag.toList
  | conditional _ | skipUnless => True

namespace Grammar

theorem continues_entry (list : ListRule) (items : List (List Char)) (item : List Char) (entry : IsEntry item)
    (admitted : list.Admits item) (goesOn : list.Continues item) :
    continues item (list.holding items) = true := by
  have noEquals := entry.noEquals
  have noBar := entry.noBar
  cases list with
  | presence kind =>
      obtain ⟨noSkip, noOmit⟩ := goesOn
      have apart (word : Keyword) (different : item ≠ word.tag.toList) : String.ofList item ≠ word.tag :=
        fun same => different (by rw [← same, String.toList_ofList])
      simp [ListRule.holding, continues, noEquals, noBar, apart _ noSkip, apart _ noOmit]
  | conditional kind =>
      obtain ⟨field, literal, rfl, _⟩ := admitted
      simp_all [ListRule.holding, continues]
  | skipUnless =>
      obtain ⟨field, literal, rfl, _⟩ := admitted
      simp_all [ListRule.holding, continues]

theorem extend_entry (list : ListRule) (items : List (List Char)) (item : List Char) (entry : IsEntry item)
    (admitted : list.Admits item) :
    extend item (list.holding items) = .ok (list.holding (items ++ [item])) := by
  have alone := words_blankless item entry.someChar entry.blankless
  have pair (rule : String) (isPair : IsPair item) : readPairs rule item = .ok [Pair.ofItem item] := by
    rw [readPairs, alone]
    exact read_pairs_items rule [item] (by simpa using isPair)
  cases list with
  | presence kind =>
      simp only [ListRule.holding, extend, readTargets, alone, List.map_append]
  | conditional kind =>
      simp only [ListRule.holding, extend, pair _ admitted, List.map_append]
      rfl
  | skipUnless =>
      simp only [ListRule.holding, extend, pair _ admitted, List.map_append]
      rfl

theorem add_entries (expand : Expansion) (list : ListRule) (rest items : List (List Char))
    (entries : ∀ item ∈ rest, IsEntry item) (admitted : ∀ item ∈ rest, list.Admits item)
    (goOn : ∀ item ∈ rest, list.Continues item) :
    rest.foldlM (addWhole expand) [list.holding items] = .ok [list.holding (items ++ rest)] := by
  induction rest generalizing items with
  | nil => rw [List.append_nil]; rfl
  | cons item others ih =>
      have entry := entries item List.mem_cons_self
      have first := admitted item List.mem_cons_self
      have continued := continues_entry list items item entry first (goOn item List.mem_cons_self)
      have added : addWhole expand [list.holding items] item = .ok [list.holding (items ++ [item])] := by
        rw [addWhole, addSegment, if_neg (by simpa using entry.someChar)]
        simp only [continued, if_true, extend_entry list items item entry first]
        rfl
      rw [List.foldlM_cons, added]
      have later := ih (items ++ [item]) (fun other member => entries other (List.mem_cons_of_mem _ member))
        (fun other member => admitted other (List.mem_cons_of_mem _ member))
        (fun other member => goOn other (List.mem_cons_of_mem _ member))
      rw [List.append_assoc] at later
      exact later

theorem read_continued (expand : Expansion) (list : ListRule) (first : List Char) (rest : List (List Char))
    (entries : ∀ item ∈ first :: rest, IsEntry item) (firstAdmitted : list.Admits (Escape.decode first))
    (admitted : ∀ item ∈ rest, list.Admits item) (goOn : ∀ item ∈ rest, list.Continues item)
    (unaliased : expand (list.word.taking first) = none) :
    readRules expand (list.word.taking ([','].intercalate (first :: rest))) =
      .ok [list.holding (Escape.decode first :: rest)] := by
  have row : list.word.taking ([','].intercalate (first :: rest)) =
      [','].intercalate (list.word.taking first :: rest) := by
    cases rest with
    | nil => rw [List.intercalate_singleton, List.intercalate_singleton]
    | cons second others =>
        rw [List.intercalate_cons_cons, List.intercalate_cons_cons, Keyword.taking, Keyword.taking]
        simp only [List.append_assoc, List.cons_append]
  have head := entries first List.mem_cons_self
  have later := fun item member => entries item (List.mem_cons_of_mem first member)
  have read : readRule (list.word.taking first) = .ok (list.holding [Escape.decode first]) := by
    have alone := read_listing list [first] (List.cons_ne_nil _ _)
      (List.forall_mem_singleton.mpr head.toIsWord) (List.forall_mem_singleton.mpr firstAdmitted)
    rwa [Keyword.listing, List.intercalate_singleton] at alone
  have branch := taking_branch list.word first head.branch
  have started := add_rule expand [] (list.word.taking first) _ branch.someChar (by simp)
    unaliased ((read_single expand _ branch.noBar).trans read)
  have written : ∀ segment ∈ list.word.taking first :: rest, IsSegment segment :=
    List.forall_mem_cons.mpr ⟨branch.toIsSegment, fun item member => (later item member).branch.toIsSegment⟩
  rw [row, read_row expand _ (List.cons_ne_nil _ _) written, List.foldlM_cons, started]
  have added := add_entries expand list rest [Escape.decode first] later admitted goOn
  simp only [bind, Except.bind, added]
  rfl

theorem read_spaced (expand : Expansion) (list : ListRule) (items : List (List Char)) (someItem : items ≠ [])
    (entries : ∀ item ∈ items, IsEntry item) (admitted : ∀ item ∈ items.map Escape.decode, list.Admits item)
    (unaliased : expand (list.word.listing items) = none) :
    readRules expand (list.word.listing items) = .ok [list.holding (items.map Escape.decode)] := by
  have written := fun item member => (entries item member).toIsWord
  have branch := listing_branch list.word items someItem written
  have started := add_rule expand [] (list.word.listing items) _ branch.someChar (by simp)
    unaliased ((read_single expand _ branch.noBar).trans (read_listing list items someItem written admitted))
  have whole := read_row expand [list.word.listing items] (List.cons_ne_nil _ _)
    (List.forall_mem_singleton.mpr branch.toIsSegment)
  rw [List.intercalate_singleton, List.foldlM_cons, started] at whole
  exact whole

-- With spaces between the items every item is decoded, with commas only the first one is. So the forms
-- agree on lists whose later items hold no escape, and on no others.
theorem list_forms (aliases : Aliases) (list : ListRule) (first : List Char) (rest : List (List Char))
    (entries : ∀ item ∈ first :: rest, IsEntry item) (admitted : ∀ item ∈ first :: rest, list.Admits item)
    (goOn : ∀ item ∈ rest, list.Continues item)
    (noAlias : aliases.body? (String.ofList (list.word.taking first)) = none)
    (noAliasSpaced : aliases.body? (String.ofList (list.word.listing (first :: rest))) = none) :
    let commas := String.ofList (list.word.taking ([','].intercalate (first :: rest)))
    let spaces := String.ofList (list.word.listing (first :: rest))
    parse aliases commas = .ok [list.holding (Escape.decode first :: rest)] ∧
    parse aliases spaces = .ok [list.holding ((first :: rest).map Escape.decode)] ∧
    (parse aliases commas = parse aliases spaces ↔ ∀ item ∈ rest, Escape.decode item = item) := by
  intro commas spaces
  have later := (List.forall_mem_cons.mp admitted).2
  have decoded : ∀ item ∈ (first :: rest).map Escape.decode, list.Admits item :=
    List.forall_mem_map.mpr fun item member => decoded_admitted list item (admitted item member)
  have halfDecoded : ∀ item ∈ Escape.decode first :: rest, list.Admits item :=
    List.forall_mem_cons.mpr ⟨decoded_admitted list first (admitted first List.mem_cons_self), later⟩
  have withCommas : parse aliases commas = .ok [list.holding (Escape.decode first :: rest)] := by
    rw [parse, String.toList_ofList]
    exact read_continued _ list first rest entries (halfDecoded _ List.mem_cons_self) later goOn
      (by rw [aliasExpansion, noAlias]; rfl)
  have withSpaces : parse aliases spaces = .ok [list.holding ((first :: rest).map Escape.decode)] := by
    rw [parse, String.toList_ofList]
    exact read_spaced _ list (first :: rest) (List.cons_ne_nil _ _) entries decoded
      (by rw [aliasExpansion, noAliasSpaced]; rfl)
  refine ⟨withCommas, withSpaces, ?_⟩
  rw [withCommas, withSpaces]
  constructor
  · intro same
    obtain ⟨alike, _⟩ := List.cons.inj (Except.ok.inj same)
    have items := holding_injective list _ _ halfDecoded decoded alike
    have kept : rest.map Escape.decode = rest.map id :=
      (List.cons.inj items).2.symm.trans (List.map_id rest).symm
    exact List.map_inj_left.mp kept
  · intro unchanged
    rw [List.map_cons, List.map_congr_left unchanged, List.map_id']

theorem escaped_list_forms :
    let list := ListRule.presence ⟨true, true, false⟩
    let first := "a0x7Cb".toList
    let rest := ["b0x2Cc".toList, "d".toList]
    (∀ item ∈ first :: rest, IsEntry item) ∧ (∀ item ∈ first :: rest, list.Admits item) ∧
    (∀ item ∈ rest, list.Continues item) ∧
    Aliases.body? .empty (String.ofList (list.word.taking first)) = none ∧
    Aliases.body? .empty (String.ofList (list.word.listing (first :: rest))) = none ∧
    parse .empty (String.ofList (list.word.taking ([','].intercalate (first :: rest)))) ≠
      parse .empty (String.ofList (list.word.listing (first :: rest))) := by
  intro list first rest
  have entries : ∀ item ∈ first :: rest, IsEntry item := by
    rw [List.forall_mem_cons, List.forall_mem_cons, List.forall_mem_singleton]
    exact ⟨⟨⟨by decide, blankless_of_any _ (by decide), by decide, by decide⟩, by decide⟩,
      ⟨⟨by decide, blankless_of_any _ (by decide), by decide, by decide⟩, by decide⟩,
      ⟨⟨by decide, blankless_of_any _ (by decide), by decide, by decide⟩, by decide⟩⟩
  have admitted : ∀ item ∈ first :: rest, list.Admits item := fun _ _ => trivial
  have goOn : ∀ item ∈ rest, list.Continues item := by
    rw [List.forall_mem_cons, List.forall_mem_singleton]
    exact ⟨⟨by decide, by decide⟩, ⟨by decide, by decide⟩⟩
  have noAlias : Aliases.body? .empty (String.ofList (list.word.taking first)) = none := by decide
  have noAliasSpaced : Aliases.body? .empty (String.ofList (list.word.listing (first :: rest))) = none := by
    decide
  refine ⟨entries, admitted, goOn, noAlias, noAliasSpaced, fun same => ?_⟩
  have forms := list_forms .empty list first rest entries admitted goOn noAlias noAliasSpaced
  exact absurd (forms.2.2.mp same "b0x2Cc".toList List.mem_cons_self) (by decide)

theorem escape_kept_after_comma :
    parse .empty "required_with=a,b0x2Cc" = .ok [.clause (.presence ⟨true, true, false⟩ ["a", "b0x2Cc"])] ∧
    parse .empty "required_with=a b0x2Cc" = .ok [.clause (.presence ⟨true, true, false⟩ ["a", "b,c"])] := by
  constructor <;> rfl

end Grammar

end RecordRules
