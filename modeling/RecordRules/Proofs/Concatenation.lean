import RecordRules.Proofs.Outcome
import RecordRules.Proofs.Rows

set_option autoImplicit false

namespace RecordRules

inductive Rule.Extends : Rule → Rule → Prop where
  | same (rule : Rule) : Extends rule rule
  | presence (kind : Presence) (targets more : List String) :
      Extends (.clause (.presence kind (targets ++ more))) (.clause (.presence kind targets))
  | conditional (kind : Conditional) (pairs more : List Pair) :
      Extends (.clause (.conditional kind (pairs ++ more))) (.clause (.conditional kind pairs))
  | skipUnless (pairs more : List Pair) : Extends (.skipUnless (pairs ++ more)) (.skipUnless pairs)

theorem Rule.extends_trans {first second third : Rule} (later : third.Extends second)
    (earlier : second.Extends first) : third.Extends first := by
  cases earlier with
  | same => exact later
  | presence kind targets more =>
      cases later with
      | same => exact .presence kind targets more
      | presence _ _ others => rw [List.append_assoc]; exact .presence kind targets (more ++ others)
  | conditional kind pairs more =>
      cases later with
      | same => exact .conditional kind pairs more
      | conditional _ _ others => rw [List.append_assoc]; exact .conditional kind pairs (more ++ others)
  | skipUnless pairs more =>
      cases later with
      | same => exact .skipUnless pairs more
      | skipUnless _ others => rw [List.append_assoc]; exact .skipUnless pairs (more ++ others)

namespace Grammar

theorem extend_ok {segment : List Char} {last longer : Rule} (made : extend segment last = .ok longer) :
    longer.Extends last := by
  cases last with
  | clause clause =>
      cases clause with
      | presence kind targets =>
          obtain rfl := Except.ok.inj made
          exact .presence kind targets _
      | conditional kind pairs =>
          obtain ⟨more, _, made⟩ := ok_of_bind made
          obtain rfl := Except.ok.inj made
          exact .conditional kind pairs more
      | _ =>
          obtain rfl := Except.ok.inj made
          exact .same _
  | skipUnless pairs =>
      obtain ⟨more, _, made⟩ := ok_of_bind made
      obtain rfl := Except.ok.inj made
      exact .skipUnless pairs more
  | _ =>
      obtain rfl := Except.ok.inj made
      exact .same _

-- From some rules to those that are there after more has been read, the last one first.
inductive Lengthens : List Rule → List Rule → Prop where
  | start (rules : List Rule) : Lengthens [] rules
  | on {last longer : Rule} (extended : longer.Extends last) (more before : List Rule) :
      Lengthens (last :: before) (more ++ longer :: before)

theorem lengthens_refl (rules : List Rule) : Lengthens rules rules := by
  cases rules with
  | nil => exact .start []
  | cons last before => exact .on (.same last) [] before

theorem lengthens_push (rule : Rule) (done : List Rule) : Lengthens done (rule :: done) := by
  cases done with
  | nil => exact .start _
  | cons last before => exact .on (.same last) [rule] before

theorem lengthens_trans {first second third : List Rule} (earlier : Lengthens first second)
    (later : Lengthens second third) : Lengthens first third := by
  cases earlier with
  | start => exact .start third
  | @on last longer extended more before =>
      cases more with
      | nil =>
          cases later with
          | on again others => exact .on (Rule.extends_trans again extended) others before
      | cons newest rest =>
          cases later with
          | @on _ final again others =>
              have whole := Lengthens.on extended (others ++ final :: rest) before
              rwa [List.append_assoc] at whole

theorem lengthens_some {done rules : List Rule} (lengthens : Lengthens done rules) (someRule : done ≠ []) :
    rules ≠ [] := by
  cases lengthens with
  | start => exact absurd rfl someRule
  | on => simp

theorem add_segment_ok {start : List Rule → Except RuleError (List Rule)} {segment : List Char}
    {done rules : List Rule} (added : addSegment start segment done = .ok rules)
    (started : start done = .ok rules → rules ≠ [] ∧ Lengthens done rules) :
    rules ≠ [] ∧ Lengthens done rules := by
  cases done with
  | nil =>
      rw [addSegment] at added
      split at added
      · cases added
      · exact started added
  | cons last before =>
      rw [addSegment] at added
      split at added
      · cases added
      · split at added
        · obtain ⟨longer, extended, rfl⟩ := ok_of_map added
          exact ⟨List.cons_ne_nil _ _, .on (extend_ok extended) [] before⟩
        · exact started added

theorem add_all_ok {add : List Rule → List Char → Except RuleError (List Rule)}
    (step : ∀ done segment rules, add done segment = .ok rules → rules ≠ [] ∧ Lengthens done rules)
    {items : List (List Char)} {done rules : List Rule} (added : items.foldlM add done = .ok rules) :
    Lengthens done rules ∧ (items ≠ [] → rules ≠ []) := by
  induction items generalizing done with
  | nil => exact ⟨Except.ok.inj added ▸ lengthens_refl done, absurd rfl⟩
  | cons segment rest ih =>
      rw [List.foldlM_cons] at added
      obtain ⟨middle, first, later⟩ := ok_of_bind added
      obtain ⟨someRule, lengthens⟩ := step done segment middle first
      have onward := (ih later).1
      exact ⟨lengthens_trans lengthens onward, fun _ => lengthens_some onward someRule⟩

theorem push_ok {expand : Expansion} {segment : List Char} {done rules : List Rule}
    (pushed : (readSegment expand segment).map (· :: done) = .ok rules) :
    rules ≠ [] ∧ Lengthens done rules := by
  obtain ⟨rule, _, rfl⟩ := ok_of_map pushed
  exact ⟨List.cons_ne_nil _ _, lengthens_push rule done⟩

theorem add_part_ok (done : List Rule) (segment : List Char) (rules : List Rule)
    (added : addPart done segment = .ok rules) : rules ≠ [] ∧ Lengthens done rules :=
  add_segment_ok added push_ok

theorem segments_ne_nil (text : List Char) : segments text ≠ [] := fun empty =>
  List.splitOn_ne_nil ',' text (List.map_eq_nil_iff.mp empty)

theorem add_whole_ok (expand : Expansion) (done : List Rule) (segment : List Char) (rules : List Rule)
    (added : addWhole expand done segment = .ok rules) : rules ≠ [] ∧ Lengthens done rules := by
  refine add_segment_ok added fun started => ?_
  split at started
  case h_1 body _ =>
    obtain ⟨lengthens, someRule⟩ := add_all_ok add_part_ok started
    exact ⟨someRule (segments_ne_nil body), lengthens⟩
  case h_2 => exact push_ok started

theorem add_text_ok (expand : Expansion) (text : List Char) (done rules : List Rule)
    (added : addText expand done text = .ok rules) : rules ≠ [] ∧ Lengthens done rules := by
  obtain ⟨lengthens, someRule⟩ := add_all_ok (add_whole_ok expand) added
  exact ⟨someRule (segments_ne_nil text), lengthens⟩

def IsLocal (add : List Rule → List Char → Except RuleError (List Rule)) : Prop :=
  ∀ own done segment, own ≠ [] → add (own ++ done) segment = (add own segment).map (· ++ done)

theorem add_all_over {add : List Rule → List Char → Except RuleError (List Rule)} (isLocal : IsLocal add)
    (step : ∀ done segment rules, add done segment = .ok rules → rules ≠ [] ∧ Lengthens done rules)
    (own done : List Rule) (someRule : own ≠ []) (items : List (List Char)) :
    items.foldlM add (own ++ done) = (items.foldlM add own).map (· ++ done) := by
  induction items generalizing own with
  | nil => rfl
  | cons segment rest ih =>
      rw [List.foldlM_cons, List.foldlM_cons, isLocal own done segment someRule]
      cases first : add own segment with
      | error error => rfl
      | ok rules => exact ih rules (step own segment rules first).1

theorem add_all_afresh {add : List Rule → List Char → Except RuleError (List Rule)} (isLocal : IsLocal add)
    (step : ∀ done segment rules, add done segment = .ok rules → rules ≠ [] ∧ Lengthens done rules)
    (done : List Rule) (first : List Char) (rest : List (List Char))
    (afresh : add done first = (add [] first).map (· ++ done)) :
    (first :: rest).foldlM add done = ((first :: rest).foldlM add []).map (· ++ done) := by
  rw [List.foldlM_cons, List.foldlM_cons, afresh]
  cases added : add [] first with
  | error error => rfl
  | ok rules => exact add_all_over isLocal step rules done (step [] first rules added).1 rest

theorem add_segment_over (start : List Rule → Except RuleError (List Rule)) (segment : List Char)
    (own done : List Rule) (someRule : own ≠ [])
    (started : start (own ++ done) = (start own).map (· ++ done)) :
    addSegment start segment (own ++ done) = (addSegment start segment own).map (· ++ done) := by
  cases own with
  | nil => exact absurd rfl someRule
  | cons last before =>
      rw [List.cons_append] at started ⊢
      rw [addSegment, addSegment]
      split
      · rfl
      · split
        · cases extend segment last <;> rfl
        · exact started

theorem add_segment_afresh (start : List Rule → Except RuleError (List Rule)) (segment : List Char)
    (last : Rule) (before : List Rule) (apart : continues segment last = false)
    (started : start (last :: before) = (start []).map (· ++ last :: before)) :
    addSegment start segment (last :: before) = (addSegment start segment []).map (· ++ last :: before) := by
  rw [addSegment, addSegment]
  split
  · rfl
  · simpa only [apart, Bool.false_eq_true, if_false] using started

theorem push_over (expand : Expansion) (segment : List Char) (own done : List Rule) :
    (readSegment expand segment).map (· :: (own ++ done)) =
      ((readSegment expand segment).map (· :: own)).map (· ++ done) := by
  cases readSegment expand segment <;> rfl

theorem add_part_local : IsLocal addPart := fun own done segment someRule =>
  add_segment_over _ segment own done someRule (push_over noExpansion segment own done)

theorem add_whole_local (expand : Expansion) : IsLocal (addWhole expand) := by
  intro own done segment someRule
  refine add_segment_over _ segment own done someRule ?_
  cases expand segment with
  | none => exact push_over expand segment own done
  | some body => exact add_all_over add_part_local add_part_ok own done someRule (segments body)

def StartsAfresh (expand : Expansion) (text : List Char) (last : Rule) : Prop :=
  ∀ first ∈ (segments text).head?, continues first last = false ∧
    ∀ body ∈ expand first, ∀ part ∈ (segments body).head?, continues part last = false

instance (expand : Expansion) (text : List Char) (last : Rule) : Decidable (StartsAfresh expand text last) :=
  inferInstanceAs (Decidable (∀ first ∈ (segments text).head?, _))

theorem add_text_afresh (expand : Expansion) (text : List Char) (last : Rule) (before : List Rule)
    (afresh : StartsAfresh expand text last) :
    addText expand (last :: before) text = (addText expand [] text).map (· ++ last :: before) := by
  rw [addText, addText]
  rw [StartsAfresh] at afresh
  cases parts : segments text with
  | nil => exact absurd parts (segments_ne_nil text)
  | cons first rest =>
      obtain ⟨apart, bodyApart⟩ := afresh first (by rw [parts]; rfl)
      refine add_all_afresh (add_whole_local expand) (add_whole_ok expand) _ first rest ?_
      refine add_segment_afresh _ first last before apart ?_
      cases found : expand first with
      | none => exact push_over expand first [] (last :: before)
      | some body =>
          cases bodyParts : segments body with
          | nil => exact absurd bodyParts (segments_ne_nil body)
          | cons part others =>
              simp only
              rw [bodyParts]
              refine add_all_afresh add_part_local add_part_ok _ part others ?_
              exact add_segment_afresh _ part last before (bodyApart body found part (by rw [bodyParts]; rfl))
                (push_over noExpansion part [] (last :: before))

theorem read_joined (expand : Expansion) (a b : List Char) :
    readRules expand (a ++ ',' :: b) =
      ((addText expand [] a).bind fun done => addText expand done b).map List.reverse := by
  have row : a ++ ',' :: b = [','].intercalate [a, b] := by
    rw [List.intercalate_cons_cons, List.intercalate_singleton, List.append_assoc]
    rfl
  have filled : Text.trim (a ++ ',' :: b) ≠ [] :=
    trim_ne_nil _ ',' (by decide) (List.mem_append_right a List.mem_cons_self)
  rw [row] at filled ⊢
  rw [read_texts expand [a, b] filled]
  simp only [List.foldlM_cons, List.foldlM_nil, bind_pure]
  rfl

theorem read_ok {expand : Expansion} {text : List Char} (filled : Text.trim text ≠ []) {rules : List Rule}
    (read : readRules expand text = .ok rules) :
    ∃ last before, addText expand [] text = .ok (last :: before) ∧ rules = before.reverse ++ [last] := by
  rw [read_filled expand text filled] at read
  obtain ⟨done, added, rfl⟩ := ok_of_map read
  cases done with
  | nil => exact absurd rfl (add_text_ok expand text [] [] added).1
  | cons last before => exact ⟨last, before, added, List.reverse_cons⟩

theorem parse_joined (aliases : Aliases) (a b : String) (aFilled : Text.trim a.toList ≠ [])
    (bFilled : Text.trim b.toList ≠ []) :
    (∀ error, parse aliases a = .error error → parse aliases (a ++ "," ++ b) = .error error) ∧
    ∀ rules, parse aliases a = .ok rules → ∃ front last, rules = front ++ [last] ∧
      (StartsAfresh (aliasExpansion aliases) b.toList last →
        (∀ others, parse aliases b = .ok others → parse aliases (a ++ "," ++ b) = .ok (rules ++ others)) ∧
        ∀ error, parse aliases b = .error error → parse aliases (a ++ "," ++ b) = .error error) ∧
      ∀ all, parse aliases (a ++ "," ++ b) = .ok all →
        ∃ longer rest, all = front ++ longer :: rest ∧ longer.Extends last := by
  have joined : (a ++ "," ++ b).toList = a.toList ++ ',' :: b.toList := by
    rw [String.toList_append, String.toList_append, List.append_assoc]
    rfl
  simp only [parse, joined, read_joined]
  refine ⟨fun error read => ?_, fun rules read => ?_⟩
  · rw [read_filled _ _ aFilled] at read
    cases added : addText (aliasExpansion aliases) [] a.toList with
    | error cause =>
        rw [added] at read
        exact read
    | ok done =>
        rw [added] at read
        cases read
  · obtain ⟨last, before, added, rfl⟩ := read_ok aFilled read
    simp only [added, Except.bind]
    refine ⟨before.reverse, last, rfl, fun afresh => ?_, fun all whole => ?_⟩
    · rw [add_text_afresh _ _ last before afresh, read_filled _ _ bFilled]
      refine ⟨fun others otherRead => ?_, fun error failed => ?_⟩
      · obtain ⟨own, ownAdded, rfl⟩ := ok_of_map otherRead
        rw [ownAdded]
        simp [Except.map]
      · cases own : addText (aliasExpansion aliases) [] b.toList with
        | error cause =>
            rw [own] at failed
            exact failed
        | ok rules =>
            rw [own] at failed
            cases failed
    · obtain ⟨done, later, rfl⟩ := ok_of_map whole
      cases (add_text_ok _ _ _ _ later).2 with
      | @on _ longer extended more =>
          exact ⟨longer, more.reverse, by simp, extended⟩

theorem contact_joined :
    let aliases : Aliases := .ofList [("contact", "required_with=email,phone")]
    Text.trim "omitempty,required_with=name".toList ≠ [] ∧ Text.trim "min=3,contact,street".toList ≠ [] ∧
    StartsAfresh (aliasExpansion aliases) "min=3,contact,street".toList
      (.clause (.presence ⟨true, true, false⟩ ["name"])) ∧
    parse aliases "omitempty,required_with=name,min=3,contact,street" =
      .ok [.omitEmpty, .clause (.presence ⟨true, true, false⟩ ["name"]), .clause (.leaf "min" (some "3")),
        .clause (.presence ⟨true, true, false⟩ ["email", "phone", "street"])] := by
  intro aliases
  have afresh : StartsAfresh (aliasExpansion aliases) "min=3,contact,street".toList
      (.clause (.presence ⟨true, true, false⟩ ["name"])) := by decide
  refine ⟨by decide, by decide, afresh, ?_⟩
  obtain ⟨front, last, parts, joined, _⟩ := (parse_joined aliases "omitempty,required_with=name"
    "min=3,contact,street" (by decide) (by decide)).2
      [.omitEmpty, .clause (.presence ⟨true, true, false⟩ ["name"])] rfl
  have ends := congrArg List.getLast? parts
  rw [List.getLast?_concat] at ends
  obtain rfl : .clause (.presence ⟨true, true, false⟩ ["name"]) = last := Option.some.inj ends
  exact (joined afresh).1 _ rfl

end Grammar

end RecordRules
