import RecordRules.Constraint.OfClause
import RecordRules.Proofs.Retrieval

set_option autoImplicit false

namespace RecordRules

variable {n : Nat}

namespace Presence

def opposite (kind : Presence) : Presence :=
  { kind with watchesSet := !kind.watchesSet, needsAll := !kind.needsAll }

theorem triggered_iff (kind : Presence) (states : List Bool) :
    kind.triggered states = true ↔
      if kind.needsAll then ∀ state ∈ states, state = kind.watchesSet
      else ∃ state ∈ states, state = kind.watchesSet := by
  rw [triggered]
  by_cases whole : kind.needsAll
  · simp [whole]
  · simp [whole]

theorem triggered_opposite (kind : Presence) (states : List Bool) :
    kind.opposite.triggered states = !kind.triggered states := by
  obtain ⟨requires, watchesSet, needsAll⟩ := kind
  have other : ∀ state : Bool, (state == !watchesSet) = !(state == watchesSet) := by
    cases watchesSet <;> decide
  cases needsAll with
  | false => simp only [triggered, opposite, other, Bool.not_false, if_true, Bool.false_eq_true, if_false,
      List.not_any_eq_all_not]
  | true => simp only [triggered, opposite, other, Bool.not_true, if_true, Bool.false_eq_true, if_false,
      List.not_all_eq_any_not]

theorem triggered_congr (kind : Presence) {states others : List Bool}
    (same : ∀ state, state ∈ states ↔ state ∈ others) :
    kind.triggered states = kind.triggered others := by
  rw [Bool.eq_iff_iff, triggered_iff, triggered_iff]
  simp only [same]

def fails (S : Schema n) (record : Instance n) (value : Value n) (targets : List (FieldPath n))
    (kind : Presence) : Bool :=
  ((CrossRule.presence kind targets).violation? S record value).isSome

variable {S : Schema n} {record : Instance n} {value : Value n} {targets : List (FieldPath n)}

theorem fails_iff (kind : Presence) :
    kind.fails S record value targets = true ↔
      kind.triggered (targets.map (FieldPath.isSet S record)) = true ∧ value.isEmpty = kind.requires := by
  rw [fails, CrossRule.violation?]
  split
  case isTrue holds => simpa using holds
  case isFalse holds => simpa using holds

def rivals (watchesSet needsAll : Bool) : List Presence :=
  [⟨true, watchesSet, needsAll⟩, ⟨true, !watchesSet, !needsAll⟩, ⟨false, watchesSet, needsAll⟩,
    ⟨false, !watchesSet, !needsAll⟩]

theorem mem_rivals (watchesSet needsAll : Bool) (kind : Presence) :
    kind ∈ rivals watchesSet needsAll ↔
      kind = ⟨kind.requires, watchesSet, needsAll⟩ ∨
      kind = opposite ⟨kind.requires, watchesSet, needsAll⟩ := by
  obtain ⟨requires, watches, needs⟩ := kind
  cases requires <;> simp [rivals, opposite]

-- The targets pick the trigger, and the value picks the demand.
theorem fails_once (S : Schema n) (record : Instance n) (value : Value n) (targets : List (FieldPath n))
    (watchesSet needsAll : Bool) :
    ∃ kind ∈ rivals watchesSet needsAll, kind.fails S record value targets = true ∧
      kind.requires = value.isEmpty ∧
      ∀ other ∈ rivals watchesSet needsAll, other.fails S record value targets = true → other = kind := by
  have mine := mem_rivals watchesSet needsAll
  let kind : Presence := ⟨value.isEmpty, watchesSet, needsAll⟩
  have flipped := kind.triggered_opposite (targets.map (FieldPath.isSet S record))
  -- Which trigger a rule has does not depend on what it demands.
  have demand (other : Presence) (failing : other.fails S record value targets = true) :
      (other = ⟨other.requires, watchesSet, needsAll⟩ → other = kind) ∧
      (other = opposite ⟨other.requires, watchesSet, needsAll⟩ → other = kind.opposite) := by
    obtain ⟨_, agrees⟩ := fails_iff other |>.mp failing
    rw [← agrees]
    exact ⟨id, id⟩
  by_cases fires : kind.triggered (targets.map (FieldPath.isSet S record)) = true
  · refine ⟨kind, (mine kind).mpr (.inl rfl), (fails_iff kind).mpr ⟨fires, rfl⟩, rfl, ?_⟩
    intro other member failing
    rcases (mine other).mp member with straight | turned
    · exact (demand other failing).1 straight
    · have silent := (fails_iff other).mp failing
      rw [(demand other failing).2 turned, flipped, fires] at silent
      exact absurd silent.1 (by decide)
  · have silent := Bool.not_eq_true _ |>.mp fires
    rw [silent] at flipped
    refine ⟨kind.opposite, (mine kind.opposite).mpr (.inr rfl), (fails_iff _).mpr ⟨flipped, rfl⟩, rfl, ?_⟩
    intro other member failing
    rcases (mine other).mp member with straight | turned
    · have fired := (fails_iff other).mp failing
      rw [(demand other failing).1 straight] at fired
      exact absurd fired.1 fires
    · exact (demand other failing).2 turned

theorem fails_congr (kind : Presence) {other : Instance n} {others : List (FieldPath n)}
    (same : ∀ state, state ∈ targets.map (FieldPath.isSet S record) ↔
      state ∈ others.map (FieldPath.isSet S other)) :
    kind.fails S record value targets = kind.fails S other value others := by
  rw [Bool.eq_iff_iff, fails_iff, fails_iff, triggered_congr kind same]

theorem required_iff (kind : Presence) :
    "required_".toList <+: kind.tag.toList ↔ kind.requires = true := by
  obtain ⟨requires, watchesSet, needsAll⟩ := kind
  cases requires <;> cases watchesSet <;> cases needsAll <;> decide

end Presence

namespace FieldPath

variable {S : Schema n} {record : Instance n}

theorem set_iff (path : FieldPath n) :
    path.isSet S record = true ↔ ∃ value, path.read S record = .ok value ∧ value.isEmpty = false := by
  rw [isSet]
  cases path.read S record with
  | ok value => simp
  | error error => simp

theorem set_reaches_iff {root : Fin n} {text : String} {path : FieldPath n}
    (resolved : resolve S root text = .ok path) (type : record.type = root) (fit : record.fits S) :
    path.isSet S record = true ↔
      ∃ value, record.Reaches S path.segments value ∧ value.isEmpty = false := by
  rw [set_iff]
  exact exists_congr fun value => and_congr_left fun _ => read_ok_iff resolved type fit value

theorem behind_link_unset {root : Fin n} {text : String} {path : FieldPath n}
    (resolved : resolve S root text = .ok path) (type : record.type = root) (fit : record.fits S)
    {front : List String} (stops : record.StopsAt S path.segments front) :
    path.isSet S record = false := by
  refine Bool.eq_false_iff.mpr fun set => ?_
  obtain ⟨value, reaches, _⟩ := (set_reaches_iff resolved type fit).mp set
  exact Instance.stops_apart stops reaches

end FieldPath

open FieldPath Presence

theorem named_rival {watchesSet needsAll : Bool} {name : String} {kind : Presence}
    (listed : name ∈ (rivals watchesSet needsAll).map tag)
    (named : Keyword.ofTag? name = some (.presence kind)) : kind ∈ rivals watchesSet needsAll := by
  obtain ⟨other, member, rfl⟩ := List.mem_map.mp listed
  have same : some (Keyword.presence other) = some (.presence kind) :=
    (Keyword.of_tag_tag (.presence other)).symm.trans named
  cases same
  exact member

theorem named_once {S : Schema n} {record : Instance n} {value : Value n} {targets : List (FieldPath n)}
    (watchesSet needsAll : Bool) :
    let fails (name : String) : Prop := ∃ kind,
      Keyword.ofTag? name = some (.presence kind) ∧ kind.fails S record value targets = true
    ∃ name ∈ (rivals watchesSet needsAll).map tag,
      fails name ∧ ("required_".toList <+: name.toList ↔ value.isEmpty = true) ∧
        ∀ other ∈ (rivals watchesSet needsAll).map tag, fails other → other = name := by
  intro fails
  obtain ⟨kind, member, failing, demand, alone⟩ := fails_once S record value targets watchesSet needsAll
  have named : Keyword.ofTag? kind.tag = some (.presence kind) := Keyword.of_tag_tag (.presence kind)
  refine ⟨kind.tag, List.mem_map_of_mem member, ⟨kind, named, failing⟩, ?_, ?_⟩
  · rw [required_iff, demand]
  · rintro other listed ⟨found, otherNamed, also⟩
    have same := alone found (named_rival listed otherNamed) also
    exact (Keyword.tag_of_tag otherNamed).symm.trans (congrArg tag same)

theorem presence_partition (S : Schema n) (record : Instance n) (value : Value n)
    (targets : List (FieldPath n)) :
    let fails (name : String) : Prop := ∃ kind,
      Keyword.ofTag? name = some (.presence kind) ∧ kind.fails S record value targets = true
    (∀ names ∈ [["required_with", "required_without_all", "excluded_with", "excluded_without_all"],
        ["required_with_all", "required_without", "excluded_with_all", "excluded_without"]],
      ∃ name ∈ names, fails name ∧ ("required_".toList <+: name.toList ↔ value.isEmpty = true) ∧
        ∀ other ∈ names, fails other → other = name) ∧
    (∀ root text path, resolve S root text = .ok path → record.type = root → record.fits S →
      (path.isSet S record = true ↔
        ∃ reached, record.Reaches S path.segments reached ∧ reached.isEmpty = false) ∧
      ∀ front, record.StopsAt S path.segments front → path.isSet S record = false) ∧
    (∀ (kind : Presence) (others : List (FieldPath n)), (∀ path, path ∈ targets ↔ path ∈ others) →
      kind.fails S record value targets = kind.fails S record value others) ∧
    ∀ (kind : Presence) (front back : List (FieldPath n)) (path other : FieldPath n)
      (emptied : Instance n) (text link : String) (empty : Value n),
      path.read S record = .error (.nilLink text link) →
      other.read S emptied = .ok empty → empty.isEmpty = true →
      (∀ rest ∈ front ++ back, rest.isSet S record = rest.isSet S emptied) →
      kind.fails S record value (front ++ path :: back) =
        kind.fails S emptied value (front ++ other :: back) := by
  intro fails
  refine ⟨?_, ?_, ?_, ?_⟩
  · intro names listed
    rcases List.mem_pair.mp listed with rfl | rfl
    · exact named_once true false
    · exact named_once true true
  · intro root text path resolved type fit
    refine ⟨set_reaches_iff resolved type fit, ?_⟩
    intro front stops
    exact behind_link_unset resolved type fit stops
  · intro kind others same
    apply fails_congr
    intro state
    simp only [List.mem_map, same]
  · intro kind front back path other emptied text link empty behind found becomesEmpty agree
    have unset : path.isSet S record = false := by
      rw [isSet, behind]
    have emptiedToo : other.isSet S emptied = false := by
      rw [isSet, found]
      simp [becomesEmpty]
    have ahead : front.map (isSet S record) = front.map (isSet S emptied) :=
      List.map_congr_left fun rest member => agree rest (List.mem_append_left _ member)
    have after : back.map (isSet S record) = back.map (isSet S emptied) :=
      List.map_congr_left fun rest member => agree rest (List.mem_append_right _ member)
    apply fails_congr
    intro state
    rw [List.map_append, List.map_append, List.map_cons, List.map_cons, unset, emptiedToo, ahead, after]

theorem presence_behind_link :
    let next : Step 2 := ⟨"next", 0, .optional (.optional (.record 0))⟩
    let leaf : List (Step 2) := [⟨"leaf", 1, .record 1⟩, ⟨"size", 0, .optional .int⟩]
    let own : FieldPath 2 := ⟨"leaf.size", 0, leaf⟩
    let near : FieldPath 2 := ⟨"next.leaf.size", 0, next :: leaf⟩
    let far : FieldPath 2 := ⟨"next.next.leaf.size", 0, next :: next :: leaf⟩
    let value : Value 2 := .str "x"
    far.read chain twoNodes = .error (.nilLink "next.next.leaf.size" "next.next") ∧
      near.read chain twoNodes = .ok .nil ∧
      far.isSet chain twoNodes = false ∧
      (∀ kind : Presence, kind.fails chain twoNodes value [far, own] =
        kind.fails chain twoNodes value [near, own]) ∧
      (∀ kind : Presence, kind.fails chain twoNodes value [far, own] =
        kind.fails chain twoNodes value [own, far, own]) ∧
      ∃ name ∈ ["required_with", "required_without_all", "excluded_with", "excluded_without_all"],
        ¬"required_".toList <+: name.toList ∧
        ∃ kind, Keyword.ofTag? name = some (.presence kind) ∧
          kind.fails chain twoNodes value [far, own] = true := by
  intro next leaf own near far value
  have farResolved : resolve chain 0 "next.next.leaf.size" = .ok far := by cbv
  have behind : far.read chain twoNodes = .error (.nilLink "next.next.leaf.size" "next.next") := by cbv
  have unset : near.read chain twoNodes = .ok .nil := by cbv
  have linked : FirstNamed (chain 0).fields "next" 0
      ⟨"next", .optional (.optional (.record 0)), "", true⟩ :=
    (field_iff _ _ _ _).mp (by decide)
  obtain ⟨once, targets, reordered, replaced⟩ :=
    presence_partition chain twoNodes value [far, own]
  obtain ⟨_, stopped⟩ := targets 0 _ far farResolved rfl (by decide)
  have stops : twoNodes.StopsAt chain far.segments ["next", "next"] :=
    ⟨⟨"leaf", ["size"], rfl⟩, .on linked rfl (.last linked rfl)⟩
  obtain ⟨name, listed, failing, demand, _⟩ := once _ (List.mem_cons_self ..)
  refine ⟨behind, unset, stopped _ stops, fun kind => ?_, fun kind => ?_, name, listed, ?_, failing⟩
  · exact replaced kind [] [own] far near _ _ _ .nil behind unset rfl (fun _ _ => rfl)
  · exact reordered kind [own, far, own] (by simp)
  · rw [demand]
    decide

end RecordRules
