import Mathlib
import RecordRules.Proofs.Below
import RecordRules.Proofs.Decoding
import RecordRules.Proofs.Walk

set_option autoImplicit false

namespace RecordRules

variable {n : Nat}

structure FirstNamed (fields : List (FieldDef n)) (name : String) (index : Nat) (field : FieldDef n) : Prop where
  there : fields[index]? = some field
  named : field.name = name
  first : ∀ earlier other, earlier < index → fields[earlier]? = some other → other.name ≠ name

theorem first_named_cons (first : FieldDef n) (rest : List (FieldDef n)) (name : String) (index : Nat)
    (field : FieldDef n) (different : first.name ≠ name) :
    FirstNamed (first :: rest) name (index + 1) field ↔ FirstNamed rest name index field := by
  constructor
  · intro found
    exact ⟨found.there, found.named, fun earlier other before =>
      found.first (earlier + 1) other (Nat.succ_lt_succ before)⟩
  · intro found
    refine ⟨found.there, found.named, fun earlier other before there => ?_⟩
    cases earlier with
    | zero => exact Option.some.inj there ▸ different
    | succ earlier => exact found.first earlier other (Nat.lt_of_succ_lt_succ before) there

theorem find_field_iff (name : String) (fields : List (FieldDef n)) (start index : Nat) (field : FieldDef n) :
    findField name fields start = some (start + index, field) ↔ FirstNamed fields name index field := by
  induction fields generalizing start index with
  | nil => exact ⟨nofun, fun found => nomatch found.there⟩
  | cons first rest ih =>
      rw [findField]
      by_cases same : first.name = name
      · rw [if_pos same]
        constructor
        · intro found
          obtain ⟨position, rfl⟩ := Prod.mk.inj (Option.some.inj found)
          obtain rfl : index = 0 := by omega
          exact ⟨rfl, same, fun earlier _ before => absurd before (Nat.not_lt_zero earlier)⟩
        · intro found
          cases index with
          | zero => rw [Option.some.inj found.there, Nat.add_zero]
          | succ index => exact absurd same (found.first 0 first (Nat.succ_pos _) rfl)
      · rw [if_neg same]
        cases index with
        | zero =>
            constructor
            · intro found
              have behind := (find_field_some name rest (start + 1) _ field found).1
              omega
            · exact fun found => absurd (Option.some.inj found.there ▸ found.named) same
        | succ index =>
            have position : start + (index + 1) = start + 1 + index := by omega
            rw [first_named_cons first rest name index field same, position]
            exact ih (start + 1) index

theorem field_iff (type : RecordType n) (name : String) (index : Nat) (field : FieldDef n) :
    type.field? name = some (index, field) ↔ FirstNamed type.fields name index field := by
  have found := find_field_iff name type.fields 0 index field
  rwa [Nat.zero_add] at found

theorem field_none_iff (type : RecordType n) (name : String) :
    type.field? name = none ↔ ∀ field ∈ type.fields, field.name ≠ name := by
  rw [RecordType.field?]
  generalize 0 = start
  induction type.fields generalizing start with
  | nil => exact iff_of_true rfl (List.forall_mem_nil _)
  | cons first rest ih =>
      rw [findField, List.forall_mem_cons]
      by_cases same : first.name = name
      · rw [if_pos same]
        exact iff_of_false (Option.some_ne_none _) fun nowhere => nowhere.1 same
      · rw [if_neg same, ih (start + 1)]
        exact ⟨fun nowhere => ⟨same, nowhere⟩, And.right⟩

def FieldType.Holds (type : FieldType n) (inner : Fin n) : Prop :=
  ∃ links : Nat, type = FieldType.optional^[links] (.record inner)

theorem record_iff_holds (type : FieldType n) (inner : Fin n) : type.record? = some inner ↔ type.Holds inner := by
  constructor
  · intro found
    induction type with
    | optional within ih =>
        obtain ⟨links, rfl⟩ := ih found
        exact ⟨links + 1, (Function.iterate_succ_apply' _ _ _).symm⟩
    | record id => exact ⟨0, congrArg FieldType.record (Option.some.inj found)⟩
    | _ => cases found
  · rintro ⟨links, rfl⟩
    induction links with
    | zero => rfl
    | succ links ih =>
        rw [Function.iterate_succ_apply']
        exact ih

namespace Schema

structure Offers (S : Schema n) (id : Fin n) (step : Step n) : Prop where
  filled : step.name ≠ ""
  found : ∃ field, FirstNamed (S id).fields step.name step.index field ∧ field.exported = true ∧
    field.type = step.type

inductive Descends (S : Schema n) : Fin n → List (Step n) → Fin n → Prop where
  | here (id : Fin n) : Descends S id [] id
  | down {id inner last : Fin n} {step : Step n} {steps : List (Step n)} (offered : S.Offers id step)
      (holds : step.type.Holds inner) (more : Descends S inner steps last) : Descends S id (step :: steps) last

def Refers (S : Schema n) (root : Fin n) (steps : List (Step n)) : Prop :=
  ∃ front last id, steps = front ++ [last] ∧ S.Descends root front id ∧ S.Offers id last

-- What is wrong with a segment, given those before it and behind it.
inductive Faulty (S : Schema n) (text : String) (before : List String) (id : Fin n) (segment : String)
    (rest : List String) : PathError → Prop where
  | empty (nothing : segment = "") : Faulty S text before id segment rest (.emptySegment text)
  | missing (filled : segment ≠ "") (nowhere : ∀ field ∈ (S id).fields, field.name ≠ segment) :
      Faulty S text before id segment rest (.notFound (S.nameOf id) segment)
  | hidden {index : Nat} {field : FieldDef n} (filled : segment ≠ "")
      (found : FirstNamed (S id).fields segment index field) (hidden : field.exported = false) :
      Faulty S text before id segment rest (.unexported (S.nameOf id) segment)
  | flat {step : Step n} (offered : S.Offers id step) (named : step.name = segment) (goesOn : rest ≠ [])
      (flat : ∀ inner, ¬step.type.Holds inner) :
      Faulty S text before id segment rest (.notARecord (FieldPath.dotted (before ++ [segment])))

end Schema

namespace FieldPath

variable {S : Schema n}

theorem resolve_offered {id : Fin n} {step : Step n} (offered : S.Offers id step) (text : String)
    (passed rest : List String) :
    resolveSteps S text id passed (step.name :: rest) =
      match rest, step.type.record? with
      | [], _ => .ok [step]
      | _ :: _, none => .error (.notARecord (dotted (passed ++ [step.name])))
      | _ :: _, some inner => (resolveSteps S text inner (passed ++ [step.name]) rest).map (step :: ·) := by
  obtain ⟨field, found, exported, type⟩ := offered.found
  obtain ⟨name, index, own⟩ := step
  dsimp only at type
  subst type
  have filled : name.isEmpty = false := by simpa using offered.filled
  have there := (field_iff _ _ _ _).mpr found
  cases rest with
  | nil => simp only [resolveSteps, filled, there, exported, Bool.false_eq_true, Bool.not_true, if_false]
  | cons next others =>
      cases nested : field.type.record? <;>
        simp only [resolveSteps, filled, there, exported, nested, Bool.false_eq_true, Bool.not_true, if_false]

theorem resolve_faulty {id : Fin n} {text segment : String} {passed rest : List String} {error : PathError}
    (faulty : S.Faulty text passed id segment rest error) :
    resolveSteps S text id passed (segment :: rest) = .error error := by
  cases faulty with
  | empty nothing => rw [resolveSteps, if_pos (String.isEmpty_iff.mpr nothing)]
  | missing filled nowhere =>
      have filled : segment.isEmpty = false := by simpa using filled
      simp only [resolveSteps, filled, (field_none_iff _ _).mpr nowhere, Bool.false_eq_true, if_false]
  | hidden filled found hidden =>
      have filled : segment.isEmpty = false := by simpa using filled
      simp only [resolveSteps, filled, (field_iff _ _ _ _).mpr found, hidden, Bool.false_eq_true, if_false,
        Bool.not_false, if_true]
  | flat offered named goesOn flat =>
      subst named
      have noRecord := Option.eq_none_iff_forall_ne_some.mpr fun inner found =>
        flat inner ((record_iff_holds _ inner).mp found)
      cases rest with
      | nil => exact absurd rfl goesOn
      | cons next others => rw [resolve_offered offered, noRecord]

theorem segment_cases (S : Schema n) (id : Fin n) (text segment : String) (passed rest : List String) :
    (∃ error, S.Faulty text passed id segment rest error) ∨
      ∃ step, step.name = segment ∧ S.Offers id step ∧ (rest = [] ∨ ∃ inner, step.type.Holds inner) := by
  by_cases filled : segment = ""
  · exact .inl ⟨_, .empty filled⟩
  cases found : (S id).field? segment with
  | none => exact .inl ⟨_, .missing filled ((field_none_iff _ _).mp found)⟩
  | some entry =>
      obtain ⟨index, field⟩ := entry
      have first := (field_iff _ _ _ _).mp found
      cases exported : field.exported with
      | false => exact .inl ⟨_, .hidden filled first exported⟩
      | true =>
          let step : Step n := ⟨segment, index, field.type⟩
          have offered : S.Offers id step := ⟨filled, field, first, exported, rfl⟩
          by_cases goesOn : rest = []
          · exact .inr ⟨step, rfl, offered, .inl goesOn⟩
          by_cases held : ∃ inner, step.type.Holds inner
          · exact .inr ⟨step, rfl, offered, .inr held⟩
          · exact .inl ⟨_, .flat offered rfl goesOn (not_exists.mp held)⟩

theorem resolve_along {root id : Fin n} {front : List (Step n)} (descends : S.Descends root front id)
    (text : String) (passed rest : List String) (someRest : rest ≠ []) :
    resolveSteps S text root passed (front.map Step.name ++ rest) =
      (resolveSteps S text id (passed ++ front.map Step.name) rest).map (front ++ ·) := by
  induction descends generalizing passed with
  | here id =>
      rw [List.map_nil, List.nil_append, List.append_nil]
      cases resolveSteps S text id passed rest <;> rfl
  | @down id inner last step steps offered holds more ih =>
      obtain ⟨next, others, behind⟩ : ∃ next others, steps.map Step.name ++ rest = next :: others :=
        List.exists_cons_of_ne_nil (List.append_ne_nil_of_right_ne_nil _ someRest)
      have later := ih (passed ++ [step.name])
      rw [behind] at later
      rw [List.map_cons, List.cons_append, behind, resolve_offered offered, (record_iff_holds _ _).mpr holds]
      simp only [later, List.append_assoc, List.singleton_append]
      cases resolveSteps S text last (passed ++ step.name :: steps.map Step.name) rest <;> rfl

theorem resolve_refers {root : Fin n} {steps : List (Step n)} (refers : S.Refers root steps) (text : String)
    (passed : List String) : resolveSteps S text root passed (steps.map Step.name) = .ok steps := by
  obtain ⟨front, last, id, rfl, descends, offered⟩ := refers
  rw [List.map_append, resolve_along descends text passed _ (by simp), List.map_singleton, resolve_offered offered]
  rfl

theorem reference_cases (S : Schema n) (root : Fin n) (text : String) (passed names : List String)
    (someName : names ≠ []) :
    (∃ steps, steps.map Step.name = names ∧ S.Refers root steps) ∨
      ∃ front segment rest id error, names = front.map Step.name ++ segment :: rest ∧ S.Descends root front id ∧
        S.Faulty text (passed ++ front.map Step.name) id segment rest error := by
  induction names generalizing root passed with
  | nil => exact absurd rfl someName
  | cons name rest ih =>
      rcases segment_cases S root text name passed rest with ⟨error, faulty⟩ | ⟨step, rfl, offered, ends⟩
      · exact .inr ⟨[], name, rest, root, error, rfl, .here root, by rwa [List.map_nil, List.append_nil]⟩
      by_cases last : rest = []
      · exact .inl ⟨[step], by rw [last]; rfl, [], step, root, rfl, .here root, offered⟩
      obtain ⟨inner, holds⟩ := ends.resolve_left last
      rcases ih inner (passed ++ [step.name]) last with ⟨steps, named, refers⟩ | broken
      · obtain ⟨front, final, id, rfl, descends, finalOffered⟩ := refers
        exact .inl ⟨step :: (front ++ [final]), by rw [List.map_cons, named], step :: front, final, id, rfl,
          .down offered holds descends, finalOffered⟩
      · obtain ⟨front, segment, others, id, error, parts, descends, faulty⟩ := broken
        rw [List.append_assoc] at faulty
        exact .inr ⟨step :: front, segment, others, id, error, by rw [parts]; rfl, .down offered holds descends,
          faulty⟩

theorem resolve_steps_ok_iff (S : Schema n) (root : Fin n) (text : String) (passed names : List String)
    (someName : names ≠ []) (steps : List (Step n)) :
    resolveSteps S text root passed names = .ok steps ↔ steps.map Step.name = names ∧ S.Refers root steps := by
  constructor
  · intro resolved
    rcases reference_cases S root text passed names someName with ⟨own, rfl, refers⟩ | broken
    · obtain rfl := Except.ok.inj ((resolve_refers refers text passed).symm.trans resolved)
      exact ⟨rfl, refers⟩
    · obtain ⟨front, segment, rest, id, error, rfl, descends, faulty⟩ := broken
      rw [resolve_along descends text passed _ (List.cons_ne_nil _ _), resolve_faulty faulty] at resolved
      cases resolved
  · rintro ⟨rfl, refers⟩
    exact resolve_refers refers text passed

theorem resolve_steps_error_iff (S : Schema n) (root : Fin n) (text : String) (passed names : List String)
    (someName : names ≠ []) (error : PathError) :
    resolveSteps S text root passed names = .error error ↔
      ∃ front segment rest id, names = front.map Step.name ++ segment :: rest ∧ S.Descends root front id ∧
        S.Faulty text (passed ++ front.map Step.name) id segment rest error := by
  constructor
  · intro failed
    rcases reference_cases S root text passed names someName with ⟨steps, rfl, refers⟩ | broken
    · cases (resolve_refers refers text passed).symm.trans failed
    · obtain ⟨front, segment, rest, id, own, rfl, descends, faulty⟩ := broken
      have found := resolve_along descends text passed (segment :: rest) (List.cons_ne_nil _ _)
      rw [resolve_faulty faulty, failed] at found
      obtain rfl := Except.error.inj found
      exact ⟨front, segment, rest, id, rfl, descends, faulty⟩
  · rintro ⟨front, segment, rest, id, rfl, descends, faulty⟩
    rw [resolve_along descends text passed _ (List.cons_ne_nil _ _), resolve_faulty faulty]
    rfl

def Spells (names : List String) (text : String) : Prop :=
  dotted names = text ∧ ∀ name ∈ names, '.' ∉ name.toList

theorem segments_iff (names : List String) (text : String) (someName : names ≠ []) :
    names = (Text.pieces '.' text.toList).map String.ofList ↔ Spells names text := by
  constructor
  · rintro rfl
    refine ⟨?_, List.forall_mem_map.mpr fun piece member => ?_⟩
    · have plain : String.toList ∘ String.ofList = id := funext fun _ => String.toList_ofList
      rw [dotted, ← String.toList_inj, String.toList_intercalate, List.map_map, plain, List.map_id]
      exact List.intercalate_splitOn '.'
    · rw [String.toList_ofList]
      exact (Text.mem_pieces member).1
  · rintro ⟨rfl, solid⟩
    have parts : Text.pieces '.' (dotted names).toList = names.map String.toList := by
      rw [dotted, String.toList_intercalate]
      exact List.splitOn_intercalate '.' (List.forall_mem_map.mpr solid) (by simpa using someName)
    have plain : String.ofList ∘ String.toList = id := funext fun _ => String.ofList_toList
    rw [parts, List.map_map, plain, List.map_id]

theorem resolve_ok_iff (S : Schema n) (root : Fin n) (text : String) (path : FieldPath n) :
    resolve S root text = .ok path ↔ path.text = text ∧ path.root = root ∧
      path.segments = (Text.pieces '.' text.toList).map String.ofList ∧ S.Refers root path.steps := by
  have accepted := resolve_steps_ok_iff S root text [] _ (segments_ne_nil text)
  rw [resolve]
  constructor
  · intro resolved
    obtain ⟨steps, made, rfl⟩ := ok_of_map resolved
    exact ⟨rfl, rfl, (accepted steps).mp made⟩
  · obtain ⟨own, id, steps⟩ := path
    rintro ⟨rfl, rfl, named, refers⟩
    rw [(accepted steps).mpr ⟨named, refers⟩]
    rfl

theorem resolve_error_iff (S : Schema n) (root : Fin n) (text : String) (error : PathError) :
    resolve S root text = .error error ↔
      ∃ front segment rest id, Spells (front.map Step.name ++ segment :: rest) text ∧ S.Descends root front id ∧
        S.Faulty text (front.map Step.name) id segment rest error := by
  have refused := resolve_steps_error_iff S root text [] _ (segments_ne_nil text) error
  have spelled (front : List (Step n)) (segment : String) (rest : List String) :=
    segments_iff (front.map Step.name ++ segment :: rest) text (by simp)
  simp only [← spelled, eq_comm (b := (Text.pieces '.' text.toList).map String.ofList)]
  simp only [List.nil_append] at refused
  rw [resolve, ← refused]
  exact map_error_iff _ _ _

theorem refers_cons {root : Fin n} {step : Step n} {rest : List (Step n)} :
    S.Refers root (step :: rest) ↔
      S.Offers root step ∧ (rest = [] ∨ ∃ inner, step.type.Holds inner ∧ S.Refers inner rest) := by
  constructor
  · rintro ⟨front, last, id, parts, descends, offered⟩
    cases descends with
    | here =>
        obtain ⟨rfl, rfl⟩ := List.cons.inj parts
        exact ⟨offered, .inl rfl⟩
    | down first holds more =>
        obtain ⟨rfl, rfl⟩ := List.cons.inj parts
        exact ⟨first, .inr ⟨_, holds, _, last, id, rfl, more, offered⟩⟩
  · rintro ⟨offered, rfl | ⟨inner, holds, front, last, id, rfl, descends, final⟩⟩
    · exact ⟨[], step, root, rfl, .here root, offered⟩
    · exact ⟨step :: front, last, id, rfl, .down offered holds descends, final⟩

theorem refers_each {root : Fin n} {front back : List (Step n)} {step : Step n}
    (refers : S.Refers root (front ++ step :: back)) : ∃ id, S.Descends root front id ∧ S.Offers id step := by
  induction front generalizing root with
  | nil => exact ⟨root, .here root, (refers_cons.mp refers).1⟩
  | cons first others ih =>
      obtain ⟨offered, ends⟩ := refers_cons.mp refers
      obtain ⟨inner, holds, more⟩ := ends.resolve_left (by simp)
      obtain ⟨id, descends, own⟩ := ih more
      exact ⟨id, .down offered holds descends, own⟩

theorem resolve_below_iff {outer : String} (filled : outer ≠ "") (noDot : '.' ∉ outer.toList) (root : Fin n)
    (text : String) (path : FieldPath n) :
    resolve S root (below outer text) = .ok path ↔
      ∃ index field inner within, FirstNamed (S root).fields outer index field ∧ field.exported = true ∧
        field.type.Holds inner ∧ resolve S inner text = .ok within ∧
        path = ⟨below outer text, root, ⟨outer, index, field.type⟩ :: within.steps⟩ := by
  rw [resolve_ok_iff, segments_below outer text noDot]
  constructor
  · obtain ⟨own, id, steps⟩ := path
    rintro ⟨rfl, rfl, named, refers⟩
    obtain ⟨step, rest, rfl⟩ : ∃ step rest, steps = step :: rest :=
      List.exists_cons_of_ne_nil fun none => by subst none; cases named
    obtain ⟨rfl, others⟩ := List.cons.inj named
    obtain ⟨⟨_, field, found, exported, type⟩, ends⟩ := refers_cons.mp refers
    obtain ⟨inner, holds, more⟩ := ends.resolve_left fun none => segments_ne_nil text (others ▸ none ▸ rfl)
    refine ⟨step.index, field, inner, ⟨text, inner, rest⟩, found, exported, type ▸ holds, ?_, by rw [type]⟩
    exact (resolve_ok_iff S inner text _).mpr ⟨rfl, rfl, others, more⟩
  · rintro ⟨index, field, inner, within, found, exported, holds, resolved, rfl⟩
    obtain ⟨_, _, named, refers⟩ := (resolve_ok_iff S inner text within).mp resolved
    refine ⟨rfl, rfl, congrArg (outer :: ·) named, refers_cons.mpr ⟨?_, .inr ⟨inner, holds, refers⟩⟩⟩
    exact ⟨filled, field, found, exported, rfl⟩

theorem references_resolved (S : Schema n) (root : Fin n) (text : String) :
    (∀ path, resolve S root text = .ok path ↔ path.text = text ∧ path.root = root ∧
      Spells path.segments text ∧ S.Refers root path.steps) ∧
    (∀ path, resolve S root text = .ok path →
      path.segments.length = path.indices.length ∧ path.types.length = path.indices.length ∧
      path.indices ≠ [] ∧
      ∀ front step back, path.steps = front ++ step :: back →
        ∃ id, S.Descends root front id ∧ S.Offers id step) ∧
    (∀ error, resolve S root text = .error error ↔ ∃ front segment rest id,
      Spells (front.map Step.name ++ segment :: rest) text ∧ S.Descends root front id ∧
      S.Faulty text (front.map Step.name) id segment rest error) ∧
    (∀ outer : String, outer ≠ "" → '.' ∉ outer.toList → ∀ path,
      resolve S root (below outer text) = .ok path ↔
        ∃ index field inner within, FirstNamed (S root).fields outer index field ∧ field.exported = true ∧
          field.type.Holds inner ∧ resolve S inner text = .ok within ∧
          path = ⟨below outer text, root, ⟨outer, index, field.type⟩ :: within.steps⟩) := by
  refine ⟨fun path => ?_, fun path resolved => ?_, resolve_error_iff S root text, fun outer filled noDot =>
    resolve_below_iff filled noDot root text⟩
  · rw [resolve_ok_iff]
    refine and_congr_right fun _ => and_congr_right fun _ => and_congr_left fun refers => ?_
    obtain ⟨front, last, id, parts, _, _⟩ := refers
    exact segments_iff path.segments text (by simp [segments, parts])
  · obtain ⟨_, _, _, refers⟩ := (resolve_ok_iff S root text path).mp resolved
    refine ⟨by simp [segments, indices], by simp [types, indices], ?_, fun front step back parts =>
      refers_each (parts ▸ refers)⟩
    obtain ⟨front, last, id, parts, _, _⟩ := refers
    simp [indices, parts]

theorem end_of_rest_resolved :
    ("rest" ≠ "" ∧ '.' ∉ "rest".toList) ∧
      resolve spans spanId "rest.end" = .ok ⟨"rest.end", spanId,
        [⟨"rest", 2, .optional (.record spanId)⟩, ⟨"end", 1, .optional .int⟩]⟩ := by
  have plain : "rest" ≠ "" ∧ '.' ∉ "rest".toList := by decide
  obtain ⟨_, _, _, composed⟩ := references_resolved spans spanId "end"
  obtain ⟨accepted, _, _, _⟩ := references_resolved spans spanId "end"
  have linked : FirstNamed (spans spanId).fields "rest" 2 ⟨"rest", .optional (.record spanId), "", true⟩ :=
    (field_iff _ _ _ _).mp (by decide)
  have ended : FirstNamed (spans spanId).fields "end" 1 ⟨"end", .optional .int, "gtfield=start", true⟩ :=
    (field_iff _ _ _ _).mp (by decide)
  have inside : resolve spans spanId "end" = .ok ⟨"end", spanId, [⟨"end", 1, .optional .int⟩]⟩ :=
    (accepted _).mpr ⟨rfl, rfl, ⟨by decide, by decide⟩, [], _, spanId, rfl, .here _, by decide, _, ended, rfl, rfl⟩
  exact ⟨plain, (composed "rest" plain.1 plain.2 _).mpr
    ⟨2, _, spanId, _, linked, rfl, ⟨1, rfl⟩, inside, rfl⟩⟩

def unreachable : Schema 2 := fun id =>
  if id = 0 then
    { name := "Outer", fields := [⟨"a.b", .int, "", true⟩, ⟨"", .record 1, "", true⟩], checks := [] }
  else { name := "Inner", fields := [⟨"p", .int, "", true⟩], checks := [] }

theorem dotted_name_unresolved :
    (unreachable.Refers 0 [⟨"a.b", 0, .int⟩] ∧ dotted ["a.b"] = "a.b" ∧
      resolve unreachable 0 "a.b" = .error (.notFound "Outer" "a")) ∧
    FirstNamed (unreachable 0).fields "" 1 ⟨"", .record 1, "", true⟩ ∧
      resolve unreachable 1 "p" = .ok ⟨"p", 1, [⟨"p", 0, .int⟩]⟩ ∧
      resolve unreachable 0 ".p" = .error (.emptySegment ".p") := by
  have first : FirstNamed (unreachable 0).fields "a.b" 0 ⟨"a.b", .int, "", true⟩ :=
    (field_iff _ _ _ _).mp (by decide)
  have unnamed : FirstNamed (unreachable 0).fields "" 1 ⟨"", .record 1, "", true⟩ :=
    (field_iff _ _ _ _).mp (by decide)
  refine ⟨⟨⟨[], _, 0, rfl, .here 0, by decide, _, first, rfl, rfl⟩, by decide, by cbv⟩, unnamed, by cbv, by cbv⟩

end FieldPath

end RecordRules
