import RecordRules.Plan.Verdict
import RecordRules.Proofs.Conformance
import RecordRules.Proofs.Outcome

set_option autoImplicit false

namespace RecordRules

variable {n : Nat}

theorem find_field_some (name : String) (fields : List (FieldDef n)) (start index : Nat)
    (field : FieldDef n) (found : findField name fields start = some (index, field)) :
    start ≤ index ∧ fields[index - start]? = some field ∧ field.name = name := by
  induction fields generalizing start with
  | nil => cases found
  | cons first rest ih =>
      rw [findField] at found
      split at found
      case isTrue same =>
        obtain ⟨rfl, rfl⟩ := Prod.mk.inj (Option.some.inj found)
        exact ⟨Nat.le_refl _, by rw [Nat.sub_self]; rfl, same⟩
      case isFalse =>
        obtain ⟨later, there, named⟩ := ih (start + 1) found
        have position : index - start = index - (start + 1) + 1 := by omega
        exact ⟨Nat.le_of_succ_le later, by rw [position]; exact there, named⟩

theorem field_of_name (type : RecordType n) (name : String) (index : Nat) (field : FieldDef n)
    (found : type.field? name = some (index, field)) :
    type.fields[index]? = some field ∧ field.name = name :=
  (find_field_some name type.fields 0 index field found).2

theorem find_field_alone (fields : List (FieldDef n)) (start index : Nat) (field : FieldDef n)
    (there : fields[index]? = some field)
    (alone : ∀ place other, fields[place]? = some other → other.name = field.name → place = index) :
    findField field.name fields start = some (start + index, field) := by
  induction fields generalizing start index with
  | nil => cases there
  | cons first rest ih =>
      rw [findField]
      by_cases same : first.name = field.name
      · obtain rfl := alone 0 first rfl same
        obtain rfl := Option.some.inj there
        rw [if_pos same, Nat.add_zero]
      · cases index with
        | zero => exact absurd (congrArg FieldDef.name (Option.some.inj there)) same
        | succ index =>
            have later : ∀ place other, rest[place]? = some other → other.name = field.name → place = index :=
              fun place other found named => Nat.succ.inj (alone (place + 1) other found named)
            rw [if_neg same, ih (start + 1) index there later, Nat.add_right_comm]
            rfl

theorem alone_of_nodup (fields : List (FieldDef n)) (distinct : (fields.map FieldDef.name).Nodup) (index : Nat)
    (field : FieldDef n) (there : fields[index]? = some field) (place : Nat) (other : FieldDef n)
    (found : fields[place]? = some other) (same : other.name = field.name) : place = index := by
  have inside : place < (fields.map FieldDef.name).length := by
    rw [List.length_map]
    exact (List.getElem?_eq_some_iff.mp found).1
  refine (List.getElem?_inj inside distinct).mp ?_
  rw [List.getElem?_map, List.getElem?_map, found, there]
  exact congrArg some same

theorem field_of_distinct (type : RecordType n) (distinct : (type.fields.map FieldDef.name).Nodup) (index : Nat)
    (field : FieldDef n) (there : type.fields[index]? = some field) :
    type.field? field.name = some (index, field) := by
  have alone := alone_of_nodup _ distinct index field there
  rw [RecordType.field?, find_field_alone _ 0 index field there alone, Nat.zero_add]

def Instance.named (S : Schema n) (record : Instance n) (name : String) : Value n :=
  match (S record.type).field? name with
  | some (index, _) => record.field index
  | none => .nil

theorem named_declared (S : Schema n) (record : Instance n)
    (distinct : ((S record.type).fields.map FieldDef.name).Nodup) (index : Nat) (field : FieldDef n)
    (there : (S record.type).fields[index]? = some field) :
    record.named S field.name = record.field index := by
  rw [Instance.named, field_of_distinct _ distinct index field there]

theorem Instance.size_named (S : Schema n) (record : Instance n) (name : String) {type : Fin n}
    {fields : List (Value n)} (found : record.named S name = .record type fields) :
    sizeOf (⟨type, fields⟩ : Instance n) < sizeOf record := by
  rw [named] at found
  split at found
  case h_1 index _ _ => exact record.size_field index found
  case h_2 => cases found

def Instance.walk (S : Schema n) (text : String) (record : Instance n) (passed : List String) :
    List String → Except ReadError (Value n)
  | [] => .ok .nil
  | [name] => .ok (record.named S name)
  | name :: next :: rest =>
      match record.named S name with
      | .record type fields => walk S text ⟨type, fields⟩ (passed ++ [name]) (next :: rest)
      | .nil => .error (.nilLink text (FieldPath.dotted (passed ++ [name])))
      | _ => .error (.notARecord (FieldPath.dotted (passed ++ [name])))

def Instance.lookup (S : Schema n) (record : Instance n) (text : String) :
    Except ReadError (Value n) :=
  record.walk S text [] ((Text.pieces '.' text.toList).map String.ofList)

namespace FieldPath

inductive Resolves (S : Schema n) : Fin n → List String → List (Step n) → Prop where
  | last {current : Fin n} {segment : String} {index : Nat} {field : FieldDef n}
      (found : (S current).field? segment = some (index, field)) :
      Resolves S current [segment] [⟨segment, index, field.type⟩]
  | on {current inner : Fin n} {segment next : String} {rest : List String} {index : Nat}
      {field : FieldDef n} {steps : List (Step n)}
      (found : (S current).field? segment = some (index, field))
      (record : field.type.record? = some inner) (more : Resolves S inner (next :: rest) steps) :
      Resolves S current (segment :: next :: rest) (⟨segment, index, field.type⟩ :: steps)

theorem resolve_steps_cons (S : Schema n) (text segment : String) (rest : List String) (current : Fin n)
    (passed : List String) (steps : List (Step n))
    (resolved : resolveSteps S text current passed (segment :: rest) = .ok steps) :
    ∃ index field, (S current).field? segment = some (index, field) ∧ field.exported = true ∧
      match rest with
      | [] => steps = [⟨segment, index, field.type⟩]
      | next :: others => ∃ inner more, field.type.record? = some inner ∧
          resolveSteps S text inner (passed ++ [segment]) (next :: others) = .ok more ∧
          steps = ⟨segment, index, field.type⟩ :: more := by
  rw [resolveSteps] at resolved
  split at resolved
  case isTrue => cases resolved
  case isFalse =>
    split at resolved
    case h_1 => cases resolved
    case h_2 index field found =>
      split at resolved
      case isTrue => cases resolved
      case isFalse exported =>
        refine ⟨index, field, found, by simpa using exported, ?_⟩
        cases rest with
        | nil => exact (Except.ok.inj resolved).symm
        | cons next others =>
            cases type : field.type.record? with
            | none =>
                rw [type] at resolved
                cases resolved
            | some inner =>
                rw [type] at resolved
                obtain ⟨more, made, same⟩ := ok_of_map resolved
                exact ⟨inner, more, rfl, made, same.symm⟩

theorem resolve_steps_ok (S : Schema n) (text : String) (segments : List String) (current : Fin n)
    (passed : List String) (steps : List (Step n)) (someSegment : segments ≠ [])
    (resolved : resolveSteps S text current passed segments = .ok steps) :
    Resolves S current segments steps := by
  induction segments generalizing current passed steps with
  | nil => exact absurd rfl someSegment
  | cons segment rest ih =>
      obtain ⟨index, field, found, _, ends⟩ := resolve_steps_cons S text segment rest current passed steps resolved
      cases rest with
      | nil => exact ends ▸ .last found
      | cons next others =>
          obtain ⟨inner, more, type, made, same⟩ := ends
          exact same ▸ .on found type (ih inner _ more (List.cons_ne_nil _ _) made)

theorem segments_ne_nil (text : String) : (Text.pieces '.' text.toList).map String.ofList ≠ [] := fun none =>
  List.splitOn_ne_nil '.' text.toList (List.map_eq_nil_iff.mp none)

theorem resolve_ok (S : Schema n) (root : Fin n) (text : String) (path : FieldPath n)
    (resolved : resolve S root text = .ok path) : path.text = text ∧ path.root = root ∧
      Resolves S root ((Text.pieces '.' text.toList).map String.ofList) path.steps := by
  rw [resolve] at resolved
  cases steps : resolveSteps S text root [] ((Text.pieces '.' text.toList).map String.ofList) with
  | error error =>
      rw [steps] at resolved
      cases resolved
  | ok found =>
      rw [steps] at resolved
      rw [← Except.ok.inj resolved]
      exact ⟨rfl, rfl, resolve_steps_ok S text _ root [] found (segments_ne_nil text) steps⟩

inductive Leads (S : Schema n) : Fin n → List (Step n) → FieldType n → Prop where
  | last {current : Fin n} {step : Step n} {field : FieldDef n}
      (declared : (S current).fields[step.index]? = some field) (type : field.type = step.type) :
      Leads S current [step] step.type
  | on {current inner : Fin n} {step next : Step n} {rest : List (Step n)} {field : FieldDef n}
      {target : FieldType n} (declared : (S current).fields[step.index]? = some field)
      (type : field.type = step.type) (record : step.type.record? = some inner)
      (more : Leads S inner (next :: rest) target) : Leads S current (step :: next :: rest) target

theorem leads_target {S : Schema n} {current : Fin n} {steps : List (Step n)} {target : FieldType n}
    (leads : Leads S current steps target) : (steps.map Step.type).getLast? = some target := by
  induction leads with
  | last => rfl
  | on _ _ _ _ ih => exact ih

theorem declared_leads (S : Schema n) (id : Fin n) (index : Nat) (field : FieldDef n)
    (there : (S id).fields[index]? = some field) :
    Leads S id (declared id index field).steps field.type :=
  .last there rfl

theorem resolves_leads {S : Schema n} {current : Fin n} {segments : List String} {steps : List (Step n)}
    (resolves : Resolves S current segments steps) : ∃ target, Leads S current steps target := by
  induction resolves with
  | @last current segment index field found =>
      exact ⟨_, .last (field_of_name _ _ _ _ found).1 rfl⟩
  | @on current inner segment next rest index field steps found record more ih =>
      obtain ⟨target, leads⟩ := ih
      have there := (field_of_name _ _ _ _ found).1
      cases more with
      | last => exact ⟨target, .on there rfl record leads⟩
      | on => exact ⟨target, .on there rfl record leads⟩

-- A path reads by position; on a record that conforms to its declaration only an unset link keeps it
-- from being read.
theorem read_leads (S : Schema n) (text : String) {current : Fin n} {steps : List (Step n)}
    {target : FieldType n} (leads : Leads S current steps target) (record : Instance n)
    (type : record.type = current) (fit : record.fits S) (passed : List String) :
    (∃ value, readSteps text record passed steps = .ok value ∧ value.fits S target) ∨
    ∃ front back, steps = front ++ back ∧ front ≠ [] ∧ back ≠ [] ∧
      readSteps text record passed front = .ok .nil ∧
      readSteps text record passed steps =
        .error (.nilLink text (dotted (passed ++ front.map Step.name))) := by
  induction leads generalizing record passed with
  | @last current step field declared same =>
      subst type
      exact .inl ⟨_, rfl, same ▸ fits_field S record fit _ field declared⟩
  | @on current inner step next rest field target declared same nested more ih =>
      subst type
      have stepFits := fits_field S record fit _ field declared
      rw [same] at stepFits
      cases link : record.field step.index with
      | record id fields =>
          rw [link, fits_record] at stepFits
          obtain ⟨innerType, innerFits⟩ := stepFits
          obtain rfl := Option.some.inj (innerType.symm.trans nested)
          have goesOn (others : List (Step n)) (someStep : others ≠ []) :
              readSteps text record passed (step :: others) =
                readSteps text ⟨id, fields⟩ (passed ++ [step.name]) others := by
            cases others with
            | nil => exact absurd rfl someStep
            | cons first last => simp only [readSteps, link]
          rw [goesOn _ (List.cons_ne_nil _ _)]
          rcases ih ⟨id, fields⟩ rfl innerFits (passed ++ [step.name]) with whole | stopped
          · exact .inl whole
          · obtain ⟨front, back, parts, someFront, someBack, unset, error⟩ := stopped
            refine .inr ⟨step :: front, back, by rw [parts]; rfl, List.cons_ne_nil _ _, someBack, ?_, ?_⟩
            · rw [goesOn front someFront, unset]
            · rw [error, List.append_assoc]
              rfl
      | nil =>
          refine .inr ⟨[step], next :: rest, rfl, List.cons_ne_nil _ _, List.cons_ne_nil _ _, ?_, ?_⟩
          · rw [readSteps, link]
          · simp only [readSteps, link]
            rfl
      | _ =>
          have kind := (fits_kind S _ _ stepFits).resolve_left (by simp [link])
          rw [link, ← step.type.kind_target, (target_record _ _).mpr nested] at kind
          cases kind

theorem read_declared (S : Schema n) (record : Instance n) (index : Nat) (field : FieldDef n) :
    (declared record.type index field).read S record = .ok (record.field index) := by
  rw [read]
  exact if_pos rfl

theorem named_found (S : Schema n) (record : Instance n) (name : String) (index : Nat)
    (field : FieldDef n) (found : (S record.type).field? name = some (index, field)) :
    record.named S name = record.field index := by
  rw [Instance.named, found]

theorem resolves_walk (S : Schema n) (text : String) {current : Fin n} {segments : List String}
    {steps : List (Step n)} (resolves : Resolves S current segments steps) (record : Instance n)
    (type : record.type = current) (fit : record.fits S) (passed : List String) :
    readSteps text record passed steps = record.walk S text passed segments := by
  induction resolves generalizing record passed with
  | @last current segment index field found =>
      subst type
      rw [readSteps, Instance.walk, named_found S record segment index field found]
  | @on current inner segment next rest index field steps found nested more ih =>
      subst type
      have read := named_found S record segment index field found
      have fieldFits := fits_field S record fit _ field (field_of_name _ _ _ _ found).1
      obtain ⟨first, others, rfl⟩ : ∃ first others, steps = first :: others := by
        cases more <;> exact ⟨_, _, rfl⟩
      rw [Instance.walk, read]
      cases link : record.field index with
      | record id fields =>
          rw [link, fits_record] at fieldFits
          obtain ⟨innerType, innerFits⟩ := fieldFits
          obtain rfl := Option.some.inj (innerType.symm.trans nested)
          simp only [readSteps, link]
          exact ih ⟨id, fields⟩ rfl innerFits (passed ++ [segment])
      | _ => simp only [readSteps, link]

theorem read_lookup (S : Schema n) (text : String) (path : FieldPath n) (record : Instance n)
    (resolved : resolve S record.type text = .ok path) (fit : record.fits S) :
    path.read S record = record.lookup S text := by
  obtain ⟨sameText, root, resolves⟩ := resolve_ok S record.type text path resolved
  rw [read, if_pos root.symm, sameText]
  exact resolves_walk S text resolves record rfl fit []

end FieldPath

end RecordRules
