import RecordRules.Proofs.References

set_option autoImplicit false

namespace RecordRules

variable {n : Nat} {S : Schema n}

-- Each name is looked up in the type of the record at hand, and all but the last lead to a record.
inductive Instance.Reaches (S : Schema n) : Instance n → List String → Value n → Prop where
  | last {record : Instance n} {name : String} {index : Nat} {field : FieldDef n} {value : Value n}
      (found : FirstNamed (S record.type).fields name index field) (read : record.field index = value) :
      Reaches S record [name] value
  | on {record : Instance n} {name : String} {names : List String} {index : Nat} {field : FieldDef n}
      {type : Fin n} {fields : List (Value n)} {value : Value n}
      (found : FirstNamed (S record.type).fields name index field)
      (link : record.field index = .record type fields) (more : Reaches S ⟨type, fields⟩ names value) :
      Reaches S record (name :: names) value

-- The names stop early: some of them, not all, lead to a link that is unset.
structure Instance.StopsAt (S : Schema n) (record : Instance n) (names front : List String) : Prop where
  proper : ∃ next rest, names = front ++ next :: rest
  unset : record.Reaches S front .nil

theorem first_named_unique {fields : List (FieldDef n)} {name : String} {index other : Nat}
    {field second : FieldDef n} (found : FirstNamed fields name index field)
    (again : FirstNamed fields name other second) : index = other := by
  have here := (find_field_iff name fields 0 index field).mpr found
  rw [(find_field_iff name fields 0 other second).mpr again, Nat.zero_add, Nat.zero_add] at here
  exact (Prod.mk.inj (Option.some.inj here)).1.symm

namespace Instance

theorem reaches_some {record : Instance n} {names : List String} {value : Value n}
    (reaches : record.Reaches S names value) : names ≠ [] := by
  cases reaches <;> exact List.cons_ne_nil _ _

theorem reaches_unique {record : Instance n} {names : List String} {value other : Value n}
    (reaches : record.Reaches S names value) (again : record.Reaches S names other) : value = other := by
  induction reaches with
  | last found read =>
      cases again with
      | last foundAgain readAgain => rw [← read, ← readAgain, first_named_unique found foundAgain]
      | on _ _ more => exact absurd rfl (reaches_some more)
  | on found link more ih =>
      cases again with
      | last => exact absurd rfl (reaches_some more)
      | on foundAgain linkAgain moreAgain =>
          rw [first_named_unique found foundAgain, linkAgain] at link
          obtain ⟨rfl, rfl⟩ := Value.record.inj link
          exact ih moreAgain

theorem reaches_through {record : Instance n} {front back : List String} {passed value : Value n}
    (someBack : back ≠ []) (early : record.Reaches S front passed)
    (reaches : record.Reaches S (front ++ back) value) : ∃ type fields, passed = .record type fields := by
  induction early with
  | last found read =>
      cases reaches with
      | last => exact absurd rfl someBack
      | on foundAgain link => exact ⟨_, _, by rw [← read, first_named_unique found foundAgain, link]⟩
  | on found link more ih =>
      obtain ⟨first, others, rfl⟩ := List.exists_cons_of_ne_nil (reaches_some more)
      cases reaches with
      | on foundAgain linkAgain moreAgain =>
          rw [first_named_unique found foundAgain, linkAgain] at link
          obtain ⟨rfl, rfl⟩ := Value.record.inj link
          exact ih moreAgain

theorem stops_apart {record : Instance n} {names front : List String} {value : Value n}
    (stops : record.StopsAt S names front) : ¬record.Reaches S names value := by
  intro reaches
  obtain ⟨next, rest, rfl⟩ := stops.proper
  obtain ⟨type, fields, same⟩ := reaches_through (List.cons_ne_nil next rest) stops.unset reaches
  cases same

theorem stops_once {record : Instance n} {names front other : List String}
    (stops : record.StopsAt S names front) (again : record.StopsAt S names other) : front = other := by
  have shorter {first second : List String} (start : first <+: second) (unset : record.Reaches S first .nil)
      (later : record.Reaches S second .nil) : first = second := by
    obtain ⟨rest, rfl⟩ := start
    cases rest with
    | nil => rw [List.append_nil]
    | cons name rest => exact absurd later (stops_apart ⟨⟨name, rest, rfl⟩, unset⟩)
  obtain ⟨next, rest, parts⟩ := stops.proper
  obtain ⟨another, others, same⟩ := again.proper
  rcases List.prefix_or_prefix_of_prefix ⟨_, parts.symm⟩ ⟨_, same.symm⟩ with before | behind
  · exact shorter before stops.unset again.unset
  · exact (shorter behind again.unset stops.unset).symm

end Instance

namespace FieldPath

open Instance

theorem resolves_front {root : Fin n} {names : List String} {front back : List (Step n)}
    (resolves : Resolves S root names (front ++ back)) (someFront : front ≠ []) :
    Resolves S root (front.map Step.name) front := by
  induction front generalizing root names with
  | nil => exact absurd rfl someFront
  | cons step rest ih =>
      cases rest with
      | nil => cases resolves with
        | last found => exact .last found
        | on found => exact .last found
      | cons next others =>
          cases resolves with
          | on found record more => exact .on found record (ih more (List.cons_ne_nil _ _))

theorem resolves_names {root : Fin n} {names : List String} {steps : List (Step n)}
    (resolves : Resolves S root names steps) : steps.map Step.name = names := by
  induction resolves with
  | last => rfl
  | on _ _ _ ih => rw [List.map_cons, ih]

theorem reads_reached {root : Fin n} {names : List String} {steps : List (Step n)}
    (resolves : Resolves S root names steps) (text : String) (record : Instance n) (type : record.type = root)
    (fit : record.fits S) (passed : List String) {value : Value n}
    (read : readSteps text record passed steps = .ok value) : record.Reaches S names value := by
  induction resolves generalizing record passed with
  | last found =>
      subst type
      exact .last ((field_iff _ _ _ _).mp found) (Except.ok.inj read)
  | @on current inner segment next rest index field steps found nested more ih =>
      subst type
      have link := fits_link S field.type inner nested (record.field index)
        (fits_field S record fit index field (field_of_name _ _ _ _ found).1)
      obtain ⟨first, others, rfl⟩ : ∃ first others, steps = first :: others := by
        cases more <;> exact ⟨_, _, rfl⟩
      rcases link with unset | ⟨fields, filled, innerFits⟩
      · simp only [readSteps, unset] at read
        cases read
      · simp only [readSteps, filled] at read
        exact .on ((field_iff _ _ _ _).mp found) filled (ih ⟨inner, fields⟩ rfl innerFits _ read)

section Read

variable {root : Fin n} {text : String} {path : FieldPath n} (resolved : resolve S root text = .ok path)
  {record : Instance n} (type : record.type = root) (fit : record.fits S)
include resolved type fit

theorem read_cases :
    (∃ value target, path.read S record = .ok value ∧ record.Reaches S path.segments value ∧
      path.target? = some target ∧ value.fits S target) ∨
    ∃ front, path.read S record = .error (.nilLink text (dotted front)) ∧ record.StopsAt S path.segments front := by
  obtain ⟨rfl, rfl, resolves⟩ := resolve_ok S root text path resolved
  obtain ⟨target, leads⟩ := resolves_leads resolves
  have names : path.segments = _ := resolves_names resolves
  rw [read, if_pos type]
  rcases read_leads S path.text leads record type fit [] with ⟨value, read, valueFits⟩ | stopped
  · have reaches := reads_reached resolves path.text record type fit [] read
    exact .inl ⟨value, target, read, names ▸ reaches, leads_target leads, valueFits⟩
  · obtain ⟨front, back, parts, someFront, someBack, unset, error⟩ := stopped
    obtain ⟨next, rest, rfl⟩ := List.exists_cons_of_ne_nil someBack
    rw [parts] at resolves
    refine .inr ⟨front.map Step.name, error, ⟨next.name, rest.map Step.name, ?_⟩, ?_⟩
    · rw [segments, parts, List.map_append, List.map_cons]
    · exact reads_reached (resolves_front resolves someFront) path.text record type fit [] unset

theorem read_ok_iff (value : Value n) : path.read S record = .ok value ↔ record.Reaches S path.segments value := by
  rcases read_cases resolved type fit with ⟨own, _, whole, reaches, _⟩ | ⟨front, failed, stops⟩
  · rw [whole]
    exact ⟨fun same => Except.ok.inj same ▸ reaches, fun again => congrArg _ (reaches_unique reaches again)⟩
  · rw [failed]
    exact ⟨nofun, fun reaches => absurd reaches (stops_apart stops)⟩

theorem read_error_iff (error : ReadError) : path.read S record = .error error ↔
    ∃ front, record.StopsAt S path.segments front ∧ error = .nilLink text (dotted front) := by
  rcases read_cases resolved type fit with ⟨own, _, whole, reaches, _⟩ | ⟨front, failed, stops⟩
  · rw [whole]
    exact ⟨nofun, fun ⟨_, stops, _⟩ => absurd reaches (stops_apart stops)⟩
  · rw [failed]
    constructor
    · exact fun same => ⟨front, stops, (Except.error.inj same).symm⟩
    · rintro ⟨other, again, rfl⟩
      rw [stops_once stops again]

end Read

theorem values_retrieved (S : Schema n) (root : Fin n) (text : String) (path : FieldPath n)
    (resolved : resolve S root text = .ok path) (record : Instance n) :
    (record.type = root → record.fits S →
      ((∃ value, path.read S record = .ok value) ↔ ∀ front, ¬record.StopsAt S path.segments front) ∧
      (∀ value, path.read S record = .ok value ↔ record.Reaches S path.segments value) ∧
      (∀ value, path.read S record = .ok value → ∃ target, path.target? = some target ∧ value.fits S target) ∧
      ∀ error, path.read S record = .error error ↔ ∃ front, record.StopsAt S path.segments front ∧
        (∀ other, record.StopsAt S path.segments other → front.length ≤ other.length) ∧
        error = .nilLink text (dotted front)) ∧
    (record.type ≠ root →
      path.read S record = .error (.wrongRoot (S.nameOf root) (S.nameOf record.type))) := by
  constructor
  · intro type fit
    have reached := read_ok_iff resolved type fit
    refine ⟨⟨?_, fun whole => ?_⟩, reached, fun value read => ?_, fun error => ?_⟩
    · rintro ⟨value, read⟩ front stops
      exact stops_apart stops ((reached value).mp read)
    · rcases read_cases resolved type fit with ⟨value, _, read, _⟩ | ⟨front, _, stops⟩
      · exact ⟨value, read⟩
      · exact absurd stops (whole front)
    · rcases read_cases resolved type fit with ⟨own, target, again, _, ends, fits⟩ | ⟨front, failed, _⟩
      · exact ⟨target, ends, Except.ok.inj (again.symm.trans read) ▸ fits⟩
      · cases failed.symm.trans read
    · rw [read_error_iff resolved type fit]
      refine exists_congr fun front => and_congr_right fun stops => ?_
      have shortest other (again : record.StopsAt S path.segments other) : front.length ≤ other.length :=
        stops_once stops again ▸ Nat.le_refl _
      exact (and_iff_right shortest).symm
  · intro astray
    obtain ⟨_, rfl, _⟩ := resolve_ok S root text path resolved
    rw [read, if_neg astray]

def nodeId : Fin 2 := ⟨0, Nat.two_pos⟩

def leafId : Fin 2 := ⟨1, Nat.one_lt_two⟩

def chain : Schema 2 := fun id =>
  if id = nodeId then
    { name := "Node"
      fields := [⟨"next", .optional (.optional (.record nodeId)), "", true⟩, ⟨"leaf", .record leafId, "", true⟩]
      checks := [] }
  else { name := "Leaf", fields := [⟨"size", .optional .int, "", true⟩], checks := [] }

def twoNodes : Instance 2 := ⟨nodeId, [.record nodeId [.nil, .record leafId [.nil]], .record leafId [.int 4]]⟩

theorem chain_retrieved :
    let next : Step 2 := ⟨"next", 0, .optional (.optional (.record 0))⟩
    let leaf : List (Step 2) := [⟨"leaf", 1, .record 1⟩, ⟨"size", 0, .optional .int⟩]
    let near : FieldPath 2 := ⟨"next.leaf.size", 0, next :: leaf⟩
    let far : FieldPath 2 := ⟨"next.next.leaf.size", 0, next :: next :: leaf⟩
    resolve chain 0 "next.leaf.size" = .ok near ∧ resolve chain 0 "next.next.leaf.size" = .ok far ∧
      (twoNodes.type = 0 ∧ twoNodes.fits chain) ∧ near.read chain twoNodes = .ok .nil ∧
      far.read chain twoNodes = .error (.nilLink "next.next.leaf.size" "next.next") ∧
      near.read chain ⟨1, [.int 4]⟩ = .error (.wrongRoot "Node" "Leaf") := by
  intro next leaf near far
  have nearResolved : resolve chain 0 "next.leaf.size" = .ok near := by cbv
  have farResolved : resolve chain 0 "next.next.leaf.size" = .ok far := by cbv
  have linked : FirstNamed (chain 0).fields "next" 0 ⟨"next", .optional (.optional (.record 0)), "", true⟩ :=
    (field_iff _ _ _ _).mp (by decide)
  have leafed : FirstNamed (chain 0).fields "leaf" 1 ⟨"leaf", .record 1, "", true⟩ :=
    (field_iff _ _ _ _).mp (by decide)
  have sized : FirstNamed (chain 1).fields "size" 0 ⟨"size", .optional .int, "", true⟩ :=
    (field_iff _ _ _ _).mp (by decide)
  obtain ⟨nearRead, _⟩ := values_retrieved chain 0 _ near nearResolved twoNodes
  obtain ⟨farRead, _⟩ := values_retrieved chain 0 _ far farResolved twoNodes
  obtain ⟨_, astray⟩ := values_retrieved chain 0 _ near nearResolved ⟨1, [.int 4]⟩
  have conforms : twoNodes.type = 0 ∧ twoNodes.fits chain := by decide
  obtain ⟨_, reached, _⟩ := nearRead conforms.1 conforms.2
  obtain ⟨_, _, _, stopped⟩ := farRead conforms.1 conforms.2
  have unset : twoNodes.StopsAt chain far.segments ["next", "next"] :=
    ⟨⟨"leaf", ["size"], rfl⟩, .on linked rfl (.last linked rfl)⟩
  refine ⟨nearResolved, farResolved, conforms, (reached _).mpr ?_, (stopped _).mpr ?_, astray (by decide)⟩
  · exact .on linked rfl (.on leafed rfl (.last sized rfl))
  · exact ⟨_, unset, fun other again => stops_once unset again ▸ Nat.le_refl _, by decide⟩

end FieldPath

end RecordRules
