import FlowConverter.Proofs.RecordShape
import FlowConverter.Wdl.TaskText

/-! Which types a parameter can have. A type is a name, the name of an array, a mapping that describes
an array, or a list of alternatives with `null` among them whose first other one is of these. Main
statement: an input with an id and a type is read exactly if its type is one of them; the type then
has its counterpart in the declaration, with a question mark exactly if it was a list. -/
namespace FlowConverter.Cwl

def basicTypes : List (String × String) :=
  [("File", "File"), ("string", "String"), ("boolean", "Boolean"), ("int", "Int"),
   ("long", "Float"), ("float", "Float"), ("double", "Float")]

/-- What the items of an array can be: anything basic but truth values. -/
def itemTypes : List (String × String) := basicTypes.filter (·.1 ≠ "boolean")

/-- `Atom v w`: by itself `v` stands for the type `w`. -/
inductive Atom : Value → String → Prop where
  | name {x w : String} (h : (x, w) ∈ basicTypes) : Atom (.str x) w
  | arrayName {x w : String} (h : (x, w) ∈ itemTypes) :
    Atom (.str ("array-" ++ x)) ("Array[" ++ w ++ "]")
  | array {fields : List (String × Value)} {x w : String}
    (htype : fields.lookup "type" = some (.str "array"))
    (hitems : fields.lookup "items" = some (.str x)) (h : (x, w) ∈ itemTypes) :
    Atom (.mapping fields) ("Array[" ++ w ++ "]")

/-- `Accepted v w`: as the type of a parameter, `v` stands for `w`. In a list with `null`, the first
other alternative counts. -/
inductive Accepted : Value → String → Prop where
  | required {v : Value} {w : String} (h : Atom v w) : Accepted v w
  | optional {nulls rest : List Value} {v : Value} {w : String}
    (hnulls : ∀ u ∈ nulls, u = .str "null") (hv : v ≠ .str "null")
    (hnull : .str "null" ∈ nulls ++ v :: rest) (h : Atom v w) :
    Accepted (.list (nulls ++ v :: rest)) w

/-! ### Names -/

theorem lookup_basicType {x w : String} (h : (x, w) ∈ basicTypes) :
    ∃ t, typeNames.lookup x = some t ∧ t.text = w := by
  have hall : ∀ p ∈ basicTypes, (typeNames.lookup p.1).map (·.text) = some p.2 := by decide
  exact Option.map_eq_some_iff.mp (hall _ h)

theorem lookup_arrayType {x w : String} (h : (x, w) ∈ itemTypes) :
    ∃ t, typeNames.lookup ("array-" ++ x) = some t ∧ t.text = "Array[" ++ w ++ "]" := by
  have hall : ∀ p ∈ itemTypes,
      (typeNames.lookup ("array-" ++ p.1)).map (·.text) = some ("Array[" ++ p.2 ++ "]") := by decide
  exact Option.map_eq_some_iff.mp (hall _ h)

/-- Every name in the table is that of a basic type or of an array. -/
theorem name_of_lookup {s : String} {t : ParameterType} (h : typeNames.lookup s = some t) :
    (s, t.text) ∈ basicTypes ∨
      ∃ x w, (x, w) ∈ itemTypes ∧ s = "array-" ++ x ∧ t.text = "Array[" ++ w ++ "]" := by
  have hall : ∀ p ∈ typeNames, (p.1, p.2.text) ∈ basicTypes ∨
      (p.1, p.2.text) ∈ itemTypes.map fun q => ("array-" ++ q.1, "Array[" ++ q.2 ++ "]") := by decide
  refine (hall _ (mem_typeNames_of_lookup h)).imp_right fun harray => ?_
  obtain ⟨⟨x, w⟩, hxw, heq⟩ := List.mem_map.mp harray
  obtain ⟨hs, ht⟩ := Prod.mk.inj heq
  exact ⟨x, w, hxw, hs.symm, ht.symm⟩

theorem itemType_of_lookup {x : String} {t : ParameterType}
    (h : typeNames.lookup ("array-" ++ x) = some t) :
    ∃ w, (x, w) ∈ itemTypes ∧ t.text = "Array[" ++ w ++ "]" := by
  have hbasic : ∀ p ∈ basicTypes, ¬"array-".toList <+: p.1.toList := by decide
  rcases name_of_lookup h with hmem | ⟨y, w, hy, hxy, ht⟩
  · refine absurd ?_ (hbasic _ hmem)
    rw [String.toList_append]
    exact List.prefix_append _ _
  · obtain rfl := String.append_right_inj _ |>.mp hxy
    exact ⟨w, hy, ht⟩

/-! ### Types -/

theorem describedName_of_array {fields : List (String × Value)} {x : String}
    (htype : fields.lookup "type" = some (.str "array"))
    (hitems : fields.lookup "items" = some (.str x)) :
    describedName? (.mapping fields) = .ok (some ("array-" ++ x)) := by
  rw [describedName?, Value.get_mapping_eq_ok_iff.mpr htype, Value.get_mapping_eq_ok_iff.mpr hitems]
  rfl

theorem describedName_eq_some {fields : List (String × Value)} {name : String}
    (h : describedName? (.mapping fields) = .ok (some name)) :
    ∃ x, fields.lookup "type" = some (.str "array") ∧ fields.lookup "items" = some (.str x) ∧
      name = "array-" ++ x := by
  obtain ⟨kind, hkind, h⟩ := bind_eq_ok_iff.mp h
  rw [Value.get_mapping_eq_ok_iff] at hkind
  split at h
  next harray =>
    obtain ⟨items, hitems, h⟩ := bind_eq_ok_iff.mp h
    obtain ⟨x, hx, h⟩ := bind_eq_ok_iff.mp h
    rw [Value.get_mapping_eq_ok_iff] at hitems
    rw [Value.equals_str_iff.mp harray] at hkind
    cases items with
    | str s =>
      cases hx
      exact ⟨x, hkind, hitems, (Option.some.inj (Except.ok.inj h)).symm⟩
    | _ => cases hx
  next =>
    split at h
    · cases h
    · split at h
      · cases h
      · cases h

/-- An atom is read through the one name that it has or describes. -/
theorem Atom.name_of {v : Value} {w : String} (h : Atom v w) :
    ∃ s t, typeNames.lookup s = some t ∧ t.text = w ∧
      (v = .str s ∨ ∃ fields, v = .mapping fields ∧ describedName? v = .ok (some s)) := by
  cases h with
  | name hx =>
    obtain ⟨t, ht, htext⟩ := lookup_basicType hx
    exact ⟨_, t, ht, htext, .inl rfl⟩
  | arrayName hx =>
    obtain ⟨t, ht, htext⟩ := lookup_arrayType hx
    exact ⟨_, t, ht, htext, .inl rfl⟩
  | array htype hitems hx =>
    obtain ⟨t, ht, htext⟩ := lookup_arrayType hx
    exact ⟨_, t, ht, htext, .inr ⟨_, rfl, describedName_of_array htype hitems⟩⟩

theorem atom_of_typeOfName {v : Value} {t : ParameterType} (h : typeOfName v = .ok t) :
    Atom v t.text := by
  obtain ⟨s, rfl, hs⟩ := typeOfName_eq_ok_iff.mp h
  rcases name_of_lookup hs with hmem | ⟨x, w, hx, rfl, ht⟩
  · exact .name hmem
  · rw [ht]
    exact .arrayName hx

theorem atom_of_describedName {fields : List (String × Value)} {name : String} {t : ParameterType}
    (hname : describedName? (.mapping fields) = .ok (some name))
    (ht : typeOfName (.str name) = .ok t) : Atom (.mapping fields) t.text := by
  obtain ⟨x, htype, hitems, rfl⟩ := describedName_eq_some hname
  obtain ⟨s, hs, ht⟩ := typeOfName_eq_ok_iff.mp ht
  obtain rfl := Value.str.inj hs
  obtain ⟨w, hw, htext⟩ := itemType_of_lookup ht
  rw [htext]
  exact .array htype hitems hw

/-- The alternative that counts is the first that is not `null`. -/
theorem find_alternative_eq_some_iff {items : List Value} {v : Value} :
    (items.find? fun u => !u.equals (.str "null")) = some v ↔
      v ≠ .str "null" ∧ ∃ nulls rest, items = nulls ++ v :: rest ∧ ∀ u ∈ nulls, u = .str "null" := by
  simp only [List.find?_eq_some_iff_append, Bool.not_not, Value.equals_str_iff,
    Bool.not_eq_true', Bool.eq_false_iff, ne_eq]

theorem any_null_iff {items : List Value} :
    items.any (·.equals (.str "null")) = true ↔ .str "null" ∈ items := by
  simp [List.any_eq_true, Value.equals_str_iff]

/-- What can be read as a type is accepted, and as the type that it is read as. -/
theorem ParameterType.accepted_of_read {v : Value} {t : ParameterType}
    (h : ParameterType.read v = .ok t) : Accepted v t.text := by
  cases v with
  | str s =>
    rw [read] at h
    exact .required (atom_of_typeOfName h)
  | mapping fields =>
    rw [read] at h
    obtain ⟨name, hname, h⟩ := bind_eq_ok_iff.mp h
    cases name with
    | none => cases h
    | some name => exact .required (atom_of_describedName hname h)
  | list items =>
    rw [read] at h
    split at h
    next hnull =>
      rw [any_null_iff] at hnull
      cases hfind : items.find? fun u => !u.equals (.str "null") with
      | none =>
        rw [hfind] at h
        cases h
      | some v =>
        obtain ⟨hv, nulls, rest, rfl, hnulls⟩ := find_alternative_eq_some_iff.mp hfind
        refine .optional hnulls hv hnull ?_
        rw [hfind] at h
        cases v with
        | mapping fields =>
          obtain ⟨name, hname, h⟩ := bind_eq_ok_iff.mp h
          cases name with
          | none => exact atom_of_typeOfName h
          | some name => exact atom_of_describedName hname h
        | _ => exact atom_of_typeOfName h
    next => cases h
  | _ => cases h

/-- What is accepted can be read. -/
theorem Accepted.exists_read {v : Value} {w : String} (h : Accepted v w) :
    ∃ t, ParameterType.read v = .ok t ∧ t.text = w := by
  cases h with
  | required h =>
    obtain ⟨s, t, ht, htext, rfl | ⟨fields, rfl, hname⟩⟩ := h.name_of
    · exact ⟨t, typeOfName_eq_ok_iff.mpr ⟨s, rfl, ht⟩, htext⟩
    · refine ⟨t, ?_, htext⟩
      rw [ParameterType.read, hname]
      exact typeOfName_eq_ok_iff.mpr ⟨s, rfl, ht⟩
  | @optional nulls rest v w hnulls hv hnull h =>
    have hfind := find_alternative_eq_some_iff.mpr ⟨hv, nulls, rest, rfl, hnulls⟩
    obtain ⟨s, t, ht, htext, rfl | ⟨fields, rfl, hname⟩⟩ := h.name_of
    · refine ⟨t, ?_, htext⟩
      rw [ParameterType.read, if_pos (any_null_iff.mpr hnull), hfind]
      exact typeOfName_eq_ok_iff.mpr ⟨s, rfl, ht⟩
    · refine ⟨t, ?_, htext⟩
      rw [ParameterType.read, if_pos (any_null_iff.mpr hnull), hfind]
      exact bind_eq_ok_iff.mpr ⟨some s, hname, typeOfName_eq_ok_iff.mpr ⟨s, rfl, ht⟩⟩

/-! ### Inputs -/

theorem isRequiredField_of_lookup {fields : List (String × Value)} {v : Value}
    (h : fields.lookup "type" = some v) : isRequiredField fields = isRequired v := by
  induction fields with
  | nil => cases h
  | cons field rest ih =>
    obtain ⟨key, w⟩ := field
    rw [List.lookup_cons] at h
    rw [isRequiredField, BEq.comm]
    cases hkey : "type" == key with
    | true =>
      rw [hkey] at h
      rw [if_pos rfl, Option.some.inj h]
    | false =>
      rw [hkey] at h
      rw [if_neg Bool.false_ne_true, ih h]

/-- A type that is accepted leaves the parameter optional exactly if it is a list. -/
theorem Accepted.isRequired_eq_ok {v : Value} {w : String} (h : Accepted v w) :
    isRequired v = .ok !v.isList := by
  cases h with
  | required h =>
    obtain ⟨s, t, ht, -, rfl | ⟨fields, rfl, hname⟩⟩ := h.name_of
    · have hnull : typeNames.lookup "null" = none := by decide
      have hs : s ≠ "null" := by
        rintro rfl
        rw [hnull] at ht
        cases ht
      simp [isRequired, Value.isList, hs, pure_eq_ok]
    · obtain ⟨x, htype, -⟩ := describedName_eq_some hname
      rw [isRequired, isRequiredField_of_lookup htype]
      rfl
  | optional hnulls hv hnull h =>
    rw [isRequired, any_null_iff.mpr hnull]
    rfl

def bareInput (id : String) (type : Value) : Value := .mapping [("id", .str id), ("type", type)]

def bareParameter (id : String) (required : Bool) (t : ParameterType) : InputParameter where
  name := safeName (Text.strip '#' id)
  type := t
  required := required
  flag := .null
  position := .null
  separator := if t.isArray then .str " " else .null
  default := none

theorem InputParameter.readAll_bareInput (id : String) (type : Value) :
    (InputParameter.readAll (.list [bareInput id type])).outcome = (do
      let required ← isRequired type
      let t ← ParameterType.read type
      pure [bareParameter id required t]) := by
  have hname : parameterName (bareInput id type) = .ok (safeName (Text.strip '#' id)) := rfl
  have htype : (bareInput id type).get "type" = .ok type := rfl
  have hbinding : Binding.readOf (bareInput id type) = .ok .empty := rfl
  have hdefault : readDefault (bareInput id type) .empty = pure none := rfl
  have hread : (InputParameter.read (bareInput id type)).outcome = (do
      let required ← isRequired type
      let t ← ParameterType.read type
      pure (bareParameter id required t)) := by
    simp only [InputParameter.read, hname, htype, hbinding, hdefault, Logged.outcome_bind,
      Logged.outcome_lift, Logged.outcome_pure, ok_bind]
    simp only [Binding.empty, Value.isNull, Bool.and_true, bareParameter, pure_eq_ok]
  simp only [InputParameter.readAll, Value.items, pure_eq_ok, Logged.outcome_bind,
    Logged.outcome_lift, ok_bind, Logged.outcome_mapM, List.mapM_cons, List.mapM_nil, hread,
    bind_assoc]

/-- In a text without line feeds, the mark of an optional type stands at the end. -/
theorem optionalMark_eq {cs : List Char} (h : '\n' ∉ cs) : Wdl.optionalMark cs = cs ++ ['?'] := by
  induction cs with
  | nil => rfl
  | cons c rest ih =>
    rw [List.mem_cons, not_or] at h
    obtain ⟨hc, hrest⟩ := h
    have hfeed : (c == '\n') = false := beq_eq_false_iff_ne.mpr (Ne.symm hc)
    simp [Wdl.optionalMark, hfeed, ih hrest]

theorem ParameterType.feed_not_mem_text (t : ParameterType) : '\n' ∉ t.text.toList := by
  rcases t with base | base <;> cases base <;> decide

/-- The declaration of an input that has been read. -/
theorem InputParameter.declaration_toRecord (p : InputParameter) :
    (do (← Wdl.Input.ofRecord p.toRecord).declaration) =
      .ok (p.type.text ++ (if p.required then " " else "? ") ++ p.name) := by
  have hmark : String.ofList (Wdl.optionalMark p.type.text.toList) ++ " " = p.type.text ++ "? " := by
    rw [optionalMark_eq p.type.feed_not_mem_text, ← String.toList_inj]
    simp
  rw [Wdl.Input.ofRecord_toRecord, ok_bind, Wdl.Input.declaration, toInput]
  cases p.required with
  | true => rfl
  | false =>
    rw [if_neg Bool.false_ne_true, ← hmark]
    rfl

/-- An input with an id and a type can be read exactly if the type is accepted. If the type stands
for `w`, the input is of type `w`, is required unless the type is a list, and is declared as `w` or
`w?` accordingly. -/
theorem InputParameter.bareInput_read_iff_accepted (id : String) (type : Value) :
    ((∃ ps, (readAll (.list [bareInput id type])).outcome = .ok ps) ↔ ∃ w, Accepted type w) ∧
    ∀ w, Accepted type w → ∃ p, (readAll (.list [bareInput id type])).outcome = .ok [p] ∧
      p.toRecord.get "variable_type" = .ok (.str w) ∧
      p.toRecord.get "is_required" = .ok (.bool !type.isList) ∧
      p.name = safeName (Text.strip '#' id) ∧
      (do (← Wdl.Input.ofRecord p.toRecord).declaration) =
        .ok (w ++ (if type.isList then "? " else " ") ++ p.name) := by
  have htype (p : InputParameter) : p.toRecord.get "variable_type" = .ok (.str p.type.text) := rfl
  have hrequired (p : InputParameter) : p.toRecord.get "is_required" = .ok (.bool p.required) := rfl
  have hreads : ∀ w, Accepted type w → ∃ t, t.text = w ∧
      (readAll (.list [bareInput id type])).outcome = .ok [bareParameter id (!type.isList) t] := by
    intro w hw
    obtain ⟨t, ht, htext⟩ := hw.exists_read
    refine ⟨t, htext, ?_⟩
    rw [readAll_bareInput, hw.isRequired_eq_ok, ok_bind, ht]
    rfl
  refine ⟨⟨?_, ?_⟩, ?_⟩
  · rintro ⟨ps, h⟩
    rw [readAll_bareInput] at h
    obtain ⟨required, -, h⟩ := bind_eq_ok_iff.mp h
    obtain ⟨t, ht, -⟩ := bind_eq_ok_iff.mp h
    exact ⟨_, ParameterType.accepted_of_read ht⟩
  · rintro ⟨w, hw⟩
    obtain ⟨t, -, hread⟩ := hreads w hw
    exact ⟨_, hread⟩
  · intro w hw
    obtain ⟨t, rfl, hread⟩ := hreads w hw
    refine ⟨_, hread, ?_, ?_, ?_, ?_⟩
    · rw [htype, bareParameter]
    · rw [hrequired, bareParameter]
    · rw [bareParameter]
    · rw [declaration_toRecord, bareParameter]
      cases type.isList with
      | true => rfl
      | false => rfl

def optionalArray : Value :=
  .list [.str "null", .mapping [("items", .str "long"), ("type", .str "array")], .str "null"]

theorem InputParameter.bareInput_optionalArray : ∃ p,
    (readAll (.list [bareInput "#input" optionalArray])).outcome = .ok [p] ∧
      p.toRecord.get "variable_type" = .ok (.str "Array[Float]") ∧
      (do (← Wdl.Input.ofRecord p.toRecord).declaration) =
        .ok ("Array[Float]" ++ "? " ++ "input_variable") := by
  have hlong : ("long", "Float") ∈ itemTypes := by decide
  have hw : Accepted optionalArray ("Array[" ++ "Float" ++ "]") :=
    @Accepted.optional [.str "null"] [.str "null"] _ _ (by simp) (by simp) (by simp)
      (.array rfl rfl hlong)
  obtain ⟨p, hread, htype, -, -, hdeclaration⟩ :=
    (bareInput_read_iff_accepted "#input" optionalArray).2 _ hw
  cases hread
  exact ⟨_, rfl, htype, hdeclaration⟩

end FlowConverter.Cwl
