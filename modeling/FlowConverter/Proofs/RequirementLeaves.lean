import FlowConverter.Proofs.Inlining
import FlowConverter.Proofs.RecordShape

/-! The leaves of requirements. An import whose file is found stands for the entries of that file,
which may be imports again; what is left when all of them are resolved are the leaves. Main
statement: entries that can be read are read as their leaves are, one by one, and each leaf gives
one requirement or one warning. -/
namespace FlowConverter

/-- Two lists, or two texts, are gone through one after the other. -/
theorem Value.items_append {v w both : Value} {items : List Value} (h : v.append w = .ok both)
    (hitems : both.items = .ok items) :
    ∃ first second, v.items = .ok first ∧ w.items = .ok second ∧ items = first ++ second := by
  cases v <;> cases w <;> cases h
  case str.str.refl s t =>
    refine ⟨_, _, rfl, rfl, ?_⟩
    rw [← Except.ok.inj hitems, String.toList_append, List.map_append]
  case list.list.refl xs ys => exact ⟨xs, ys, rfl, rfl, (Except.ok.inj hitems).symm⟩

namespace Cwl

/-- The entries that a part lists under a key; none if it does not have the key. -/
def listedUnder (key : String) (part : Value) : Except Fault (List Value) := do
  if ← part.has key then (← part.get key).items else pure []

theorem listedUnder_of_has {key : String} {part : Value} (h : part.has key = .ok true) :
    listedUnder key part = part.get key >>= (·.items) := by
  rw [listedUnder, h]
  rfl

theorem listedUnder_of_not_has {key : String} {part : Value} (h : part.has key = .ok false) :
    listedUnder key part = .ok [] := by
  rw [listedUnder, h]
  rfl

theorem listedUnder_of_get {key : String} {part v : Value} (h : part.get key = .ok v) :
    listedUnder key part = v.items := by
  rw [listedUnder_of_has (Value.has_of_get h), h, ok_bind]

/-- An entry and the directory that it is read from. -/
structure Leaf where
  sourceDir : Value
  entry : Value

variable {ws : Workspace} {sourceDir entry : Value}

/-- Entries and their leaves. The entries of an imported file have no source directory. -/
inductive Leaves (ws : Workspace) : Value → List Value → List Leaf → Prop where
  | nil {sourceDir : Value} : Leaves ws sourceDir [] []
  | leaf {sourceDir entry : Value} {rest : List Value} {leaves : List Leaf}
    (hfound : ∀ path file, Imports entry path → ws.locate sourceDir path ≠ .ok (some file))
    (hrest : Leaves ws sourceDir rest leaves) :
    Leaves ws sourceDir (entry :: rest) (⟨sourceDir, entry⟩ :: leaves)
  | imported {sourceDir entry value : Value} {path file : String} {rest : List Value}
    {inner leaves : List Leaf} (himports : Imports entry path)
    (hfile : ws.locate sourceDir path = .ok (some file)) (hread : ws.read file = .ok value)
    (hinner : Leaves ws .null (importedEntries value) inner)
    (hrest : Leaves ws sourceDir rest leaves) :
    Leaves ws sourceDir (entry :: rest) (inner ++ leaves)

theorem Leaves.unique {entries : List Value} {leaves leaves' : List Leaf}
    (h : Leaves ws sourceDir entries leaves) (h' : Leaves ws sourceDir entries leaves') :
    leaves = leaves' := by
  induction h generalizing leaves' with
  | nil =>
    cases h'
    rfl
  | leaf hfound _ ih =>
    cases h' with
    | leaf _ hrest' => rw [ih hrest']
    | imported himports hfile => exact absurd hfile (hfound _ _ himports)
  | imported himports hfile hread _ _ ihinner ihrest =>
    cases h' with
    | leaf hfound' _ => exact absurd hfile (hfound' _ _ himports)
    | imported himports' hfile' hread' hinner' hrest' =>
      obtain rfl := Except.ok.inj (himports.2.symm.trans himports'.2)
      obtain rfl := Option.some.inj (Except.ok.inj (hfile.symm.trans hfile'))
      obtain rfl := Except.ok.inj (hread.symm.trans hread')
      rw [ihinner hinner', ihrest hrest']

/-- A leaf read on its own. No file is entered, so no nesting is needed. -/
def Leaf.read (ws : Workspace) (leaf : Leaf) : Report (List Requirement) :=
  Requirement.readAll ws 0 leaf.sourceDir (.list [leaf.entry])

/-- One requirement and no warning, or one warning and no requirement. -/
def GivesOne (r : Report (List Requirement)) : Prop :=
  (∃ requirement, r = ⟨[], .ok [requirement]⟩) ∨ ∃ warning, r = ⟨[warning], .ok []⟩

/-- What an entry that is no import can give. Only environment requirements give settings, and they
give nothing else. -/
inductive LeafReport (entry : Value) : Report (List Requirement) → Prop where
  | environment {listed : Value} {settings : List (Value × Value)}
    (hclass : isOfClass "EnvVarRequirement" entry = true) (hlisted : entry.get "envDef" = .ok listed)
    (hsettings : readVariables listed = .ok settings) :
    LeafReport entry ⟨[], .ok [.environment settings]⟩
  | image {key : String} {image : Value} (hclass : isOfClass "EnvVarRequirement" entry = false)
    (himage : entry.get key = .ok image) : LeafReport entry ⟨[], .ok [.docker image]⟩
  | warning {w : Warning} (hclass : isOfClass "EnvVarRequirement" entry = false) :
    LeafReport entry ⟨[w], .ok []⟩

theorem LeafReport.givesOne {r : Report (List Requirement)} (h : LeafReport entry r) :
    GivesOne r := by
  cases h with
  | environment => exact .inl ⟨_, rfl⟩
  | image => exact .inl ⟨_, rfl⟩
  | warning => exact .inr ⟨_, rfl⟩

/-! ### Single entries -/

theorem isOfClass_of_get {className : String} {name : Value} (h : entry.get "class" = .ok name) :
    isOfClass className entry = name.equals (.str className) := by
  rw [isOfClass, h]

theorem isOfClass_of_not_has (className : String) (h : entry.has "class" = .ok false) :
    isOfClass className entry = false := by
  cases entry with
  | mapping fields => simp [isOfClass, Value.get, Value.lookup_of_not_has h, throw_eq_error]
  | _ => rfl

theorem Requirement.leafReport_readClass {found : List Requirement}
    (h : (readClass entry).outcome = .ok found) : LeafReport entry (readClass entry) := by
  refine Logged.of_lift_bind _ h fun name hname h => ?_
  split
  next hdocker =>
    have hclass : isOfClass "EnvVarRequirement" entry = false := by
      rw [isOfClass_of_get hname, Value.equals_str_iff.mp hdocker]
      decide
    rw [if_pos hdocker] at h
    refine Logged.of_lift_bind _ h fun hasId _ h => ?_
    cases hasId with
    | true => exact Logged.of_lift_bind _ h fun _ himage _ => .image hclass himage
    | false =>
      refine Logged.of_lift_bind _ h fun hasPull _ h => ?_
      cases hasPull with
      | true => exact Logged.of_lift_bind _ h fun _ himage _ => .image hclass himage
      | false => exact .warning hclass
  next hdocker =>
    rw [if_neg hdocker] at h
    split
    next henvironment =>
      rw [if_pos henvironment] at h
      refine Logged.of_lift_bind _ h fun listed hlisted h => ?_
      refine Logged.of_lift_bind _ h fun settings hsettings _ => ?_
      exact .environment ((isOfClass_of_get hname).trans henvironment) hlisted hsettings
    next henvironment =>
      exact .warning ((isOfClass_of_get hname).trans (Bool.eq_false_iff.mpr henvironment))

/-- What an entry does: if it imports a file that is found, the file is entered; all others are
leaves. -/
theorem Requirement.readEntry_cases {inner : List Value → Report (List Requirement)}
    {found : List Requirement} (h : (readEntry ws inner sourceDir entry).outcome = .ok found) :
    (∃ path file value, Imports entry path ∧ ws.locate sourceDir path = .ok (some file) ∧
      ws.read file = .ok value ∧
      readEntry ws inner sourceDir entry = inner (importedEntries value)) ∨
    (∀ path file, Imports entry path → ws.locate sourceDir path ≠ .ok (some file)) ∧
      LeafReport entry (readEntry ws inner sourceDir entry) := by
  by_cases himports : ∃ path, Imports entry path
  · obtain ⟨path, hpath⟩ := himports
    rw [readEntry_of_imports hpath] at h ⊢
    cases hlocated : ws.locate sourceDir path with
    | error e =>
      rw [hlocated] at h
      cases h
    | ok located =>
      rw [hlocated] at h
      cases located with
      | none =>
        refine .inr ⟨?_, .warning (isOfClass_of_not_has _ hpath.1)⟩
        intro path' file hpath'
        obtain rfl := Except.ok.inj (hpath.2.symm.trans hpath'.2)
        simp [hlocated]
      | some file =>
        cases hread : ws.read file with
        | error e =>
          simp only [Logged.lift_ok, pure_bind, hread] at h
          cases h
        | ok value =>
          refine .inl ⟨path, file, value, hpath, hlocated, hread, ?_⟩
          simp only [Logged.lift_ok, pure_bind, hread]
  · refine .inr ⟨fun path file hpath => absurd ⟨path, hpath⟩ himports, ?_⟩
    refine Logged.of_lift_bind _ h fun classed hclassed h => ?_
    cases classed with
    | true => exact leafReport_readClass h
    | false =>
      refine Logged.of_lift_bind _ h fun plain _ h => ?_
      refine Logged.of_lift_bind _ h fun dollar _ h => ?_
      cases hor : plain || dollar with
      | true =>
        rw [hor] at h
        refine Logged.of_lift_bind _ h fun path hpath _ => ?_
        exact absurd ⟨path, hclassed, hpath⟩ himports
      | false => exact .warning (isOfClass_of_not_has _ hclassed)

/-- Where no file is entered, it does not matter how files are read. -/
theorem Requirement.readEntry_of_not_found {inner inner' : List Value → Report (List Requirement)}
    (hfound : ∀ path file, Imports entry path → ws.locate sourceDir path ≠ .ok (some file)) :
    readEntry ws inner sourceDir entry = readEntry ws inner' sourceDir entry := by
  by_cases himports : ∃ path, Imports entry path
  · obtain ⟨path, hpath⟩ := himports
    rw [readEntry_of_imports hpath, readEntry_of_imports hpath]
    cases hlocated : ws.locate sourceDir path with
    | error e => rfl
    | ok located =>
      cases located with
      | none => rfl
      | some file => exact absurd hlocated (hfound path file hpath)
  · exact readEntry_of_not_imports himports

/-! ### Lists of entries -/

/-- The entries have leaves, and the report is that of the leaves read one by one. -/
def ReadsLeaves (ws : Workspace) (sourceDir : Value) (entries : List Value)
    (r : Report (List Requirement)) : Prop :=
  ∃ leaves, Leaves ws sourceDir entries leaves ∧ r = Logged.gather (Leaf.read ws) leaves ∧
    ∀ leaf ∈ leaves, LeafReport leaf.entry (leaf.read ws)

/-- If the entries of imported files are read as their leaves are, then so are all entries. -/
theorem Requirement.readsLeaves_of_inner {inner : List Value → Report (List Requirement)}
    (hinner : ∀ entries found, (inner entries).outcome = .ok found →
      ReadsLeaves ws .null entries (inner entries))
    {entries : List Value} {found : List Requirement}
    (h : (Logged.gather (readEntry ws inner sourceDir) entries).outcome = .ok found) :
    ReadsLeaves ws sourceDir entries (Logged.gather (readEntry ws inner sourceDir) entries) := by
  induction entries generalizing found with
  | nil => exact ⟨[], .nil, rfl, by simp⟩
  | cons entry rest ih =>
    obtain ⟨first, more, hfirst, hmore, -⟩ := Logged.outcome_gather_cons h
    obtain ⟨leaves, hleaves, hrest, hreports⟩ := ih hmore
    rcases readEntry_cases hfirst with ⟨path, file, value, himports, hfile, hread, heq⟩ |
      ⟨hfound, hreport⟩
    · rw [heq] at hfirst
      obtain ⟨nested, hnested, hvalue, hnestedReports⟩ := hinner _ _ hfirst
      refine ⟨nested ++ leaves, .imported himports hfile hread hnested hleaves, ?_, ?_⟩
      · rw [Logged.gather, heq, hvalue, hrest, Logged.gather_append]
      · exact List.forall_mem_append.mpr ⟨hnestedReports, hreports⟩
    -- A leaf enters no file, so nothing is lost if it is read alone and under no bound.
    · have hleaf : Leaf.read ws ⟨sourceDir, entry⟩ = readEntry ws inner sourceDir entry := by
        rw [Leaf.read, readAll_singleton, readEntry_of_not_found hfound]
      refine ⟨⟨sourceDir, entry⟩ :: leaves, .leaf hfound hleaves, ?_, ?_⟩
      · rw [Logged.gather, Logged.gather, hrest, hleaf]
      · exact List.forall_mem_cons.mpr ⟨hleaf ▸ hreport, hreports⟩

theorem Requirement.readsLeaves_expand (bound : Nat) (entries : List Value)
    (found : List Requirement) (h : (expand ws bound entries).outcome = .ok found) :
    ReadsLeaves ws .null entries (expand ws bound entries) := by
  induction bound generalizing entries found with
  | zero => cases h
  | succ bound ih =>
    rw [expand] at h ⊢
    exact readsLeaves_of_inner ih h

/-- Entries that can be read are read as their leaves are. -/
theorem Requirement.readsLeaves_readAll {bound : Nat} {entries : List Value}
    {found : List Requirement}
    (h : (readAll ws bound sourceDir (.list entries)).outcome = .ok found) :
    ReadsLeaves ws sourceDir entries (readAll ws bound sourceDir (.list entries)) := by
  rw [readAll_list, run_script] at h ⊢
  exact readsLeaves_of_inner (readsLeaves_expand bound) h

/-! ### Parts -/

/-- The entries of a part are those it requires and then those it hints at. -/
theorem Requirement.entriesOf_eq_ok {part : Value} {entries : List Value}
    (h : entriesOf part = .ok entries) :
    ∃ required hinted, listedUnder "requirements" part = .ok required ∧
      listedUnder "hints" part = .ok hinted ∧ entries = required ++ hinted := by
  obtain ⟨hasRequired, hrequired, h⟩ := bind_eq_ok_iff.mp h
  obtain ⟨hasHinted, hhinted, h⟩ := bind_eq_ok_iff.mp h
  cases hasRequired with
  | true =>
    rw [listedUnder_of_has hrequired]
    cases hasHinted with
    | true =>
      rw [listedUnder_of_has hhinted]
      obtain ⟨v, hv, h⟩ := bind_eq_ok_iff.mp h
      obtain ⟨w, hw, h⟩ := bind_eq_ok_iff.mp h
      obtain ⟨both, hboth, hitems⟩ := bind_eq_ok_iff.mp h
      obtain ⟨required, hinted, hv', hw', rfl⟩ := Value.items_append hboth hitems
      exact ⟨required, hinted, bind_eq_ok_iff.mpr ⟨v, hv, hv'⟩, bind_eq_ok_iff.mpr ⟨w, hw, hw'⟩, rfl⟩
    | false =>
      rw [listedUnder_of_not_has hhinted]
      exact ⟨entries, [], h, rfl, (List.append_nil _).symm⟩
  | false =>
    rw [listedUnder_of_not_has hrequired]
    cases hasHinted with
    | true =>
      rw [listedUnder_of_has hhinted]
      exact ⟨[], entries, rfl, h, rfl⟩
    | false =>
      rw [listedUnder_of_not_has hhinted]
      exact ⟨[], [], rfl, rfl, (Except.ok.inj h).symm⟩

/-- The requirements of a part are read as a list of entries is. -/
theorem Requirement.readPart_eq_readAll {bound : Nat} {part : Value} {found : List Requirement}
    (h : (readPart ws bound sourceDir part).outcome = .ok found) :
    ∃ required hinted, listedUnder "requirements" part = .ok required ∧
      listedUnder "hints" part = .ok hinted ∧
      readPart ws bound sourceDir part = readAll ws bound sourceDir (.list (required ++ hinted)) := by
  rw [readPart_eq, Logged.outcome_bind, Logged.outcome_lift] at h
  obtain ⟨entries, hentries, -⟩ := bind_eq_ok_iff.mp h
  obtain ⟨required, hinted, hrequired, hhinted, rfl⟩ := entriesOf_eq_ok hentries
  refine ⟨required, hinted, hrequired, hhinted, ?_⟩
  rw [readPart_eq, hentries, Logged.lift_ok, pure_bind, readAll_list]

end Cwl

end FlowConverter
