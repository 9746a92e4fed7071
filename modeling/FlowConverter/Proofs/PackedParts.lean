import FlowConverter.Proofs.Circularity
import FlowConverter.Proofs.RequirementLeaves

/-! Documents packed into one file. A part reads in the list as it does when it is the document of
the file by itself: what it asks for is found at the same places, and there the same documents
stand, but for the file itself. That file is never entered again as a document, or the part alone
would run in a circle, and as a file of requirements it gives none in either form. Main statement:
if every part can be read by itself, a list with a workflow reads as all tools in order with the
first workflow, and a list without one cannot be read. -/
namespace FlowConverter

/-! ### Another document in a file -/

namespace Workspace

variable {ws : Workspace} {path : String} {value : Value}

/-- The same files, with `value` as the document of the file at `path`. -/
def rewritten (ws : Workspace) (path : String) (value : Value) : Workspace where
  files := ws.files.map fun f =>
    (f.1, if f.1 = Path.normalize ws.directory path then value else f.2)
  directory := ws.directory

theorem lookup_rewritten (place : List String) :
    (ws.rewritten path value).files.lookup place = (ws.files.lookup place).map fun document =>
      if place = Path.normalize ws.directory path then value else document := by
  rw [rewritten]
  induction ws.files with
  | nil => rfl
  | cons f files ih =>
    rw [List.map_cons, List.lookup_cons, List.lookup_cons, ih]
    split
    next hplace =>
      rw [beq_iff_eq.mp hplace]
      rfl
    next => rfl

/-- Whether a file or a directory stands somewhere, and not what the file holds. -/
def Entry.isFile : Entry → Bool
  | file _ => true
  | directory => false

theorem entryAt?_rewritten (place : List String) :
    ((ws.rewritten path value).entryAt? place).map Entry.isFile =
      (ws.entryAt? place).map Entry.isFile := by
  rw [entryAt?, entryAt?, lookup_rewritten]
  cases ws.files.lookup place with
  | some document => rfl
  | none =>
    have hany : (ws.rewritten path value).files.any (fun f => place.isPrefixOf f.1) =
        ws.files.any fun f => place.isPrefixOf f.1 := by
      simp [rewritten, List.any_map, Function.comp_def]
    simp only [Option.map_none, hany]
    rfl

theorem follow_rewritten (place names : List String) :
    ((ws.rewritten path value).follow place names).map Entry.isFile =
      (ws.follow place names).map Entry.isFile := by
  induction names generalizing place with
  | nil => rfl
  | cons name rest ih =>
    have hentry := @entryAt?_rewritten ws path value (place ++ [name])
    rw [follow, follow]
    split
    next => exact ih place
    next =>
      split
      next => exact ih place.dropLast
      next =>
        cases hold : ws.entryAt? (place ++ [name]) with
        | none =>
          rw [hold, Option.map_none, Option.map_eq_none_iff] at hentry
          rw [hentry]
        | some entry =>
          rw [hold] at hentry
          obtain ⟨entry', hnew, hsame⟩ := Option.map_eq_some_iff.mp hentry
          rw [hnew]
          cases entry <;> cases entry' <;> cases hsame
          case directory.directory.refl => exact ih (place ++ [name])
          case file.file.refl => cases rest <;> rfl

theorem find_rewritten (path' : String) :
    ((ws.rewritten path value).find path').map Entry.isFile = (ws.find path').map Entry.isFile := by
  rw [find, find]
  split
  · rfl
  · split
    · rfl
    · exact follow_rewritten _ _

theorem contains_rewritten (path' : String) :
    (ws.rewritten path value).contains path' = ws.contains path' := by
  have hfind := @find_rewritten ws path value path'
  rw [contains, contains]
  cases hnew : (ws.rewritten path value).find path' <;> cases hold : ws.find path' <;>
    rw [hnew, hold] at hfind <;> cases hfind

theorem placeOf?_rewritten (path' : String) :
    (ws.rewritten path value).placeOf? path' = ws.placeOf? path' := by
  have hfind := @find_rewritten ws path value path'
  rw [placeOf?, placeOf?]
  cases hnew : (ws.rewritten path value).find path' with
  | error e =>
    cases hold : ws.find path' with
    | error e' => rfl
    | ok entry =>
      rw [hnew, hold] at hfind
      cases hfind
  | ok entry' =>
    cases hold : ws.find path' with
    | error e =>
      rw [hnew, hold] at hfind
      cases hfind
    | ok entry =>
      rw [hnew, hold] at hfind
      have hsame : entry'.isFile = entry.isFile := Except.ok.inj hfind
      cases entry <;> cases entry' <;> cases hsame <;> rfl

theorem locate_rewritten (sourceDir : Value) (path' : String) :
    (ws.rewritten path value).locate sourceDir path' = ws.locate sourceDir path' := by
  simp only [locate, contains_rewritten]

end Workspace

namespace Cwl

open Relation

theorem Request.lookUp_rewritten (ws : Workspace) (path : String) (value : Value) (q : Request) :
    q.lookUp (ws.rewritten path value) = q.lookUp ws := by
  have hfound (located : Option String) :
      Found.ofPath? (ws.rewritten path value) located = Found.ofPath? ws located := by
    cases located with
    | none => rfl
    | some file => rw [Found.ofPath?, Found.ofPath?, Workspace.placeOf?_rewritten]
  simp only [lookUp, Workspace.locate_rewritten, hfound]

/-! ### Runs that succeed -/

/-- Where a run succeeds, it succeeds in the same way with all answers that agree with those it
got. -/
theorem Script.outcome_run_of_asks {α : Type} {s : Script α}
    {answers : Nat → (q : Request) → Report q.role.Reply}
    {answer : (q : Request) → Report q.role.Reply} {n : Nat}
    (h : ∀ q a, Asks (Replies answers) s q → (answers n q).outcome = .ok a →
      (answer q).outcome = .ok a) {x : α} (hrun : (s.run (answers n)).outcome = .ok x) :
    (s.run answer).outcome = .ok x := by
  induction s with
  | done r => exact hrun
  | ask log q next ih =>
    simp only [run, Logged.outcome_bind] at hrun ⊢
    obtain ⟨_, -, hrun⟩ := bind_eq_ok_iff.mp hrun
    obtain ⟨a, ha, hrun⟩ := bind_eq_ok_iff.mp hrun
    rw [h q a .now ha]
    exact ih a (fun q' a' hq' => h q' a' (.later ⟨n, ha⟩ hq')) hrun

/-- A part of a packed document: a mapping of one of the two classes. -/
def IsPart (part : Value) : Prop :=
  isOfClass "CommandLineTool" part = true ∨ isOfClass "Workflow" part = true

theorem get_of_isOfClass {className : String} {part : Value} (h : isOfClass className part = true) :
    part.get "class" = .ok (.str className) := by
  rw [isOfClass] at h
  split at h
  next name hname => rw [hname, Value.equals_str_iff.mp h]
  next => cases h

/-- Parts are no requirements. -/
theorem IsPart.outcome_entryScript {part : Value} (h : IsPart part)
    (answer : (q : Request) → Report q.role.Reply) (sourceDir : Value) :
    ((Requirement.entryScript sourceDir part).run answer).outcome = .ok [] := by
  have hclass {name : String} (hname : part.get "class" = .ok (.str name)) :
      (Requirement.entryScript sourceDir part).run answer = Requirement.readClass part := by
    simp only [Requirement.entryScript, Script.run_bind, Script.run_lift_outcome,
      Value.has_of_get hname, Logged.lift_ok, pure_bind, if_true, Script.run_lift]
  rcases h with h | h
  all_goals
    have hname := get_of_isOfClass h
    rw [hclass hname, Requirement.readClass, hname]
    rfl

theorem IsPart.importedEntries {part : Value} (h : IsPart part) :
    Cwl.importedEntries part = [part] := by
  cases part with
  | list items => rcases h with h | h <;> cases h
  | _ => rfl

theorem Requirement.outcome_run_of_parts (answer : (q : Request) → Report q.role.Reply)
    (sourceDir : Value) {entries : List Value} (h : ∀ entry ∈ entries, IsPart entry) :
    ((script sourceDir entries).run answer).outcome = .ok [] := by
  rw [script]
  induction entries with
  | nil => rfl
  | cons entry rest ih =>
    rw [List.forall_mem_cons] at h
    simp only [Script.gather, Script.run_bind, Script.run_pure, Logged.outcome_bind,
      h.1.outcome_entryScript, ih h.2]
    rfl

/-! ### A part by itself -/

section Alone

variable {ws : Workspace} {path : String} {part : Value} {parts : List Value}

/-- On the way from the part, what is answered is answered for the packed file as well. -/
theorem outcome_answer_of_rewritten
    (hfile : ws.files.lookup (Path.normalize ws.directory path) = some (.list parts))
    (hparts : ∀ p ∈ parts, IsPart p) (hpart : IsPart part)
    (hcircle : ¬ TransGen (Site.Enters (ws.rewritten path part))
      ⟨.document, Path.normalize ws.directory path⟩ ⟨.document, Path.normalize ws.directory path⟩)
    (n : Nat) {s : Site} {q : Request} {a : q.role.Reply}
    (hs : ReflTransGen (Site.Enters (ws.rewritten path part))
      ⟨.document, Path.normalize ws.directory path⟩ s)
    (hq : s.Asks (ws.rewritten path part) q)
    (h : (answer (ws.rewritten path part) n q).outcome = .ok a) :
    (answer ws n q).outcome = .ok a := by
  -- A reply comes from a file that is entered from `s`, under a smaller bound; that this file can
  -- be reached from the part is what rules the packed file out as a document.
  induction n using Nat.strongRecOn generalizing s q with
  | ind n ih =>
    have hsame := Request.lookUp_rewritten ws path part q
    rcases answer_eq_ok h with ⟨hlook, hmissed⟩ | ⟨place, value, m, rfl, hlook, hvalue, hrun⟩
    · rw [answer_of_nowhere (hsame.symm.trans hlook)]
      exact hmissed
    · obtain ⟨old, hold, -, hanswer⟩ := answer_of_file (hsame.symm.trans hlook)
      have henters : ReflTransGen (Site.Enters (ws.rewritten path part)) _ ⟨q.role, place⟩ :=
        hs.tail ⟨q, hq, rfl, hlook⟩
      rw [hanswer]
      by_cases hplace : place = Path.normalize ws.directory path
      · subst hplace
        rw [Workspace.lookup_rewritten, hfile, Option.map_some, if_pos rfl] at hvalue
        obtain rfl := Option.some.inj hvalue
        obtain rfl := Option.some.inj (hfile.symm.trans hold)
        obtain ⟨role, sourceDir, path'⟩ := q
        cases role with
        | document => exact absurd (TransGen.tail' hs ⟨_, hq, rfl, hlook⟩) hcircle
        | requirements =>
          have hpart' : ∀ p ∈ importedEntries part, IsPart p := by
            rw [hpart.importedEntries, List.forall_mem_singleton]
            exact hpart
          rw [Role.script, Requirement.outcome_run_of_parts _ _ hpart'] at hrun
          exact (Requirement.outcome_run_of_parts _ _ hparts).trans hrun
      · have hkept : value = old := by
          rw [Workspace.lookup_rewritten, hold, Option.map_some, if_neg hplace] at hvalue
          exact (Option.some.inj hvalue).symm
        rw [← hkept]
        refine Script.outcome_run_of_asks (fun q' a' hq' ha' => ?_) hrun
        exact ih m (Nat.lt_succ_self m) henters ⟨value, hvalue, hq'⟩ ha'

/-- A document that is read is not entered again on the way. -/
theorem Document.not_circle_of_read {bound : Nat} {place : List String} {d : Document}
    (hplace : ws.placeOf? path = some place)
    (h : (Document.read ws (bound + 1) path).outcome = .ok d) :
    ¬ TransGen (Site.Enters ws) ⟨.document, place⟩ ⟨.document, place⟩ := by
  intro hcircle
  obtain ⟨value, hvalue, -⟩ := Workspace.placeOf?_eq_some hplace
  obtain ⟨t, ⟨q, hasks, hrole, hq⟩, ht⟩ := TransGen.head'_iff.mp hcircle
  have hexhausted : ((Document.scriptAt place value).run (answer ws bound)).Exhausted :=
    Script.exhausted_run (answer_ascending ws) ((Document.asks_scriptAt hvalue).mpr hasks)
      (Site.exhausted_of_leads ht hcircle bound q hrole hq)
  rw [Document.read_of_placeOf? hplace hvalue, hexhausted] at h
  cases h

/-- A part that can be read by itself is read in the same way from the packed file. -/
theorem Document.outcome_ofValue_of_alone {bound : Nat} {d : Document}
    (hfile : ws.read path = .ok (.list parts)) (hparts : ∀ p ∈ parts, IsPart p)
    (hpart : part ∈ parts)
    (h : (Document.read (ws.rewritten path part) (bound + 1) path).outcome = .ok d) :
    (Document.ofValue (Tool.read ws bound (.str (ws.directoryOf path)))
      (Workflow.read ws bound (toolsOfFile ws bound) (.str (ws.directoryOf path))
        (fileLabel path)) part).outcome = .ok d := by
  have hplace := Workspace.placeOf?_of_read hfile
  have hplace' := (@Workspace.placeOf?_rewritten ws path part path).trans hplace
  obtain ⟨packed, hlookup, hread, hname, hdir⟩ := Workspace.placeOf?_eq_some hplace
  cases hfile.symm.trans hread
  have hlookup' : (ws.rewritten path part).files.lookup (Path.normalize ws.directory path) =
      some part := by
    rw [Workspace.lookup_rewritten, hlookup, Option.map_some, if_pos rfl]
  have hcircle := Document.not_circle_of_read hplace' h
  rw [Document.read_of_placeOf? hplace' hlookup'] at h
  rw [← Document.run_script, fileLabel, hname, hdir]
  refine Script.outcome_run_of_asks (fun q a hq ha => ?_) h
  exact outcome_answer_of_rewritten hlookup hparts (hparts part hpart) hcircle bound .refl
    ((Document.asks_scriptAt hlookup').mp hq) ha

end Alone

/-! ### All parts -/

section Parts

variable {tool : Value → Report Tool} {workflow : Value → Report Workflow}

/-- What a part is as a document: the one tool, or the workflow, that it is read as. -/
inductive ReadsAs (tool : Value → Report Tool) (workflow : Value → Report Workflow)
    (part : Value) : Document → Prop where
  | tool {t : Tool} (hclass : part.get "class" = .ok (.str "CommandLineTool"))
    (h : (tool part).outcome = .ok t) : ReadsAs tool workflow part ⟨some [t], none⟩
  | workflow {w : Workflow} (hclass : part.get "class" = .ok (.str "Workflow"))
    (h : (workflow part).outcome = .ok w) : ReadsAs tool workflow part ⟨none, some w⟩

theorem readsAs_of_ofValue {part : Value} {d : Document} (hpart : IsPart part)
    (h : (Document.ofValue tool workflow part).outcome = .ok d) : ReadsAs tool workflow part d := by
  rcases Document.ofValue_eq_ok h with ⟨parts, tools, first, rest, rfl, -⟩ |
    ⟨fields, t, rfl, hclass, ht, rfl⟩ | ⟨fields, w, rfl, hclass, hw, rfl⟩
  · rcases hpart with hpart | hpart <;> cases hpart
  · exact .tool (Value.get_mapping_eq_ok_iff.mpr hclass) ht
  · exact .workflow (Value.get_mapping_eq_ok_iff.mpr hclass) hw

theorem outcome_readParts_cons {α : Type} {className name : String} {read : Value → Report α}
    {part : Value} (rest : List Value) (hname : part.get "class" = .ok (.str name)) :
    (readParts className read (part :: rest)).outcome =
      if name = className then do
        let x ← (read part).outcome
        let xs ← (readParts className read rest).outcome
        pure (x :: xs)
      else (readParts className read rest).outcome := by
  simp only [readParts, Logged.gather, hname, Logged.lift_ok, pure_bind, Value.equals_str_iff,
    Value.str.injEq]
  split
  next =>
    simp only [bind_assoc, pure_bind, Logged.outcome_bind, Logged.outcome_pure,
      List.singleton_append]
    rfl
  next => simp only [pure_bind, List.nil_append, bind_pure]

theorem outcome_readParts_tool {parts : List Value} {ds : List Document}
    (h : List.Forall₂ (ReadsAs tool workflow) parts ds) :
    (readParts "CommandLineTool" tool parts).outcome =
      .ok (ds.flatMap fun d => d.tasks.getD []) := by
  induction h with
  | nil => rfl
  | @cons part d parts ds hpart _ ih =>
    cases hpart with
    | tool hclass ht =>
      rw [outcome_readParts_cons parts hclass, if_pos rfl, ht, ih]
      rfl
    | workflow hclass =>
      rw [outcome_readParts_cons parts hclass, if_neg (by decide), ih]
      rfl

theorem outcome_readParts_workflow {parts : List Value} {ds : List Document}
    (h : List.Forall₂ (ReadsAs tool workflow) parts ds) :
    (readParts "Workflow" workflow parts).outcome = .ok (ds.filterMap (·.workflow)) := by
  induction h with
  | nil => rfl
  | @cons part d parts ds hpart _ ih =>
    cases hpart with
    | tool hclass =>
      rw [outcome_readParts_cons parts hclass, if_neg (by decide), ih]
      rfl
    | workflow hclass hw =>
      rw [outcome_readParts_cons parts hclass, if_pos rfl, hw, ih]
      rfl

theorem any_isOfClass_workflow {parts : List Value} {ds : List Document}
    (h : List.Forall₂ (ReadsAs tool workflow) parts ds) :
    parts.any (isOfClass "Workflow") = (ds.findSome? (·.workflow)).isSome := by
  induction h with
  | nil => rfl
  | cons hpart _ ih =>
    cases hpart with
    | tool hclass =>
      rw [List.any_cons, isOfClass_of_get hclass, ih, List.findSome?_cons]
      rfl
    | workflow hclass =>
      rw [List.any_cons, isOfClass_of_get hclass, List.findSome?_cons]
      rfl

end Parts

/-- If every part of a packed document can be read as the one document of the file, then the list
reads as all tools in order with the first workflow. Without a workflow it cannot be read. -/
theorem Document.packed_keeps_parts {ws : Workspace} {bound : Nat} {path : String}
    {parts : List Value} {ds : List Document} (hfile : ws.read path = .ok (.list parts))
    (hclass : ∀ part ∈ parts, IsPart part)
    (hparts : List.Forall₂ (fun part d =>
      (Document.read (ws.rewritten path part) (bound + 1) path).outcome = .ok d) parts ds) :
    (Document.read ws (bound + 1) path).outcome =
      if parts.any (isOfClass "Workflow") then
        .ok ⟨some (ds.flatMap fun d => d.tasks.getD []), ds.findSome? (·.workflow)⟩
      else .error .outOfRange := by
  have hdocuments : List.Forall₂
      (ReadsAs (Tool.read ws bound (.str (ws.directoryOf path)))
        (Workflow.read ws bound (toolsOfFile ws bound) (.str (ws.directoryOf path))
          (fileLabel path))) parts ds := by
    refine ((List.forall₂_and_left _ _).mpr ⟨fun part hpart => hpart, hparts⟩).imp ?_
    rintro part d ⟨hpart, hread⟩
    exact readsAs_of_ofValue (hclass part hpart) (outcome_ofValue_of_alone hfile hclass hpart hread)
  rw [any_isOfClass_workflow hdocuments, Document.read_succ, hfile, Logged.lift_ok, pure_bind,
    Document.run_script, Document.ofValue, Logged.outcome_bind, outcome_readParts_tool hdocuments,
    ok_bind, Logged.outcome_bind, outcome_readParts_workflow hdocuments, ok_bind,
    ← List.head?_filterMap]
  cases ds.filterMap (·.workflow) with
  | nil => rfl
  | cons first rest => rfl

def bundledParts : List Value :=
  [.mapping [("class", .str "CommandLineTool"), ("id", .str "#first"), ("baseCommand", .str "ls"),
     ("inputs", .list []), ("outputs", .list []),
     ("requirements", .list [.mapping [("$import", .str "all.cwl")]])],
   .mapping [("class", .str "Workflow"), ("id", .str "#main"), ("inputs", .list []),
     ("outputs", .list []), ("steps", .list [.mapping [("run", .str "t.cwl"),
       ("inputs", .list []), ("outputs", .list [])]])],
   .mapping [("class", .str "CommandLineTool"), ("id", .str "#second"), ("baseCommand", .str "wc"),
     ("inputs", .list []), ("outputs", .list [])]]

def bundledSample : Workspace where
  files := [(["all.cwl"], .list bundledParts),
    (["t.cwl"], .mapping [("class", .str "CommandLineTool"), ("id", .str "#t"),
      ("baseCommand", .str "cat"), ("inputs", .list []), ("outputs", .list [])])]
  directory := []

def plainTool (name command : String) : Tool :=
  ⟨name, .str command, [], [], [], [], none, none⟩

def bundledDocuments : List Document :=
  [⟨some [plainTool "first" "ls"], none⟩,
   ⟨none, some ⟨"main", [], [],
     [⟨"t", [], [], some [plainTool "t" "cat"], some "import t.cwl"⟩], []⟩⟩,
   ⟨some [plainTool "second" "wc"], none⟩]

theorem Document.packed_keeps_parts_bundledSample :
    (∀ part ∈ bundledParts, IsPart part) ∧
      List.Forall₂ (fun part d =>
        (Document.read (bundledSample.rewritten "all.cwl" part) 2 "all.cwl").outcome = .ok d)
        bundledParts bundledDocuments ∧
      (Document.read bundledSample 2 "all.cwl").outcome =
        .ok ⟨some [plainTool "first" "ls", plainTool "second" "wc"],
          bundledDocuments.findSome? (·.workflow)⟩ := by
  have hclass : ∀ part ∈ bundledParts, IsPart part := by
    simp only [bundledParts, List.forall_mem_cons]
    exact ⟨.inl rfl, .inr rfl, .inl rfl, List.forall_mem_nil _⟩
  have hparts : List.Forall₂ (fun part d =>
      (Document.read (bundledSample.rewritten "all.cwl" part) 2 "all.cwl").outcome = .ok d)
      bundledParts bundledDocuments := .cons rfl (.cons rfl (.cons rfl .nil))
  exact ⟨hclass, hparts, Document.packed_keeps_parts rfl hclass hparts⟩

def loneSample : Workspace where
  files := [(["p.cwl"], .list [.mapping [("class", .str "CommandLineTool"), ("id", .str "a"),
    ("baseCommand", .str "ls"), ("inputs", .list []), ("outputs", .list [])]])]
  directory := []

/-- The tool can be read by itself, but not from a list without a workflow. -/
theorem Document.packed_fails_loneSample :
    ∃ part, loneSample.read "p.cwl" = .ok (.list [part]) ∧ IsPart part ∧
      ∀ n, (Document.read (loneSample.rewritten "p.cwl" part) (n + 1) "p.cwl").outcome =
          .ok ⟨some [plainTool "a" "ls"], none⟩ ∧
        (Document.read loneSample (n + 1) "p.cwl").outcome = .error .outOfRange :=
  ⟨_, rfl, .inl rfl, fun _ => ⟨rfl, rfl⟩⟩

end Cwl

end FlowConverter
