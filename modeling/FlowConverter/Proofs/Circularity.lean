import Mathlib.Data.Fintype.Card
import Mathlib.Data.Set.Finite.List
import Mathlib.Logic.Relation
import FlowConverter.Proofs.Places

/-! Circles of imports. While a file is being read, so are the files on the way to it, and a file
may be read in two roles. If the reading never enters a file that is being read in the same role,
it comes to an end that no larger bound changes: the files on a way are all different, and there
are finitely many. If it does enter one, the way repeats itself for ever, and every bound stops
it. -/
namespace FlowConverter.Cwl

open Relation

/-- A file, in the role that it is read in. -/
structure Site where
  role : Role
  place : List String

variable {ws : Workspace} {s t : Site} {n : Nat}

/-- Reading the file comes to ask `q`: nothing has failed before, and every request before it has
been answered. -/
def Site.Asks (ws : Workspace) (s : Site) (q : Request) : Prop :=
  ∃ value, ws.files.lookup s.place = some value ∧
    (s.role.script s.place value).Asks (Script.Replies (answer ws)) q

/-- Reading one file comes to read another. -/
def Site.Enters (ws : Workspace) (s t : Site) : Prop :=
  ∃ q, s.Asks ws q ∧ q.role = t.role ∧ q.lookUp ws = .ok (.file t.place)

/-- On the way from the document, reading comes to a file that is still being read in that role. -/
def Document.Circular (ws : Workspace) (path : String) : Prop :=
  ∃ place s, ws.placeOf? path = some place ∧
    ReflTransGen (Site.Enters ws) ⟨.document, place⟩ s ∧ TransGen (Site.Enters ws) s s

/-! ### Ways that end -/

/-- Whatever leads to the file has an answer that settles. -/
def Site.Settles (ws : Workspace) (s : Site) : Prop :=
  ∀ q, q.role = s.role → q.lookUp ws = .ok (.file s.place) →
    Logged.Settles fun n => answer ws n q

theorem Site.settles_answer (h : ∀ t, s.Enters ws t → t.Settles ws) {q : Request}
    (hq : s.Asks ws q) : Logged.Settles fun n => answer ws n q := by
  by_cases hfile : ∃ place, q.lookUp ws = .ok (.file place)
  · obtain ⟨place, hplace⟩ := hfile
    exact h ⟨q.role, place⟩ ⟨q, hq, rfl, hplace⟩ q rfl hplace
  · exact Cwl.settles_answer fun place hplace => hfile ⟨place, hplace⟩

theorem Site.settles_of_enters (h : ∀ t, s.Enters ws t → t.Settles ws) : s.Settles ws := by
  obtain ⟨role, place⟩ := s
  rintro q rfl hq
  obtain ⟨value, hvalue, -, hanswer⟩ := answer_of_file hq
  refine .of_succ ?_
  simp only [hanswer]
  refine Script.settles_run (Role.script_unbounded _ _ _) fun q' hq' => ?_
  exact Site.settles_answer h ⟨value, hvalue, hq'⟩

def sites (ws : Workspace) : List Site :=
  ws.files.flatMap fun f => [⟨.document, f.1⟩, ⟨.requirements, f.1⟩]

theorem Site.mem_sites (h : s.Enters ws t) : t ∈ sites ws := by
  obtain ⟨q, -, -, hq⟩ := h
  obtain ⟨value, hvalue, -⟩ := answer_of_file hq
  have hsome : (ws.files.lookup t.place).isSome := by rw [hvalue]; rfl
  obtain ⟨f, hf, hplace⟩ := List.lookup_isSome_iff.mp hsome
  refine List.mem_flatMap.mpr ⟨f, hf, ?_⟩
  rw [← beq_iff_eq.mp hplace]
  obtain ⟨_ | _, place⟩ := t
  · exact List.mem_cons_self
  · exact List.mem_cons_of_mem _ List.mem_cons_self

/-- Without a circle, the files on the way from `s` are finitely many and in a well-founded
order. -/
theorem Site.settles_of_no_circle
    (h : ∀ t, TransGen (Enters ws) s t → ¬ TransGen (Enters ws) t t)
    (t : Site) (ht : TransGen (Enters ws) s t) : t.Settles ws := by
  let Reached := { t : Site // TransGen (Enters ws) s t }
  have hfinite : Finite Reached := by
    refine Set.Finite.subset (List.finite_toSet (sites ws)) ?_
    intro t ht
    obtain ⟨u, -, hu⟩ := TransGen.tail'_iff.mp ht
    exact Site.mem_sites hu
  let later : Reached → Reached → Prop := fun u t => TransGen (Enters ws) t.1 u.1
  have htrans : IsTrans Reached later := ⟨fun _ _ _ hab hbc => hbc.trans hab⟩
  have hirrefl : Std.Irrefl later := ⟨fun t => h t.1 t.2⟩
  have hwf : WellFounded later := Finite.wellFounded_of_trans_of_irrefl later
  have hall (t : Reached) : t.1.Settles ws := by
    induction t using hwf.induction with
    | _ t ih =>
      refine Site.settles_of_enters fun u hu => ?_
      exact ih ⟨u, t.2.tail hu⟩ (.single hu)
  exact hall ⟨t, ht⟩

/-! ### Ways that repeat -/

/-- Whatever leads to the file is stopped under the bound. -/
def Site.Exhausted (ws : Workspace) (n : Nat) (s : Site) : Prop :=
  ∀ q, q.role = s.role → q.lookUp ws = .ok (.file s.place) → (answer ws n q).Exhausted

theorem Site.Exhausted.zero (ws : Workspace) (s : Site) : s.Exhausted ws 0 := by
  intro q hrole hq
  obtain ⟨value, -, hzero, -⟩ := answer_of_file hq
  rw [hzero]
  exact rfl

theorem Site.Exhausted.of_succ (h : s.Exhausted ws (n + 1)) : s.Exhausted ws n := by
  intro q hrole hq
  rcases answer_ascending ws q n with he | he
  · exact he
  · simp only at he
    rw [he]
    exact h q hrole hq

theorem Site.Exhausted.of_enters (hst : s.Enters ws t) (h : t.Exhausted ws n) :
    s.Exhausted ws (n + 1) := by
  obtain ⟨role, place⟩ := s
  obtain ⟨q', ⟨value', hvalue', hasks⟩, hrole', hq'⟩ := hst
  rintro q rfl hq
  obtain ⟨value, hvalue, -, hanswer⟩ := answer_of_file hq
  cases hvalue.symm.trans hvalue'
  rw [hanswer]
  exact Script.exhausted_run (answer_ascending ws) hasks (h q' hrole' hq')

theorem Site.Exhausted.of_transGen (hst : TransGen (Enters ws) s t) (h : t.Exhausted ws n) :
    s.Exhausted ws (n + 1) := by
  induction hst using TransGen.head_induction_on with
  | single hs => exact of_enters hs h
  | head hs _ ih => exact of_enters hs ih.of_succ

theorem Site.exhausted_of_circle (h : TransGen (Enters ws) s s) (n : Nat) :
    s.Exhausted ws n := by
  induction n with
  | zero => exact .zero ws s
  | succ n ih => exact .of_transGen h ih

/-- What leads to a circle is stopped as well. -/
theorem Site.exhausted_of_leads (hst : ReflTransGen (Enters ws) s t)
    (h : TransGen (Enters ws) t t) (n : Nat) : s.Exhausted ws n := by
  rcases reflTransGen_iff_eq_or_transGen.mp hst with rfl | hst
  · exact exhausted_of_circle h n
  · exact (Exhausted.of_transGen hst (exhausted_of_circle h n)).of_succ

/-! ### Documents -/

theorem Document.asks_scriptAt {place : List String} {value : Value} {q : Request}
    (hvalue : ws.files.lookup place = some value) :
    (Document.scriptAt place value).Asks (Script.Replies (answer ws)) q ↔
      Site.Asks ws ⟨.document, place⟩ q := by
  constructor
  · intro h
    exact ⟨value, hvalue, Script.asks_map_iff.mpr h⟩
  · rintro ⟨value', hvalue', h⟩
    cases hvalue.symm.trans hvalue'
    exact Script.asks_map_iff.mp h

/-- A document that is not in a circle reads the same under every large bound, and is not stopped by
it. One whose reading comes to a file that is still being read in that role is stopped by every
bound. -/
theorem Document.settles_unless_circular (ws : Workspace) (path : String) :
    (¬ Document.Circular ws path → ∃ least r, r.outcome ≠ .error .nestingTooDeep ∧
      ∀ n, least ≤ n → Document.read ws n path = r) ∧
    (Document.Circular ws path → ∀ n,
      (Document.read ws n path).outcome = .error .nestingTooDeep) := by
  constructor
  · intro hcircle
    have hsettles : Logged.Settles fun n => Document.read ws n path := by
      refine .of_succ ?_
      cases hplace : ws.placeOf? path with
      | none =>
        obtain ⟨e, hread, -⟩ := Workspace.read_of_placeOf?_eq_none hplace
        simp only [Document.read_succ, hread, Logged.lift_error_bind]
        refine .const ?_
        rintro ⟨⟩
        exact ws.read_ne_nesting path hread
      | some place =>
        obtain ⟨value, hvalue, -⟩ := Workspace.placeOf?_eq_some hplace
        simp only [Document.read_of_placeOf? hplace hvalue]
        refine Script.settles_run (Document.script_unbounded _ _ _) fun q hq => ?_
        refine Site.settles_answer ?_ ((Document.asks_scriptAt hvalue).mp hq)
        intro t ht
        refine Site.settles_of_no_circle ?_ t (.single ht)
        intro u hu hcircle'
        exact hcircle ⟨place, u, hplace, hu.to_reflTransGen, hcircle'⟩
    obtain ⟨r, hr, least, hle⟩ := hsettles
    exact ⟨least, r, hr, hle⟩
  · rintro ⟨place, s, hplace, hs, hcircle⟩ n
    obtain ⟨value, hvalue, -⟩ := Workspace.placeOf?_eq_some hplace
    cases n with
    | zero => rfl
    | succ n =>
      obtain ⟨t, ⟨q, hasks, hrole, hq⟩, ht⟩ := TransGen.head'_iff.mp (hcircle.trans_right hs)
      rw [Document.read_of_placeOf? hplace hvalue]
      exact Script.exhausted_run (answer_ascending ws) ((Document.asks_scriptAt hvalue).mpr hasks)
        (Site.exhausted_of_leads ht hcircle n q hrole hq)

/-! ### Files that ask once -/

section

variable {value : Value} {q : Request} {log : List Warning}
  {last : q.role.Reply → Report s.role.Reply}

theorem Site.Asks.eq_of_single {q' : Request} (h : s.Asks ws q')
    (hvalue : ws.files.lookup s.place = some value)
    (hscript : s.role.script s.place value = .ask log q fun a => .done (last a)) : q' = q := by
  obtain ⟨value', hvalue', hasks⟩ := h
  cases hvalue.symm.trans hvalue'
  rw [hscript] at hasks
  cases hasks with
  | now => rfl
  | later _ hlater => cases hlater

/-- A file whose reading asks a single question leads to no other file than the question does. -/
theorem Site.Enters.eq_of_single {place : List String} (h : s.Enters ws t)
    (hvalue : ws.files.lookup s.place = some value)
    (hscript : s.role.script s.place value = .ask log q fun a => .done (last a))
    (hplace : q.lookUp ws = .ok (.file place)) : t = ⟨q.role, place⟩ := by
  obtain ⟨role, place'⟩ := t
  obtain ⟨q', hasks, rfl, hplace'⟩ := h
  obtain rfl := hasks.eq_of_single hvalue hscript
  cases hplace.symm.trans hplace'
  rfl

end

def loopSample : Workspace where
  files := [
    (["w.cwl"], .mapping [("class", .str "Workflow"), ("inputs", .list []), ("outputs", .list []),
      ("steps", .list [.mapping [("run", .str "w.cwl"), ("inputs", .list []),
        ("outputs", .list [])]])]),
    (["v.cwl"], .mapping [("class", .str "Workflow"), ("inputs", .list []), ("outputs", .list []),
      ("steps", .list [.mapping [("run", .str "t.cwl"), ("inputs", .list []),
        ("outputs", .list [])]])]),
    (["t.cwl"], .mapping [("class", .str "CommandLineTool"), ("baseCommand", .str "ls"),
      ("inputs", .list []), ("outputs", .list []),
      ("requirements", .list [.mapping [("$import", .str "r.cwl")]])]),
    (["r.cwl"], .list [.mapping [("class", .str "DockerRequirement"), ("dockerPull", .str "img")]])]
  directory := []

/-- A workflow that runs itself never settles. One that runs a tool does, though the tool imports its
requirements from another file. -/
theorem Document.settles_loopSample :
    (∀ n, (Document.read loopSample n "w.cwl").outcome = .error .nestingTooDeep) ∧
    Site.Enters loopSample ⟨.document, ["v.cwl"]⟩ ⟨.document, ["t.cwl"]⟩ ∧
    Site.Enters loopSample ⟨.document, ["t.cwl"]⟩ ⟨.requirements, ["r.cwl"]⟩ ∧
    ∃ least r, r.outcome ≠ .error .nestingTooDeep ∧
      ∀ n, least ≤ n → Document.read loopSample n "v.cwl" = r := by
  refine ⟨?_, ?_, ?_, ?_⟩
  · refine (Document.settles_unless_circular loopSample "w.cwl").2 ?_
    refine ⟨["w.cwl"], ⟨.document, ["w.cwl"]⟩, rfl, .refl, .single ?_⟩
    exact ⟨⟨.document, .str "/", "w.cwl"⟩, ⟨_, rfl, .now⟩, rfl, rfl⟩
  · exact ⟨⟨.document, .str "/", "t.cwl"⟩, ⟨_, rfl, .now⟩, rfl, rfl⟩
  · exact ⟨⟨.requirements, .str "/", "r.cwl"⟩, ⟨_, rfl, .now⟩, rfl, rfl⟩
  · have hworkflow {t : Site} (h : Site.Enters loopSample ⟨.document, ["v.cwl"]⟩ t) :
        t = ⟨.document, ["t.cwl"]⟩ :=
      h.eq_of_single (q := ⟨.document, .str "/", "t.cwl"⟩) rfl rfl rfl
    have htool {t : Site} (h : Site.Enters loopSample ⟨.document, ["t.cwl"]⟩ t) :
        t = ⟨.requirements, ["r.cwl"]⟩ :=
      h.eq_of_single (q := ⟨.requirements, .str "/", "r.cwl"⟩) rfl rfl rfl
    have hfile {t : Site} (h : Site.Enters loopSample ⟨.requirements, ["r.cwl"]⟩ t) : False := by
      obtain ⟨q, ⟨value, hvalue, hasks⟩, -⟩ := h
      obtain rfl := Option.some.inj hvalue
      exact nomatch (hasks : Script.Asks _ (.done _) q)
    refine (Document.settles_unless_circular loopSample "v.cwl").1 ?_
    rintro ⟨place, s, hplace, hs, hcircle⟩
    obtain rfl : ["v.cwl"] = place := Option.some.inj hplace
    obtain ⟨t, ht, hs⟩ := TransGen.head'_iff.mp (hcircle.trans_right hs)
    obtain rfl := hworkflow ht
    obtain ⟨t, ht, hs⟩ := TransGen.head'_iff.mp (hcircle.trans_right hs)
    obtain rfl := htool ht
    obtain ⟨t, ht, -⟩ := TransGen.head'_iff.mp (hcircle.trans_right hs)
    exact hfile ht

end FlowConverter.Cwl
