import FlowConverter.Proofs.Circularity

/-! The directory that a reading is started in. Requests are looked up from the current directory
first, so a file that happens to lie there can take the place of the one that was meant. This is
the only way in which the directory counts: if every request that is made leads to the same file
from two directories, or nowhere from both, then the readings are the same. -/
namespace FlowConverter

namespace Workspace

variable {ws ws' : Workspace} {path : String}

def startedIn (ws : Workspace) (directory : List String) : Workspace :=
  { ws with directory := directory }

def HasDirectory (ws : Workspace) (directory : List String) : Prop :=
  ∃ f ∈ ws.files, directory <+: f.1

/-- Among directories that hold files, it makes no difference which is the current one. -/
theorem entryAt?_startedIn {c c' : List String} (h : ws.HasDirectory c) (h' : ws.HasDirectory c')
    (place : List String) : (ws.startedIn c).entryAt? place = (ws.startedIn c').entryAt? place := by
  have hany {c : List String} (hc : ws.HasDirectory c) :
      (place.isPrefixOf c || ws.files.any fun f => place.isPrefixOf f.1) =
        ws.files.any fun f => place.isPrefixOf f.1 := by
    obtain ⟨f, hf, hprefix⟩ := hc
    rw [Bool.or_eq_right_iff_imp]
    intro hplace
    refine List.any_eq_true.mpr ⟨f, hf, ?_⟩
    rw [List.isPrefixOf_iff_prefix] at hplace ⊢
    exact hplace.trans hprefix
  simp only [entryAt?, startedIn, hany h, hany h']

theorem follow_congr (h : ∀ place, ws.entryAt? place = ws'.entryAt? place)
    (place names : List String) : ws.follow place names = ws'.follow place names := by
  induction names generalizing place with
  | nil => rfl
  | cons name rest ih => simp only [follow, h, ih]

section Absolute

variable {c c' : List String} (h : ws.HasDirectory c) (h' : ws.HasDirectory c')
  (hpath : Path.isAbsolute path = true)

include h h' hpath

theorem find_absolute : (ws.startedIn c).find path = (ws.startedIn c').find path := by
  simp only [find, hpath, if_true, follow_congr (entryAt?_startedIn h h')]

theorem read_absolute : (ws.startedIn c).read path = (ws.startedIn c').read path := by
  rw [read, read, find_absolute h h' hpath]

theorem placeOf?_absolute : (ws.startedIn c).placeOf? path = (ws.startedIn c').placeOf? path := by
  have hplace : Path.normalize c path = Path.normalize c' path := by
    simp only [Path.normalize, hpath, if_true]
  rw [placeOf?, placeOf?, find_absolute h h' hpath]
  simp only [startedIn, hplace]

end Absolute

end Workspace

namespace Cwl

open Relation

variable {ws ws' : Workspace}

/-- Every request that is made on the way from a file leads to the same in both workspaces. -/
def Site.LooksUpAlike (ws ws' : Workspace) (s : Site) : Prop :=
  ∀ t, ReflTransGen (Site.Enters ws) s t → ∀ q, t.Asks ws q → q.lookUp ws = q.lookUp ws'

theorem Site.LooksUpAlike.enters {s t : Site} (h : s.LooksUpAlike ws ws') (hst : s.Enters ws t) :
    t.LooksUpAlike ws ws' :=
  fun u hu => h u (.head hst hu)

/-- Two answers to one request differ only if the file it leads to reads differently. -/
theorem answer_congr_of_run (hfiles : ws.files = ws'.files) {n : Nat} {q : Request}
    (hq : q.lookUp ws = q.lookUp ws')
    (hrun : ∀ place value m, n = m + 1 → q.lookUp ws = .ok (.file place) →
      ws.files.lookup place = some value →
      (q.role.script place value).run (answer ws m) =
        (q.role.script place value).run (answer ws' m)) :
    answer ws n q = answer ws' n q := by
  cases h : q.lookUp ws with
  | error e => rw [answer_of_error h, answer_of_error (hq.symm.trans h)]
  | ok found =>
    cases found with
    | nowhere => rw [answer_of_nowhere h, answer_of_nowhere (hq.symm.trans h)]
    | directory => rw [answer_of_directory h, answer_of_directory (hq.symm.trans h)]
    | file place =>
      obtain ⟨value, hvalue, hzero, hsucc⟩ := answer_of_file h
      obtain ⟨value', hvalue', hzero', hsucc'⟩ := answer_of_file (hq.symm.trans h)
      rw [← hfiles] at hvalue'
      cases hvalue.symm.trans hvalue'
      cases n with
      | zero => rw [hzero, hzero']
      | succ m => rw [hsucc, hsucc', hrun place value m rfl h hvalue]

theorem answer_congr (hfiles : ws.files = ws'.files) (n : Nat) {q : Request}
    (hq : q.lookUp ws = q.lookUp ws')
    (halike : ∀ place, q.lookUp ws = .ok (.file place) →
      Site.LooksUpAlike ws ws' ⟨q.role, place⟩) :
    answer ws n q = answer ws' n q := by
  induction n generalizing q with
  | zero => exact answer_congr_of_run hfiles hq nofun
  | succ n ih =>
    refine answer_congr_of_run hfiles hq ?_
    rintro place value m ⟨⟩ hplace hvalue
    refine Script.run_congr fun q' hq' => ?_
    have hasks : Site.Asks ws ⟨q.role, place⟩ q' := ⟨value, hvalue, hq'⟩
    refine ih (halike place hplace _ .refl q' hasks) fun place' hplace' => ?_
    exact (halike place hplace).enters ⟨q', hasks, rfl, hplace'⟩

/-- A document at an absolute path reads the same from two directories, if every request made on
the way leads to the same from both. -/
theorem Document.read_startedIn_eq {ws : Workspace} {c c' : List String} {path : String}
    (hc : ws.HasDirectory c) (hc' : ws.HasDirectory c') (hpath : Path.isAbsolute path = true)
    (halike : ∀ place, (ws.startedIn c).placeOf? path = some place →
      Site.LooksUpAlike (ws.startedIn c) (ws.startedIn c') ⟨.document, place⟩) (bound : Nat) :
    Document.read (ws.startedIn c) bound path = Document.read (ws.startedIn c') bound path := by
  have hplaces := Workspace.placeOf?_absolute hc hc' hpath
  have hfiles : (ws.startedIn c).files = (ws.startedIn c').files := rfl
  cases bound with
  | zero => rfl
  | succ n =>
    cases hplace : (ws.startedIn c).placeOf? path with
    | none =>
      obtain ⟨e, hread, -⟩ := Workspace.read_of_placeOf?_eq_none hplace
      rw [Document.read_succ, Document.read_succ, ← Workspace.read_absolute hc hc' hpath, hread,
        Logged.lift_error_bind, Logged.lift_error_bind]
    | some place =>
      obtain ⟨value, hvalue, -⟩ := Workspace.placeOf?_eq_some hplace
      rw [Document.read_of_placeOf? hplace hvalue,
        Document.read_of_placeOf? (hplaces.symm.trans hplace) hvalue]
      refine Script.run_congr fun q hq => ?_
      have hasks := (Document.asks_scriptAt hvalue).mp hq
      refine answer_congr hfiles n (halike place hplace _ .refl q hasks) fun place' hplace' => ?_
      exact (halike place hplace).enters ⟨q, hasks, rfl, hplace'⟩

def straySample : Workspace where
  files := [
    (["w", "f.cwl"], .mapping [("class", .str "Workflow"), ("inputs", .list []),
      ("outputs", .list []), ("steps", .list [.mapping [("run", .str "t.cwl"),
        ("inputs", .list []), ("outputs", .list [])]])]),
    (["w", "t.cwl"], .mapping [("class", .str "CommandLineTool"), ("id", .str "near"),
      ("baseCommand", .str "ls"), ("inputs", .list []), ("outputs", .list [])]),
    (["c", "t.cwl"], .mapping [("class", .str "CommandLineTool"), ("id", .str "far"),
      ("baseCommand", .str "ls"), ("inputs", .list []), ("outputs", .list [])]),
    (["e", "x.cwl"], .null)]
  directory := []

def strayDocument (name : String) : Document where
  tasks := none
  workflow := some ⟨"f.cwl", [], [], [⟨"t", [], [],
    some [⟨name, .str "ls", [], [], [], [], none, none⟩], some "import t.cwl"⟩], []⟩

/-- The tool that comes with the workflow depends on where the reading is started. -/
theorem Document.read_differs_straySample :
    straySample.HasDirectory ["w"] ∧ straySample.HasDirectory ["c"] ∧
    ∀ n, Document.read (straySample.startedIn ["w"]) (n + 2) "/w/f.cwl" ≠
      Document.read (straySample.startedIn ["c"]) (n + 2) "/w/f.cwl" := by
  refine ⟨⟨_, .head _, _, rfl⟩, ⟨_, .tail _ (.tail _ (.head _)), _, rfl⟩, ?_⟩
  intro n h
  have hnear : Document.read (straySample.startedIn ["w"]) (n + 2) "/w/f.cwl" =
    ⟨[], .ok (strayDocument "near")⟩ := rfl
  have hfar : Document.read (straySample.startedIn ["c"]) (n + 2) "/w/f.cwl" =
    ⟨[], .ok (strayDocument "far")⟩ := rfl
  rw [hnear, hfar] at h
  simp [strayDocument] at h

/-- From a directory without such a tool, the workflow reads as it does from its own. -/
theorem Document.read_agrees_straySample :
    Document.read (straySample.startedIn ["w"]) nestingBound "/w/f.cwl" =
      Document.read (straySample.startedIn ["e"]) nestingBound "/w/f.cwl" := by
  refine Document.read_startedIn_eq ⟨_, .head _, _, rfl⟩
    ⟨_, .tail _ (.tail _ (.tail _ (.head _))), _, rfl⟩ rfl ?_ nestingBound
  intro place hplace
  obtain rfl : ["w", "f.cwl"] = place := Option.some.inj hplace
  have hworkflow (q : Request)
      (hq : Site.Asks (straySample.startedIn ["w"]) ⟨.document, ["w", "f.cwl"]⟩ q) :
      q = ⟨.document, .str "/w", "t.cwl"⟩ :=
    hq.eq_of_single (q := ⟨.document, .str "/w", "t.cwl"⟩) rfl rfl
  have htool (q : Request) :
      ¬ Site.Asks (straySample.startedIn ["w"]) ⟨.document, ["w", "t.cwl"]⟩ q := by
    rintro ⟨value, hvalue, hasks⟩
    obtain rfl := Option.some.inj hvalue
    exact nomatch (hasks : Script.Asks _ (.done _) q)
  have hsites (t : Site) (ht : ReflTransGen (Site.Enters (straySample.startedIn ["w"]))
      ⟨.document, ["w", "f.cwl"]⟩ t) :
      t = ⟨.document, ["w", "f.cwl"]⟩ ∨ t = ⟨.document, ["w", "t.cwl"]⟩ := by
    induction ht with
    | refl => exact .inl rfl
    | @tail u t _ hut ih =>
      obtain ⟨q, hq, hrole, hfile⟩ := hut
      rcases ih with rfl | rfl
      · obtain rfl := hworkflow q hq
        obtain ⟨role, place⟩ := t
        cases hrole
        cases hfile
        exact .inr rfl
      · exact absurd hq (htool q)
  intro t ht q hq
  rcases hsites t ht with rfl | rfl
  · obtain rfl := hworkflow q hq
    rfl
  · exact absurd hq (htool q)

end Cwl

end FlowConverter
