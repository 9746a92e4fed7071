import FlowConverter.Proofs.LocalFaults

/-! Files by their places. A file can be named by many paths, but its reading depends on its place
alone: the directory it lies in and the name it has there follow from the place. So a request
is answered by the reading of a place, if it leads to one. -/
namespace FlowConverter

namespace Workspace

variable {ws : Workspace} {path : String}

/-- The place that a path leads to, if a file is there. -/
def placeOf? (ws : Workspace) (path : String) : Option (List String) :=
  match ws.find path with
  | .ok (.file _) => some (Path.normalize ws.directory path)
  | _ => none

theorem lookup_of_entryAt {place : List String} {document : Value}
    (h : ws.entryAt? place = some (.file document)) : ws.files.lookup place = some document := by
  rw [entryAt?] at h
  split at h
  next found hfound =>
    cases h
    exact hfound
  next => split at h <;> cases h

/-- Following names to a file ends at the place that the names make up, and the last name is that of
the file. -/
theorem follow_eq_file {place names : List String} {document : Value}
    (h : ws.follow place names = .ok (.file document)) :
    ws.files.lookup (names.foldl Path.enter place.reverse).reverse = some document ∧
      names.getLast? = (names.foldl Path.enter place.reverse).reverse.getLast? := by
  induction names generalizing place with
  | nil => cases h
  | cons name rest ih =>
    -- A file is the last thing on the way, so the way goes on as long as there is none.
    have hlast {place : List String} (h : ws.follow place rest = .ok (.file document)) :
        (name :: rest).getLast? = rest.getLast? := by
      cases rest with
      | nil => cases h
      | cons next rest => exact List.getLast?_cons_cons
    rw [follow] at h
    split at h
    next hskip =>
      rw [List.foldl_cons, Path.enter, if_pos hskip, hlast h]
      exact ih h
    next hskip =>
      split at h
      next hup =>
        rw [List.foldl_cons, Path.enter, if_neg hskip, if_pos hup, hlast h, List.tail_reverse]
        exact ih h
      next hup =>
        have henter : Path.enter place.reverse name = (place ++ [name]).reverse := by
          simp [Path.enter, hskip, hup]
        rw [List.foldl_cons, henter]
        split at h
        next => cases h
        next =>
          rw [hlast h]
          exact ih h
        next found hentry =>
          split at h
          next hrest =>
            cases h
            rw [List.isEmpty_iff.mp hrest, List.foldl_nil, List.reverse_reverse]
            exact ⟨lookup_of_entryAt hentry, by simp⟩
          next => cases h

theorem placeOf?_eq_some {place : List String} (h : ws.placeOf? path = some place) :
    ∃ value, ws.files.lookup place = some value ∧ ws.read path = .ok value ∧
      Path.baseName path = place.getLastD "" ∧
      ws.directoryOf path = Path.ofLocation place.dropLast := by
  rw [placeOf?] at h
  split at h
  next document hfind =>
    cases h
    have hfollow : ws.follow (if Path.isAbsolute path then [] else ws.directory)
        (Path.parts path) = .ok (.file document) := by
      rw [find] at hfind
      split at hfind
      next => cases hfind
      next =>
        split at hfind
        next => cases hfind
        next => exact hfind
    obtain ⟨hlookup, hlast⟩ := follow_eq_file hfollow
    have hnormalize : ((Path.parts path).foldl Path.enter
        (if Path.isAbsolute path then [] else ws.directory).reverse).reverse =
        Path.normalize ws.directory path := by
      rw [Path.normalize]
      split <;> rfl
    rw [hnormalize] at hlookup hlast
    refine ⟨document, hlookup, by rw [read, hfind]; rfl, ?_, rfl⟩
    rw [Path.baseName, List.getLastD_eq_getLast?, List.getLastD_eq_getLast?, hlast]
  next => cases h

/-- What is no file cannot be read; if it exists, it is a directory. -/
theorem read_of_placeOf?_eq_none (h : ws.placeOf? path = none) :
    ∃ e, ws.read path = .error e ∧ (ws.contains path = true → e = .isADirectory) := by
  rw [placeOf?] at h
  cases hfind : ws.find path with
  | error e =>
    refine ⟨e, by rw [read, hfind, error_bind], ?_⟩
    intro hcontains
    rw [contains, hfind] at hcontains
    cases hcontains
  | ok entry =>
    cases entry with
    | file document =>
      rw [hfind] at h
      cases h
    | directory => exact ⟨.isADirectory, by rw [read, hfind]; rfl, fun _ => rfl⟩

/-- A file that can be read lies at the place that its path makes up. -/
theorem placeOf?_of_read {value : Value} (h : ws.read path = .ok value) :
    ws.placeOf? path = some (Path.normalize ws.directory path) := by
  cases hplace : ws.placeOf? path with
  | none =>
    obtain ⟨e, he, -⟩ := read_of_placeOf?_eq_none hplace
    cases he.symm.trans h
  | some place =>
    rw [placeOf?] at hplace
    split at hplace
    next => rw [Option.some.inj hplace]
    next => cases hplace

/-- What is read is the document of one of the files. -/
theorem exists_mem_files_of_read {value : Value} (h : ws.read path = .ok value) :
    ∃ f ∈ ws.files, f.2 = value := by
  obtain ⟨found, hlookup, hfound, -⟩ := placeOf?_eq_some (placeOf?_of_read h)
  cases hfound.symm.trans h
  obtain ⟨l, r, hfiles, -⟩ := List.lookup_eq_some_iff.mp hlookup
  exact ⟨(Path.normalize ws.directory path, value), by simp [hfiles], rfl⟩

theorem contains_of_locate {sourceDir : Value} {file : String}
    (h : ws.locate sourceDir path = .ok (some file)) : ws.contains file = true := by
  rw [locate] at h
  split at h
  next hpath =>
    cases h
    exact hpath
  next =>
    obtain ⟨dir, -, h⟩ := bind_eq_ok_iff.mp h
    have hbelow : (if ws.contains (Path.join dir path) then some (Path.join dir path) else none) =
      some file := Except.ok.inj h
    split at hbelow
    next hfound =>
      cases hbelow
      exact hfound
    next => cases hbelow

end Workspace

namespace Cwl

variable {ws : Workspace} {bound : Nat}

/-- What a request leads to. -/
inductive Found where
  | nowhere
  | directory
  | file (place : List String)

def Found.ofPath? (ws : Workspace) : Option String → Found
  | none => nowhere
  | some path => (ws.placeOf? path).elim directory file

/-- Looks a request up: from the current directory, or else from its source directory. -/
def Request.lookUp (ws : Workspace) (q : Request) : Except Fault Found := do
  pure (Found.ofPath? ws (← ws.locate q.sourceDir q.path))

/-- What is said about a request that leads nowhere. -/
def Request.missed : (q : Request) → Report q.role.Reply
  | ⟨.requirements, _, path⟩ => do
    Report.warn (.requirementNotFound path)
    pure []
  | ⟨.document, _, path⟩ => Logged.fail (.runNotFound path)

def Role.readFile (ws : Workspace) (bound : Nat) : (role : Role) → String → Report role.Reply
  | .document, path => toolsOfFile ws bound path
  | .requirements, path => do Requirement.expand ws bound (importedEntries (← ws.read path))

def Document.scriptAt (place : List String) (value : Value) : Script Document :=
  Document.script (.str (Path.ofLocation place.dropLast))
    (Text.deleteWords [".yaml"] (place.getLastD "")) value

def Role.script : (role : Role) → List String → Value → Script role.Reply
  | .document, place, value => do pure (← Document.scriptAt place value).tasks
  | .requirements, _, value => Requirement.script .null (importedEntries value)

theorem Role.script_unbounded (role : Role) (place : List String) (value : Value) :
    (role.script place value).Unbounded := by
  cases role with
  | document => exact (Document.script_unbounded _ _ _).bind fun d => .pure d.tasks
  | requirements => exact Requirement.script_unbounded _ _

/-- Under all paths to it, a document reads the same. -/
theorem Document.read_of_placeOf? {path : String} {place : List String} {value : Value}
    (hplace : ws.placeOf? path = some place) (hvalue : ws.files.lookup place = some value) :
    Document.read ws (bound + 1) path = (Document.scriptAt place value).run (answer ws bound) := by
  obtain ⟨value', hvalue', hread, hname, hdir⟩ := Workspace.placeOf?_eq_some hplace
  cases hvalue.symm.trans hvalue'
  rw [Document.read_succ, hread, Logged.lift_ok, pure_bind, hdir, fileLabel, hname]
  rfl

theorem Role.readFile_of_placeOf? {role : Role} {path : String} {place : List String}
    {value : Value} (hplace : ws.placeOf? path = some place)
    (hvalue : ws.files.lookup place = some value) :
    role.readFile ws (bound + 1) path = (role.script place value).run (answer ws bound) := by
  cases role with
  | document =>
    rw [readFile, toolsOfFile, Document.read_of_placeOf? hplace hvalue, script, Script.run_bind]
    rfl
  | requirements =>
    obtain ⟨value', hvalue', hread, -⟩ := Workspace.placeOf?_eq_some hplace
    cases hvalue.symm.trans hvalue'
    rw [readFile, hread, Logged.lift_ok, pure_bind, Requirement.expand_succ, script]

theorem Role.readFile_zero {role : Role} {path : String} {place : List String}
    (hplace : ws.placeOf? path = some place) :
    role.readFile ws 0 path = Logged.fail .nestingTooDeep := by
  cases role with
  | document => rfl
  | requirements =>
    obtain ⟨value, -, hread, -⟩ := Workspace.placeOf?_eq_some hplace
    rw [readFile, hread]
    rfl

/-- Why a directory is refused. A document is opened only if the bound allows it. -/
def Role.refusal : Role → Nat → Fault
  | .document, 0 => .nestingTooDeep
  | _, _ => .isADirectory

theorem Role.readFile_directory {role : Role} {path : String}
    (h : ws.read path = .error .isADirectory) :
    role.readFile ws bound path = Logged.fail (role.refusal bound) := by
  cases role with
  | document =>
    cases bound with
    | zero => rfl
    | succ bound =>
      rw [readFile, toolsOfFile, Document.read_succ, h]
      rfl
  | requirements =>
    rw [readFile, h]
    rfl

/-! What a request leads to decides the answer. -/

section Answers

variable {q : Request}

theorem answer_eq (q : Request) : answer ws bound q = (do
    match ← ws.locate q.sourceDir q.path with
    | some file => q.role.readFile ws bound file
    | none => q.missed) := by
  rcases q with ⟨_ | _, sourceDir, path⟩ <;> rfl

theorem Request.lookUp_ne_nesting (q : Request) : q.lookUp ws ≠ .error .nestingTooDeep := by
  simp [lookUp, bind_eq_error_iff, pure_eq_ok]

theorem Request.missed_not_exhausted (q : Request) : ¬ q.missed.Exhausted := by
  rcases q with ⟨_ | _, sourceDir, path⟩ <;> exact nofun

theorem answer_of_error {e : Fault} (h : q.lookUp ws = .error e) :
    answer ws bound q = Logged.fail e := by
  rcases bind_eq_error_iff.mp h with hlocate | ⟨located, -, h⟩
  · rw [answer_eq, hlocate]
    rfl
  · cases h

theorem answer_of_nowhere (h : q.lookUp ws = .ok .nowhere) : answer ws bound q = q.missed := by
  obtain ⟨located, hlocate, h⟩ := bind_eq_ok_iff.mp h
  cases located with
  | none => rw [answer_eq, hlocate, Logged.lift_ok, pure_bind]
  | some file =>
    have hfound : (ws.placeOf? file).elim Found.directory Found.file = .nowhere := Except.ok.inj h
    cases hplace : ws.placeOf? file <;> rw [hplace] at hfound <;> cases hfound

theorem answer_of_directory (h : q.lookUp ws = .ok .directory) :
    answer ws bound q = Logged.fail (q.role.refusal bound) := by
  obtain ⟨located, hlocate, h⟩ := bind_eq_ok_iff.mp h
  cases located with
  | none => cases h
  | some file =>
    have hfound : (ws.placeOf? file).elim Found.directory Found.file = .directory := Except.ok.inj h
    cases hplace : ws.placeOf? file with
    | none =>
      obtain ⟨e, hread, he⟩ := Workspace.read_of_placeOf?_eq_none hplace
      cases he (Workspace.contains_of_locate hlocate)
      rw [answer_eq, hlocate, Logged.lift_ok, pure_bind]
      exact Role.readFile_directory hread
    | some place =>
      rw [hplace] at hfound
      cases hfound

/-- A request that leads to a file is answered by the script of that file. -/
theorem answer_of_file {place : List String} (h : q.lookUp ws = .ok (.file place)) :
    ∃ value, ws.files.lookup place = some value ∧
      answer ws 0 q = Logged.fail .nestingTooDeep ∧ ∀ bound,
      answer ws (bound + 1) q = (q.role.script place value).run (answer ws bound) := by
  obtain ⟨located, hlocate, h⟩ := bind_eq_ok_iff.mp h
  cases located with
  | none => cases h
  | some file =>
    have hfound : (ws.placeOf? file).elim Found.directory Found.file = .file place :=
      Except.ok.inj h
    cases hplace : ws.placeOf? file with
    | none =>
      rw [hplace] at hfound
      cases hfound
    | some place' =>
      rw [hplace] at hfound
      cases hfound
      obtain ⟨value, hvalue, -⟩ := Workspace.placeOf?_eq_some hplace
      have hanswer (bound : Nat) : answer ws bound q = q.role.readFile ws bound file := by
        rw [answer_eq, hlocate, Logged.lift_ok, pure_bind]
      refine ⟨value, hvalue, ?_, ?_⟩
      · rw [hanswer]
        exact Role.readFile_zero hplace
      · intro bound
        rw [hanswer]
        exact Role.readFile_of_placeOf? hplace hvalue

/-- A request that is answered leads nowhere, or to a file whose script runs to the end. -/
theorem answer_eq_ok {n : Nat} {a : q.role.Reply}
    (h : (answer ws n q).outcome = .ok a) :
    (q.lookUp ws = .ok .nowhere ∧ q.missed.outcome = .ok a) ∨
      ∃ place value m, n = m + 1 ∧ q.lookUp ws = .ok (.file place) ∧
        ws.files.lookup place = some value ∧
        ((q.role.script place value).run (answer ws m)).outcome = .ok a := by
  cases hlook : q.lookUp ws with
  | error e =>
    rw [answer_of_error hlook] at h
    cases h
  | ok found =>
    cases found with
    | nowhere =>
      rw [answer_of_nowhere hlook] at h
      exact .inl ⟨rfl, h⟩
    | directory =>
      rw [answer_of_directory hlook] at h
      cases h
    | file place =>
      obtain ⟨value, hvalue, hzero, hsucc⟩ := answer_of_file hlook
      cases n with
      | zero =>
        rw [hzero] at h
        cases h
      | succ m =>
        rw [hsucc] at h
        exact .inr ⟨place, value, m, rfl, rfl, hvalue, h⟩

/-- Only the reading of a file can be stopped by the bound. -/
theorem settles_answer (h : ∀ place, q.lookUp ws ≠ .ok (.file place)) :
    Logged.Settles fun n => answer ws n q := by
  refine .of_succ ?_
  cases hq : q.lookUp ws with
  | error e =>
    simp only [answer_of_error hq]
    refine .const ?_
    rintro ⟨⟩
    exact q.lookUp_ne_nesting hq
  | ok found =>
    cases found with
    | nowhere =>
      simp only [answer_of_nowhere hq]
      exact .const q.missed_not_exhausted
    | directory =>
      have hrefusal (n : Nat) : q.role.refusal (n + 1) = .isADirectory := by
        cases q.role <;> rfl
      simp only [answer_of_directory hq, hrefusal]
      exact .const nofun
    | file place => exact absurd hq (h place)

end Answers

end Cwl

end FlowConverter
