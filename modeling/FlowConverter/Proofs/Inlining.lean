import FlowConverter.Proofs.ReaderScripts

/-! Imported requirements. An entry that imports a file stands for the entries of the file, with one
difference: these are read without a source directory, so what they import in turn has to be
found from the current directory. Where it is, or where there is no source directory to lose, an
entry of that kind can be replaced by what the file holds. -/
namespace FlowConverter

namespace Cwl

/-- The entry has no class and names a file to import. -/
def Imports (entry : Value) (path : String) : Prop :=
  entry.has "class" = .ok false ∧ importedPath entry = .ok path

theorem imports_mapping {key : String} (hkey : key = "import" ∨ key = "$import") (path : String) :
    Imports (.mapping [(key, .str path)]) path := by
  rcases hkey with rfl | rfl <;> exact ⟨rfl, rfl⟩

/-- A path can be read only from an entry that has one of the two keys. -/
theorem has_of_importedPath {entry : Value} {path : String} (h : importedPath entry = .ok path) :
    ∃ plain dollar, entry.has "import" = .ok plain ∧ entry.has "$import" = .ok dollar ∧
      (plain || dollar) = true := by
  cases entry with
  | mapping fields =>
    refine ⟨_, _, Value.has_mapping _ _, Value.has_mapping _ _, ?_⟩
    rw [importedPath] at h
    cases hi : fields.lookup "import" with
    | some v => rfl
    | none =>
      cases hd : fields.lookup "$import" with
      | some v => rfl
      | none => simp [Value.get, hi, hd, throw_eq_error] at h
  | _ => cases h

namespace Requirement

variable {ws : Workspace} {sourceDir entry : Value} {path : String}
  {inner : List Value → Report (List Requirement)}

/-- What is done with an entry that imports: the file is located, and its entries are read. -/
theorem readEntry_of_imports (h : Imports entry path) :
    readEntry ws inner sourceDir entry = (do
      match ← ws.locate sourceDir path with
      | some file => inner (importedEntries (← ws.read file))
      | none =>
        Report.warn (.requirementNotFound path)
        pure []) := by
  obtain ⟨hclass, hpath⟩ := h
  obtain ⟨plain, dollar, hplain, hdollar, hor⟩ := has_of_importedPath hpath
  rw [readEntry, hclass, hplain, hdollar, hpath]
  cases hfound : ws.locate sourceDir path with
  | error e =>
    simp only [Logged.lift_ok, pure_bind, Bool.false_eq_true, if_false, hor, if_true, hfound,
      Logged.lift_error_bind]
  | ok found =>
    cases found <;>
      simp only [Logged.lift_ok, pure_bind, Bool.false_eq_true, if_false, hor, if_true, hfound]

/-- An entry that imports nothing reads the same from everywhere, however files are read. -/
theorem readEntry_of_not_imports {inner' : List Value → Report (List Requirement)}
    {sourceDir' : Value} (h : ¬ ∃ path, Imports entry path) :
    readEntry ws inner sourceDir entry = readEntry ws inner' sourceDir' entry := by
  rw [readEntry, readEntry]
  cases hclass : entry.has "class" with
  | error e => rfl
  | ok classed =>
    cases classed with
    | true => rfl
    | false =>
      cases hpath : importedPath entry with
      | ok path => exact absurd ⟨path, hclass, hpath⟩ h
      | error e => simp

/-- Without an import that is missing from the current directory, an entry reads the same from
everywhere. -/
theorem readEntry_sourceDir {sourceDir' : Value}
    (h : ∀ path, Imports entry path → ws.contains path = true) :
    readEntry ws inner sourceDir entry = readEntry ws inner sourceDir' entry := by
  by_cases himports : ∃ path, Imports entry path
  · obtain ⟨path, hpath⟩ := himports
    rw [readEntry_of_imports hpath, readEntry_of_imports hpath, Workspace.locate,
      Workspace.locate, if_pos (h path hpath), if_pos (h path hpath)]
  · exact readEntry_of_not_imports himports

theorem readAll_append (bound : Nat) (sourceDir : Value) (xs ys : List Value) :
    readAll ws bound sourceDir (.list (xs ++ ys)) = (do
      let first ← readAll ws bound sourceDir (.list xs)
      let second ← readAll ws bound sourceDir (.list ys)
      pure (first ++ second)) := by
  simp only [readAll_list, run_script, Logged.gather_append]

theorem readAll_singleton (bound : Nat) (sourceDir entry : Value) :
    readAll ws bound sourceDir (.list [entry]) =
      readEntry ws (expand ws bound) sourceDir entry := by
  simp [readAll_list, run_script, Logged.gather]

theorem readAll_ascending (ws : Workspace) (sourceDir : Value) (entries : List Value) :
    Logged.Ascending fun n => readAll ws n sourceDir (.list entries) := by
  simp only [readAll_list]
  exact Script.run_ascending ws _

/-- Imported entries are read as entries without a source directory are, one level deeper. -/
theorem expand_succ_eq_readAll (bound : Nat) (entries : List Value) :
    expand ws (bound + 1) entries = readAll ws bound .null (.list entries) := by
  rw [expand_succ, readAll_list]

theorem expand_ascending (ws : Workspace) (entries : List Value) :
    Logged.Ascending fun n => expand ws n entries := by
  intro n
  cases n with
  | zero => exact .inl rfl
  | succ n =>
    simp only [expand_succ_eq_readAll]
    exact readAll_ascending ws .null entries n

/-- Some entries, then the entries of a file, then some more. Those of the file have no source
directory. -/
def readAround (ws : Workspace) (bound : Nat) (sourceDir : Value)
    (before imported after : List Value) : Report (List Requirement) := do
  let first ← readAll ws bound sourceDir (.list before)
  let second ← readAll ws bound .null (.list imported)
  let third ← readAll ws bound sourceDir (.list after)
  pure (first ++ second ++ third)

theorem readAll_import {file : String} {value : Value} {before after : List Value}
    (himports : Imports entry path) (hfile : ws.locate sourceDir path = .ok (some file))
    (hread : ws.read file = .ok value) (bound : Nat) :
    readAll ws bound sourceDir (.list (before ++ [entry] ++ after)) = (do
      let first ← readAll ws bound sourceDir (.list before)
      let second ← expand ws bound (importedEntries value)
      let third ← readAll ws bound sourceDir (.list after)
      pure (first ++ second ++ third)) := by
  rw [readAll_append, readAll_append, readAll_singleton, readEntry_of_imports himports, hfile]
  simp only [Logged.lift_ok, pure_bind, hread, bind_assoc]

theorem sameOutcome_readAround {file : String} {value : Value} (before after : List Value)
    (himports : Imports entry path) (hfile : ws.locate sourceDir path = .ok (some file))
    (hread : ws.read file = .ok value) :
    Logged.SameOutcome (fun n => readAll ws n sourceDir (.list (before ++ [entry] ++ after)))
      (fun n => readAround ws n sourceDir before (importedEntries value) after) := by
  refine (readAll_ascending ws sourceDir _).sameOutcome (fun n => ?_) (fun n => ?_)
  · rw [readAll_import himports hfile hread, readAround, ← expand_succ_eq_readAll]
    exact .bind (.refl _) fun first => .bind (expand_ascending ws _ n) fun second => .refl _
  · rw [readAll_import himports hfile hread, readAround, ← expand_succ_eq_readAll]
    refine .bind (readAll_ascending ws _ _ n) fun first => .bind (.refl _) fun second => ?_
    exact .bind (readAll_ascending ws _ _ n) fun third => .refl _

/-- If the entries of the file do not depend on the source directory, they can stand in place of
the import. -/
theorem readAround_eq_readAll {before imported after : List Value}
    (h : sourceDir = .null ∨
      ∀ e ∈ imported, ∀ path, Imports e path → ws.contains path = true) (bound : Nat) :
    readAround ws bound sourceDir before imported after =
      readAll ws bound sourceDir (.list (before ++ imported ++ after)) := by
  have himported : readAll ws bound .null (.list imported) =
      readAll ws bound sourceDir (.list imported) := by
    rcases h with rfl | h
    · rfl
    · simp only [readAll_list, run_script]
      exact Logged.gather_congr fun e he => readEntry_sourceDir (h e he)
  rw [readAround, himported, readAll_append, readAll_append]
  simp only [bind_assoc, pure_bind]

/-- Without a source directory, an import of a missing file is a value of the wrong kind. -/
theorem readEntry_missing (himports : Imports entry path) (hmissing : ws.contains path = false) :
    readEntry ws inner .null entry = ⟨[], .error .wrongKind⟩ := by
  rw [readEntry_of_imports himports, Workspace.locate, if_neg (by simp [hmissing])]
  rfl

/-- The reading stops at the first import of the file that the current directory does not have. -/
theorem settlesTo_readAround_missing {before imported after known rest : List Value} {e : Value}
    {first second : List Requirement} {log log' : List Warning}
    (hsplit : imported = known ++ e :: rest) (himports : Imports e path)
    (hmissing : ws.contains path = false)
    (hbefore : Logged.SettlesTo (fun n => readAll ws n sourceDir (.list before)) ⟨log, .ok first⟩)
    (hknown : Logged.SettlesTo (fun n => readAll ws n .null (.list known)) ⟨log', .ok second⟩) :
    Logged.SettlesTo (fun n => readAround ws n sourceDir before imported after)
      ⟨log ++ log', .error .wrongKind⟩ := by
  obtain ⟨-, least, hle⟩ := hbefore
  obtain ⟨-, least', hle'⟩ := hknown
  refine ⟨nofun, max least least', ?_⟩
  intro n hn
  have hfirst : readAll ws n sourceDir (.list before) = ⟨log, .ok first⟩ := hle n (by omega)
  have hsecond : readAll ws n .null (.list known) = ⟨log', .ok second⟩ := hle' n (by omega)
  have himported : readAll ws n .null (.list imported) = ⟨log', .error .wrongKind⟩ := by
    rw [hsplit, ← List.singleton_append, readAll_append, readAll_append, readAll_singleton,
      hsecond, readEntry_missing himports hmissing]
    simp [Logged.bind_def, Logged.bind]
  simp only [readAround, hfirst, himported]
  simp [Logged.bind_def, Logged.bind]

/-- An import reads as the entries of its file do in its place, except that these have no source
directory. If there is none anyway, as inside a file that is itself imported, or if all that they
ask for is found from the current directory, the entries can simply be written out. If not, the
reading stops at the first of them that imports a file the current directory does not have. -/
theorem import_reads_as_inlined {ws : Workspace} {sourceDir entry : Value} {path file : String}
    {value : Value} (before after : List Value) (himports : Imports entry path)
    (hfile : ws.locate sourceDir path = .ok (some file)) (hread : ws.read file = .ok value) :
    Logged.SameOutcome (fun n => readAll ws n sourceDir (.list (before ++ [entry] ++ after)))
      (fun n => readAround ws n sourceDir before (importedEntries value) after) ∧
    ((sourceDir = .null ∨
        ∀ e ∈ importedEntries value, ∀ p, Imports e p → ws.contains p = true) →
      Logged.SameOutcome (fun n => readAll ws n sourceDir (.list (before ++ [entry] ++ after)))
        (fun n => readAll ws n sourceDir (.list (before ++ importedEntries value ++ after)))) ∧
    ∀ known e rest p first second log log', importedEntries value = known ++ e :: rest →
      Imports e p → ws.contains p = false →
      Logged.SettlesTo (fun n => readAll ws n sourceDir (.list before)) ⟨log, .ok first⟩ →
      Logged.SettlesTo (fun n => readAll ws n .null (.list known)) ⟨log', .ok second⟩ →
      Logged.SettlesTo (fun n => readAll ws n sourceDir (.list (before ++ [entry] ++ after)))
        ⟨log ++ log', .error .wrongKind⟩ := by
  have haround := sameOutcome_readAround before after himports hfile hread
  refine ⟨haround, ?_, ?_⟩
  · intro hfound
    simpa only [readAround_eq_readAll hfound] using haround
  · intro known e rest p first second log log' hsplit he hmissing hbefore hknown
    exact haround.settlesTo (settlesTo_readAround_missing hsplit he hmissing hbefore hknown)

def importing (path : String) : Value := .mapping [("$import", .str path)]

def currentSample : Workspace where
  files := [(["a.cwl"], .list [importing "b.cwl"]),
    (["b.cwl"], .mapping [("class", .str "DockerRequirement"), ("dockerPull", .str "alpine")])]
  directory := []

theorem import_inlined_currentSample :
    Logged.SameOutcome (fun n => readAll currentSample n (.str "d") (.list [importing "a.cwl"]))
      (fun n => readAll currentSample n (.str "d") (.list [importing "b.cwl"])) ∧
    Logged.SettlesTo (fun n => readAll currentSample n (.str "d") (.list [importing "b.cwl"]))
      ⟨[], .ok [docker (.str "alpine")]⟩ := by
  refine ⟨?_, nofun, 1, ?_⟩
  · refine (@import_reads_as_inlined currentSample (.str "d") (importing "a.cwl") "a.cwl" "a.cwl" _
      [] [] (imports_mapping (.inr rfl) "a.cwl") rfl rfl).2.1 (.inr ?_)
    intro e he p hp
    cases List.mem_singleton.mp he
    cases hp.2
    rfl
  · intro n hn
    obtain ⟨m, rfl⟩ : ∃ m, n = m + 1 := ⟨n - 1, by omega⟩
    rfl

def nestedSample : Workspace where
  files := [(["d", "a.cwl"], .list [importing "b.cwl"]), (["d", "b.cwl"], .list [])]
  directory := []

/-- Read from another directory, the first file cannot be replaced by what it holds. -/
theorem import_not_inlined_nestedSample :
    nestedSample.locate (.str "d") "a.cwl" = .ok (some "d/a.cwl") ∧
    nestedSample.read "d/a.cwl" = .ok (.list [importing "b.cwl"]) ∧
    ¬ Logged.SameOutcome
      (fun n => readAll nestedSample n (.str "d") (.list ([] ++ [importing "a.cwl"] ++ [])))
      (fun n => readAll nestedSample n (.str "d") (.list ([] ++ [importing "b.cwl"] ++ []))) := by
  refine ⟨rfl, rfl, ?_⟩
  intro h
  have hread : Logged.SettlesTo
      (fun n => readAll nestedSample n (.str "d") (.list [importing "a.cwl"]))
      ⟨[], .error .wrongKind⟩ := by
    refine ⟨nofun, 1, ?_⟩
    intro n hn
    obtain ⟨m, rfl⟩ : ∃ m, n = m + 1 := ⟨n - 1, by omega⟩
    rfl
  have hinlined : Logged.SettlesTo
      (fun n => readAll nestedSample n (.str "d") (.list [importing "b.cwl"])) ⟨[], .ok []⟩ := by
    refine ⟨nofun, 1, ?_⟩
    intro n hn
    obtain ⟨m, rfl⟩ : ∃ m, n = m + 1 := ⟨n - 1, by omega⟩
    rfl
  cases hread.unique (h.settlesTo hinlined)

end Requirement

end Cwl

end FlowConverter
