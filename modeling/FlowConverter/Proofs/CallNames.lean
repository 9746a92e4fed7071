import FlowConverter.Proofs.CallPatterns
import FlowConverter.Proofs.RunFiles

/-! The names of a call's inputs. They are what is left of the ids once the matches of a pattern are
deleted, and the pattern is made of the task's id. Main statement: where the id has only letters,
digits, underscores and hyphens, the pattern is the word itself with a point behind it, and that
word is left out wherever it is met from left to right. -/
namespace FlowConverter

/-! ### Words as patterns -/

namespace Text.Pattern

def isSpecial (c : Char) : Bool := isSign c || ['|', '.', '^', '$'].contains c

/-- The pattern that is a word. -/
def ofWord (w : List Char) : Pattern := sequence (w.map .literal)

theorem atom?_of_not_isSpecial {c : Char} (h : isSpecial c = false) (fuel : Nat)
    (rest : List Char) : atom? (fuel + 1) c rest = some (.literal c, rest) := by
  unfold atom?
  split
  · cases h
  · cases h
  · cases h
  · cases h
  · cases h
  · cases h
  · rfl

/-- Without special characters, each character is an item of its own up to the point at the end. -/
theorem items?_of_word {cs : List Char} (hcs : ∀ c ∈ cs, isSpecial c = false) {fuel : Nat}
    (hfuel : cs.length + 4 ≤ fuel) (acc : List Pattern) :
    items? fuel acc (cs ++ ['\\', '.']) =
      some (sequence (acc.reverse ++ (cs ++ ['.']).map .literal), []) := by
  induction cs generalizing fuel acc with
  | nil =>
    rw [List.length_nil] at hfuel
    obtain ⟨fuel, rfl⟩ : ∃ k, fuel = k + 4 := ⟨fuel - 4, by omega⟩
    have hend : items? (fuel + 4) acc ['\\', '.'] =
        some (sequence (.literal '.' :: acc).reverse, []) := rfl
    rw [List.nil_append, hend, List.reverse_cons]
    rfl
  | cons c cs ih =>
    rw [List.forall_mem_cons] at hcs
    rw [List.length_cons] at hfuel
    obtain ⟨fuel, rfl⟩ : ∃ k, fuel = k + 2 := ⟨fuel - 2, by omega⟩
    have hsign : isSign c = false := (Bool.or_eq_false_iff.mp hcs.1).1
    have hbar : c ≠ '|' := by
      rintro rfl
      cases hcs.1
    rw [List.cons_append, items?_of_atom? hsign hbar (atom?_of_not_isSpecial hcs.1 fuel _),
      ih hcs.2 (by omega), List.reverse_cons, List.append_assoc]
    rfl

/-- A text without special characters, and a point after it, is read as that word. -/
theorem read?_of_word {s : String} (hs : ∀ c ∈ s.toList, isSpecial c = false) :
    read? (s ++ "\\.") = some (ofWord (s.toList ++ ['.'])) := by
  have htext : (s ++ "\\.").toList = s.toList ++ ['\\', '.'] := String.toList_append
  have hitems : items? (4 * (s.toList ++ ['\\', '.']).length + 3) [] (s.toList ++ ['\\', '.']) =
      some (ofWord (s.toList ++ ['.']), []) := by
    refine items?_of_word hs ?_ []
    simp only [List.length_append, List.length_cons, List.length_nil]
    omega
  simp only [read?, htext, alternatives?, hitems]

/-- A word matches where it stands, and ends behind itself. -/
theorem ends_ofWord (w : List Char) (before : Option Char) (s : List Char) :
    ∃ last, (ofWord w).ends ⟨before, s⟩ =
      if w.isPrefixOf s then [⟨last, s.drop w.length⟩] else [] := by
  induction w generalizing before s with
  | nil => exact ⟨before, rfl⟩
  | cons c w ih =>
    have hends : (ofWord (c :: w)).ends ⟨before, s⟩ = Cursor.distinct
        ((Cursor.step (· == c) ⟨before, s⟩).flatMap (ofWord w).ends) := rfl
    rw [hends]
    cases s with
    | nil => exact ⟨none, rfl⟩
    | cons x rest =>
      by_cases hx : x = c
      · subst hx
        obtain ⟨last, hlast⟩ := ih (some x) rest
        refine ⟨last, ?_⟩
        simp only [Cursor.step, beq_self_eq_true, if_true, List.flatMap_singleton, hlast,
          List.isPrefixOf_cons_cons, Bool.true_and, List.length_cons, List.drop_succ_cons]
        cases w.isPrefixOf rest with
        | true => rfl
        | false => rfl
      · have hc : (x == c) = false := beq_eq_false_iff_ne.mpr hx
        have hc' : (c == x) = false := beq_eq_false_iff_ne.mpr (Ne.symm hx)
        refine ⟨none, ?_⟩
        simp only [Cursor.step, hc, Bool.false_eq_true, if_false, List.flatMap_nil,
          List.isPrefixOf_cons_cons, hc', Bool.false_and]
        rfl

theorem matchLength?_ofWord {w : List Char} (hw : w ≠ []) (before : Option Char) (s : List Char) :
    (ofWord w).matchLength? ⟨before, s⟩ = if w.isPrefixOf s then some w.length else none := by
  obtain ⟨last, hlast⟩ := ends_ofWord w before s
  rw [matchLength?, hlast]
  cases hstarts : w.isPrefixOf s with
  | false => rfl
  | true =>
    have hlength := (List.isPrefixOf_iff_prefix.mp hstarts).length_le
    have hpos := List.length_pos_iff.mpr hw
    have hshorter : (s.drop w.length).length < s.length := by
      rw [List.length_drop]
      omega
    have hpassed : Cursor.passed ⟨before, s⟩ ⟨last, s.drop w.length⟩ = true :=
      decide_eq_true hshorter
    simp only [if_true, List.find?_cons_of_pos hpassed, Option.map_some, List.length_drop]
    rw [Nat.sub_sub_self hlength]

/-- Deleting the matches of a word is deleting the word: what stands before a place does not count. -/
theorem delete_ofWord {w : String} (hw : w ≠ "") (s : String) :
    (ofWord w.toList).delete s = deleteWords [w] s := by
  have hne : w.toList ≠ [] := by simpa using hw
  have hlength : (fun before after => (ofWord w.toList).matchLength? ⟨before, after⟩) =
      fun _ => wordLength? [w.toList] := by
    funext before after
    rw [matchLength?_ofWord hne, wordLength?_singleton hne]
  rw [delete, hlength]
  rfl

end Text.Pattern

/-! ### Words left out -/

namespace Text

/-- There is one way to leave a word out. -/
theorem Without.eq_deleteAll {w s kept : List Char} (hw : w ≠ []) (h : Without [w] s kept) :
    kept = deleteAll (wordLength? [w]) s := by
  refine LeftOut.eq_deleteAll h (finds_words (by simpa using hw.symm)) ?_
  intro found hfound rest
  obtain rfl := List.mem_singleton.mp hfound
  rw [wordLength?_singleton hw,
    if_pos (List.isPrefixOf_iff_prefix.mpr (List.prefix_append found rest))]

/-- A text that lacks a character of the word keeps everything. -/
theorem without_of_notMem {w s : List Char} {c : Char} (hc : c ∈ w) (hs : c ∉ s) :
    Without [w] s s := by
  induction s with
  | nil => exact .nil
  | cons x rest ih =>
    refine .keep ?_ (ih (List.not_mem_of_not_mem_cons hs))
    intro found hfound hstarts
    obtain rfl := List.mem_singleton.mp hfound
    exact hs (hstarts.subset hc)

end Text

/-! ### Calls -/

namespace Wdl

open Text

def isIdChar (c : Char) : Bool := c.isAlphanum || c == '_' || c == '-'

theorem not_isSpecial_of_isIdChar {c : Char} (h : isIdChar c = true) :
    Pattern.isSpecial c = false := by
  rw [Bool.eq_false_iff]
  intro hspecial
  simp only [Pattern.isSpecial, Pattern.isSign, Bool.or_eq_true, List.contains_iff_mem,
    List.mem_cons, List.not_mem_nil, or_false] at hspecial
  rcases hspecial with (rfl | rfl | rfl | rfl | rfl | rfl | rfl | rfl) | rfl | rfl | rfl | rfl <;>
    exact absurd h (by decide)

/-- `name` is what is left of `id` without the words `t.`: all that are met from left to right, and so
only the rest if the id starts with one and has no more points. -/
def NamedWithout (t id name : String) : Prop :=
  Without [t.toList ++ ['.']] id.toList name.toList ∧
    ∀ rest : String, '.' ∉ rest.toList → id = t ++ "." ++ rest → name = rest

theorem namedWithout_deleteWords (t id : String) :
    NamedWithout t id (deleteWords [t ++ "."] id) := by
  have hword : (t ++ ".").toList = t.toList ++ ['.'] := String.toList_append
  have hne : t.toList ++ ['.'] ≠ [] := by simp
  have hdelete : (deleteWords [t ++ "."] id).toList =
      deleteAll (wordLength? [t.toList ++ ['.']]) id.toList := by
    rw [deleteWords, String.toList_ofList, List.map_singleton, hword]
  constructor
  · rw [hdelete]
    exact without_deleteAll (by simp) id.toList
  · rintro rest hrest rfl
    have hleft : Without [t.toList ++ ['.']] (t ++ "." ++ rest).toList rest.toList := by
      rw [String.toList_append, hword]
      exact .delete List.mem_cons_self (without_of_notMem (by simp) hrest)
    rw [← String.toList_inj, hdelete, ← hleft.eq_deleteAll hne]

def StepInput.assignment (t : String) (i : StepInput) : String :=
  deleteWords [t ++ "."] i.id.text ++ "=" ++ i.value.text

/-- The pattern of an ordinary task id deletes what the word deletes. -/
theorem StepInput.line_of_isIdChar {t : String} (ht : ∀ c ∈ t.toList, isIdChar c = true)
    {i : StepInput} (hid : ∃ id, i.id = .str id) (pad : String) :
    i.line (.str t) pad = .ok (pad ++ i.assignment t) := by
  obtain ⟨id, hid⟩ := hid
  have hread : Pattern.read? (t ++ "\\.") = some (.ofWord (t.toList ++ ['.'])) :=
    Pattern.read?_of_word fun c hc => not_isSpecial_of_isIdChar (ht c hc)
  have hword : t.toList ++ ['.'] = (t ++ ".").toList := by simp
  have hdelete : (Pattern.ofWord (t.toList ++ ['.'])).delete id = deleteWords [t ++ "."] id := by
    rw [hword, Pattern.delete_ofWord (by simp)]
  have hline : i.line (.str t) pad = .ok (pad ++ (Pattern.ofWord (t.toList ++ ['.'])).delete id ++
      "=" ++ i.value.text) := by
    rw [StepInput.line, callPattern_of_read? hread, hid]
    rfl
  simp only [hline, hdelete, assignment, hid, Value.text, String.append_assoc]

/-- Texts that are moved in below the first can be joined as they are, by a longer separator. -/
theorem intercalate_padded (sep pad first : String) (rest : List String) :
    sep.intercalate (first :: rest.map (pad ++ ·)) = (sep ++ pad).intercalate (first :: rest) := by
  induction rest generalizing first with
  | nil => rfl
  | cons second rest ih =>
    rw [List.map_cons, String.intercalate_cons_cons, String.intercalate_cons_append, ih,
      String.intercalate_cons_cons]
    simp only [String.append_assoc]

theorem exists_inputLines_of_isIdChar {t : String} (ht : ∀ c ∈ t.toList, isIdChar c = true)
    {inputs : List StepInput} (hids : ∀ i ∈ inputs, ∃ id, i.id = .str id) :
    ∃ lines, inputLines (.str t) inputs = .ok lines ∧
      ", \n".intercalate lines = ", \n          ".intercalate (inputs.map (·.assignment t)) := by
  cases inputs with
  | nil => exact ⟨[], rfl, rfl⟩
  | cons first rest =>
    rw [List.forall_mem_cons] at hids
    have hrest : rest.mapM (·.line (.str t) "          ") =
        .ok (rest.map fun i => "          " ++ i.assignment t) :=
      mapM_eq_ok_map fun i hi => StepInput.line_of_isIdChar ht (hids.2 i hi) _
    refine ⟨first.assignment t :: (rest.map (·.assignment t)).map ("          " ++ ·), ?_, ?_⟩
    · rw [inputLines, StepInput.line_of_isIdChar ht hids.1, ok_bind, hrest, ok_bind,
        String.empty_append, List.map_map]
      rfl
    · rw [intercalate_padded, List.map_cons]
      rfl

/-- The text of a call by an ordinary id lists its inputs one below the other, each under what is
left of its id without the task's. -/
theorem callText_names_inputs {t : String} (ht : ∀ c ∈ t.toList, isIdChar c = true)
    {inputs : List StepInput} (hinputs : inputs ≠ []) (hids : ∀ i ∈ inputs, ∃ id, i.id = .str id)
    (scatter : Value) :
    ∃ names body, List.Forall₂ (fun i name => ∃ id, i.id = .str id ∧ NamedWithout t id name)
        inputs names ∧
      body = "\n    call " ++ t ++ " \x7b\n        input: " ++ ", \n          ".intercalate
        (List.zipWith (fun name i => name ++ "=" ++ i.value.text) names inputs) ++ "\n    \x7d\n" ∧
      callText (.str t) inputs scatter =
        if scatter.truthy then scatterText scatter body else .ok body := by
  obtain ⟨lines, hlines, hjoined⟩ := exists_inputLines_of_isIdChar ht hids
  refine ⟨inputs.map fun i => deleteWords [t ++ "."] i.id.text, _, ?_, rfl, ?_⟩
  · rw [List.forall₂_map_right_iff, List.forall₂_same]
    intro i hi
    obtain ⟨id, hid⟩ := hids i hi
    refine ⟨id, hid, ?_⟩
    rw [hid]
    exact namedWithout_deleteWords t id
  · have hzip : List.zipWith (fun name i => name ++ "=" ++ i.value.text)
        (inputs.map fun i => deleteWords [t ++ "."] i.id.text) inputs =
        inputs.map (·.assignment t) := by
      rw [List.zipWith_map_left, List.zipWith_self]
      rfl
    rw [hzip, ← hjoined, callText, if_neg (by simpa using hinputs), hlines]
    rfl

def namingSample : List StepInput :=
  [⟨.str "aa.x", .str "in"⟩, ⟨.str "aaa.y", .null⟩, ⟨.str "aa.aa.z", .int 3⟩]

theorem callText_namingSample :
    (∀ c ∈ "aa".toList, isIdChar c = true) ∧ callText (.str "aa") namingSample (.list []) =
      .ok "\n    call aa \x7b\n        input: x=in, \n          ay=None, \n          z=3\n    \x7d\n" := by
  have hchars : ∀ c ∈ "aa".toList, isIdChar c = true := List.all_eq_true.mp (by decide)
  have hids : ∀ i ∈ namingSample, ∃ id, i.id = .str id := by
    simp [namingSample]
  obtain ⟨names, body, hnames, hbody, hcall⟩ :=
    callText_names_inputs hchars (List.cons_ne_nil _ _) hids (.list [])
  obtain _ | @⟨_, first, _, _, ⟨_, ⟨⟩, hfirst⟩, hnames⟩ := hnames
  obtain _ | @⟨_, second, _, _, ⟨_, ⟨⟩, hsecond⟩, hnames⟩ := hnames
  obtain _ | @⟨_, third, _, _, ⟨_, ⟨⟩, hthird⟩, hnames⟩ := hnames
  cases hnames
  obtain rfl : first = "x" := hfirst.2 "x" (by decide) rfl
  have hword : "aa".toList ++ ['.'] ≠ [] := by decide
  obtain rfl : second = "ay" := String.toList_inj.mp (hsecond.1.eq_deleteAll hword)
  obtain rfl : third = "z" := String.toList_inj.mp (hthird.1.eq_deleteAll hword)
  refine ⟨hchars, hcall.trans ?_⟩
  rw [hbody]
  rfl

end Wdl

end FlowConverter
