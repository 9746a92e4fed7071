import FlowConverter.Proofs.Outcome
import FlowConverter.Wdl.CommandSection

/-! When the parts of a command can be ordered, and how. The base command is placed first and has a
number for a position, so a part whose position is neither null nor a number meets a number before
it is placed, and that comparison fails. All other comparisons have an answer, and a part goes
behind all that may stand before it: the parts end up in the order of their positions, and those
of one position in the order they came in. -/
namespace FlowConverter

namespace Magnitude

theorem le_refl (m : Magnitude) : m.le m = true := by
  cases m <;> simp [le]

theorem le_total (m n : Magnitude) : m.le n = true ∨ n.le m = true := by
  cases m <;> cases n <;> simp [le, Rat.le_total]

theorem le_trans {l m n : Magnitude} (hlm : l.le m = true) (hmn : m.le n = true) :
    l.le n = true := by
  cases l <;> cases m <;> cases n <;> simp_all [le]
  exact Rat.le_trans hlm hmn

theorem le_antisymm {m n : Magnitude} (hmn : m.le n = true) (hnm : n.le m = true) : m = n := by
  cases m <;> cases n <;> simp_all [le]
  exact Rat.le_antisymm hmn hnm

end Magnitude

def Value.isNumber (v : Value) : Bool := v.magnitude?.isSome

def Value.isPosition (v : Value) : Bool := v.isNull || v.isNumber

theorem Value.isNull_iff {v : Value} : v.isNull = true ↔ v = .null := by
  cases v <;> simp [isNull]

theorem Value.less_eq_ok {v w : Value} {m n : Magnitude} (hv : v.magnitude? = some m)
    (hw : w.magnitude? = some n) : v.less w = .ok !(n.le m) := by
  cases v <;> cases w <;> simp_all [magnitude?, less, pure_eq_ok]

theorem Value.equals_eq_beq {v w : Value} {m n : Magnitude} (hv : v.magnitude? = some m)
    (hw : w.magnitude? = some n) : v.equals w = (m == n) := by
  cases v <;> cases w <;> simp_all [magnitude?, equals]

namespace Value

/-- Whether a position may stand before another: numbers by their size, null behind all of them. -/
def atMost (v w : Value) : Bool :=
  match v.magnitude?, w.magnitude? with
  | some m, some n => m.le n
  | none, some _ => false
  | _, none => true

theorem atMost_of_magnitude?_eq {v w : Value} (h : v.magnitude? = w.magnitude?) :
    v.atMost w = true := by
  rw [atMost, h]
  cases w.magnitude? with
  | none => rfl
  | some m => exact m.le_refl

theorem atMost_total (v w : Value) : v.atMost w = true ∨ w.atMost v = true := by
  rw [atMost, atMost]
  cases v.magnitude? <;> cases w.magnitude? <;> simp [Magnitude.le_total]

theorem atMost_trans {u v w : Value} (huv : u.atMost v = true) (hvw : v.atMost w = true) :
    u.atMost w = true := by
  rw [atMost] at *
  cases hu : u.magnitude? <;> cases hv : v.magnitude? <;> cases hw : w.magnitude? <;>
    simp_all
  exact Magnitude.le_trans huv hvw

theorem magnitude?_eq_of_atMost {v w : Value} (hvw : v.atMost w = true) (hwv : w.atMost v = true) :
    v.magnitude? = w.magnitude? := by
  rw [atMost] at *
  cases hv : v.magnitude? <;> cases hw : w.magnitude? <;> simp_all
  exact Magnitude.le_antisymm hvw hwv

theorem null_atMost {v : Value} (h : v.isPosition) : Value.null.atMost v = v.isNull := by
  cases v <;> simp_all [atMost, magnitude?, isPosition, isNumber, isNull]

end Value

namespace Wdl

theorem positionLess_null (v : Value) : positionLess v .null = .ok !v.isNull := by
  cases v <;> rfl

theorem positionLess_of_not_null {v w : Value} (hv : v.isNull = false) (hw : w.isNull = false) :
    positionLess v w = if v.equals w then .ok false else v.less w := by
  cases v <;> cases w <;> simp_all [positionLess, Value.isNull, pure_eq_ok]

/-- Positions can be compared, and one comes before another if the other may not stand before it. -/
theorem positionLess_eq_ok {v w : Value} (hv : v.isPosition) (hw : w.isPosition) :
    positionLess v w = .ok !(w.atMost v) := by
  cases hw' : w.isNull with
  | true =>
    obtain rfl := Value.isNull_iff.mp hw'
    rw [positionLess_null, Value.null_atMost hv]
  | false =>
    cases hv' : v.isNull with
    | true =>
      obtain rfl := Value.isNull_iff.mp hv'
      simp [positionLess, Value.atMost, Value.magnitude?, pure_eq_ok]
    | false =>
      simp only [Value.isPosition, hv', hw', Bool.false_or] at hv hw
      obtain ⟨m, hm⟩ := Option.isSome_iff_exists.mp hv
      obtain ⟨n, hn⟩ := Option.isSome_iff_exists.mp hw
      have hle : w.atMost v = n.le m := by rw [Value.atMost, hm, hn]
      rw [positionLess_of_not_null hv' hw', Value.less_eq_ok hm hn, Value.equals_eq_beq hm hn, hle]
      split
      next h => rw [beq_iff_eq.mp h, Magnitude.le_refl, Bool.not_true]
      next => rfl

/-- Only a number comes before another position. -/
theorem isNumber_of_positionLess {v w : Value} (hv : v.isPosition)
    (h : positionLess v w = .ok true) : v.isNumber := by
  cases v <;> simp_all [Value.isPosition, Value.isNull, positionLess, pure_eq_ok]

/-- Nothing but numbers and null can be compared with a number. -/
theorem positionLess_of_not_isPosition {v w : Value} (hv : v.isPosition = false)
    (hw : w.isNumber) : positionLess v w = .error .wrongKind := by
  cases v <;> cases w <;>
    simp_all [Value.isPosition, Value.isNumber, Value.isNull, Value.magnitude?, positionLess,
      Value.less, Value.equals, throw_eq_error]

theorem insertPart_perm {p : Part} {placed result : List Part}
    (h : insertPart p placed = .ok result) : result.Perm (p :: placed) := by
  induction placed generalizing result with
  | nil =>
    cases h
    exact .refl _
  | cons q rest ih =>
    rw [insertPart] at h
    obtain ⟨b, -, h⟩ := bind_eq_ok_iff.mp h
    cases b with
    | true =>
      cases h
      exact .refl _
    | false =>
      obtain ⟨inner, hi, h⟩ := bind_eq_ok_iff.mp h
      cases h
      exact ((ih hi).cons q).trans (.swap p q rest)

/-- What is known of the parts placed so far: a number leads them, and all have positions. -/
structure Placed (parts : List Part) : Prop where
  lead : ∃ q rest, parts = q :: rest ∧ q.position.isNumber
  position : ∀ p ∈ parts, p.position.isPosition

theorem Placed.singleton {p : Part} (hp : p.position.isNumber) : Placed [p] := by
  refine ⟨⟨p, [], rfl, hp⟩, ?_⟩
  intro q hq
  rw [List.mem_singleton.mp hq, Value.isPosition, hp, Bool.or_true]

theorem insertPart_ok {p : Part} {placed : List Part} (hp : p.position.isPosition)
    (h : ∀ q ∈ placed, q.position.isPosition) : ∃ result, insertPart p placed = .ok result := by
  induction placed with
  | nil => exact ⟨[p], rfl⟩
  | cons q rest ih =>
    obtain ⟨hq, hrest⟩ := List.forall_mem_cons.mp h
    obtain ⟨inner, hi⟩ := ih hrest
    rw [insertPart, positionLess_eq_ok hp hq, hi]
    cases q.position.atMost p.position
    · exact ⟨p :: q :: rest, rfl⟩
    · exact ⟨q :: inner, rfl⟩

/-- One more part with a position keeps what is known. -/
theorem Placed.insert {p : Part} {placed result : List Part} (hp : p.position.isPosition)
    (h : Placed placed) (hr : insertPart p placed = .ok result) : Placed result := by
  obtain ⟨q, rest, rfl, hq⟩ := h.lead
  refine ⟨?_, ?_⟩
  · rw [insertPart] at hr
    obtain ⟨b, hb, hr⟩ := bind_eq_ok_iff.mp hr
    cases b with
    | true =>
      cases hr
      exact ⟨p, q :: rest, rfl, isNumber_of_positionLess hp hb⟩
    | false =>
      obtain ⟨inner, -, hr⟩ := bind_eq_ok_iff.mp hr
      cases hr
      exact ⟨q, inner, rfl, hq⟩
  · intro r hmem
    rcases List.mem_cons.mp ((insertPart_perm hr).mem_iff.mp hmem) with rfl | hmem
    · exact hp
    · exact h.position r hmem

theorem insertPart_of_not_isPosition {p : Part} {placed : List Part}
    (hp : p.position.isPosition = false) (h : Placed placed) :
    insertPart p placed = .error .wrongKind := by
  obtain ⟨q, rest, rfl, hq⟩ := h.lead
  rw [insertPart, positionLess_of_not_isPosition hp hq]
  rfl

/-- No part is lost or doubled. -/
theorem foldlM_insertPart_perm {parts placed result : List Part}
    (h : parts.foldlM (fun placed p => insertPart p placed) placed = .ok result) :
    result.Perm (placed ++ parts) := by
  induction parts generalizing placed with
  | nil =>
    cases h
    rw [List.append_nil]
  | cons p rest ih =>
    rw [List.foldlM_cons] at h
    obtain ⟨next, hn, h⟩ := bind_eq_ok_iff.mp h
    calc
      result.Perm (next ++ rest) := ih h
      _ |>.Perm ((p :: placed) ++ rest) := (insertPart_perm hn).append_right rest
      _ |>.Perm (placed ++ p :: rest) := List.perm_middle.symm

/-- All parts find their places if all have positions; if one has none, the ordering fails. -/
theorem foldlM_insertPart (parts placed : List Part) (h : Placed placed) :
    if ∀ p ∈ parts, p.position.isPosition then
      ∃ result, parts.foldlM (fun placed p => insertPart p placed) placed = .ok result
    else parts.foldlM (fun placed p => insertPart p placed) placed = .error .wrongKind := by
  induction parts generalizing placed with
  | nil =>
    rw [if_pos (by simp)]
    exact ⟨placed, rfl⟩
  | cons p rest ih =>
    cases hp : p.position.isPosition with
    | false =>
      -- The first comparison is with a number, so the rest is never looked at.
      rw [if_neg (by simp [hp]), List.foldlM_cons, insertPart_of_not_isPosition hp h]
      rfl
    | true =>
      obtain ⟨next, hn⟩ := insertPart_ok hp h.position
      simp only [List.forall_mem_cons, hp, true_and, List.foldlM_cons, hn, ok_bind]
      exact ih next (h.insert hp hn)

theorem orderParts_perm {parts : List Part} {texts : List Value} (h : orderParts parts = .ok texts) :
    texts.Perm (parts.map (·.text)) := by
  obtain ⟨placed, hp, h⟩ := bind_eq_ok_iff.mp h
  cases h
  exact (foldlM_insertPart_perm hp).map _

theorem orderParts_cons (first : Part) (rest : List Part) :
    orderParts (first :: rest) = (do
      let placed ← rest.foldlM (fun placed p => insertPart p placed) [first]
      pure (placed.map (·.text))) := by
  rw [orderParts, List.foldlM_cons, insertPart, pure_bind]

/-- Parts behind one with a number are ordered exactly if all of them have positions. -/
theorem exists_orderParts_iff {first : Part} {rest : List Part} (hf : first.position.isNumber) :
    (∃ texts, orderParts (first :: rest) = .ok texts) ↔ ∀ p ∈ rest, p.position.isPosition := by
  have hfold := foldlM_insertPart rest [first] (.singleton hf)
  rw [orderParts_cons]
  split at hfold
  · rename_i hall
    obtain ⟨result, hr⟩ := hfold
    rw [hr]
    exact ⟨fun _ => hall, fun _ => ⟨_, rfl⟩⟩
  · rename_i hnot
    rw [hfold]
    exact ⟨fun ⟨_, h⟩ => (nomatch h), fun h => absurd h hnot⟩

/-- The parts in the order of their positions. Null is the last position, and parts of the same
position stand in the order that they have in `parts`. -/
structure Arranged (parts ordered : List Part) : Prop where
  perm : ordered.Perm parts
  position : ∀ p ∈ ordered, p.position.isPosition
  ascending : ordered.Pairwise fun p q => p.position.atMost q.position
  stable : ∀ place : Option Magnitude,
    ordered.filter (·.position.magnitude? = place) = parts.filter (·.position.magnitude? = place)

theorem Arranged.nil : Arranged [] [] := ⟨.refl _, by simp, .nil, fun _ => rfl⟩

/-- Among parts in order, a part goes behind those that may stand before it, and before all others. -/
theorem insertPart_split {placed result : List Part} {p : Part} (hp : p.position.isPosition)
    (hposition : ∀ q ∈ placed, q.position.isPosition)
    (hascending : placed.Pairwise fun p q => p.position.atMost q.position)
    (hr : insertPart p placed = .ok result) :
    ∃ before behind, placed = before ++ behind ∧ result = before ++ p :: behind ∧
      (∀ q ∈ before, q.position.atMost p.position = true) ∧
      ∀ q ∈ behind, q.position.atMost p.position = false := by
  induction placed generalizing result with
  | nil =>
    cases hr
    exact ⟨[], [], rfl, rfl, by simp, by simp⟩
  | cons q rest ih =>
    obtain ⟨hq, hrest⟩ := List.forall_mem_cons.mp hposition
    obtain ⟨hqrest, hascending⟩ := List.pairwise_cons.mp hascending
    rw [insertPart, positionLess_eq_ok hp hq, ok_bind] at hr
    cases hle : q.position.atMost p.position with
    | true =>
      rw [hle] at hr
      obtain ⟨inner, hi, hr⟩ := bind_eq_ok_iff.mp hr
      cases hr
      obtain ⟨before, behind, rfl, rfl, hbefore, hbehind⟩ := ih hrest hascending hi
      exact ⟨q :: before, behind, rfl, rfl, List.forall_mem_cons.mpr ⟨hle, hbefore⟩, hbehind⟩
    | false =>
      rw [hle] at hr
      cases hr
      refine ⟨[], q :: rest, rfl, rfl, by simp, List.forall_mem_cons.mpr ⟨hle, ?_⟩⟩
      intro r hr
      rw [Bool.eq_false_iff] at hle ⊢
      exact fun hrp => hle (Value.atMost_trans (hqrest r hr) hrp)

/-- One more part finds its place, behind the parts of its own position. -/
theorem Arranged.insert {parts placed result : List Part} {p : Part} (h : Arranged parts placed)
    (hp : p.position.isPosition) (hr : insertPart p placed = .ok result) :
    Arranged (parts ++ [p]) result := by
  have hperm : result.Perm (parts ++ [p]) :=
    ((insertPart_perm hr).trans (h.perm.cons p)).trans (List.perm_append_singleton p parts).symm
  obtain ⟨before, behind, rfl, rfl, hbefore, hbehind⟩ := insertPart_split hp h.position h.ascending hr
  refine ⟨hperm, ?_, ?_, ?_⟩
  · intro q hq
    rcases List.mem_append.mp (hperm.mem_iff.mp hq) with hq | hq
    · exact h.position q (h.perm.mem_iff.mpr hq)
    · rw [List.mem_singleton.mp hq]
      exact hp
  · obtain ⟨hfirst, hsecond, hacross⟩ := List.pairwise_append.mp h.ascending
    refine List.pairwise_append.mpr ⟨hfirst, List.pairwise_cons.mpr ⟨?_, hsecond⟩, ?_⟩
    · intro q hq
      exact (Value.atMost_total _ _).resolve_right (by simp [hbehind q hq])
    · intro q hq
      exact List.forall_mem_cons.mpr ⟨hbefore q hq, hacross q hq⟩
  · intro place
    rw [List.filter_append parts, ← h.stable place, List.filter_append, List.filter_append,
      List.filter_cons]
    split
    next hplace =>
      have hnone : behind.filter (·.position.magnitude? = place) = [] := by
        rw [List.filter_eq_nil_iff]
        intro q hq hsame
        have hle := Value.atMost_of_magnitude?_eq
          ((of_decide_eq_true hsame).trans (of_decide_eq_true hplace).symm)
        rw [hbehind q hq] at hle
        cases hle
      simp [hnone, hplace]
    next hplace => simp [hplace]

theorem Arranged.foldlM {parts done placed result : List Part} (h : Arranged done placed)
    (hparts : ∀ p ∈ parts, p.position.isPosition)
    (hr : parts.foldlM (fun placed p => insertPart p placed) placed = .ok result) :
    Arranged (done ++ parts) result := by
  induction parts generalizing done placed with
  | nil =>
    cases hr
    rw [List.append_nil]
    exact h
  | cons p rest ih =>
    obtain ⟨hp, hrest⟩ := List.forall_mem_cons.mp hparts
    rw [List.foldlM_cons] at hr
    obtain ⟨next, hn, hr⟩ := bind_eq_ok_iff.mp hr
    rw [← List.singleton_append, ← List.append_assoc]
    exact ih (h.insert hp hn) hrest hr

/-- Behind a part with a number, ordering the parts arranges them. -/
theorem arranged_of_orderParts {first : Part} {rest : List Part} {texts : List Value}
    (hf : first.position.isNumber) (h : orderParts (first :: rest) = .ok texts) :
    ∃ ordered, Arranged (first :: rest) ordered ∧ texts = ordered.map (·.text) := by
  have hrest := (exists_orderParts_iff hf).mp ⟨texts, h⟩
  have hfirst : first.position.isPosition := by rw [Value.isPosition, hf, Bool.or_true]
  obtain ⟨ordered, hordered, h⟩ := bind_eq_ok_iff.mp h
  exact ⟨ordered, Arranged.nil.foldlM (List.forall_mem_cons.mpr ⟨hfirst, hrest⟩) hordered,
    (Except.ok.inj h).symm⟩

end Wdl

end FlowConverter
