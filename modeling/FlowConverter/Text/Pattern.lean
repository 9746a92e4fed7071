import FlowConverter.Text.Edit
import FlowConverter.Text.WordChar

/-! Patterns for texts and their matching. A match is tried at one place after another; at a place the
first alternative wins and a repetition takes as much as it can, as little as it can, or as much
as it can without giving anything back. `Pattern.ends` lists where a pattern can end, the
preferred end first, so what follows picks the first end that suits it. Groups only bracket:
nothing refers back to what a group has matched. -/
namespace FlowConverter.Text

inductive CharClass where
  | digit
  | blank
  | word

def CharClass.test : CharClass → Char → Bool
  | digit, c => isDecimalDigit c
  | blank, c => isBlank c
  | word, c => isWordChar c

/-- A member of a set of characters. -/
inductive SetItem where
  | range (low high : Char)
  | oneOf (cls : CharClass)
  | noneOf (cls : CharClass)

def SetItem.test : SetItem → Char → Bool
  | range low high, c => low ≤ c && c ≤ high
  | oneOf cls, c => cls.test c
  | noneOf cls, c => !cls.test c

inductive Anchor where
  | start
  /-- The end, or before a line feed that ends the text. -/
  | lineEnd
  | finish
  | wordEdge
  | noWordEdge

/-- How a repetition is preferred. -/
inductive Appetite where
  | greedy
  | lazy
  | possessive

inductive Pattern where
  | empty
  | literal (c : Char)
  /-- Any character but a line feed. -/
  | any
  | set (negated : Bool) (items : List SetItem)
  | anchor (a : Anchor)
  | group (p : Pattern)
  | seq (p q : Pattern)
  | alt (p q : Pattern)
  | many (p : Pattern) (least : Nat) (most : Option Nat) (appetite : Appetite)

/-- A place in a text: the character before it and the characters after it. -/
structure Cursor where
  before : Option Char
  after : List Char

namespace Cursor

/-- Whether `d` lies behind `c` in the same text. -/
def passed (c d : Cursor) : Bool := d.after.length < c.after.length

/-- Keeps the first of equal places. -/
def distinct (cs : List Cursor) : List Cursor :=
  cs.foldr (fun c rest => c :: rest.filter fun d => d.after.length != c.after.length) []

/-- Goes over one character that passes a test. -/
def step (test : Char → Bool) (c : Cursor) : List Cursor :=
  match c.after with
  | [] => []
  | x :: rest => if test x then [⟨some x, rest⟩] else []

end Cursor

namespace Pattern

private def isWordAt (c : Option Char) : Bool := c.any isWordChar

def anchorHolds (a : Anchor) (c : Cursor) : Bool :=
  match a with
  | .start => c.before.isNone
  | .lineEnd => c.after.isEmpty || c.after == ['\n']
  | .finish => c.after.isEmpty
  | .wordEdge => isWordAt c.before != isWordAt c.after.head?
  | .noWordEdge => isWordAt c.before == isWordAt c.after.head?

/-- Ends after exactly `n` steps. -/
def times (step : Cursor → List Cursor) : Nat → Cursor → List Cursor
  | 0, c => [c]
  | n + 1, c => Cursor.distinct ((step c).flatMap (times step n))

/-- Ends after at most `n` steps. A step that goes nowhere is the last. -/
def upTo (step : Cursor → List Cursor) (greedy : Bool) : Nat → Cursor → List Cursor
  | 0, c => [c]
  | n + 1, c =>
    let further := (step c).flatMap fun d =>
      if c.passed d then upTo step greedy n d else [d]
    Cursor.distinct (if greedy then further ++ [c] else c :: further)

/-- The end after exactly `n` steps, each taken at its preferred end for good. -/
def holdTimes (step : Cursor → List Cursor) : Nat → Cursor → Option Cursor
  | 0, c => some c
  | n + 1, c =>
    match step c with
    | [] => none
    | d :: _ => holdTimes step n d

/-- The end after as many steps as can be taken, at most `n`. -/
def holdUpTo (step : Cursor → List Cursor) : Nat → Cursor → Cursor
  | 0, c => c
  | n + 1, c =>
    match step c with
    | [] => c
    | d :: _ => if c.passed d then holdUpTo step n d else d

/-- How many steps beyond the least are worth trying from `c`. -/
private def spare (least : Nat) (most : Option Nat) (c : Cursor) : Nat :=
  match most with
  | none => c.after.length + 1
  | some m => min (m - least) (c.after.length + 1)

/-- Where the pattern can end if it starts at `c`, the preferred end first. -/
def ends : Pattern → Cursor → List Cursor
  | empty, c => [c]
  | literal x, c => c.step (· == x)
  | any, c => c.step (· != '\n')
  | set negated items, c => c.step fun x => (items.any (·.test x)) != negated
  | anchor a, c => if anchorHolds a c then [c] else []
  | group p, c => p.ends c
  | seq p q, c => Cursor.distinct ((p.ends c).flatMap q.ends)
  | alt p q, c => Cursor.distinct (p.ends c ++ q.ends c)
  | many p least most appetite, c =>
    match appetite with
    | .greedy => (times p.ends least c).flatMap fun d => upTo p.ends true (spare least most d) d
    | .lazy => (times p.ends least c).flatMap fun d => upTo p.ends false (spare least most d) d
    | .possessive =>
      match holdTimes p.ends least c with
      | none => []
      | some d => [holdUpTo p.ends (spare least most d) d]

/-- The length of the first match at a place that is not empty. -/
def matchLength? (p : Pattern) (c : Cursor) : Option Nat :=
  ((p.ends c).find? c.passed).map fun d => c.after.length - d.after.length

/-- The text without the matches of the pattern. -/
def delete (p : Pattern) (s : String) : String :=
  String.ofList (deleteMatches (fun before after => p.matchLength? ⟨before, after⟩) none 0 s.toList)

end Pattern

end FlowConverter.Text
