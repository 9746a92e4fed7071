import FlowConverter.Text.Pattern

/-! Reading patterns from text: characters and escapes, the point, sets, groups, alternatives, anchors
and repetitions. A brace that does not start a count is a character. References to groups, groups
that open with a question mark other than `(?:`, and characters by their names are not read. -/
namespace FlowConverter.Text.Pattern

private def isOctal (c : Char) : Bool := '0' ≤ c && c ≤ '7'

private def digitOf (c : Char) : Nat :=
  if c.isDigit then c.toNat - 48 else if c.isLower then c.toNat - 87 else c.toNat - 55

private def isHex (c : Char) : Bool :=
  c.isDigit || ('a' ≤ c && c ≤ 'f') || ('A' ≤ c && c ≤ 'F')

private def numberOf (base : Nat) (ds : List Char) : Nat :=
  ds.foldl (fun n c => base * n + digitOf c) 0

/-- A character by its code; there have to be exactly `width` hexadecimal digits. -/
private def byCode? (width : Nat) (cs : List Char) : Option (Char × List Char) :=
  let ds := (cs.take width).takeWhile isHex
  let n := numberOf 16 ds
  if ds.length = width ∧ n.isValidChar then some (Char.ofNat n, cs.drop width) else none

/-- The class that a letter names, and whether it is meant without its members. -/
private def classOf? : Char → Option SetItem
  | 'd' => some (.oneOf .digit)
  | 'D' => some (.noneOf .digit)
  | 's' => some (.oneOf .blank)
  | 'S' => some (.noneOf .blank)
  | 'w' => some (.oneOf .word)
  | 'W' => some (.noneOf .word)
  | _ => none

private def anchorOf? : Char → Option Anchor
  | 'A' => some .start
  | 'Z' => some .finish
  | 'b' => some .wordEdge
  | 'B' => some .noWordEdge
  | _ => none

private def controlOf? : Char → Option Char
  | 'a' => some '\x07'
  | 'f' => some '\x0c'
  | 'n' => some '\n'
  | 'r' => some '\r'
  | 't' => some '\t'
  | 'v' => some '\x0b'
  | _ => none

/-- A character after a backslash that stands for one character, in a set or outside. A letter
without a meaning is refused. -/
private def escapedChar? (c : Char) (rest : List Char) : Option (Char × List Char) :=
  match controlOf? c with
  | some x => some (x, rest)
  | none =>
    if c == 'x' then byCode? 2 rest
    else if c == 'u' then byCode? 4 rest
    else if c == 'U' then byCode? 8 rest
    else if c.isAlpha then none
    else some (c, rest)

/-- An octal code of three digits at most, the first of which is `c`. -/
private def octal? (c : Char) (rest : List Char) : Option (Char × List Char) :=
  let ds := (rest.take 2).takeWhile isOctal
  let n := numberOf 8 (c :: ds)
  if n ≤ 255 then some (Char.ofNat n, rest.drop ds.length) else none

/-- An escape outside a set. A digit other than zero starts an octal code only if two octal digits
follow. -/
private def escape? (c : Char) (rest : List Char) : Option (Pattern × List Char) :=
  match classOf? c, anchorOf? c with
  | some item, _ => some (.set false [item], rest)
  | none, some a => some (.anchor a, rest)
  | none, none =>
    if c == '0' then (octal? c rest).map fun (x, rest) => (.literal x, rest)
    else if c.isDigit then
      match rest with
      | d :: e :: _ =>
        if isOctal c && isOctal d && isOctal e then
          (octal? c rest).map fun (x, rest) => (.literal x, rest)
        else none
      | _ => none
    else (escapedChar? c rest).map fun (x, rest) => (.literal x, rest)

/-- An escape in a set. -/
private def setEscape? (c : Char) (rest : List Char) : Option (SetItem × List Char) :=
  match classOf? c with
  | some item => some (item, rest)
  | none =>
    let char? : Option (Char × List Char) :=
      if c == 'b' then some ('\x08', rest)
      else if isOctal c then octal? c rest
      else if c.isDigit then none
      else escapedChar? c rest
    char?.map fun (x, rest) => (.range x x, rest)

/-- One member of a set, before a range is looked for. -/
private def member? : List Char → Option (SetItem × List Char)
  | '\\' :: c :: rest => setEscape? c rest
  | ['\\'] => none
  | c :: rest => some (.range c c, rest)
  | [] => none

/-- A range from one member to another; both have to be single characters, in order. -/
private def rangeOf? : SetItem → SetItem → Option SetItem
  | .range low _, .range high _ => if low ≤ high then some (.range low high) else none
  | _, _ => none

/-- The members of a set up to its closing bracket; a bracket that comes first is a member. -/
private def members? : Nat → List SetItem → List Char → Option (List SetItem × List Char)
  | 0, _, _ => none
  | _, _, [] => none
  | fuel + 1, acc, c :: rest =>
    if c == ']' && !acc.isEmpty then some (acc.reverse, rest)
    else
      match member? (c :: rest) with
      | none => none
      | some (item, '-' :: ']' :: rest) => some ((.range '-' '-' :: item :: acc).reverse, rest)
      | some (item, '-' :: rest) =>
        match member? rest with
        | none => none
        | some (last, rest) =>
          match rangeOf? item last with
          | some r => members? fuel (r :: acc) rest
          | none => none
      | some (item, rest) => members? fuel (item :: acc) rest

private def set? (cs : List Char) : Option (Pattern × List Char) :=
  let (negated, cs) := match cs with
    | '^' :: rest => (true, rest)
    | rest => (false, rest)
  (members? (cs.length + 1) [] cs).map fun (items, rest) => (.set negated items, rest)

/-- A count after an opening brace: least, most, and what follows the closing brace. -/
private def count? (cs : List Char) : Option (Nat × Option Nat × List Char) :=
  let (low, rest) := cs.span Char.isDigit
  let least := numberOf 10 low
  match rest with
  | ',' :: rest =>
    let (high, rest) := rest.span Char.isDigit
    match rest with
    | '\x7d' :: rest => some (least, if high.isEmpty then none else some (numberOf 10 high), rest)
    | _ => none
  | '\x7d' :: rest => if low.isEmpty then none else some (least, some least, rest)
  | _ => none

/-- The count of a repetition that starts with `c`, if it starts one. -/
def repetition? (c : Char) (rest : List Char) : Option (Nat × Option Nat × List Char) :=
  match c with
  | '*' => some (0, none, rest)
  | '+' => some (1, none, rest)
  | '?' => some (0, some 1, rest)
  | '\x7b' => count? rest
  | _ => none

private def appetite (cs : List Char) : Appetite × List Char :=
  match cs with
  | '?' :: rest => (.lazy, rest)
  | '+' :: rest => (.possessive, rest)
  | rest => (.greedy, rest)

/-- Repeats the last item. Nothing, an anchor and a repetition cannot be repeated. -/
private def repeatLast? (least : Nat) (most : Option Nat) (a : Appetite) :
    List Pattern → Option (List Pattern)
  | [] => none
  | .anchor _ :: _ => none
  | .many .. :: _ => none
  | p :: rest =>
    if most.any (· < least) then none else some (.many p least most a :: rest)

def sequence (items : List Pattern) : Pattern := items.foldr .seq .empty

mutual

/-- Alternatives up to the end or a closing bracket. -/
def alternatives? : Nat → List Char → Option (Pattern × List Char)
  | 0, _ => none
  | fuel + 1, cs =>
    match items? fuel [] cs with
    | none => none
    | some (p, '|' :: rest) => (alternatives? fuel rest).map fun (q, rest) => (.alt p q, rest)
    | some (p, rest) => some (p, rest)

/-- Items up to the end, a bar or a closing bracket; those read so far come last first. -/
def items? : Nat → List Pattern → List Char → Option (Pattern × List Char)
  | 0, _, _ => none
  | _, acc, [] => some (sequence acc.reverse, [])
  | fuel + 1, acc, c :: rest =>
    if c == '|' || c == ')' then some (sequence acc.reverse, c :: rest)
    else
      match repetition? c rest with
      | some (least, most, rest) =>
        let (a, rest) := appetite rest
        match repeatLast? least most a acc with
        | some acc => items? fuel acc rest
        | none => none
      | none =>
        match atom? fuel c rest with
        | some (p, rest) => items? fuel (p :: acc) rest
        | none => none

/-- One item that starts with `c`. -/
def atom? : Nat → Char → List Char → Option (Pattern × List Char)
  | 0, _, _ => none
  | fuel + 1, c, rest =>
    match c with
    | '.' => some (.any, rest)
    | '^' => some (.anchor .start, rest)
    | '$' => some (.anchor .lineEnd, rest)
    | '[' => set? rest
    | '(' => group? fuel rest
    | '\\' =>
      match rest with
      | d :: rest => escape? d rest
      | [] => none
    | _ => some (.literal c, rest)

/-- A group after its opening bracket. -/
def group? : Nat → List Char → Option (Pattern × List Char)
  | 0, _ => none
  | fuel + 1, cs =>
    let inside? : Option (List Char) :=
      match cs with
      | '?' :: ':' :: rest => some rest
      | '?' :: _ => none
      | rest => some rest
    match inside? with
    | none => none
    | some inside =>
      match alternatives? fuel inside with
      | some (p, ')' :: rest) => some (.group p, rest)
      | _ => none

end

/-- The pattern of a whole text. -/
def read? (s : String) : Option Pattern :=
  let cs := s.toList
  match alternatives? (4 * cs.length + 4) cs with
  | some (p, []) => some p
  | _ => none

end FlowConverter.Text.Pattern
