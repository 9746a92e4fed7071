import FlowConverter.Value

/-! Reading values from JSON text. Keys keep their order; of a key given twice the last value
counts, at the place of the first. A number with a point or an exponent is a floating-point
number, any other an integer. Half of a surrogate pair without the other half is read as the
replacement character. -/
namespace FlowConverter.Json

def isSpace (c : Char) : Bool := c == ' ' || c == '\t' || c == '\n' || c == '\r'

private def skipSpace (cs : List Char) : List Char := cs.dropWhile isSpace

/-- The value of a hexadecimal digit. -/
def hexDigit? (c : Char) : Option Nat :=
  if '0' ≤ c ∧ c ≤ '9' then some (c.toNat - 48)
  else if 'a' ≤ c ∧ c ≤ 'f' then some (c.toNat - 87)
  else if 'A' ≤ c ∧ c ≤ 'F' then some (c.toNat - 55)
  else none

private def hexValue? (ds : List Char) : Option Nat :=
  ds.foldlM (fun n c => (hexDigit? c).map (16 * n + ·)) 0

/-- The character that a one-letter escape stands for. -/
def escaped? : Char → Option Char
  | '\x22' => some '\x22'
  | '\\' => some '\\'
  | '/' => some '/'
  | 'b' => some '\x08'
  | 'f' => some '\x0c'
  | 'n' => some '\n'
  | 'r' => some '\r'
  | 't' => some '\t'
  | _ => none

/-- Code units up to the closing quote, and what follows it. -/
private def units? (acc : List Nat) : List Char → Option (List Nat × List Char)
  | [] => none
  | '\\' :: 'u' :: a :: b :: c :: d :: rest =>
    match hexValue? [a, b, c, d] with
    | some n => units? (n :: acc) rest
    | none => none
  | '\\' :: c :: rest =>
    match escaped? c with
    | some e => units? (e.toNat :: acc) rest
    | none => none
  | c :: rest =>
    if c == '\x22' then some (acc.reverse, rest)
    else if c.toNat < 0x20 then none
    else units? (c.toNat :: acc) rest

private def isHigh (n : Nat) : Bool := 0xd800 ≤ n && n < 0xdc00

private def isLow (n : Nat) : Bool := 0xdc00 ≤ n && n < 0xe000

private def unitChar (n : Nat) : Char :=
  if isHigh n || isLow n then Char.ofNat 0xfffd else Char.ofNat n

/-- Joins surrogate pairs. -/
private def joinUnits (acc : List Char) : List Nat → List Char
  | [] => acc.reverse
  | high :: low :: rest =>
    if isHigh high && isLow low then
      joinUnits (Char.ofNat (0x10000 + (high - 0xd800) * 0x400 + (low - 0xdc00)) :: acc) rest
    else joinUnits (unitChar high :: acc) (low :: rest)
  | [n] => (unitChar n :: acc).reverse

/-- The text after an opening quote. -/
private def text? (cs : List Char) : Option (String × List Char) :=
  (units? [] cs).map fun (us, rest) => (String.ofList (joinUnits [] us), rest)

private def natValue (ds : List Char) : Nat := ds.foldl (fun n c => 10 * n + (c.toNat - 48)) 0

/-- The digits at the start; there has to be one. -/
private def digits? (cs : List Char) : Option (List Char × List Char) :=
  let (ds, rest) := cs.span Char.isDigit
  if ds.isEmpty then none else some (ds, rest)

/-- The digits after a point, if there is one. -/
private def fraction? : List Char → Option (Option (List Char) × List Char)
  | '.' :: rest => (digits? rest).map fun (ds, rest) => (some ds, rest)
  | cs => some (none, cs)

/-- The exponent, if there is one. -/
private def exponent? : List Char → Option (Option Int × List Char)
  | c :: rest =>
    if c == 'e' || c == 'E' then
      let (negative, rest) := match rest with
        | '-' :: r => (true, r)
        | '+' :: r => (false, r)
        | r => (false, r)
      (digits? rest).map fun (ds, rest) =>
        let n := Int.ofNat (natValue ds)
        (some (if negative then -n else n), rest)
    else some (none, c :: rest)
  | [] => some (none, [])

private def number? (cs : List Char) : Option (Value × List Char) := do
  let (negative, cs) := match cs with
    | '-' :: r => (true, r)
    | r => (false, r)
  let (whole, cs) ← digits? cs
  let (part, cs) ← fraction? cs
  let (power, cs) ← exponent? cs
  match part, power with
  | none, none =>
    let n := Int.ofNat (natValue whole)
    some (.int (if negative then -n else n), cs)
  | _, _ =>
    let part := part.getD []
    let scale := power.getD 0 - Int.ofNat part.length
    some (.float (Double.ofDecimal negative (natValue (whole ++ part)) scale), cs)

/-- Sets a key, at its old place if it has one. -/
private def put (fields : List (String × Value)) (key : String) (v : Value) :
    List (String × Value) :=
  if fields.any fun f => f.1 == key then
    fields.map fun f => if f.1 == key then (key, v) else f
  else fields ++ [(key, v)]

private def literal? (word : String) (v : Value) (cs : List Char) : Option (Value × List Char) :=
  (word.toList.isPrefixOf? cs).map fun rest => (v, rest)

mutual

/-- A value and what follows it. Each value takes at least one unit of fuel and one character. -/
private def value? : Nat → List Char → Option (Value × List Char)
  | 0, _ => none
  | fuel + 1, cs =>
    match skipSpace cs with
    | '\x22' :: rest => (text? rest).map fun (s, rest) => (.str s, rest)
    | '[' :: rest =>
      match skipSpace rest with
      | ']' :: rest => some (.list [], rest)
      | rest => items? fuel [] rest
    | '\x7b' :: rest =>
      match skipSpace rest with
      | '\x7d' :: rest => some (.mapping [], rest)
      | rest => fields? fuel [] rest
    | 'n' :: rest => literal? "ull" .null rest
    | 't' :: rest => literal? "rue" (.bool true) rest
    | 'f' :: rest => literal? "alse" (.bool false) rest
    | cs => number? cs

private def items? : Nat → List Value → List Char → Option (Value × List Char)
  | 0, _, _ => none
  | fuel + 1, acc, cs =>
    match value? fuel cs with
    | none => none
    | some (v, rest) =>
      match skipSpace rest with
      | ',' :: rest => items? fuel (v :: acc) rest
      | ']' :: rest => some (.list (v :: acc).reverse, rest)
      | _ => none

private def fields? : Nat → List (String × Value) → List Char → Option (Value × List Char)
  | 0, _, _ => none
  | fuel + 1, acc, cs =>
    match skipSpace cs with
    | '\x22' :: rest =>
      match text? rest with
      | none => none
      | some (key, rest) =>
        match skipSpace rest with
        | ':' :: rest =>
          match value? fuel rest with
          | none => none
          | some (v, rest) =>
            match skipSpace rest with
            | ',' :: rest => fields? fuel (put acc key v) rest
            | '\x7d' :: rest => some (.mapping (put acc key v), rest)
            | _ => none
        | _ => none
    | _ => none

end

/-- The value that a whole text stands for. -/
def read? (s : String) : Option Value :=
  let cs := s.toList
  match value? (cs.length + 1) cs with
  | some (v, rest) => if (skipSpace rest).isEmpty then some v else none
  | none => none

end FlowConverter.Json
