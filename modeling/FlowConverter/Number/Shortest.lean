import FlowConverter.Number.Double

/-! The shortest decimal text of a floating-point number: the fewest significant digits that
read back as the same number, and of those the nearest to it. The written form is positional
while the leading digit stands between the fourth place after the point and the sixteenth
before it, and scientific outside. -/
namespace FlowConverter.Double

/-- The exponent of the leading decimal digit of the positive fraction `n / d`. -/
def leadingExponent (n d : Nat) : Int :=
  let gap := Int.ofNat (digitCount n) - Int.ofNat (digitCount d)
  let reaches :=
    if 0 ≤ gap then n ≥ d * Nat.pow 10 gap.toNat else n * Nat.pow 10 (-gap).toNat ≥ d
  if reaches then gap else gap - 1

/-- Four times the end points and the centre of the reals that round to `m * 2 ^ e`. Below a
power of two the spacing is halved, so the lower end is nearer there. -/
private def neighbourhood (m : Nat) (e : Int) : Nat × Nat × Nat :=
  let down := if m = Nat.pow 2 52 && e > minExponent then 1 else 2
  (4 * m - down, 4 * m, 4 * m + 2)

/-- The nearer of the two multiples of `10 ^ p` around `m * 2 ^ e` that read back as it. -/
private def candidate? (m : Nat) (e p : Int) : Option Nat :=
  let (low, mid, high) := neighbourhood m e
  let (a, b) := scaled 1 2 (e - 2)
  let (s, t) := scaled 1 10 p
  -- x * 2 ^ (e - 2) compares with c * 10 ^ p as x * a * t with c * s * b
  let unit := s * b
  let x (k : Nat) := k * a * t
  let c := x mid / unit
  let reads (c : Nat) : Bool :=
    if m % 2 = 0 then x low ≤ c * unit && c * unit ≤ x high
    else x low < c * unit && c * unit < x high
  let nearer := 2 * (x mid % unit)
  match reads c, reads (c + 1) with
  | true, true =>
    if nearer < unit || (nearer == unit && c % 2 == 0) then some c else some (c + 1)
  | true, false => some c
  | false, true => some (c + 1)
  | false, false => none

/-- Tries ever finer grids of decimals, at most `fuel` of them. -/
private def firstGrid (m : Nat) (e : Int) : Nat → Int → Nat × Int
  | 0, p => (0, p)
  | fuel + 1, p =>
    match candidate? m e p with
    | some c => (c, p)
    | none => firstGrid m e fuel (p - 1)

/-- Digits and scale of the shortest decimal for `m * 2 ^ e`, where `m` is positive. Seventeen
digits always suffice. -/
def shortest (m : Nat) (e : Int) : Nat × Int :=
  let (n, d) := scaled m 2 e
  firstGrid m e 18 (leadingExponent n d)

/-- Scale from which on, and below which, the scientific form is used. -/
def scientificFrom : Int := 16

@[inherit_doc scientificFrom]
def scientificBelow : Int := -4

def zeros (n : Nat) : List Char := List.replicate n '0'

def dropLastZeros (ds : List Char) : List Char :=
  (ds.reverse.dropWhile (· == '0')).reverse

/-- Positional form: there is always a digit on both sides of the point. -/
def positional (ds : List Char) (x : Int) : List Char :=
  if 0 ≤ x then
    let whole := x.toNat + 1
    let front := ds.take whole ++ zeros (whole - ds.length)
    let back := ds.drop whole
    front ++ '.' :: (if back.isEmpty then ['0'] else back)
  else
    '0' :: '.' :: zeros ((-x).toNat - 1) ++ ds

/-- Scientific form: a sign and at least two digits in the exponent. -/
def scientific (ds : List Char) (x : Int) : List Char :=
  let mark := if x < 0 then '-' else '+'
  let size := Nat.toDigits 10 x.natAbs
  let size := zeros (2 - size.length) ++ size
  let head := match ds with
    | [] => []
    | [d] => [d]
    | d :: rest => d :: '.' :: rest
  head ++ 'e' :: mark :: size

/-- The text of a number. -/
def text : Double → String
  | infinite negative => if negative then "-inf" else "inf"
  | finite negative m e =>
    let sign := if negative then ['-'] else []
    let body :=
      if m = 0 then ['0', '.', '0']
      else
        let (c, p) := shortest m e
        let ds := Nat.toDigits 10 c
        let x := p + Int.ofNat ds.length - 1
        let ds := dropLastZeros ds
        if scientificBelow ≤ x && x < scientificFrom then positional ds x else scientific ds x
    String.ofList (sign ++ body)

end FlowConverter.Double
