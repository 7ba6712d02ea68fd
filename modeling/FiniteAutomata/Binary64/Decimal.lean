import FiniteAutomata.Binary64.Basic

namespace FiniteAutomata.Binary64

/-!
# Shortest decimal text

The text of a floating-point number: the fewest decimal digits that read back to it, of those the
nearest to it, laid out positionally or with an exponent.

* `Rounding`: a number and the ends of the interval of reals that round to it, as integers over one
  power of ten.
* `Rounding.shortest`: the multiple of the largest possible power of ten in that interval.
* `layout`: digits and the place of the decimal point as text.
* `text`: the text of any number.
-/

/-! ### The rounding interval -/

/-- The number `value / 10 ^ places` and the ends of the interval of reals that are rounded to it;
    the ends belong to the interval when `closed`. -/
structure Rounding where
  lower : Nat
  value : Nat
  upper : Nat
  places : Nat
  closed : Bool

/-- The rounding interval of `m · 2 ^ e`: it reaches half way to both neighbours, and below a power
    of two the lower neighbour is nearer. The ends belong to even significands. -/
def Rounding.of (m : Nat) (e : Int) : Rounding :=
  let narrow := m == 0x10000000000000 && e > -1074
  let quarter := e - 2
  let scale := Nat.pow 2 quarter.toNat * Nat.pow 5 (-quarter).toNat
  { lower := (4 * m - if narrow then 1 else 2) * scale
    value := 4 * m * scale
    upper := (4 * m + 2) * scale
    places := (-quarter).toNat
    closed := m % 2 == 0 }

/-- Lies in the interval. -/
def Rounding.covers (r : Rounding) (n : Nat) : Bool :=
  if r.closed then r.lower ≤ n && n ≤ r.upper else r.lower < n && n < r.upper

/-! ### The fewest digits -/

/-- Of the two multiples of `unit` around the value, the quotient of the one that lies in the
    interval; of two, the nearer, and the even one half way between them. -/
def Rounding.near? (r : Rounding) (unit : Nat) : Option Nat :=
  let below := r.value / unit
  let above := below + 1
  match r.covers (below * unit), r.covers (above * unit) with
  | false, false => none
  | true, false => some below
  | false, true => some above
  | true, true =>
    match compare (2 * (r.value % unit)) unit with
    | .lt => some below
    | .gt => some above
    | .eq => some (if below % 2 = 0 then below else above)

/-- The digits that are left when as many as possible of the last `dropped` digits are rounded away,
    and how many those are. -/
def Rounding.shortest (r : Rounding) : Nat → Nat × Nat
  | 0 => (r.value, 0)
  | dropped + 1 =>
    match r.near? (Nat.pow 10 (dropped + 1)) with
    | some digits => (digits, dropped + 1)
    | none => r.shortest dropped

/-! ### Layout -/

/-- Zeros as text. -/
def zeros (n : Nat) : List Char := List.replicate n '0'

/-- An exponent of ten with its sign and at least two digits. -/
def exponentText (e : Int) : List Char :=
  let digits := Nat.toDigits 10 e.natAbs
  (if e < 0 then '-' else '+') :: zeros (2 - digits.length) ++ digits

/-- Digits that begin at the decimal place `point` (`0.d₁d₂…` for zero). Numbers from `10⁻⁴` up to
    `10¹⁶` are written positionally with at least one digit after the point, all others with the
    point after the first digit and an exponent. -/
def layout (digits : List Char) (point : Int) : List Char :=
  if -4 < point && point ≤ 16 then
    match point with
    | .ofNat (k + 1) =>
      let whole := digits.take (k + 1)
      let rest := digits.drop (k + 1)
      whole ++ zeros (k + 1 - whole.length) ++ '.' :: (if rest.isEmpty then ['0'] else rest)
    | _ => '0' :: '.' :: zeros (-point).toNat ++ digits
  else
    match digits with
    | [] => []
    | [d] => d :: 'e' :: exponentText (point - 1)
    | d :: rest => d :: '.' :: rest ++ 'e' :: exponentText (point - 1)

/-- The text of `m · 2 ^ e`. -/
def finiteText (m : Nat) (e : Int) : List Char :=
  if m = 0 then ['0', '.', '0'] else
    let r := Rounding.of m e
    let (digits, dropped) := r.shortest ((Nat.toDigits 10 r.value).length - 1)
    let all := Nat.toDigits 10 digits
    let significant := (all.reverse.dropWhile (· == '0')).reverse
    layout significant ((all.length + dropped : Nat) - (r.places : Int))

/-- The text of a number. -/
def text (x : Binary64) : String :=
  match x.number with
  | .finite negative m e => String.ofList ((if negative then ['-'] else []) ++ finiteText m e)
  | .infinite negative => if negative then "-inf" else "inf"
  | .nan _ => "nan"

/-! ### The decisions of the format, by example

The last three show the least positive number, the tie half way between two candidates, which goes
to the even digit, and the interval of an even significand, whose end belongs to it.
-/

example : (ofBits 0x3FB999999999999A 0).text = "0.1" := by decide +kernel
example : (ofBits 0x8000000000000000 0).text = "-0.0" := by decide +kernel
example : (ofBits 0x4341C37937E08000 0).text = "1e+16" := by decide +kernel
example : (ofBits 0x3F1A36E2EB1C432D 0).text = "0.0001" := by decide +kernel
example : (ofBits 0x0000000000000001 0).text = "5e-324" := by decide +kernel
example : (ofBits 0x3E60000000000000 0).text = "2.9802322387695312e-08" := by decide +kernel
example : (ofBits 0x44B52D02C7E14AF6 0).text = "1e+23" := by decide +kernel

end FiniteAutomata.Binary64
