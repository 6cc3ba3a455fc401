/-!
# Numbers as text

Numbers padded to a width, hexadecimal with a `0x` in front, and digits read back. A quotient is
rounded to 53 significant binary digits and then to a fixed number of decimals, both times to the
nearest value; a tie goes to the even neighbour.
-/

namespace AvcPipeline.Text

def padLeft (width : Nat) (fill : Char) (s : String) : String :=
  String.ofList (List.replicate (width - s.length) fill) ++ s

def padRight (width : Nat) (s : String) : String :=
  s ++ String.ofList (List.replicate (width - s.length) ' ')

def zeroPadded (width n : Nat) : String :=
  padLeft width '0' (toString n)

def hex (digits n : Nat) : String :=
  "0x" ++ padLeft digits '0' (String.ofList ((Nat.toDigits 16 n).map Char.toUpper))

def digit? (c : Char) : Option Nat :=
  if c.isDigit then some (c.toNat - '0'.toNat)
  else if 'a' ≤ c && c ≤ 'f' then some (c.toNat - 'a'.toNat + 10)
  else if 'A' ≤ c && c ≤ 'F' then some (c.toNat - 'A'.toNat + 10)
  else none

def digits? (base : Nat) (chars : List Char) : Option Nat :=
  if chars.isEmpty then none
  else chars.foldlM (fun n c =>
    match digit? c with
    | some d => if d < base then some (base * n + d) else none
    | none => none) 0

/-! ## Quotients -/

/-- The whole number nearest to a quotient, and of two the even one. -/
def roundDiv (num den : Nat) : Nat :=
  let whole := num / den
  let rest := 2 * (num % den)
  if den < rest ∨ (rest = den ∧ whole % 2 = 1) then whole + 1 else whole

def scaled (num den : Nat) : Int → Nat × Nat
  | .ofNat e => (num, den <<< e)
  | .negSucc e => (num <<< (e + 1), den)

/-- The number of significant binary digits that a quotient is rounded to. -/
def significantBits : Nat := 53

/-- The power of two that brings a quotient between `2 ^ 52` and `2 ^ 53`. -/
def scaleOf (num den : Nat) : Int :=
  let guess : Int := Nat.log2 num - Nat.log2 den - (significantBits - 1 : Nat)
  let (n, d) := scaled num den guess
  if n < d <<< (significantBits - 1) then guess - 1 else guess

/-- A quotient rounded to `significantBits`, as a quotient again. -/
def significant (num den : Nat) : Nat × Nat :=
  if num = 0 then (0, 1)
  else
    let e := scaleOf num den
    let (n, d) := scaled num den e
    scaled (roundDiv n d) 1 (-e)

def fixedText (places : Nat) (q : Nat × Nat) : String :=
  let scale := Nat.pow 10 places
  let n := roundDiv (q.1 * scale) q.2
  s!"{n / scale}.{zeroPadded places (n % scale)}"

def quotientText (places num den : Nat) : String :=
  fixedText places (significant num den)

end AvcPipeline.Text
