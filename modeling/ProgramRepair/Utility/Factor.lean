import ProgramRepair.Utility.Input

/-!
# Prime factors

`factor` prints the prime factors of numbers. Small divisors are tried one after the
other; what is left is a prime if its square root is passed.
-/

namespace ProgramRepair.Utility

open Machine

namespace Factor

/-- The divisor that is tried after another. -/
def nextDivisor (d : Nat) : Nat := if d = 2 then 3 else d + 2

/-- The prime factors of a number that has no divisor below `d`, in their order. -/
def factors : (fuel : Nat) → (n d : Nat) → List Nat
  | 0, n, _ => if n ≤ 1 then [] else [n]
  | fuel + 1, n, d =>
    if n ≤ 1 then []
    else if n < d * d then [n]
    else if n % d = 0 then d :: factors fuel (n / d) d
    else factors fuel n (nextDivisor d)

/-- The prime factors of a number. There are at most as many divisors and factors as its square root
and its bits together. -/
def primeFactors (n : Nat) : List Nat := factors (n.sqrt + n.log2 + 2) n 2

/-- Each prime with how often it comes in a row. -/
def withExponents : List Nat → List (Nat × Nat)
  | [] => []
  | p :: rest =>
    match withExponents rest with
    | (q, k) :: more => if p = q then (p, k + 1) :: more else (p, 1) :: (q, k) :: more
    | [] => [(p, 1)]

/-- The line for a number. -/
def line (exponents : Bool) (n : Nat) : List Char :=
  let ps := primeFactors n
  let texts :=
    if exponents then
      (withExponents ps).map fun (p, k) =>
        digits p ++ (if k = 1 then [] else '^' :: digits k)
    else ps.map digits
  digits n ++ [':'] ++ texts.flatMap (' ' :: ·) ++ ['\n']

/-- The number that a word stands for. -/
def number? (word : List Char) : Option Nat :=
  let word := word.dropWhile (· = ' ')
  natural? (if word.head? = some '+' then word.drop 1 else word)

end Factor

/-- Prints the prime factors of numbers. -/
def factor : Utility := fun _ args => do
  let o := (⟨"h", "", "", [("exponents", 'h')]⟩ : Grammar).read args
  match o.problem, o.rest with
  | some problem, _ => refuse "factor" problem 1
  | none, [] =>
    match ← Work.readAll 0 with
    | .error e =>
      warn "factor" ("error reading input: " ++ e.systemText)
      return 1
    | .ok bytes =>
      let isBlank := fun c : Char => c = ' ' || c = '\t' || c = '\n'
      let text := (Text.charsOfBytes bytes).map fun c => if isBlank c then '\n' else c
      go (o.has 'h') 0 ((Text.cut '\n' text).filter (· ≠ []))
  | none, words => go (o.has 'h') 0 words
where
  /-- Goes from number to number. -/
  go (exponents : Bool) (code : Nat) : List (List Char) → Work Nat
    | [] => return code
    | word :: rest => do
      match Factor.number? word with
      | some n =>
        if ← tryPut "factor" (Factor.line exponents n) then go exponents code rest else return 1
      | none =>
        warn "factor" (quoted word ++ " is not a valid positive integer")
        go exponents 1 rest

end ProgramRepair.Utility
