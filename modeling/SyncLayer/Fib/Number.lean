/-!
# Fibonacci numbers

The numbers that begin with one and one, each further one the sum of the two before it.
-/

namespace SyncLayer.Fib

/-- A Fibonacci number and the next one. -/
def pair : Nat → Nat × Nat
  | 0 => (1, 1)
  | n + 1 =>
    let (a, b) := pair n
    (b, a + b)

/-- A Fibonacci number. -/
def number (n : Nat) : Nat :=
  (pair n).1

theorem number_zero : number 0 = 1 := rfl

theorem number_one : number 1 = 1 := rfl

theorem number_add_two (n : Nat) : number (n + 2) = number n + number (n + 1) := rfl

/-- The greatest depth whose Fibonacci number a word of 64 bits can hold. -/
def depthLimit : Nat := 92

theorem number_depthLimit : number depthLimit < 0x10000000000000000 := by
  decide

theorem number_depthLimit_succ : 0x10000000000000000 ≤ number (depthLimit + 1) := by
  decide

end SyncLayer.Fib
