namespace DocTag

/-- A set of code points as its runs, first and last member of each, in ascending order. -/
abbrev Ranges := List (Nat × Nat)

def Ranges.has : Ranges → Nat → Bool
  | [], _ => false
  | (first, last) :: rest, n => if n < first then false else n ≤ last || has rest n

end DocTag
