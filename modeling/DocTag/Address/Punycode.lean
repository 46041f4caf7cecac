import DocTag.Text.Basic

namespace DocTag.Punycode

def digitChar (d : Nat) : Char := Char.ofNat (if d < 26 then 0x61 + d else 0x16 + d)

def digit? (c : Char) : Option Nat :=
  if 'a' ≤ c ∧ c ≤ 'z' then some (c.toNat - 'a'.toNat)
  else if 'A' ≤ c ∧ c ≤ 'Z' then some (c.toNat - 'A'.toNat)
  else if '0' ≤ c ∧ c ≤ '9' then some (c.toNat - '0'.toNat + 26)
  else none

def threshold (bias k : Nat) : Nat := max 1 (min 26 (k - bias))

def dampen (delta k : Nat) : Nat :=
  if 455 < delta then dampen (delta / 35) (k + 36) else k + 36 * delta / (delta + 38)
termination_by delta
decreasing_by omega

def adapt (delta size : Nat) (first : Bool) : Nat :=
  let delta := if first then delta / 700 else delta / 2
  dampen (delta + delta / size) 0

def writeNumber (bias k n : Nat) : Text :=
  let t := threshold bias k
  if n < t then [digitChar n]
  else digitChar (t + (n - t) % (36 - t)) :: writeNumber bias (k + 36) ((n - t) / (36 - t))
termination_by n
decreasing_by
  have : 1 ≤ threshold bias k := by simp only [threshold]; omega
  have := Nat.div_le_self (n - threshold bias k) (36 - threshold bias k)
  omega

def readNumber? (bias k weight : Nat) : Text → Option (Nat × Text)
  | [] => none
  | c :: rest =>
    match digit? c with
    | none => none
    | some d =>
      let t := threshold bias k
      if d < t then some (d * weight, rest)
      else
        (readNumber? bias (k + 36) (weight * (36 - t)) rest).map fun (n, rest) =>
          (d * weight + n, rest)

theorem length_lt_of_readNumber? {bias k weight n : Nat} {t rest : Text}
    (h : readNumber? bias k weight t = some (n, rest)) : rest.length < t.length := by
  induction t generalizing k weight n rest with
  | nil => simp [readNumber?] at h
  | cons c t ih =>
    simp only [readNumber?] at h
    split at h
    · simp at h
    · split at h
      · simp_all
      · obtain ⟨⟨m, r⟩, hr, e⟩ := Option.map_eq_some_iff.1 h
        have := ih hr
        simp_all
        omega

def isAscii (c : Char) : Bool := c.toNat < 0x80

def insertions (t : Text) : List (Nat × Nat) :=
  let later := t.zipIdx.filter fun (c, _) => !isAscii c
  (later.mergeSort fun a b => a.1.toNat ≤ b.1.toNat).map fun (c, i) =>
    (c.toNat, ((t.take i).filter fun d => d.toNat ≤ c.toNat).length)

def writeInsertions (n i size bias : Nat) (first : Bool) : List (Nat × Nat) → Text
  | [] => []
  | (code, place) :: rest =>
    let delta := (code - n) * (size + 1) + place - i
    writeNumber bias 36 delta
      ++ writeInsertions code (place + 1) (size + 1) (adapt delta (size + 1) first) false rest

def encode (t : Text) : Text :=
  let ascii := t.filter isAscii
  (if ascii.isEmpty then [] else ascii ++ ['-'])
    ++ writeInsertions 0x80 0 ascii.length 72 true (insertions t)

def insertAll? (n i bias : Nat) (first : Bool) (out : Text) (t : Text) : Option Text :=
  match t with
  | [] => some out
  | c :: rest =>
    match _h : readNumber? bias 36 1 (c :: rest) with
    | none => none
    | some (delta, more) =>
      let size := out.length + 1
      let code := n + (i + delta) / size
      let place := (i + delta) % size
      if code.isValidChar then
        insertAll? code (place + 1) (adapt delta size first) false
          (out.take place ++ Char.ofNat code :: out.drop place) more
      else none
termination_by t.length
decreasing_by exact length_lt_of_readNumber? _h

def decode? (t : Text) : Option Text :=
  let digits := (t.reverse.takeWhile (· != '-')).reverse
  let ascii := (t.take (t.length - digits.length)).dropLast
  insertAll? 0x80 0 72 true ascii digits

end DocTag.Punycode
