import DocTag.Address.Fold
import DocTag.Address.Punycode
import DocTag.Address.Repertoire
import DocTag.Text.Graphic

namespace DocTag.Label

def isFree (c : Char) : Bool :=
  if c.toNat < 0x80 then c.isLower || c.isDigit || c == '-'
  else labelRanges.has c.toNat && isGraphic c && foldChar c == [c]

def isFitting (label before : Text) (c : Char) (after : Text) : Bool :=
  let n := c.toNat
  if n = 0xB7 then before.head? == some 'l' && after.head? == some 'l'
  else if n = 0x375 then
    match after with
    | [] => false
    | d :: _ => greekRanges.has d.toNat
  else if n = 0x5F3 ∨ n = 0x5F4 then
    match before with
    | [] => false
    | d :: _ => hebrewRanges.has d.toNat
  else if n = 0x30FB then label.any fun d => d.toNat != 0x30FB && japaneseRanges.has d.toNat
  else if 0x660 ≤ n ∧ n ≤ 0x669 then label.all fun d => !(0x6F0 ≤ d.toNat && d.toNat ≤ 0x6F9)
  else if 0x6F0 ≤ n ∧ n ≤ 0x6F9 then label.all fun d => !(0x660 ≤ d.toNat && d.toNat ≤ 0x669)
  else false

def allFit (label before : Text) : Text → Bool
  | [] => true
  | c :: rest => (isFree c || isFitting label before c rest) && allFit label (c :: before) rest

inductive Direction where
  | left
  | right
  | arabicDigit
  | digit
  | neutral
  | none
deriving DecidableEq, Repr

def Direction.ofChar (c : Char) : Direction :=
  let n := c.toNat
  if n < 0x80 then if c.isDigit then digit else if c == '-' then neutral else left
  else if rightToLeftRanges.has n then right
  else if directionlessRanges.has n then none
  else if arabicDigitRanges.has n then arabicDigit
  else if plainDigitRanges.has n then digit
  else if neutralRanges.has n then neutral
  else left

/-- A label that runs from right to left starts with such a letter, has no letter of the other
    direction, does not mix digits, and ends, marks apart, with a letter or a digit. -/
def isDirected (label : Text) : Bool :=
  let ds := label.map Direction.ofChar
  if ds.any fun d => d = .right ∨ d = .arabicDigit then
    ds.head? == some .right && ds.all (· != .left)
      && !(ds.contains .arabicDigit && ds.contains .digit)
      && match (ds.filter (· != .none)).getLast? with
        | some d => d != .neutral
        | none => false
  else true

def hasOuterHyphen (label : Text) : Bool :=
  label.head? == some '-' || label.getLast? == some '-'

def hasInnerHyphens (label : Text) : Bool := (label.drop 2).take 2 == ['-', '-']

def startsWithMark : Text → Bool
  | [] => false
  | c :: _ => isMark c

def isValid (label : Text) : Bool :=
  !label.isEmpty && label.compose == label && !hasInnerHyphens label && !hasOuterHyphen label
    && !startsWithMark label && allFit label [] label && isDirected label

def lead : Text := "xn--".toList

def forms? (label : Text) : Option (Text × Text) :=
  if label.all Punycode.isAscii then
    match lead.isPrefixOf? label with
    | none => if isValid label then some (label, label) else none
    | some code =>
      if code.isEmpty || code.getLast? == some '-' then none
      else
        match Punycode.decode? code with
        | some shown => if isValid shown then some (label, shown) else none
        | none => none
  else if isValid label then some (lead ++ Punycode.encode label, label)
  else none

end DocTag.Label
