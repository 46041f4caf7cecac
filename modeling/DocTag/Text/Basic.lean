namespace DocTag

abbrev Text := List Char

/-- The white space that separates the parts of a tag. Zero-width characters are not white space. -/
def isBlank (c : Char) : Bool :=
  let n := c.toNat
  (9 ≤ n && n ≤ 13) || (0x1C ≤ n && n ≤ 0x20) || n == 0x85 || n == 0xA0 || n == 0x1680
    || (0x2000 ≤ n && n ≤ 0x200A) || n == 0x2028 || n == 0x2029 || n == 0x202F || n == 0x205F
    || n == 0x3000

namespace Text

def trimStart (t : Text) : Text := t.dropWhile isBlank

def trimEnd (t : Text) : Text := (t.reverse.dropWhile isBlank).reverse

def trim (t : Text) : Text := trimEnd (trimStart t)

def byteCount (t : Text) : Nat := t.foldl (fun n c => n + c.utf8Size) 0

def indent (t : Text) : Nat := (t.takeWhile isBlank).length

def lines (t : Text) : List Text := t.splitOn '\n'

def unlines (ls : List Text) : Text := ['\n'].intercalate ls

@[simp] theorem unlines_lines (t : Text) : unlines (lines t) = t := List.intercalate_splitOn '\n'

theorem lines_unlines {ls : List Text} (hne : ls ≠ []) (h : ∀ l ∈ ls, '\n' ∉ l) :
    (unlines ls).lines = ls := List.splitOn_intercalate '\n' h hne

@[simp] theorem unlines_singleton (l : Text) : unlines [l] = l := List.intercalate_singleton

theorem unlines_cons {ls : List Text} (h : ls ≠ []) (l : Text) :
    unlines (l :: ls) = l ++ '\n' :: unlines ls := by
  rw [unlines, List.intercalate_cons_of_ne_nil h, List.append_assoc, List.singleton_append, unlines]

def dropMark (lead t : Text) : Bool × Text :=
  match lead.isPrefixOf? t with
  | some rest => (true, rest)
  | none => (false, t)

end Text

/-- The pieces of an argument list, trimmed; an argument list of blanks has none. Commas are
    counted wherever they stand, so a bracketed comma separates too. -/
def Text.arguments (t : Text) : List Text :=
  if t.trim.isEmpty then [] else (t.splitOn ',').map trim

end DocTag
