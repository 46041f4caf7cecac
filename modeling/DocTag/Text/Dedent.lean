import DocTag.Text.Basic

namespace DocTag.Text

def commonIndent (ls : List Text) : Nat :=
  ((ls.filter (fun l => !l.trim.isEmpty)).map indent).min?.getD 0

/-- The first line loses its outer blanks, every later line the common indentation of the later
    lines and its trailing blanks, and the whole its outer blanks. -/
def dedent (t : Text) : Text :=
  match t.lines with
  | [] => []
  | [line] => line.trim
  | first :: rest =>
    let depth := commonIndent rest
    (unlines (first.trim :: rest.map fun line => trimEnd (line.drop depth))).trim

end DocTag.Text
