import DocTag.Address.Label

namespace DocTag.Host

def isHostChar (c : Char) : Bool :=
  0x80 ≤ c.toNat || c.isAlphanum || c == '-' || c == '.'

def isSound (t : Text) : Bool := t.all isGraphic && !Label.startsWithMark t

def reserved : List Text :=
  ["arpa".toList, "invalid".toList, "local".toList, "localhost".toList, "onion".toList,
    "test".toList]

def isReserved (host : Text) : Bool :=
  reserved.any fun name => host == name || (List.isSuffixOf? ('.' :: name) host).isSome

def endsWithLetter (host : Text) : Bool :=
  match host.getLast? with
  | some c => c.isAlpha
  | none => false

def forms? (host : Text) : Option (Text × Text) :=
  let folded := host.fold
  if host.all isHostChar && isSound host && folded.all isHostChar then
    match (folded.splitOn '.').mapM Label.forms? with
    | none => none
    | some labels =>
      let ascii := ['.'].intercalate (labels.map Prod.fst)
      let shown := ['.'].intercalate (labels.map Prod.snd)
      if ascii.length ≤ 253 && labels.all (·.1.length ≤ 63) && 2 ≤ labels.length
          && endsWithLetter ascii && !isReserved ascii then
        some (ascii, shown)
      else none
  else none

end DocTag.Host
