import FormulaOcr.Link.Host

/-! The scheme of a web address. -/

namespace FormulaOcr.Link

def isSchemeChar (c : Char) : Bool :=
  Text.isAsciiAlphanumeric c || c == '+' || c == '-' || c == '.'

/-- An address as it is looked at: without control characters and spaces in front, and without
tabs and line ends anywhere. -/
def cleaned (t : List Char) : List Char :=
  (t.dropWhile (·.toNat ≤ 0x20)).filter fun c => c != '\t' && c != '\n' && c != '\r'

/-- The scheme of an address in lower case, empty if it has none, and the rest of the address. -/
def splitScheme (t : List Char) : List Char × List Char :=
  match Text.splitFirst ':' t with
  | some (name, rest) =>
    if name.head?.any Text.isAsciiLetter && name.all isSchemeChar then (name.map Char.toLower, rest)
    else ([], t)
  | none => ([], t)

/-- The scheme of an address whose host part is in order. -/
def scheme (url : String) : Except HostFault String := do
  let (name, rest) := splitScheme (cleaned url.toList)
  match Text.dropFront? "//".toList rest with
  | some rest => checkHost (rest.takeWhile fun c => c != '/' && c != '?' && c != '#')
  | none => pure ()
  return .ofList name

/-- The schemes of links that may be opened. -/
def webSchemes : List String :=
  ["http", "https"]

end FormulaOcr.Link
