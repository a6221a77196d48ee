import FormulaOcr.Fault

/-! The host part of a web address: numeric addresses in brackets, and letters that would turn into
delimiters when the host is normalised. -/

namespace FormulaOcr.Link

/-- The pieces of a text between the occurrences of `mark`; there is always at least one. -/
def split (mark : Char) : List Char → List (List Char)
  | [] => [[]]
  | c :: rest =>
    match split mark rest with
    | [] => [[c]]
    | piece :: pieces => if c = mark then [] :: piece :: pieces else (c :: piece) :: pieces

def isHexDigit (c : Char) : Bool :=
  (Json.hexValue? c).isSome

/-- A decimal number up to 255 without a zero in front. -/
def isOctet (t : List Char) : Bool :=
  !t.isEmpty && t.length ≤ 3 && t.all Text.isAsciiDigit && !(1 < t.length && t.head? == some '0') &&
    Number.natOfDigits t ≤ 255

def isIPv4 (t : List Char) : Bool :=
  let octets := split '.' t
  octets.length == 4 && octets.all isOctet

def isGroup (t : List Char) : Bool :=
  !t.isEmpty && t.length ≤ 4 && t.all isHexDigit

/-- The groups of an address, with a dotted last group written as two groups. -/
def groups? (t : List Char) : Option (List (List Char)) :=
  let groups := split ':' t
  let last := groups.getLast?.getD []
  if groups.length < 3 then none
  else if last.contains '.' then
    if isIPv4 last then some (groups.dropLast ++ [['0'], ['0']]) else none
  else some groups

/-- Eight groups, or fewer with one gap for groups of zeros. A gap at an end is written with two
colons there. -/
def isIPv6Groups (groups : List (List Char)) : Bool :=
  let inner := groups.tail.dropLast
  let gaps := inner.filter (·.isEmpty)
  if 9 < groups.length || 1 < gaps.length then false
  else if gaps.isEmpty then groups.length == 8 && groups.all isGroup
  else
    let before := (groups.head?.toList ++ inner.takeWhile (!·.isEmpty))
    let behind := (inner.dropWhile (!·.isEmpty)).tail ++ groups.getLast?.toList
    let front := if before.head? == some [] then before.tail else before
    let back := if behind.getLast? == some [] then behind.dropLast else behind
    (before.head? != some [] || front.isEmpty) && (behind.getLast? != some [] || back.isEmpty) &&
      front.length + back.length < 8 && front.all isGroup && back.all isGroup

def isIPv6 (t : List Char) : Bool :=
  let (address, scope) := match Text.splitFirst '%' t with
    | some (address, scope) => (address, some scope)
    | none => (t, none)
  scope.all (fun s => !s.isEmpty && !s.contains '%') && (groups? address).any isIPv6Groups

/-- An address of a later version: a hexadecimal version number, a point, and something more. -/
def isFuture (t : List Char) : Bool :=
  let version := t.tail.takeWhile isHexDigit
  match t.tail.dropWhile isHexDigit with
  | '.' :: rest => !version.isEmpty && !rest.isEmpty
  | _ => false

def checkBracketed (host : List Char) : Except HostFault Unit :=
  if host.head? = some 'v' then if isFuture host then .ok () else .error .futureAddress
  else if isIPv4 host then .error .bracketedIPv4
  else if isIPv6 host then .ok ()
  else .error (.notAddress (.ofList host))

/-- Letters whose compatibility form contains a delimiter. -/
def foldedDelimiters : List Nat :=
  [0x2047, 0x2048, 0x2049, 0x2100, 0x2101, 0x2105, 0x2106, 0x2A74, 0xFE13, 0xFE16, 0xFE55, 0xFE56,
   0xFE5F, 0xFE6B, 0xFF03, 0xFF0F, 0xFF1A, 0xFF1F, 0xFF20]

/-- The name in a host part: what stands behind the last at sign, without the port. Brackets go
around all of the name. -/
def hostName (host : List Char) : Except HostFault (List Char) :=
  let location := Text.afterLast '@' host
  match Text.splitFirst '[' location with
  | none => .ok (location.takeWhile (· != ':'))
  | some (before, rest) =>
    let behind := (rest.dropWhile (· != ']')).tail
    if before.isEmpty && behind.head?.all (· == ':') then .ok (rest.takeWhile (· != ']'))
    else .error .misplacedBracket

def checkHost (host : List Char) : Except HostFault Unit := do
  if host.contains '[' != host.contains ']' then throw .misplacedBracket
  if host.contains '[' then checkBracketed (← hostName host)
  if host.any fun c => foldedDelimiters.contains c.toNat then
    throw (.foldedDelimiter (.ofList host))

end FormulaOcr.Link
