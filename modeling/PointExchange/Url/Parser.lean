import PointExchange.Url.Basic

/-!
# Reading URLs

A text is cut into its parts from the outside in: the fragment and the query come off the end,
the scheme off the front, then the credentials, the host and the number of the service. What is
left is the path, in which the steps `.` and `..` are carried out.

Blanks and controls around a text do not count, nor do tabs and line ends inside it.
-/

namespace PointExchange.Url

/-- A text without blanks and controls at its ends, and without tabs and line ends. -/
def stripped (s : List Char) : List Char :=
  let trimmed := ((s.dropWhile (·.toNat ≤ 0x20)).reverse.dropWhile (·.toNat ≤ 0x20)).reverse
  trimmed.filter fun c => c != '\t' && c != '\n' && c != '\r'

/-- A character of a scheme behind its first letter. -/
def isSchemeChar (c : Char) : Bool := c.isAlphanum || c == '+' || c == '-' || c == '.'

/-- The scheme, and the text behind its colon. -/
def splitScheme? (s : List Char) : Option (String × List Char) :=
  match s.dropWhile isSchemeChar, s.head? with
  | ':' :: r, some c =>
    if c.isAlpha then some (String.ofList ((s.takeWhile isSchemeChar).map Char.toLower), r)
    else none
  | _, _ => none

/-- A sign that ends the names of the host. -/
def isSlash (special : Bool) (c : Char) : Bool := c == '/' || (special && c == '\\')

/-- A segment that stays at its place. -/
def isHere (segment : String) : Bool := [".", "%2e"].contains segment.toLower

/-- A segment that leads one step up. -/
def isUp (segment : String) : Bool := ["..", ".%2e", "%2e.", "%2e%2e"].contains segment.toLower

/-- The name of a drive: a letter and a colon or a bar. -/
def isDrive (segment : String) : Bool :=
  match segment.toList with
  | [c, d] => c.isAlpha && (d == ':' || d == '|')
  | _ => false

/-- A segment that begins with the name of a drive. A slash of either kind ends the name. -/
def beginsWithDrive (segment : String) : Bool :=
  isDrive (String.ofList (segment.toList.takeWhile (· != '\\')))

/-- One step up. It does not lead out of a drive, whatever the scheme. -/
def stepUp (path : List String) : List String :=
  if path.getLast?.any beginsWithDrive then path else path.dropLast

/-- A segment behind others. The drive of a file is written with a colon. -/
def place (file : Bool) (path : List String) (segment : String) : List String :=
  if file && path.isEmpty && isDrive segment then [String.ofList (segment.toList.take 1 ++ [':'])]
  else path ++ [segment]

/-- A path after some segments. A step at the end of the text leaves an open end. -/
def walk (file : Bool) (path : List String) : List String → List String
  | [] => path
  | segment :: rest =>
    let ended := if rest.isEmpty then [""] else []
    let path :=
      if isUp segment then stepUp path ++ ended
      else if isHere segment then path ++ ended
      else place file path segment
    walk file path rest

/-- The segments of a text, with the steps carried out. -/
def segmentsOf (kind : SchemeKind) (s : List Char) : List String :=
  let pieces := Text.split (isSlash kind.isSpecial) s
  let encoded := pieces.map fun p => String.ofList (percentEncode isOutsidePath p)
  walk (kind = .file) [] encoded

/-- Segments without the empty ones at the front; at least one stays. -/
def dropEmpty : List String → List String
  | "" :: segment :: rest => dropEmpty (segment :: rest)
  | l => l

/-- The path behind a host. Only in other schemes it may be empty. -/
def pathBehindHost (kind : SchemeKind) (s : List Char) : Path :=
  match s with
  | [] => .segments (if kind.isSpecial then [""] else [])
  | c :: r => .segments (segmentsOf kind (if isSlash kind.isSpecial c then r else c :: r))

/-- The text before the last `@`, if there is one before the first slash, and the text after it. -/
def splitUserInfo (special : Bool) (s : List Char) : Option (List Char) × List Char :=
  let names := s.takeWhile fun c => !isSlash special c
  let behind := names.reverse.takeWhile (· != '@')
  if behind.length = names.length then (none, s)
  else
    let info := names.take (names.length - behind.length - 1)
    (some info, s.drop (info.length + 1))

/-- The text of the host: up to a slash, or up to a colon outside of brackets. -/
def hostText (special : Bool) : Bool → List Char → List Char
  | _, [] => []
  | inside, c :: r =>
    if isSlash special c || (c == ':' && !inside) then []
    else c :: hostText special (if c == '[' then true else if c == ']' then false else inside) r

/-- The number behind a colon, and what is left of the text. -/
def service? (kind : SchemeKind) (s : List Char) : Option (Option UInt16 × List Char) :=
  let digits := s.takeWhile Decimal.isDigit
  let rest := s.drop digits.length
  let number := Decimal.value digits
  if 65535 < number || !rest.head?.all (isSlash true) then none
  else if digits.isEmpty || kind = .network (UInt16.ofNat number) then some (none, rest)
  else some (some (UInt16.ofNat number), rest)

/-- The host of a text, as the kind of scheme asks. -/
def hostOf? (kind : SchemeKind) (s : List Char) : Option Host :=
  if kind.isSpecial then Host.ofNetworkText? s else Host.ofText? s

/-- Whether credentials say anything: an at sign alone and a colon alone do not. -/
def areCredentials (info : List Char) : Bool := info != [] && info != [':']

/-- The authority at the front of a text, and the path behind it. A host may be missing only in
other schemes, without credentials and a number; an at sign alone is let pass at the end of the URL,
which `ended` tells of. -/
def authority? (kind : SchemeKind) (ended : Bool) (s : List Char) :
    Option (Authority × List Char) := do
  let (info, s) := splitUserInfo kind.isSpecial s
  let text := hostText kind.isSpecial false s
  let host ← hostOf? kind text
  let rest := s.drop text.length
  let isStray := info = some [] && !(ended && rest.isEmpty)
  if text.isEmpty &&
      (kind.isSpecial || info.any areCredentials || isStray || rest.head? = some ':') then none
  let (service, rest) ← match rest with
    | ':' :: r => service? kind r
    | r => some (none, r)
  let (name, secret) := Text.splitFirst ':' (info.getD [])
  let encode (t : List Char) := String.ofList (percentEncode isOutsideUserInfo t)
  return (⟨encode name, encode (secret.getD []), host, service⟩, rest)

/-- The machine and the path that a text behind the scheme of files names. A drive at the front of
the path is on this machine. -/
def filePlace? (s : List Char) : Option (Authority × Path) := do
  let nowhere : Authority := { host := .name "" }
  let here (s : List Char) := (nowhere, Path.segments (dropEmpty (segmentsOf .file s)))
  let isSlash := isSlash true
  match s with
  | [] => return here []
  | a :: r =>
    if !isSlash a then return here (a :: r)
    else if !r.head?.any isSlash then return here r
    else
      let r := r.drop 1
      let name := r.takeWhile fun c => !isSlash c
      if name.isEmpty || isDrive (String.ofList name) then return here r
      let host ← Host.ofNetworkText? name
      let rest := r.drop name.length
      if host = .name "localhost" then return here rest
      let segments := segmentsOf .file (rest.drop 1)
      let away := segments.head?.any isDrive
      return (if away then nowhere else { host }, .segments (dropEmpty segments))

/-- The authority and the path of a text behind its scheme; `ended` tells that the URL ends
there. -/
def place? (kind : SchemeKind) (ended : Bool) (s : List Char) : Option (Option Authority × Path) :=
  match kind, s with
  | .file, s => (filePlace? s).map fun (a, p) => (some a, p)
  | .network usual, s =>
    (authority? (.network usual) ended (s.dropWhile (isSlash true))).map fun (a, r) =>
      (some a, pathBehindHost (.network usual) r)
  | .other, '/' :: '/' :: r =>
    (authority? .other ended r).map fun (a, r) => (some a, pathBehindHost .other r)
  | .other, '/' :: r => some (none, .segments (segmentsOf .other r))
  | .other, s => some (none, .plain (String.ofList (percentEncode isControl s)))

/-- The URL that a text writes, if it writes one without the help of another. -/
def ofText? (s : List Char) : Option Url := do
  let (scheme, s) ← splitScheme? (stripped s)
  let kind := SchemeKind.of scheme
  let (s, fragment) := Text.splitFirst '#' s
  let (s, query) := Text.splitFirst '?' s
  let (authority, path) ← place? kind (query.isNone && fragment.isNone) s
  let encode (isOutside : Char → Bool) (t : List Char) := String.ofList (percentEncode isOutside t)
  return {
    scheme, authority, path
    query := query.map (encode (isOutsideQuery kind.isSpecial))
    fragment := fragment.map (encode isOutsideFragment) }

/-- One step up never makes a path longer. -/
theorem length_stepUp_le (path : List String) : (stepUp path).length ≤ path.length := by
  unfold stepUp
  split
  · exact Nat.le_refl _
  · simp

end PointExchange.Url
