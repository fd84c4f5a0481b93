import PointExchange.Url.Host

/-!
# URLs

A URL names a resource by the scheme of access, by the host with the credentials for it, and by a
path. In some schemes the path is a text of the scheme's own and there is no host.

The parts are kept in their written form: percent-encoded, and in one spelling where there are
several. So equal URLs have equal parts, and `Url.text` only puts the parts together.
-/

namespace PointExchange

namespace Url

/-- What stands after the host. -/
inductive Path
  | segments (l : List String)
  /-- a text of the scheme's own -/
  | plain (text : String)
deriving DecidableEq

/-- The place on the network that a URL names, and the credentials for it. -/
structure Authority where
  username : String := ""
  password : String := ""
  host : Host
  /-- the number of the service at the host, if it is not the scheme's usual one -/
  service : Option UInt16 := none
deriving DecidableEq

/-- The schemes whose URLs name a host of the network, and the usual number of the service. -/
def networkSchemes : List (String × UInt16) :=
  [("http", 80), ("https", 443), ("ws", 80), ("wss", 443), ("ftp", 21)]

/-- How the text behind the scheme is read. -/
inductive SchemeKind
  /-- a host and a path -/
  | network (usual : UInt16)
  /-- a path on some machine -/
  | file
  | other
deriving DecidableEq

def SchemeKind.of (scheme : String) : SchemeKind :=
  match networkSchemes.lookup scheme with
  | some usual => .network usual
  | none => if scheme = "file" then .file else .other

/-- Only other schemes tell a backslash from a slash. -/
def SchemeKind.isSpecial : SchemeKind → Bool
  | .other => false
  | _ => true

end Url

/-- A URL. -/
structure Url where
  scheme : String
  authority : Option Url.Authority := none
  path : Url.Path
  query : Option String := none
  fragment : Option String := none
deriving DecidableEq

namespace Url

/-- The written form of credentials, with the sign that ends them. -/
def Authority.credentials (a : Authority) : String :=
  let secret := if a.password.isEmpty then "" else ":" ++ a.password
  if a.username.isEmpty && a.password.isEmpty then "" else a.username ++ secret ++ "@"

def Authority.text (a : Authority) : String :=
  "//" ++ a.credentials ++ String.ofList a.host.text ++
    match a.service with
    | none => ""
    | some n => ":" ++ Decimal.text n.toNat

def Path.text : Path → String
  | .segments l => String.join (l.map ("/" ++ ·))
  | .plain text => text

/-- A path without a host would read as one with a host if it began with two slashes. -/
def Path.guard : Path → String
  | .segments ("" :: _ :: _) => "/."
  | _ => ""

/-- The written form. -/
def text (u : Url) : String :=
  u.scheme ++ ":" ++
    (match u.authority with
    | some a => a.text
    | none => u.path.guard) ++
    u.path.text ++
    (match u.query with
    | some q => "?" ++ q
    | none => "") ++
    match u.fragment with
    | some f => "#" ++ f
    | none => ""

end Url
end PointExchange
