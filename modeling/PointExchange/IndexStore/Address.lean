import PointExchange.Url.Parser
import PointExchange.Url.Query

/-!
# Addresses of the store of indices

The store of indices and of the run lock is found by a URL. It names a host of the network, or a
path on the machine; the number of the database in the store, and how to talk to it, may be added.
-/

namespace PointExchange.StoreAddress

/-- An integer of 64 bits in decimal digits, with or without a sign. -/
def isDatabase (s : List Char) : Bool :=
  match s with
  | '-' :: r => (Decimal.number? r).any (· ≤ 0x8000000000000000)
  | '+' :: r => (Decimal.number? r).any (· < 0x8000000000000000)
  | r => (Decimal.number? r).any (· < 0x8000000000000000)

/-- Credentials stand for octets, and these have to be a text. -/
def isReadable (s : String) : Bool :=
  (Url.percentDecode (Bytes.ofText s)).toChars?.isSome

/-- The version of the protocol, if one is asked for, has to be a known one. -/
def hasKnownProtocol (u : Url) : Bool :=
  (Url.parameter? u.query "protocol").all fun p => ["2", "3", "resp2", "resp3"].contains p

/-- A text without the slashes at its ends. -/
def trimSlashes (s : List Char) : List Char :=
  ((s.dropWhile (· == '/')).reverse.dropWhile (· == '/')).reverse

/-- Whether a URL names a store on the network. -/
def isNetwork (u : Url) : Bool :=
  let database := trimSlashes u.path.text.toList
  u.scheme = "redis" && u.authority.any (fun a =>
    a.host ≠ .name "" && isReadable a.username && isReadable a.password) &&
    (database.isEmpty || isDatabase database) && hasKnownProtocol u

/-- Whether a URL names a store on the machine. -/
def isLocal (u : Url) : Bool :=
  let isPath := match u.path with
    | .segments (_ :: _) => true
    | _ => false
  (u.scheme = "unix" || u.scheme = "redis+unix") && isPath &&
    u.authority.all (fun a => a.host = .name "" || a.host = .name "localhost") &&
    (Url.parameter? u.query "db").all (fun n => isDatabase n.toList) && hasKnownProtocol u

/-- Whether a text is an address of a store. -/
def isValid (s : String) : Bool := (Url.ofText? s.toList).any fun u => isNetwork u || isLocal u

end PointExchange.StoreAddress
