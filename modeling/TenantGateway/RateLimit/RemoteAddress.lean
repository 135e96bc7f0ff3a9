import TenantGateway.Text.Blank
import TenantGateway.Text.Numeral
import TenantGateway.Text.Split

/-!
Addresses of remote counter stores: a scheme, a host with an optional port, and an optional number
of a database.
-/

namespace TenantGateway.RateLimit

/-- Why a text is no address of a remote store. -/
inductive AddressError where
  | unreadable
  | noHost
  | database
  deriving DecidableEq, Repr

def AddressError.message : AddressError → String
  | .unreadable => "Redis URL did not parse- InvalidClientConfig"
  | .noHost => "Missing hostname- InvalidClientConfig"
  | .database => "Invalid database number- InvalidClientConfig"

namespace RemoteAddress

def schemes : List String :=
  ["redis", "rediss", "valkey", "valkeys", "redis+unix", "valkey+unix", "unix"]

/-- Schemes of sockets that live in the file system and have no host. -/
def localSchemes : List String := ["redis+unix", "valkey+unix", "unix"]

/-- Characters that cannot stand in a host. -/
def isForbidden (c : Char) : Bool :=
  c.toNat == 0 || " #/:<>?@[\\]^|".toList.contains c

/-- Blanks and control characters around an address do not count, nor do tabs and line breaks in
it. -/
def strip (s : String) : List Char :=
  let outer (c : Char) : Bool := c.toNat ≤ 0x20
  (Text.dropTailWhile outer (s.toList.dropWhile outer)).filter fun c =>
    c != '\t' && c != '\n' && c != '\r'

/-- Checks a host with its port, both of which may be empty. -/
def isHostPort (cs : List Char) : Bool :=
  let isPort (cs : List Char) : Bool :=
    cs.isEmpty || (cs.all Char.isDigit && Text.digitsValue cs ≤ 65535)
  match cs with
  | '[' :: rest =>
    match Text.splitAtFirst ']' rest with
    | (inner, some []) => inner.all fun c => (Text.hexValue? c).isSome || c == ':' || c == '.'
    | (inner, some (':' :: port)) =>
      isPort port && inner.all fun c => (Text.hexValue? c).isSome || c == ':' || c == '.'
    | _ => false
  | cs =>
    match Text.splitAtFirst ':' cs with
    | (host, none) => !host.any isForbidden
    | (host, some port) => !host.isEmpty && !host.any isForbidden && isPort port

/-- Checks the text of an address. -/
def check (s : String) : Except AddressError Unit :=
  match Text.splitAtFirst ':' (strip s) with
  | (_, none) => .error .unreadable
  | (scheme, some rest) =>
    let scheme := String.ofList (scheme.map Char.toLower)
    if ¬schemes.contains scheme then .error .unreadable
    else if localSchemes.contains scheme then .ok ()
    else
      match rest with
      | '/' :: '/' :: rest =>
        let authority := rest.takeWhile fun c => c != '/' && c != '?' && c != '#'
        let path := (rest.drop authority.length).takeWhile fun c => c != '?' && c != '#'
        let hostPort := (authority.reverse.takeWhile (· != '@')).reverse
        let database := Text.dropTailWhile (· == '/') (path.dropWhile (· == '/'))
        if ¬isHostPort hostPort then .error .unreadable
        else if hostPort.isEmpty then .error .noHost
        else if database.isEmpty ∨ (database.length ≤ 18 ∧ database.all Char.isDigit) then .ok ()
        else .error .database
      | _ => .error .noHost

end RemoteAddress

end TenantGateway.RateLimit
