import ClusterPower.Text.Search

/-!
The target of a request as a service receives it: a path with a query, an
absolute address, an authority alone, or a star.
-/

namespace ClusterPower.Http

/-- A request target in its parts. A fragment is never kept. -/
structure RequestUri where
  scheme : Option String := none
  authority : Option String := none
  path : String := ""
  query : Option String := none
deriving DecidableEq, Repr, Inhabited

namespace RequestUri

/-! ## Characters -/

def isOneOf (set : String) (character : Char) : Bool :=
  set.toList.contains character

def isPathCharacter (character : Char) : Bool :=
  character.isAlphanum || isOneOf "!\"$%&'()*+,-./:;=@[\\]^_\x7b|\x7d~" character

def isQueryCharacter (character : Char) : Bool :=
  character.isAlphanum || isOneOf "!$%&'()*+,-./:;=?@[\\]^_`\x7b|\x7d~" character

def isSchemeCharacter (character : Char) : Bool :=
  character.isAlphanum || isOneOf "+-.~" character

def isAuthorityCharacter (character : Char) : Bool :=
  character.isAlphanum || isOneOf "!$&'()*+,-.;=_~" character

/-! ## Paths -/

def pathAndQuery? (characters : List Char) : Option (List Char × Option (List Char)) :=
  let characters := characters.takeWhile (· != '#')
  let path := characters.takeWhile (· != '?')
  let query :=
    match characters.dropWhile (· != '?') with
    | [] => none
    | _ :: query => some query
  if path.all isPathCharacter && (query.getD []).all isQueryCharacter then some (path, query)
  else none

def withPath (scheme authority : Option String) (characters : List Char) :
    Option RequestUri :=
  (pathAndQuery? characters).map fun (path, query) =>
    { scheme, authority
      path := if path.isEmpty then "/" else String.ofList path
      query := query.map String.ofList }

/-! ## Authorities -/

def endsAuthority (character : Char) : Bool :=
  character == '/' || character == '?' || character == '#'

def mostColons : Nat := 8

/-- What has been seen of an authority. Colons and percent signs are forgotten at
the end of credentials and at the end of an address in brackets. -/
structure AuthorityScan where
  opened : Bool := false
  closed : Bool := false
  colons : Nat := 0
  escaped : Bool := false
deriving DecidableEq, Repr

namespace AuthorityScan

def settled (scan : AuthorityScan) : AuthorityScan :=
  { scan with colons := 0, escaped := false }

def step? (scan : AuthorityScan) (character : Char) : Option AuthorityScan :=
  match character with
  | ':' => if scan.colons < mostColons then some { scan with colons := scan.colons + 1 } else none
  | '%' => some { scan with escaped := true }
  | '@' => some scan.settled
  | '[' => if scan.opened || scan.escaped then none else some { scan with opened := true }
  | ']' =>
    if scan.opened && !scan.closed then some { scan.settled with closed := true } else none
  | _ => if isAuthorityCharacter character then some scan else none

/-- Brackets come in pairs; behind the last sign there is at most one colon, that of
the port, and no percent sign. -/
def isWhole (scan : AuthorityScan) : Bool :=
  scan.opened == scan.closed && scan.colons ≤ 1 && !scan.escaped

end AuthorityScan

def isAuthority (characters : List Char) : Bool :=
  !characters.isEmpty && characters.getLast? != some '@' &&
    (characters.foldlM AuthorityScan.step? {}).any AuthorityScan.isWhole

example : isAuthority "u%41:p@[::1%25a]:80".toList = true := by decide +kernel

example : isAuthority "h%41".toList = false := by decide +kernel

/-! ## Schemes -/

def webSchemes : List String := ["http", "https"]

def keptScheme (scheme : List Char) : String :=
  let lowered := String.ofList (scheme.map Char.toLower)
  if webSchemes.contains lowered then lowered else String.ofList scheme

def longestScheme : Nat := 64

def isScheme (characters : List Char) : Bool :=
  characters.all isSchemeCharacter && characters.length ≤ longestScheme

def splitScheme? (characters : List Char) : Option (List Char × List Char) :=
  match characters.dropWhile (· != ':') with
  | ':' :: '/' :: '/' :: rest => some (characters.takeWhile (· != ':'), rest)
  | _ => none

/-! ## Whole targets -/

def absolute? (scheme : List Char) (characters : List Char) : Option RequestUri :=
  let authority := characters.takeWhile fun character => !endsAuthority character
  let rest := characters.dropWhile fun character => !endsAuthority character
  if isScheme scheme && isAuthority authority then
    withPath (some (keptScheme scheme)) (some (String.ofList authority)) rest
  else none

def longest : Nat := 65534

def parse? (text : String) : Option RequestUri :=
  if longest < text.utf8ByteSize then none
  else
    match text.toList with
    | [] => none
    | ['*'] => some { path := "*" }
    | '/' :: rest => withPath none none ('/' :: rest)
    | characters =>
      match splitScheme? characters with
      | some (scheme, rest) => absolute? scheme rest
      | none =>
        if isAuthority characters then some { authority := some (String.ofList characters) }
        else none

/-! ## Writing -/

def text (uri : RequestUri) : String :=
  (uri.scheme.map (· ++ "://")).getD "" ++ uri.authority.getD "" ++ uri.path ++
    (uri.query.map ("?" ++ ·)).getD ""

example : (parse? "HTTP://Host:80?a=1#b").map text = some "http://Host:80/?a=1" := by
  decide +kernel

example : parse? "/a b" = none := by decide +kernel

end RequestUri

end ClusterPower.Http
