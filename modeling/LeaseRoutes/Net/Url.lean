import LeaseRoutes.Net.Host
/-!
Addresses of web servers. A text is read as browsers read it: white space around it, tabs and line
breaks are dropped, back slashes count as slashes, the host may be an IPv4 address in any of its
old forms, and dots in the path are resolved. What is written is the one normal form.
-/

namespace LeaseRoutes

/-- An address with the scheme `http`, or `https` if it is `secure`. All parts stand as they are
written; the path has its leading slash, and the number after the host is absent if it is the
usual one of the scheme. -/
structure Url where
  secure : Bool
  user : String
  password : String
  host : String
  portNumber : Option Nat
  path : String
  query : Option String
  fragment : Option String
  deriving DecidableEq, Repr

/-- A well-formed address of any scheme. Not all of them have a host. -/
structure AnyUrl where
  scheme : String
  user : String
  password : String
  host : Option String
  portNumber : Option Nat
  path : String
  query : Option String
  fragment : Option String
  deriving DecidableEq, Repr

/-- The address, if it is one of the web: with the scheme `http` or `https` and a host. -/
def AnyUrl.web? (u : AnyUrl) : Option Url :=
  if u.scheme = "http" ∨ u.scheme = "https" then
    u.host.map fun host =>
      ⟨u.scheme = "https", u.user, u.password, host, u.portNumber, u.path, u.query, u.fragment⟩
  else none

namespace Url

open Host

/-! ## Authorities -/

/-- What is known of a scheme: whether back slashes count as slashes and hosts as domain names. -/
inductive Kind
  | web (secure : Bool)
  | special (usual : Nat)
  | file
  | other
  deriving DecidableEq, Repr

def Kind.ofScheme (scheme : String) : Kind :=
  match scheme with
  | "http" => .web false
  | "https" => .web true
  | "ws" => .special 80
  | "wss" => .special 443
  | "ftp" => .special 21
  | "file" => .file
  | _ => .other

def Kind.isSpecial : Kind → Bool
  | .other => false
  | .web _ | .special _ | .file => true

def Kind.usualNumber : Kind → Option Nat
  | .web secure => some (if secure then 443 else 80)
  | .special usual => some usual
  | .file | .other => none

structure Authority where
  user : List Char
  password : List Char
  host : List Char
  portNumber : Option Nat

/-- Whether a character ends the authority. -/
def endsAuthority (k : Kind) (c : Char) : Bool :=
  c == '/' || c == '?' || c == '#' || (c == '\\' && k.isSpecial)

/-- The host and what follows it. Within brackets colons belong to the host. -/
def splitHost (k : Kind) (bracketed : Bool) : List Char → List Char × List Char
  | [] => ([], [])
  | c :: rest =>
    if (c == ':' && !bracketed) || endsAuthority k c then ([], c :: rest)
    else
      let (host, rest) := splitHost k (c == '[' || (bracketed && c != ']')) rest
      (c :: host, rest)

/-- Digits up to the end of the authority. No digits are no number, and the usual one is left
out. -/
def portNumberAt (k : Kind) (cs : List Char) : Except UrlFault (Option Nat × List Char) :=
  let ds := cs.takeWhile fun c => (Text.decDigit? c).isSome
  let rest := cs.drop ds.length
  let value := ds.foldl (fun n c => min 65536 (10 * n + (Text.decDigit? c).getD 0)) 0
  if 65535 < value then .error .portNumber
  else match rest with
    | [] => .ok (unusual ds value, [])
    | c :: rest =>
      if ['/', '\\', '?', '#'].contains c then .ok (unusual ds value, c :: rest)
      else .error .portNumber
where
  unusual (ds : List Char) (value : Nat) : Option Nat :=
    if ds.isEmpty ∨ k.usualNumber = some value then none else some value

/-- User and password, as they are written. -/
def userOf (cs : List Char) : List Char × List Char :=
  match Text.pieces ':' cs with
  | [] => ([], [])
  | user :: rest => (escape userSet user, escape userSet (Text.join ':' rest))

/-- Reads the authority and gives what follows it. -/
def authorityAt (k : Kind) (cs : List Char) : Except UrlFault (Authority × List Char) := do
  let inside := cs.takeWhile fun c => !endsAuthority k c
  let outside := cs.drop inside.length
  let parts := Text.pieces '@' inside
  let last := parts.getLast?.getD []
  let userinfo := Text.join '@' parts.dropLast
  if 1 < parts.length ∧ userinfo.isEmpty ∧ last.isEmpty ∧ !outside.isEmpty then throw .emptyHost
  let (user, password) := userOf userinfo
  let (name, rest) := splitHost k false (last ++ outside)
  if name.isEmpty ∧ k.isSpecial then throw .emptyHost
  let name ← if k.isSpecial then ofDomain name else ofOpaque name
  if name.isEmpty ∧ rest.head? = some ':' then throw .emptyHost
  let (number, rest) ← match rest with
    | ':' :: rest => portNumberAt k rest
    | rest => .ok (none, rest)
  if name.isEmpty ∧ !(user.isEmpty ∧ password.isEmpty) then throw .emptyHost
  return (⟨user, password, name, number⟩, rest)

/-! ## Paths -/

/-- A full stop may be written with a percent sign. -/
def dots (cs : List Char) : Option Nat :=
  match cs with
  | [] => some 0
  | '.' :: rest | '%' :: '2' :: 'e' :: rest | '%' :: '2' :: 'E' :: rest => (dots rest).map (· + 1)
  | _ => none

/-- A drive letter is never left by going up. -/
def isDrive : List Char → Bool
  | [c, d] => c.isAlpha && (d == ':' || d == '|')
  | _ => false

def goUp : List (List Char) → List (List Char)
  | [] => []
  | d :: ds => if isDrive d then d :: ds else ds

/-- Resolves dots; `above` are the segments before, the nearest first. -/
def resolve (above : List (List Char)) : List (List Char) → List (List Char)
  | [] => above.reverse
  | [last] =>
    match dots last with
    | some 1 => ([] :: above).reverse
    | some 2 => ([] :: goUp above).reverse
    | _ => (last :: above).reverse
  | segment :: rest =>
    match dots segment with
    | some 1 => resolve above rest
    | some 2 => resolve (goUp above) rest
    | _ => resolve (segment :: above) rest

/-- The segments of a path. -/
def segments (cs : List Char) : List (List Char) :=
  Text.pieces '/' ((escape pathSet cs).map fun c => if c = '\\' then '/' else c)

/-- Reads path, query and fragment into an address. The path leads on from the segments `above`. -/
def finish (u : Url) (above : List (List Char)) (cs : List Char) : Url :=
  let path := cs.takeWhile fun c => c != '?' && c != '#'
  let rest := cs.drop path.length
  let marked (set : List Char) (cs : List Char) : String := String.ofList (escape set cs)
  let (query, fragment) : Option String × Option String := match rest with
    | '?' :: rest =>
      let query := rest.takeWhile (· != '#')
      (some (marked querySet query), match rest.drop query.length with
        | _ :: fragment => some (marked fragmentSet fragment)
        | [] => none)
    | _ :: fragment => (none, some (marked fragmentSet fragment))
    | [] => (none, none)
  { u with
    path := String.ofList ('/' :: Text.join '/' (resolve above (segments path)))
    query := query
    fragment := fragment }

def isSlash (c : Char) : Bool := c == '/' || c == '\\'

/-- Reads what follows the slashes before the authority of a web address. -/
def webAt (secure : Bool) (cs : List Char) : Except UrlFault Url := do
  let (a, rest) ← authorityAt (.web secure) cs
  let u : Url := ⟨secure, String.ofList a.user, String.ofList a.password, String.ofList a.host,
    a.portNumber, "", none, none⟩
  match rest with
  | c :: path => return finish u [] (if isSlash c then path else c :: path)
  | [] => return finish u [] []

/-! ## Texts -/

/-- White space and control characters around a text do not count, nor do tabs and line breaks in
it. -/
def strip (s : String) : List Char :=
  let outer (c : Char) : Bool := c.toNat ≤ 0x20
  (((s.toList.dropWhile outer).reverse.dropWhile outer).reverse).filter fun c =>
    !(c == '\t' || c == '\n' || c == '\r')

/-- The scheme in small letters and what follows its colon. -/
def scheme? (cs : List Char) : Option (String × List Char) :=
  let name := cs.takeWhile fun c => c.isAlphanum || c == '+' || c == '-' || c == '.'
  match cs.drop name.length, name.head? with
  | ':' :: rest, some c =>
    if c.isAlpha then some (String.ofList (name.map Char.toLower), rest) else none
  | _, _ => none

/-- Whether an address that is none of the web is well-formed. -/
def checkOther (k : Kind) (cs : List Char) : Except UrlFault Unit :=
  match k, cs with
  | .file, a :: b :: rest =>
    if isSlash a && isSlash b then
      let name := rest.takeWhile fun c => !endsAuthority .file c
      if name.isEmpty || isDrive name then .ok () else (ofDomain name).map fun _ => ()
    else .ok ()
  | .other, '/' :: '/' :: rest => (authorityAt .other rest).map fun _ => ()
  | .special usual, cs => (authorityAt (.special usual) (cs.dropWhile isSlash)).map fun _ => ()
  | _, _ => .ok ()

/-- Reads what follows a scheme; `none` is a well-formed address that is none of the web. -/
def afterScheme (scheme : String) (rest : List Char) : Except UrlFault (Option Url) :=
  match Kind.ofScheme scheme with
  | .web secure => (webAt secure (rest.dropWhile isSlash)).map some
  | k => (checkOther k rest).map fun _ => none

def ofText (s : String) : Except UrlFault (Option Url) :=
  match scheme? (strip s) with
  | some (scheme, rest) => afterScheme scheme rest
  | none => .error .relative

/-- The segments of the path without the last, the nearest first. -/
def above (u : Url) : List (List Char) := (Text.pieces '/' (u.path.toList.drop 1)).reverse.tail

/-- Reads a reference from an address without scheme. -/
def relative (u : Url) (cs : List Char) : Except UrlFault Url :=
  match cs with
  | [] => .ok { u with fragment := none }
  | '#' :: rest => .ok { u with fragment := some (String.ofList (escape fragmentSet rest)) }
  | '?' :: rest => .ok { finish u [] ('?' :: rest) with path := u.path }
  | '/' :: '/' :: rest => webAt u.secure rest
  | c :: rest =>
    if isSlash c then
      if rest.head?.any isSlash then webAt u.secure (rest.dropWhile isSlash)
      else .ok (finish u [] rest)
    else .ok (finish u u.above (c :: rest))

/-- Reads a reference that stands in the document of an address. -/
def join (u : Url) (reference : String) : Except UrlFault (Option Url) :=
  let cs := strip reference
  match scheme? cs with
  | some (scheme, rest) =>
    if Kind.ofScheme scheme = .web u.secure ∧ (rest.takeWhile isSlash).length < 2 then
      (u.relative rest).map some
    else afterScheme scheme rest
  | none => (u.relative cs).map some

def scheme (u : Url) : String := if u.secure then "https" else "http"

def toAny (u : Url) : AnyUrl :=
  ⟨u.scheme, u.user, u.password, some u.host, u.portNumber, u.path, u.query, u.fragment⟩

/-- Reads an address of any scheme. Of one that is none of the web only the scheme is kept. -/
def read (s : String) : Except UrlFault AnyUrl :=
  (ofText s).map fun
    | some u => u.toAny
    | none => ⟨((scheme? (strip s)).map Prod.fst).getD "", "", "", none, none, "", none, none⟩

/-- The number that is connected to. -/
def connectedNumber (u : Url) : Nat := u.portNumber.getD (if u.secure then 443 else 80)

def sameServer (u v : Url) : Bool := u.host = v.host ∧ u.connectedNumber = v.connectedNumber

def text (u : Url) : String :=
  let credentials :=
    if u.user.isEmpty ∧ u.password.isEmpty then ""
    else u.user ++ (if u.password.isEmpty then "" else ":" ++ u.password) ++ "@"
  u.scheme ++ "://" ++ credentials ++ u.host ++
    (u.portNumber.elim "" fun n => ":" ++ Text.decimal n) ++ u.path ++
    (u.query.elim "" ("?" ++ ·)) ++ (u.fragment.elim "" ("#" ++ ·))

end Url

end LeaseRoutes
