import OptimizrActions.Lib.KeyValue
import OptimizrActions.Lib.Text

/-! URLs as `urllib` reads them: `urllib.parse` splits and joins them, while
`urllib.request` and `http.client` decide by their own rules where a request goes. -/

namespace OptimizrActions.Url

open KeyValue (cut)

abbrev Chars := List Char

def lower (cs : Chars) : Chars := cs.flatMap Text.lowerChar

/-! ### `urllib.parse` -/

structure SplitUrl where
  scheme : Chars
  netloc : Chars
  path : Chars
  query : Chars
  fragment : Chars
  deriving DecidableEq, Repr

def isC0OrSpace (c : Char) : Bool := c.toNat ≤ 0x20

def isRemoved (c : Char) : Bool := c = '\t' || c = '\r' || c = '\n'

def isSchemeChar (c : Char) : Bool := c.isAlphanum || c = '+' || c = '-' || c = '.'

def splitScheme (url : Chars) : Option (Chars × Chars) :=
  match url.takeWhile (· ≠ ':'), url.dropWhile (· ≠ ':') with
  | c :: cs, ':' :: rest =>
    if c.isAlpha && (c :: cs).all isSchemeChar then some (lower (c :: cs), rest) else none
  | _, _ => none

def isNetlocEnd (c : Char) : Bool := c = '/' || c = '?' || c = '#'

/-- The parts of an address.  The checks of `urlsplit` that can only raise
(brackets, normalization) are left out. -/
def urlsplit (url defaultScheme : Chars) : SplitUrl :=
  let url := (url.dropWhile isC0OrSpace).filter (!isRemoved ·)
  let (scheme, url) := (splitScheme url).getD (defaultScheme, url)
  let (netloc, url) := match url with
    | '/' :: '/' :: rest => (rest.takeWhile (!isNetlocEnd ·), rest.dropWhile (!isNetlocEnd ·))
    | _ => ([], url)
  let (url, fragment) := cut '#' url
  let (path, query) := cut '?' url
  ⟨scheme, netloc, path, query, fragment⟩

/-- `urlunsplit` for a scheme that has a network location. -/
def urlunsplit (u : SplitUrl) : Chars :=
  let path := if u.path ≠ [] ∧ u.path.head? ≠ some '/' then '/' :: u.path else u.path
  u.scheme ++ ':' :: '/' :: '/' :: u.netloc ++ path ++
    (if u.query = [] then [] else '?' :: u.query) ++
    (if u.fragment = [] then [] else '#' :: u.fragment)

/-- The parameters after a `;` in the last segment. -/
def splitParams (path : Chars) : Chars × Chars :=
  let last := (path.reverse.takeWhile (· ≠ '/')).reverse
  let front := path.take (path.length - last.length)
  (front ++ (cut ';' last).1, (cut ';' last).2)

def joinSlash : List Chars → Chars
  | [] => []
  | [segment] => segment
  | segment :: rest => segment ++ '/' :: joinSlash rest

def resolve (resolved : List Chars) : List Chars → List Chars
  | [] => resolved
  | ['.', '.'] :: rest => resolve resolved.dropLast rest
  | ['.'] :: rest => resolve resolved rest
  | segment :: rest => resolve (resolved ++ [segment]) rest

def isDots (segment : Chars) : Bool := segment = ['.'] || segment = ['.', '.']

def joinPath (basePath path : Chars) : Chars :=
  let parts := KeyValue.splitOn '/' basePath
  let baseParts := if parts.getLast? ≠ some [] then parts.dropLast else parts
  let segments :=
    if path.head? = some '/' then KeyValue.splitOn '/' path
    else match baseParts ++ KeyValue.splitOn '/' path with
      | [] => []
      | [one] => [one]
      | first :: rest =>
        first :: rest.dropLast.filter (· ≠ []) ++ (rest.getLast?.map ([·])).getD []
  let resolved := resolve [] segments
  let joined := joinSlash (if (segments.getLast?.map isDots).getD false then resolved ++ [[]]
    else resolved)
  if joined = [] then ['/'] else joined

def withParams (path params : Chars) : Chars := if params = [] then path else path ++ ';' :: params

/-- `urljoin` on a base with the scheme `http` or `https`: both are relative
schemes with a network location and parameters. -/
def urljoin (base url : Chars) : Chars :=
  if url = [] then base
  else
    let b := urlsplit base []
    let u := urlsplit url b.scheme
    let (basePath, baseParams) := splitParams b.path
    let (path, params) := splitParams u.path
    if u.scheme ≠ b.scheme then url
    else if u.netloc ≠ [] then urlunsplit { u with path := withParams path params }
    else if path = [] ∧ params = [] then
      urlunsplit { u with
        netloc := b.netloc, path := withParams basePath baseParams
        query := if u.query = [] then b.query else u.query }
    else urlunsplit { u with netloc := b.netloc, path := withParams (joinPath basePath path) params }

def hexDigitUpper (n : Nat) : Char := if n < 10 then Char.ofNat (48 + n) else Char.ofNat (55 + n)

def isUnreserved (c : Char) : Bool := c.isAlphanum || c = '_' || c = '.' || c = '-' || c = '~'

def percent (b : UInt8) : Chars := ['%', hexDigitUpper (b.toNat / 16), hexDigitUpper (b.toNat % 16)]

def quoteWith (plain : Char → Bool) (cs : Chars) : Chars :=
  cs.flatMap fun c => if plain c then [c] else (String.singleton c).toUTF8.toList.flatMap percent

def quote (cs : Chars) : Chars := quoteWith (fun c => isUnreserved c || c = '/') cs

def quotePlus (cs : Chars) : Chars :=
  (quoteWith (fun c => isUnreserved c || c = ' ') cs).map fun c => if c = ' ' then '+' else c

def urlencode : List (Chars × Chars) → Chars
  | [] => []
  | [(key, value)] => quotePlus key ++ '=' :: quotePlus value
  | (key, value) :: rest => quotePlus key ++ '=' :: quotePlus value ++ '&' :: urlencode rest

/-! ### `urllib.request` and `http.client` -/

def stripSpace (cs : Chars) : Chars := Text.stripChars cs

/-- A URL without surrounding space, `<…>` and `URL:`. -/
def unwrap (url : Chars) : Chars :=
  let url := stripSpace url
  let url := if url.head? = some '<' ∧ url.getLast? = some '>' then
    stripSpace (url.drop 1).dropLast else url
  if url.take 4 = ['U', 'R', 'L', ':'] then stripSpace (url.drop 4) else url

/-- The text before the last `#`. -/
def splitTag (url : Chars) : Chars :=
  if '#' ∈ url then ((url.reverse.dropWhile (· ≠ '#')).drop 1).reverse else url

def splitType (url : Chars) : Option (Chars × Chars) :=
  match url.takeWhile (fun c => c ≠ '/' && c ≠ ':'), url.dropWhile (fun c => c ≠ '/' && c ≠ ':') with
  | c :: cs, ':' :: rest => some (lower (c :: cs), rest)
  | _, _ => none

def hexValue? (c : Char) : Option Nat :=
  if '0' ≤ c ∧ c ≤ '9' then some (c.toNat - 48)
  else if 'a' ≤ c ∧ c ≤ 'f' then some (c.toNat - 87)
  else if 'A' ≤ c ∧ c ≤ 'F' then some (c.toNat - 55)
  else none

/-- Percent decoding.  A byte outside ASCII stands for itself: the text it is part
of is not ASCII either way. -/
def unquote : Chars → Chars
  | '%' :: a :: b :: rest =>
    match hexValue? a, hexValue? b with
    | some x, some y => Char.ofNat (16 * x + y) :: unquote rest
    | _, _ => '%' :: unquote (a :: b :: rest)
  | c :: rest => c :: unquote rest
  | [] => []

/-- Where a request goes: `https` or not, the host to connect to, and its port when the
URL has one. -/
structure Destination where
  https : Bool
  host : Chars
  port : Option Int
  deriving DecidableEq, Repr

def isControl (c : Char) : Bool := c.toNat ≤ 0x20 || c.toNat = 0x7f

def isHostEnd (c : Char) : Bool := c = ':' || c = ']'

def unbracket (host : Chars) : Chars :=
  if host.head? = some '[' ∧ host.getLast? = some ']' then (host.drop 1).dropLast else host

/-- The host and port of an authority; `none` when the port is not a number. -/
def connectTo (authority : Chars) : Option (Chars × Option Int) :=
  let after := (authority.reverse.takeWhile (!isHostEnd ·)).reverse
  match authority.reverse.dropWhile (!isHostEnd ·) with
  | ':' :: host =>
    if after = [] then some (unbracket host.reverse, none)
    else (Text.int? (String.ofList after)).map fun port => (unbracket host.reverse, some port)
  | _ => some (unbracket authority, none)

/-- The destination of an opened URL; `none` when opening it raises first. -/
def destination (url : Chars) : Option Destination :=
  match splitType (splitTag (unwrap url)) with
  | some (type, '/' :: '/' :: rest) =>
    let authority := unquote (rest.takeWhile (!isNetlocEnd ·))
    let selector := rest.dropWhile (!isNetlocEnd ·)
    if type ≠ "http".toList ∧ type ≠ "https".toList then none
    else if authority = [] ∨ selector.any (fun c => isControl c || 0x80 ≤ c.toNat) then none
    else
      match connectTo authority with
      | none => none
      | some (host, port) =>
        if host.any isControl then none else some ⟨type = "https".toList, host, port⟩
  | _ => none

/-- Named, so that the membership tests below and in the clients share it. -/
instance instLawfulBEqChars : LawfulBEq Chars := inferInstanceAs (LawfulBEq (List Char))

def loopbackHosts : List Chars := ["127.0.0.1".toList, "localhost".toList, "::1".toList]

/-- The request is encrypted or stays on this machine. -/
def Destination.isSafe (d : Destination) : Bool := d.https || d.host ∈ loopbackHosts

example : urljoin "https://r.io/".toList "../v2/x?y#z".toList = "https://r.io/v2/x?y#z".toList := by
  decide +kernel

end OptimizrActions.Url
