import OptimizrActions.Lib.Host
import OptimizrActions.Lib.Prog
import OptimizrActions.Lib.Url
import OptimizrActions.Oci.Layout

/-! The registry client of the layout publisher, against a peer that may answer anything. -/

namespace OptimizrActions.Oci

open Prog Url

abbrev Headers := List (String × String)

/-- Header names are compared without regard to case. -/
def Headers.get (headers : Headers) (name : String) : Option String :=
  (headers.find? fun h => Text.lower h.1 = Text.lower name).map (·.2)

/-- What comes back for one request. -/
inductive Reply where
  | failed (message : String)
  | response (status : Nat) (headers : Headers) (body : List UInt8)

/-- What a request is for. -/
inductive Operation where
  | ping
  | token
  | headBlob (digest : String)
  | startUpload (digest : String)
  | putBlob (digest : String)
  | putManifest (reference : String)
  | headManifest (reference : String)
  deriving DecidableEq, Repr

structure Request where
  operation : Operation
  method : String
  url : Chars
  authorization : Option String
  headers : Headers
  body : Option (List UInt8)

/-- A request that was sent, and its reply. -/
structure Exchange where
  request : Request
  reply : Reply

/-- The events of a push, in order. -/
inductive Event where
  | exchange (x : Exchange)
  | refresh

/-- The peer sees all that happened before a request. -/
abbrev Registry := List Event → Request → Reply

structure Challenge where
  scheme : String
  params : List (String × String)

def Challenge.get (c : Challenge) (name : String) : String :=
  ((c.params.reverse.find? (·.1 = name)).map (·.2)).getD ""

/-- The fields of `_RegistryClient` that do not change. -/
structure Config where
  host : Host
  registry : Registry
  base : Chars
  repository : String
  basic : String
  maxAuthRetries : Nat

structure Client where
  authorization : Option String := none
  challenge : Option Challenge := none
  authRefreshes : Nat := 0
  events : List Event := []

/-- The exceptions: `_Unauthorized`, and everything that ends the push.  The last
is raised by no run: it stands for a loop that goes on forever. -/
inductive Stop where
  | unauthorized
  | error (message : String)
  | endless
  deriving DecidableEq, Repr

abbrev Push := Prog Client Stop

def raise {α : Type} (message : String) : Push α := throw (.error message)

section

variable (cfg : Config)

/-- `_raw`: a URL that cannot be opened raises before anything is sent. -/
def raw (request : Request) : Push (Nat × Headers × List UInt8) := do
  if (destination request.url).isNone then raise "URL cannot be opened"
  else do
    let client ← get
    let reply := cfg.registry client.events request
    modify fun c => { c with events := c.events ++ [.exchange ⟨request, reply⟩] }
    match reply with
    | .failed message => raise message
    | .response status headers body => pure (status, headers, body)

/-- The characters of `\\w`; header values are Latin-1 text. -/
def isWord (c : Char) : Bool :=
  c.isAlphanum || c = '_' || c.toNat ∈ [0xaa, 0xb2, 0xb3, 0xb5, 0xb9, 0xba, 0xbc, 0xbd, 0xbe] ||
    (0xc0 ≤ c.toNat && c.toNat ≤ 0xff && c.toNat ≠ 0xd7 && c.toNat ≠ 0xf7)

/-- `re.findall(r'(\\w+)="([^"]*)"', params)`, for at most `fuel` steps. -/
def findParams : Nat → Chars → List (String × String)
  | 0, _ => []
  | _, [] => []
  | fuel + 1, c :: cs =>
    match (c :: cs).takeWhile isWord, (c :: cs).dropWhile isWord with
    | w :: ws, '=' :: '"' :: rest =>
      if '"' ∈ rest then
        (String.ofList (w :: ws), String.ofList (rest.takeWhile (· ≠ '"'))) ::
          findParams fuel ((rest.dropWhile (· ≠ '"')).drop 1)
      else findParams fuel cs
    | _, _ => findParams fuel cs

def parseChallenge (header : String) : Challenge :=
  let (scheme, params) := KeyValue.cut ' ' header.toList
  ⟨String.ofList (Url.lower scheme), findParams params.length params⟩

def realmPrefixes : List Chars :=
  ["https://".toList, "http://127.0.0.1".toList, "http://localhost".toList]

def path (suffix : String) : Chars := cfg.base ++ suffix.toList

def tokenUrl (challenge : Challenge) : Chars :=
  (challenge.get "realm").toList ++ '?' :: urlencode
    [("service".toList, (challenge.get "service").toList),
      ("scope".toList, ("repository:" ++ cfg.repository ++ ":pull,push").toList)]

/-- `payload.get("token") or payload.get("access_token")`, when it is text. -/
def tokenOf (payload : Mapping) : Option String :=
  let token := if (payload.get "token").truthy then payload.get "token"
    else payload.get "access_token"
  match token with
  | .str s => if s = "" then none else some s
  | _ => none

def pingRequest : Request := ⟨.ping, "GET", path cfg "/v2/", none, [], none⟩

def tokenRequest (challenge : Challenge) : Request :=
  ⟨.token, "GET", tokenUrl cfg challenge, some cfg.basic, [], none⟩

def readToken (body : List UInt8) : Push String :=
  match cfg.host.loads body with
  | some (.obj payload) =>
    match tokenOf payload with
    | some token => pure token
    | none => raise "registry token response did not contain a token"
  | some _ => raise "registry token response has no fields"
  | none => raise "registry token response is not JSON"

/-- What the reply to the first request asks for. -/
def offeredChallenge (status : Nat) (headers : Headers) : Challenge :=
  let header := if status = 401 then (headers.get "WWW-Authenticate").getD "" else ""
  if header = "" then ⟨"none", []⟩ else parseChallenge header

/-- The challenge in force, asked for when there is none yet. -/
def currentChallenge : Push Challenge := do
  let client ← get
  match client.challenge with
  | some challenge => pure challenge
  | none => do
    let (status, headers, _) ← raw cfg (pingRequest cfg)
    modify fun c => { c with challenge := some (offeredChallenge status headers) }
    pure (offeredChallenge status headers)

def setAuthorization (authorization : Option String) : Push Unit :=
  modify fun c => { c with authorization }

def fetchToken (challenge : Challenge) : Push Unit := do
  ensure (realmPrefixes.any fun p => p.isPrefixOf (challenge.get "realm").toList)
    (.error "registry token realm must use https")
  let (status, _, body) ← raw cfg (tokenRequest cfg challenge)
  ensure (status = 200) (.error "registry token request failed")
  let token ← readToken cfg body
  setAuthorization (some ("Bearer " ++ token))

def authenticate : Push Unit := do
  let challenge ← currentChallenge cfg
  if challenge.scheme = "basic" then setAuthorization (some cfg.basic)
  else if challenge.scheme ≠ "bearer" then setAuthorization none
  else fetchToken cfg challenge

def renewChallenge (headers : Headers) : Push Unit :=
  match headers.get "WWW-Authenticate" with
  | some header =>
    if header = "" then pure ()
    else modify fun c => { c with challenge := some (parseChallenge header) }
  | none => pure ()

/-- What happens on a 401 before the request is sent again. -/
def refresh (headers : Headers) : Push Unit := do
  let client ← get
  ensure (client.authRefreshes < cfg.maxAuthRetries)
    (.error "returned HTTP 401 after the credential refreshes")
  modify fun c =>
    { c with authRefreshes := c.authRefreshes + 1, events := c.events ++ [.refresh] }
  renewChallenge headers
  authenticate cfg

/-- The loop of `request`. -/
def requestLoop (operation : Operation) (method : String) (url : Chars) (headers : Headers)
    (body : Option (List UInt8)) (expected : List Nat) (retryInPlace : Bool) :
    Nat → Push (Nat × Headers)
  | 0 => throw .endless
  | fuel + 1 => do
    let client ← get
    let authorization := client.authorization.filter (· ≠ "")
    let (status, responseHeaders, _) ←
      raw cfg ⟨operation, method, url, authorization, headers, body⟩
    if status ≠ 401 then do
      ensure (status ∈ expected) (.error (method ++ " returned an unexpected status"))
      pure (status, responseHeaders)
    else do
      refresh cfg responseHeaders
      if retryInPlace then
        requestLoop operation method url headers body expected retryInPlace fuel
      else throw .unauthorized

/-- One try more than there are refreshes. -/
def tries : Nat := cfg.maxAuthRetries + 1

def requestUrl (pathOrUrl : Chars) : Chars :=
  if "://".toList <:+: pathOrUrl then pathOrUrl else cfg.base ++ pathOrUrl

def request (operation : Operation) (method : String) (pathOrUrl : Chars) (headers : Headers)
    (body : Option (List UInt8)) (expected : List Nat) (retryInPlace : Bool) :
    Push (Nat × Headers) :=
  requestLoop cfg operation method (requestUrl cfg pathOrUrl) headers body expected retryInPlace
    (tries cfg)

def registryPath (suffix : String) : Chars := ("/v2/" ++ cfg.repository ++ suffix).toList

/-- `f"{location}{separator}digest={quote(digest)}"` -/
def uploadUrl (location : Chars) (digest : String) : Chars :=
  location ++ (if '?' ∈ location then '&' else '?') :: "digest=".toList ++ quote digest.toList

def uploadBlob (digest : String) (data : List UInt8) : Push Unit := do
  let (_, headers) ← request cfg (.startUpload digest) "POST" (registryPath cfg "/blobs/uploads/")
    [] (some []) [202] false
  let location := (headers.get "Location").getD ""
  ensure (location ≠ "") (.error "registry did not return an upload location")
  let location := urljoin (path cfg "/") location.toList
  ensure ((urlsplit location []).netloc = (urlsplit cfg.base []).netloc)
    (.error "registry upload location points to another host")
  let _ ← request cfg (.putBlob digest) "PUT" (uploadUrl location digest)
    [("Content-Type", "application/octet-stream"), ("Content-Length", toString data.length)]
    (some data) [201] false
  pure ()

/-- The loop of `push_blob`. -/
def uploadLoop (digest : String) (data : List UInt8) : Nat → Push Unit
  | 0 => throw .endless
  | fuel + 1 =>
    tryCatch (uploadBlob cfg digest data) fun stop =>
      match stop with
      | .unauthorized => uploadLoop digest data fuel
      | stop => throw stop

def pushBlob (digest : String) (data : List UInt8) : Push Unit := do
  let (status, _) ← request cfg (.headBlob digest) "HEAD" (registryPath cfg ("/blobs/" ++ digest))
    [] none [200, 302, 307, 404] true
  if status ≠ 404 then pure ()
  else uploadLoop cfg digest data (tries cfg)

def pushManifest (reference : String) (node : Node) : Push Unit := do
  let (_, headers) ← request cfg (.putManifest reference) "PUT"
    (registryPath cfg ("/manifests/" ++ reference)) [("Content-Type", node.mediaType)]
    (some node.data) [201] true
  let reported := (headers.get "Docker-Content-Digest").getD ""
  ensure (reported = "" ∨ reported = node.digest)
    (.error "registry stored manifest with another digest")

def verifyTag (tag : String) (node : Node) : Push Unit := do
  let (_, headers) ← request cfg (.headManifest tag) "HEAD" (registryPath cfg ("/manifests/" ++ tag))
    [("Accept", node.mediaType)] none [200] true
  ensure (headers.get "Docker-Content-Digest" = some node.digest)
    (.error "published tag does not resolve to the digest")

end

end OptimizrActions.Oci
