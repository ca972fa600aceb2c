import OptimizrActions.Delivery.Executor
import OptimizrActions.Lib.Talk
import OptimizrActions.Lib.Url

/-! The checkout of an exact commit: the remote and the paths that it accepts, its commands, and
the removal of what a failure leaves behind. -/

namespace OptimizrActions.Delivery

open Talk Prog
open Url (Chars SplitUrl urlsplit)

inductive CheckoutQuery where
  /-- `mkdir(mode=0o700)` -/
  | mkdir (path : List String)
  /-- `git -C destination` with these arguments -/
  | git (destination : List String) (arguments : List String)
  | isDir (path : List String)
  | isSymlink (path : List String)
  /-- `shutil.rmtree`, whose errors are ignored -/
  | remove (path : List String)
  deriving DecidableEq

/-- What the machine answers; an answer of another kind than the question is an `OSError`. -/
inductive CheckoutAnswer where
  | done
  | flag (holds : Bool)
  | completed (returncode : Int) (stdout : Option String)
  | osError
  /-- Another exception comes out of the call. -/
  | raises (e : Raised)
  deriving DecidableEq

inductive CheckoutFailure where
  /-- `CheckoutError` -/
  | checkout (message : String)
  | raised (e : Raised)
  deriving DecidableEq

abbrev CheckoutPeer := Peer CheckoutQuery CheckoutAnswer

abbrev Checkout := Talk CheckoutQuery CheckoutAnswer CheckoutFailure

/-- The file system that a checkout finds. -/
structure CheckoutHost extends FileSystem where
  present : List String → Option Bool

section Remote

/-- `[A-Za-z0-9.-]` -/
def isHostChar (c : Char) : Bool := c.isAlphanum || c = '.' || c = '-'

/-- `git@` with a host and a path in name characters -/
def isScpRemote (remote : Chars) : Bool :=
  let (host, path) := KeyValue.cut ':' (remote.drop 4)
  "git@".toList.isPrefixOf remote && host ≠ [] && host.all isHostChar && path ≠ [] &&
    path.all fun c => isNameChar c || c = '/'

/-- The text after the last `@`. -/
def hostinfo (netloc : Chars) : Chars := (netloc.reverse.takeWhile (· ≠ '@')).reverse

/-- The text before the last `@`, where there is one. -/
def userinfo? (netloc : Chars) : Option Chars :=
  if '@' ∈ netloc then some ((netloc.reverse.dropWhile (· ≠ '@')).drop 1).reverse else none

/-- `hostname`, empty where it is `None` -/
def hostname (netloc : Chars) : Chars :=
  if '[' ∈ hostinfo netloc then (KeyValue.cut ']' (KeyValue.cut '[' (hostinfo netloc)).2).1
  else (KeyValue.cut ':' (hostinfo netloc)).1

def hasPassword (netloc : Chars) : Bool := (userinfo? netloc).any fun info => ':' ∈ info

def isValidUrl (parsed : SplitUrl) : Bool :=
  (parsed.scheme = "https".toList || parsed.scheme = "ssh".toList) && hostname parsed.netloc ≠ [] &&
    parsed.path ≠ [] && parsed.query = [] && parsed.fragment = [] &&
    !Text.occursIn "..".toList parsed.path && !parsed.path.contains '\\' &&
    !hasPassword parsed.netloc &&
    !(parsed.scheme = "https".toList && (userinfo? parsed.netloc).isSome)

/-- `_validate_remote`; `refused` are the addresses on which `urlsplit` raises (brackets,
normalization). -/
def isRemote (refused : Chars → Bool) (remote : String) : Bool :=
  let cs := remote.toList
  remote ≠ "" && remote = Text.strip remote &&
    !(["-", "ext::", "file:", "file://"].any fun start => start.toList.isPrefixOf cs) &&
    !(cs.any fun c => Text.isSpace c || decide (c.toNat < 32)) &&
    if "https://".toList.isPrefixOf cs || "ssh://".toList.isPrefixOf cs then
      !refused cs && isValidUrl (urlsplit cs [])
    else isScpRemote cs && !Text.occursIn "..".toList cs

end Remote

section

variable (host : CheckoutHost)

/-- `_validate_paths`, the destination -/
def checkoutDestination (spec : CheckoutSpec) : Except CheckoutFailure (List String) :=
  match host.resolve (host.absolute spec.allowedRoot) with
  | none => .error (.checkout "allowed checkout root could not be resolved")
  | some root =>
    match host.isDir root with
    | none => .error (.raised .other)
    | some false => .error (.checkout "allowed checkout root must be a directory")
    | some true =>
      match host.anySymlink (host.absolute spec.destination) with
      | none => .error (.raised .other)
      | some true => .error (.checkout "checkout path must not contain symlink components")
      | some false =>
        match host.resolveMissing (host.absolute spec.destination) with
        | none => .error (.checkout "checkout destination could not be resolved")
        | some destination =>
          if root = destination ∨ ¬root <+: destination then
            .error (.checkout "checkout destination must remain below the allowed root")
          else match host.present destination with
            | none => .error (.raised .other)
            | some true => .error (.checkout "checkout destination must not already exist")
            | some false =>
              match host.isDir destination.dropLast with
              | none => .error (.raised .other)
              | some false => .error (.checkout "checkout destination parent must be a directory")
              | some true => .ok destination

variable (peer : CheckoutPeer)

/-- `_run_git` -/
def runGit (destination arguments : List String) : Checkout String := do
  match ← ask peer (.git destination arguments) with
  | .completed returncode stdout =>
    ensure (returncode = 0) (.checkout "git command failed")
    pure (Text.strip (stdout.getD ""))
  | .raises e => throw (.raised e)
  | _ => throw (.checkout "git command could not be started")

def askCheckoutFlag (query : CheckoutQuery) : Checkout Bool := do
  match ← ask peer query with
  | .flag holds => pure holds
  | .raises e => throw (.raised e)
  | _ => throw (.raised .other)

/-- `_cleanup_created_destination` -/
def cleanupCreatedDestination (destination : List String) : Checkout Unit := do
  if ← askCheckoutFlag peer (.isDir destination) then
    if ← askCheckoutFlag peer (.isSymlink destination) then pure ()
    else
      let _ ← ask peer (.remove destination)
      pure ()
  else pure ()

section

variable (request : DeployRequest)

def fetchArguments : List String := ["fetch", "--no-tags", "--force", "origin", request.trustedRef]

def commitArguments : List String := ["cat-file", "-e", request.candidateSha ++ "^{commit}"]

def ancestorArguments : List String :=
  ["merge-base", "--is-ancestor", request.candidateSha, "FETCH_HEAD"]

def detachArguments : List String := ["checkout", "--detach", "--force", request.candidateSha]

end

/-- The commands of a checkout in the directory that was made for it. -/
def checkoutCommands (spec : CheckoutSpec) (destination : List String) : Checkout CheckoutResult := do
  let request := spec.request
  let _ ← runGit peer destination ["init", "--quiet"]
  let _ ← runGit peer destination ["remote", "add", "origin", spec.remote]
  let _ ← runGit peer destination (fetchArguments request)
  let _ ← runGit peer destination (commitArguments request)
  let _ ← runGit peer destination (ancestorArguments request)
  let _ ← runGit peer destination (detachArguments request)
  let headSha ← runGit peer destination ["rev-parse", "HEAD"]
  ensure (headSha = request.candidateSha)
    (.checkout "checked out HEAD does not match candidate SHA")
  pure ⟨destination, headSha, request.trustedRef⟩

/-- `except CheckoutError` -/
def undoCheckout (destination : List String) : CheckoutFailure → Checkout CheckoutResult
  | .checkout message => do
    cleanupCreatedDestination peer destination
    throw (.checkout message)
  | .raised e => throw (.raised e)

variable (refused : Chars → Bool)

def checkoutExactSha (spec : CheckoutSpec) : Checkout CheckoutResult := do
  ensure (isRemote refused spec.remote = true)
    (.checkout "remote must be an adapter-resolved network Git URL")
  let destination ← ofExcept (checkoutDestination host spec)
  match ← ask peer (.mkdir destination) with
  | .done =>
    tryCatch (checkoutCommands peer spec destination) (undoCheckout peer destination)
  | .raises e => throw (.raised e)
  | _ => throw (.raised .other)

/-- What the executor sees of a checkout. -/
def checkoutRunner (spec : CheckoutSpec) : Except Raised CheckoutValue :=
  match (checkoutExactSha host peer refused spec []).1 with
  | .ok result => .ok (.result (some ⟨true, result.path⟩) (.str result.headSha)
      (.str result.trustedRef))
  | .error (.checkout _) => .error .other
  | .error (.raised e) => .error e

end

end OptimizrActions.Delivery
