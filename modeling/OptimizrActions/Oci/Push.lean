import OptimizrActions.Oci.Graph
import OptimizrActions.Oci.Runs

/-! Pushing a loaded graph: what comes before the tag, and what success means. -/

namespace OptimizrActions.Oci

open Prog Url

/-! ### Arguments -/

/-- `text.rpartition(sep)`, when the separator occurs. -/
def rcut (sep : Char) (cs : Chars) : Option (Chars × Chars) :=
  if sep ∈ cs then
    some (((cs.reverse.dropWhile (· ≠ sep)).drop 1).reverse, (cs.reverse.takeWhile (· ≠ sep)).reverse)
  else none

def isTagStart (c : Char) : Bool := c.isAlphanum || c = '_'

/-- `[A-Za-z0-9_][A-Za-z0-9_.-]{0,127}` -/
def isTag : Chars → Bool
  | [] => false
  | c :: cs =>
    isTagStart c && cs.length ≤ 127 && cs.all fun c => isTagStart c || c = '.' || c = '-'

def isRepositoryChar (c : Char) : Bool := c.isLower || c.isDigit

def isSeparator (c : Char) : Bool := c = '.' || c = '_' || c = '/' || c = '-'

/-- What may follow a separator (or the start), or a character of a name. -/
def isRepositoryFrom (separated : Bool) : Chars → Bool
  | [] => !separated
  | c :: cs =>
    if isRepositoryChar c then isRepositoryFrom false cs
    else !separated && isSeparator c && isRepositoryFrom true cs

/-- Names of lower-case letters and digits with one separator between two of them. -/
def isRepository (cs : Chars) : Bool := isRepositoryFrom true cs

/-- `host/repository:tag` -/
structure ImageRef where
  host : String
  repository : String
  tag : String

def parseImageRef (imageRef : String) : Except String ImageRef := do
  let (host, remainder) := KeyValue.cut '/' imageRef.toList
  require (host ≠ [] ∧ remainder ≠ [] ∧ ('.' ∈ host ∨ ':' ∈ host ∨ host = "localhost".toList))
    "image reference must include a registry host and repository"
  match rcut ':' remainder with
  | none => .error "image reference must end with a valid tag"
  | some (repository, tag) => do
    require ('/' ∉ tag ∧ isTag tag) "image reference must end with a valid tag"
    require (isRepository repository) "image repository contains unsupported characters"
    pure ⟨String.ofList host, String.ofList repository, String.ofList tag⟩

def maxAuthRetriesLimit : Int := 5

/-- The arguments of `push_oci_layout` besides the layout. -/
structure Arguments where
  imageRef : String
  expectedDigest : String
  username : String
  password : String
  maxAuthRetries : Int
  plainHttp : Bool

def plainHttpHosts : List Chars := ["127.0.0.1".toList, "localhost".toList, "[::1]".toList]

/-- `host.rsplit(":", 1)[0]` -/
def withoutPort (host : Chars) : Chars := ((rcut ':' host).map (·.1)).getD host

def basicAuthorization (username password : String) : String :=
  "Basic " ++ String.ofList (b64encode (username ++ ":" ++ password).toUTF8.toList)

/-- What is known before the first request. -/
structure Prepared where
  cfg : Config
  tag : String
  graph : Graph

structure PushResult where
  digest : String
  authRefreshes : Nat

section

variable (host : Host) (registry : Registry) (layout : Layout)

def prepare (args : Arguments) : Except String Prepared := do
  require (isDigest args.expectedDigest)
    "expected digest is not a valid immutable sha256 digest"
  require (0 ≤ args.maxAuthRetries ∧ args.maxAuthRetries ≤ maxAuthRetriesLimit)
    "max_auth_retries must be between 0 and 5"
  require (args.username ≠ "" ∧ args.password ≠ "") "registry credentials are required"
  let image ← parseImageRef args.imageRef
  require (args.plainHttp → withoutPort image.host.toList ∈ plainHttpHosts)
    "plain HTTP is only allowed for loopback test registries"
  let graph ← loadGraph host layout args.expectedDigest
  let scheme := if args.plainHttp then "http" else "https"
  pure
    { cfg :=
        { host, registry
          base := (scheme ++ "://" ++ image.host).toList
          repository := image.repository
          basic := basicAuthorization args.username args.password
          maxAuthRetries := args.maxAuthRetries.toNat }
      tag := image.tag
      graph }

def ofExcept {α : Type} : Except String α → Push α
  | .ok a => pure a
  | .error message => raise message

def pushGraph (p : Prepared) : Push PushResult := do
  authenticate p.cfg
  forEach p.graph.blobs fun digest => do
    let data ← ofExcept (readBlob p.cfg.host layout digest)
    pushBlob p.cfg digest data
  forEach p.graph.manifests fun node => pushManifest p.cfg node.digest node
  pushManifest p.cfg p.tag p.graph.root
  verifyTag p.cfg p.tag p.graph.root
  let client ← get
  pure ⟨p.graph.root.digest, client.authRefreshes⟩

def pushOciLayout (args : Arguments) : Push PushResult := do
  let p ← ofExcept (prepare host registry layout args)
  pushGraph layout p

end

/-! ### The run -/

/-- The registry has taken these blobs and child manifests. -/
def Taken (blobs : List String) (manifests : List Node) (events : List Event) : Prop :=
  (∀ d ∈ blobs, Acknowledged events d) ∧
    ∀ n ∈ manifests, Answered events (.putManifest n.digest) 201

/-- The manifest of the tag is sent only after the content is complete. -/
def TagAfterContent (g : Graph) (tag : String) (events : List Event) : Prop :=
  ∀ before x, before ++ [.exchange x] <+: events →
    x.request.operation = .putManifest tag → Taken g.blobs g.manifests before

theorem TagAfterContent.snoc {g : Graph} {tag : String} {events : List Event} {e : Event}
    (h : TagAfterContent g tag events)
    (last : ∀ x, e = .exchange x → x.request.operation = .putManifest tag →
      Taken g.blobs g.manifests events) :
    TagAfterContent g tag (events ++ [e]) := by
  intro before x isPrefix op
  cases List.prefix_concat_iff.mp isPrefix with
  | inl whole =>
    obtain ⟨same, eq⟩ := List.append_inj' whole rfl
    rw [same]
    exact last x (List.singleton_inj.mp eq).symm op
  | inr earlier => exact h before x earlier op

theorem Answered.mono {events : List Event} {operation : Operation} {status : Nat}
    (h : Answered events operation status) (more : List Event) :
    Answered (events ++ more) operation status := by
  obtain ⟨request, headers, body, op, mem⟩ := h
  exact ⟨request, headers, body, op, List.mem_append_left _ mem⟩

theorem Acknowledged.mono {events : List Event} {digest : String} (h : Acknowledged events digest)
    (more : List Event) : Acknowledged (events ++ more) digest := by
  cases h with
  | inl held =>
    obtain ⟨status, mem, answered⟩ := held
    exact .inl ⟨status, mem, answered.mono more⟩
  | inr created => exact .inr (created.mono more)

theorem Taken.blob {blobs : List String} {events : List Event} {digest : String}
    (h : Taken blobs [] events) (new : Acknowledged events digest) :
    Taken (blobs ++ [digest]) [] events := by
  refine ⟨fun d mem => ?_, nofun⟩
  cases List.mem_append.mp mem with
  | inl old => exact h.1 d old
  | inr last => exact List.mem_singleton.mp last ▸ new

theorem Taken.manifest {blobs : List String} {manifests : List Node} {events : List Event}
    {node : Node} (h : Taken blobs manifests events)
    (new : Answered events (.putManifest node.digest) 201) :
    Taken blobs (manifests ++ [node]) events := by
  refine ⟨h.1, fun n mem => ?_⟩
  cases List.mem_append.mp mem with
  | inl old => exact h.2 n old
  | inr last => exact List.mem_singleton.mp last ▸ new

section

variable {cfg : Config} {P : Client → Prop}

theorem stable_taken (operation : Operation) (blobs : List String) (manifests : List Node) :
    Stable cfg operation fun c => Taken blobs manifests c.events := by
  intro c c' step h
  obtain ⟨more, eq⟩ := step.events
  rw [eq]
  exact ⟨fun d mem => (h.1 d mem).mono more, fun n mem => (h.2 n mem).mono more⟩

theorem ofExcept_triple {α : Type} {I : Client → Prop} (x : Except String α) :
    Triple I (ofExcept x) (fun a c => x = .ok a ∧ I c) (Fails I) := by
  cases x with
  | ok a => exact Triple.pure fun _ h => ⟨rfl, h⟩
  | error message => exact Triple.throw fun _ h => ⟨h, message, rfl⟩

/-- A state on the way of a push. -/
structure Underway (P : Client → Prop) (blobs : List String) (manifests : List Node) (c : Client) :
    Prop where
  holds : P c
  challenged : c.challenge.isSome = true
  taken : Taken blobs manifests c.events

theorem Stable.underway {operation : Operation} (h : Stable cfg operation P)
    (blobs : List String) (manifests : List Node) :
    Stable cfg operation (Underway P blobs manifests) := fun c c' step u =>
  ⟨h c c' step u.holds, step.challenged u.challenged,
    stable_taken operation blobs manifests c c' step u.taken⟩

theorem pushBlobs_triple {layout : Layout} {graph : Graph} {tag : String}
    (stable : ∀ operation, operation ≠ .putManifest tag → Stable cfg operation P) :
    Triple (Counted cfg (Underway P [] []) 0)
      (forEach graph.blobs fun digest => do
        let data ← ofExcept (readBlob cfg.host layout digest)
        pushBlob cfg digest data)
      (fun _ => Counted cfg (Underway P graph.blobs []) 0) (Fails (Counted cfg P 0)) := by
  apply Triple.forEach fun done => Counted cfg (Underway P done []) 0
  intro before digest after eq
  have weaker : ∀ e c, Fails (Counted cfg (Underway P before []) 0) e c →
      Fails (Counted cfg P 0) e c :=
    fun _ _ h => h.imp fun counted => counted.imp Underway.holds
  apply ((ofExcept_triple _).of_raised weaker).bind
  intro data
  apply Triple.fact
  intro _
  have pushed : Triple (Counted cfg (Underway P before []) 0) (pushBlob cfg digest data) _ _ :=
    pushBlob_triple ((stable (.headBlob digest) nofun).underway _ _)
      ((stable (.startUpload digest) nofun).underway _ _)
      ((stable (.putBlob digest) nofun).underway _ _) (fun _ => Underway.challenged) data
  apply pushed.conseq (fun _ h => h) _ weaker
  exact fun _ c h => h.1.imp fun u => { u with taken := u.taken.blob h.2 }

theorem pushManifests_triple {graph : Graph} {tag : String}
    (stable : ∀ operation, operation ≠ .putManifest tag → Stable cfg operation P)
    (named : ∀ n ∈ graph.manifests, n.digest ≠ tag) :
    Triple (Counted cfg (Underway P graph.blobs []) 0)
      (forEach graph.manifests fun node => pushManifest cfg node.digest node)
      (fun _ => Counted cfg (Underway P graph.blobs graph.manifests) 0)
      (Fails (Counted cfg P 0)) := by
  apply Triple.forEach fun done => Counted cfg (Underway P graph.blobs done) 0
  intro before node after eq
  have other : Operation.putManifest node.digest ≠ .putManifest tag := fun same =>
    named node (eq ▸ List.mem_append_right before List.mem_cons_self) (Operation.putManifest.inj same)
  have pushed : Triple (Counted cfg (Underway P graph.blobs before) 0)
      (pushManifest cfg node.digest node) _ _ :=
    pushManifest_triple ((stable _ other).underway _ _) (fun _ => Underway.challenged) node
  apply pushed.conseq (fun _ h => h)
  · exact fun _ c h => h.1.imp fun u => { u with taken := u.taken.manifest h.2 }
  · exact fun _ _ h => h.imp fun counted => counted.imp Underway.holds

/-- What every step keeps, but for the steps of sending the tag's manifest, which keep it
once the content is complete, holds at the end of a push. -/
theorem pushGraph_triple (layout : Layout) {p : Prepared}
    (stable : ∀ operation, operation ≠ .putManifest p.tag → Stable p.cfg operation P)
    (tagged : Stable p.cfg (.putManifest p.tag) (Underway P p.graph.blobs p.graph.manifests))
    (named : ∀ n ∈ p.graph.manifests, n.digest ≠ p.tag) :
    Triple (Counted p.cfg P 0) (pushGraph layout p)
      (fun result c => Counted p.cfg P 0 c ∧ result = ⟨p.graph.root.digest, c.authRefreshes⟩ ∧
        Verified c p.tag p.graph.root.digest)
      (Fails (Counted p.cfg P 0)) := by
  have started : Triple (Counted p.cfg P 0) (authenticate p.cfg)
      (fun _ => Counted p.cfg (Underway P [] []) 0) (Fails (Counted p.cfg P 0)) :=
    (authenticate_triple (stable .ping nofun)).conseq (fun _ h => h)
      (fun _ c h => h.1.imp fun holds => ⟨holds, h.2, nofun, nofun⟩) fun _ _ h => h
  have weaker : ∀ e c, Fails (Counted p.cfg (Underway P p.graph.blobs p.graph.manifests) 0) e c →
      Fails (Counted p.cfg P 0) e c :=
    fun _ _ h => h.imp fun counted => counted.imp Underway.holds
  have put := pushManifest_triple (r := 0) tagged (fun _ => Underway.challenged) p.graph.root
  have verified := verifyTag_triple (r := 0)
    ((stable (.headManifest p.tag) nofun).underway p.graph.blobs p.graph.manifests)
    (fun _ => Underway.challenged) p.graph.root
  unfold pushGraph
  apply started.bind
  intro _
  apply (pushBlobs_triple stable).bind
  intro _
  apply (pushManifests_triple stable named).bind
  intro _
  apply (put.of_raised weaker).bind
  intro _
  apply ((verified.of_pre fun _ h => h.1).of_raised weaker).bind
  intro _
  have reads : Triple
      (fun c => Counted p.cfg (Underway P p.graph.blobs p.graph.manifests) 0 c ∧
        Verified c p.tag p.graph.root.digest)
      (Prog.get : Push Client)
      (fun client c => c = client ∧ Counted p.cfg P 0 c ∧ Verified c p.tag p.graph.root.digest)
      (Fails (Counted p.cfg P 0)) :=
    Triple.get fun c h => ⟨rfl, h.1.imp Underway.holds, h.2⟩
  apply reads.bind
  intro client
  apply Triple.pure
  intro c h
  exact ⟨h.2.1, by rw [h.1], h.2.2⟩

end

/-! ### The protocol -/

section

variable {host : Host} {registry : Registry} {layout : Layout} {args : Arguments}

theorem isTag_no_colon {tag : Chars} (h : isTag tag = true) : ':' ∉ tag := by
  cases tag with
  | nil => nofun
  | cons c cs =>
    simp only [isTag, Bool.and_eq_true, List.all_eq_true] at h
    intro mem
    cases List.mem_cons.mp mem with
    | inl first =>
      have start := h.1.1
      rw [← first] at start
      exact absurd start (by decide)
    | inr later => exact absurd (h.2 ':' later) (by decide)

theorem isDigest_colon {digest : String} (h : isDigest digest = true) : ':' ∈ digest.toList := by
  rw [isDigest, Text.sha256Text, Bool.and_eq_true, List.isPrefixOf_iff_prefix] at h
  exact h.1.subset (by decide)

theorem parseImageRef_tag {imageRef : String} {image : ImageRef}
    (h : parseImageRef imageRef = .ok image) : isTag image.tag.toList = true := by
  simp only [parseImageRef, bind_eq_ok, require_eq_ok, exists_const] at h
  obtain ⟨-, h⟩ := h
  split at h
  · cases h
  · simp only [bind_eq_ok, require_eq_ok, exists_const, pure_eq_ok] at h
    obtain ⟨tag, -, rfl⟩ := h
    rw [String.toList_ofList]
    exact tag.2

/-- The fields of a prepared push. -/
theorem prepare_eq_ok {p : Prepared} (h : prepare host registry layout args = .ok p) :
    ∃ image, parseImageRef args.imageRef = .ok image ∧ p.tag = image.tag ∧
      (args.plainHttp → withoutPort image.host.toList ∈ plainHttpHosts) ∧
      loadGraph host layout args.expectedDigest = .ok p.graph ∧
      p.cfg = ⟨host, registry,
        ((if args.plainHttp then "http" else "https") ++ "://" ++ image.host).toList,
        image.repository, basicAuthorization args.username args.password,
        args.maxAuthRetries.toNat⟩ := by
  simp only [prepare, bind_eq_ok, require_eq_ok, exists_const, pure_eq_ok] at h
  obtain ⟨-, -, -, image, parsed, loopback, graph, load, rfl⟩ := h
  exact ⟨image, parsed, rfl, loopback, load, rfl⟩

/-- A tag is not a digest. -/
theorem prepare_named {p : Prepared} (h : prepare host registry layout args = .ok p) :
    ∀ n ∈ p.graph.manifests, n.digest ≠ p.tag := by
  obtain ⟨image, parsed, tag, -, load, -⟩ := prepare_eq_ok h
  intro n mem same
  have colon := isDigest_colon ((loadGraph_digests load).2 n mem)
  rw [same, tag] at colon
  exact isTag_no_colon (parseImageRef_tag parsed) colon

theorem stable_tagAfterContent {cfg : Config} {g : Graph} {tag : String} {operation : Operation}
    (other : operation ≠ .putManifest tag) :
    Stable cfg operation fun c => TagAfterContent g tag c.events := by
  intro c c' step h
  cases step with
  | send request may op opens =>
    apply h.snoc
    intro x eq isTag
    cases eq
    cases op with
    | inl own => exact absurd (own.symm.trans isTag) other
    | inr auth => cases auth with
      | inl ping => cases ping.symm.trans isTag
      | inr token => cases token.symm.trans isTag
  | refresh => exact h.snoc nofun
  | _ => exact h

theorem stable_tagAfterContent_tag {cfg : Config} {g : Graph} {tag : String} :
    Stable cfg (.putManifest tag)
      (Underway (fun c => TagAfterContent g tag c.events) g.blobs g.manifests) := by
  intro c c' step u
  refine ⟨?_, step.challenged u.challenged, stable_taken _ _ _ c c' step u.taken⟩
  cases step with
  | send request may op opens => exact u.holds.snoc fun _ _ _ => u.taken
  | refresh => exact u.holds.snoc nofun
  | _ => exact u.holds

/-- A push that is refused sends nothing. -/
theorem prepared_of_events (h : (pushOciLayout host registry layout args {}).2.events ≠ []) :
    ∃ p, prepare host registry layout args = .ok p := by
  cases prepared : prepare host registry layout args with
  | ok p => exact ⟨p, rfl⟩
  | error message =>
    rw [pushOciLayout, prepared] at h
    exact absurd rfl h

theorem tagAfterContent_nil (g : Graph) (tag : String) : TagAfterContent g tag [] := by
  intro before x isPrefix
  exact absurd (List.prefix_nil.mp isPrefix) (List.append_ne_nil_of_right_ne_nil before nofun)

/-- What holds at the end of every push, successful or not. -/
structure Orderly (layout : Layout) (host : Host) (args : Arguments) (c : Client) : Prop where
  refreshes : c.events.countP isRefresh ≤ args.maxAuthRetries.toNat
  tagLast : ∀ image graph, parseImageRef args.imageRef = .ok image →
    loadGraph host layout args.expectedDigest = .ok graph → TagAfterContent graph image.tag c.events

theorem pushOciLayout_triple (host : Host) (registry : Registry) (layout : Layout)
    (args : Arguments) :
    Triple (fun c => c = {}) (pushOciLayout host registry layout args)
      (fun result c => Orderly layout host args c ∧ result = ⟨args.expectedDigest, c.authRefreshes⟩ ∧
        ∃ image, parseImageRef args.imageRef = .ok image ∧ Verified c image.tag args.expectedDigest)
      (Fails (Orderly layout host args)) := by
  have prepared := ofExcept_triple (I := fun c => c = {}) (prepare host registry layout args)
  have nothing : Orderly layout host args {} :=
    ⟨Nat.zero_le _, fun _ _ _ _ => tagAfterContent_nil _ _⟩
  apply (prepared.of_raised fun _ _ h => h.imp fun eq => eq ▸ nothing).bind
  intro p
  apply Triple.fact
  intro ok
  obtain ⟨image, parsed, tag, -, load, cfg⟩ := prepare_eq_ok ok
  have digest := (loadGraph_digests load).1
  have pushed := pushGraph_triple layout
    (fun _ other => stable_tagAfterContent (g := p.graph) other) stable_tagAfterContent_tag
    (prepare_named ok)
  have orderly : ∀ c, Counted p.cfg (fun c => TagAfterContent p.graph p.tag c.events) 0 c →
      Orderly layout host args c := by
    intro c h
    constructor
    · rw [h.count]
      have most := h.most
      rw [cfg] at most
      exact most
    · intro image' graph parsed' load'
      rw [parsed] at parsed'
      rw [load] at load'
      cases parsed'
      cases load'
      exact tag ▸ h.holds
  apply pushed.conseq
  · intro c start
    rw [start]
    exact ⟨tagAfterContent_nil _ _, Nat.zero_le _, Nat.zero_le _, rfl⟩
  · intro result c h
    obtain ⟨counted, same, verified⟩ := h
    rw [digest] at same verified
    exact ⟨orderly c counted, same, image, parsed, tag ▸ verified⟩
  · exact fun _ c h => h.imp (orderly c)

end

/-- An image with a config and no layers, and a registry that once asks for new credentials. -/
def imageHost : Host where
  sha256 data := fun _ => data.headD 0
  loads
    | [0] => some (.obj [("manifests", .arr [sampleDescriptor ociManifest 1])])
    | [1] => some (.obj [("config", sampleDescriptor "" 2)])
    | [9] => some (.obj [("token", .str "t")])
    | _ => none
  dumps _ := []
  str _ := ""

def imageLayout : Layout where
  index := some [0]
  blobs := [1, 2].map fun b => (hexdigest fun _ => b, [b])

def imageArguments : Arguments where
  imageRef := "r.io/app:v1"
  expectedDigest := byteDigest 1
  username := "u"
  password := "p"
  maxAuthRetries := 1
  plainHttp := false

def imageRegistry : Registry := fun events request =>
  match request.operation with
  | .ping => .response 401
      [("WWW-Authenticate", "Bearer realm=\"https://auth.r.io/token\",service=\"r.io\"")] []
  | .token => .response 200 [] [9]
  | .headBlob _ => .response 404 [] []
  | .startUpload _ => .response 202 [("Location", "/upload/1?state=a")] []
  | .putBlob _ => .response (if events.countP isRefresh = 0 then 401 else 201) [] []
  | .putManifest _ => .response 201 [] []
  | .headManifest _ => .response 200 [("Docker-Content-Digest", byteDigest 1)] []

/-- The values of a header in the answers of a run. -/
def headerValues (name : String) (events : List Event) : List String :=
  events.filterMap fun e => match e with
    | .exchange ⟨_, .response _ headers _⟩ => headers.get name
    | _ => none

theorem image_run :
    let run := pushOciLayout imageHost imageRegistry imageLayout imageArguments {}
    run.1.toOption.map (·.authRefreshes) = some 1 ∧ run.2.events.isEmpty = false ∧
      (headerValues "WWW-Authenticate" run.2.events).all
        (· = "Bearer realm=\"https://auth.r.io/token\",service=\"r.io\"") ∧
      (headerValues "Location" run.2.events).all (· = "/upload/1?state=a") := by
  decide +kernel

end OptimizrActions.Oci
