import OptimizrActions.Lib.UrlLaws
import OptimizrActions.Oci.Push

/-! Where the credentials of a push go. -/

namespace OptimizrActions.Oci

open Prog Url

/-- Where the requests to the registry should go. -/
def home (cfg : Config) : Option Destination := destination (path cfg "/v2/")

/-- Credentials travel encrypted or stay on this machine, and those for the registry
go to the client's own scheme, host and port. -/
def Confined (cfg : Config) (request : Request) : Prop :=
  request.authorization.isSome = true → ∃ d, destination request.url = some d ∧
    d.isSafe = true ∧ (request.operation ≠ .token → home cfg = some d)

/-- The realm is an `https` URL, or the host that is connected to is a loopback host. -/
def TrustedRealm (realm : Chars) : Prop :=
  (∃ rest, realm = web true rest) ∨ ∃ rest, realm = web false rest ∧
    ∀ host port, connectTo (unquote (rest.takeWhile (!isNetlocEnd ·))) = some (host, port) →
      host ∈ loopbackHosts

def passesPrefix (realm : Chars) : Bool := realmPrefixes.any (·.isPrefixOf realm)

/-- What the checks of the client miss does not occur in the registry's answers. -/
structure Honest (cfg : Config) (events : List Event) : Prop where
  realms : ∀ header, Challenged events header → (parseChallenge header).scheme = "bearer" →
    passesPrefix ((parseChallenge header).get "realm").toList = true →
    TrustedRealm ((parseChallenge header).get "realm").toList
  uploads : ∀ location, Offered events location →
    (urlsplit (joined cfg location) []).netloc = (urlsplit cfg.base []).netloc →
    (urlsplit (joined cfg location) []).scheme = (urlsplit cfg.base []).scheme

/-! ### URLs -/

theorem web_append (secure : Bool) (body rest : Chars) :
    web secure body ++ rest = web secure (body ++ rest) := by
  simp [web]

theorem requestUrl_web (cfg : Config) (secure : Bool) (url : Chars) :
    requestUrl cfg (web secure url) = web secure url :=
  if_pos ⟨webScheme secure, url, by simp [web]⟩

/-- A URL with more than an authority leads to its authority's host. -/
theorem destination_end {secure : Bool} {body : Chars} {e : Char} {d : Destination} (rest : Chars)
    (end_ : isNetlocEnd e = true) (h : destination (web secure (body ++ e :: rest)) = some d) :
    d.https = secure ∧
      connectTo (unquote (body.takeWhile (!isNetlocEnd ·))) = some (d.host, d.port) ∧
      d.host.any isControl = false := by
  have open_ : ∀ c ∈ body.takeWhile (!isNetlocEnd ·), isNetlocEnd c = false := by
    intro c mem
    simpa using List.mem_takeWhile_imp mem
  have parts := List.takeWhile_append_dropWhile (p := (!isNetlocEnd ·)) (l := body)
  cases after : body.dropWhile (!isNetlocEnd ·) with
  | nil =>
    rw [after, List.append_nil] at parts
    rw [← parts] at h
    exact destination_web open_ end_ h
  | cons first more =>
    have stops := List.head_dropWhile_not (!isNetlocEnd ·) (l := body) (by rw [after]; nofun)
    simp only [after, List.head_cons] at stops
    rw [← parts, after, List.append_assoc, List.cons_append] at h
    exact destination_web open_ (by simpa using stops) h

section

variable {cfg : Config} {secure : Bool} {host : Chars} (base : cfg.base = web secure host)

include base

theorem home_parts {d : Destination} (h : home cfg = some d) :
    d.https = secure ∧
      connectTo (unquote (host.takeWhile (!isNetlocEnd ·))) = some (d.host, d.port) ∧
      d.host.any isControl = false := by
  rw [home, path, base, web_append] at h
  exact destination_end (e := '/') "v2/".toList rfl h

/-- An upload location with the client's scheme leads to the client's registry. -/
theorem upload_home {location : String} {own d : Destination} {digest : String}
    (nonempty : location ≠ "")
    (netloc : (urlsplit (joined cfg location) []).netloc = (urlsplit cfg.base []).netloc)
    (scheme : (urlsplit (joined cfg location) []).scheme = (urlsplit cfg.base []).scheme)
    (opened : home cfg = some own)
    (h : destination (requestUrl cfg (uploadUrl (joined cfg location) digest)) = some d) :
    own = d := by
  have baseParts := urlsplit_web secure host []
  have chars : location.toList ≠ [] := fun empty => nonempty (String.ext empty)
  rw [base, baseParts.1] at scheme
  rw [joined, path, base, web_append] at scheme
  obtain ⟨authority, rest, eq, clean, tail⟩ := urljoin_web chars scheme
  have same : joined cfg location = web secure (authority ++ rest) := by
    rw [joined, path, base, web_append, eq]
  have kept_ : authority = kept (host.takeWhile (!isNetlocEnd ·)) := by
    rw [same, base, baseParts.2, (urlsplit_web _ _ _).2,
      takeWhile_tail (fun c mem => (clean c mem).1) tail, clean.kept_eq] at netloc
    exact netloc
  have url : ∃ e more, uploadUrl (joined cfg location) digest = web secure (authority ++ e :: more) ∧
      isNetlocEnd e = true := by
    rw [uploadUrl, same, web_append, web_append]
    cases tail with
    | inl empty =>
      subst empty
      have plain : '?' ∉ web secure (authority ++ []) := by
        rw [List.append_nil]
        intro mem
        have authority_ : '?' ∈ authority := by
          cases secure <;> simpa [web, webScheme] using mem
        exact absurd (clean '?' authority_).1 (by decide)
      rw [if_neg plain]
      exact ⟨'?', "digest=".toList ++ quote digest.toList, by simp, rfl⟩
    | inr ends =>
      obtain ⟨e, more, rfl, end_⟩ := ends
      exact ⟨e, _, by rw [List.append_assoc, List.append_assoc, List.cons_append], end_⟩
  obtain ⟨e, more, url, end_⟩ := url
  rw [url, requestUrl_web] at h
  obtain ⟨https, connects, control⟩ := destination_web (fun c mem => (clean c mem).1) end_ h
  obtain ⟨https', connects', control'⟩ := home_parts base opened
  rw [kept_] at connects
  have pair := connectTo_unquote_kept connects' control' connects control
  cases own
  cases d
  simp only [Prod.mk.injEq] at pair https https'
  rw [https, https', pair.1, pair.2]

/-- Requests to the registry go home. -/
theorem registryUrl_home {events : List Event} {url : Chars} {own d : Destination}
    (honest : Honest cfg events) (allowed : RegistryUrl cfg events url)
    (opened : home cfg = some own) (h : destination url = some d) : own = d := by
  cases allowed with
  | inl below =>
    obtain ⟨suffix, rfl⟩ := below
    unfold requestUrl at h
    split at h
    · rw [destination_slash] at h
      cases h
    · rw [base, web_append] at h
      obtain ⟨https, connects, -⟩ := destination_end _ rfl h
      obtain ⟨https', connects', -⟩ := home_parts base opened
      rw [connects] at connects'
      cases own
      cases d
      simp only [Option.some.injEq, Prod.mk.injEq] at connects' https https'
      rw [https, https', connects'.1, connects'.2]
  | inr upload =>
    obtain ⟨location, digest, offered, netloc, rfl⟩ := upload
    have scheme := honest.uploads location offered netloc
    obtain ⟨_, _, _, _, _, _, _, nonempty⟩ := offered
    exact upload_home base nonempty netloc scheme opened h

end

theorem tokenUrl_safe {realm query : Chars} {d : Destination} (trusted : TrustedRealm realm)
    (h : destination (realm ++ '?' :: query) = some d) : d.isSafe = true := by
  cases trusted with
  | inl https =>
    obtain ⟨rest, rfl⟩ := https
    rw [web_append] at h
    rw [Destination.isSafe, (destination_end _ rfl h).1]
    rfl
  | inr loopback =>
    obtain ⟨rest, rfl, hosts⟩ := loopback
    rw [web_append] at h
    have member := hosts _ _ (destination_end _ rfl h).2.1
    rw [Destination.isSafe, decide_eq_true member, Bool.or_true]

/-! ### The run -/

/-- What the client keeps at every step. -/
structure Guarded (cfg : Config) (c : Client) : Prop where
  opened : c.events ≠ [] ∨ c.challenge.isSome = true → (home cfg).isSome = true
  asked : ∀ challenge, c.challenge = some challenge → challenge = ⟨"none", []⟩ ∨
    ∃ header, Challenged c.events header ∧ challenge = parseChallenge header
  confined : Honest cfg c.events → ∀ x, .exchange x ∈ c.events → Confined cfg x.request

theorem Honest.before {cfg : Config} {events more : List Event} (h : Honest cfg (events ++ more)) :
    Honest cfg events where
  realms header asked := h.realms header (asked.mono more)
  uploads location offered := h.uploads location (offered.mono more)

/-- Each request that may be sent is confined. -/
theorem Guarded.send {cfg : Config} {secure : Bool} {host : Chars} {c : Client} {request : Request}
    (base : cfg.base = web secure host) (safe : ∀ d, home cfg = some d → d.isSafe = true)
    (guarded : Guarded cfg c) (honest : Honest cfg c.events) (may : Sends cfg c request)
    (opens : (destination request.url).isSome = true) : Confined cfg request := by
  intro authorized
  obtain ⟨d, eq⟩ := Option.isSome_iff_exists.mp opens
  cases may with
  | ping => cases authorized
  | token challenge known bearer checked =>
    refine ⟨d, eq, ?_, fun other => absurd rfl other⟩
    cases guarded.asked challenge known with
    | inl none_ =>
      rw [none_] at bearer
      exact absurd bearer (by decide)
    | inr asked =>
      obtain ⟨header, asked, rfl⟩ := asked
      exact tokenUrl_safe (honest.realms header asked bearer checked) eq
  | registry operation method url headers body notToken challenged allowed =>
    obtain ⟨own, opened⟩ := Option.isSome_iff_exists.mp (guarded.opened (.inr challenged))
    have same := registryUrl_home base honest allowed opened eq
    subst same
    exact ⟨own, eq, safe own opened, fun _ => opened⟩

theorem Guarded.step {cfg : Config} {secure : Bool} {host : Chars} {ops : Operation → Prop}
    {c c' : Client} (base : cfg.base = web secure host)
    (safe : ∀ d, home cfg = some d → d.isSafe = true) (step : Step cfg ops c c')
    (guarded : Guarded cfg c) : Guarded cfg c' := by
  cases step with
  | send request may op opens =>
    constructor
    case opened =>
      intro _
      cases may with
      | ping => exact opens
      | token challenge known => exact guarded.opened (.inr (by rw [known]; rfl))
      | registry _ _ _ _ _ _ challenged => exact guarded.opened (.inr challenged)
    case asked =>
      intro challenge known
      apply (guarded.asked challenge known).imp_right
      intro ⟨header, asked, eq⟩
      exact ⟨header, asked.mono _, eq⟩
    case confined =>
      intro honest x mem
      cases List.mem_append.mp mem with
      | inl old => exact guarded.confined honest.before x old
      | inr new =>
        cases List.mem_singleton.mp new
        exact guarded.send base safe honest.before may opens
  | challenge header sent =>
    constructor
    case opened =>
      obtain ⟨_, _, _, _, mem, _⟩ := sent
      exact fun _ => guarded.opened (.inl (List.ne_nil_of_mem mem))
    case asked =>
      intro challenge known
      exact .inr ⟨header, sent, (Option.some.inj known).symm⟩
    case confined => exact guarded.confined
  | noChallenge sent =>
    constructor
    case opened => exact fun _ => guarded.opened (.inl sent)
    case asked => exact fun challenge known => .inl (Option.some.inj known).symm
    case confined => exact guarded.confined
  | authorize authorization => exact ⟨guarded.opened, guarded.asked, guarded.confined⟩
  | refresh challenged left =>
    constructor
    case opened => exact fun _ => guarded.opened (.inr challenged)
    case asked =>
      intro challenge known
      apply (guarded.asked challenge known).imp_right
      intro ⟨header, asked, eq⟩
      exact ⟨header, asked.mono _, eq⟩
    case confined =>
      intro honest x mem
      apply guarded.confined honest.before x
      simpa using mem

section

variable {host : Host} {registry : Registry} {layout : Layout} {args : Arguments} {p : Prepared}

theorem prepare_base (ok : prepare host registry layout args = .ok p) :
    ∃ image, parseImageRef args.imageRef = .ok image ∧
      p.cfg.base = web (!args.plainHttp) image.host.toList := by
  obtain ⟨image, parsed, -, -, -, cfg⟩ := prepare_eq_ok ok
  refine ⟨image, parsed, ?_⟩
  rw [cfg]
  cases args.plainHttp <;> simp [web, webScheme]

/-- Over plain HTTP, a loopback name with a decimal port is a true loopback host. -/
theorem home_isSafe (ok : prepare host registry layout args = .ok p)
    (named : args.plainHttp = true → ∀ image, parseImageRef args.imageRef = .ok image →
      ∃ name ∈ plainHttpHosts, ∃ digits, image.host.toList = name ++ ':' :: digits ∧
        ∀ c ∈ digits, c.isDigit = true) :
    ∀ d, home p.cfg = some d → d.isSafe = true := by
  intro d opened
  obtain ⟨image, parsed, base⟩ := prepare_base ok
  obtain ⟨https, connects, -⟩ := home_parts base opened
  cases plain : args.plainHttp with
  | false =>
    rw [plain] at https
    rw [Destination.isSafe, https]
    rfl
  | true =>
    obtain ⟨name, mem, digits, eq, decimal⟩ := named plain image parsed
    have digit : ∀ c, c.isDigit = true →
        isNetlocEnd c = false ∧ isHostEnd c = false ∧ c ≠ '%' := by
      intro c h
      refine ⟨?_, ?_, ?_⟩
      · simp only [isNetlocEnd, Bool.or_eq_false_iff, decide_eq_false_iff_not]
        refine ⟨⟨?_, ?_⟩, ?_⟩ <;> rintro rfl <;> cases h
      · simp only [isHostEnd, Bool.or_eq_false_iff, decide_eq_false_iff_not]
        refine ⟨?_, ?_⟩ <;> rintro rfl <;> cases h
      · rintro rfl
        cases h
    have known : (plainHttpHosts.all fun n => n.all (fun c => !isNetlocEnd c && c ≠ '%') &&
        unbracket n ∈ loopbackHosts) = true := by
      decide +kernel
    have parts := List.all_eq_true.mp known name mem
    rw [Bool.and_eq_true, decide_eq_true_eq, List.all_eq_true] at parts
    obtain ⟨chars, loopback⟩ := parts
    have plainChars : ∀ c ∈ name ++ ':' :: digits, isNetlocEnd c = false ∧ c ≠ '%' := by
      intro c mem
      cases List.mem_append.mp mem with
      | inl inName => simpa using chars c inName
      | inr inPort =>
        cases List.mem_cons.mp inPort with
        | inl colon => exact colon ▸ ⟨rfl, by decide⟩
        | inr inDigits => exact ⟨(digit c (decimal c inDigits)).1, (digit c (decimal c inDigits)).2.2⟩
    have whole : (name ++ ':' :: digits).takeWhile (!isNetlocEnd ·) = name ++ ':' :: digits := by
      rw [List.takeWhile_eq_self_iff]
      intro c mem
      rw [(plainChars c mem).1]
      rfl
    rw [eq, whole, unquote_eq fun mem => (plainChars '%' mem).2 rfl,
      connectTo_port fun c mem => (digit c (decimal c mem)).2.1] at connects
    have named : d.host = unbracket name := by
      split at connects
      · exact (Prod.mk.inj (Option.some.inj connects)).1.symm
      · obtain ⟨n, -, eq⟩ := Option.map_eq_some_iff.mp connects
        exact (Prod.mk.inj eq).1.symm
    rw [Destination.isSafe, named, decide_eq_true loopback, Bool.or_true]

end

theorem mem_headerValues {name value : String} {events : List Event} {request : Request}
    {status : Nat} {headers : Headers} {body : List UInt8}
    (sent : .exchange ⟨request, .response status headers body⟩ ∈ events)
    (found : headers.get name = some value) : value ∈ headerValues name events :=
  List.mem_filterMap.mpr ⟨_, sent, found⟩

/-- A registry that names a realm whose host only begins like a loopback host. -/
def realmRegistry : Registry := fun _ request =>
  match request.operation with
  | .ping => .response 401 [("WWW-Authenticate", "Bearer realm=\"http://localhost.evil.com/\"")] []
  | _ => .failed "closed"

/-- A registry that offers an upload location of its own host without encryption. -/
def uploadRegistry : Registry := fun events request =>
  match request.operation with
  | .startUpload _ => .response 202 [("Location", "http://r.io/upload")] []
  | _ => imageRegistry events request

/-- A request with credentials that is neither encrypted nor stays on this machine. -/
def leaks (operation : Operation → Bool) : Event → Bool
  | .exchange x => operation x.request.operation && x.request.authorization.isSome &&
      (destination x.request.url).all (!·.isSafe)
  | .refresh => false

theorem leaks_not_confined (cfg : Config) {events : List Event} {operation : Operation → Bool}
    (h : events.any (leaks operation) = true) :
    ∃ x, .exchange x ∈ events ∧ ¬Confined cfg x.request := by
  obtain ⟨e, mem, leak⟩ := List.any_eq_true.mp h
  cases e with
  | refresh => cases leak
  | exchange x =>
    refine ⟨x, mem, fun confined => ?_⟩
    simp only [leaks, Bool.and_eq_true, Option.all_eq_true] at leak
    obtain ⟨d, eq, safe, -⟩ := confined leak.1.2
    have unsafe_ := leak.2 d eq
    rw [safe] at unsafe_
    cases unsafe_

def isToken : Operation → Bool
  | .token => true
  | _ => false

def isPutBlob : Operation → Bool
  | .putBlob _ => true
  | _ => false

/-- The token of the registry is sent in the clear with the blob. -/
theorem upload_leaks :
    (pushOciLayout imageHost uploadRegistry imageLayout imageArguments {}).2.events.any
      (leaks isPutBlob) = true := by
  decide +kernel

end OptimizrActions.Oci
