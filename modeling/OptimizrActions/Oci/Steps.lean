import OptimizrActions.Oci.Client

/-! The client as a transition system: which steps its functions are made of, and what
any predicate that survives these steps gains from a run. -/

namespace OptimizrActions.Oci

open Prog Url

/-- The registry has offered an upload location. -/
def Offered (events : List Event) (location : String) : Prop :=
  ∃ request headers body digest, request.operation = .startUpload digest ∧
    .exchange ⟨request, .response 202 headers body⟩ ∈ events ∧
    headers.get "Location" = some location ∧ location ≠ ""

/-- The registry has asked for credentials with this header. -/
def Challenged (events : List Event) (header : String) : Prop :=
  ∃ request headers body, request.operation ≠ .token ∧
    .exchange ⟨request, .response 401 headers body⟩ ∈ events ∧
    headers.get "WWW-Authenticate" = some header

/-- The upload location that a `Location` header stands for. -/
def joined (cfg : Config) (location : String) : Chars := urljoin (path cfg "/") location.toList

/-- The URLs of requests to the registry: a path below its base, or an upload location
that passed the check on its network location. -/
def RegistryUrl (cfg : Config) (events : List Event) (url : Chars) : Prop :=
  (∃ suffix, url = requestUrl cfg ('/' :: suffix)) ∨
    ∃ location digest, Offered events location ∧
      (urlsplit (joined cfg location) []).netloc = (urlsplit cfg.base []).netloc ∧
      url = requestUrl cfg (uploadUrl (joined cfg location) digest)

/-- The requests that the client may send in a state. -/
inductive Sends (cfg : Config) (c : Client) : Request → Prop
  | ping : Sends cfg c (pingRequest cfg)
  | token (challenge : Challenge) (known : c.challenge = some challenge)
      (bearer : challenge.scheme = "bearer")
      (checked : realmPrefixes.any (fun p => p.isPrefixOf (challenge.get "realm").toList) = true) :
      Sends cfg c (tokenRequest cfg challenge)
  | registry (operation : Operation) (method : String) (url : Chars) (headers : Headers)
      (body : Option (List UInt8)) (notToken : operation ≠ .token)
      (challenged : c.challenge.isSome = true) (allowed : RegistryUrl cfg c.events url) :
      Sends cfg c ⟨operation, method, url, c.authorization.filter (· ≠ ""), headers, body⟩

def Client.record (c : Client) (e : Event) : Client := { c with events := c.events ++ [e] }

/-- The steps of a run whose requests have the given operations. -/
inductive Step (cfg : Config) (ops : Operation → Prop) : Client → Client → Prop
  | send (c : Client) (request : Request) (may : Sends cfg c request)
      (op : ops request.operation) (opens : (destination request.url).isSome = true) :
      Step cfg ops c (c.record (.exchange ⟨request, cfg.registry c.events request⟩))
  | challenge (c : Client) (header : String) (sent : Challenged c.events header) :
      Step cfg ops c { c with challenge := some (parseChallenge header) }
  | noChallenge (c : Client) (sent : c.events ≠ []) :
      Step cfg ops c { c with challenge := some ⟨"none", []⟩ }
  | authorize (c : Client) (authorization : Option String) :
      Step cfg ops c { c with authorization }
  | refresh (c : Client) (challenged : c.challenge.isSome = true)
      (left : c.authRefreshes < cfg.maxAuthRetries) :
      Step cfg ops c
        { c with authRefreshes := c.authRefreshes + 1, events := c.events ++ [.refresh] }

/-- The operations of a call: its own, and those of authentication. -/
def Uses (operation op : Operation) : Prop := op = operation ∨ op = .ping ∨ op = .token

/-- A predicate that survives every step of an operation and of authentication. -/
def Stable (cfg : Config) (operation : Operation) (P : Client → Prop) : Prop :=
  ∀ c c', Step cfg (Uses operation) c c' → P c → P c'

def isRefresh : Event → Bool
  | .refresh => true
  | .exchange _ => false

/-- The predicate holds, the refreshes are counted and within the bound, and there
have been `r` of them at least. -/
structure Counted (cfg : Config) (P : Client → Prop) (r : Nat) (c : Client) : Prop where
  holds : P c
  least : r ≤ c.authRefreshes
  most : c.authRefreshes ≤ cfg.maxAuthRetries
  count : c.events.countP isRefresh = c.authRefreshes

/-- The push ends with an error that is not one of the internal exceptions. -/
def Fails (I : Client → Prop) (e : Stop) (c : Client) : Prop := I c ∧ ∃ message, e = .error message

variable {cfg : Config} {P : Client → Prop} {r : Nat}

theorem Offered.mono {events : List Event} {location : String} (h : Offered events location)
    (more : List Event) : Offered (events ++ more) location := by
  obtain ⟨request, headers, body, digest, op, mem, found⟩ := h
  exact ⟨request, headers, body, digest, op, List.mem_append_left _ mem, found⟩

theorem Challenged.mono {events : List Event} {header : String} (h : Challenged events header)
    (more : List Event) : Challenged (events ++ more) header := by
  obtain ⟨request, headers, body, op, mem, found⟩ := h
  exact ⟨request, headers, body, op, List.mem_append_left _ mem, found⟩

theorem RegistryUrl.mono {events : List Event} {url : Chars} (h : RegistryUrl cfg events url)
    (more : List Event) : RegistryUrl cfg (events ++ more) url := by
  cases h with
  | inl below => exact .inl below
  | inr upload =>
    obtain ⟨location, digest, offered, rest⟩ := upload
    exact .inr ⟨location, digest, offered.mono more, rest⟩

theorem Step.events {ops : Operation → Prop} {c c' : Client} (h : Step cfg ops c c') :
    ∃ more, c'.events = c.events ++ more := by
  cases h with
  | send => exact ⟨_, rfl⟩
  | refresh => exact ⟨_, rfl⟩
  | _ => exact ⟨[], (List.append_nil _).symm⟩

theorem Step.challenged {ops : Operation → Prop} {c c' : Client} (h : Step cfg ops c c')
    (some_ : c.challenge.isSome = true) : c'.challenge.isSome = true := by
  cases h with
  | challenge => rfl
  | noChallenge => rfl
  | _ => exact some_

theorem Stable.and {operation : Operation} {Q : Client → Prop} (p : Stable cfg operation P)
    (q : Stable cfg operation Q) : Stable cfg operation fun c => P c ∧ Q c :=
  fun c c' step h => ⟨p c c' step h.1, q c c' step h.2⟩

theorem stable_challenged (operation : Operation) :
    Stable cfg operation fun c => c.challenge.isSome = true :=
  fun _ _ step h => step.challenged h

theorem stable_registryUrl (operation : Operation) (url : Chars) :
    Stable cfg operation fun c => RegistryUrl cfg c.events url := by
  intro c c' step h
  obtain ⟨more, eq⟩ := step.events
  rw [eq]
  exact h.mono more

theorem Counted.record {operation : Operation} {c : Client} {request : Request}
    (stable : Stable cfg operation P) (h : Counted cfg P r c) (may : Sends cfg c request)
    (op : Uses operation request.operation) (opens : (destination request.url).isSome = true) :
    Counted cfg P r (c.record (.exchange ⟨request, cfg.registry c.events request⟩)) where
  holds := stable _ _ (.send c request may op opens) h.holds
  least := h.least
  most := h.most
  count := by simp [Client.record, isRefresh, h.count]

/-- The outcome of a request that can be opened. -/
def received (reply : Reply) (c : Client) : Except Stop (Nat × Headers × List UInt8) × Client :=
  match reply with
  | .failed message => (.error (.error message), c)
  | .response status headers body => (.ok (status, headers, body), c)

theorem raw_eq {request : Request} (opens : (destination request.url).isSome = true) (c : Client) :
    raw cfg request c = received (cfg.registry c.events request)
      (c.record (.exchange ⟨request, cfg.registry c.events request⟩)) := by
  have opens : ¬(destination request.url).isNone = true := by
    rw [Option.isNone_iff_eq_none, ← Option.not_isSome_iff_eq_none, not_not]
    exact opens
  rw [raw, if_neg opens]
  change (match cfg.registry c.events request with
    | .failed message => raise message
    | .response status headers body => pure (status, headers, body) : Push _)
    (c.record (.exchange ⟨request, cfg.registry c.events request⟩)) = _
  cases cfg.registry c.events request <;> rfl

/-- The state and the result after a request was sent. -/
theorem raw_triple {operation : Operation} {I J : Client → Prop} (request : Request)
    (stable : Stable cfg operation P) (op : Uses operation request.operation)
    (may : ∀ c, I c → Sends cfg c request) (keep : ∀ c e, I c → J (c.record e)) :
    Triple (fun c => Counted cfg P r c ∧ I c) (raw cfg request)
      (fun a c => Counted cfg P r c ∧ J c ∧
        c.events.getLast? = some (.exchange ⟨request, .response a.1 a.2.1 a.2.2⟩))
      (Fails (Counted cfg P r)) := by
  constructor
  intro c h
  cases opens : (destination request.url).isSome with
  | false =>
    have closed : (destination request.url).isNone = true := by
      rw [Option.isNone_iff_eq_none, ← Option.not_isSome_iff_eq_none, opens]
      exact Bool.false_ne_true
    rw [raw, if_pos closed]
    exact ⟨h.1, _, rfl⟩
  | true =>
    rw [raw_eq opens]
    have next := h.1.record stable (may c h.2) op opens
    have kept := keep c (.exchange ⟨request, cfg.registry c.events request⟩) h.2
    generalize cfg.registry c.events request = reply at next kept
    cases reply with
    | failed message => exact ⟨next, _, rfl⟩
    | response status headers body =>
      exact ⟨next, kept, List.getLast?_concat⟩

theorem modify_triple {I J : Client → Prop} {operation : Operation} {f : Client → Client}
    (stable : Stable cfg operation P) (step : ∀ c, I c → Step cfg (Uses operation) c (f c))
    (refreshes : ∀ c, (f c).authRefreshes = c.authRefreshes)
    (events : ∀ c, (f c).events = c.events) (after : ∀ c, I c → J (f c)) :
    Triple (fun c => Counted cfg P r c ∧ I c) (Prog.modify f : Push Unit)
      (fun _ c => Counted cfg P r c ∧ J c) (Fails (Counted cfg P r)) := by
  apply Triple.modify
  intro c h
  refine ⟨?_, after c h.2⟩
  exact
    { holds := stable _ _ (step c h.2) h.1.holds
      least := by rw [refreshes]; exact h.1.least
      most := by rw [refreshes]; exact h.1.most
      count := by rw [refreshes, events]; exact h.1.count }

/-! ### Authentication -/

theorem offeredChallenge_cases (status : Nat) (headers : Headers) :
    offeredChallenge status headers = ⟨"none", []⟩ ∨
      status = 401 ∧ ∃ header, headers.get "WWW-Authenticate" = some header ∧
        offeredChallenge status headers = parseChallenge header := by
  unfold offeredChallenge
  dsimp only
  cases found : headers.get "WWW-Authenticate" with
  | none => exact .inl (if_pos (by split <;> rfl))
  | some header =>
    by_cases denied : status = 401
    · rw [if_pos denied, Option.getD_some]
      by_cases empty : header = ""
      · exact .inl (if_pos empty)
      · exact .inr ⟨denied, header, rfl, if_neg empty⟩
    · rw [if_neg denied]
      exact .inl rfl

section

variable {operation : Operation} (stable : Stable cfg operation P)

include stable

theorem currentChallenge_triple :
    Triple (Counted cfg P r) (currentChallenge cfg)
      (fun challenge c => Counted cfg P r c ∧ c.challenge = some challenge)
      (Fails (Counted cfg P r)) := by
  have start : Triple (Counted cfg P r) (Prog.get : Push Client)
      (fun client c => Counted cfg P r c ∧ c.challenge = client.challenge)
      (Fails (Counted cfg P r)) := Triple.get fun c h => ⟨h, rfl⟩
  apply start.bind
  intro client
  cases known : client.challenge with
  | some challenge => exact Triple.pure fun c h => h
  | none =>
    have sent := raw_triple (r := r) (I := fun _ => True) (J := fun _ => True) (pingRequest cfg)
      stable (.inr (.inl rfl)) (fun c _ => Sends.ping) fun _ _ h => h
    apply (sent.of_pre fun c h => ⟨h.1, trivial⟩).bind
    intro reply
    obtain ⟨status, headers, body⟩ := reply
    have offered : Triple (fun c => Counted cfg P r c ∧
        .exchange ⟨pingRequest cfg, .response status headers body⟩ ∈ c.events)
        (Prog.modify fun c => { c with challenge := some (offeredChallenge status headers) } : Push Unit)
        (fun _ c => Counted cfg P r c ∧ c.challenge = some (offeredChallenge status headers))
        (Fails (Counted cfg P r)) := by
      apply modify_triple stable
      · intro c h
        cases offeredChallenge_cases status headers with
        | inl none_ => exact none_ ▸ .noChallenge c (List.ne_nil_of_mem h)
        | inr offered =>
          obtain ⟨rfl, header, found, eq⟩ := offered
          exact eq ▸ .challenge c header ⟨pingRequest cfg, headers, body, nofun, h, found⟩
      · exact fun _ => rfl
      · exact fun _ => rfl
      · exact fun _ _ => rfl
    exact (offered.of_pre fun c h => ⟨h.1, List.mem_of_getLast? h.2.2⟩).bind
      fun _ => Triple.pure fun c h => h

theorem setAuthorization_triple (authorization : Option String) :
    Triple (fun c => Counted cfg P r c ∧ c.challenge.isSome = true)
      (setAuthorization authorization)
      (fun _ c => Counted cfg P r c ∧ c.challenge.isSome = true) (Fails (Counted cfg P r)) :=
  modify_triple stable (fun c _ => Step.authorize c authorization) (fun _ => rfl) (fun _ => rfl)
    fun _ h => h

omit stable in
theorem readToken_triple {I : Client → Prop} (body : List UInt8) :
    Triple I (readToken cfg body) (fun _ => I) (Fails I) := by
  unfold readToken
  split
  · split
    · exact Triple.pure fun _ h => h
    · exact Triple.throw fun _ h => ⟨h, _, rfl⟩
  · exact Triple.throw fun _ h => ⟨h, _, rfl⟩
  · exact Triple.throw fun _ h => ⟨h, _, rfl⟩

theorem fetchToken_triple {challenge : Challenge} (bearer : challenge.scheme = "bearer") :
    Triple (fun c => Counted cfg P r c ∧ c.challenge = some challenge) (fetchToken cfg challenge)
      (fun _ c => Counted cfg P r c ∧ c.challenge.isSome = true) (Fails (Counted cfg P r)) := by
  let may : Client → Prop := fun c =>
    Sends cfg c (tokenRequest cfg challenge) ∧ c.challenge.isSome = true
  have checked : Triple (fun c => Counted cfg P r c ∧ c.challenge = some challenge)
      (ensure (realmPrefixes.any fun p => p.isPrefixOf (challenge.get "realm").toList)
        (.error "registry token realm must use https") : Push Unit)
      (fun _ c => Counted cfg P r c ∧ may c) (Fails (Counted cfg P r)) := by
    apply Triple.ensure
    · intro passed c h
      exact ⟨h.1, .token challenge h.2 bearer passed, by rw [h.2]; rfl⟩
    · exact fun _ c h => ⟨h.1, _, rfl⟩
  have sent : Triple (fun c => Counted cfg P r c ∧ may c) (raw cfg (tokenRequest cfg challenge))
      (fun a c => Counted cfg P r c ∧ c.challenge.isSome = true ∧
        c.events.getLast? = some
          (.exchange ⟨tokenRequest cfg challenge, .response a.1 a.2.1 a.2.2⟩))
      (Fails (Counted cfg P r)) := by
    apply raw_triple _ stable (.inr (.inr rfl))
    · exact fun c h => h.1
    · exact fun c e h => h.2
  unfold fetchToken
  apply checked.bind
  intro _
  apply sent.bind
  intro reply
  obtain ⟨status, headers, body⟩ := reply
  have accepted : Triple (fun c => Counted cfg P r c ∧ c.challenge.isSome = true)
      (ensure (status = 200) (.error "registry token request failed") : Push Unit)
      (fun _ c => Counted cfg P r c ∧ c.challenge.isSome = true) (Fails (Counted cfg P r)) :=
    Triple.ensure (fun _ _ h => h) fun _ c h => ⟨h.1, _, rfl⟩
  apply (accepted.of_pre fun c h => ⟨h.1, h.2.1⟩).bind
  intro _
  have token : Triple (fun c => Counted cfg P r c ∧ c.challenge.isSome = true)
      (readToken cfg body) _ _ := readToken_triple body
  apply (token.conseq (fun _ h => h) (fun _ _ h => h) fun _ _ h => ⟨h.1.1, h.2⟩).bind
  intro token
  exact setAuthorization_triple stable (some ("Bearer " ++ token))

theorem authenticate_triple :
    Triple (Counted cfg P r) (authenticate cfg)
      (fun _ c => Counted cfg P r c ∧ c.challenge.isSome = true) (Fails (Counted cfg P r)) := by
  apply (currentChallenge_triple stable).bind
  intro challenge
  have known : ∀ c : Client, Counted cfg P r c ∧ c.challenge = some challenge →
      Counted cfg P r c ∧ c.challenge.isSome = true := by
    intro c h
    rw [h.2]
    exact ⟨h.1, rfl⟩
  split
  · exact (setAuthorization_triple stable _).of_pre known
  · split
    · exact (setAuthorization_triple stable _).of_pre known
    next bearer => exact fetchToken_triple stable (not_not.mp bearer)

end

end OptimizrActions.Oci
