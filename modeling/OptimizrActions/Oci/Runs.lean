import OptimizrActions.Oci.Steps

/-! What the client's calls do in any state that the push can reach. -/

namespace OptimizrActions.Oci

open Prog Url

/-- The last thing that happened is this answer to a request of the operation. -/
def LastAnswer (c : Client) (operation : Operation) (status : Nat) (headers : Headers) : Prop :=
  ∃ request body, request.operation = operation ∧
    c.events.getLast? = some (.exchange ⟨request, .response status headers body⟩)

/-- A request of the operation was answered with the status. -/
def Answered (events : List Event) (operation : Operation) (status : Nat) : Prop :=
  ∃ request headers body, request.operation = operation ∧
    .exchange ⟨request, .response status headers body⟩ ∈ events

/-- The registry has said that it holds the blob. -/
def Acknowledged (events : List Event) (digest : String) : Prop :=
  (∃ status ∈ [200, 302, 307], Answered events (.headBlob digest) status) ∨
    Answered events (.putBlob digest) 201

/-- The push ends, or a request that is not sent again raises after a refresh. -/
def Restarts (cfg : Config) (P : Client → Prop) (r : Nat) (retryInPlace : Bool) (e : Stop)
    (c : Client) : Prop :=
  Fails (Counted cfg P r) e c ∨
    retryInPlace = false ∧ e = .unauthorized ∧ Counted cfg P (r + 1) c

theorem LastAnswer.answered {c : Client} {operation : Operation} {status : Nat} {headers : Headers}
    (h : LastAnswer c operation status headers) : Answered c.events operation status := by
  obtain ⟨request, body, op, last⟩ := h
  exact ⟨request, headers, body, op, List.mem_of_getLast? last⟩

variable {cfg : Config} {P : Client → Prop} {r : Nat}

theorem Counted.imp {Q : Client → Prop} {c : Client} (h : Counted cfg P r c)
    (f : P c → Q c) : Counted cfg Q r c :=
  { h with holds := f h.holds }

theorem Counted.fewer {c : Client} {r' : Nat} (h : Counted cfg P r c) (le : r' ≤ r) :
    Counted cfg P r' c :=
  { h with least := le.trans h.least }

theorem Fails.imp {I J : Client → Prop} {e : Stop} {c : Client} (h : Fails I e c)
    (f : I c → J c) : Fails J e c :=
  ⟨f h.1, h.2⟩

section

variable {operation : Operation} (stable : Stable cfg operation P)

include stable

theorem renewChallenge_triple (headers : Headers) :
    Triple (fun c => Counted cfg P r c ∧ c.challenge.isSome = true ∧
        ∀ header, headers.get "WWW-Authenticate" = some header → Challenged c.events header)
      (renewChallenge headers) (fun _ c => Counted cfg P r c) (Fails (Counted cfg P r)) := by
  unfold renewChallenge
  split
  next header found =>
    split
    · exact Triple.pure fun c h => h.1
    · have renewed : Triple (fun c => Counted cfg P r c ∧ Challenged c.events header)
          (Prog.modify fun c => { c with challenge := some (parseChallenge header) } : Push Unit)
          (fun _ c => Counted cfg P r c ∧ True) (Fails (Counted cfg P r)) := by
        apply modify_triple stable
        · exact fun c sent => .challenge c header sent
        · exact fun _ => rfl
        · exact fun _ => rfl
        · exact fun _ _ => trivial
      exact renewed.conseq (fun c h => ⟨h.1, h.2.2 header found⟩) (fun _ c h => h.1) fun _ _ h => h
  · exact Triple.pure fun c h => h.1

theorem refresh_triple (headers : Headers) :
    Triple (fun c => Counted cfg P r c ∧ c.challenge.isSome = true ∧
        ∀ header, headers.get "WWW-Authenticate" = some header → Challenged c.events header)
      (refresh cfg headers)
      (fun _ c => Counted cfg P (r + 1) c ∧ c.challenge.isSome = true)
      (Fails (Counted cfg P r)) := by
  have counted : Triple (fun c => Counted cfg P r c ∧ c.challenge.isSome = true ∧
        ∀ header, headers.get "WWW-Authenticate" = some header → Challenged c.events header)
      (Prog.get : Push Client)
      (fun client c => c = client ∧ Counted cfg P r c ∧ c.challenge.isSome = true ∧
        ∀ header, headers.get "WWW-Authenticate" = some header → Challenged c.events header)
      (Fails (Counted cfg P r)) := Triple.get fun c h => ⟨rfl, h⟩
  apply counted.bind
  intro client
  have bounded : Triple (fun c => c = client ∧ Counted cfg P r c ∧ c.challenge.isSome = true ∧
        ∀ header, headers.get "WWW-Authenticate" = some header → Challenged c.events header)
      (ensure (client.authRefreshes < cfg.maxAuthRetries)
        (.error "returned HTTP 401 after the credential refreshes") : Push Unit)
      (fun _ c => c.authRefreshes < cfg.maxAuthRetries ∧ Counted cfg P r c ∧
        c.challenge.isSome = true ∧
        ∀ header, headers.get "WWW-Authenticate" = some header → Challenged c.events header)
      (Fails (Counted cfg P r)) := by
    apply Triple.ensure
    · intro left c h
      exact ⟨h.1 ▸ left, h.2⟩
    · exact fun _ c h => ⟨h.2.1, _, rfl⟩
  apply bounded.bind
  intro _
  have refreshed : Triple (fun c => c.authRefreshes < cfg.maxAuthRetries ∧ Counted cfg P r c ∧
        c.challenge.isSome = true ∧
        ∀ header, headers.get "WWW-Authenticate" = some header → Challenged c.events header)
      (Prog.modify fun c => { c with
        authRefreshes := c.authRefreshes + 1, events := c.events ++ [.refresh] } : Push Unit)
      (fun _ c => Counted cfg P (r + 1) c ∧ c.challenge.isSome = true ∧
        ∀ header, headers.get "WWW-Authenticate" = some header → Challenged c.events header)
      (Fails (Counted cfg P r)) := by
    apply Triple.modify
    intro c h
    obtain ⟨left, counted, challenged, asked⟩ := h
    refine ⟨?_, challenged, fun header found => (asked header found).mono _⟩
    exact
      { holds := stable _ _ (.refresh c challenged left) counted.holds
        least := Nat.succ_le_succ counted.least
        most := left
        count := by simp [isRefresh, counted.count] }
  apply refreshed.bind
  intro _
  have fewer : ∀ (e : Stop) (c : Client), Fails (Counted cfg P (r + 1)) e c →
      Fails (Counted cfg P r) e c :=
    fun _ _ h => h.imp fun counted => counted.fewer (Nat.le_succ r)
  have renewed := renewChallenge_triple (r := r + 1) stable headers
  apply (renewed.of_raised fewer).bind
  intro _
  exact (authenticate_triple stable).of_raised fewer

/-- The loop of `request` ends: each of its rounds but the last uses up a refresh. -/
theorem requestLoop_triple (notToken : operation ≠ .token)
    (live : ∀ c, P c → c.challenge.isSome = true) {url : Chars}
    (allowed : ∀ c, P c → RegistryUrl cfg c.events url) (method : String) (headers : Headers)
    (body : Option (List UInt8)) (expected : List Nat) (retryInPlace : Bool) {fuel : Nat}
    (enough : cfg.maxAuthRetries < fuel + r) :
    Triple (Counted cfg P r)
      (requestLoop cfg operation method url headers body expected retryInPlace fuel)
      (fun a c => Counted cfg P r c ∧ a.1 ∈ expected ∧ LastAnswer c operation a.1 a.2)
      (Restarts cfg P r retryInPlace) := by
  induction fuel generalizing r with
  | zero =>
    apply Triple.throw
    intro c h
    have := h.least
    have := h.most
    omega
  | succ fuel ih =>
    have fails : ∀ (e : Stop) (c : Client), Fails (Counted cfg P r) e c →
        Restarts cfg P r retryInPlace e c := fun _ _ h => .inl h
    have start : Triple (Counted cfg P r) (Prog.get : Push Client)
        (fun client c => Counted cfg P r c ∧ c.authorization = client.authorization ∧ P c)
        (Restarts cfg P r retryInPlace) := Triple.get fun c h => ⟨h, rfl, h.holds⟩
    apply start.bind
    intro client
    have sent : Triple
        (fun c => Counted cfg P r c ∧ c.authorization = client.authorization ∧ P c)
        (raw cfg ⟨operation, method, url, client.authorization.filter (· ≠ ""), headers, body⟩)
        (fun a c => Counted cfg P r c ∧ c.challenge.isSome = true ∧
          c.events.getLast? = some (.exchange
            ⟨⟨operation, method, url, client.authorization.filter (· ≠ ""), headers, body⟩,
              .response a.1 a.2.1 a.2.2⟩))
        (Fails (Counted cfg P r)) := by
      apply raw_triple _ stable (.inl rfl)
      · intro c h
        rw [← h.1]
        exact .registry operation method url headers body notToken (live c h.2) (allowed c h.2)
      · exact fun c e h => live c h.2
    apply (sent.of_raised fails).bind
    intro reply
    obtain ⟨status, responseHeaders, responseBody⟩ := reply
    dsimp only
    split
    · apply Triple.bind (Triple.ensure _ _)
      · intro _
        exact Triple.pure fun c h => h
      · intro accepted c h
        exact ⟨h.1, accepted, _, responseBody, rfl, h.2.2⟩
      · exact fun _ c h => .inl ⟨h.1, _, rfl⟩
    next denied =>
      have asked : ∀ c : Client, c.events.getLast? = some (.exchange
          ⟨⟨operation, method, url, client.authorization.filter (· ≠ ""), headers, body⟩,
            .response status responseHeaders responseBody⟩) →
          ∀ header, responseHeaders.get "WWW-Authenticate" = some header →
            Challenged c.events header := by
        intro c last header found
        rw [not_not.mp denied] at last
        exact ⟨_, responseHeaders, responseBody, notToken, List.mem_of_getLast? last, found⟩
      have refreshed := refresh_triple (r := r) stable responseHeaders
      apply ((refreshed.of_pre fun c h => ⟨h.1, h.2.1, asked c h.2.2⟩).of_raised fails).bind
      intro _
      have fewer : ∀ c : Client, Counted cfg P (r + 1) c → Counted cfg P r c :=
        fun _ h => h.fewer (Nat.le_succ r)
      split
      next again =>
        apply (ih (r := r + 1) (by omega)).conseq
        · exact fun c h => h.1
        · exact fun a c h => ⟨fewer c h.1, h.2⟩
        · intro e c h
          cases h with
          | inl failed => exact .inl (failed.imp (fewer c))
          | inr restart =>
            rw [again] at restart
            exact absurd restart.1 Bool.false_ne_true.symm
      next once =>
        apply Triple.throw
        intro c h
        exact .inr ⟨Bool.eq_false_of_not_eq_true once, rfl, h.1⟩

end

theorem request_triple {operation : Operation} (stable : Stable cfg operation P)
    (notToken : operation ≠ .token) (live : ∀ c, P c → c.challenge.isSome = true)
    (pathOrUrl : Chars) (allowed : ∀ c, P c → RegistryUrl cfg c.events (requestUrl cfg pathOrUrl))
    (method : String) (headers : Headers) (body : Option (List UInt8)) (expected : List Nat)
    (retryInPlace : Bool) :
    Triple (Counted cfg P r)
      (request cfg operation method pathOrUrl headers body expected retryInPlace)
      (fun a c => Counted cfg P r c ∧ a.1 ∈ expected ∧ LastAnswer c operation a.1 a.2)
      (Restarts cfg P r retryInPlace) :=
  requestLoop_triple stable notToken live allowed method headers body expected retryInPlace
    (by unfold tries; omega)

theorem Restarts.fails {e : Stop} {c : Client} (h : Restarts cfg P r true e c) :
    Fails (Counted cfg P r) e c := by
  cases h with
  | inl failed => exact failed
  | inr restart => exact absurd restart.1 Bool.false_ne_true.symm

theorem Restarts.imp {Q : Client → Prop} {retryInPlace : Bool} {e : Stop} {c : Client}
    (h : Restarts cfg P r retryInPlace e c) (f : P c → Q c) : Restarts cfg Q r retryInPlace e c := by
  cases h with
  | inl failed => exact .inl (failed.imp fun counted => counted.imp f)
  | inr restart => exact .inr ⟨restart.1, restart.2.1, restart.2.2.imp f⟩

theorem registryPath_allowed (suffix : String) (events : List Event) :
    RegistryUrl cfg events (requestUrl cfg (registryPath cfg suffix)) :=
  .inl ⟨("v2/" ++ cfg.repository ++ suffix).toList, by simp [registryPath]⟩

theorem uploadBlob_triple {digest : String} (start : Stable cfg (.startUpload digest) P)
    (put : Stable cfg (.putBlob digest) P) (live : ∀ c, P c → c.challenge.isSome = true)
    (data : List UInt8) :
    Triple (Counted cfg P r) (uploadBlob cfg digest data)
      (fun _ c => Counted cfg P r c ∧ Answered c.events (.putBlob digest) 201)
      (Restarts cfg P r false) := by
  have started := request_triple (r := r) start nofun live _
    (fun c _ => registryPath_allowed "/blobs/uploads/" c.events) "POST" [] (some []) [202] false
  unfold uploadBlob
  apply started.bind
  intro reply
  obtain ⟨status, headers⟩ := reply
  let location := urljoin (path cfg "/") ((headers.get "Location").getD "").toList
  have offered : Triple
      (fun c => Counted cfg P r c ∧ status ∈ [202] ∧ LastAnswer c (.startUpload digest) status headers)
      (ensure ((headers.get "Location").getD "" ≠ "")
        (.error "registry did not return an upload location") : Push Unit)
      (fun _ c => (headers.get "Location").getD "" ≠ "" ∧ Counted cfg P r c ∧
        LastAnswer c (.startUpload digest) 202 headers)
      (Restarts cfg P r false) := by
    apply Triple.ensure
    · exact fun nonempty c h => ⟨nonempty, h.1, List.mem_singleton.mp h.2.1 ▸ h.2.2⟩
    · exact fun _ c h => .inl ⟨h.1, _, rfl⟩
  apply offered.bind
  intro _
  have sameHost : Triple
      (fun c => (headers.get "Location").getD "" ≠ "" ∧ Counted cfg P r c ∧
        LastAnswer c (.startUpload digest) 202 headers)
      (ensure ((urlsplit location []).netloc = (urlsplit cfg.base []).netloc)
        (.error "registry upload location points to another host") : Push Unit)
      (fun _ => Counted cfg
        (fun c => P c ∧ RegistryUrl cfg c.events (requestUrl cfg (uploadUrl location digest))) r)
      (Restarts cfg P r false) := by
    apply Triple.ensure
    · intro same c h
      obtain ⟨nonempty, counted, request, body, op, last⟩ := h
      apply counted.imp
      intro holds
      refine ⟨holds, .inr ⟨(headers.get "Location").getD "", digest, ⟨request, headers, body, digest,
        op, List.mem_of_getLast? last, ?_, nonempty⟩, same, rfl⟩⟩
      cases found : headers.get "Location" with
      | none =>
        rw [found] at nonempty
        exact absurd rfl nonempty
      | some text => rfl
    · exact fun _ c h => .inl ⟨h.2.1, _, rfl⟩
  apply sameHost.bind
  intro _
  have sent := request_triple (r := r) (put.and (stable_registryUrl _ _)) nofun
    (fun c h => live c h.1) (uploadUrl location digest) (fun c h => h.2) "PUT"
    [("Content-Type", "application/octet-stream"), ("Content-Length", toString data.length)]
    (some data) [201] false
  apply (sent.of_raised fun e c h => h.imp And.left).bind
  intro reply
  apply Triple.pure
  intro c h
  have created := h.2.2.answered
  rw [List.mem_singleton.mp h.2.1] at created
  exact ⟨h.1.imp And.left, created⟩

theorem uploadLoop_triple {digest : String} (start : Stable cfg (.startUpload digest) P)
    (put : Stable cfg (.putBlob digest) P) (live : ∀ c, P c → c.challenge.isSome = true)
    (data : List UInt8) {fuel : Nat} (enough : cfg.maxAuthRetries < fuel + r) :
    Triple (Counted cfg P r) (uploadLoop cfg digest data fuel)
      (fun _ c => Counted cfg P r c ∧ Answered c.events (.putBlob digest) 201)
      (Fails (Counted cfg P r)) := by
  induction fuel generalizing r with
  | zero =>
    apply Triple.throw
    intro c h
    have := h.least
    have := h.most
    omega
  | succ fuel ih =>
    apply (uploadBlob_triple start put live data).tryCatch
    intro stop
    have fewer : ∀ c : Client, Counted cfg P (r + 1) c → Counted cfg P r c :=
      fun _ h => h.fewer (Nat.le_succ r)
    cases stop with
    | unauthorized =>
      apply (ih (r := r + 1) (by omega)).conseq
      · intro c h
        cases h with
        | inl failed =>
          obtain ⟨-, message, eq⟩ := failed
          cases eq
        | inr restart => exact restart.2.2
      · exact fun _ c h => ⟨fewer c h.1, h.2⟩
      · exact fun e c h => h.imp (fewer c)
    | error message =>
      apply Triple.throw
      intro c h
      cases h with
      | inl failed => exact failed
      | inr restart => cases restart.2.1
    | endless =>
      apply Triple.throw
      intro c h
      cases h with
      | inl failed => exact failed
      | inr restart => cases restart.2.1

theorem pushBlob_triple {digest : String} (head : Stable cfg (.headBlob digest) P)
    (start : Stable cfg (.startUpload digest) P) (put : Stable cfg (.putBlob digest) P)
    (live : ∀ c, P c → c.challenge.isSome = true) (data : List UInt8) :
    Triple (Counted cfg P r) (pushBlob cfg digest data)
      (fun _ c => Counted cfg P r c ∧ Acknowledged c.events digest) (Fails (Counted cfg P r)) := by
  have asked := request_triple (r := r) head nofun live _
    (fun c _ => registryPath_allowed ("/blobs/" ++ digest) c.events) "HEAD" [] none
    [200, 302, 307, 404] true
  unfold pushBlob
  apply (asked.of_raised fun e c h => h.fails).bind
  intro reply
  obtain ⟨status, headers⟩ := reply
  dsimp only
  split
  next held =>
    apply Triple.pure
    intro c h
    refine ⟨h.1, .inl ⟨status, ?_, h.2.2.answered⟩⟩
    have expected := h.2.1
    simp only [List.mem_cons, List.not_mem_nil, or_false] at expected ⊢
    omega
  · apply (uploadLoop_triple start put live data (by unfold tries; omega)).conseq
    · exact fun c h => h.1
    · exact fun _ c h => ⟨h.1, .inr h.2⟩
    · exact fun _ _ h => h

theorem pushManifest_triple {reference : String} (put : Stable cfg (.putManifest reference) P)
    (live : ∀ c, P c → c.challenge.isSome = true) (node : Node) :
    Triple (Counted cfg P r) (pushManifest cfg reference node)
      (fun _ c => Counted cfg P r c ∧ Answered c.events (.putManifest reference) 201)
      (Fails (Counted cfg P r)) := by
  have sent := request_triple (r := r) put nofun live _
    (fun c _ => registryPath_allowed ("/manifests/" ++ reference) c.events) "PUT"
    [("Content-Type", node.mediaType)] (some node.data) [201] true
  unfold pushManifest
  apply (sent.of_raised fun e c h => h.fails).bind
  intro reply
  apply Triple.ensure
  · intro _ c h
    have created := h.2.2.answered
    rw [List.mem_singleton.mp h.2.1] at created
    exact ⟨h.1, created⟩
  · exact fun _ c h => ⟨h.1, _, rfl⟩

/-- The push is over: the tag was just found to be the digest. -/
def Verified (c : Client) (tag digest : String) : Prop :=
  ∃ headers, LastAnswer c (.headManifest tag) 200 headers ∧
    headers.get "Docker-Content-Digest" = some digest

theorem verifyTag_triple {tag : String} (head : Stable cfg (.headManifest tag) P)
    (live : ∀ c, P c → c.challenge.isSome = true) (node : Node) :
    Triple (Counted cfg P r) (verifyTag cfg tag node)
      (fun _ c => Counted cfg P r c ∧ Verified c tag node.digest) (Fails (Counted cfg P r)) := by
  have asked := request_triple (r := r) head nofun live _
    (fun c _ => registryPath_allowed ("/manifests/" ++ tag) c.events) "HEAD"
    [("Accept", node.mediaType)] none [200] true
  unfold verifyTag
  apply (asked.of_raised fun e c h => h.fails).bind
  intro reply
  apply Triple.ensure
  · intro same c h
    have last := h.2.2
    rw [List.mem_singleton.mp h.2.1] at last
    exact ⟨h.1, reply.2, last, same⟩
  · exact fun _ c h => ⟨h.1, _, rfl⟩

end OptimizrActions.Oci
