import OptimizrActions.Oci.Layout
import Mathlib.Data.List.Nodup

/-! The loader walks the descriptor graph depth first: what it has collected at
each point of the walk. -/

namespace OptimizrActions.Oci

open DepthFirst

section

variable (host : Host) (layout : Layout)

def documentOf (digest : String) : Option Mapping :=
  match readBlob host layout digest with
  | .ok data => (loadDocument host data).toOption
  | .error _ => none

def objects (items : List Json) : List Mapping :=
  items.filterMap fun item => match item with
    | .obj fields => some fields
    | _ => none

/-- The entries of a field that are objects. -/
def entries (document : Mapping) (field : String) : List Mapping :=
  match document.get field with
  | .arr items => objects items
  | _ => []

/-- The descriptors in a document that is read as an index. -/
def children (r : Ref) : List Ref :=
  if r.mediaType ∈ indexMediaTypes then
    match documentOf host layout r.digest with
    | some document => (entries document "manifests").map (refOf host)
    | none => []
  else []

/-- The config and the layers of a document that is read as an image manifest. -/
def contents (r : Ref) : List String :=
  if r.mediaType ∈ manifestMediaTypes then
    match documentOf host layout r.digest with
    | some document =>
      (objects [document.get "config"] ++ entries document "layers").map
        (textField host · "digest")
    | none => []
  else []

/-- The document of one digest lists the other one when it is read as an index. -/
def Refers (d d' : String) : Prop :=
  ∃ r r', r.digest = d ∧ r' ∈ children host layout r ∧ r'.digest = d'

/-- No document lists its own digest, directly or through others. -/
def Acyclic : Prop := ∀ d, ¬Relation.TransGen (Refers host layout) d d

/-- The loader's state at a point of the walk.  `walk` are the descriptors read so
far, the documents in `open_` are not finished, and those in `pending` are not
listed yet. -/
structure Walked (open_ pending : List String) (s : Collected) (walk : List Ref) : Prop where
  seen : s.seen = walk.map (·.digest)
  walk_nodup : (walk.map (·.digest)).Nodup
  manifests_nodup : (s.manifests.map (·.digest)).Nodup
  blobs_nodup : s.blobs.Nodup
  manifests_read : ∀ n ∈ s.manifests, readBlob host layout n.digest = .ok n.data
  blobs_read : ∀ b ∈ s.blobs, ∃ data, readBlob host layout b = .ok data
  manifests_walked : ∀ n ∈ s.manifests, n.digest ∈ walk.map (·.digest)
  manifests_from : ∀ n ∈ s.manifests, ∃ r ∈ walk, n.toRef ∈ children host layout r
  blobs_from : ∀ b ∈ s.blobs, ∃ r ∈ walk, b ∈ contents host layout r
  finished : ∀ r ∈ walk, r.digest ∉ open_ →
    (∀ c ∈ children host layout r, c.digest ∈ s.manifests.map (·.digest)) ∧
    ∀ b ∈ contents host layout r, b ∈ s.blobs
  placed : ∀ r ∈ walk, r.digest ∈ s.manifests.map (·.digest) ∨ r.digest ∈ pending
  ordered : ∀ before n after, s.manifests = before ++ n :: after →
    ∀ c ∈ children host layout n.toRef, c.digest ∈ before.map (·.digest)

end

variable {host : Host} {layout : Layout}

theorem listed_eq_ok {document : Mapping} {field : String} {items : List Json}
    (h : listed document field = .ok items) : entries document field = objects items := by
  rw [listed] at h
  rw [entries]
  cases value : document.get field with
  | arr raw =>
    rw [value] at h
    cases h
    rfl
  | _ =>
    simp only [value] at h
    split at h
    · cases h
    · cases h
      rfl

theorem documentOf_eq {digest : String} {data : List UInt8} {document : Mapping}
    (read : readBlob host layout digest = .ok data) (load : loadDocument host data = .ok document) :
    documentOf host layout digest = some document := by
  simp [documentOf, read, load, Except.toOption]

theorem index_not_manifest {mediaType : String} (h : mediaType ∈ indexMediaTypes) :
    mediaType ∉ manifestMediaTypes := by
  revert mediaType
  decide +kernel

/-- Weakening: a document may stay pending, and nothing is lost by it. -/
theorem Walked.pend {open_ pending : List String} {s : Collected} {walk : List Ref}
    (h : Walked host layout open_ pending s walk) (d : String) :
    Walked host layout open_ (d :: pending) s walk :=
  { h with placed := fun r mem => (h.placed r mem).imp id (List.mem_cons_of_mem d) }

/-- A descriptor is entered: its document is open and pending. -/
theorem Walked.enter {stack : List String} {s : Collected} {walk : List Ref} {r : Ref}
    (h : Walked host layout stack stack s walk) (fresh : r.digest ∉ s.seen) :
    Walked host layout (r.digest :: stack) (r.digest :: stack)
      { s with seen := s.seen ++ [r.digest] } (walk ++ [r]) where
  seen := by simp [h.seen]
  walk_nodup := by
    rw [List.map_append, List.map_singleton, ← List.concat_eq_append]
    rw [h.seen] at fresh
    exact h.walk_nodup.concat fresh
  manifests_nodup := h.manifests_nodup
  blobs_nodup := h.blobs_nodup
  manifests_read := h.manifests_read
  blobs_read := h.blobs_read
  manifests_walked n mem := by
    rw [List.map_append]
    exact List.mem_append_left _ (h.manifests_walked n mem)
  manifests_from n mem := by
    obtain ⟨p, old, child⟩ := h.manifests_from n mem
    exact ⟨p, List.mem_append_left _ old, child⟩
  blobs_from b mem := by
    obtain ⟨p, old, content⟩ := h.blobs_from b mem
    exact ⟨p, List.mem_append_left _ old, content⟩
  finished p mem closed := by
    cases List.mem_append.mp mem with
    | inl old => exact h.finished p old fun inside => closed (List.mem_cons_of_mem _ inside)
    | inr new =>
      rw [List.mem_singleton.mp new] at closed
      exact absurd List.mem_cons_self closed
  placed p mem := by
    cases List.mem_append.mp mem with
    | inl old => exact (h.placed p old).imp id (List.mem_cons_of_mem _)
    | inr new =>
      rw [List.mem_singleton.mp new]
      exact .inr List.mem_cons_self
  ordered := h.ordered

/-- A document is finished once everything it lists has been collected. -/
theorem Walked.close {stack pending : List String} {s : Collected} {walk : List Ref} {r : Ref}
    (h : Walked host layout (r.digest :: stack) pending s walk)
    (entered : r ∈ walk)
    (collected : ∀ c ∈ children host layout r, c.digest ∈ s.manifests.map (·.digest))
    (stored : ∀ b ∈ contents host layout r, b ∈ s.blobs) :
    Walked host layout stack pending s walk where
  __ := h
  finished p mem closed := by
    by_cases same : p.digest = r.digest
    · rw [List.inj_on_of_nodup_map h.walk_nodup mem entered same]
      exact ⟨collected, stored⟩
    · apply h.finished p mem
      intro inside
      cases List.mem_cons.mp inside with
      | inl eq => exact same eq
      | inr inside => exact closed inside

theorem Walked.addBlob {open_ pending : List String} {s : Collected} {walk : List Ref}
    {r : Ref} {b : String} {data : List UInt8} (h : Walked host layout open_ pending s walk)
    (entered : r ∈ walk) (content : b ∈ contents host layout r) (fresh : b ∉ s.blobs)
    (read : readBlob host layout b = .ok data) :
    Walked host layout open_ pending { s with blobs := s.blobs ++ [b] } walk where
  __ := h
  blobs_nodup := by
    rw [← List.concat_eq_append]
    exact h.blobs_nodup.concat fresh
  blobs_read a mem := by
    cases List.mem_append.mp mem with
    | inl old => exact h.blobs_read a old
    | inr new => exact ⟨data, List.mem_singleton.mp new ▸ read⟩
  blobs_from a mem := by
    cases List.mem_append.mp mem with
    | inl old => exact h.blobs_from a old
    | inr new => exact ⟨r, entered, List.mem_singleton.mp new ▸ content⟩
  finished p mem closed := by
    obtain ⟨listed, stored⟩ := h.finished p mem closed
    exact ⟨listed, fun a content => List.mem_append_left _ (stored a content)⟩

theorem addBlobs_walked {open_ pending : List String} {s s' : Collected} {walk : List Ref}
    {r : Ref} {digest : String} {items : List Json}
    (run : addBlobs host layout digest s items = .ok s')
    (h : Walked host layout open_ pending s walk) (entered : r ∈ walk)
    (content : ∀ item ∈ objects items, textField host item "digest" ∈ contents host layout r) :
    Walked host layout open_ pending s' walk ∧ s'.manifests = s.manifests ∧
      (∀ b ∈ s.blobs, b ∈ s'.blobs) ∧
      ∀ item ∈ objects items, textField host item "digest" ∈ s'.blobs := by
  induction items generalizing s with
  | nil =>
    cases run
    exact ⟨h, rfl, fun _ mem => mem, nofun⟩
  | cons item rest ih =>
    cases item with
    | obj item =>
      simp only [addBlobs, bind_eq_ok] at run
      obtain ⟨data, read, run⟩ := run
      have here := content item List.mem_cons_self
      have later : ∀ item ∈ objects rest, textField host item "digest" ∈ contents host layout r :=
        fun item mem => content item (List.mem_cons_of_mem _ mem)
      split at run
      next known =>
        obtain ⟨walked, same, kept, stored⟩ := ih run h later
        refine ⟨walked, same, kept, ?_⟩
        intro b mem
        cases List.mem_cons.mp mem with
        | inl eq => exact eq ▸ kept _ known
        | inr mem => exact stored b mem
      next fresh =>
        obtain ⟨walked, same, kept, stored⟩ := ih run (h.addBlob entered here fresh read) later
        refine ⟨walked, same, fun b mem => kept b (List.mem_append_left _ mem), ?_⟩
        intro b mem
        cases List.mem_cons.mp mem with
        | inl eq => exact eq ▸ kept _ (List.mem_append_right _ List.mem_cons_self)
        | inr mem => exact stored b mem
    | _ => cases run

/-- A finished document is listed in the place after everything it lists. -/
theorem Walked.place {open_ stack : List String} {s : Collected} {walk : List Ref} {node : Node}
    (h : Walked host layout open_ (node.digest :: stack) s walk)
    (read : readBlob host layout node.digest = .ok node.data)
    (child : ∃ r ∈ walk, node.toRef ∈ children host layout r)
    (entered : node.digest ∈ walk.map (·.digest))
    (done : node.digest ∈ s.manifests.map (·.digest) ∨
      ∀ c ∈ children host layout node.toRef, c.digest ∈ s.manifests.map (·.digest)) :
    Walked host layout open_ stack (addManifest s node) walk ∧
      node.digest ∈ (addManifest s node).manifests.map (·.digest) ∧
      ∀ d ∈ s.manifests.map (·.digest), d ∈ (addManifest s node).manifests.map (·.digest) := by
  unfold addManifest
  split
  next known =>
    refine ⟨{ h with placed := ?_ }, known, fun _ mem => mem⟩
    intro r mem
    cases h.placed r mem with
    | inl listed => exact .inl listed
    | inr pending =>
      cases List.mem_cons.mp pending with
      | inl eq => exact .inl (eq ▸ known)
      | inr pending => exact .inr pending
  next fresh =>
    have listed := done.resolve_left fresh
    have more : ∀ d ∈ s.manifests.map (·.digest),
        d ∈ (s.manifests ++ [node]).map (·.digest) := by
      intro d mem
      rw [List.map_append]
      exact List.mem_append_left _ mem
    have here : node.digest ∈ (s.manifests ++ [node]).map (·.digest) := by simp
    refine ⟨?_, here, more⟩
    constructor
    case seen => exact h.seen
    case walk_nodup => exact h.walk_nodup
    case manifests_nodup =>
      rw [List.map_append, List.map_singleton, ← List.concat_eq_append]
      exact h.manifests_nodup.concat fresh
    case blobs_nodup => exact h.blobs_nodup
    case manifests_read =>
      intro n mem
      cases List.mem_append.mp mem with
      | inl old => exact h.manifests_read n old
      | inr new => exact List.mem_singleton.mp new ▸ read
    case blobs_read => exact h.blobs_read
    case manifests_walked =>
      intro n mem
      cases List.mem_append.mp mem with
      | inl old => exact h.manifests_walked n old
      | inr new => exact List.mem_singleton.mp new ▸ entered
    case manifests_from =>
      intro n mem
      cases List.mem_append.mp mem with
      | inl old => exact h.manifests_from n old
      | inr new => exact List.mem_singleton.mp new ▸ child
    case blobs_from => exact h.blobs_from
    case finished =>
      intro r mem closed
      obtain ⟨old, stored⟩ := h.finished r mem closed
      exact ⟨fun c child => more _ (old c child), stored⟩
    case placed =>
      intro r mem
      cases h.placed r mem with
      | inl old => exact .inl (more _ old)
      | inr pending =>
        cases List.mem_cons.mp pending with
        | inl eq => exact .inl (eq ▸ here)
        | inr pending => exact .inr pending
    case ordered =>
      intro before n after split c child
      obtain rfl | ⟨front, last, rfl⟩ := List.eq_nil_or_concat after
      · obtain ⟨rfl, last⟩ := List.append_inj' split rfl
        cases last
        exact listed c child
      · rw [List.concat_eq_append, ← List.cons_append, ← List.append_assoc] at split
        obtain ⟨old, -⟩ := List.append_inj' split rfl
        exact h.ordered before n front old c child

end OptimizrActions.Oci
