import OptimizrActions.Oci.Traversal

/-! The graph that the loader returns: complete, without repetition and in
dependency order. -/

namespace OptimizrActions.Oci

open DepthFirst

variable {host : Host} {layout : Layout}

/-- The descriptors read by the walk, in order. -/
def walkFrom (host : Host) (layout : Layout) (fuel : Nat) (walk : List Ref) (r : Ref) : List Ref :=
  enter (·.digest) (children host layout) fuel walk r

/-- What one visit establishes, from a state with `stack` in progress. -/
structure Visited (host : Host) (layout : Layout) (stack : List String) (s s' : Collected)
    (walk : List Ref) (node : Node) : Prop where
  read : readBlob host layout node.digest = .ok node.data
  walked : Walked host layout stack (node.digest :: stack) s' walk
  entered : node.digest ∈ walk.map (·.digest)
  done : node.digest ∈ s'.manifests.map (·.digest) ∨
    ∀ c ∈ children host layout node.toRef, c.digest ∈ s'.manifests.map (·.digest)
  kept : ∀ d ∈ s.manifests.map (·.digest), d ∈ s'.manifests.map (·.digest)

/-- The walk never comes back to a document in progress. -/
def Below (host : Host) (layout : Layout) (stack : List String) (d : String) : Prop :=
  ∀ d' ∈ stack, Relation.TransGen (Refers host layout) d' d

theorem Below.not_mem {stack : List String} {d : String} (acyclic : Acyclic host layout)
    (h : Below host layout stack d) : d ∉ stack :=
  fun mem => acyclic d (h d mem)

theorem Below.child {stack : List String} {r c : Ref} (h : Below host layout stack r.digest)
    (mem : c ∈ children host layout r) : Below host layout (r.digest :: stack) c.digest := by
  have edge : Refers host layout r.digest c.digest := ⟨r, c, rfl, mem, rfl⟩
  intro d inside
  cases List.mem_cons.mp inside with
  | inl eq => exact eq ▸ .single edge
  | inr inside => exact (h d inside).tail edge

theorem walkFrom_extends (fuel : Nat) (walk : List Ref) (r : Ref) :
    walk <+: walkFrom host layout fuel walk r :=
  enter_extends fuel walk r

theorem visitChildren_walked {visitOne : Collected → Json → Except String (Collected × Node)}
    (fuel : Nat) (stack : List String) {r : Ref} {s s' : Collected} {walk : List Ref}
    {items : List Json}
    (one : ∀ {s s' : Collected} {walk : List Ref} {item : Json} {node : Node},
      visitOne s item = .ok (s', node) →
      Walked host layout (r.digest :: stack) (r.digest :: stack) s walk →
      ∃ descriptor, item = .obj descriptor ∧ node.toRef = refOf host descriptor ∧
        (node.toRef ∈ children host layout r →
          Visited host layout (r.digest :: stack) s s'
            (walkFrom host layout fuel walk node.toRef) node))
    (run : visitChildren visitOne s items = .ok s')
    (h : Walked host layout (r.digest :: stack) (r.digest :: stack) s walk) (entered : r ∈ walk)
    (listed : ∀ c ∈ (objects items).map (refOf host), c ∈ children host layout r) :
    Walked host layout (r.digest :: stack) (r.digest :: stack) s'
        (((objects items).map (refOf host)).foldl (walkFrom host layout fuel) walk) ∧
      (∀ c ∈ (objects items).map (refOf host), c.digest ∈ s'.manifests.map (·.digest)) ∧
      ∀ d ∈ s.manifests.map (·.digest), d ∈ s'.manifests.map (·.digest) := by
  induction items generalizing s walk with
  | nil =>
    cases run
    exact ⟨h, nofun, fun _ mem => mem⟩
  | cons item rest ih =>
    simp only [visitChildren, bind_eq_ok] at run
    obtain ⟨⟨s₁, node⟩, first, run⟩ := run
    obtain ⟨descriptor, rfl, ref, visited⟩ := one first h
    have child : node.toRef ∈ children host layout r := by
      rw [ref]
      exact listed _ (List.mem_map_of_mem List.mem_cons_self)
    have visited := visited child
    have still : r ∈ walkFrom host layout fuel walk node.toRef :=
      (walkFrom_extends fuel walk _).subset entered
    obtain ⟨placed, here, kept⟩ := visited.walked.place visited.read ⟨r, still, child⟩
      visited.entered visited.done
    obtain ⟨walked, others, later⟩ := ih run placed still fun c mem =>
      listed c (List.mem_cons_of_mem _ mem)
    have start : ((objects (.obj descriptor :: rest)).map (refOf host)) =
        node.toRef :: (objects rest).map (refOf host) := by rw [ref]; rfl
    rw [start, List.foldl_cons]
    refine ⟨walked, ?_, fun d mem => later d (kept d (visited.kept d mem))⟩
    intro c mem
    cases List.mem_cons.mp mem with
    | inl eq => exact eq ▸ later _ here
    | inr mem => exact others c mem

theorem visit_walked (acyclic : Acyclic host layout) {fuel : Nat} {stack : List String}
    {s s' : Collected} {walk : List Ref} {item : Json} {node : Node}
    (run : visit host layout fuel s item = .ok (s', node))
    (h : Walked host layout stack stack s walk) :
    ∃ descriptor, item = .obj descriptor ∧ node.toRef = refOf host descriptor ∧
      (Below host layout stack node.digest →
        Visited host layout stack s s' (walkFrom host layout fuel walk node.toRef) node) := by
  induction fuel generalizing stack s s' walk item node with
  | zero => cases run
  | succ fuel ih =>
    cases item with
    | obj descriptor =>
      simp only [visit, bind_eq_ok] at run
      obtain ⟨data, read, run⟩ := run
      refine ⟨descriptor, rfl, ?_⟩
      split at run
      next seen =>
        simp only [pure_eq_ok, Prod.mk.injEq] at run
        obtain ⟨rfl, rfl⟩ := run
        refine ⟨rfl, fun below => ?_⟩
        have known : (refOf host descriptor).digest ∈ walk.map (·.digest) := h.seen ▸ seen
        rw [walkFrom, enter_of_mem known]
        obtain ⟨p, mem, same⟩ := List.mem_map.mp known
        -- A document seen before is finished, so it is listed already.
        have listed := (h.placed p mem).resolve_right (same ▸ below.not_mem acyclic)
        exact ⟨read, h.pend _, known, .inl (same ▸ listed), fun _ mem => mem⟩
      next fresh =>
        simp only [bind_eq_ok] at run
        obtain ⟨document, load, run⟩ := run
        have doc := documentOf_eq read load
        have entered := h.enter fresh
        have new : (refOf host descriptor).digest ∉ walk.map (·.digest) := h.seen ▸ fresh
        split at run
        next index =>
          simp only [bind_eq_ok, pure_eq_ok, Prod.mk.injEq] at run
          obtain ⟨items, list, _, run, rfl, rfl⟩ := run
          refine ⟨rfl, fun below => ?_⟩
          have listed : (objects items).map (refOf host) =
              children host layout (refOf host descriptor) := by
            simp [children, index, doc, listed_eq_ok list]
          have contents_nil : contents host layout (refOf host descriptor) = [] := by
            simp [contents, index_not_manifest index]
          have order : walkFrom host layout (fuel + 1) walk (refOf host descriptor) =
              (children host layout (refOf host descriptor)).foldl (walkFrom host layout fuel)
                (walk ++ [refOf host descriptor]) := by
            rw [walkFrom, enter, if_neg new]
            rfl
          have walked := visitChildren_walked (r := refOf host descriptor) fuel stack (fun {s s' walk item node} one h => by
              obtain ⟨d, rfl, ref, visited⟩ := ih one h
              exact ⟨d, rfl, ref, fun child => visited (below.child child)⟩)
            run entered (List.mem_append_right _ List.mem_cons_self) (fun c mem => listed ▸ mem)
          rw [listed, ← order] at walked
          obtain ⟨walked, all, kept⟩ := walked
          have mem : refOf host descriptor ∈
              walkFrom host layout (fuel + 1) walk (refOf host descriptor) := self_mem_enter new
          refine ⟨read, ?_, List.mem_map_of_mem mem, .inr all, kept⟩
          apply walked.close mem all
          rw [contents_nil]
          exact List.forall_mem_nil _
        next notIndex =>
          split at run
          next manifest =>
            simp only [bind_eq_ok, pure_eq_ok, Prod.mk.injEq] at run
            obtain ⟨layers, list, s₁, run, rfl, rfl⟩ := run
            refine ⟨rfl, fun below => ?_⟩
            have children_nil : children host layout (refOf host descriptor) = [] := by
              simp [children, notIndex]
            have stored : contents host layout (refOf host descriptor) =
                (objects (document.get "config" :: layers)).map (textField host · "digest") := by
              have split : objects (document.get "config" :: layers) =
                  objects [document.get "config"] ++ objects layers := by
                rw [objects, objects, objects, ← List.filterMap_append]
                rfl
              simp [contents, manifest, doc, split, listed_eq_ok list]
            have order : walkFrom host layout (fuel + 1) walk (refOf host descriptor) =
                walk ++ [refOf host descriptor] := by
              rw [walkFrom, enter, if_neg new, children_nil]
              rfl
            have mem : refOf host descriptor ∈ walk ++ [refOf host descriptor] :=
              List.mem_append_right _ List.mem_cons_self
            obtain ⟨walked, same, -, all⟩ := addBlobs_walked run entered mem
              (fun item mem => stored ▸ List.mem_map_of_mem mem)
            rw [order]
            refine ⟨read, ?_, List.mem_map_of_mem mem, .inr (by simp [children_nil]),
              fun d known => same ▸ known⟩
            apply walked.close mem
            · rw [children_nil]
              exact List.forall_mem_nil _
            · intro b content
              rw [stored] at content
              obtain ⟨item, mem, rfl⟩ := List.mem_map.mp content
              exact all item mem
          next => cases run
    | _ => cases run

/-! ### The loaded graph -/

/-- A loaded graph, checked against everything that its root reaches. -/
structure CompleteGraph (host : Host) (layout : Layout) (g : Graph) : Prop where
  manifests_nodup : (g.manifests.map (·.digest)).Nodup
  ordered : ∀ before n after, g.manifests = before ++ n :: after →
    ∀ c ∈ children host layout n.toRef, c.digest ∈ before.map (·.digest)
  closed : ∀ r, Reaches (children host layout) g.root.toRef r → ∀ c ∈ children host layout r,
    c.digest = g.root.digest ∨ c.digest ∈ g.manifests.map (·.digest)
  blobs_nodup : g.blobs.Nodup
  stored : ∀ r, Reaches (children host layout) g.root.toRef r → ∀ b ∈ contents host layout r,
    b ∈ g.blobs
  nodes_hash : ∀ n ∈ g.root :: g.manifests, "sha256:" ++ host.sha256Hex n.data = n.digest
  blobs_hash : ∀ b ∈ g.blobs, ∃ data, readBlob host layout b = .ok data ∧
    "sha256:" ++ host.sha256Hex data = b

/-- The descriptors in the order in which a depth-first walk that enters each
digest once meets them. -/
def readOrder (host : Host) (layout : Layout) (root : Ref) : List Ref :=
  walkFrom host layout (depthBound layout) [] root

/-- A descriptor that is met after its digest was read under another media type
lists nothing but what the descriptors read list too. -/
def SkippedAddNothing (host : Host) (layout : Layout) (root : Ref) : Prop :=
  ∀ r, Reaches (children host layout) root r → r ∉ readOrder host layout root →
    (∀ c ∈ children host layout r, c.digest = root.digest ∨
      ∃ p ∈ readOrder host layout root, ∃ c' ∈ children host layout p, c'.digest = c.digest) ∧
    ∀ b ∈ contents host layout r, ∃ p ∈ readOrder host layout root, b ∈ contents host layout p

theorem loadGraph_walked (acyclic : Acyclic host layout) {expectedDigest : String} {g : Graph}
    (load : loadGraph host layout expectedDigest = .ok g) :
    ∃ s, g = ⟨s.blobs, s.manifests, g.root⟩ ∧ g.root.digest = expectedDigest ∧
      Visited host layout [] ⟨[], [], []⟩ s (readOrder host layout g.root.toRef) g.root := by
  simp only [loadGraph, loadGraphTo, bind_eq_ok] at load
  obtain ⟨root, -, load⟩ := load
  split at load
  next root =>
    simp only [bind_eq_ok, require_eq_ok, exists_const, pure_eq_ok] at load
    obtain ⟨expected, ⟨s, node⟩, run, rfl⟩ := load
    have start : Walked host layout [] [] ⟨[], [], []⟩ [] := by
      constructor <;> simp
    obtain ⟨descriptor, eq, ref, visited⟩ := visit_walked acyclic run start
    cases eq
    refine ⟨s, rfl, ?_, visited nofun⟩
    change node.toRef.digest = expectedDigest
    rw [ref]
    exact textField_of_isText expected
  next => cases load

/-- Of an acyclic layout the loader returns the complete graph exactly when nothing
is lost with the descriptors that it skips. -/
theorem completeGraph_iff {expectedDigest : String} {g : Graph} (acyclic : Acyclic host layout)
    (load : loadGraph host layout expectedDigest = .ok g) :
    CompleteGraph host layout g ↔ SkippedAddNothing host layout g.root.toRef := by
  obtain ⟨s, eq, -, visited⟩ := loadGraph_walked acyclic load
  have walked := visited.walked
  have manifests : g.manifests = s.manifests := by rw [eq]
  have blobs : g.blobs = s.blobs := by rw [eq]
  constructor
  · intro complete r reach skipped
    constructor
    · intro c child
      apply (complete.closed r reach c child).imp_right
      intro mem
      rw [manifests] at mem
      obtain ⟨n, mem, same⟩ := List.mem_map.mp mem
      obtain ⟨p, read, listed⟩ := walked.manifests_from n mem
      exact ⟨p, read, n.toRef, listed, same⟩
    · intro b content
      have mem := complete.stored r reach b content
      rw [blobs] at mem
      exact walked.blobs_from b mem
  · intro nothing
    constructor
    case manifests_nodup => exact manifests ▸ walked.manifests_nodup
    case ordered => exact manifests ▸ walked.ordered
    case blobs_nodup => exact blobs ▸ walked.blobs_nodup
    case closed =>
      intro r reach c child
      rw [manifests]
      by_cases read : r ∈ readOrder host layout g.root.toRef
      · exact .inr ((walked.finished r read nofun).1 c child)
      · apply ((nothing r reach read).1 c child).imp_right
        intro ⟨p, read, c', child, same⟩
        exact same ▸ (walked.finished p read nofun).1 c' child
    case stored =>
      intro r reach b content
      rw [blobs]
      by_cases read : r ∈ readOrder host layout g.root.toRef
      · exact (walked.finished r read nofun).2 b content
      · obtain ⟨p, read, content⟩ := (nothing r reach read).2 b content
        exact (walked.finished p read nofun).2 b content
    case nodes_hash =>
      intro n mem
      rw [manifests] at mem
      cases List.mem_cons.mp mem with
      | inl root => exact root ▸ (readBlob_hash visited.read).2
      | inr mem => exact (readBlob_hash (walked.manifests_read n mem)).2
    case blobs_hash =>
      intro b mem
      rw [blobs] at mem
      obtain ⟨data, read⟩ := walked.blobs_read b mem
      exact ⟨data, read, (readBlob_hash read).2⟩

/-- The digests that a file lists rank above its own. -/
def ranksAbove (host : Host) (rank : String → Nat) (file : String × List UInt8) : Bool :=
  match loadDocument host file.2 with
  | .ok document => (entries document "manifests").all fun item =>
      rank ("sha256:" ++ host.sha256Hex file.2) < rank (textField host item "digest")
  | .error _ => true

/-- Digests that only ever grow in rank along a reference form no cycle. -/
theorem acyclic_of_rank (rank : String → Nat)
    (h : layout.blobs.all (ranksAbove host rank) = true) : Acyclic host layout := by
  have step : ∀ d d', Refers host layout d d' → rank d < rank d' := by
    intro d d' ⟨r, r', same, child, same'⟩
    subst same same'
    unfold children at child
    split at child
    · split at child
      next document found =>
        obtain ⟨item, mem, rfl⟩ := List.mem_map.mp child
        unfold documentOf at found
        split at found
        next data read =>
          obtain ⟨file, hash⟩ := readBlob_hash read
          rw [← hash]
          have load : loadDocument host data = .ok document := by
            cases load : loadDocument host data with
            | error e => simp [load, Except.toOption] at found
            | ok document' => simpa [load, Except.toOption] using found
          have above := List.all_eq_true.mp h _ (lookup_mem file)
          simp only [ranksAbove, load, List.all_eq_true, decide_eq_true_eq] at above
          exact above item mem
        next => cases found
      next => cases child
    · cases child
  intro d cycle
  have rising : ∀ d', Relation.TransGen (Refers host layout) d d' → rank d < rank d' := by
    intro d' path
    induction path with
    | single edge => exact step _ _ edge
    | tail _ edge ih => exact ih.trans (step _ _ edge)
  exact absurd (rising d cycle) (lt_irrefl _)

def byteDigest (b : UInt8) : String := "sha256:" ++ hexdigest fun _ => b

def sampleDescriptor (mediaType : String) (b : UInt8) : Json :=
  .obj [("mediaType", .str mediaType), ("digest", .str (byteDigest b))]

def ociIndex : String := "application/vnd.oci.image.index.v1+json"
def ociManifest : String := "application/vnd.oci.image.manifest.v1+json"

/-- A root index that lists document 2 as a manifest and again as an index. -/
def twiceHost : Host where
  sha256 data := fun _ => data.headD 0
  loads
    | [0] => some (.obj [("manifests", .arr [sampleDescriptor ociIndex 1])])
    | [1] => some (.obj [("manifests",
        .arr [sampleDescriptor ociManifest 2, sampleDescriptor ociIndex 2])])
    | [2] => some (.obj [("config", sampleDescriptor "" 3),
        ("manifests", .arr [sampleDescriptor ociManifest 4])])
    | [4] => some (.obj [("config", sampleDescriptor "" 3)])
    | _ => none
  dumps _ := []
  str _ := ""

def twiceLayout : Layout where
  index := some [0]
  blobs := [1, 2, 3, 4].map fun b => (hexdigest fun _ => b, [b])

theorem twice_acyclic : Acyclic twiceHost twiceLayout :=
  acyclic_of_rank (fun d => if d = byteDigest 1 then 0 else if d = byteDigest 2 then 1 else 2)
    (by decide +kernel)

theorem twice_loads : ∃ g, loadGraph twiceHost twiceLayout (byteDigest 1) = .ok g ∧
    g.root.toRef = ⟨ociIndex, byteDigest 1⟩ ∧ g.manifests.map (·.digest) = [byteDigest 2] := by
  have run : (loadGraph twiceHost twiceLayout (byteDigest 1)).map
      (fun g => (g.root.toRef, g.manifests.map (·.digest))) =
      .ok (⟨ociIndex, byteDigest 1⟩, [byteDigest 2]) := by decide +kernel
  obtain ⟨g, load, eq⟩ := map_eq_ok.mp run
  simp only [Prod.mk.injEq] at eq
  exact ⟨g, load, eq⟩

theorem completeGraph_iff_twice : ∃ g, loadGraph twiceHost twiceLayout (byteDigest 1) = .ok g ∧
    (CompleteGraph twiceHost twiceLayout g ↔
      SkippedAddNothing twiceHost twiceLayout g.root.toRef) := by
  obtain ⟨g, load, -⟩ := twice_loads
  exact ⟨g, load, completeGraph_iff twice_acyclic load⟩

/-- The manifest below the second reading of document 2 is lost. -/
theorem twice_incomplete : ¬∀ (host : Host) (layout : Layout) (expectedDigest : String) (g : Graph),
    Acyclic host layout → loadGraph host layout expectedDigest = .ok g →
    CompleteGraph host layout g := by
  intro claim
  obtain ⟨g, load, root, manifests⟩ := twice_loads
  have complete := claim _ _ _ g twice_acyclic load
  have second : ⟨ociIndex, byteDigest 2⟩ ∈
      children twiceHost twiceLayout ⟨ociIndex, byteDigest 1⟩ := by decide +kernel
  have lost : ⟨ociManifest, byteDigest 4⟩ ∈
      children twiceHost twiceLayout ⟨ociIndex, byteDigest 2⟩ := by decide +kernel
  have absent : byteDigest 4 ≠ byteDigest 1 ∧ byteDigest 4 ∉ [byteDigest 2] := by decide +kernel
  have reach : Reaches (children twiceHost twiceLayout) g.root.toRef ⟨ociIndex, byteDigest 2⟩ := by
    rw [root]
    exact .single second
  have listed := complete.closed _ reach _ lost
  rw [manifests] at listed
  cases listed with
  | inl same => exact absent.1 (same.trans (congrArg Ref.digest root))
  | inr mem => exact absent.2 mem

/-- Nothing is skipped when each digest is reached under one media type. -/
theorem skippedAddNothing_of_unique {expectedDigest : String} {g : Graph}
    (acyclic : Acyclic host layout) (load : loadGraph host layout expectedDigest = .ok g)
    (unique : ∀ a b, Reaches (children host layout) g.root.toRef a →
      Reaches (children host layout) g.root.toRef b → a.digest = b.digest → a = b) :
    SkippedAddNothing host layout g.root.toRef := by
  obtain ⟨s, -, -, visited⟩ := loadGraph_walked acyclic load
  have walked := visited.walked
  have reach : ∀ a ∈ readOrder host layout g.root.toRef,
      Reaches (children host layout) g.root.toRef a := enter_reaches nofun .refl
  have root : g.root.toRef ∈ readOrder host layout g.root.toRef := by
    obtain ⟨p, mem, same⟩ := List.mem_map.mp visited.entered
    have eq := unique p g.root.toRef (reach p mem) .refl same
    subst p
    exact mem
  intro r reached skipped
  have entered : r.digest ∈ (readOrder host layout g.root.toRef).map (·.digest) := by
    apply reaches_closed root _ reach _ reached
    · intro a b first second same
      rw [unique a b first second same]
    · intro a mem c child
      obtain ⟨n, listed, same⟩ := List.mem_map.mp ((walked.finished a mem nofun).1 c child)
      exact same ▸ walked.manifests_walked n listed
  obtain ⟨p, mem, same⟩ := List.mem_map.mp entered
  exact absurd (unique p r (reach p mem) reached same ▸ mem) skipped

end OptimizrActions.Oci
