import OptimizrActions.Lib.Check
import OptimizrActions.Lib.DepthFirst
import OptimizrActions.Lib.Host
import Mathlib.Data.Finset.Card

/-! Loading the graph of an exported OCI image layout. -/

namespace OptimizrActions.Oci

def isDigest (s : String) : Bool := Text.sha256Text Text.isLowerHex s

def indexMediaTypes : List String :=
  ["application/vnd.oci.image.index.v1+json",
    "application/vnd.docker.distribution.manifest.list.v2+json"]

def manifestMediaTypes : List String :=
  ["application/vnd.oci.image.manifest.v1+json",
    "application/vnd.docker.distribution.manifest.v2+json"]

/-- A layout directory: `index.json` when it can be read, and the files of
`blobs/sha256` by name. -/
structure Layout where
  index : Option (List UInt8)
  blobs : List (String × List UInt8)

/-- What a descriptor says about a document: its media type and digest. -/
structure Ref where
  mediaType : String
  digest : String
  deriving DecidableEq, Repr

structure Node extends Ref where
  data : List UInt8
  deriving DecidableEq

section

variable (host : Host) (layout : Layout)

/-- `str(mapping.get(field, ""))` -/
def textField (fields : Mapping) (field : String) : String :=
  match fields.lookup field with
  | none => ""
  | some (.str s) => s
  | some value => host.str value

def refOf (descriptor : Mapping) : Ref :=
  ⟨textField host descriptor "mediaType", textField host descriptor "digest"⟩

/-- The content of a blob whose name is the digest of that content. -/
def readBlob (digest : String) : Except String (List UInt8) := do
  require (isDigest digest) ("layout references a non-sha256 digest: " ++ digest)
  match layout.blobs.lookup (String.ofList (digest.toList.drop 7)) with
  | none => .error ("exported layout is missing blob " ++ digest)
  | some data => do
    require ("sha256:" ++ host.sha256Hex data = digest)
      ("exported blob content does not match digest " ++ digest)
    pure data

/-- `document.get(field) or []` as a list; another truthy value raises. -/
def listed (document : Mapping) (field : String) : Except String (List Json) :=
  match document.get field with
  | .arr items => .ok items
  | value => if value.truthy then .error (field ++ " is not a list") else .ok []

def loadDocument (data : List UInt8) : Except String Mapping :=
  match host.loads data with
  | some (.obj document) => .ok document
  | some _ => .error "document has no fields"
  | none => .error "document is not JSON"

/-- What the traversal has collected; `seen` is in the order of the visits. -/
structure Collected where
  blobs : List String
  manifests : List Node
  seen : List String

/-- The loop over the config and the layers of an image manifest. -/
def addBlobs (digest : String) : Collected → List Json → Except String Collected
  | s, [] => .ok s
  | s, .obj item :: rest => do
    let blob := textField host item "digest"
    let _ ← readBlob host layout blob
    addBlobs digest (if blob ∈ s.blobs then s else { s with blobs := s.blobs ++ [blob] }) rest
  | _, _ :: _ => .error ("manifest " ++ digest ++ " has an invalid descriptor")

def addManifest (s : Collected) (child : Node) : Collected :=
  if child.digest ∈ s.manifests.map (·.digest) then s
  else { s with manifests := s.manifests ++ [child] }

/-- The loop over the entries of an index. -/
def visitChildren (visit : Collected → Json → Except String (Collected × Node)) :
    Collected → List Json → Except String Collected
  | s, [] => .ok s
  | s, child :: rest => do
    let (s, node) ← visit s child
    visitChildren visit (addManifest s node) rest

/-- The documents of one descriptor; the bound on the depth is never met. -/
def visit : Nat → Collected → Json → Except String (Collected × Node)
  | 0, _, _ => .error "recursion limit"
  | fuel + 1, s, .obj descriptor => do
    let ref := refOf host descriptor
    let data ← readBlob host layout ref.digest
    let node : Node := ⟨ref, data⟩
    if ref.digest ∈ s.seen then pure (s, node)
    else do
      let s := { s with seen := s.seen ++ [ref.digest] }
      let document ← loadDocument host data
      if ref.mediaType ∈ indexMediaTypes then do
        let children ← listed document "manifests"
        let s ← visitChildren (visit fuel) s children
        pure (s, node)
      else if ref.mediaType ∈ manifestMediaTypes then do
        let layers ← listed document "layers"
        let s ← addBlobs host layout ref.digest s (document.get "config" :: layers)
        pure (s, node)
      else .error ("unsupported manifest media type: " ++ ref.mediaType)
  | _ + 1, _, _ => .error "descriptor has no fields"

structure Graph where
  blobs : List String
  manifests : List Node
  root : Node

/-- One visit for each file, and one that finds a file seen before. -/
def depthBound (layout : Layout) : Nat := layout.blobs.length + 1

/-- The only entry of `index.json`. -/
def rootDescriptor : Except String Json :=
  match layout.index with
  | none => .error "exported layout has no readable index.json"
  | some text => do
    let top ← loadDocument host text
    match ← listed top "manifests" with
    | [root] => .ok root
    | _ => .error "exported layout must contain exactly one root manifest"

def isText (s : String) : Json → Bool
  | .str t => t = s
  | _ => false

def loadGraphTo (fuel : Nat) (expectedDigest : String) : Except String Graph := do
  match ← rootDescriptor host layout with
  | .obj root => do
    require (isText expectedDigest (Mapping.get root "digest"))
      "exported layout digest does not match the built image digest"
    let (s, node) ← visit host layout fuel ⟨[], [], []⟩ (.obj root)
    pure ⟨s.blobs, s.manifests, node⟩
  | _ => .error "descriptor has no fields"

def loadGraph (expectedDigest : String) : Except String Graph :=
  loadGraphTo host layout (depthBound layout) expectedDigest

end

section

variable {host : Host} {layout : Layout}

theorem readBlob_hash {digest : String} {data : List UInt8}
    (h : readBlob host layout digest = .ok data) :
    layout.blobs.lookup (String.ofList (digest.toList.drop 7)) = some data ∧
      "sha256:" ++ host.sha256Hex data = digest := by
  simp only [readBlob, bind_eq_ok, require_eq_ok, exists_const] at h
  obtain ⟨-, h⟩ := h
  split at h
  · cases h
  · simp only [bind_eq_ok, require_eq_ok, exists_const, pure_eq_ok] at h
    obtain ⟨hash, rfl⟩ := h
    exact ⟨‹_›, hash⟩

theorem readBlob_isDigest {digest : String} {data : List UInt8}
    (h : readBlob host layout digest = .ok data) : isDigest digest = true := by
  simp only [readBlob, bind_eq_ok, require_eq_ok, exists_const] at h
  exact h.1

theorem textField_of_isText {fields : Mapping} {field s : String}
    (h : isText s (fields.get field) = true) : textField host fields field = s := by
  rw [Mapping.get] at h
  unfold textField
  cases found : fields.lookup field with
  | none => simp [found, isText] at h
  | some value =>
    cases value with
    | str t => simpa [found, isText] using h
    | _ => simp [found, isText] at h

theorem isDigest_eq {digest : String} (h : isDigest digest = true) :
    "sha256:" ++ String.ofList (digest.toList.drop 7) = digest := by
  rw [isDigest, Text.sha256Text, Bool.and_eq_true, List.isPrefixOf_iff_prefix] at h
  obtain ⟨rest, eq⟩ := h.1
  apply String.ext
  simp [← eq]

theorem lookup_mem {files : List (String × List UInt8)} {name : String} {data : List UInt8}
    (h : files.lookup name = some data) : (name, data) ∈ files := by
  induction files with
  | nil => cases h
  | cons file rest ih =>
    obtain ⟨key, content⟩ := file
    by_cases same : name = key
    · subst same
      simp only [List.lookup_cons_self, Option.some.injEq] at h
      exact h ▸ List.mem_cons_self
    · have different : (name == key) = false := beq_false_of_ne same
      simp only [List.lookup_cons, different] at h
      exact List.mem_cons_of_mem _ (ih h)

/-! ### The digests of a graph -/

theorem addBlobs_manifests {digest : String} {s s' : Collected} {items : List Json}
    (h : addBlobs host layout digest s items = .ok s') : s'.manifests = s.manifests := by
  induction items generalizing s with
  | nil =>
    cases h
    rfl
  | cons item rest ih =>
    cases item with
    | obj item =>
      simp only [addBlobs, bind_eq_ok] at h
      obtain ⟨_, -, h⟩ := h
      rw [ih h]
      split <;> rfl
    | _ => cases h

def DigestNodes (nodes : List Node) : Prop := ∀ n ∈ nodes, isDigest n.digest = true

theorem addManifest_digests {s : Collected} {child : Node} (h : DigestNodes s.manifests)
    (valid : isDigest child.digest = true) : DigestNodes (addManifest s child).manifests := by
  unfold addManifest
  split
  · exact h
  · intro n mem
    cases List.mem_append.mp mem with
    | inl old => exact h n old
    | inr new => exact List.mem_singleton.mp new ▸ valid

theorem visitChildren_digests {visitOne : Collected → Json → Except String (Collected × Node)}
    (one : ∀ {s item s' node}, visitOne s item = .ok (s', node) → DigestNodes s.manifests →
      DigestNodes s'.manifests ∧ isDigest node.digest = true)
    {s s' : Collected} {items : List Json} (h : visitChildren visitOne s items = .ok s')
    (start : DigestNodes s.manifests) : DigestNodes s'.manifests := by
  induction items generalizing s with
  | nil =>
    cases h
    exact start
  | cons item rest ih =>
    simp only [visitChildren, bind_eq_ok] at h
    obtain ⟨⟨s₁, node⟩, first, h⟩ := h
    have step := one first start
    exact ih h (addManifest_digests step.1 step.2)

theorem visit_digests {fuel : Nat} {s s' : Collected} {item : Json} {node : Node}
    (h : visit host layout fuel s item = .ok (s', node)) (start : DigestNodes s.manifests) :
    DigestNodes s'.manifests ∧ isDigest node.digest = true := by
  induction fuel generalizing s s' item node with
  | zero => cases h
  | succ fuel ih =>
    cases item with
    | obj descriptor =>
      simp only [visit, bind_eq_ok] at h
      obtain ⟨data, read, h⟩ := h
      have valid := readBlob_isDigest read
      split at h
      · cases h
        exact ⟨start, valid⟩
      · simp only [bind_eq_ok] at h
        obtain ⟨_, -, h⟩ := h
        split at h
        · simp only [bind_eq_ok, pure_eq_ok, Prod.mk.injEq] at h
          obtain ⟨_, -, _, h, rfl, rfl⟩ := h
          exact ⟨visitChildren_digests (fun one => ih one) h start, valid⟩
        · split at h
          · simp only [bind_eq_ok, pure_eq_ok, Prod.mk.injEq] at h
            obtain ⟨_, -, _, h, rfl, rfl⟩ := h
            exact ⟨addBlobs_manifests h ▸ start, valid⟩
          · cases h
    | _ => cases h

theorem visit_root {fuel : Nat} {s s' : Collected} {descriptor : Mapping} {node : Node}
    (h : visit host layout fuel s (.obj descriptor) = .ok (s', node)) :
    node.toRef = refOf host descriptor := by
  cases fuel with
  | zero => cases h
  | succ fuel =>
    simp only [visit, bind_eq_ok] at h
    obtain ⟨data, read, h⟩ := h
    split at h
    · cases h
      rfl
    · simp only [bind_eq_ok] at h
      obtain ⟨_, -, h⟩ := h
      split at h
      · simp only [bind_eq_ok, pure_eq_ok, Prod.mk.injEq] at h
        obtain ⟨_, -, _, -, -, rfl⟩ := h
        rfl
      · split at h
        · simp only [bind_eq_ok, pure_eq_ok, Prod.mk.injEq] at h
          obtain ⟨_, -, _, -, -, rfl⟩ := h
          rfl
        · cases h

/-- The root has the expected digest, and the manifests are named by digests. -/
theorem loadGraph_digests {expectedDigest : String} {g : Graph}
    (load : loadGraph host layout expectedDigest = .ok g) :
    g.root.digest = expectedDigest ∧ DigestNodes g.manifests := by
  simp only [loadGraph, loadGraphTo, bind_eq_ok] at load
  obtain ⟨root, -, load⟩ := load
  split at load
  next root =>
    simp only [bind_eq_ok, require_eq_ok, exists_const, pure_eq_ok] at load
    obtain ⟨expected, ⟨s, node⟩, run, rfl⟩ := load
    constructor
    · change node.toRef.digest = expectedDigest
      rw [visit_root run]
      exact textField_of_isText expected
    · exact (visit_digests run (List.forall_mem_nil _)).1
  next => cases load

/-! ### The depth bound -/

/-- The digests of the layout's files that no visit has seen. -/
def unread (layout : Layout) (seen : List String) : Finset String :=
  (layout.blobs.map fun file => "sha256:" ++ file.1).toFinset \ seen.toFinset

theorem unread_mono {seen seen' : List String} (h : seen ⊆ seen') :
    (unread layout seen').card ≤ (unread layout seen).card := by
  apply Finset.card_le_card
  apply Finset.sdiff_subset_sdiff (Finset.Subset.refl _)
  intro d mem
  exact List.mem_toFinset.mpr (h (List.mem_toFinset.mp mem))

/-- A document that is read for the first time was an unread file before. -/
theorem unread_lt {seen : List String} {digest : String} {data : List UInt8}
    (read : readBlob host layout digest = .ok data) (fresh : digest ∉ seen) :
    (unread layout (seen ++ [digest])).card < (unread layout seen).card := by
  have valid := readBlob_isDigest read
  have file := lookup_mem (readBlob_hash read).1
  have here : digest ∈ unread layout seen := by
    simp only [unread, Finset.mem_sdiff, List.mem_toFinset, List.mem_map]
    exact ⟨⟨_, file, isDigest_eq valid⟩, fresh⟩
  apply Finset.card_lt_card
  refine ⟨?_, fun back => ?_⟩
  · apply Finset.sdiff_subset_sdiff (Finset.Subset.refl _)
    intro d mem
    exact List.mem_toFinset.mpr (List.mem_append_left _ (List.mem_toFinset.mp mem))
  · have := back here
    simp [unread] at this

theorem addBlobs_seen {digest : String} {s s' : Collected} {items : List Json}
    (h : addBlobs host layout digest s items = .ok s') : s'.seen = s.seen := by
  induction items generalizing s with
  | nil =>
    cases h
    rfl
  | cons item rest ih =>
    cases item with
    | obj item =>
      simp only [addBlobs, bind_eq_ok] at h
      obtain ⟨_, -, h⟩ := h
      rw [ih h]
      split <;> rfl
    | _ => cases h

theorem addManifest_seen (s : Collected) (node : Node) : (addManifest s node).seen = s.seen := by
  unfold addManifest
  split <;> rfl

theorem visitChildren_seen {visitOne : Collected → Json → Except String (Collected × Node)}
    (one : ∀ {s item s' node}, visitOne s item = .ok (s', node) → s.seen ⊆ s'.seen)
    {s s' : Collected} {items : List Json} (h : visitChildren visitOne s items = .ok s') :
    s.seen ⊆ s'.seen := by
  induction items generalizing s with
  | nil =>
    cases h
    exact List.Subset.refl _
  | cons item rest ih =>
    simp only [visitChildren, bind_eq_ok] at h
    obtain ⟨⟨s₁, node⟩, first, h⟩ := h
    have later := ih h
    rw [addManifest_seen] at later
    exact List.Subset.trans (one first) later

theorem visit_seen {fuel : Nat} {s s' : Collected} {item : Json} {node : Node}
    (h : visit host layout fuel s item = .ok (s', node)) : s.seen ⊆ s'.seen := by
  induction fuel generalizing s s' item node with
  | zero => cases h
  | succ fuel ih =>
    cases item with
    | obj descriptor =>
      simp only [visit, bind_eq_ok] at h
      obtain ⟨_, -, h⟩ := h
      split at h
      · cases h
        exact List.Subset.refl _
      · simp only [bind_eq_ok] at h
        obtain ⟨_, -, h⟩ := h
        apply List.Subset.trans (List.subset_append_left s.seen [(refOf host descriptor).digest])
        split at h
        · simp only [bind_eq_ok, pure_eq_ok, Prod.mk.injEq] at h
          obtain ⟨_, -, _, h, rfl, rfl⟩ := h
          exact visitChildren_seen (fun one => ih one) h
        · split at h
          · simp only [bind_eq_ok, pure_eq_ok, Prod.mk.injEq] at h
            obtain ⟨_, -, _, h, rfl, rfl⟩ := h
            rw [addBlobs_seen h]
            exact List.Subset.refl _
          · cases h
    | _ => cases h

theorem visitChildren_congr (layout : Layout) {f g : Collected → Json → Except String (Collected × Node)} {n : Nat}
    (same : ∀ s item, (unread layout s.seen).card ≤ n → f s item = g s item)
    (one : ∀ {s item s' node}, f s item = .ok (s', node) → s.seen ⊆ s'.seen)
    {s : Collected} {items : List Json} (h : (unread layout s.seen).card ≤ n) :
    visitChildren f s items = visitChildren g s items := by
  induction items generalizing s with
  | nil => rfl
  | cons item rest ih =>
    rw [visitChildren, visitChildren, ← same s item h]
    cases first : f s item with
    | error e => rfl
    | ok next =>
      apply ih
      rw [addManifest_seen]
      exact (unread_mono (one first)).trans h

/-- A deeper bound changes nothing once there is a level for each unread file. -/
theorem visit_enough {fuel : Nat} {s : Collected} {item : Json}
    (h : (unread layout s.seen).card < fuel) :
    visit host layout fuel s item = visit host layout (fuel + 1) s item := by
  induction fuel generalizing s item with
  | zero => exact absurd h (Nat.not_lt_zero _)
  | succ fuel ih =>
    cases item with
    | obj descriptor =>
      rw [visit, visit]
      cases read : readBlob host layout (refOf host descriptor).digest with
      | error e => rfl
      | ok data =>
        simp only [bind, Except.bind]
        split
        · rfl
        next fresh =>
          have fewer := unread_lt read fresh
          have below : (unread layout (s.seen ++ [(refOf host descriptor).digest])).card ≤
              fuel - 1 := by omega
          cases loadDocument host data with
          | error e => rfl
          | ok document =>
            simp only
            split
            · cases listed document "manifests" with
              | error e => rfl
              | ok items =>
                simp only
                rw [visitChildren_congr layout (n := fuel - 1) (fun s item le => ih (by omega))
                  (fun one => visit_seen one) below]
            · rfl
    | _ => rfl

/-- The depth bound of the loader is no restriction. -/
theorem loadGraphTo_eq (expectedDigest : String) (more : Nat) :
    loadGraphTo host layout (depthBound layout + more) expectedDigest =
      loadGraph host layout expectedDigest := by
  induction more with
  | zero => rfl
  | succ more ih =>
    rw [← ih]
    have files : (unread layout []).card < depthBound layout + more := by
      have card := List.toFinset_card_le (layout.blobs.map fun file => "sha256:" ++ file.1)
      simp only [List.length_map] at card
      simp only [unread, List.toFinset_nil, Finset.sdiff_empty, depthBound]
      omega
    simp only [loadGraphTo, ← Nat.add_assoc]
    congr 1
    funext root
    cases root with
    | obj root =>
      simp only
      congr 1
      funext _
      rw [← visit_enough files]
    | _ => rfl

end

end OptimizrActions.Oci
