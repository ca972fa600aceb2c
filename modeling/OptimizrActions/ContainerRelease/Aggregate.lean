import OptimizrActions.ContainerRelease.ExceptionSet
import OptimizrActions.Lib.Dict
import Mathlib.Data.String.Basic

/-! What an accepted image set guarantees, and that the order of its parts does not matter. -/

namespace OptimizrActions.ContainerRelease

open Exceptions

/-! ### The readers -/

@[simp] theorem serviceName_eq_ok {value : Json} {field name : String} :
    serviceName value field = .ok name ↔ value = .str name ∧ isService name = true := by
  cases value with
  | str s =>
    simp only [serviceName, bind_eq_ok, require_eq_ok, exists_const, pure_eq_ok, Json.str.injEq]
    constructor
    · rintro ⟨safe, rfl⟩
      exact ⟨rfl, safe⟩
    · rintro ⟨rfl, safe⟩
      exact ⟨safe, rfl⟩
  | _ => simp [serviceName]

@[simp] theorem requireTrue_eq_ok {value : Json} {message : String} {u : Unit} :
    requireTrue value message = .ok u ↔ value = .bool true := by
  unfold requireTrue
  split <;> simp_all

@[simp] theorem requireTrueWhen_eq_ok {asked : Bool} {value : Json} {message : String} {u : Unit} :
    requireTrueWhen asked value message = .ok u ↔ (asked = true → value = .bool true) := by
  unfold requireTrueWhen
  split <;> simp_all

@[simp] theorem requireEqual_eq_ok {value : Json} {text message : String} {u : Unit} :
    requireEqual value text message = .ok u ↔ value = .str text := by
  cases value <;> simp [requireEqual]

theorem rsplitAt_eq_some {text name digest : String} (h : rsplitAt text = some (name, digest)) :
    text = name ++ "@" ++ digest := by
  unfold rsplitAt at h
  split at h
  next mem =>
    obtain ⟨after, before, eq, fresh⟩ := List.eq_append_cons_of_mem (List.mem_reverse.mpr mem)
    rw [eq, KeyValue.cut_append fresh] at h
    cases h
    rw [← String.toList_inj, ← List.reverse_inj, eq]
    simp
  next => cases h

/-- The reference names the service's expected image and this digest. -/
theorem fullImageRef_eq_ok {value : Json} {request : Request} {service field : String}
    {ref digest : String} :
    fullImageRef value request service field = .ok (ref, digest) ↔
      value = .str ref ∧ rsplitAt ref = some (expectedName request service, digest) ∧
        isDigest digest = true := by
  cases value with
  | str text =>
    simp only [fullImageRef, Json.str.injEq]
    cases split : rsplitAt text with
    | none =>
      simp only [reduceCtorEq, false_iff]
      rintro ⟨rfl, split', -⟩
      cases split.symm.trans split'
    | some parts =>
      obtain ⟨name, tail⟩ := parts
      simp only [bind_eq_ok, require_eq_ok, exists_const, pure_eq_ok, Prod.mk.injEq]
      constructor
      · rintro ⟨⟨rfl, digits⟩, rfl, rfl⟩
        exact ⟨rfl, split, digits⟩
      · rintro ⟨rfl, split', digits⟩
        cases split.symm.trans split'
        exact ⟨⟨rfl, digits⟩, rfl, rfl⟩
  | _ => simp [fullImageRef]

theorem imageDigest_of_ref {request : Request} {service ref digest : String}
    (h : rsplitAt ref = some (expectedName request service, digest)) :
    imageDigest (service, ref) = digest := by
  simp [imageDigest, h]

/-! ### The three loops -/

/-- An object that names a service in this field. -/
def Named (field : String) (item : Json) (definition : Definition) : Prop :=
  item = .obj definition.2 ∧ definition.2.get field = .str definition.1 ∧
    isService definition.1 = true

theorem readService_reads : ReadsFresh readService (Named "name") Prod.fst := by
  intro index seen item definition
  obtain ⟨name, fields⟩ := definition
  cases item with
  | obj service =>
    simp only [readService, bind_eq_ok, serviceName_eq_ok, require_eq_ok, exists_const, pure_eq_ok,
      Named, Json.obj.injEq, Prod.mk.injEq]
    constructor
    · rintro ⟨_, ⟨get, safe⟩, fresh, rfl, rfl⟩
      exact ⟨⟨rfl, get, safe⟩, fresh⟩
    · rintro ⟨⟨rfl, get, safe⟩, fresh⟩
      exact ⟨name, ⟨get, safe⟩, fresh, rfl, rfl⟩
  | _ => simp [readService, Named]

theorem readUnchanged_reads (expected : List String) :
    ReadsFresh (readUnchanged expected)
      (fun item definition => Named "service" item definition ∧ definition.1 ∉ expected)
      Prod.fst := by
  intro index seen item definition
  obtain ⟨name, fields⟩ := definition
  cases item with
  | obj image =>
    simp only [readUnchanged, bind_eq_ok, serviceName_eq_ok, require_eq_ok, exists_const, pure_eq_ok,
      Named, Json.obj.injEq, Prod.mk.injEq]
    constructor
    · rintro ⟨_, ⟨get, safe⟩, ⟨other, fresh⟩, rfl, rfl⟩
      exact ⟨⟨⟨rfl, get, safe⟩, other⟩, fresh⟩
    · rintro ⟨⟨⟨rfl, get, safe⟩, other⟩, fresh⟩
      exact ⟨name, ⟨get, safe⟩, ⟨other, fresh⟩, rfl, rfl⟩
  | _ => simp [readUnchanged, Named]

/-- A fragment document that the request accepts for this service and digest. -/
structure Accepted (request : Request) (payload : Mapping) (fragment : Fragment) : Prop where
  service : payload.get "service" = .str fragment.service
  safe : isService fragment.service = true
  candidate : payload.get "candidate_sha" = .str request.candidateSha
  image : payload.get "image" = .str fragment.image
  split : rsplitAt fragment.image = some (expectedName request fragment.service, fragment.digest)
  digits : isDigest fragment.digest = true
  digest : payload.get "digest" = .str fragment.digest
  attested : request.requireAttestations = true → payload.get "attestation_verified" = .bool true
  evidence : payload.get "security_evidence" = .obj fragment.securityEvidence
  source : fragment.securityEvidence.get "source_sha" = .str request.candidateSha
  scanned : fragment.securityEvidence.get "image_digest" = .str fragment.digest
  accepted : fragment.securityEvidence.get "security_gate_accepted" = .bool true
  authorized : request.requirePromotionAuthorized = true →
    fragment.securityEvidence.get "promotion_authorized" = .bool true

/-- The file holds an accepted fragment. -/
def Holds (host : Host) (request : Request) (file : FragmentFile) (fragment : Fragment) : Prop :=
  ∃ payload, readJsonFile host file "candidate fragment" = .ok (.obj payload) ∧
    Accepted request payload fragment

theorem checkEvidence_eq_ok {request : Request} {digest : String} {evidence : Mapping} {u : Unit} :
    checkEvidence request digest evidence = .ok u ↔
      evidence.get "source_sha" = .str request.candidateSha ∧
        evidence.get "image_digest" = .str digest ∧
        evidence.get "security_gate_accepted" = .bool true ∧
        (request.requirePromotionAuthorized = true →
          evidence.get "promotion_authorized" = .bool true) := by
  simp only [checkEvidence, bind_eq_ok, requireEqual_eq_ok, requireTrue_eq_ok,
    requireTrueWhen_eq_ok, exists_const]

theorem readFragment_reads (host : Host) (request : Request) (expected : List String) :
    ReadsFresh (readFragment host request expected)
      (fun file fragment => Holds host request file fragment ∧ fragment.service ∈ expected)
      (·.service) := by
  intro index seen file fragment
  obtain ⟨service, image, digest, evidence⟩ := fragment
  simp only [readFragment, bind_eq_ok]
  constructor
  · rintro ⟨payload, read, run⟩
    cases payload with
    | obj payload =>
      simp only [bind_eq_ok, serviceName_eq_ok, require_eq_ok, requireEqual_eq_ok,
        requireTrueWhen_eq_ok, exists_const] at run
      obtain ⟨name, ⟨get, safe⟩, ⟨mem, fresh⟩, candidate, ⟨ref, hex⟩, full, recorded, attested,
        run⟩ := run
      obtain ⟨image_eq, split, digits⟩ := fullImageRef_eq_ok.mp full
      cases at_ : Mapping.get payload "security_evidence" with
      | obj fields =>
        simp only [at_, bind_eq_ok, checkEvidence_eq_ok, exists_const, pure_eq_ok,
          Fragment.mk.injEq] at run
        obtain ⟨⟨source, scanned, accepted, authorized⟩, rfl, rfl, rfl, rfl⟩ := run
        exact ⟨⟨⟨payload, read, get, safe, candidate, image_eq, split, digits, recorded, attested,
          at_, source, scanned, accepted, authorized⟩, mem⟩, fresh⟩
      | _ => simp [at_] at run
    | _ => cases run
  · rintro ⟨⟨⟨payload, read, h⟩, mem⟩, fresh⟩
    refine ⟨.obj payload, read, ?_⟩
    simp only [bind_eq_ok, serviceName_eq_ok, require_eq_ok, requireEqual_eq_ok,
      requireTrueWhen_eq_ok, exists_const]
    refine ⟨service, ⟨h.service, h.safe⟩, ⟨mem, fresh⟩, h.candidate, (image, digest),
      fullImageRef_eq_ok.mpr ⟨h.image, h.split, h.digits⟩, h.digest, h.attested, ?_⟩
    have at_ : Mapping.get payload "security_evidence" = .obj evidence := h.evidence
    simp only [at_, bind_eq_ok, checkEvidence_eq_ok, exists_const, pure_eq_ok, and_true]
    exact ⟨h.source, h.scanned, h.accepted, h.authorized⟩

/-! ### The final set -/

section

variable {host : Host} {fromisoformat : String → Option Date}

theorem candidateFragmentFiles_eq_ok {root : FragmentsDir} {files : List FragmentFile} :
    candidateFragmentFiles root = .ok files ↔
      (root.safe = true ∧ ∀ file ∈ root.files, file.traversesSymlink = false ∧
        file.regular = true ∧ file.inside = true) ∧ files = root.files := by
  simp only [candidateFragmentFiles, bind_eq_ok, require_eq_ok, exists_const, pure_eq_ok,
    List.all_eq_true, Bool.not_eq_true']
  constructor
  · rintro ⟨safe, direct, u, each, rfl⟩
    have each := forM_eq_ok_iff.mp each
    simp only [bind_eq_ok, require_eq_ok, exists_const] at each
    exact ⟨⟨safe, fun file mem => ⟨direct file mem, each file mem⟩⟩, rfl⟩
  · rintro ⟨⟨safe, each⟩, rfl⟩
    refine ⟨safe, fun file mem => (each file mem).1, ⟨⟩, forM_eq_ok_iff.mpr fun file mem => ?_, rfl⟩
    simp only [bind_eq_ok, require_eq_ok, exists_const]
    exact (each file mem).2

/-- The images of the final set, before they are sorted. -/
def unsorted (found : List Fragment) (kept : List Image) : List Image :=
  found.map (fun f => (f.service, f.image)) ++ kept

theorem validateSets_eq_ok {services unchanged : List Definition} {fragments : FragmentsDir}
    {root : PolicyRoot} {request : Request} {today : Date} {r : Aggregate} :
    validateSets host fromisoformat services unchanged fragments root request today = .ok r ↔
      ∃ files found kept, candidateFragmentFiles fragments = .ok files ∧
        gather (readFragment host request (services.map Prod.fst)) 0 [] files = .ok found ∧
        (found.map (·.service) ⊆ services.map Prod.fst ∧
          services.map Prod.fst ⊆ found.map (·.service)) ∧
        unchanged.mapM (unchangedImage request) = .ok kept ∧
        ((sortByService (unsorted found kept)).map imageDigest).Nodup ∧
        conclude host fromisoformat (services ++ unchanged) root request today
          (sortByService (unsorted found kept)) = .ok r := by
  simp only [validateSets, bind_eq_ok, require_eq_ok, exists_const, unsorted]
  constructor
  · rintro ⟨files, one, found, two, three, kept, rest⟩
    exact ⟨files, found, kept, one, two, three, rest⟩
  · rintro ⟨files, found, kept, one, two, three, rest⟩
    exact ⟨files, one, found, two, three, kept, rest⟩

theorem conclude_images {definitions : List Definition} {root : PolicyRoot} {request : Request}
    {today : Date} {images : List Image} {r : Aggregate}
    (h : conclude host fromisoformat definitions root request today images = .ok r) :
    r.images = images := by
  unfold conclude at h
  split at h
  · simp only [bind_eq_ok, pure_eq_ok] at h
    obtain ⟨_, -, rfl⟩ := h
    rfl
  · cases h
    rfl

theorem validateAggregateExceptionSet_eq_ok {services unchanged : Json} {fragments : FragmentsDir}
    {root : PolicyRoot} {request : Request} {today : Date} {r : Aggregate} :
    validateAggregateExceptionSet host fromisoformat services fragments unchanged root request
        today = .ok r ↔
      (isCandidateSha request.candidateSha = true ∧ isRegistry request.registry = true ∧
        isImageNamespace request.imageNamespace = true) ∧
      ∃ serviceItems unchangedItems declared kept, services = .arr serviceItems ∧
        serviceItems ≠ [] ∧ unchanged = .arr unchangedItems ∧
        checkRequest request unchangedItems = .ok () ∧
        gather readService 0 [] serviceItems = .ok declared ∧
        gather (readUnchanged (declared.map Prod.fst)) 0 [] unchangedItems = .ok kept ∧
        validateSets host fromisoformat declared kept fragments root request today = .ok r := by
  unfold validateAggregateExceptionSet
  simp only [bind_eq_ok, require_eq_ok, exists_const, and_assoc]
  refine and_congr_right fun _ => and_congr_right fun _ => and_congr_right fun _ => ?_
  constructor
  · intro h
    split at h
    next service rest unchanged =>
      simp only [bind_eq_ok] at h
      obtain ⟨_, check, declared, one, kept, two, run⟩ := h
      exact ⟨_, _, declared, kept, rfl, List.cons_ne_nil _ _, rfl, check, one, two, run⟩
    next => cases h
    next => cases h
  · rintro ⟨serviceItems, unchangedItems, declared, kept, rfl, ne, rfl, check, one, two, run⟩
    obtain ⟨service, rest, rfl⟩ := List.exists_cons_of_ne_nil ne
    simp only [bind_eq_ok]
    exact ⟨_, check, declared, one, kept, two, run⟩

theorem unchangedImage_eq_ok {request : Request} {definition : Definition} {image : Image} :
    unchangedImage request definition = .ok image ↔
      image.1 = definition.1 ∧ definition.2.get "image" = .str image.2 ∧
        ∃ digest, rsplitAt image.2 = some (expectedName request image.1, digest) ∧
          isDigest digest = true := by
  obtain ⟨service, ref⟩ := image
  simp only [unchangedImage, bind_eq_ok, pure_eq_ok, Prod.exists, fullImageRef_eq_ok, Prod.mk.injEq]
  constructor
  · rintro ⟨ref, digest, ⟨get, split, digits⟩, rfl, rfl⟩
    exact ⟨rfl, get, digest, split, digits⟩
  · rintro ⟨rfl, get, digest, split, digits⟩
    exact ⟨ref, digest, ⟨get, split, digits⟩, rfl, rfl⟩

theorem map_fst_of_forall₂ {request : Request} {unchanged : List Definition} {kept : List Image}
    (h : List.Forall₂ (fun d image => unchangedImage request d = .ok image) unchanged kept) :
    kept.map Prod.fst = unchanged.map Prod.fst := by
  induction h with
  | nil => rfl
  | cons one _ ih => rw [List.map_cons, List.map_cons, ih, (unchangedImage_eq_ok.mp one).1]

theorem sortByService_perm {α : Type} (records : List (String × α)) :
    (sortByService records).Perm records := List.perm_insertionSort _ _

/-- The names of the final set: every service once, and every unchanged image once
under a name of its own. -/
theorem final_names_nodup {declared kept : List Definition} {serviceItems unchangedItems : List Json}
    (one : gather readService 0 [] serviceItems = .ok declared)
    (two : gather (readUnchanged (declared.map Prod.fst)) 0 [] unchangedItems = .ok kept) :
    (declared.map Prod.fst ++ kept.map Prod.fst).Nodup := by
  obtain ⟨-, nodup⟩ := readService_reads.gather_nil_eq_ok.mp one
  obtain ⟨each, nodup'⟩ := (readUnchanged_reads _).gather_nil_eq_ok.mp two
  refine List.Nodup.append nodup nodup' fun name old new => ?_
  obtain ⟨d, mem, rfl⟩ := List.mem_map.mp new
  obtain ⟨item, -, read⟩ := mem_of_forall₂ each mem
  exact read.2 old

/-- The fragments are those of the services, one each. -/
theorem found_services_perm {declared : List Definition} {request : Request}
    {files : List FragmentFile} {found : List Fragment} (nodup : (declared.map Prod.fst).Nodup)
    (two : gather (readFragment host request (declared.map Prod.fst)) 0 [] files = .ok found)
    (same : found.map (·.service) ⊆ declared.map Prod.fst ∧
      declared.map Prod.fst ⊆ found.map (·.service)) :
    (found.map (·.service)).Perm (declared.map Prod.fst) := by
  obtain ⟨-, nodup'⟩ := (readFragment_reads _ _ _).gather_nil_eq_ok.mp two
  exact (List.perm_ext_iff_of_nodup nodup' nodup).mpr fun name => ⟨(same.1 ·), (same.2 ·)⟩

theorem unsorted_names {found : List Fragment} {kept : List Image} :
    (unsorted found kept).map Prod.fst = found.map (·.service) ++ kept.map Prod.fst := by
  simp [unsorted]

/-- An accepted set: the fragment files are in bijection with the services, each
bound to the request and its service, and the images of services and unchanged
images are all different. -/
theorem aggregate_bound {services unchanged : Json} {fragments : FragmentsDir} {root : PolicyRoot}
    {request : Request} {today : Date} {r : Aggregate}
    (run : validateAggregateExceptionSet host fromisoformat services fragments unchanged root
      request today = .ok r) :
    ∃ (serviceItems unchangedItems : List Json) (declared kept : List Definition)
      (found : List Fragment),
      services = .arr serviceItems ∧ unchanged = .arr unchangedItems ∧
      List.Forall₂ (Named "name") serviceItems declared ∧
      List.Forall₂ (Named "service") unchangedItems kept ∧
      List.Forall₂ (Holds host request) fragments.files found ∧
      (found.map (·.service)).Perm (declared.map Prod.fst) ∧
      (declared.map Prod.fst ++ kept.map Prod.fst).Nodup ∧
      (r.images.map Prod.fst).Perm (declared.map Prod.fst ++ kept.map Prod.fst) ∧
      (∀ f ∈ found, (f.service, f.image) ∈ r.images) ∧
      (r.images.map imageDigest).Nodup ∧
      (∀ image ∈ r.images, isDigest (imageDigest image) = true ∧
        image.2 = expectedName request image.1 ++ "@" ++ imageDigest image) ∧
      ∀ f ∈ found, ∀ d ∈ kept, d.2.get "image" ≠ .str f.image := by
  obtain ⟨-, serviceItems, unchangedItems, declared, kept, rfl, -, rfl, -, one, two, run⟩ :=
    validateAggregateExceptionSet_eq_ok.mp run
  obtain ⟨files, found, images, dir, three, same, four, distinct, run⟩ :=
    validateSets_eq_ok.mp run
  have each := mapM_eq_ok_iff.mp four
  obtain ⟨-, rfl⟩ := candidateFragmentFiles_eq_ok.mp dir
  have nodup := final_names_nodup one two
  have names := found_services_perm (List.Nodup.of_append_left nodup) three same
  have sorted := sortByService_perm (unsorted found images)
  have holds : List.Forall₂ (Holds host request) fragments.files found :=
    ((readFragment_reads _ _ _).gather_nil_eq_ok.mp three).1.imp fun _ _ h => h.1
  have images_eq := conclude_images run
  have imageOf (f : Fragment) (mem : f ∈ found) : (f.service, f.image) ∈ r.images := by
    rw [images_eq, sorted.mem_iff, unsorted, List.mem_append]
    exact .inl (List.mem_map_of_mem mem)
  have keptOf (image : Image) (mem : image ∈ images) : image ∈ r.images := by
    rw [images_eq, sorted.mem_iff, unsorted, List.mem_append]
    exact .inr mem
  rw [← images_eq] at distinct
  refine ⟨serviceItems, unchangedItems, declared, kept, found, rfl, rfl,
    (readService_reads.gather_nil_eq_ok.mp one).1,
    ((readUnchanged_reads _).gather_nil_eq_ok.mp two).1.imp fun _ _ h => h.1, holds, names, nodup,
    ?_, imageOf, distinct, ?_, ?_⟩
  · rw [images_eq]
    refine (sorted.map Prod.fst).trans ?_
    rw [unsorted_names, map_fst_of_forall₂ each]
    exact names.append_right _
  · intro image mem
    rw [images_eq, sorted.mem_iff, unsorted, List.mem_append] at mem
    have ref : ∃ digest, rsplitAt image.2 = some (expectedName request image.1, digest) ∧
        isDigest digest = true := by
      rcases mem with fragment | unchanged
      · obtain ⟨f, inFound, rfl⟩ := List.mem_map.mp fragment
        obtain ⟨file, -, payload, -, accepted⟩ := mem_of_forall₂ holds inFound
        exact ⟨f.digest, accepted.split, accepted.digits⟩
      · obtain ⟨d, -, read⟩ := mem_of_forall₂ each unchanged
        exact (unchangedImage_eq_ok.mp read).2.2
    obtain ⟨digest, split, digits⟩ := ref
    rw [imageDigest_of_ref split]
    exact ⟨digits, rsplitAt_eq_some split⟩
  · intro f inFound d inKept get
    obtain ⟨image, mem, read⟩ := mem_of_forall₂ each.flip inKept
    obtain ⟨name, get', -⟩ := unchangedImage_eq_ok.mp read
    have ref : f.image = image.2 := Json.str.inj (get.symm.trans get')
    have digest : imageDigest (f.service, f.image) = imageDigest image := by
      rw [imageDigest, imageDigest, ref]
    have eq := List.inj_on_of_nodup_map distinct (imageOf f inFound) (keptOf image mem) digest
    have service : f.service = d.1 := (congrArg Prod.fst eq).trans name
    refine (List.nodup_append.mp nodup).2.2 f.service ?_ d.1 (List.mem_map_of_mem inKept) service
    exact names.mem_iff.mp (List.mem_map_of_mem inFound)

/-! ### The order of the parts -/

theorem policyFile_path {root : PolicyRoot} {path : String} {record : PolicyRecord}
    (h : policyFile host root path = .ok record) : record.path = path := by
  simp only [policyFile, bind_eq_ok, require_eq_ok, exists_const] at h
  obtain ⟨-, -, -, h⟩ := h
  split at h
  next => cases h
  next payload _ =>
    split at h
    next =>
      cases h
      rfl
    next => cases h
  next => cases h

theorem servicePolicy_eq_ok {root : PolicyRoot} {definition : Definition}
    {policy : Image × Option PolicyRecord} (h : servicePolicy host root definition = .ok policy) :
    policy.1.1 = definition.1 ∧
      ∀ record, policy.2 = some record → policyFile host root record.path = .ok record := by
  simp only [servicePolicy, bind_eq_ok] at h
  obtain ⟨path, -, h⟩ := h
  split at h
  · cases h
    exact ⟨rfl, fun record at_ => absurd at_ (Option.some_ne_none record).symm⟩
  · simp only [bind_eq_ok, pure_eq_ok] at h
    obtain ⟨record, read, rfl⟩ := h
    refine ⟨rfl, fun record' eq => ?_⟩
    cases eq
    rwa [policyFile_path read]

/-- Every record is the policy at its path. -/
def ReadFrom (host : Host) (root : PolicyRoot) (records : List PolicyRecord) : Prop :=
  ∀ record ∈ records, policyFile host root record.path = .ok record

theorem ReadFrom.eq_of_path {root : PolicyRoot} {records : List PolicyRecord}
    (h : ReadFrom host root records) {a b : PolicyRecord} (ha : a ∈ records) (hb : b ∈ records)
    (same : a.path = b.path) : a = b := by
  have eq := h a ha
  rw [same, h b hb] at eq
  exact (Except.ok.inj eq).symm

theorem distinctPolicies_append (records : List PolicyRecord) (record : PolicyRecord) :
    distinctPolicies (records ++ [record]) =
      if record.path ∈ (distinctPolicies records).map (·.path) then distinctPolicies records
      else distinctPolicies records ++ [record] := by
  simp [distinctPolicies]

theorem distinctPolicies_spec (records : List PolicyRecord) :
    ((distinctPolicies records).map (·.path)).Nodup ∧ distinctPolicies records ⊆ records ∧
      records.map (·.path) ⊆ (distinctPolicies records).map (·.path) := by
  induction records using List.reverseRecOn with
  | nil => exact ⟨List.nodup_nil, List.Subset.refl _, List.Subset.refl _⟩
  | append_singleton records record ih =>
    obtain ⟨nodup, sub, cover⟩ := ih
    rw [distinctPolicies_append, List.map_append, List.map_singleton]
    split
    next seen =>
      refine ⟨nodup, fun _ mem => List.mem_append_left _ (sub mem), fun path mem => ?_⟩
      rcases List.mem_append.mp mem with old | new
      · exact cover old
      · rwa [List.mem_singleton.mp new]
    next fresh =>
      rw [List.map_append, List.map_singleton]
      refine ⟨List.Nodup.append nodup (List.nodup_singleton _)
        (List.disjoint_singleton.mpr fresh), fun _ mem => ?_, fun _ mem => ?_⟩
      · exact List.mem_append.mpr ((List.mem_append.mp mem).imp_left fun old => sub old)
      · exact List.mem_append.mpr ((List.mem_append.mp mem).imp_left fun old => cover old)

theorem ReadFrom.mem_distinct {root : PolicyRoot} {records : List PolicyRecord}
    (h : ReadFrom host root records) {record : PolicyRecord} :
    record ∈ distinctPolicies records ↔ record ∈ records := by
  obtain ⟨-, sub, cover⟩ := distinctPolicies_spec records
  refine ⟨fun mem => sub mem, fun mem => ?_⟩
  obtain ⟨other, kept, same⟩ := List.mem_map.mp (cover (List.mem_map_of_mem mem))
  exact h.eq_of_path (sub kept) mem same ▸ kept

theorem ReadFrom.distinct_perm {root : PolicyRoot} {records records' : List PolicyRecord}
    (h : ReadFrom host root records) (perm : records.Perm records') :
    (distinctPolicies records).Perm (distinctPolicies records') := by
  have h' : ReadFrom host root records' := fun record mem => h record (perm.mem_iff.mpr mem)
  refine (List.perm_ext_iff_of_nodup ?_ ?_).mpr fun record => ?_
  · exact (distinctPolicies_spec records).1.of_map
  · exact (distinctPolicies_spec records').1.of_map
  · rw [h.mem_distinct, h'.mem_distinct, perm.mem_iff]

theorem validatePolicyFiles_perm {policies policies' : List PolicyRecord} {active : List String}
    {today : Date} {count : Nat} (perm : policies.Perm policies')
    (h : validatePolicyFiles host fromisoformat policies active today = .ok count) :
    validatePolicyFiles host fromisoformat policies' active today = .ok count := by
  simp only [validatePolicyFiles, bind_eq_ok, pure_eq_ok] at h ⊢
  obtain ⟨_, valid, u, renders, rfl⟩ := h
  refine ⟨_, validatePolicy_perm (perm.flatMap_right _) valid, ⟨⟩, ?_, rfl⟩
  exact forM_eq_ok_iff.mpr fun policy mem =>
    forM_eq_ok_iff.mp renders policy (perm.mem_iff.mpr mem)

theorem sortByService_perm_eq {α : Type} {records records' : List (String × α)}
    (nodup : (records.map Prod.fst).Nodup) (perm : records.Perm records') :
    sortByService records = sortByService records' :=
  Dict.insertionSort_perm nodup perm

theorem reviewPolicies_perm {root : PolicyRoot} {definitions definitions' : List Definition}
    {active : List String} {today : Date} {hashes : List Image} {count : Nat}
    (nodup : (definitions.map Prod.fst).Nodup) (perm : definitions.Perm definitions')
    (h : reviewPolicies host fromisoformat root definitions active today = .ok (hashes, count)) :
    ∃ hashes', reviewPolicies host fromisoformat root definitions' active today =
        .ok (hashes', count) ∧ sortByService hashes' = sortByService hashes := by
  simp only [reviewPolicies, bind_eq_ok, require_eq_ok, exists_const, pure_eq_ok,
    Prod.mk.injEq] at h ⊢
  obtain ⟨safe, policies, read, _, valid, rfl, rfl⟩ := h
  obtain ⟨policies', read', perm'⟩ := mapM_perm perm read
  have each := mapM_eq_ok_iff.mp read
  have records : ReadFrom host root (policies.filterMap Prod.snd) := by
    intro record mem
    obtain ⟨policy, inPolicies, eq⟩ := List.mem_filterMap.mp mem
    obtain ⟨d, -, one⟩ := mem_of_forall₂ each inPolicies
    exact (servicePolicy_eq_ok one).2 record eq
  have names : (policies.map Prod.fst).map Prod.fst = definitions.map Prod.fst := by
    clear nodup perm read valid read' perm' records
    induction each with
    | nil => rfl
    | cons one _ ih => simp only [List.map_cons, ih, (servicePolicy_eq_ok one).1]
  refine ⟨_, ⟨safe, policies', read', _, ?_, rfl, rfl⟩, ?_⟩
  · exact validatePolicyFiles_perm (records.distinct_perm (perm'.filterMap _)) valid
  · exact (sortByService_perm_eq (names ▸ nodup) (perm'.map _)).symm

theorem conclude_perm {definitions definitions' : List Definition} {root : PolicyRoot}
    {request : Request} {today : Date} {images : List Image} {r : Aggregate}
    (nodup : (definitions.map Prod.fst).Nodup) (perm : definitions.Perm definitions')
    (h : conclude host fromisoformat definitions root request today images = .ok r) :
    conclude host fromisoformat definitions' root request today images = .ok r := by
  unfold conclude at h ⊢
  split at h
  next asked =>
    rw [if_pos asked]
    simp only [bind_eq_ok, pure_eq_ok, Prod.exists] at h ⊢
    obtain ⟨hashes, count, review, rfl⟩ := h
    obtain ⟨hashes', review', sorted⟩ := reviewPolicies_perm nodup perm review
    refine ⟨hashes', count, review', ?_⟩
    rw [aggregate, aggregate, sorted]
  next off => rwa [if_neg off]

/-- One direction of the order's irrelevance. -/
theorem validateSets_perm {declared declared' kept kept' : List Definition}
    {fragments : FragmentsDir} {files : List FragmentFile} {root : PolicyRoot} {request : Request}
    {today : Date} {r : Aggregate} (nodup : (declared.map Prod.fst ++ kept.map Prod.fst).Nodup)
    (services : declared.Perm declared') (unchanged : kept.Perm kept')
    (inDir : fragments.files.Perm files)
    (h : validateSets host fromisoformat declared kept fragments root request today = .ok r) :
    validateSets host fromisoformat declared' kept' { fragments with files } root request today =
      .ok r := by
  obtain ⟨_, found, images, dir, three, same, four, distinct, run⟩ := validateSets_eq_ok.mp h
  obtain ⟨safe, rfl⟩ := candidateFragmentFiles_eq_ok.mp dir
  have names := services.map Prod.fst
  -- The reader only asks whether a name is expected.
  have reads : ReadsFresh (readFragment host request (declared'.map Prod.fst))
      (fun file fragment => Holds host request file fragment ∧
        fragment.service ∈ declared.map Prod.fst) (·.service) :=
    ReadsFresh.congr (readFragment_reads host request _) fun _ _ => by rw [names.mem_iff]
  obtain ⟨found', three', foundPerm⟩ :=
    (readFragment_reads host request _).gather_perm reads inDir three
  obtain ⟨images', four', imagesPerm⟩ := mapM_perm unchanged four
  have services' := foundPerm.map (·.service)
  have imageNames : images.map Prod.fst = kept.map Prod.fst :=
    map_fst_of_forall₂ (mapM_eq_ok_iff.mp four)
  have unsortedPerm : (unsorted found images).Perm (unsorted found' images') :=
    (foundPerm.map _).append imagesPerm
  have unsortedNodup : ((unsorted found images).map Prod.fst).Nodup := by
    rw [unsorted_names, imageNames]
    have services := found_services_perm (List.Nodup.of_append_left nodup) three same
    exact (services.append_right _).nodup_iff.mpr nodup
  have sorted := sortByService_perm_eq unsortedNodup unsortedPerm
  refine validateSets_eq_ok.mpr ⟨files, found', images', ?_, three', ?_, four', ?_, ?_⟩
  · exact candidateFragmentFiles_eq_ok.mpr
      ⟨⟨safe.1, fun file mem => safe.2 file (inDir.mem_iff.mpr mem)⟩, rfl⟩
  · exact ⟨fun name mem => names.mem_iff.mp (same.1 (services'.mem_iff.mpr mem)),
      fun name mem => services'.mem_iff.mp (same.2 (names.mem_iff.mpr mem))⟩
  · rwa [← sorted]
  · rw [← sorted]
    refine conclude_perm ?_ (services.append unchanged) run
    rwa [List.map_append]

/-- The whole validator does not see the order of the services, of the unchanged
images or of the fragment files. -/
theorem validateAggregate_perm {serviceItems serviceItems' unchangedItems unchangedItems' : List Json}
    {fragments : FragmentsDir} {files : List FragmentFile} {root : PolicyRoot} {request : Request}
    {today : Date} {r : Aggregate} (services : serviceItems.Perm serviceItems')
    (unchanged : unchangedItems.Perm unchangedItems') (inDir : fragments.files.Perm files)
    (h : validateAggregateExceptionSet host fromisoformat (.arr serviceItems) fragments
      (.arr unchangedItems) root request today = .ok r) :
    validateAggregateExceptionSet host fromisoformat (.arr serviceItems') { fragments with files }
      (.arr unchangedItems') root request today = .ok r := by
  obtain ⟨bounded, _, _, declared, kept, eq, ne, eq', check, one, two, run⟩ :=
    validateAggregateExceptionSet_eq_ok.mp h
  cases eq
  cases eq'
  obtain ⟨declared', one', declaredPerm⟩ := readService_reads.gather_perm readService_reads services one
  have names := declaredPerm.map Prod.fst
  have reads : ReadsFresh (readUnchanged (declared'.map Prod.fst))
      (fun item definition => Named "service" item definition ∧
        definition.1 ∉ declared.map Prod.fst) Prod.fst :=
    ReadsFresh.congr (readUnchanged_reads _) fun _ _ => by rw [names.mem_iff]
  obtain ⟨kept', two', keptPerm⟩ := (readUnchanged_reads _).gather_perm reads unchanged two
  refine validateAggregateExceptionSet_eq_ok.mpr ⟨bounded, serviceItems', unchangedItems', declared',
    kept', rfl, ?_, rfl, ?_, one', two', ?_⟩
  · rintro rfl
    exact ne services.eq_nil
  · have empty : unchangedItems' ≠ [] ↔ unchangedItems ≠ [] :=
      not_congr ⟨fun h => (h ▸ unchanged).eq_nil, fun h => (h ▸ unchanged).symm.eq_nil⟩
    simpa only [checkRequest, empty] using check
  · exact validateSets_perm (final_names_nodup one two) declaredPerm keptPerm inDir run

/-- Acceptance and the whole aggregate are the same for every order of the
services, of the unchanged images and of the fragment files. -/
theorem aggregate_order_independent {serviceItems serviceItems' unchangedItems unchangedItems' :
      List Json} {fragments : FragmentsDir} {files : List FragmentFile} {root : PolicyRoot}
    {request : Request} {today : Date} (services : serviceItems.Perm serviceItems')
    (unchanged : unchangedItems.Perm unchangedItems') (inDir : fragments.files.Perm files)
    (r : Aggregate) :
    validateAggregateExceptionSet host fromisoformat (.arr serviceItems) fragments
        (.arr unchangedItems) root request today = .ok r ↔
      validateAggregateExceptionSet host fromisoformat (.arr serviceItems') { fragments with files }
        (.arr unchangedItems') root request today = .ok r :=
  ⟨validateAggregate_perm services unchanged inDir,
    validateAggregate_perm services.symm unchanged.symm inDir.symm⟩

end

/-! ### A sample set -/

def sampleSha : String := "bbbbbbbbbbbbbbbbbbbbbbbbbbbbbbbbbbbbbbbb"

def sampleRequest : Request where
  candidateSha := sampleSha
  registry := "r.io"
  imageNamespace := "n"
  validatePolicies := false
  setComplete := false
  requirePromotionAuthorized := true
  requireAttestations := true

def sampleServices : List Json := [.obj [("name", .str "api")], .obj [("name", .str "web")]]

def otherImage : String :=
  "sha256:cccccccccccccccccccccccccccccccccccccccccccccccccccccccccccccccc"

def sampleFragment (service digest : String) : Json :=
  .obj [("service", .str service), ("candidate_sha", .str sampleSha),
    ("image", .str ("r.io/n/" ++ service ++ "@" ++ digest)), ("digest", .str digest),
    ("attestation_verified", .bool true),
    ("security_evidence", .obj [("source_sha", .str sampleSha), ("image_digest", .str digest),
      ("security_gate_accepted", .bool true), ("promotion_authorized", .bool true)])]

/-- The empty file is the fragment of one service, any other that of the other. -/
def fragmentHost : Host where
  sha256 := fun _ _ => 0
  loads := fun bytes => some (if bytes = [] then sampleFragment "api" sampleImage
    else sampleFragment "web" otherImage)
  dumps := fun _ => []
  str := fun _ => ""

def sampleFragments : FragmentsDir := ⟨true, [⟨false, true, true, []⟩, ⟨false, true, true, [1]⟩]⟩

def sampleRoot : PolicyRoot := ⟨true, fun _ => ⟨false, false, []⟩⟩

theorem sample_validated : ∃ r, validateAggregateExceptionSet fragmentHost sampleDates
    (.arr sampleServices) sampleFragments (.arr []) sampleRoot sampleRequest sampleDay = .ok r ∧
      r.images.map Prod.fst = ["api", "web"] := by
  have run : (validateAggregateExceptionSet fragmentHost sampleDates (.arr sampleServices)
      sampleFragments (.arr []) sampleRoot sampleRequest sampleDay).map (·.images.map Prod.fst) =
        .ok ["api", "web"] := by decide +kernel
  exact map_eq_ok.mp run

theorem aggregate_bound_sample :
    ∃ found, List.Forall₂ (Holds fragmentHost sampleRequest) sampleFragments.files found ∧
      (found.map (·.service)).Nodup := by
  obtain ⟨r, run, -⟩ := sample_validated
  obtain ⟨_, _, declared, kept, found, -, -, -, -, holds, names, nodup, -⟩ := aggregate_bound run
  exact ⟨found, holds, names.nodup_iff.mpr (List.Nodup.of_append_left nodup)⟩

theorem aggregate_order_independent_sample :
    ∃ r, validateAggregateExceptionSet fragmentHost sampleDates (.arr sampleServices.reverse)
      { sampleFragments with files := sampleFragments.files.reverse } (.arr []) sampleRoot
        sampleRequest sampleDay = .ok r ∧ r.images.map Prod.fst = ["api", "web"] := by
  obtain ⟨r, run, names⟩ := sample_validated
  refine ⟨r, ?_, names⟩
  exact (aggregate_order_independent (List.reverse_perm _).symm (.refl _)
    (List.reverse_perm _).symm r).mp run

end OptimizrActions.ContainerRelease
