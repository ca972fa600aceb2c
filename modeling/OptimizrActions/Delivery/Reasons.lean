import OptimizrActions.Delivery.Manifest

/-! The evidence and the failure reasons that gates give, against the rules of the manifest. -/

namespace OptimizrActions.Delivery

/-- One line of bounded text in which the pattern finds nothing. -/
structure IsLine (secret : Pattern) (s : String) : Prop where
  single : '\n' ∉ s.toList ∧ '\r' ∉ s.toList
  short : s.length ≤ 512
  safe : secret.search s = false

theorem scalarText_eq_ok {secret : Pattern} {name s : String} {value : Json} {allowEmpty : Bool} :
    scalarText secret name value allowEmpty = .ok s ↔
      value = .str s ∧ (allowEmpty ∨ s ≠ "") ∧ IsLine secret s := by
  cases value with
  | str t =>
    simp only [scalarText, bind_eq_ok, require_eq_ok, pure_eq_ok, exists_const, Json.str.injEq]
    constructor
    · rintro ⟨present, single, short, safe, rfl⟩
      exact ⟨rfl, present, single, short, safe⟩
    · rintro ⟨rfl, present, line⟩
      exact ⟨present, line.single, line.short, line.safe, rfl⟩
  | _ => simp [scalarText]

theorem manifestScalar_eq_ok {name s : String} {value : Json} :
    manifestScalar name value = .ok s ↔ value = .str s ∧ s ≠ "" ∧ IsLine manifestSecret s := by
  rw [manifestScalar, scalarText_eq_ok]
  simp

/-- A reason that the manifest takes. -/
def IsReason (reason : String) : Prop := reason ≠ "" ∧ IsLine manifestSecret reason

theorem manifestSecret_ends (cs : List Char) (before : Option Char) :
    manifestSecret.ends ⟨before, cs⟩ = manifestSecret.ends ⟨none, cs⟩ := by
  cases cs <;> rfl

/-- The manifest looks for a part of what the gates look for. -/
theorem manifestSecret_of_secretLike {unicodeWord : Char → Bool} {s : String}
    (safe : (secretLike unicodeWord).search s = false) : manifestSecret.search s = false := by
  refine List.any_eq_false.mpr fun place mem => ?_
  have none := List.any_eq_false.mp safe place mem
  simp only [Bool.not_eq_true', Bool.not_eq_false, List.isEmpty_iff] at none ⊢
  simp only [secretLike, Pattern.anyOf, Pattern.ends, List.append_eq_nil_iff] at none
  simp only [manifestSecret, Pattern.anyOf, Pattern.ends, List.append_eq_nil_iff]
  refine ⟨none.1, none.2.1, ?_⟩
  cases place with
  | mk before rest => cases rest <;> rfl

theorem quiet_gate {name : String} (known : name ∈ knownGates) :
    manifestSecret.quiet (name ++ ": ").toList = true := by
  have all : ∀ name ∈ knownGates, manifestSecret.quiet (name ++ ": ").toList = true := by
    decide +kernel
  exact all name known

theorem IsLine.manifest {unicodeWord : Char → Bool} {s : String}
    (line : IsLine (secretLike unicodeWord) s) : IsLine manifestSecret s :=
  ⟨line.single, line.short, manifestSecret_of_secretLike line.safe⟩

/-- A gate's name before a text adds its length and nothing else that the manifest refuses. -/
theorem isReason_gate_iff {name reason : String} (known : name ∈ knownGates)
    (line : IsLine manifestSecret reason) :
    IsReason (name ++ ": " ++ reason) ↔ name.length + 2 + reason.length ≤ 512 := by
  have length : (name ++ ": " ++ reason).length = name.length + 2 + reason.length := by
    rw [String.length_append, String.length_append]
    rfl
  have single : ∀ name ∈ knownGates, '\n' ∉ name.toList ∧ '\r' ∉ name.toList := by decide
  have single := single name known
  refine ⟨fun h => length ▸ h.2.short, fun short => ⟨?_, ?_, length ▸ short, ?_⟩⟩
  · rintro empty
    rw [empty] at length
    simp at length
    omega
  · simp only [String.toList_append, List.mem_append, not_or]
    exact ⟨⟨⟨single.1, by decide⟩, line.single.1⟩, ⟨single.2, by decide⟩, line.single.2⟩
  · rw [Pattern.search_append (manifestSecret_ends _) (quiet_gate known)]
    exact line.safe

/-- An empty reason is replaced. -/
theorem isReason_failed_iff {name reason : String} (known : name ∈ knownGates)
    (line : IsLine manifestSecret reason) :
    IsReason (name ++ ": " ++ if reason = "" then "gate failed" else reason) ↔
      name.length + 2 + reason.length ≤ 512 := by
  split
  next empty =>
    have line : IsLine manifestSecret "gate failed" := ⟨by decide, by decide, by decide +kernel⟩
    have short : ∀ name ∈ knownGates, name.length ≤ 10 := by decide
    have short := short name known
    have length : "gate failed".length = 11 := rfl
    rw [isReason_gate_iff known line, empty, length, String.length_empty]
    omega
  · exact isReason_gate_iff known line

/-- What sanitized evidence is. -/
structure SafeEvidence.Valid (unicodeWord : Char → Bool) (e : SafeEvidence) : Prop where
  name : validateGateName (.str e.name) = .ok e.name
  target : e.target ≠ "" ∧ IsLine (secretLike unicodeWord) e.target
  reason : IsLine (secretLike unicodeWord) e.reason

section

variable {unicodeWord : Char → Bool}

theorem validateGateName_known {value : Json} {name : String}
    (h : validateGateName value = .ok name) : name ∈ knownGates := by
  cases value with
  | str s =>
    simp only [validateGateName, bind_eq_ok, require_eq_ok, pure_eq_ok] at h
    obtain ⟨_, _, _, known, rfl⟩ := h
    exact known
  | _ => cases h

theorem gateStatus_text (status : GateStatus) : gateStatus (.str status.text) = .ok status := by
  cases status <;> rfl

/-- Evidence is sanitized exactly when it is the valid one with its own texts. -/
theorem sanitizedEvidence_iff {gate : GateEvidence} {e : SafeEvidence} :
    sanitizedEvidence unicodeWord gate = .ok e ↔ e.Valid unicodeWord ∧
      gate = ⟨.str e.name, .str e.status.text, .str e.target, .str e.reason⟩ := by
  simp only [sanitizedEvidence, safeScalar, bind_eq_ok, scalarText_eq_ok, pure_eq_ok]
  constructor
  · rintro ⟨name, named, status, at_, target, ⟨targeted, present, line⟩, reason, ⟨reasoned, -, free⟩,
      rfl⟩
    have named' := validateGateName_eq_ok named
    refine ⟨⟨named' ▸ named, ⟨by simpa using present, line⟩, free⟩, ?_⟩
    rw [← targeted, ← reasoned, ← named', ← gateStatus_eq_ok at_]
  · rintro ⟨valid, rfl⟩
    exact ⟨e.name, valid.name, e.status, gateStatus_text _, e.target,
      ⟨rfl, .inr valid.target.1, valid.target.2⟩, e.reason, ⟨rfl, .inl trivial, valid.reason⟩, rfl⟩

theorem SafeEvidence.isTexts (e : SafeEvidence) : Json.IsTexts e.toMapping := by
  unfold toMapping
  split
  · exact ⟨by simp, by simp⟩
  · exact ⟨by simp, by simp⟩

theorem gateOf_toMapping (e : SafeEvidence) :
    gateOf e.toMapping = .ok ⟨.str e.name, .str e.status.text, .str e.target, .str e.reason⟩ := by
  unfold gateOf SafeEvidence.toMapping
  split
  next empty =>
    rw [empty]
    rfl
  · rfl

/-- Sanitized evidence is taken again as it is. -/
theorem checkEntry_toMapping {e : SafeEvidence} (valid : e.Valid unicodeWord) :
    checkEntry unicodeWord e.toMapping = .ok ⟨⟩ := by
  have asked : validateRequiredGates [.str e.name] = .ok [e.name] := by
    simp [validateRequiredGates, unhashable?, valid.name]
  have read : gather (readGate unicodeWord) 0 []
      [.evidence ⟨.str e.name, .str e.status.text, .str e.target, .str e.reason⟩] = .ok [e] :=
    readGate_reads.gather_nil_eq_ok.mpr
      ⟨.cons ⟨_, rfl, sanitizedEvidence_iff.mpr ⟨valid, rfl⟩⟩ .nil, List.nodup_singleton _⟩
  have decided : (decideGates [e.name] [e]).evidence = [e.toMapping] := by
    cases status : e.status <;> simp [decideGates, orderedEvidence, status]
  simp only [checkEntry, gateOf_toMapping, evaluateGateEvidence, asked, read, ok_bind]
  simp only [pure, Except.pure, decided]
  exact require_eq_ok.mpr e.isTexts.eq_self

/-- The evidence of the first gate that is reported as failed. -/
def firstFailed (items : List GateItem) : Option GateEvidence :=
  items.findSome? fun item => match item with
    | .evidence gate => if gate.status = .str "failed" then some gate else none
    | .other => none

/-- Every required gate is reported, and not as skipped. -/
def AllRun (required : List Json) (items : List GateItem) : Prop :=
  ∀ name ∈ required, ∃ item ∈ items, ∃ status ≠ .skipped, item.Reports name status

/-- If a failed gate decides, then its name and its reason have room in one text. -/
def ReasonFits (required : List Json) (items : List GateItem) : Prop :=
  AllRun required items → ∀ gate name reason, firstFailed items = some gate →
    gate.name = .str name → gate.reason = .str reason → name.length + 2 + reason.length ≤ 512

theorem firstFailed_eq {items : List GateItem} {byName : List SafeEvidence}
    (read : List.Forall₂ (ReadAs unicodeWord) items byName) :
    firstFailed items = (byName.find? (·.status = .failed)).map fun e =>
      ⟨.str e.name, .str e.status.text, .str e.target, .str e.reason⟩ := by
  induction read with
  | nil => rfl
  | @cons item e items byName one rest ih =>
    obtain ⟨gate, rfl, ok⟩ := one
    obtain ⟨-, rfl⟩ := sanitizedEvidence_iff.mp ok
    rw [firstFailed, List.findSome?_cons, List.find?_cons]
    cases status : e.status <;> first | exact ih | simp [GateStatus.text, status]

theorem allRun_iff {names : List String} {items : List GateItem} {byName : List SafeEvidence}
    (read : List.Forall₂ (ReadAs unicodeWord) items byName) :
    AllRun (names.map .str) items ↔
      ∀ name ∈ names, ∃ e ∈ byName, e.name = name ∧ e.status ≠ .skipped := by
  rw [AllRun, List.forall_mem_map]
  refine forall₂_congr fun name _ => exists_mem_iff_of_forall₂ read fun item e one => ?_
  constructor
  · rintro ⟨status, ne, reports⟩
    obtain ⟨named, rfl⟩ := one.reports_iff.mp reports
    exact ⟨named, ne⟩
  · rintro ⟨named, ne⟩
    exact ⟨e.status, ne, one.reports_iff.mpr ⟨named, rfl⟩⟩

/-- The names of the gates give reasons that the manifest takes. -/
theorem isReason_known {name : String} (known : name ∈ knownGates) :
    IsReason ("missing required gate: " ++ name) ∧ IsReason ("required gate skipped: " ++ name) := by
  have all : ∀ start ∈ ["missing required gate: ", "required gate skipped: "],
      manifestSecret.quiet start.toList = true := by
    decide +kernel
  have line : ∀ name ∈ knownGates, manifestSecret.search name = false := by decide +kernel
  have plain : ∀ name ∈ knownGates, ∀ start ∈ ["missing required gate: ", "required gate skipped: "],
      start ++ name ≠ "" ∧ ('\n' ∉ (start ++ name).toList ∧ '\r' ∉ (start ++ name).toList) ∧
        (start ++ name).length ≤ 512 := by
    decide +kernel
  have each : ∀ start ∈ ["missing required gate: ", "required gate skipped: "],
      IsReason (start ++ name) := by
    intro start mem
    obtain ⟨present, single, short⟩ := plain name known start mem
    refine ⟨present, single, short, ?_⟩
    rw [Pattern.search_append (manifestSecret_ends _) (all start mem)]
    exact line name known
  exact ⟨each _ (by simp), each _ (by simp)⟩

/-- What a decision on valid evidence is. -/
structure GateEvaluation.Sound (unicodeWord : Char → Bool) (evaluation : GateEvaluation)
    (required : List Json) (items : List GateItem) : Prop where
  evidence : ∀ entry ∈ evaluation.evidence,
    ∃ e : SafeEvidence, e.Valid unicodeWord ∧ entry = e.toMapping
  unfailed : evaluation.passed = true ↔ evaluation.failureReason = none
  reason : (∀ reason, evaluation.failureReason = some reason → IsReason reason) ↔
    ReasonFits required items

theorem mem_orderedEvidence {required : List String} {byName : List SafeEvidence} {e : SafeEvidence}
    (h : e ∈ orderedEvidence required byName) : e ∈ byName := by
  rw [orderedEvidence, List.mem_append, List.mem_filterMap, List.mem_filter] at h
  rcases h with ⟨name, -, found⟩ | ⟨mem, -⟩
  · exact List.mem_of_find?_eq_some found
  · exact mem

theorem mem_decideGates {required : List String} {byName : List SafeEvidence} {entry : Mapping}
    (h : entry ∈ (decideGates required byName).evidence) : ∃ e ∈ byName, entry = e.toMapping := by
  have whole : entry ∈ byName.map SafeEvidence.toMapping ∨
      entry ∈ (orderedEvidence required byName).map SafeEvidence.toMapping := by
    unfold decideGates at h
    split at h
    · exact .inl h
    · split at h
      · exact .inl h
      · split at h
        · exact .inl h
        · exact .inr h
  simp only [List.mem_map] at whole
  rcases whole with ⟨e, mem, rfl⟩ | ⟨e, mem, rfl⟩
  · exact ⟨e, mem, rfl⟩
  · exact ⟨e, mem_orderedEvidence mem, rfl⟩

theorem decideGates_passed (required : List String) (byName : List SafeEvidence) :
    (decideGates required byName).passed = true ↔
      (decideGates required byName).failureReason = none := by
  unfold decideGates
  split
  · exact ⟨nofun, nofun⟩
  · split
    · exact ⟨nofun, nofun⟩
    · split
      · exact ⟨nofun, nofun⟩
      · exact ⟨fun _ => rfl, fun _ => rfl⟩

theorem validateRequiredGates_known {required : List Json} {names : List String}
    (h : validateRequiredGates required = .ok names) : ∀ name ∈ names, name ∈ knownGates := by
  simp only [validateRequiredGates, bind_eq_ok] at h
  obtain ⟨_, _, h⟩ := h
  split at h
  · cases h
  · simp only [bind_eq_ok] at h
    obtain ⟨_, _, each⟩ := h
    intro name mem
    obtain ⟨_, -, read⟩ := mem_of_forall₂ (mapM_eq_ok_iff.mp each) mem
    exact validateGateName_known read

theorem decideGates_isReason_iff {names : List String} {items : List GateItem}
    {byName : List SafeEvidence} (read : List.Forall₂ (ReadAs unicodeWord) items byName)
    (nodup : (byName.map SafeEvidence.name).Nodup) (valid : ∀ e ∈ byName, e.Valid unicodeWord)
    (known : ∀ name ∈ names, name ∈ knownGates) :
    (∀ reason, (decideGates names byName).failureReason = some reason → IsReason reason) ↔
      ReasonFits (names.map .str) items := by
  rw [ReasonFits, allRun_iff read, firstFailed_eq read]
  unfold decideGates
  split
  next missing found =>
    -- no gate decides
    have absent := List.find?_some found
    have mem := List.mem_of_find?_eq_some found
    simp only [decide_eq_true_eq, List.mem_map, not_exists, not_and] at absent
    constructor
    · intro _ run
      obtain ⟨e, inside, named, -⟩ := run missing mem
      exact absurd named (absent e inside)
    · rintro - _ ⟨⟩
      exact (isReason_known (known _ mem)).1
  next present =>
    split
    next skipped found =>
      have bad := List.find?_some found
      have mem := List.mem_of_find?_eq_some found
      simp only [List.any_eq_true, Bool.and_eq_true, decide_eq_true_eq] at bad
      obtain ⟨e, inside, named, status⟩ := bad
      constructor
      · intro _ run
        obtain ⟨f, other, same, ne⟩ := run skipped mem
        cases List.inj_on_of_nodup_map nodup other inside (same.trans named.symm)
        exact absurd status ne
      · rintro - _ ⟨⟩
        exact (isReason_known (known _ mem)).2
    next unskipped =>
      have run : ∀ name ∈ names, ∃ e ∈ byName, e.name = name ∧ e.status ≠ .skipped := by
        intro name mem
        have here := List.find?_eq_none.mp present name mem
        simp only [decide_eq_true_eq, not_not, List.mem_map] at here
        obtain ⟨e, inside, named⟩ := here
        have ran := List.find?_eq_none.mp unskipped name mem
        simp only [List.any_eq_true, Bool.and_eq_true, decide_eq_true_eq, not_exists, not_and] at ran
        exact ⟨e, inside, named, ran e inside named⟩
      cases found : byName.find? (·.status = .failed) with
      | none => exact ⟨nofun, nofun⟩
      | some failed =>
        have ok := valid failed (List.mem_of_find?_eq_some found)
        have gate := validateGateName_known ok.name
        simp only [Option.some.injEq, forall_eq', Option.map_some]
        constructor
        · intro is _ _ _ _ at_ named reasoned
          cases at_
          cases named
          cases reasoned
          exact (isReason_failed_iff gate ok.reason.manifest).mp is
        · intro fits
          exact (isReason_failed_iff gate ok.reason.manifest).mpr (fits run _ _ _ rfl rfl rfl)

theorem evaluateGateEvidence_sound {items : List GateItem} {required : List Json}
    {evaluation : GateEvaluation}
    (h : evaluateGateEvidence unicodeWord items required = .ok evaluation) :
    evaluation.Sound unicodeWord required items := by
  simp only [evaluateGateEvidence, bind_eq_ok, pure_eq_ok] at h
  obtain ⟨names, asked, byName, gathered, rfl⟩ := h
  obtain ⟨read, nodup⟩ := readGate_reads.gather_nil_eq_ok.mp gathered
  have valid : ∀ e ∈ byName, e.Valid unicodeWord := by
    intro e mem
    obtain ⟨_, -, gate, -, ok⟩ := mem_of_forall₂ read mem
    exact (sanitizedEvidence_iff.mp ok).1
  refine ⟨fun entry mem => ?_, decideGates_passed _ _, ?_⟩
  · obtain ⟨e, inside, rfl⟩ := mem_decideGates mem
    exact ⟨e, valid e inside, rfl⟩
  · rw [validateRequiredGates_eq_ok asked]
    exact decideGates_isReason_iff read nodup valid (validateRequiredGates_known asked)

end

end OptimizrActions.Delivery
