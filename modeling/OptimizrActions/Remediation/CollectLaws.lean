import OptimizrActions.Remediation.Collect

/-! Which reports give their observations independently of the order of the
findings, with no finding lost or weakened. -/

namespace OptimizrActions.Remediation

/-! ### Reports in another order -/

/-- A result and the same result with its vulnerabilities in another order. -/
inductive ResultReordered : Json → Json → Prop
  | same (result : Json) : ResultReordered result result
  | vulnerabilities {result result' : Mapping} {found found' : List Json} :
      result.get "Vulnerabilities" = .arr found → result'.get "Vulnerabilities" = .arr found' →
      found.Perm found' →
      (∀ field ≠ "Vulnerabilities", result'.get field = result.get field) →
      ResultReordered (.obj result) (.obj result')

/-- A report and the same report with its results, and the vulnerabilities of
each, in another order. -/
def Reordered (report report' : Mapping) : Prop :=
  ∃ results between results', report.get "Results" = .arr results ∧
    report'.get "Results" = .arr results' ∧ List.Forall₂ ResultReordered results between ∧
    between.Perm results' ∧ ∀ field ≠ "Results", report'.get field = report.get field

theorem ResultReordered.listed {result result' : Json} (h : ResultReordered result result') :
    (listedFindings result).Perm (listedFindings result') := by
  cases h with
  | same => exact .refl _
  | vulnerabilities found found' perm =>
    simp only [listedFindings, found, found']
    exact perm.filterMap _

theorem listed_perm {results between : List Json}
    (inner : List.Forall₂ ResultReordered results between) :
    (results.flatMap listedFindings).Perm (between.flatMap listedFindings) := by
  induction inner with
  | nil => exact .refl _
  | cons head _ ih =>
    simp only [List.flatMap_cons]
    exact head.listed.append ih

section

variable {host : Host}

theorem Reordered.fixables {report report' : Mapping} (h : Reordered report report') :
    ∃ results results', report.get "Results" = .arr results ∧
      report'.get "Results" = .arr results' ∧
      (fixables host results).Perm (fixables host results') := by
  obtain ⟨results, between, results', get, get', inner, outer, -⟩ := h
  refine ⟨results, results', get, get', List.Perm.filterMap _ ?_⟩
  exact (listed_perm inner).trans (outer.flatMap_right _)

/-- Any fixable finding can be brought to the end. -/
theorem exists_reordered_last {report : Mapping} {results : List Json} {f : Fixable}
    (get : report.get "Results" = .arr results) (mem : f ∈ fixables host results) :
    ∃ report' results' before, Reordered report report' ∧
      report'.get "Results" = .arr results' ∧ fixables host results' = before ++ [f] := by
  simp only [Remediation.fixables, List.mem_filterMap, List.mem_flatMap] at mem
  obtain ⟨finding, ⟨result, inResults, listed⟩, read⟩ := mem
  obtain ⟨a, b, rfl⟩ := List.append_of_mem inResults
  unfold listedFindings at listed
  split at listed
  next fields =>
    split at listed
    next found at_ =>
      obtain ⟨item, inFound, isObject⟩ := List.mem_filterMap.mp listed
      split at isObject
      next object =>
        cases isObject
        obtain ⟨c, d, rfl⟩ := List.append_of_mem inFound
        let last : Mapping := Mapping.set fields "Vulnerabilities" (.arr (c ++ d ++ [.obj finding]))
        refine ⟨report.set "Results" (.arr (a ++ b ++ [.obj last])), a ++ b ++ [.obj last],
          fixables host (a ++ b) ++ (listedFindings (.obj (Mapping.set fields "Vulnerabilities"
            (.arr (c ++ d))))).filterMap (fixable? host),
          ⟨_, a ++ .obj last :: b, _, get, Mapping.get_set_self .., ?_, ?_,
            fun _ => Mapping.get_set_of_ne⟩, Mapping.get_set_self .., ?_⟩
        · have refl (rs : List Json) : List.Forall₂ ResultReordered rs rs :=
            List.forall₂_same.mpr fun r _ => .same r
          refine List.rel_append (refl a) (.cons ?_ (refl b))
          refine .vulnerabilities at_ (Mapping.get_set_self ..) ?_ fun _ => Mapping.get_set_of_ne
          simpa using List.perm_middle.trans (List.perm_append_singleton _ (c ++ d)).symm
        · simpa using List.perm_middle.trans (List.perm_append_singleton _ (a ++ b)).symm
        · simp [fixables, listedFindings, last, read]
      next => cases isObject
    next => cases listed
  next => cases listed

/-! ### The observations of a report -/

theorem observationKey_inj {lineage : List String} {f g : Fixable} :
    observationKey lineage f = observationKey lineage g ↔ { f with severity := g.severity } = g := by
  obtain ⟨_, _, _, _, _⟩ := f
  obtain ⟨_, _, _, _, _⟩ := g
  simp [observationKey]

theorem rawObservation_inj {scope : Scope} {lineage : List String} {f g : Fixable}
    (h : rawObservation scope lineage f = rawObservation scope lineage g) : f = g := by
  obtain ⟨_, _, _, _, _⟩ := f
  obtain ⟨_, _, _, _, _⟩ := g
  simp only [rawObservation, List.cons.injEq, Prod.mk.injEq, Json.str.injEq, true_and] at h
  simp [h]

def keyed (scope : Scope) (lineage : List String) (f : Fixable) : List String × Mapping :=
  (observationKey lineage f, rawObservation scope lineage f)

theorem collectReport_eq_ok {scope : Scope} {report : Mapping} {observations : List Mapping} :
    collectReport host scope report = .ok observations ↔
      ∃ results lineage, report.get "Results" = .arr results ∧
        normalizeDigestList host (.arr (scope.imageLineageDigests.map .str))
          "image_lineage_digests" = .ok lineage ∧
        observations = Dict.sortedValues
          (Dict.ofList ((fixables host results).map (keyed scope lineage))) := by
  unfold collectReport
  cases report.get "Results" with
  | arr results =>
    simp only [bind_eq_ok, pure_eq_ok, Json.arr.injEq]
    constructor
    · rintro ⟨lineage, digests, rfl⟩
      exact ⟨results, lineage, rfl, digests, rfl⟩
    · rintro ⟨_, lineage, rfl, digests, rfl⟩
      exact ⟨lineage, digests, rfl⟩
  | _ => simp

/-- Fixable findings that differ at most in their severity do not differ. -/
def SeveritiesAgree (host : Host) (report : Mapping) : Prop :=
  ∀ results, report.get "Results" = .arr results →
    ∀ f ∈ fixables host results, ∀ g ∈ fixables host results,
      { f with severity := g.severity } = g → f = g

theorem SeveritiesAgree.agreeing {report : Mapping} {results : List Json}
    (h : SeveritiesAgree host report) (get : report.get "Results" = .arr results) (scope : Scope)
    (lineage : List String) :
    Dict.Agreeing ((fixables host results).map (keyed scope lineage)) := by
  intro p hp q hq same
  obtain ⟨f, hf, rfl⟩ := List.mem_map.mp hp
  obtain ⟨g, hg, rfl⟩ := List.mem_map.mp hq
  rw [h results get f hf g hg (observationKey_inj.mp same)]

/-! ### Findings that are kept -/

/-- The severities that a policy admits, in order. -/
def severityRank (text : String) : Nat :=
  if text = Severity.critical.text then 2 else if text = Severity.high.text then 1 else 0

/-- The observation is about this finding and does not weaken it. -/
structure ObservedBy (host : Host) (finding observation : Mapping) : Prop where
  advisoryId : observation.get "advisory_id" = .str (host.normalText (finding.get "VulnerabilityID"))
  packagePurl : observation.get "package_purl" = .str (purl host finding)
  installedVersion :
    observation.get "installed_version" = .str (host.normalText (finding.get "InstalledVersion"))
  fixedVersion : observation.get "fixed_version" = .str (host.normalText (finding.get "FixedVersion"))
  severity : ∃ text, observation.get "severity" = .str text ∧
    severityRank (countedSeverity host finding) ≤ severityRank text

def reportFindings (report : Mapping) : List Mapping :=
  match report.get "Results" with
  | .arr results => results.flatMap listedFindings
  | _ => []

def NothingLost (host : Host) (report : Mapping) (observations : List Mapping) : Prop :=
  ∀ finding ∈ reportFindings report, countsAsFixable finding = true →
    ∃ o ∈ observations, ObservedBy host finding o

theorem countedSeverity_eq_upper {finding : Mapping}
    (h : severityRank (countedSeverity host finding) ≠ 0) :
    countedSeverity host finding = Text.upper (host.normalText (finding.get "Severity")) := by
  have clean (s : String) (h : severityRank (Text.upper s) ≠ 0) : Text.strip s = s := by
    unfold severityRank at h
    refine Text.strip_of_upper ?_
    split_ifs at h with critical high
    · rw [critical]
      decide
    · rw [high]
      decide
    · exact absurd rfl h
  have unknown : severityRank (Text.upper "UNKNOWN") = 0 := by decide
  unfold countedSeverity at h ⊢
  unfold Host.normalText
  cases at_ : finding.get "Severity" with
  | str s =>
    simp only [at_] at h ⊢
    split_ifs at h ⊢ with empty
    · exact absurd unknown h
    · rw [clean s h]
  | _ =>
    simp only [at_] at h ⊢
    split_ifs at h ⊢ with present
    · rw [clean _ h]
    · exact absurd unknown h

/-- A finding that counts as fixable is read as one. -/
theorem fixable?_of_counts {finding : Mapping} (h : countsAsFixable finding = true) :
    ∃ f, fixable? host finding = some f := by
  unfold countsAsFixable at h
  split at h
  next s at_ => simp_all [fixable?, Host.normalText]
  next => cases h

theorem observedBy_rawObservation {finding : Mapping} {f : Fixable} {scope : Scope}
    {lineage : List String} (read : fixable? host finding = some f) :
    ObservedBy host finding (rawObservation scope lineage f) := by
  simp only [fixable?] at read
  split_ifs at read
  cases read
  refine ⟨rfl, rfl, rfl, rfl, _, rfl, ?_⟩
  by_cases zero : severityRank (countedSeverity host finding) = 0
  · exact zero ▸ Nat.zero_le _
  · exact (congrArg severityRank (countedSeverity_eq_upper zero)).le

theorem SeveritiesAgree.nothingLost {scope : Scope} {report : Mapping}
    {observations : List Mapping} (agree : SeveritiesAgree host report)
    (run : collectReport host scope report = .ok observations) :
    NothingLost host report observations := by
  obtain ⟨results, lineage, get, -, rfl⟩ := collectReport_eq_ok.mp run
  intro finding mem counts
  rw [reportFindings, get] at mem
  obtain ⟨f, read⟩ := @fixable?_of_counts host _ counts
  refine ⟨rawObservation scope lineage f,
    Dict.mem_sortedValues.mpr ⟨observationKey lineage f, ?_⟩, observedBy_rawObservation read⟩
  refine (agree.agreeing get scope lineage).mem_ofList.mpr ?_
  exact List.mem_map_of_mem (List.mem_filterMap.mpr ⟨finding, mem, read⟩)

theorem SeveritiesAgree.reordered {scope : Scope} {report report' : Mapping}
    {observations : List Mapping} (agree : SeveritiesAgree host report)
    (run : collectReport host scope report = .ok observations) (h : Reordered report report') :
    collectReport host scope report' = .ok observations := by
  obtain ⟨results, lineage, get, digests, rfl⟩ := collectReport_eq_ok.mp run
  obtain ⟨_, results', same, get', perm⟩ := @Reordered.fixables host _ _ h
  cases get.symm.trans same
  refine collectReport_eq_ok.mpr ⟨results', lineage, get', digests, ?_⟩
  exact (agree.agreeing get scope lineage).sortedValues_ofList (perm.map _)

/-- A finding brought to the end is observed with its own severity. -/
theorem rawObservation_mem_last {scope : Scope} {report : Mapping} {results : List Json}
    {lineage : List String} {observations : List Mapping} {before : List Fixable} {f : Fixable}
    (get : report.get "Results" = .arr results) (last : fixables host results = before ++ [f])
    (digests : normalizeDigestList host (.arr (scope.imageLineageDigests.map .str))
      "image_lineage_digests" = .ok lineage)
    (run : collectReport host scope report = .ok observations) :
    keyed scope lineage f ∈ Dict.ofList ((fixables host results).map (keyed scope lineage)) ∧
      observations = Dict.sortedValues
        (Dict.ofList ((fixables host results).map (keyed scope lineage))) := by
  obtain ⟨_, _, same, digests', rfl⟩ := collectReport_eq_ok.mp run
  cases get.symm.trans same
  cases digests.symm.trans digests'
  refine ⟨?_, rfl⟩
  rw [last, List.map_append, List.map_singleton, Dict.ofList_append]
  exact Dict.mem_put.mpr (.inr rfl)

theorem severitiesAgree_of_reordered {scope : Scope} {report : Mapping}
    {observations : List Mapping} (run : collectReport host scope report = .ok observations)
    (same : ∀ report', Reordered report report' →
      collectReport host scope report' = .ok observations) : SeveritiesAgree host report := by
  obtain ⟨_, lineage, -, digests, -⟩ := collectReport_eq_ok.mp run
  intro results get f hf g hg differ
  obtain ⟨reportF, resultsF, beforeF, reorderedF, getF, lastF⟩ := exists_reordered_last get hf
  obtain ⟨reportG, resultsG, beforeG, reorderedG, getG, lastG⟩ := exists_reordered_last get hg
  obtain ⟨keptF, eqF⟩ := rawObservation_mem_last getF lastF digests (same _ reorderedF)
  obtain ⟨keptG, eqG⟩ := rawObservation_mem_last getG lastG digests (same _ reorderedG)
  -- Both orders give the same observations, so the one of `g` stands in the dictionary of `f`.
  have mem : rawObservation scope lineage g ∈ observations :=
    eqG ▸ Dict.mem_sortedValues.mpr ⟨_, keptG⟩
  rw [eqF] at mem
  obtain ⟨key, entry⟩ := Dict.mem_sortedValues.mp mem
  obtain ⟨h, -, keyedH⟩ := List.mem_map.mp (Dict.mem_of_mem_ofList entry)
  cases rawObservation_inj (congrArg Prod.snd keyedH)
  rw [← keyedH] at entry
  have entries := Dict.eq_of_mem_ofList keptF entry (observationKey_inj.mpr differ)
  exact rawObservation_inj (congrArg Prod.snd entries)

theorem observationsFromTrivyReport_eq_ok {file : File} {scope : Scope} {report : Mapping}
    {observations : List Mapping} (load : loadJson host file "Trivy report" = .ok report) :
    observationsFromTrivyReport host file scope = .ok observations ↔
      collectReport host scope report = .ok observations := by
  simp [observationsFromTrivyReport, load]

theorem optionalArray_eq_ok {value : Json} {message : String} {items : List Json}
    (h : optionalArray value message = .ok items) :
    value = .arr items ∨ items = [] ∧ ∀ other, value ≠ .arr other := by
  unfold optionalArray at h
  cases value with
  | arr all =>
    left
    split at h
    · cases h
      rfl
    · cases h
      simp_all [Json.truthy]
  | _ =>
    right
    split at h <;> cases h
    exact ⟨rfl, nofun⟩

theorem countFinding_fixable {c c' : Counts} {items : List Json}
    (h : items.foldlM (countFinding host) c = .ok c') :
    c'.fixable = c.fixable +
      (listedFindings (.obj [("Vulnerabilities", .arr items)])).countP countsAsFixable := by
  induction items generalizing c with
  | nil =>
    cases h
    rfl
  | cons item items ih =>
    simp only [List.foldlM_cons, bind_eq_ok] at h
    obtain ⟨next, one, rest⟩ := h
    rw [ih rest]
    cases item with
    | obj finding =>
      simp only [countFinding] at one
      split at one <;> cases one <;>
        simp [listedFindings, Mapping.get_cons, Counts.addSeverity, *]
      omega
    | _ => cases one

theorem countResult_fixable {c c' : Counts} {result : Json}
    (h : countResult host c result = .ok c') :
    c'.fixable = c.fixable + (listedFindings result).countP countsAsFixable := by
  cases result with
  | obj result =>
    simp only [countResult, bind_eq_ok, pure_eq_ok] at h
    obtain ⟨found, vulnerabilities, mid, folded, _, -, _, -, rfl⟩ := h
    rw [countFinding_fixable folded]
    rcases optionalArray_eq_ok vulnerabilities with get | ⟨rfl, other⟩
    · simp [listedFindings, get, Mapping.get_cons]
    · have none : listedFindings (.obj result) = [] := by
        rw [listedFindings]
        split
        next found get => exact absurd get (other found)
        next => rfl
      rw [none]
      rfl
  | _ => cases h

/-- The count of fixable findings, over the findings that the collector also sees. -/
theorem counts_fixable {report : Mapping} {c : Counts} (h : counts host report = .ok c) :
    c.fixable = (reportFindings report).countP countsAsFixable := by
  have folds (results : List Json) (start : Counts)
      (h : results.foldlM (countResult host) start = .ok c) :
      c.fixable = start.fixable + (results.flatMap listedFindings).countP countsAsFixable := by
    induction results generalizing start with
    | nil =>
      cases h
      rfl
    | cons result results ih =>
      simp only [List.foldlM_cons, bind_eq_ok] at h
      obtain ⟨next, one, rest⟩ := h
      rw [ih next rest, countResult_fixable one, List.flatMap_cons, List.countP_append]
      omega
  unfold counts at h
  unfold reportFindings
  cases at_ : report.get "Results" with
  | null =>
    rw [at_] at h
    cases h
    rfl
  | arr results =>
    rw [at_] at h
    exact (folds results {} h).trans (Nat.zero_add _)
  | _ => simp [at_] at h

end

/-! ### One advisory listed with two severities -/

def severityText (observation : Mapping) : String :=
  match observation.get "severity" with
  | .str text => text
  | _ => ""

end OptimizrActions.Remediation
