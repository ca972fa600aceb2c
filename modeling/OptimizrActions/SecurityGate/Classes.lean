import Mathlib.Algebra.BigOperators.Group.List.Lemmas
import Mathlib.Algebra.Order.BigOperators.Group.List
import Mathlib.Data.List.Perm.Subperm
import OptimizrActions.Lib.Gather
import OptimizrActions.Lib.Tally
import OptimizrActions.SecurityGate.Report

/-! What the class of a deployment says about its reports. -/

namespace OptimizrActions.SecurityGate

section Totals

@[ext] theorem Totals.ext' {a b : Totals} (fixable : a.fixable = b.fixable)
    (unfixed : a.unfixed = b.unfixed) (misconfigurations : a.misconfigurations = b.misconfigurations)
    (secrets : a.secrets = b.secrets) : a = b := by
  cases a
  cases b
  simp_all

instance : Zero Totals := ⟨⟨0, 0, 0, 0⟩⟩

instance : Add Totals where
  add a b := ⟨a.fixable + b.fixable, a.unfixed + b.unfixed,
    a.misconfigurations + b.misconfigurations, a.secrets + b.secrets⟩

instance : AddCommMonoid Totals where
  add_assoc a b c := Totals.ext' (Nat.add_assoc ..) (Nat.add_assoc ..) (Nat.add_assoc ..)
    (Nat.add_assoc ..)
  zero_add a := Totals.ext' (Nat.zero_add _) (Nat.zero_add _) (Nat.zero_add _) (Nat.zero_add _)
  add_zero a := rfl
  add_comm a b := Totals.ext' (Nat.add_comm ..) (Nat.add_comm ..) (Nat.add_comm ..)
    (Nat.add_comm ..)
  nsmul := nsmulRec

def fixableCount : Totals →+ Nat where
  toFun := Totals.fixable
  map_zero' := rfl
  map_add' _ _ := rfl

def unfixedCount : Totals →+ Nat where
  toFun := Totals.unfixed
  map_zero' := rfl
  map_add' _ _ := rfl

def misconfigurationCount : Totals →+ Nat where
  toFun := Totals.misconfigurations
  map_zero' := rfl
  map_add' _ _ := rfl

def secretCount : Totals →+ Nat where
  toFun := Totals.secrets
  map_zero' := rfl
  map_add' _ _ := rfl

end Totals

/-- The findings of one kind in a report. -/
def listAt (field : String) : Json → List Json
  | .obj result =>
    match Mapping.getD result field (.arr []) with
    | .arr findings => findings
    | _ => []
  | _ => []

def reportResults (report : Mapping) : List Json :=
  match report.getD "Results" (.arr []) with
  | .arr results => results
  | _ => []

def findings (report : Mapping) (field : String) : List Json :=
  (reportResults report).flatMap (listAt field)

def isFixable : Json → Bool
  | .obj finding => hasFix finding
  | _ => false

section Counting

def findingTotals (finding : Json) : Totals :=
  if isFixable finding then ⟨1, 0, 0, 0⟩ else ⟨0, 1, 0, 0⟩

def resultTotals (result : Json) : Totals :=
  ((listAt "Vulnerabilities" result).map findingTotals).sum +
    ⟨0, 0, (listAt "Misconfigurations" result).length, (listAt "Secrets" result).length⟩

def reportTotals (report : Mapping) : Totals := ((reportResults report).map resultTotals).sum

def Counts.totals (counts : Counts) : Totals :=
  ⟨counts.fixable, counts.unfixed, counts.misconfigurations, counts.secrets⟩

variable {str : Json → String}

theorem listAt_of_get {result : Mapping} {field : String} {found : List Json}
    (at_ : result.getD field (.arr []) = .arr found) : listAt field (.obj result) = found := by
  rw [listAt, at_]

theorem listAt_of_not_arr {result : Mapping} {field : String}
    (other : ∀ found, result.getD field (.arr []) ≠ .arr found) : listAt field (.obj result) = [] := by
  rw [listAt]
  split
  next found at_ => exact absurd at_ (other found)
  next => rfl

theorem findingsOf_eq_ok {result : Mapping} {field : String} {found : List Json}
    (h : findingsOf result field = .ok found) : found = listAt field (.obj result) := by
  by_cases list : ∃ items, result.getD field (.arr []) = .arr items
  · obtain ⟨items, at_⟩ := list
    rw [listAt_of_get at_]
    rw [findingsOf, at_] at h
    split_ifs at h with some
    · exact (Except.ok.inj h).symm
    · rw [← Except.ok.inj h]
      cases items with
      | nil => rfl
      | cons item rest => exact absurd rfl some
  · rw [listAt_of_not_arr (not_exists.mp list)]
    rw [findingsOf] at h
    split_ifs at h
    · split at h
      next items at_ => exact absurd ⟨items, at_⟩ list
      next => exact absurd h nofun
    · exact (Except.ok.inj h).symm

theorem countFinding_eq_ok {counts counts' : Counts} {finding : Json}
    (h : countFinding str counts finding = .ok counts') :
    counts'.totals = counts.totals + findingTotals finding := by
  cases finding with
  | obj fields =>
    simp only [countFinding] at h
    split_ifs at h with fix
    · cases h
      rw [findingTotals, isFixable, if_pos fix]
      rfl
    · cases h
      rw [findingTotals, isFixable, if_neg fix]
      rfl
  | _ => cases h

theorem countResult_eq_ok {counts counts' : Counts} {result : Json}
    (h : countResult str counts result = .ok counts') :
    counts'.totals = counts.totals + resultTotals result := by
  cases result with
  | obj fields =>
    simp only [countResult, bind_eq_ok, pure_eq_ok] at h
    obtain ⟨vulnerabilities, atFirst, middle, counted, configs, atConfigs, secrets, atSecrets,
      rfl⟩ := h
    rw [findingsOf_eq_ok atFirst] at counted
    rw [findingsOf_eq_ok atConfigs, findingsOf_eq_ok atSecrets, resultTotals, ← add_assoc,
      ← foldlM_sum (f := countFinding str) (fun _ _ _ => countFinding_eq_ok) counted]
    rfl
  | _ => cases h

theorem countReport_eq_ok {report : Mapping} {counts : Counts}
    (h : countReport str report = .ok counts) : counts.totals = reportTotals report := by
  simp only [countReport, bind_eq_ok] at h
  obtain ⟨results, atResults, counted⟩ := h
  have same : results = reportResults report := by
    unfold resultsOf reportResults at *
    split at atResults
    next at_ =>
      cases atResults
      rw [at_]
    next at_ =>
      cases atResults
      rw [at_]
    next => cases atResults
  have sum := foldlM_sum (f := countResult str) (fun _ _ _ => countResult_eq_ok) counted
  rw [sum, same, reportTotals]
  exact zero_add _

/-- The counts of a report are those of its findings. -/
theorem reportTotals_eq (report : Mapping) :
    reportTotals report = ⟨(findings report "Vulnerabilities").countP isFixable,
      (findings report "Vulnerabilities").countP (!isFixable ·),
      (findings report "Misconfigurations").length, (findings report "Secrets").length⟩ := by
  have vulnerabilities (found : List Json) : (found.map findingTotals).sum =
      ⟨found.countP isFixable, found.countP (!isFixable ·), 0, 0⟩ := by
    induction found with
    | nil => rfl
    | cons finding rest ih =>
      rw [List.map_cons, List.sum_cons, ih, findingTotals, List.countP_cons, List.countP_cons]
      cases isFixable finding with
      | true => exact Totals.ext' (Nat.add_comm 1 _) (Nat.zero_add _) rfl rfl
      | false => exact Totals.ext' (Nat.zero_add _) (Nat.add_comm 1 _) rfl rfl
  unfold reportTotals findings
  induction reportResults report with
  | nil => rfl
  | cons result rest ih =>
    rw [List.map_cons, List.sum_cons, ih, resultTotals, vulnerabilities, List.flatMap_cons,
      List.flatMap_cons, List.flatMap_cons, List.countP_append, List.countP_append,
      List.length_append, List.length_append]
    exact Totals.ext' rfl rfl (congrArg (· + _) (Nat.zero_add _)) (congrArg (· + _) (Nat.zero_add _))

end Counting

section Classification

/-- The place of a class in the order from the best to the worst. -/
def Classification.rank : Classification → Nat
  | .clean => 0
  | .unfixedWarning => 1
  | .actionableVulnerability => 2
  | .misconfigurationDetected => 3
  | .secretDetected => 4
  | .scannerError => 5

variable {gateError : Bool} {a b : Totals}

theorem classify_scannerError : classify gateError a = .scannerError ↔ gateError = true := by
  unfold classify
  split_ifs with error <;> simp [error]

theorem classify_secretDetected :
    classify false a = .secretDetected ↔ secretCount a ≠ 0 := by
  change _ ↔ a.secrets ≠ 0
  unfold classify
  split_ifs <;> simp_all

theorem classify_misconfigurationDetected :
    classify false a = .misconfigurationDetected ↔
      secretCount a = 0 ∧ misconfigurationCount a ≠ 0 := by
  change _ ↔ a.secrets = 0 ∧ a.misconfigurations ≠ 0
  unfold classify
  split_ifs <;> simp_all

theorem classify_actionableVulnerability :
    classify false a = .actionableVulnerability ↔
      secretCount a = 0 ∧ misconfigurationCount a = 0 ∧ fixableCount a ≠ 0 := by
  change _ ↔ a.secrets = 0 ∧ a.misconfigurations = 0 ∧ a.fixable ≠ 0
  unfold classify
  split_ifs <;> simp_all

theorem classify_unfixedWarning :
    classify false a = .unfixedWarning ↔ secretCount a = 0 ∧ misconfigurationCount a = 0 ∧
      fixableCount a = 0 ∧ unfixedCount a ≠ 0 := by
  change _ ↔ a.secrets = 0 ∧ a.misconfigurations = 0 ∧ a.fixable = 0 ∧ a.unfixed ≠ 0
  unfold classify
  split_ifs <;> simp_all

theorem classify_clean :
    classify false a = .clean ↔ secretCount a = 0 ∧ misconfigurationCount a = 0 ∧
      fixableCount a = 0 ∧ unfixedCount a = 0 := by
  change _ ↔ a.secrets = 0 ∧ a.misconfigurations = 0 ∧ a.fixable = 0 ∧ a.unfixed = 0
  unfold classify
  split_ifs <;> simp_all

/-- More findings never make the class better. -/
theorem classify_mono : (classify gateError a).rank ≤ (classify gateError (a + b)).rank := by
  have secrets : (a + b).secrets = a.secrets + b.secrets := rfl
  have misconfigurations : (a + b).misconfigurations = a.misconfigurations + b.misconfigurations :=
    rfl
  have fixable : (a + b).fixable = a.fixable + b.fixable := rfl
  have unfixed : (a + b).unfixed = a.unfixed + b.unfixed := rfl
  unfold classify
  split_ifs <;> first | exact Nat.le_refl _ | (simp only [Classification.rank]; omega)

end Classification

/-- An enforced report, with the complete report that belongs to it. -/
structure ReportPair where
  enforced : Mapping
  complete : Option Mapping

namespace ReportPair

/-- The report whose vulnerabilities without a fix are counted. -/
def effective (pair : ReportPair) : Mapping := pair.complete.getD pair.enforced

def totals (pair : ReportPair) : Totals where
  fixable := (reportTotals pair.enforced).fixable
  unfixed := (reportTotals pair.effective).unfixed
  misconfigurations := (reportTotals pair.enforced).misconfigurations
  secrets := (reportTotals pair.enforced).secrets

def HasSecret (pair : ReportPair) : Prop := findings pair.enforced "Secrets" ≠ []

def HasMisconfiguration (pair : ReportPair) : Prop :=
  findings pair.enforced "Misconfigurations" ≠ []

def HasFixable (pair : ReportPair) : Prop :=
  ∃ finding ∈ findings pair.enforced "Vulnerabilities", isFixable finding = true

def HasUnfixed (pair : ReportPair) : Prop :=
  ∃ finding ∈ findings pair.effective "Vulnerabilities", isFixable finding = false

variable {pair : ReportPair}

theorem secretCount_ne_zero : secretCount pair.totals ≠ 0 ↔ pair.HasSecret := by
  change (reportTotals pair.enforced).secrets ≠ 0 ↔ _
  rw [reportTotals_eq, HasSecret, Ne, List.length_eq_zero_iff]

theorem misconfigurationCount_ne_zero :
    misconfigurationCount pair.totals ≠ 0 ↔ pair.HasMisconfiguration := by
  change (reportTotals pair.enforced).misconfigurations ≠ 0 ↔ _
  rw [reportTotals_eq, HasMisconfiguration, Ne, List.length_eq_zero_iff]

theorem fixableCount_ne_zero : fixableCount pair.totals ≠ 0 ↔ pair.HasFixable := by
  change (reportTotals pair.enforced).fixable ≠ 0 ↔ _
  rw [reportTotals_eq, ← Nat.pos_iff_ne_zero, List.countP_pos_iff]
  rfl

theorem unfixedCount_ne_zero : unfixedCount pair.totals ≠ 0 ↔ pair.HasUnfixed := by
  change (reportTotals pair.effective).unfixed ≠ 0 ↔ _
  rw [reportTotals_eq, ← Nat.pos_iff_ne_zero, List.countP_pos_iff]
  simp only [Bool.not_eq_true', HasUnfixed]

theorem count_sum_ne_zero {count : Totals →+ Nat} {p : ReportPair → Prop}
    (each : ∀ {pair : ReportPair}, count pair.totals ≠ 0 ↔ p pair) (pairs : List ReportPair) :
    count (pairs.map totals).sum ≠ 0 ↔ ∃ pair ∈ pairs, p pair := by
  simp only [map_list_sum, List.map_map, Ne, List.sum_eq_zero_iff_forall_eq_nat, List.mem_map,
    Function.comp_apply, ← each]
  constructor
  · intro some
    by_contra none
    refine some fun _ ⟨pair, mem, at_⟩ => ?_
    rw [← at_]
    exact not_not.mp fun found => none ⟨pair, mem, found⟩
  · rintro ⟨pair, mem, some⟩ all
    exact some (all _ ⟨pair, mem, rfl⟩)

end ReportPair

section Pipeline

variable {str : Json → String} {codec : JsonCodec} {files : ReportFiles}

/-- The reports that are read for the summary of an enforced report. -/
structure ReadsPair (str : Json → String) (codec : JsonCodec) (files : ReportFiles) (name : String)
    (pair : ReportPair) : Prop where
  enforced : loadReport codec files name = .ok pair.enforced
  complete : (completeReportFor files name).elim (pair.complete = none) fun other =>
    ∃ report, loadReport codec files other = .ok report ∧ pair.complete = some report

theorem effectiveUnfixed_eq_ok {name : String} {enforced : Mapping} {counts : Counts} {n : Nat}
    (counted : countReport str enforced = .ok counts)
    (h : effectiveUnfixed str codec files name counts = .ok n) :
    ∃ complete, (completeReportFor files name).elim (complete = none) (fun other =>
      ∃ report, loadReport codec files other = .ok report ∧ complete = some report) ∧
      n = (reportTotals (complete.getD enforced)).unfixed := by
  unfold effectiveUnfixed at h
  split at h
  next at_ =>
    cases h
    exact ⟨none, by rw [at_]; rfl, congrArg Totals.unfixed (countReport_eq_ok counted)⟩
  next other at_ =>
    simp only [bind_eq_ok, pure_eq_ok] at h
    obtain ⟨report, loaded, counts', counted', rfl⟩ := h
    exact ⟨some report, by rw [at_]; exact ⟨report, loaded, rfl⟩,
      congrArg Totals.unfixed (countReport_eq_ok counted')⟩

def TrivySummary.totals (summary : TrivySummary) : Totals :=
  ⟨summary.fixable, summary.unfixed, summary.misconfigurations, summary.secrets⟩

theorem summarizeTrivyReport_eq_ok {name : String} {summary : TrivySummary}
    (h : summarizeTrivyReport str codec files name = .ok summary) :
    ∃ pair, ReadsPair str codec files name pair ∧ summary.totals = pair.totals := by
  simp only [summarizeTrivyReport, bind_eq_ok, pure_eq_ok] at h
  obtain ⟨report, loaded, counts, counted, unfixed, atUnfixed, rfl⟩ := h
  obtain ⟨complete, found, rfl⟩ := effectiveUnfixed_eq_ok counted atUnfixed
  have same := countReport_eq_ok counted
  have fixable : counts.fixable = (reportTotals report).fixable := congrArg Totals.fixable same
  have misconfigurations : counts.misconfigurations = (reportTotals report).misconfigurations :=
    congrArg Totals.misconfigurations same
  have secrets : counts.secrets = (reportTotals report).secrets := congrArg Totals.secrets same
  exact ⟨⟨report, complete⟩, ⟨loaded, found⟩, Totals.ext' fixable rfl misconfigurations secrets⟩

/-- A summary is written, and read by the second command. -/
def writeSummary (codec : JsonCodec) (summary : TrivySummary) : Except String (Option (List UInt8)) :=
  match codec.dumps (.obj summary.toMapping) with
  | some content => .ok (some content)
  | none => .error "Object is not JSON serializable"

theorem addSummary_of_written (sorts : codec.Sorts) {summary : TrivySummary}
    {file : Option (List UInt8)} (written : writeSummary codec summary = .ok file)
    (totals : Totals) : addSummary codec totals file = .ok (totals + summary.totals) := by
  unfold writeSummary at written
  split at written
  next content dumped =>
    cases written
    have keys : (summary.toMapping.map Prod.fst).Nodup := by
      change ["schema_version", "vulnerabilities", "misconfigurations", "secrets", "policy"].Nodup
      decide
    have inner : (summary.vulnerabilities.map Prod.fst).Nodup := by
      change ["total", "fixable", "unfixed", "by_severity"].Nodup
      decide
    obtain ⟨loaded, sorted, -, get⟩ := Json.sortKeys_obj keys
    obtain ⟨vulnerabilities, sorted', -, get'⟩ := Json.sortKeys_obj inner
    have load : loadSummary codec (some content) = .ok loaded := by
      have version : loaded.get "schema_version" = .int 1 := get _
      simp only [loadSummary, sorts _ _ dumped, sorted, bind_eq_ok, require_eq_ok, pure_eq_ok,
        exists_const, version]
      exact ⟨rfl, trivial⟩
    have object : vulnerabilitiesOf (loaded.get "vulnerabilities") = .ok vulnerabilities := by
      rw [get]
      change vulnerabilitiesOf (Json.obj summary.vulnerabilities).sortKeys = _
      rw [sorted']
      rfl
    have fixable : vulnerabilities.get "fixable" = .int summary.fixable := get' _
    have unfixed : vulnerabilities.get "unfixed" = .int summary.unfixed := get' _
    have misconfigurations : loaded.get "misconfigurations" = .int summary.misconfigurations :=
      get _
    have secrets : loaded.get "secrets" = .int summary.secrets := get _
    unfold addSummary
    rw [load, ok_bind, object, ok_bind, fixable, unfixed, misconfigurations, secrets]
    rfl
  next => cases written

theorem foldlM_addSummary (sorts : codec.Sorts) {summaries : List TrivySummary}
    {contents : List (Option (List UInt8))}
    (written : List.Forall₂ (fun summary file => writeSummary codec summary = .ok file) summaries
      contents) (totals : Totals) :
    contents.foldlM (addSummary codec) totals =
      .ok (totals + (summaries.map TrivySummary.totals).sum) := by
  induction written generalizing totals with
  | nil =>
    rw [List.map_nil, List.sum_nil, add_zero]
    rfl
  | cons one _ ih =>
    rw [List.foldlM_cons, addSummary_of_written sorts one, ok_bind, ih, List.map_cons,
      List.sum_cons, add_assoc]

/-- The files in which the summaries of these reports were written. -/
def WrittenSummaries (str : Json → String) (codec : JsonCodec) (files : ReportFiles)
    (names : List String) (contents : List (Option (List UInt8))) : Prop :=
  List.Forall₂ (fun name file => ∃ summary, summarizeTrivyReport str codec files name = .ok summary ∧
    writeSummary codec summary = .ok file) names contents

/-- The class that the reports of a deployment stand for. -/
structure Classified (gateError : Bool) (pairs : List ReportPair) (aggregate : Aggregate) :
    Prop where
  totals : aggregate.totals = (pairs.map ReportPair.totals).sum
  scannerError : aggregate.classification = .scannerError ↔ gateError = true
  secret : gateError = false → (aggregate.classification = .secretDetected ↔
    ∃ pair ∈ pairs, pair.HasSecret)
  misconfiguration : gateError = false → (aggregate.classification = .misconfigurationDetected ↔
    (¬∃ pair ∈ pairs, pair.HasSecret) ∧ ∃ pair ∈ pairs, pair.HasMisconfiguration)
  actionable : gateError = false → (aggregate.classification = .actionableVulnerability ↔
    (¬∃ pair ∈ pairs, pair.HasSecret) ∧ (¬∃ pair ∈ pairs, pair.HasMisconfiguration) ∧
      ∃ pair ∈ pairs, pair.HasFixable)
  unfixed : gateError = false → (aggregate.classification = .unfixedWarning ↔
    (¬∃ pair ∈ pairs, pair.HasSecret) ∧ (¬∃ pair ∈ pairs, pair.HasMisconfiguration) ∧
      (¬∃ pair ∈ pairs, pair.HasFixable) ∧ ∃ pair ∈ pairs, pair.HasUnfixed)
  clean : gateError = false → (aggregate.classification = .clean ↔
    (¬∃ pair ∈ pairs, pair.HasSecret) ∧ (¬∃ pair ∈ pairs, pair.HasMisconfiguration) ∧
      (¬∃ pair ∈ pairs, pair.HasFixable) ∧ ¬∃ pair ∈ pairs, pair.HasUnfixed)

theorem classified_of_totals (gateError : Bool) (pairs : List ReportPair) :
    Classified gateError pairs ⟨classify gateError (pairs.map ReportPair.totals).sum,
      (pairs.map ReportPair.totals).sum⟩ := by
  have secret := ReportPair.count_sum_ne_zero ReportPair.secretCount_ne_zero pairs
  have misconfiguration :=
    ReportPair.count_sum_ne_zero ReportPair.misconfigurationCount_ne_zero pairs
  have fixable := ReportPair.count_sum_ne_zero ReportPair.fixableCount_ne_zero pairs
  have unfixed := ReportPair.count_sum_ne_zero ReportPair.unfixedCount_ne_zero pairs
  refine ⟨rfl, classify_scannerError, ?_, ?_, ?_, ?_, ?_⟩ <;>
  · rintro rfl
    simp only [classify_secretDetected, classify_misconfigurationDetected,
      classify_actionableVulnerability, classify_unfixedWarning, classify_clean, ← secret,
      ← misconfiguration, ← fixable, ← unfixed, not_not]

theorem pairs_of_written {names : List String} {contents : List (Option (List UInt8))}
    (written : WrittenSummaries str codec files names contents) : ∃ summaries pairs,
      List.Forall₂ (fun summary file => writeSummary codec summary = .ok file) summaries contents ∧
      List.Forall₂ (ReadsPair str codec files) names pairs ∧
      summaries.map TrivySummary.totals = pairs.map ReportPair.totals := by
  induction written with
  | nil => exact ⟨[], [], .nil, .nil, rfl⟩
  | cons one _ ih =>
    obtain ⟨summaries, pairs, files, read, same⟩ := ih
    obtain ⟨summary, summarized, file⟩ := one
    obtain ⟨pair, reads, totals⟩ := summarizeTrivyReport_eq_ok summarized
    exact ⟨summary :: summaries, pair :: pairs, .cons file files, .cons reads read,
      congrArg₂ List.cons totals same⟩

theorem ReadsPair.unique {name : String} {pair pair' : ReportPair}
    (h : ReadsPair str codec files name pair) (h' : ReadsPair str codec files name pair') :
    pair = pair' := by
  obtain ⟨enforced, complete⟩ := pair
  obtain ⟨enforced', complete'⟩ := pair'
  have same : enforced = enforced' := Except.ok.inj (h.enforced.symm.trans h'.enforced)
  have found := h.complete
  have found' := h'.complete
  cases at_ : completeReportFor files name with
  | none =>
    rw [at_] at found found'
    exact congrArg₂ ReportPair.mk same (found.trans found'.symm)
  | some other =>
    rw [at_] at found found'
    obtain ⟨report, loaded, rfl⟩ := found
    obtain ⟨report', loaded', rfl⟩ := found'
    exact congrArg₂ ReportPair.mk same
      (congrArg some (Except.ok.inj (loaded.symm.trans loaded')))

theorem aggregateSummaries_of_written (sorts : codec.Sorts) {names : List String}
    {contents : List (Option (List UInt8))} (nonempty : names ≠ [])
    (written : WrittenSummaries str codec files names contents) (gateError : Bool) :
    ∃ pairs, List.Forall₂ (ReadsPair str codec files) names pairs ∧
      aggregateSummaries codec contents gateError =
        .ok ⟨classify gateError (pairs.map ReportPair.totals).sum,
          (pairs.map ReportPair.totals).sum⟩ := by
  obtain ⟨summaries, pairs, files, read, same⟩ := pairs_of_written written
  have some : contents ≠ [] := by
    rintro rfl
    cases written
    exact nonempty rfl
  refine ⟨pairs, read, ?_⟩
  rw [aggregateSummaries, require_pos some, ok_bind, foldlM_addSummary sorts files, same]
  exact congrArg (fun totals => Except.ok (⟨classify gateError totals, totals⟩ : Aggregate))
    (zero_add _)

theorem pairs_unique {names : List String} {pairs pairs' : List ReportPair}
    (h : List.Forall₂ (ReadsPair str codec files) names pairs)
    (h' : List.Forall₂ (ReadsPair str codec files) names pairs') : pairs = pairs' := by
  have unique : Relator.RightUnique (ReadsPair str codec files) := fun _ _ _ => ReadsPair.unique
  exact List.right_unique_forall₂' unique h h'

/-- More reports, in any order, are read as more pairs. -/
theorem pairs_of_more {names more names' : List String} {pairs pairs' : List ReportPair}
    (perm : (names ++ more).Perm names') (h : List.Forall₂ (ReadsPair str codec files) names pairs)
    (h' : List.Forall₂ (ReadsPair str codec files) names' pairs') :
    ∃ rest, (pairs ++ rest).Perm pairs' ∧
      List.Forall₂ (ReadsPair str codec files) more rest := by
  obtain ⟨all, read, perm'⟩ := List.perm_comp_forall₂ perm h'
  have first := (List.forall₂_take_append all names more read.flip).flip
  have last := (List.forall₂_drop_append all names more read.flip).flip
  refine ⟨all.drop names.length, ?_, last⟩
  rw [pairs_unique h first, List.take_append_drop]
  exact perm'

/-- The class of a deployment, from its reports: what it stands for, that the order of the reports
does not matter, and that more reports do not make it better. -/
theorem aggregateSummaries_classifies (sorts : codec.Sorts) {names : List String}
    {contents : List (Option (List UInt8))} (nonempty : names ≠ [])
    (written : WrittenSummaries str codec files names contents) (gateError : Bool) :
    ∃ pairs aggregate, List.Forall₂ (ReadsPair str codec files) names pairs ∧
      aggregateSummaries codec contents gateError = .ok aggregate ∧
      Classified gateError pairs aggregate ∧
      (∀ names' contents', names.Perm names' → WrittenSummaries str codec files names' contents' →
        aggregateSummaries codec contents' gateError = .ok aggregate) ∧
      ∀ more names' contents', (names ++ more).Perm names' →
        WrittenSummaries str codec files names' contents' →
        ∃ aggregate', aggregateSummaries codec contents' gateError = .ok aggregate' ∧
          aggregate.classification.rank ≤ aggregate'.classification.rank := by
  obtain ⟨pairs, read, ok⟩ := aggregateSummaries_of_written sorts nonempty written gateError
  refine ⟨pairs, _, read, ok, classified_of_totals gateError pairs,
    fun names' contents' perm written' => ?_, fun more names' contents' perm written' => ?_⟩
  · have some : names' ≠ [] := fun empty => nonempty (List.perm_nil.mp (empty ▸ perm))
    obtain ⟨pairs', read', ok'⟩ := aggregateSummaries_of_written sorts some written' gateError
    have perm : (names ++ []).Perm names' := by simpa using perm
    obtain ⟨rest, perm', none⟩ := pairs_of_more perm read read'
    cases none
    rw [List.append_nil] at perm'
    rw [ok', (perm'.map ReportPair.totals).sum_eq]
  · have some : names' ≠ [] := fun empty =>
      nonempty (List.append_eq_nil_iff.mp (List.perm_nil.mp (empty ▸ perm))).1
    obtain ⟨pairs', read', ok'⟩ := aggregateSummaries_of_written sorts some written' gateError
    obtain ⟨rest, perm', -⟩ := pairs_of_more perm read read'
    refine ⟨_, ok', ?_⟩
    rw [← (perm'.map ReportPair.totals).sum_eq, List.map_append, List.sum_append]
    exact classify_mono

end Pipeline

section Sample

def sampleReport : Json := .obj [("Results", .arr [.obj [("Secrets", .arr [.int 0])]])]

def enforcedContent : List UInt8 :=
  0x7b :: 0x22 :: asciiBytes "Results\":[\x7b\"Secrets\":[0]\x7d]\x7d"

def sampleSummary : TrivySummary := ⟨0, 0, 0, [], 0, 1⟩

def summaryContent : List UInt8 := 0x7b :: 0x0a :: asciiBytes
  ("  \"misconfigurations\": 0,\n  \"policy\": \x7b\n" ++
  "    \"fixable_vulnerabilities\": \"blocking\",\n    \"misconfigurations\": \"blocking\",\n" ++
  "    \"secrets\": \"blocking\",\n    \"unfixed_vulnerabilities\": \"signal-only\"\n  \x7d,\n" ++
  "  \"schema_version\": 1,\n  \"secrets\": 1,\n  \"vulnerabilities\": \x7b\n" ++
  "    \"by_severity\": \x7b\x7d,\n    \"fixable\": 0,\n    \"total\": 0,\n" ++
  "    \"unfixed\": 0\n  \x7d\n\x7d\n")

/-- The codec on the report, on an empty complete report and on the summary. -/
def sampleCodec : JsonCodec :=
  .table [(.obj sampleSummary.toMapping, summaryContent)]
    [(enforcedContent, sampleReport), ([0x7b, 0x7d], .obj []),
      (summaryContent, (Json.obj sampleSummary.toMapping).sortKeys)]

theorem sampleCodec_sorts : sampleCodec.Sorts := by
  have notReport : (summaryContent == enforcedContent) = false := by decide
  have notEmpty : (summaryContent == [0x7b, 0x7d]) = false := by decide
  refine JsonCodec.table_sorts fun entry mem => ?_
  cases List.mem_singleton.mp mem
  rw [List.lookup_cons, notReport, List.lookup_cons, notEmpty]
  exact List.lookup_cons_self

def sampleFiles : ReportFiles
  | "fs-enforced.json" => some enforcedContent
  | "fs.json" => some [0x7b, 0x7d]
  | _ => none

def noText (_ : Json) : String := ""

theorem sample_written : WrittenSummaries noText sampleCodec sampleFiles ["fs-enforced.json"]
    [some summaryContent] := by
  have summarized : summarizeTrivyReport noText sampleCodec sampleFiles "fs-enforced.json" =
      .ok sampleSummary := by decide +kernel
  have dumped : sampleCodec.dumps (.obj sampleSummary.toMapping) = some summaryContent := by
    simp only [sampleCodec, JsonCodec.table, List.lookup_cons_self]
  have written : writeSummary sampleCodec sampleSummary = .ok (some summaryContent) := by
    rw [writeSummary, dumped]
  exact .cons ⟨_, summarized, written⟩ .nil

/-- One report with a complete one beside it. -/
theorem aggregateSummaries_classifies_sample : ∃ pairs aggregate,
    List.Forall₂ (ReadsPair noText sampleCodec sampleFiles) ["fs-enforced.json"] pairs ∧
      aggregateSummaries sampleCodec [some summaryContent] false = .ok aggregate ∧
      Classified false pairs aggregate := by
  obtain ⟨pairs, aggregate, read, ok, classified, -⟩ :=
    aggregateSummaries_classifies sampleCodec_sorts (by decide) sample_written false
  exact ⟨pairs, aggregate, read, ok, classified⟩

end Sample

end OptimizrActions.SecurityGate
