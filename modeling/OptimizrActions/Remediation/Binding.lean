import OptimizrActions.Remediation.Decision
import OptimizrActions.Remediation.Consistency
import OptimizrActions.Remediation.CollectLaws

/-! The commit named by a summary and the commits its observations were made on. -/

namespace OptimizrActions.Remediation

open Calendar

section

variable {host : Host}

/-- The document at this index is the one its de-duplication key rests on. -/
def RestsOn (host : Host) (observations : List Mapping) (index : Nat) (o : Observation) : Prop :=
  CanonicalAt host observations index o ∧ ¬Repeated host observations index o

/-- The document names this commit, up to letter case and surrounding white space. -/
def Names (raw : Mapping) (sourceSha : String) : Prop :=
  ∃ text, raw.get "source_sha" = .str text ∧ Text.lower (Text.strip text) = Text.lower sourceSha

theorem requiredText_eq_ok {payload : Mapping} {field label text : String}
    (h : requiredText payload field label = .ok text) :
    ∃ value, payload.get field = .str value ∧ text = Text.strip value := by
  unfold requiredText at h
  split at h
  next value at_ =>
    split at h
    · cases h
    · cases h
      exact ⟨value, at_, rfl⟩
  next => cases h

/-- An observation carries the commit of its own document. -/
theorem canonicalObservation_sourceSha {index : Nat} {raw : Mapping} {o : Observation}
    (h : canonicalObservation host index raw = .ok o) :
    Text.hexText Text.isHex 40 o.sourceSha.toList = true ∧
      ∃ text, raw.get "source_sha" = .str text ∧ o.sourceSha = Text.lower (Text.strip text) := by
  simp only [canonicalObservation, bind_eq_ok, require_eq_ok, exists_const, requiredBool_eq_ok,
    pure_eq_ok] at h
  obtain ⟨_, -, _, -, _, -, _, -, _, -, _, -, _, -, _, -, _, -, _, -, source, read, _, -, hex, -, _,
    -, b, -, _, -, rfl⟩ := h
  obtain ⟨text, at_, rfl⟩ := requiredText_eq_ok read
  exact ⟨hex, text, at_, rfl⟩

theorem CanonicalAt.names_iff {observations : List Mapping} {index : Nat} {o : Observation}
    {raw : Mapping} {sourceSha : String} (h : CanonicalAt host observations index o)
    (at_ : observations[index]? = some raw) :
    Names raw sourceSha ↔ o.sourceSha = Text.lower sourceSha := by
  obtain ⟨_, same, canon⟩ := h
  cases at_.symm.trans same
  obtain ⟨-, text, read, eq⟩ := canonicalObservation_sourceSha canon
  rw [eq]
  constructor
  · rintro ⟨text', read', names⟩
    cases read.symm.trans read'
    exact names
  · exact fun names => ⟨text, read, names⟩

theorem evaluation_sourceSha {now : DateTime} {file : File} {observations : List Mapping}
    {evaluationTime : Option String} {sourceSha imageDigest : String} {result : Evaluation}
    (run : evaluateRemediationWindows host now (some file) observations true evaluationTime
      sourceSha imageDigest = .ok result) (given : sourceSha ≠ "") :
    result.sourceSha = Text.lower sourceSha ∧
      Text.hexText Text.isHex 40 (Text.lower sourceSha).toList = true := by
  simp only [evaluateRemediationWindows, Bool.not_true, Bool.false_eq_true, if_false, bind_eq_ok,
    normalizedIdentity, if_neg given, require_eq_ok, exists_const, pure_eq_ok] at run
  obtain ⟨_, ⟨hex, rfl⟩, _, -, _, -, policy, -, run⟩ := run
  refine ⟨?_, hex⟩
  split at run
  · cases run
    rfl
  · simp only [bind_eq_ok, pure_eq_ok] at run
    obtain ⟨findings, -, rfl⟩ := run
    rfl

/-- An allowed window rests on canonical observations only. -/
theorem evaluation_canonical {now : DateTime} {file : File} {observations : List Mapping}
    {evaluationTime : Option String} {sourceSha imageDigest : String} {result : Evaluation}
    (run : evaluateRemediationWindows host now (some file) observations true evaluationTime
      sourceSha imageDigest = .ok result) (allowed : result.decision = .allowedWindow) :
    ∀ index < observations.length, ∃ o, CanonicalAt host observations index o := by
  obtain ⟨evaluation, policy, evaluates⟩ := exists_evaluates run
  exact (evaluates.allowed.mp ((evaluation_consistent run).allowed_iff.mpr allowed)).2.1

theorem strip_of_sha {s : String} (hex : Text.hexText Text.isHex 40 (Text.lower s).toList = true) :
    Text.strip s = s := by
  refine Text.strip_of_lower (List.all_eq_true.mpr fun c mem => ?_)
  simp only [Text.hexText, Bool.and_eq_true, List.all_eq_true] at hex
  simp [Text.isSpace_of_isHex (hex.2 c mem)]

/-- A collected observation names the commit it was collected for. -/
theorem collected_names {file : File} {scope : Scope} {collected : List Mapping} {raw : Mapping}
    (run : observationsFromTrivyReport host file scope = .ok collected) (mem : raw ∈ collected)
    (hex : Text.hexText Text.isHex 40 (Text.lower scope.sourceSha).toList = true) :
    Names raw scope.sourceSha := by
  simp only [observationsFromTrivyReport, bind_eq_ok] at run
  obtain ⟨report, -, run⟩ := run
  obtain ⟨results, lineage, -, -, rfl⟩ := collectReport_eq_ok.mp run
  obtain ⟨key, entry⟩ := Dict.mem_sortedValues.mp mem
  obtain ⟨f, -, eq⟩ := List.mem_map.mp (Dict.mem_of_mem_ofList entry)
  cases congrArg Prod.snd eq
  exact ⟨scope.sourceSha, rfl, by rw [strip_of_sha hex]⟩

/-- The summary of an allowed window names the commit it was given, and every
observation that of its own document: they agree exactly when the documents name
the given commit, as they do when they were collected for it. -/
theorem allowed_sourceSha {now : DateTime} {policyFile : Option File}
    {observations : List Mapping} {evaluationTime : Option String} {sourceSha imageDigest : String}
    {result : Evaluation}
    (run : evaluateRemediationWindows host now policyFile observations true evaluationTime
      sourceSha imageDigest = .ok result)
    (given : sourceSha ≠ "") (allowed : result.decision = .allowedWindow) :
    result.sourceSha = Text.lower sourceSha ∧
    Text.hexText Text.isHex 40 result.sourceSha.toList = true ∧
    (∀ (index : Nat) (raw : Mapping), observations[index]? = some raw →
      ∃ o text, canonicalObservation host index raw = .ok o ∧
        Text.hexText Text.isHex 40 o.sourceSha.toList = true ∧
        raw.get "source_sha" = .str text ∧ o.sourceSha = Text.lower (Text.strip text)) ∧
    ((∀ index o, RestsOn host observations index o → o.sourceSha = result.sourceSha) ↔
      ∀ (index : Nat) (raw : Mapping) (o : Observation), observations[index]? = some raw →
        RestsOn host observations index o → Names raw sourceSha) ∧
    ((∀ raw ∈ observations, ∃ file scope collected, scope.sourceSha = sourceSha ∧
        observationsFromTrivyReport host file scope = .ok collected ∧ raw ∈ collected) →
      ∀ index o, CanonicalAt host observations index o → o.sourceSha = result.sourceSha) := by
  cases policyFile with
  | none => cases run
  | some file =>
  obtain ⟨summary, hex⟩ := evaluation_sourceSha run given
  refine ⟨summary, summary ▸ hex, ?_, ?_, ?_⟩
  · intro index raw at_
    have lt : index < observations.length := (List.getElem?_eq_some_iff.mp at_).1
    obtain ⟨o, raw', at_', canon⟩ := evaluation_canonical run allowed index lt
    cases at_.symm.trans at_'
    obtain ⟨digits, text, read, eq⟩ := canonicalObservation_sourceSha canon
    exact ⟨o, text, canon, digits, read, eq⟩
  · rw [summary]
    constructor
    · intro agree index raw o at_ rests
      exact (rests.1.names_iff at_).mpr (agree index o rests)
    · intro names index o rests
      obtain ⟨raw, at_, -⟩ := rests.1
      exact (rests.1.names_iff at_).mp (names index raw o at_ rests)
  · intro collected index o canonical
    obtain ⟨raw, at_, canon⟩ := canonical
    obtain ⟨file, scope, list, rfl, run, mem⟩ := collected raw (List.mem_of_getElem? at_)
    rw [summary]
    have canonical : CanonicalAt host observations index o := ⟨raw, at_, canon⟩
    exact (canonical.names_iff at_).mp (collected_names run mem hex)

end

/-! ### One commit evaluated, another observed -/

def evaluatedSha : String := "cccccccccccccccccccccccccccccccccccccccc"

theorem sample_allowed : ∃ result, evaluateRemediationWindows sampleHost sampleNow (some sampleFile)
    [sampleObservation false] true (some sampleTime) evaluatedSha "" = .ok result ∧
      result.decision = .allowedWindow := by
  have run : (evaluateRemediationWindows sampleHost sampleNow (some sampleFile)
      [sampleObservation false] true (some sampleTime) evaluatedSha "").map (·.decision) =
        .ok .allowedWindow := by decide +kernel
  exact map_eq_ok.mp run

theorem allowed_sourceSha_sample :
    ∃ result : Evaluation, result.sourceSha = Text.lower evaluatedSha ∧
      ∀ (index : Nat) (raw : Mapping), [sampleObservation false][index]? = some raw →
        ∃ o text, canonicalObservation sampleHost index raw = .ok o ∧
          raw.get "source_sha" = .str text ∧ o.sourceSha = Text.lower (Text.strip text) := by
  obtain ⟨result, run, allowed⟩ := sample_allowed
  obtain ⟨summary, -, carried, -⟩ := allowed_sourceSha run (by decide) allowed
  refine ⟨result, summary, fun index raw at_ => ?_⟩
  obtain ⟨o, text, canon, -, read, eq⟩ := carried index raw at_
  exact ⟨o, text, canon, read, eq⟩

/-- Nothing in the evaluator compares the two. -/
theorem other_commit_allowed :
    ¬∀ (host : Host) (now : DateTime) (policyFile : Option File) (observations : List Mapping)
      (evaluationTime : Option String) (sourceSha imageDigest : String) (result : Evaluation),
      evaluateRemediationWindows host now policyFile observations true evaluationTime sourceSha
        imageDigest = .ok result →
      sourceSha ≠ "" → result.decision = .allowedWindow →
      ∀ index o, RestsOn host observations index o → o.sourceSha = result.sourceSha := by
  intro claim
  obtain ⟨result, run, allowed⟩ := sample_allowed
  obtain ⟨o, canonical⟩ := evaluation_canonical run allowed 0 (by decide)
  have first : ¬Repeated sampleHost [sampleObservation false] 0 o :=
    fun ⟨_, lt, _⟩ => absurd lt (Nat.not_lt_zero _)
  have same := claim _ _ _ _ _ _ _ _ run (by decide) allowed 0 o ⟨canonical, first⟩
  rw [(evaluation_sourceSha run (by decide)).1] at same
  have named : Names (sampleObservation false) evaluatedSha := (canonical.names_iff rfl).mpr same
  obtain ⟨text, read, names⟩ := named
  cases read
  exact absurd names (by decide +kernel)

end OptimizrActions.Remediation
