import OptimizrActions.SecurityGate.Classes

/-! The total of a summary against its counts by severity. -/

namespace OptimizrActions.SecurityGate

section

variable {str : Json → String} {codec : JsonCodec} {files : ReportFiles}

/-- The severities count every vulnerability once. -/
structure Counts.Balanced (counts : Counts) : Prop where
  keys : (counts.severities.map Prod.fst).Nodup
  sum : (counts.severities.map Prod.snd).sum = counts.fixable + counts.unfixed

theorem countFinding_balanced {counts counts' : Counts} {finding : Json} (start : counts.Balanced)
    (h : countFinding str counts finding = .ok counts') : counts'.Balanced := by
  cases finding with
  | obj fields =>
    have raised := Dict.sum_put start.keys (severityOf str fields)
    have keys := Dict.nodup_keys_put start.keys
      (severityOf str fields, (counts.severities.lookup (severityOf str fields)).getD 0 + 1)
    rw [start.sum] at raised
    simp only [countFinding] at h
    split_ifs at h
    · cases h
      exact ⟨keys, raised.trans (Nat.add_right_comm ..)⟩
    · cases h
      exact ⟨keys, raised⟩
  | _ => cases h

theorem countResult_balanced {counts counts' : Counts} {result : Json} (start : counts.Balanced)
    (h : countResult str counts result = .ok counts') : counts'.Balanced := by
  cases result with
  | obj fields =>
    simp only [countResult, bind_eq_ok, pure_eq_ok] at h
    obtain ⟨vulnerabilities, -, middle, counted, configs, -, secrets, -, rfl⟩ := h
    have balanced := foldlM_keeps (fun _ _ _ => countFinding_balanced) start counted
    exact ⟨balanced.keys, balanced.sum⟩
  | _ => cases h

theorem countReport_balanced {report : Mapping} {counts : Counts}
    (h : countReport str report = .ok counts) : counts.Balanced := by
  simp only [countReport, bind_eq_ok] at h
  obtain ⟨results, -, counted⟩ := h
  have start : noCounts.Balanced := ⟨List.nodup_nil, rfl⟩
  exact foldlM_keeps (fun _ _ _ => countResult_balanced) start counted

def TrivySummary.severitySum (summary : TrivySummary) : Nat := (summary.bySeverity.map Prod.snd).sum

/-- The number of vulnerabilities without a fixed version. -/
def unfixedIn (report : Mapping) : Nat := (findings report "Vulnerabilities").countP (!isFixable ·)

attribute [local simp] bind_eq_ok

end

/-- An enforced report without results, beside a complete one with a finding that has no fix. -/
def mixedCodec : JsonCodec :=
  .table [] [(asciiBytes "{}", .obj []),
    (asciiBytes "\x7b\"Results\":[\x7b\"Vulnerabilities\":[\x7b\x7d]\x7d]\x7d",
      .obj [("Results", .arr [.obj [("Vulnerabilities", .arr [.obj []])]])])]

def mixedFiles : ReportFiles
  | "fs-enforced.json" => some (asciiBytes "{}")
  | "fs.json" => some (asciiBytes "\x7b\"Results\":[\x7b\"Vulnerabilities\":[\x7b\x7d]\x7d]\x7d")
  | _ => none

end OptimizrActions.SecurityGate
