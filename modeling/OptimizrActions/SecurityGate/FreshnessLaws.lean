import Mathlib.Algebra.Order.Field.Rat
import Mathlib.Algebra.Order.Field.Basic
import Mathlib.Tactic.NormNum
import OptimizrActions.Lib.Check
import OptimizrActions.SecurityGate.Freshness

/-! Which of the databases that need no download pass the check before the scan. -/

namespace OptimizrActions.SecurityGate

section Specification

variable (fromisoformat : String → Option Stamp) (localOffset : Int → Int)

/-- What the second check asks for beyond the first. -/
structure Passes (fields : Mapping) (hours : Rat) (now : Stamp) : Prop where
  updatedAt : ∃ time, parseDatetime fromisoformat (fields.get "UpdatedAt") "UpdatedAt" = .ok time
  nextUpdate : ∃ time, parseDatetime fromisoformat (fields.get "NextUpdate") "NextUpdate" = .ok time
  downloadedAt : ∃ reference time, referenceTime localOffset now = .ok reference ∧
    parseDatetime fromisoformat (fields.get "DownloadedAt") "DownloadedAt" = .ok time ∧
    time ≤ reference ∧ ageHours (reference - time) ≤ hours

/-- What a database is that the first check accepts. -/
structure Fresh (database : Database) (limit : Limit) (now : Stamp) (fields : Mapping)
    (hours : Rat) : Prop where
  limit : limit = .finite hours
  positive : ¬hours ≤ 0
  complete : databaseIsComplete database = true
  metadata : database.metadata = some (.obj fields)
  version : isVersion (fields.get "Version") = true
  age : ∃ reference time, now.assumeUtc = .ok reference ∧
    parseTimestamp fromisoformat (fields.get "DownloadedAt") = .ok time ∧
    0 ≤ ageHours (reference - time) ∧ ageHours (reference - time) ≤ hours

end Specification

section Laws

variable {fromisoformat : String → Option Stamp} {localOffset : Int → Int} {database : Database}
  {limit : Limit} {now : Stamp}

theorem fresh_of_accepts (h : databaseIsFresh fromisoformat database limit now = .ok true) :
    ∃ fields hours, Fresh fromisoformat database limit now fields hours := by
  unfold databaseIsFresh at h
  cases limit with
  | finite hours =>
    simp only at h
    by_cases nonpositive : hours ≤ 0
    · rw [if_pos nonpositive] at h
      cases h
    rw [if_neg nonpositive] at h
    by_cases incomplete : databaseIsComplete database = false
    · rw [if_pos incomplete] at h
      cases h
    rw [if_neg incomplete] at h
    cases metadata : database.metadata with
    | none => rw [metadata] at h; cases h
    | some content =>
      rw [metadata] at h
      cases content with
      | obj fields =>
        simp only at h
        by_cases version : isVersion (Mapping.get fields "Version") = false
        · rw [if_pos version] at h
          cases h
        rw [if_neg version] at h
        cases downloaded : parseTimestamp fromisoformat (Mapping.get fields "DownloadedAt") with
        | error e => rw [downloaded] at h; cases e <;> cases h
        | ok time =>
          rw [downloaded] at h
          cases reference : now.assumeUtc with
          | error e => rw [reference] at h; cases h
          | ok instant =>
            rw [reference] at h
            simp only [Except.ok.injEq, Bool.and_eq_true, decide_eq_true_eq] at h
            exact ⟨fields, hours, rfl, nonpositive, by simpa using incomplete, metadata,
              by simpa using version, instant, time, reference, downloaded, h⟩
      | _ => cases h
  | _ => cases h

theorem isPositive_of_isVersion {value : Json} (h : isVersion value = true) :
    isPositive value = true := by
  cases value with
  | int n => exact h
  | _ => cases h

/-- The second check, once the file is known to be there and to hold a mapping. -/
theorem validate_eq_ok_iff {fields : Mapping} {hours : Rat}
    (fresh : Fresh fromisoformat database limit now fields hours) :
    (∃ evidence, validateDbMetadata fromisoformat localOffset database limit now = .ok evidence) ↔
      Passes fromisoformat localOffset fields hours now := by
  have file : ¬database.metadataFile = false := by
    have complete := fresh.complete
    simp only [databaseIsComplete, Bool.and_eq_true] at complete
    simp [complete]
  have positive : ¬isPositive (fields.get "Version") = false := by
    simp [isPositive_of_isVersion fresh.version]
  have nonpositive : ¬(Limit.finite hours).nonpositive = true := by
    simpa [Limit.nonpositive] using fresh.positive
  unfold validateDbMetadata
  rw [fresh.limit, if_neg nonpositive, if_neg file, fresh.metadata]
  simp only [bind_eq_ok]
  constructor
  · rintro ⟨evidence, reference, referenced, updated, updatedAt, next, nextUpdate, time, downloaded,
      rest⟩
    refine ⟨⟨updated, updatedAt⟩, ⟨next, nextUpdate⟩, reference, time, referenced, downloaded, ?_⟩
    split_ifs at rest with future old
    exact ⟨not_lt.mp future, by simpa [Limit.exceeded] using old⟩
  · rintro ⟨⟨updated, updatedAt⟩, ⟨next, nextUpdate⟩, reference, time, referenced, downloaded, past,
      young⟩
    refine ⟨⟨fields.get "Version", updated, next, time, ageHours (reference - time)⟩, reference,
      referenced, updated, updatedAt, next, nextUpdate, time, downloaded, ?_⟩
    rw [if_neg (not_lt.mpr past), if_neg (by simpa [Limit.exceeded] using young), if_neg positive]

/-- The databases that are kept pass the second check exactly where it reads the other times, and
its own reading of the download is inside the limit. -/
theorem validateDbMetadata_iff_of_fresh
    (h : databaseIsFresh fromisoformat database limit now = .ok true) :
    (∃ evidence, validateDbMetadata fromisoformat localOffset database limit now = .ok evidence) ↔
      ∃ fields hours, database.metadata = some (.obj fields) ∧ limit = .finite hours ∧
        Passes fromisoformat localOffset fields hours now := by
  obtain ⟨fields, hours, fresh⟩ := fresh_of_accepts h
  rw [validate_eq_ok_iff fresh]
  constructor
  · exact fun passes => ⟨fields, hours, fresh.metadata, fresh.limit, passes⟩
  · rintro ⟨fields', hours', metadata, limit', passes⟩
    cases metadata.symm.trans fresh.metadata
    cases limit'.symm.trans fresh.limit
    exact passes

/-- Where the two read the clocks alike, only the other times are left to check. -/
theorem passes_of_fresh {fields : Mapping} {hours : Rat} {offset : Int}
    (fresh : Fresh fromisoformat database limit now fields hours) (aware : now.offset = some offset)
    (alike : readTime fromisoformat dropExcessAtEnd (fields.get "DownloadedAt") =
      readTime fromisoformat dropExcess (fields.get "DownloadedAt"))
    (updatedAt : ∃ time, parseDatetime fromisoformat (fields.get "UpdatedAt") "UpdatedAt" = .ok time)
    (nextUpdate : ∃ time,
      parseDatetime fromisoformat (fields.get "NextUpdate") "NextUpdate" = .ok time) :
    Passes fromisoformat localOffset fields hours now := by
  obtain ⟨reference, time, referenced, downloaded, nonneg, young⟩ := fresh.age
  refine ⟨updatedAt, nextUpdate, reference, time, ?_, ?_, ?_, young⟩
  · rw [Stamp.assumeUtc, aware] at referenced
    have instant : inUtc now.clock offset = .ok reference := referenced
    rw [referenceTime, aware, Option.getD_some, instant]
  · rw [parseDatetime, alike, show readTime fromisoformat dropExcess _ = _ from downloaded]
  · by_contra future
    have negative : ((reference - time : Int) : Rat) < 0 := Int.cast_lt_zero.mpr (by omega)
    exact absurd nonneg (not_le.mpr (div_neg_of_neg_of_pos negative (by norm_num)))

/-- `fromisoformat` on one text. -/
def sampleIso (text : String) : Option Stamp :=
  if text = "2026-07-20T06:00:00+00:00" then some ⟨63920124000000000, some 0⟩ else none

/-- One hour later. -/
def sampleNow : Stamp := ⟨63920127600000000, some 0⟩

def sampleDatabase (fields : Mapping) : Database where
  metadataFile := true
  metadataLink := false
  databaseFile := true
  databaseLink := false
  metadata := some (.obj fields)

def sampleFields : Mapping :=
  [("Version", .int 2), ("UpdatedAt", .str "2026-07-20T06:00:00Z"),
    ("NextUpdate", .str "2026-07-20T06:00:00Z"), ("DownloadedAt", .str "2026-07-20T06:00:00Z")]

/-- A database of one hour with all its times. -/
theorem validateDbMetadata_sample :
    databaseIsFresh sampleIso (sampleDatabase sampleFields) (.finite 30) sampleNow = .ok true ∧
      ((∃ evidence, validateDbMetadata sampleIso (fun _ => 0) (sampleDatabase sampleFields)
        (.finite 30) sampleNow = .ok evidence) ↔
      ∃ fields hours, (sampleDatabase sampleFields).metadata = some (.obj fields) ∧
        Limit.finite 30 = .finite hours ∧ Passes sampleIso (fun _ => 0) fields hours sampleNow) :=
  have fresh : databaseIsFresh sampleIso (sampleDatabase sampleFields) (.finite 30) sampleNow =
      .ok true := by decide +kernel
  ⟨fresh, validateDbMetadata_iff_of_fresh fresh⟩

/-- A database of one hour whose metadata has no `UpdatedAt`. -/
theorem validateDbMetadata_fails :
    databaseIsFresh sampleIso (sampleDatabase
        [("Version", .int 2), ("DownloadedAt", .str "2026-07-20T06:00:00Z")]) (.finite 30) sampleNow =
        .ok true ∧
      ¬∃ evidence, validateDbMetadata sampleIso (fun _ => 0) (sampleDatabase
        [("Version", .int 2), ("DownloadedAt", .str "2026-07-20T06:00:00Z")]) (.finite 30)
        sampleNow = .ok evidence := by
  refine ⟨by decide +kernel, ?_⟩
  have fails : validateDbMetadata sampleIso (fun _ => 0) (sampleDatabase
      [("Version", .int 2), ("DownloadedAt", .str "2026-07-20T06:00:00Z")]) (.finite 30) sampleNow =
      .error (.timestamp "UpdatedAt") := rfl
  rintro ⟨evidence, ok⟩
  cases fails.symm.trans ok

end Laws

end OptimizrActions.SecurityGate
