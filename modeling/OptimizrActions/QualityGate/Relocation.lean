import OptimizrActions.Lib.Marker
import OptimizrActions.QualityGate.Collect

/-! Which directories the same artifacts give the same metrics under. -/

namespace OptimizrActions.QualityGate

open Text (occursIn)

section Scope

/-- The scope that the path of the root alone would have. -/
def rootScope (root : Root) : Scope := scopeOf (asPosix root [])

/-- The word stands in the text, whatever the case. -/
def mentions (word : String) (posix : List Char) : Bool :=
  occursIn word.toList (posix.flatMap Text.lowerChar)

def mentionsFrontend (posix : List Char) : Bool :=
  mentions "storefront" posix || mentions "frontend" posix

def pickScope (admin frontend : Bool) : Scope :=
  if admin then .frontendAdmin else if frontend then .frontendStorefront else .backend

theorem scopeOf_eq (posix : List Char) :
    scopeOf posix = pickScope (mentions "admin" posix) (mentionsFrontend posix) := rfl

/-- No word without a slash reaches over one. -/
theorem mentions_slash {word : String} (inPart : '/' ∉ word.toList) (front back : List Char) :
    mentions word (front ++ '/' :: back) = (mentions word front || mentions word back) := by
  have eq : (front ++ '/' :: back).flatMap Text.lowerChar =
      front.flatMap Text.lowerChar ++ '/' :: back.flatMap Text.lowerChar := by
    rw [List.flatMap_append, List.flatMap_cons]
    rfl
  rw [Bool.eq_iff_iff, Bool.or_eq_true]
  simp only [mentions, Text.occursIn_iff, eq]
  constructor
  · exact Marker.infix_of_not_mem inPart
  · rintro (inside | inside)
    · exact inside.trans (List.prefix_append _ _).isInfix
    · exact inside.trans ((List.suffix_cons _ _).trans (List.suffix_append _ _)).isInfix

theorem mentions_nil {word : String} (nonempty : word.toList ≠ []) : mentions word [] = false := by
  rw [mentions, List.flatMap_nil, occursIn, List.isEmpty_eq_false_iff]
  exact nonempty

/-- The path of an artifact as `as_posix` has it under an empty root. -/
def relativePosix (path : List String) : List Char := ['/'].intercalate (path.map String.toList)

theorem mentions_asPosix {word : String} (inPart : '/' ∉ word.toList) (nonempty : word.toList ≠ [])
    (root : Root) (path : List String) : mentions word (asPosix root path) =
      (mentions word (asPosix root []) || mentions word (relativePosix path)) := by
  by_cases empty : path = []
  · subst empty
    rw [show relativePosix [] = [] from rfl, mentions_nil nonempty, Bool.or_false]
  by_cases top : root.parts = []
  · have here : asPosix root path = root.anchor ++ relativePosix path := by
      rw [asPosix, top]
      rfl
    have alone : asPosix root [] = root.anchor := by
      rw [asPosix, top]
      exact List.append_nil _
    rw [here, alone]
    rcases List.eq_nil_or_concat root.anchor with none | ⟨front, c, eq⟩
    · rw [none, mentions_nil nonempty, List.nil_append, Bool.false_or]
    · have slash : c = '/' := root.slashes c (by rw [eq]; simp)
      rw [eq, slash, List.concat_eq_append, List.append_assoc, List.singleton_append, mentions_slash inPart,
        mentions_slash inPart, mentions_nil nonempty, Bool.or_false]
  · have here : asPosix root path = asPosix root [] ++ '/' :: relativePosix path := by
      rw [asPosix, asPosix, List.append_nil, List.map_append,
        KeyValue.intercalate_append (by simpa using top) (by simpa using empty), List.append_assoc]
      rfl
    rw [here, mentions_slash inPart]

theorem scopeOf_asPosix (root : Root) (path : List String) : scopeOf (asPosix root path) =
    pickScope (mentions "admin" (asPosix root []) || mentions "admin" (relativePosix path))
      (mentionsFrontend (asPosix root []) || mentionsFrontend (relativePosix path)) := by
  rw [scopeOf_eq, mentionsFrontend, mentions_asPosix (by decide) (by decide),
    mentions_asPosix (by decide) (by decide) root path,
    mentions_asPosix (by decide) (by decide) root path]
  simp only [mentionsFrontend, Bool.or_assoc, Bool.or_left_comm]

theorem pickScope_or : ∀ admin frontend admin' frontend' here there : Bool,
    pickScope admin frontend = pickScope admin' frontend' →
      pickScope (admin || here) (frontend || there) =
        pickScope (admin' || here) (frontend' || there) := by
  decide

theorem scopeOf_eq_of_rootScope {root root' : Root} (h : rootScope root = rootScope root')
    (path : List String) : scopeOf (asPosix root path) = scopeOf (asPosix root' path) := by
  rw [scopeOf_asPosix, scopeOf_asPosix]
  exact pickScope_or _ _ _ _ _ _ h

end Scope

section Collect

variable (toFloat : Json → Except PyError Rat)

/-- A report of Bandit without findings. -/
def banditReport : Artifact where
  path := ["bandit.json"]
  regular := true
  content := some (.obj [("metrics", .obj [("_totals", .obj [])])])

theorem collectMetrics_banditReport (root : Root) : collectMetrics toFloat root [banditReport] =
    .ok [.security ⟨.bandit, rootScope root, 0, 0, 0, 0⟩] := by
  have scope : scopeOf (asPosix root banditReport.path) = rootScope root := by
    rw [scopeOf_asPosix]
    simp only [show mentions "admin" (relativePosix banditReport.path) = false by decide,
      show mentionsFrontend (relativePosix banditReport.path) = false by decide, Bool.or_false]
    rfl
  have one : collectOne toFloat (rootScope root) banditReport =
      .ok (some (.security ⟨.bandit, rootScope root, 0, 0, 0, 0⟩)) := rfl
  have files : jsonFiles [banditReport] = [banditReport] := rfl
  rw [collectMetrics, files, List.mapM_cons, List.mapM_nil, scope, one]
  rfl

/-- The directories that give the same metrics are those that mention the same scope. -/
theorem collectMetrics_eq_iff (root root' : Root) :
    (∀ tree, collectMetrics toFloat root tree = collectMetrics toFloat root' tree) ↔
      rootScope root = rootScope root' := by
  constructor
  · intro same
    have one := same [banditReport]
    rw [collectMetrics_banditReport, collectMetrics_banditReport] at one
    have metric := List.head_eq_of_cons_eq (Except.ok.inj one)
    exact congrArg Metric.scope metric
  · intro same tree
    have each : (fun artifact : Artifact =>
        collectOne toFloat (scopeOf (asPosix root artifact.path)) artifact) =
        fun artifact => collectOne toFloat (scopeOf (asPosix root' artifact.path)) artifact := by
      funext artifact
      rw [scopeOf_eq_of_rootScope same]
    rw [collectMetrics, collectMetrics, each]

/-- `float(value)` of the numbers that it does not round. -/
def exactFloat : Json → Except PyError Rat
  | .bool b => .ok (if b then 1 else 0)
  | .int n => .ok n
  | .float q => .ok q
  | _ => .error .typeError

/-- A root of one directory. -/
def rootAt (name : String) : Root where
  anchor := ['/']
  parts := [name]
  slashes := by simp

/-- Reports of Bandit on a backend and on an application of its own. -/
def banditReports : List Artifact :=
  [{ banditReport with path := ["backend", "bandit.json"] },
    { banditReport with path := ["admin", "bandit.json"] }]

/-- Under a directory that is called `admin-checkout` the two reports are one metric. -/
theorem collectMetrics_collapse :
    collectMetrics exactFloat (rootAt "checkout") banditReports ≠
      collectMetrics exactFloat (rootAt "admin-checkout") banditReports := by
  have two : (collectMetrics exactFloat (rootAt "checkout") banditReports).map List.length =
      .ok 2 := rfl
  have one : (collectMetrics exactFloat (rootAt "admin-checkout") banditReports).map List.length =
      .ok 1 := rfl
  intro same
  rw [same, one] at two
  exact absurd (Except.ok.inj two) (by decide)

end Collect

end OptimizrActions.QualityGate
