import OptimizrActions.PostgresMigration.Diagnostics

/-! The names of the components are distinct; when they are all safe. -/

namespace OptimizrActions.PostgresMigration

section Specification

/-- A name of at most 64 characters is left for the candidate. -/
def HasRoom (candidate : String) (used : List String) : Prop :=
  (candidate ∉ used ∧ candidate.length ≤ 64) ∨
    (candidate ∈ used ∧
      ∃ suffix, 2 ≤ suffix ∧ suffixed candidate suffix ∉ used ∧
        (suffixed candidate suffix).length ≤ 64)

/-- At each pair there is room, with the names in use that the pairs before it have been given. -/
inductive Roomy : Nat → List String → List (String × String) → Prop
  | nil (index : Nat) (used : List String) : Roomy index used []
  | cons {index : Nat} {used : List String} {rawName value : String}
      {rest : List (String × String)} (room : HasRoom (candidateName rawName index) used)
      (later : Roomy (index + 1) (safeComponentName rawName index used :: used) rest) :
    Roomy index used ((rawName, value) :: rest)

end Specification

section Names

variable {candidate rawName : String} {index suffix : Nat} {used : List String}

theorem safeComponentName_not_mem : safeComponentName rawName index used ∉ used := by
  unfold safeComponentName
  dsimp only
  split_ifs with taken
  · exact firstFree_free
  · exact taken

theorem toList_suffixed :
    (suffixed candidate suffix).toList = candidate.toList ++ '_' :: Nat.toDigits 10 suffix := by
  have whole : suffixed candidate suffix = candidate ++ "_" ++ Nat.repr suffix := rfl
  simp [whole, Nat.repr]

theorem length_suffixed :
    (suffixed candidate suffix).length =
      candidate.length + (1 + (Nat.toDigits 10 suffix).length) := by
  rw [← String.length_toList, toList_suffixed, List.length_append, List.length_cons,
    String.length_toList, Nat.add_comm 1]

theorem length_toDigits_mono {m n : Nat} (le : m ≤ n) :
    (Nat.toDigits 10 m).length ≤ (Nat.toDigits 10 n).length := by
  have positive : 0 < (Nat.toDigits 10 n).length := Nat.length_toDigits_pos
  have bound := (Nat.length_toDigits_le_iff (by decide) positive).mp (Nat.le_refl _)
  exact (Nat.length_toDigits_le_iff (by decide) positive).mpr (Nat.lt_of_le_of_lt le bound)

/-- A safe name but for its length. -/
def Shaped (name : String) : Prop :=
  ∃ c cs, name.toList = c :: cs ∧ isAlphanumeric c = true ∧ ∀ d ∈ cs, isComponentChar d = true

theorem isSafeComponent_iff {name : String} :
    isSafeComponent name = true ↔ Shaped name ∧ name.length ≤ 64 := by
  rw [isSafeComponent, Text.isBounded, Shaped, ← String.length_toList]
  cases name.toList with
  | nil => simp
  | cons c cs =>
    simp only [Bool.and_eq_true, decide_eq_true_eq, List.all_eq_true]
    constructor
    · rintro ⟨⟨first, short⟩, rest⟩
      exact ⟨⟨c, cs, rfl, first, rest⟩, Nat.succ_le_succ short⟩
    · rintro ⟨⟨_, _, ⟨⟩, first, rest⟩, short⟩
      exact ⟨⟨first, Nat.le_of_succ_le_succ short⟩, rest⟩

theorem isComponentChar_digit {c : Char} (digit : c.isDigit = true) : isComponentChar c = true := by
  have range : '0' ≤ c ∧ c ≤ '9' := by simpa [Char.isDigit, Char.le_def, UInt32.le_iff_toNat_le] using digit
  simp [isComponentChar, isAlphanumeric, range]

theorem isComponentChar_toDigits {n : Nat} : ∀ c ∈ Nat.toDigits 10 n, isComponentChar c = true :=
  fun _ mem => isComponentChar_digit (Nat.isDigit_of_mem_toDigits (by decide) (by decide) mem)

theorem Shaped.append {name tail : String} (shaped : Shaped name)
    (clean : ∀ c ∈ tail.toList, isComponentChar c = true) : Shaped (name ++ tail) := by
  obtain ⟨c, cs, at_, first, rest⟩ := shaped
  refine ⟨c, cs ++ tail.toList, by rw [String.toList_append, at_, List.cons_append], first, ?_⟩
  exact List.forall_mem_append.mpr ⟨rest, clean⟩

theorem shaped_suffixed (shaped : Shaped candidate) : Shaped (suffixed candidate suffix) := by
  have whole : suffixed candidate suffix = candidate ++ ("_" ++ Nat.repr suffix) := by
    rw [← String.toList_inj, toList_suffixed]
    simp [Nat.repr]
  rw [whole]
  refine shaped.append fun c mem => ?_
  have parts : c = '_' ∨ c ∈ Nat.toDigits 10 suffix := by simpa [Nat.repr] using mem
  obtain rfl | digit := parts
  · decide
  · exact isComponentChar_toDigits c digit

theorem shaped_candidateName : Shaped (candidateName rawName index) := by
  unfold candidateName
  split_ifs with safe
  · exact (isSafeComponent_iff.mp safe).1
  · have whole : s!"component_{index}" = "component_" ++ Nat.repr index := rfl
    rw [whole]
    have rest : "omponent_".toList.all isComponentChar = true := by decide
    have start : "component_".toList = 'c' :: "omponent_".toList := by decide +kernel
    refine Shaped.append ⟨'c', _, start, by decide, List.all_eq_true.mp rest⟩ fun c mem => ?_
    exact isComponentChar_toDigits c (by simpa [Nat.repr] using mem)

/-- The name is safe if and only if there is room for it: the search takes the shortest suffix. -/
theorem isSafeComponent_safeComponentName :
    isSafeComponent (safeComponentName rawName index used) = true ↔
      HasRoom (candidateName rawName index) used := by
  have shaped : Shaped (candidateName rawName index) := shaped_candidateName
  unfold safeComponentName HasRoom
  generalize candidateName rawName index = candidate at shaped ⊢
  dsimp only
  rw [isSafeComponent_iff]
  by_cases taken : candidate ∈ used
  · rw [if_neg (not_not_intro taken)]
    simp only [taken, not_true_eq_false, false_and, true_and, false_or]
    constructor
    · rintro ⟨-, short⟩
      exact ⟨_, le_firstFree, firstFree_free, short⟩
    · rintro ⟨suffix, from_, free, short⟩
      refine ⟨shaped_suffixed shaped, ?_⟩
      rw [length_suffixed] at short ⊢
      have least := length_toDigits_mono
        (@firstFree_le _ _ _ (suffixed_injective candidate) used 2 suffix from_ free)
      omega
  · simp [taken, shaped]

end Names

section Components

variable {sha256 : String → String} {index : Nat} {used : List String}
  {pairs : List (String × String)}

theorem length_nameComponents : (nameComponents sha256 index used pairs).length = pairs.length := by
  induction pairs generalizing index used with
  | nil => rfl
  | cons pair rest ih => exact congrArg Nat.succ ih

/-- What the names in use are is the invariant: every name that is given is not among them. -/
theorem names_fresh :
    ((nameComponents sha256 index used pairs).map (·.name)).Nodup ∧
      ∀ component ∈ nameComponents sha256 index used pairs, component.name ∉ used := by
  induction pairs generalizing index used with
  | nil => exact ⟨List.nodup_nil, nofun⟩
  | cons pair rest ih =>
    obtain ⟨rawName, value⟩ := pair
    obtain ⟨nodup, apart⟩ := @ih (index + 1) (safeComponentName rawName index used :: used)
    rw [nameComponents, List.map_cons, List.nodup_cons, List.forall_mem_cons]
    refine ⟨⟨fun mem => ?_, nodup⟩, safeComponentName_not_mem, fun component mem inside => ?_⟩
    · obtain ⟨component, inside, same⟩ := List.mem_map.mp mem
      exact apart component inside (same ▸ List.mem_cons_self)
    · exact apart component mem (List.mem_cons_of_mem _ inside)

theorem roomy_cons {rawName value : String} :
    Roomy index used ((rawName, value) :: pairs) ↔
      HasRoom (candidateName rawName index) used ∧
        Roomy (index + 1) (safeComponentName rawName index used :: used) pairs := by
  constructor
  · rintro ⟨⟩
    exact ⟨‹_›, ‹_›⟩
  · rintro ⟨room, later⟩
    exact .cons room later

theorem safe_iff_roomy :
    (∀ component ∈ nameComponents sha256 index used pairs,
      isSafeComponent component.name = true) ↔ Roomy index used pairs := by
  induction pairs generalizing index used with
  | nil => exact ⟨fun _ => .nil index used, fun _ => nofun⟩
  | cons pair rest ih =>
    obtain ⟨rawName, value⟩ := pair
    rw [nameComponents, List.forall_mem_cons, isSafeComponent_safeComponentName, ih, roomy_cons]

end Components

section Manifest

variable {loads : String → Option Json} {jsonValue : Json → String} {str : Json → String}
  {sha256 : String → String} {rawOutput side overallSha256 : String} {manifest : Manifest}

theorem components_perm
    (built : buildComponentManifest loads jsonValue str sha256 rawOutput side overallSha256 =
      .ok manifest) :
    manifest.components.Perm
      (nameComponents sha256 1 [] (verificationPairs loads jsonValue str rawOutput)) := by
  simp only [buildComponentManifest, bind_eq_ok, require_eq_ok, pure_eq_ok, exists_const] at built
  obtain ⟨-, -, rfl⟩ := built
  dsimp only
  exact List.perm_insertionSort _ _

/-- One component for each pair, with distinct names; all the names are safe if and only if there was
room for each of them when it was given. -/
theorem buildComponentManifest_safe_iff
    (built : buildComponentManifest loads jsonValue str sha256 rawOutput side overallSha256 =
      .ok manifest) :
    ((manifest.components.map (·.name)).Nodup ∧
      manifest.components.length = (verificationPairs loads jsonValue str rawOutput).length ∧
      ∀ component ∈ manifest.components, isSafeComponent component.name = true) ↔
    Roomy 1 [] (verificationPairs loads jsonValue str rawOutput) := by
  have perm := components_perm built
  have names : (manifest.components.map (·.name)).Perm _ := perm.map _
  have nodup := names.nodup_iff.mpr (@names_fresh sha256 1 [] _).1
  have length := perm.length_eq.trans length_nameComponents
  rw [← @safe_iff_roomy sha256]
  constructor
  · rintro ⟨-, -, safe⟩ component mem
    exact safe component (perm.mem_iff.mpr mem)
  · intro safe
    exact ⟨nodup, length, fun component mem => safe component (perm.mem_iff.mp mem)⟩

end Manifest

section Example

/-- A text of the length of a digest, which is also the greatest length of a name. -/
def longText : String := String.ofList (List.replicate 64 'a')

def sampleManifest (rawOutput : String) : Except String Manifest :=
  buildComponentManifest (fun _ => none) (fun _ => "") (fun _ => "") (fun value => value) rawOutput
    "source" longText

theorem sampleManifest_plain : sampleManifest "a\t1\na\t2" =
    .ok ⟨"source", longText, [⟨"a", "1"⟩, ⟨"a_2", "2"⟩]⟩ := by
  decide +kernel

theorem buildComponentManifest_safe_iff_plain :
    Roomy 1 [] (verificationPairs (fun _ => none) (fun _ => "") (fun _ => "") "a\t1\na\t2") :=
  (buildComponentManifest_safe_iff sampleManifest_plain).mp (by decide +kernel)

def longChars : List Char := List.replicate 64 'a'

theorem pairs_repeated : verificationPairs (fun _ => none) (fun _ => "") (fun _ => "")
    (longText ++ "\t1\n" ++ longText ++ "\t2") = [(longText, "1"), (longText, "2")] := by
  have whole : longText ++ "\t1\n" ++ longText ++ "\t2" =
      String.ofList (longChars ++ "\t1\n".toList ++ longChars ++ "\t2".toList) := by
    have long : longText.toList = longChars := String.toList_ofList
    rw [← String.toList_inj, String.toList_append, String.toList_append, String.toList_append, long]
    exact String.toList_ofList.symm
  have clean : Text.stripChars (longChars ++ "\t1\n".toList ++ longChars ++ "\t2".toList) =
      longChars ++ "\t1\n".toList ++ longChars ++ "\t2".toList := by decide +kernel
  have lines : Text.splitLinesFrom []
      (longChars ++ "\t1\n".toList ++ longChars ++ "\t2".toList) =
        [longChars ++ ['\t', '1'], longChars ++ ['\t', '2']] := by decide +kernel
  have cuts : linePairs 1 [String.ofList (longChars ++ ['\t', '1']),
      String.ofList (longChars ++ ['\t', '2'])] = [(longText, "1"), (longText, "2")] := by
    decide +kernel
  have some_ : ¬longText ++ "\t1\n" ++ longText ++ "\t2" = "" := by decide +kernel
  have stripped : Text.strip (longText ++ "\t1\n" ++ longText ++ "\t2") =
      longText ++ "\t1\n" ++ longText ++ "\t2" := by
    rw [whole, Text.strip, String.toList_ofList, clean]
  unfold verificationPairs
  dsimp only
  rw [stripped, if_neg some_, textPairs, whole, Text.splitLines, String.toList_ofList, lines]
  exact cuts

theorem not_safe_repeated : ∃ manifest,
    sampleManifest (longText ++ "\t1\n" ++ longText ++ "\t2") = .ok manifest ∧
      ¬∀ component ∈ manifest.components, isSafeComponent component.name = true := by
  refine ⟨⟨"source", longText, [⟨longText, "1"⟩, ⟨longText ++ "_2", "2"⟩]⟩, ?_, by decide +kernel⟩
  rw [sampleManifest, buildComponentManifest, pairs_repeated]
  decide +kernel

end Example

end OptimizrActions.PostgresMigration
