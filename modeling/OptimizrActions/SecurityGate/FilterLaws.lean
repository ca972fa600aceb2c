import Mathlib.Algebra.BigOperators.Group.List.Basic
import OptimizrActions.Lib.Gather
import OptimizrActions.SecurityGate.Filter

/-! What the enforced report keeps of the complete one. -/

namespace OptimizrActions.SecurityGate

section Fields

variable {payload : Mapping} {field other : String} {value : Json}

theorem keys_replaceField : (replaceField payload field value).map Prod.fst = payload.map Prod.fst := by
  rw [replaceField, List.map_map]
  refine List.map_congr_left fun entry _ => ?_
  simp only [Function.comp_apply]
  split_ifs with same
  · exact same.symm
  · rfl

theorem replaceField_cons {key : String} {old : Json} {rest : Mapping} :
    replaceField ((key, old) :: rest) field value =
      (key, if key = field then value else old) :: replaceField rest field value := by
  by_cases same : key = field
  · subst same
    simp [replaceField]
  · simp [replaceField, same]

theorem get_replaceField_of_ne (ne : other ≠ field) :
    (replaceField payload field value).get other = payload.get other := by
  induction payload with
  | nil => rfl
  | cons entry rest ih =>
    obtain ⟨key, old⟩ := entry
    rw [replaceField_cons, Mapping.get_cons, Mapping.get_cons, ih]
    by_cases same : other = key
    · rw [if_pos same, if_pos same, if_neg (same ▸ ne)]
    · rw [if_neg same, if_neg same]

theorem get_replaceField_self (present : field ∈ payload.map Prod.fst) :
    (replaceField payload field value).get field = value := by
  induction payload with
  | nil => cases present
  | cons entry rest ih =>
    obtain ⟨key, old⟩ := entry
    rw [replaceField_cons, Mapping.get_cons]
    by_cases same : key = field
    · rw [if_pos same.symm, if_pos same]
    · rw [if_neg (Ne.symm same), ih ((List.mem_cons.mp present).resolve_left (Ne.symm same))]

theorem replaceField_of_absent (absent : field ∉ payload.map Prod.fst) :
    replaceField payload field value = payload := by
  refine (List.map_congr_left fun entry mem => ?_).trans (List.map_id _)
  exact if_neg fun same => absent (List.mem_map.mpr ⟨entry, mem, same⟩)

theorem get_append_self (absent : field ∉ payload.map Prod.fst) :
    Mapping.get (payload ++ [(field, value)]) field = value := by
  induction payload with
  | nil => rw [List.nil_append, Mapping.get_cons, if_pos rfl]
  | cons entry rest ih =>
    rw [List.map_cons, List.mem_cons, not_or] at absent
    rw [List.cons_append, Mapping.get_cons, if_neg absent.1, ih absent.2]

theorem get_append_of_ne (ne : other ≠ field) :
    Mapping.get (payload ++ [(field, value)]) other = payload.get other := by
  induction payload with
  | nil => rw [List.nil_append, Mapping.get_cons, if_neg ne]
  | cons entry rest ih => rw [List.cons_append, Mapping.get_cons, Mapping.get_cons, ih]

theorem get_ne_null_mem (h : payload.get field ≠ .null) : field ∈ payload.map Prod.fst := by
  by_contra absent
  refine h ?_
  rw [Mapping.get, List.lookup_eq_none_iff.mpr fun entry mem => ?_]
  · rfl
  · exact bne_iff_ne.mpr fun same => absent (List.mem_map.mpr ⟨entry, mem, same.symm⟩)

/-- Every entry of the field has this value. -/
def Holds (payload : Mapping) (field : String) (value : Json) : Prop :=
  ∀ entry ∈ payload, entry.1 = field → entry.2 = value

theorem holds_replaceField : Holds (replaceField payload field value) field value := by
  intro entry mem same
  obtain ⟨old, -, rfl⟩ := List.mem_map.mp mem
  by_cases key : old.1 = field
  · rw [if_pos key]
  · rw [if_neg key] at same
    exact absurd same key

theorem Holds.replaceField_of_ne {v w : Json} (h : Holds payload field v) (ne : other ≠ field) :
    Holds (replaceField payload other w) field v := by
  intro entry mem same
  obtain ⟨old, inside, rfl⟩ := List.mem_map.mp mem
  by_cases key : old.1 = other
  · rw [if_pos key] at same
    exact absurd same ne
  · rw [if_neg key] at same ⊢
    exact h old inside same

theorem Holds.replaceField_eq (h : Holds payload field value) :
    replaceField payload field value = payload := by
  rw [replaceField]
  refine (List.map_congr_left fun entry mem => ?_).trans (List.map_id _)
  split_ifs with key
  · exact Prod.ext key.symm (h entry mem key).symm
  · rfl

end Fields

section Kept

variable {entries : List Mapping} {target : Json} {found kept : List Json}

/-- Whether a finding stays, where nothing raises. -/
def staysIn (entries : List Mapping) (target finding : Json) : Bool :=
  match keeps entries target finding with
  | .ok keep => keep
  | .error _ => false

theorem staysIn_of_ok {finding : Json} {keep : Bool} (h : keeps entries target finding = .ok keep) :
    staysIn entries target finding = keep := by
  rw [staysIn, h]

theorem keptOf_eq_ok : keptOf entries target found = .ok kept ↔
    (∀ finding ∈ found, ∃ keep, keeps entries target finding = .ok keep) ∧
      kept = found.filter (staysIn entries target) := by
  induction found generalizing kept with
  | nil =>
    rw [keptOf, Except.ok.injEq]
    exact ⟨fun h => ⟨nofun, h.symm⟩, fun h => h.2.symm⟩
  | cons finding rest ih =>
    simp only [keptOf, bind_eq_ok, pure_eq_ok, ih, List.forall_mem_cons]
    constructor
    · rintro ⟨keep, one, _, ⟨others, rfl⟩, rfl⟩
      refine ⟨⟨⟨keep, one⟩, others⟩, ?_⟩
      rw [List.filter_cons, staysIn_of_ok one]
    · rintro ⟨⟨⟨keep, one⟩, others⟩, rfl⟩
      refine ⟨keep, one, _, ⟨others, rfl⟩, ?_⟩
      rw [List.filter_cons, staysIn_of_ok one]

/-- A second pass over the kept findings keeps them all. -/
theorem keptOf_kept (h : keptOf entries target found = .ok kept) :
    keptOf entries target kept = .ok kept := by
  obtain ⟨each, rfl⟩ := keptOf_eq_ok.mp h
  refine keptOf_eq_ok.mpr ⟨fun finding mem => each finding (List.mem_of_mem_filter mem), ?_⟩
  exact (List.filter_eq_self.mpr fun finding mem => (List.mem_filter.mp mem).2).symm

/-- What is no object stays. -/
theorem staysIn_of_not_obj {finding : Json} (h : ∀ fields, finding ≠ .obj fields) :
    staysIn entries target finding = true := by
  cases finding with
  | obj fields => exact absurd rfl (h fields)
  | _ => rfl

theorem keptOf_nil : keptOf [] target found = .ok found := by
  have stays (finding : Json) : keeps [] target finding = .ok true := by
    cases finding <;> rfl
  refine keptOf_eq_ok.mpr ⟨fun finding _ => ⟨true, stays finding⟩, ?_⟩
  exact (List.filter_eq_self.mpr fun finding _ => staysIn_of_ok (stays finding)).symm

end Kept

def isObject : Json → Bool
  | .obj _ => true
  | _ => false

/-- A list of findings and what is kept of it. -/
structure KeptList (before after : List Json) : Prop where
  sublist : after.Sublist before
  others : after.filter (!isObject ·) = before.filter (!isObject ·)

/-- One kind of findings of a result, before and after. -/
inductive FieldKept : Json → Json → Prop
  | list {found kept : List Json} (h : KeptList found kept) : FieldKept (.arr found) (.arr kept)
  | other {value : Json} (h : ∀ found, value ≠ .arr found) : FieldKept value value

/-- The summary of the misconfigurations, before and after. -/
inductive SummaryKept : Json → Json → Json → Prop
  | count {kept : List Json} {before after : Mapping}
      (failures : after.get "Failures" = .int kept.length)
      (frame : ∀ key, key ≠ "Failures" → after.get key = before.get key) :
      SummaryKept (.arr kept) (.obj before) (.obj after)
  | other {kept summary : Json}
      (h : (∀ findings, kept ≠ .arr findings) ∨ ∀ fields, summary ≠ .obj fields) :
      SummaryKept kept summary summary

def findingFields : List String := ["Vulnerabilities", "Misconfigurations", "Secrets"]

/-- A result of the report, before and after. -/
inductive ResultKept : Json → Json → Prop
  | object {before after : Mapping} (keys : after.map Prod.fst = before.map Prod.fst)
      (frame : ∀ key, key ∉ findingFields → key ≠ "MisconfSummary" →
        after.get key = before.get key)
      (findings : ∀ field ∈ findingFields, FieldKept (before.get field) (after.get field))
      (summary : SummaryKept (after.get "Misconfigurations") (before.get "MisconfSummary")
        (after.get "MisconfSummary")) : ResultKept (.obj before) (.obj after)
  | other {value : Json} (h : isObject value = false) : ResultKept value value

/-- Both results have the same findings. -/
inductive SameFindings : Json → Json → Prop
  | object {before after : Mapping}
      (h : ∀ field ∈ findingFields, after.get field = before.get field) :
      SameFindings (.obj before) (.obj after)
  | other {value : Json} (h : isObject value = false) : SameFindings value value

def lengthOf : Json → Nat
  | .arr items => items.length
  | _ => 0

/-- The number of findings of one kind in the results. -/
def countOf (results : List Json) (field : String) : Nat :=
  (results.map fun result => match result with
    | .obj result => lengthOf (Mapping.get result field)
    | _ => 0).sum

section Turn

variable {entries : List Mapping} {target : Json} {field key : String} {before after : Mapping}
  {kept : List Json} {removed : Nat}

/-- What one turn of the loop over the kinds does. -/
theorem filterField_eq_ok : filterField entries target field before = .ok (after, removed) ↔
    (∃ found kept, before.get field = .arr found ∧ keptOf entries target found = .ok kept ∧
      after = withKept field kept before ∧ removed = found.length - kept.length) ∨
    (∀ found, before.get field ≠ .arr found) ∧ after = before ∧ removed = 0 := by
  unfold filterField
  split
  next found at_ =>
    simp only [bind_eq_ok, pure_eq_ok, Prod.mk.injEq]
    constructor
    · rintro ⟨kept, ok, rfl, rfl⟩
      exact .inl ⟨found, kept, at_, ok, rfl, rfl⟩
    · rintro (⟨_, kept, at', ok, rfl, rfl⟩ | ⟨none, -⟩)
      · cases at_.symm.trans at'
        exact ⟨kept, ok, rfl, rfl⟩
      · exact absurd at_ (none found)
  next other =>
    rw [Except.ok.injEq, Prod.mk.injEq]
    constructor
    · rintro ⟨rfl, rfl⟩
      exact .inr ⟨other, rfl, rfl⟩
    · rintro (⟨found, _, at_, -⟩ | ⟨-, rfl, rfl⟩)
      · exact absurd at_ (other found)
      · exact ⟨rfl, rfl⟩

theorem keys_withKept : (withKept field kept before).map Prod.fst = before.map Prod.fst := by
  unfold withKept
  split_ifs
  · rw [keys_replaceField, keys_replaceField]
  · exact keys_replaceField

theorem get_withKept_of_ne (ne : key ≠ field)
    (other : key ≠ "MisconfSummary" ∨ field ≠ "Misconfigurations") :
    (withKept field kept before).get key = before.get key := by
  unfold withKept
  split_ifs with misconfigurations
  · rw [get_replaceField_of_ne (other.resolve_right (not_not.mpr misconfigurations)),
      get_replaceField_of_ne ne]
  · exact get_replaceField_of_ne ne

theorem get_withKept_self {found : List Json} (at_ : before.get field = .arr found)
    (other : field ≠ "MisconfSummary") : (withKept field kept before).get field = .arr kept := by
  have present : field ∈ before.map Prod.fst := get_ne_null_mem (by rw [at_]; nofun)
  unfold withKept
  split_ifs
  · rw [get_replaceField_of_ne other, get_replaceField_self present]
  · exact get_replaceField_self present

theorem withKept_misconfigurations : withKept "Misconfigurations" kept before =
    replaceField (replaceField before "Misconfigurations" (.arr kept)) "MisconfSummary"
      (setFailures kept.length (before.get "MisconfSummary")) := by
  rw [withKept, if_pos rfl, get_replaceField_of_ne (by decide)]

theorem setFailures_of_not_obj {count : Nat} {value : Json} (h : ∀ summary, value ≠ .obj summary) :
    setFailures count value = value := by
  cases value with
  | obj summary => exact absurd rfl (h summary)
  | _ => rfl

theorem get_withKept_summary :
    (withKept "Misconfigurations" kept before).get "MisconfSummary" =
      setFailures kept.length (before.get "MisconfSummary") := by
  rw [withKept_misconfigurations]
  by_cases present : "MisconfSummary" ∈ before.map Prod.fst
  · exact get_replaceField_self (by rwa [keys_replaceField])
  · have null : before.get "MisconfSummary" = .null := not_not.mp (mt get_ne_null_mem present)
    rw [replaceField_of_absent (by rwa [keys_replaceField]), get_replaceField_of_ne (by decide),
      null]
    rfl

theorem get_setFailures (count : Nat) (summary : Mapping) : ∃ summary' : Mapping,
    setFailures count (.obj summary) = .obj summary' ∧ summary'.get "Failures" = .int count ∧
      ∀ key, key ≠ "Failures" → summary'.get key = summary.get key := by
  by_cases present : "Failures" ∈ summary.map Prod.fst
  · exact ⟨_, if_pos present, get_replaceField_self present,
      fun key ne => get_replaceField_of_ne ne⟩
  · exact ⟨_, if_neg present, get_append_self present, fun key ne => get_append_of_ne ne⟩

theorem setFailures_setFailures (count : Nat) (value : Json) :
    setFailures count (setFailures count value) = setFailures count value := by
  cases value with
  | obj summary =>
    by_cases present : "Failures" ∈ summary.map Prod.fst
    · have set : setFailures count (.obj summary) =
          .obj (replaceField summary "Failures" (.int count)) := if_pos present
      rw [set, setFailures, if_pos (by rwa [keys_replaceField]), holds_replaceField.replaceField_eq]
    · have set : setFailures count (.obj summary) =
          .obj (summary ++ [("Failures", .int count)]) := if_neg present
      have holds : Holds (summary ++ [("Failures", .int count)]) "Failures" (.int count) := by
        intro entry mem same
        rcases List.mem_append.mp mem with old | new
        · exact absurd (List.mem_map.mpr ⟨entry, old, same⟩) present
        · rw [List.mem_singleton.mp new]
      rw [set, setFailures, if_pos (by simp), holds.replaceField_eq]
  | _ => rfl

theorem filterField_keys (h : filterField entries target field before = .ok (after, removed)) :
    after.map Prod.fst = before.map Prod.fst := by
  rcases filterField_eq_ok.mp h with ⟨_, kept, -, -, rfl, -⟩ | ⟨-, rfl, -⟩
  · exact keys_withKept
  · rfl

theorem filterField_get (h : filterField entries target field before = .ok (after, removed))
    (ne : key ≠ field) (other : key ≠ "MisconfSummary" ∨ field ≠ "Misconfigurations") :
    after.get key = before.get key := by
  rcases filterField_eq_ok.mp h with ⟨_, kept, -, -, rfl, -⟩ | ⟨-, rfl, -⟩
  · exact get_withKept_of_ne ne other
  · rfl

theorem keptList_of_ok {found : List Json} (h : keptOf entries target found = .ok kept) :
    KeptList found kept := by
  obtain ⟨-, rfl⟩ := keptOf_eq_ok.mp h
  refine ⟨List.filter_sublist, ?_⟩
  rw [List.filter_filter]
  refine List.filter_congr fun finding _ => ?_
  cases finding with
  | obj fields => rfl
  | _ => rfl

/-- The findings of a kind, after its turn. -/
theorem filterField_kept (h : filterField entries target field before = .ok (after, removed))
    (other : field ≠ "MisconfSummary") : FieldKept (before.get field) (after.get field) ∧
      removed + lengthOf (after.get field) = lengthOf (before.get field) := by
  rcases filterField_eq_ok.mp h with ⟨found, kept, at_, ok, rfl, rfl⟩ | ⟨none, rfl, rfl⟩
  · have list := keptList_of_ok ok
    rw [get_withKept_self at_ other, at_]
    exact ⟨.list list, Nat.sub_add_cancel list.sublist.length_le⟩
  · exact ⟨.other none, Nat.zero_add _⟩

theorem filterField_summary
    (h : filterField entries target "Misconfigurations" before = .ok (after, removed)) :
    SummaryKept (after.get "Misconfigurations") (before.get "MisconfSummary")
      (after.get "MisconfSummary") := by
  rcases filterField_eq_ok.mp h with ⟨found, kept, at_, ok, rfl, -⟩ | ⟨none, rfl, -⟩
  · rw [get_withKept_self at_ (by decide), get_withKept_summary]
    cases summary : before.get "MisconfSummary" with
    | obj fields =>
      obtain ⟨fields', set, failures, frame⟩ := get_setFailures kept.length fields
      rw [set]
      exact .count failures frame
    | _ => exact .other (.inr nofun)
  · exact .other (.inl none)

/-- The findings of the kind have had their turn. -/
structure Settled (entries : List Mapping) (target : Json) (field : String) (result : Mapping)
    (found : List Json) : Prop where
  kept : keptOf entries target found = .ok found
  holds : Holds result field (.arr found)
  summary : field = "Misconfigurations" →
    Holds result "MisconfSummary" (setFailures found.length (result.get "MisconfSummary"))

theorem filterField_of_settled (h : ∀ found, before.get field = .arr found →
    Settled entries target field before found) :
    filterField entries target field before = .ok (before, 0) := by
  rw [filterField_eq_ok]
  by_cases list : ∃ found, before.get field = .arr found
  · obtain ⟨found, at_⟩ := list
    obtain ⟨kept, holds, summary⟩ := h found at_
    refine .inl ⟨found, found, at_, kept, ?_, (Nat.sub_self _).symm⟩
    rw [withKept, holds.replaceField_eq]
    split_ifs with misconfigurations
    · exact (summary misconfigurations).replaceField_eq.symm
    · rfl
  · exact .inr ⟨not_exists.mp list, rfl, rfl⟩

theorem settled_of_filterField (h : filterField entries target field before = .ok (after, removed))
    (other : field ≠ "MisconfSummary") (found : List Json) (at_ : after.get field = .arr found) :
    Settled entries target field after found := by
  rcases filterField_eq_ok.mp h with ⟨_, kept, at', ok, rfl, -⟩ | ⟨none, rfl, -⟩
  · cases at_.symm.trans (get_withKept_self at' other)
    refine ⟨keptOf_kept ok, ?_, ?_⟩
    · unfold withKept
      split_ifs with misconfigurations
      · exact holds_replaceField.replaceField_of_ne (Ne.symm other)
      · exact holds_replaceField
    · rintro rfl
      rw [get_withKept_summary, setFailures_setFailures, withKept_misconfigurations]
      exact holds_replaceField
  · exact absurd at_ (none found)

/-- A turn leaves the findings of another kind as they are. -/
theorem Settled.of_turn {found : List Json} {turn : String}
    (settled : Settled entries target field before found)
    (h : filterField entries target turn before = .ok (after, removed)) (ne : turn ≠ field)
    (other : field ≠ "MisconfSummary") (apart : turn ≠ "MisconfSummary") :
    Settled entries target field after found := by
  rcases filterField_eq_ok.mp h with ⟨_, kept, -, -, rfl, -⟩ | ⟨-, rfl, -⟩
  · refine ⟨settled.kept, ?_, fun misconfigurations => ?_⟩
    · unfold withKept
      split_ifs
      · exact (settled.holds.replaceField_of_ne ne).replaceField_of_ne (Ne.symm other)
      · exact settled.holds.replaceField_of_ne ne
    · have last : turn ≠ "Misconfigurations" := misconfigurations ▸ ne
      rw [get_withKept_of_ne (Ne.symm apart) (.inr last), withKept, if_neg last]
      exact (settled.summary misconfigurations).replaceField_of_ne apart
  · exact settled

end Turn

section Result

variable {entries : List Mapping} {before after : Mapping} {removed : Removed}

theorem getD_of_mem {payload : Mapping} {key : String} {default : Json}
    (present : key ∈ payload.map Prod.fst) : payload.getD key default = payload.get key := by
  obtain ⟨entry, mem, rfl⟩ := List.mem_map.mp present
  cases at_ : payload.lookup entry.1 with
  | none => exact absurd (List.lookup_eq_none_iff.mp at_ entry mem) (by simp)
  | some value => rw [Mapping.getD, Mapping.get, at_, Option.getD_some, Option.getD_some]

theorem getD_of_not_mem {payload : Mapping} {key : String} {default : Json}
    (absent : key ∉ payload.map Prod.fst) : payload.getD key default = default := by
  have none : payload.lookup key = none := List.lookup_eq_none_iff.mpr fun entry mem =>
    bne_iff_ne.mpr fun same => absent (List.mem_map.mpr ⟨entry, mem, same.symm⟩)
  rw [Mapping.getD, none, Option.getD_none]

theorem getD_congr {key : String} {default : Json} (keys : after.map Prod.fst = before.map Prod.fst)
    (same : after.get key = before.get key) : after.getD key default = before.getD key default := by
  by_cases present : key ∈ before.map Prod.fst
  · rw [getD_of_mem present, getD_of_mem (keys ▸ present), same]
  · rw [getD_of_not_mem present, getD_of_not_mem (keys ▸ present)]

/-- The three turns of a result. -/
theorem filterResult_obj :
    filterResult entries (.obj before) = .ok (.obj after, removed) ↔ ∃ first second,
      filterField entries (before.getD "Target" (.str "")) "Vulnerabilities" before =
        .ok (first, removed.vulnerabilities) ∧
      filterField entries (before.getD "Target" (.str "")) "Misconfigurations" first =
        .ok (second, removed.misconfigurations) ∧
      filterField entries (before.getD "Target" (.str "")) "Secrets" second =
        .ok (after, removed.secrets) := by
  simp only [filterResult, bind_eq_ok, pure_eq_ok, Prod.exists, Prod.mk.injEq, Json.obj.injEq]
  constructor
  · rintro ⟨first, _, one, second, _, two, _, _, three, rfl, rfl⟩
    exact ⟨first, second, one, two, three⟩
  · rintro ⟨first, second, one, two, three⟩
    exact ⟨first, _, one, second, _, two, after, _, three, rfl, rfl⟩

theorem filterResult_of_not_obj {value : Json} (h : isObject value = false) :
    filterResult entries value = .ok (value, ⟨0, 0, 0⟩) := by
  cases value with
  | obj fields => exact absurd h nofun
  | _ => rfl

/-- What becomes of a result, by its form. -/
theorem filterResult_cases {result result' : Json}
    (h : filterResult entries result = .ok (result', removed)) :
    (∃ before after, result = .obj before ∧ result' = .obj after) ∨
      isObject result = false ∧ result' = result ∧ removed = ⟨0, 0, 0⟩ := by
  cases result with
  | obj before =>
    simp only [filterResult, bind_eq_ok, pure_eq_ok, Prod.mk.injEq] at h
    obtain ⟨_, -, _, -, _, -, rfl, -⟩ := h
    exact .inl ⟨before, _, rfl, rfl⟩
  | _ =>
    obtain ⟨rfl, rfl⟩ := Prod.mk.inj (Except.ok.inj h)
    exact .inr ⟨rfl, rfl, rfl⟩

theorem filterResult_kept {result result' : Json}
    (h : filterResult entries result = .ok (result', removed)) : ResultKept result result' := by
  rcases filterResult_cases h with ⟨before, after, rfl, rfl⟩ | ⟨other, rfl, -⟩
  · obtain ⟨first, second, one, two, three⟩ := filterResult_obj.mp h
    have summary := filterField_summary two
    rw [← filterField_get three (by decide) (by decide), filterField_get one (by decide) (by decide),
      ← filterField_get three (by decide) (by decide)] at summary
    refine .object ?_ ?_ ?_ summary
    · rw [filterField_keys three, filterField_keys two, filterField_keys one]
    · intro key outside ne
      simp only [findingFields, List.mem_cons, not_or] at outside
      rw [filterField_get three outside.2.2.1 (.inl ne), filterField_get two outside.2.1 (.inl ne),
        filterField_get one outside.1 (.inl ne)]
    · intro field mem
      simp only [findingFields, List.mem_cons, List.not_mem_nil, or_false] at mem
      rcases mem with rfl | rfl | rfl
      · rw [filterField_get three (by decide) (by decide),
          filterField_get two (by decide) (by decide)]
        exact (filterField_kept one (by decide)).1
      · rw [filterField_get three (by decide) (by decide),
          ← filterField_get one (by decide) (by decide)]
        exact (filterField_kept two (by decide)).1
      · rw [← filterField_get one (by decide) (by decide),
          ← filterField_get two (by decide) (by decide)]
        exact (filterField_kept three (by decide)).1
  · exact .other other

/-- The findings of a result that were removed and the kept ones are those it had. -/
theorem filterResult_count (h : filterResult entries (.obj before) = .ok (.obj after, removed)) :
    removed.vulnerabilities + lengthOf (after.get "Vulnerabilities") =
        lengthOf (before.get "Vulnerabilities") ∧
      removed.misconfigurations + lengthOf (after.get "Misconfigurations") =
        lengthOf (before.get "Misconfigurations") ∧
      removed.secrets + lengthOf (after.get "Secrets") = lengthOf (before.get "Secrets") := by
  obtain ⟨first, second, one, two, three⟩ := filterResult_obj.mp h
  refine ⟨?_, ?_, ?_⟩
  · rw [filterField_get three (by decide) (by decide), filterField_get two (by decide) (by decide)]
    exact (filterField_kept one (by decide)).2
  · rw [filterField_get three (by decide) (by decide),
      ← filterField_get one (by decide) (by decide)]
    exact (filterField_kept two (by decide)).2
  · rw [← filterField_get one (by decide) (by decide),
      ← filterField_get two (by decide) (by decide)]
    exact (filterField_kept three (by decide)).2

/-- A filtered result stays as it is. -/
theorem filterResult_again {result result' : Json}
    (h : filterResult entries result = .ok (result', removed)) :
    filterResult entries result' = .ok (result', ⟨0, 0, 0⟩) := by
  rcases filterResult_cases h with ⟨before, after, rfl, rfl⟩ | ⟨other, rfl, -⟩
  · obtain ⟨first, second, one, two, three⟩ := filterResult_obj.mp h
    have keys : after.map Prod.fst = before.map Prod.fst := by
      rw [filterField_keys three, filterField_keys two, filterField_keys one]
    have same : Mapping.get after "Target" = Mapping.get before "Target" := by
      rw [filterField_get three (by decide) (by decide),
        filterField_get two (by decide) (by decide), filterField_get one (by decide) (by decide)]
    rw [filterResult_obj, getD_congr keys same]
    refine ⟨after, after, filterField_of_settled ?_, filterField_of_settled ?_,
      filterField_of_settled (settled_of_filterField three (by decide))⟩
    · intro found at_
      rw [filterField_get three (by decide) (by decide),
        filterField_get two (by decide) (by decide)] at at_
      exact ((settled_of_filterField one (by decide) found at_).of_turn two (by decide) (by decide)
        (by decide)).of_turn three (by decide) (by decide) (by decide)
    · intro found at_
      rw [filterField_get three (by decide) (by decide)] at at_
      exact (settled_of_filterField two (by decide) found at_).of_turn three (by decide)
        (by decide) (by decide)
  · exact filterResult_of_not_obj other

/-- Without exceptions every finding stays. -/
theorem filterField_nil {target : Json} {field : String} {count : Nat}
    (h : filterField [] target field before = .ok (after, count)) (other : field ≠ "MisconfSummary") :
    after.get field = before.get field ∧ count = 0 := by
  rcases filterField_eq_ok.mp h with ⟨found, kept, at_, ok, rfl, rfl⟩ | ⟨-, rfl, rfl⟩
  · cases keptOf_nil.symm.trans ok
    exact ⟨(get_withKept_self at_ other).trans at_.symm, Nat.sub_self _⟩
  · exact ⟨rfl, rfl⟩

theorem filterResult_nil {result result' : Json}
    (h : filterResult [] result = .ok (result', removed)) :
    SameFindings result result' ∧ removed = ⟨0, 0, 0⟩ := by
  rcases filterResult_cases h with ⟨before, after, rfl, rfl⟩ | ⟨other, rfl, none⟩
  · obtain ⟨first, second, one, two, three⟩ := filterResult_obj.mp h
    obtain ⟨vulnerabilities, noneV⟩ := filterField_nil one (by decide)
    obtain ⟨misconfigurations, noneM⟩ := filterField_nil two (by decide)
    obtain ⟨secrets, noneS⟩ := filterField_nil three (by decide)
    refine ⟨.object fun field mem => ?_, ?_⟩
    · simp only [findingFields, List.mem_cons, List.not_mem_nil, or_false] at mem
      rcases mem with rfl | rfl | rfl
      · rw [filterField_get three (by decide) (by decide),
          filterField_get two (by decide) (by decide), vulnerabilities]
      · rw [filterField_get three (by decide) (by decide), misconfigurations,
          filterField_get one (by decide) (by decide)]
      · rw [secrets, filterField_get two (by decide) (by decide),
          filterField_get one (by decide) (by decide)]
    · exact Removed.ext noneV noneM noneS
  · exact ⟨.other other, none⟩

end Result

/-- The number of removed and of kept findings of each kind. -/
structure Counted (before after : List Json) (removed : Removed) : Prop where
  vulnerabilities : removed.vulnerabilities + countOf after "Vulnerabilities" =
    countOf before "Vulnerabilities"
  misconfigurations : removed.misconfigurations + countOf after "Misconfigurations" =
    countOf before "Misconfigurations"
  secrets : removed.secrets + countOf after "Secrets" = countOf before "Secrets"

section Results

variable {entries : List Mapping} {found filtered : List Json} {removed : Removed}

theorem countOf_cons (result : Json) (rest : List Json) (field : String) :
    countOf (result :: rest) field = countOf [result] field + countOf rest field := by
  simp [countOf]

theorem filterResult_counted {result result' : Json}
    (h : filterResult entries result = .ok (result', removed)) :
    Counted [result] [result'] removed := by
  rcases filterResult_cases h with ⟨before, after, rfl, rfl⟩ | ⟨-, rfl, rfl⟩
  · exact ⟨(filterResult_count h).1, (filterResult_count h).2.1, (filterResult_count h).2.2⟩
  · exact ⟨Nat.zero_add _, Nat.zero_add _, Nat.zero_add _⟩

/-- The turns of the loop over the results. -/
theorem filterResults_cons {result : Json} {rest : List Json} :
    filterResults entries (result :: rest) = .ok (filtered, removed) ↔ ∃ result' one rest' more,
      filterResult entries result = .ok (result', one) ∧
      filterResults entries rest = .ok (rest', more) ∧ filtered = result' :: rest' ∧
      removed = ⟨one.vulnerabilities + more.vulnerabilities,
        one.misconfigurations + more.misconfigurations, one.secrets + more.secrets⟩ := by
  simp only [filterResults, bind_eq_ok, pure_eq_ok, Prod.exists, Prod.mk.injEq]
  constructor
  · rintro ⟨result', one, first, rest', more, others, rfl, rfl⟩
    exact ⟨result', one, rest', more, first, others, rfl, rfl⟩
  · rintro ⟨result', one, rest', more, first, others, rfl, rfl⟩
    exact ⟨result', one, first, rest', more, others, rfl, rfl⟩

theorem filterResults_kept (h : filterResults entries found = .ok (filtered, removed)) :
    List.Forall₂ ResultKept found filtered ∧ Counted found filtered removed := by
  induction found generalizing filtered removed with
  | nil =>
    obtain ⟨rfl, rfl⟩ := Prod.mk.inj (Except.ok.inj h)
    exact ⟨.nil, ⟨rfl, rfl, rfl⟩⟩
  | cons result rest ih =>
    obtain ⟨result', one, rest', more, first, others, rfl, rfl⟩ := filterResults_cons.mp h
    obtain ⟨kept, counted⟩ := ih others
    have here := filterResult_counted first
    refine ⟨.cons (filterResult_kept first) kept, ⟨?_, ?_, ?_⟩⟩
    · rw [countOf_cons result', countOf_cons result, ← here.vulnerabilities,
        ← counted.vulnerabilities]
      exact Nat.add_add_add_comm ..
    · rw [countOf_cons result', countOf_cons result, ← here.misconfigurations,
        ← counted.misconfigurations]
      exact Nat.add_add_add_comm ..
    · rw [countOf_cons result', countOf_cons result, ← here.secrets, ← counted.secrets]
      exact Nat.add_add_add_comm ..

theorem filterResults_again (h : filterResults entries found = .ok (filtered, removed)) :
    filterResults entries filtered = .ok (filtered, ⟨0, 0, 0⟩) := by
  induction found generalizing filtered removed with
  | nil =>
    obtain ⟨rfl, rfl⟩ := Prod.mk.inj (Except.ok.inj h)
    rfl
  | cons result rest ih =>
    obtain ⟨result', one, rest', more, first, others, rfl, rfl⟩ := filterResults_cons.mp h
    exact filterResults_cons.mpr
      ⟨result', _, rest', _, filterResult_again first, ih others, rfl, rfl⟩

theorem filterResults_nil (h : filterResults [] found = .ok (filtered, removed)) :
    List.Forall₂ SameFindings found filtered ∧ removed = ⟨0, 0, 0⟩ := by
  induction found generalizing filtered removed with
  | nil =>
    obtain ⟨rfl, rfl⟩ := Prod.mk.inj (Except.ok.inj h)
    exact ⟨.nil, rfl⟩
  | cons result rest ih =>
    obtain ⟨result', one, rest', more, first, others, rfl, rfl⟩ := filterResults_cons.mp h
    obtain ⟨same, rfl⟩ := filterResult_nil first
    obtain ⟨sames, rfl⟩ := ih others
    exact ⟨.cons same sames, rfl⟩

end Results

/-- The results of a report, before and after. -/
inductive Through (R : Json → Json → Prop) : Json → Json → Prop
  | list {found filtered : List Json} (h : List.Forall₂ R found filtered) :
      Through R (.arr found) (.arr filtered)
  | absent : Through R .null .null

def resultList (report : Mapping) : List Json :=
  match report.get "Results" with
  | .arr results => results
  | _ => []

/-- The enforced report is the complete one without the removed findings. -/
structure Conserves (report filtered : Mapping) (removed : Removed) : Prop where
  keys : filtered.map Prod.fst = report.map Prod.fst
  frame : ∀ key, key ≠ "Results" → filtered.get key = report.get key
  results : Through ResultKept (report.get "Results") (filtered.get "Results")
  counted : Counted (resultList report) (resultList filtered) removed

section Report

variable {report policy filtered : Mapping} {entries : List Mapping} {removed : Removed}

/-- A report with a list of results, and one without any. -/
theorem filterPayload_eq_ok (policyOk : policyEntries policy = .ok entries) :
    filterPayload report policy = .ok (filtered, removed) ↔
      (∃ found kept, report.get "Results" = .arr found ∧
        filterResults entries found = .ok (kept, removed) ∧
        filtered = replaceField report "Results" (.arr kept)) ∨
      "Results" ∉ report.map Prod.fst ∧ filtered = report ∧ removed = ⟨0, 0, 0⟩ := by
  by_cases present : "Results" ∈ report.map Prod.fst
  · rw [filterPayload, policyOk, ok_bind, getD_of_mem present]
    split
    next found at_ =>
      simp only [bind_eq_ok, pure_eq_ok, Prod.exists, Prod.mk.injEq]
      constructor
      · rintro ⟨kept, _, ok, rfl, rfl⟩
        exact .inl ⟨found, kept, at_, ok, rfl⟩
      · rintro (⟨_, kept, at', ok, rfl⟩ | ⟨absent, -⟩)
        · cases at_.symm.trans at'
          exact ⟨kept, removed, ok, rfl, rfl⟩
        · exact absurd present absent
    next other =>
      refine ⟨fun eq => absurd eq error_ne_ok, ?_⟩
      rintro (⟨found, _, at_, -⟩ | ⟨absent, -⟩)
      · exact absurd at_ (other found)
      · exact absurd present absent
  · rw [filterPayload, policyOk, ok_bind, getD_of_not_mem present]
    constructor
    · intro h
      obtain ⟨rfl, rfl⟩ := Prod.mk.inj (Except.ok.inj h)
      exact .inr ⟨present, replaceField_of_absent present, rfl⟩
    · rintro (⟨found, _, at_, -⟩ | ⟨-, rfl, rfl⟩)
      · exact absurd (get_ne_null_mem (by rw [at_]; rintro ⟨⟩)) present
      · exact congrArg (fun report => Except.ok (report, Removed.mk 0 0 0))
          (replaceField_of_absent present)

theorem policyEntries_of_ok (h : filterPayload report policy = .ok (filtered, removed)) :
    ∃ entries, policyEntries policy = .ok entries := by
  obtain ⟨entries, ok, -⟩ := bind_eq_ok.mp h
  exact ⟨entries, ok⟩

theorem resultList_of_get {found : List Json} (h : report.get "Results" = .arr found) :
    resultList report = found := by
  rw [resultList, h]

/-- Only the lists of findings and the number of failures differ. -/
theorem conserves_of_ok (h : filterPayload report policy = .ok (filtered, removed)) :
    Conserves report filtered removed := by
  obtain ⟨entries, policyOk⟩ := policyEntries_of_ok h
  rcases (filterPayload_eq_ok policyOk).mp h with ⟨found, kept, at_, ok, rfl⟩ | ⟨absent, rfl, rfl⟩
  · have present : "Results" ∈ report.map Prod.fst := get_ne_null_mem (by rw [at_]; nofun)
    have at' : (replaceField report "Results" (.arr kept)).get "Results" = .arr kept :=
      get_replaceField_self present
    obtain ⟨each, counted⟩ := filterResults_kept ok
    refine ⟨keys_replaceField, fun key ne => get_replaceField_of_ne ne, ?_, ?_⟩
    · rw [at_, at']
      exact .list each
    · rwa [resultList_of_get at_, resultList_of_get at']
  · have null : filtered.get "Results" = .null := not_not.mp (mt get_ne_null_mem absent)
    refine ⟨rfl, fun _ _ => rfl, ?_, ⟨Nat.zero_add _, Nat.zero_add _, Nat.zero_add _⟩⟩
    rw [null]
    exact .absent

theorem filterPayload_again (h : filterPayload report policy = .ok (filtered, removed)) :
    filterPayload filtered policy = .ok (filtered, ⟨0, 0, 0⟩) := by
  obtain ⟨entries, policyOk⟩ := policyEntries_of_ok h
  rw [filterPayload_eq_ok policyOk]
  rcases (filterPayload_eq_ok policyOk).mp h with ⟨found, kept, at_, ok, rfl⟩ | ⟨absent, rfl, -⟩
  · have present : "Results" ∈ report.map Prod.fst := get_ne_null_mem (by rw [at_]; nofun)
    exact .inl ⟨kept, kept, get_replaceField_self present, filterResults_again ok,
      holds_replaceField.replaceField_eq.symm⟩
  · exact .inr ⟨absent, rfl, rfl⟩

theorem filterPayload_nil (policyOk : policyEntries policy = .ok [])
    (h : filterPayload report policy = .ok (filtered, removed)) :
    Through SameFindings (report.get "Results") (filtered.get "Results") ∧
      removed = ⟨0, 0, 0⟩ := by
  rcases (filterPayload_eq_ok policyOk).mp h with ⟨found, kept, at_, ok, rfl⟩ | ⟨absent, rfl, none⟩
  · have present : "Results" ∈ report.map Prod.fst := get_ne_null_mem (by rw [at_]; nofun)
    obtain ⟨same, none⟩ := filterResults_nil ok
    rw [at_, get_replaceField_self present]
    exact ⟨.list same, none⟩
  · have null : filtered.get "Results" = .null := not_not.mp (mt get_ne_null_mem absent)
    rw [null]
    exact ⟨.absent, none⟩

end Report

/-- A scope as the renderer writes it: absent, or a list of texts. -/
def TextScope (scope : Json) : Prop := scope = .null ∨ ∃ texts : List String, scope = .arr (texts.map .str)

/-- An exception as the renderer writes it. -/
structure RenderedEntry (exception : Mapping) : Prop where
  paths : TextScope (exception.get "paths")
  purls : TextScope (exception.get "purls")

/-- A policy file as the renderer writes it. -/
def Rendered (policy : Mapping) : Prop :=
  ∃ entries, policyEntries policy = .ok entries ∧ ∀ exception ∈ entries, RenderedEntry exception

/-- The results of the report are a list, or left out. -/
def HasResults (report : Mapping) : Prop :=
  (∃ found, report.get "Results" = .arr found) ∨ "Results" ∉ report.map Prod.fst

section Total

variable {entries : List Mapping}

theorem TextScope.items {scope : Json} (h : TextScope scope) :
    ∃ items, scopeItems scope = .ok items ∧ ∀ item ∈ items, hashable item = true := by
  rcases h with rfl | ⟨texts, rfl⟩
  · exact ⟨[], rfl, nofun⟩
  · by_cases some : (Json.arr (texts.map .str)).truthy
    · refine ⟨_, if_pos some, fun item mem => ?_⟩
      obtain ⟨text, -, rfl⟩ := List.mem_map.mp mem
      rfl
    · exact ⟨[], if_neg some, nofun⟩

theorem RenderedEntry.matches_total {exception : Mapping} (h : RenderedEntry exception)
    (finding : Mapping) (candidates : List Json) :
    ∃ matched, findingMatchesException finding exception candidates = .ok matched := by
  obtain ⟨paths, pathsOk, -⟩ := h.paths.items
  obtain ⟨purls, purlsOk, plain⟩ := h.purls.items
  have purlsTotal : ∃ matched, purlsMatch exception finding = .ok matched :=
    ⟨_, bind_eq_ok.mpr ⟨purls, purlsOk, bind_eq_ok.mpr ⟨(), require_eq_ok.mpr plain, rfl⟩⟩⟩
  have pathsTotal : ∃ matched, pathsMatch exception candidates = .ok matched :=
    ⟨_, bind_eq_ok.mpr ⟨paths, pathsOk, rfl⟩⟩
  obtain ⟨matched, ok⟩ := pathsTotal
  obtain ⟨matched', ok'⟩ := purlsTotal
  unfold findingMatchesException
  split_ifs
  · rw [ok]
    cases matched with
    | true => exact ⟨matched', ok'⟩
    | false => exact ⟨false, rfl⟩
  · exact ⟨false, rfl⟩

theorem matchesAny_total (h : ∀ exception ∈ entries, RenderedEntry exception) (finding : Mapping)
    (candidates : List Json) : ∃ matched, matchesAny finding candidates entries = .ok matched := by
  induction entries with
  | nil => exact ⟨false, rfl⟩
  | cons exception rest ih =>
    rw [List.forall_mem_cons] at h
    obtain ⟨matched, ok⟩ := h.1.matches_total finding candidates
    rw [matchesAny, ok]
    cases matched with
    | true => exact ⟨true, rfl⟩
    | false => exact ih h.2

theorem keeps_total (h : ∀ exception ∈ entries, RenderedEntry exception) (target finding : Json) :
    ∃ keep, keeps entries target finding = .ok keep := by
  cases finding with
  | obj fields =>
    obtain ⟨matched, ok⟩ := matchesAny_total h fields (pathCandidates target fields)
    rw [keeps, ok]
    exact ⟨!matched, rfl⟩
  | _ => exact ⟨true, rfl⟩

theorem filterField_total (h : ∀ exception ∈ entries, RenderedEntry exception) (target : Json)
    (field : String) (result : Mapping) :
    ∃ after removed, filterField entries target field result = .ok (after, removed) := by
  by_cases list : ∃ found, result.get field = .arr found
  · obtain ⟨found, at_⟩ := list
    exact ⟨_, _, filterField_eq_ok.mpr (.inl ⟨found, _, at_,
      keptOf_eq_ok.mpr ⟨fun finding _ => keeps_total h target finding, rfl⟩, rfl, rfl⟩)⟩
  · exact ⟨_, _, filterField_eq_ok.mpr (.inr ⟨not_exists.mp list, rfl, rfl⟩)⟩

theorem filterResult_total (h : ∀ exception ∈ entries, RenderedEntry exception) (result : Json) :
    ∃ after removed, filterResult entries result = .ok (after, removed) := by
  cases result with
  | obj before =>
    let target := Mapping.getD before "Target" (.str "")
    obtain ⟨first, vulnerabilities, one⟩ := filterField_total h target "Vulnerabilities" before
    obtain ⟨second, misconfigurations, two⟩ := filterField_total h target "Misconfigurations" first
    obtain ⟨third, secrets, three⟩ := filterField_total h target "Secrets" second
    exact ⟨.obj third, ⟨vulnerabilities, misconfigurations, secrets⟩,
      filterResult_obj.mpr ⟨first, second, one, two, three⟩⟩
  | _ => exact ⟨_, _, rfl⟩

theorem filterResults_total (h : ∀ exception ∈ entries, RenderedEntry exception)
    (found : List Json) : ∃ kept removed, filterResults entries found = .ok (kept, removed) := by
  induction found with
  | nil => exact ⟨[], _, rfl⟩
  | cons result rest ih =>
    obtain ⟨result', one, first⟩ := filterResult_total h result
    obtain ⟨rest', more, others⟩ := ih
    exact ⟨_, _, filterResults_cons.mpr ⟨result', one, rest', more, first, others, rfl, rfl⟩⟩

/-- A rendered policy filters every report that has a list of results. -/
theorem filterPayload_total {report policy : Mapping} (rendered : Rendered policy)
    (results : HasResults report) :
    ∃ filtered removed, filterPayload report policy = .ok (filtered, removed) := by
  obtain ⟨entries, policyOk, each⟩ := rendered
  rcases results with ⟨found, at_⟩ | absent
  · obtain ⟨kept, removed, ok⟩ := filterResults_total each found
    exact ⟨_, removed, (filterPayload_eq_ok policyOk).mpr (.inl ⟨found, kept, at_, ok, rfl⟩)⟩
  · exact ⟨report, _, (filterPayload_eq_ok policyOk).mpr (.inr ⟨absent, rfl, rfl⟩)⟩

end Total

/-- A rendered policy filters every report that has a list of results, and whatever is filtered
out is counted; a second pass removes nothing. -/
theorem filterPayload_conserves (report policy : Mapping) :
    (Rendered policy → HasResults report →
      ∃ filtered removed, filterPayload report policy = .ok (filtered, removed)) ∧
    ∀ filtered removed, filterPayload report policy = .ok (filtered, removed) →
      Conserves report filtered removed ∧
      filterPayload filtered policy = .ok (filtered, ⟨0, 0, 0⟩) ∧
      (policyEntries policy = .ok [] →
        Through SameFindings (report.get "Results") (filtered.get "Results") ∧
          removed = ⟨0, 0, 0⟩) :=
  ⟨filterPayload_total, fun _ _ h =>
    ⟨conserves_of_ok h, filterPayload_again h, fun empty => filterPayload_nil empty h⟩⟩

/-- One of two misconfigurations is covered, in one of its paths. -/
theorem filterPayload_conserves_sample :
    let covered : Json := .obj [("ID", .str "AVD-1")]
    let left : Json := .obj [("ID", .str "AVD-2")]
    let report : Mapping := [("Results", .arr [.null, .obj [("Target", .str "./app/Dockerfile"),
      ("MisconfSummary", .obj [("Failures", .int 3)]),
      ("Misconfigurations", .arr [covered, left, .str "note"])]])]
    let policy : Mapping := [("vulnerabilities", .arr [.obj [("id", .str "AVD-1"),
      ("paths", .arr [.str "Dockerfile"])]])]
    let filtered : Mapping := [("Results", .arr [.null, .obj [("Target", .str "./app/Dockerfile"),
      ("MisconfSummary", .obj [("Failures", .int 2)]),
      ("Misconfigurations", .arr [left, .str "note"])]])]
    Conserves report filtered ⟨0, 1, 0⟩ ∧
      filterPayload filtered policy = .ok (filtered, ⟨0, 0, 0⟩) := by
  intro covered left report policy filtered
  have h := (filterPayload_conserves report policy).2 filtered ⟨0, 1, 0⟩ rfl
  exact ⟨h.1, h.2.1⟩

end OptimizrActions.SecurityGate
