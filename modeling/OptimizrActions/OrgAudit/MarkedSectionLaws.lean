import OptimizrActions.OrgAudit.MarkedSection

/-! When the marked section behaves like a field of the issue's body. -/

namespace OptimizrActions.OrgAudit

open Marker Template

section Specification

/-- The result is the body with other sections in the place of its own, and text after it. -/
def Kept (body result : List Char) : Prop :=
  ∃ put added, (∀ inner, ∃ other, put inner = markers.wrap other) ∧
    result = join put (markers.split body) ++ added

structure Updated (body report result : List Char) : Prop where
  verbatim : reportSection report <:+: result
  kept : Kept body result
  again : updateMarkedSection result report = .ok result

/-- Behind the first start marker of the body there is an end marker. -/
def Closed (body : List Char) : Prop :=
  ∀ before rest, partition startMarker body = some (before, rest) → endMarker <:+: rest

end Specification

section Section

variable {body report result : List Char}

/-- What the section holds between its markers. -/
def inside (report : List Char) : List Char := '\n' :: (rstrip report ++ ['\n'])

theorem reportSection_eq (report : List Char) :
    reportSection report = markers.wrap (inside report) := by
  simp [reportSection, Markers.wrap, inside, markers]

theorem rstrip_isPrefix (report : List Char) : rstrip report <+: report := by
  have suffix := (List.dropWhile_suffix Text.isSpace (l := report.reverse)).reverse
  rwa [List.reverse_reverse] at suffix

theorem endMarker_not_line {before after : List Char} (h : ¬endMarker <:+: before)
    (h' : ¬endMarker <:+: after) : ¬endMarker <:+: before ++ '\n' :: after := fun there =>
  (infix_of_not_mem (by decide) there).elim h h'

theorem endMarker_not_inside (fresh : ¬endMarker <:+: report) : ¬endMarker <:+: inside report :=
  @endMarker_not_line [] _ (by decide)
    (endMarker_not_line (fun there => fresh (there.trans (rstrip_isPrefix report).isInfix)) (by decide))

theorem quiet_rstrip (h : Quiet (reportSection report)) : Quiet (rstrip report) := by
  refine List.IsChain.infix h ⟨startMarker ++ ['\n'], '\n' :: endMarker, ?_⟩
  simp [reportSection]

theorem quiet_append_line {text after : List Char} (h : Quiet text) (h' : Quiet after) :
    Quiet (text ++ '\n' :: after) := by
  refine List.isChain_append.mpr ⟨h, List.isChain_cons.mpr ⟨?_, h'⟩, ?_⟩
  · exact fun _ _ backslash => absurd backslash (by decide)
  · rintro c - d mem -
    cases Option.mem_some_iff.mp mem
    decide

theorem quiet_of_plain {text : List Char} (plain : '\\' ∉ text) : Quiet text := by
  refine List.isChain_iff_forall_rel_of_append_cons_cons.mpr ?_
  rintro c d front back rfl rfl
  exact absurd (List.mem_append_right _ List.mem_cons_self) plain

theorem quiet_reportSection (h : Quiet (rstrip report)) : Quiet (reportSection report) :=
  quiet_append_line (quiet_of_plain (by decide)) (quiet_append_line h (quiet_of_plain (by decide)))

theorem parse_reportSection (h : Quiet (rstrip report)) :
    ∃ pieces, parse (reportSection report) = .ok pieces ∧
      ∀ matched, expand pieces matched = reportSection report := by
  refine parse_of_quiet (quiet_reportSection h) ?_
  have eq : reportSection report =
      startMarker ++ '\n' :: (rstrip report ++ ['\n']) ++ endMarker := by simp [reportSection]
  have last : endMarker.getLast? = some '>' := by decide
  rw [eq, List.getLast?_append, last]
  simp

theorem substitute_of_quiet (h : Quiet (rstrip report)) (body : List Char) :
    substitute (reportSection report) body =
      .ok (join (fun _ => reportSection report) (markers.split body)) := by
  obtain ⟨pieces, parsed, same⟩ := parse_reportSection h
  rw [substitute, parsed]
  apply congrArg fun put => Except.ok (join put (markers.split body))
  funext inner
  exact same _

/-- A template that does not put itself down fails, loses text, or grows. -/
theorem substitute_of_not_quiet (loud : ¬Quiet (rstrip report)) (fresh : ¬endMarker <:+: report)
    (h : substitute (reportSection report) body = .ok result) :
    (markers.next body ≠ none → body.length < result.length) ∨
      ¬reportSection report <:+: result := by
  cases parsed : parse (reportSection report) with
  | error e => rw [substitute, parsed] at h; cases h
  | ok pieces =>
    rw [substitute, parsed] at h
    cases h
    have tokens := parsed_of_parse parsed
    obtain ⟨rest, more, mem, eq⟩ := @Parsed.append_inv _ startMarker _ tokens (by decide)
    by_cases whole : .whole ∈ pieces
    · refine .inl (Markers.length_join_lt fun inner => ?_)
      have := length_le_expand (mem.mp whole) (markers.wrap inner)
      have : 0 < startMarker.length := by decide
      rw [eq, List.length_append]
      omega
    · have shorter := (tokens.shrinks whole).resolve_right fun ⟨quiet, _⟩ => loud (quiet_rstrip quiet)
      refine .inr ?_
      rw [reportSection_eq]
      refine Markers.not_infix_join (markers.isSplit body) (endMarker_not_inside fresh) ?_
      intro part _
      have ends := @Parsed.suffix ('\n' :: rstrip report) endMarker _ more (by decide)
        (markers.wrap part.2)
      obtain ⟨front, eq'⟩ := ends
      have shape : expand pieces (markers.wrap part.2) = markers.wrap (front ++ ['\n']) := by
        rw [eq, ← eq']
        simp [Markers.wrap, markers]
      refine ⟨front ++ ['\n'], shape, ?_⟩
      have := shorter (markers.wrap part.2)
      rw [shape, reportSection_eq] at this
      simp only [Markers.wrap, List.length_append] at this ⊢
      omega

theorem update_of_next (h : markers.next body ≠ none) (report : List Char) :
    updateMarkedSection body report = substitute (reportSection report) body :=
  if_pos (Option.isSome_iff_ne_none.mpr h)

theorem update_of_none (h : markers.next body = none) (report : List Char) :
    ∃ gap, (gap = [] ∨ gap = ['\n']) ∧ updateMarkedSection body report =
      .ok (body ++ '\n' :: (gap ++ (reportSection report ++ ['\n']))) := by
  rw [updateMarkedSection, if_neg (by rw [h]; decide)]
  by_cases line : body.getLast? = some '\n' ∨ body = []
  · exact ⟨[], .inl rfl, by rw [if_pos line]; rfl⟩
  · exact ⟨['\n'], .inr rfl, by rw [if_neg line]; rfl⟩

theorem not_infix_gap {marker gap : List Char} (outside : '\n' ∉ marker) (nonempty : marker ≠ [])
    (h : gap = [] ∨ gap = ['\n']) : ¬marker <:+: gap := by
  rintro inside
  rcases h with rfl | rfl
  · exact nonempty (List.infix_nil.mp inside)
  · obtain ⟨c, mem⟩ := List.exists_mem_of_ne_nil _ nonempty
    cases List.mem_singleton.mp (inside.subset mem)
    exact outside mem

theorem next_lineFeed : markers.next ['\n'] = none := by decide

/-- Where no section was found, the one that is put behind the body is found next. -/
theorem again_of_append {gap : List Char} (quiet : Quiet (rstrip report))
    (fresh : ¬endMarker <:+: report) (before : ¬startMarker <:+: body)
    (small : gap = [] ∨ gap = ['\n']) :
    updateMarkedSection (body ++ '\n' :: (gap ++ (reportSection report ++ ['\n']))) report =
      .ok (body ++ '\n' :: (gap ++ (reportSection report ++ ['\n']))) := by
  have outside : ¬markers.start <:+: body ++ '\n' :: gap := fun there =>
    (infix_of_not_mem (by decide) there).elim before (not_infix_gap (by decide) (by decide) small)
  have found := @Markers.next_append _ _ _ _ ['\n'] _ outside (endMarker_not_inside fresh)
  rw [← reportSection_eq, List.append_assoc, List.cons_append] at found
  rw [update_of_next (by rw [found]; simp), substitute_of_quiet quiet, Markers.split_some found,
    Markers.split_none next_lineFeed]
  simp [join]

/-- The sections that were put are the sections that are found next. -/
theorem again_of_sections (quiet : Quiet (rstrip report)) (fresh : ¬endMarker <:+: report)
    (h : markers.next body ≠ none) :
    updateMarkedSection (join (fun _ => reportSection report) (markers.split body)) report =
      .ok (join (fun _ => reportSection report) (markers.split body)) := by
  have split := Markers.split_join (markers.isSplit body) (endMarker_not_inside fresh)
  rw [← reportSection_eq] at split
  have here : markers.next (join (fun _ => reportSection report) (markers.split body)) ≠ none := by
    refine @Markers.next_ne_none _ _ (inside report) _ _ ?_
    obtain ⟨⟨before, inner, after⟩, found⟩ := Option.ne_none_iff_exists'.mp h
    rw [← reportSection_eq, Markers.split_some found, join_cons]
    exact (List.prefix_append _ _).isInfix.trans (List.suffix_append _ _).isInfix
  rw [update_of_next here, substitute_of_quiet quiet, split]
  simp [join, List.flatMap_map]

/-- A start marker without its end takes the text up to the new section with it. -/
theorem length_of_open {gap before rest : List Char} (quiet : Quiet (rstrip report))
    (fresh : ¬endMarker <:+: report) (small : gap = [] ∨ gap = ['\n'])
    (start : partition startMarker body = some (before, rest)) (stop : ¬endMarker <:+: rest) :
    updateMarkedSection (body ++ '\n' :: (gap ++ (reportSection report ++ ['\n']))) report ≠
      .ok (body ++ '\n' :: (gap ++ (reportSection report ++ ['\n']))) := by
  have whole := (eq_of_partition start).1
  have swallowed : ¬markers.stop <:+: rest ++ '\n' :: (gap ++ (startMarker ++ inside report)) := by
    have gaps : ¬endMarker <:+: gap ++ startMarker := by
      rcases small with rfl | rfl <;> decide
    have eq : gap ++ (startMarker ++ inside report) =
        (gap ++ startMarker) ++ '\n' :: (rstrip report ++ ['\n']) := by simp [inside]
    rw [eq]
    refine endMarker_not_line stop (endMarker_not_line gaps ?_)
    exact fun there => endMarker_not_inside fresh (there.trans (List.suffix_cons _ _).isInfix)
  have found := @Markers.next_append _ _ _ _ ['\n'] _
    (not_infix_of_partition markers.start_tag start) swallowed
  have eq : before ++ (markers.wrap (rest ++ '\n' :: (gap ++ (startMarker ++ inside report))) ++
      ['\n']) = body ++ '\n' :: (gap ++ (reportSection report ++ ['\n'])) := by
    rw [whole, reportSection_eq]
    simp [Markers.wrap, markers]
  rw [eq] at found
  rw [update_of_next (by rw [found]; simp), substitute_of_quiet quiet, Markers.split_some found,
    Markers.split_none next_lineFeed]
  intro same
  have lengths := congrArg List.length (Except.ok.inj same)
  have : 0 < startMarker.length := by decide
  rw [whole] at lengths
  simp only [join, List.flatMap_cons, List.flatMap_nil, List.length_append, List.length_cons,
    List.length_nil] at lengths
  omega

/-- A report is kept as a field of the body exactly where it has no escape of a template and no
section of the body was left open. -/
theorem updateMarkedSection_updated_iff (fresh : ¬endMarker <:+: report) :
    (∃ result, updateMarkedSection body report = .ok result ∧ Updated body report result) ↔
      Quiet (rstrip report) ∧ Closed body := by
  constructor
  · rintro ⟨result, ok, updated⟩
    have here : markers.next result ≠ none := by
      refine @Markers.next_ne_none _ _ (inside report) _ _ ?_
      rw [← reportSection_eq]
      exact updated.verbatim
    have again := updated.again
    rw [update_of_next here] at again
    have quiet : Quiet (rstrip report) := by
      by_contra loud
      rcases substitute_of_not_quiet loud fresh again with grows | lost
      · exact lt_irrefl _ (grows here)
      · exact lost updated.verbatim
    refine ⟨quiet, fun before rest start => ?_⟩
    by_contra stop
    have none : markers.next body = none := (Markers.next_eq_none_iff start).mpr stop
    obtain ⟨gap, small, eq⟩ := update_of_none none report
    rw [eq] at ok
    cases ok
    exact length_of_open quiet fresh small start stop updated.again
  · rintro ⟨quiet, closed⟩
    cases found : markers.next body with
    | none =>
      obtain ⟨gap, small, eq⟩ := update_of_none found report
      have before : ¬startMarker <:+: body := by
        refine partition_eq_none.mp ?_
        cases start : partition startMarker body with
        | none => rfl
        | some split =>
          have open_ : ¬markers.stop <:+: split.2 := (Markers.next_eq_none_iff start).mp found
          exact absurd (closed _ _ start) open_
      refine ⟨_, eq, ?_, ?_, again_of_append quiet fresh before small⟩
      · exact ⟨body ++ '\n' :: gap, ['\n'], by simp⟩
      · refine ⟨markers.wrap, '\n' :: (gap ++ (reportSection report ++ ['\n'])),
          fun inner => ⟨inner, rfl⟩, ?_⟩
        rw [Markers.join_split]
    | some parts =>
      obtain ⟨before, inner, after⟩ := parts
      have ne : markers.next body ≠ none := by rw [found]; simp
      refine ⟨_, (update_of_next ne report).trans (substitute_of_quiet quiet body), ?_, ?_, ?_⟩
      · rw [Markers.split_some found, join_cons]
        exact (List.prefix_append _ _).isInfix.trans (List.suffix_append _ _).isInfix
      · refine ⟨fun _ => reportSection report, [], fun _ => ⟨_, reportSection_eq report⟩, ?_⟩
        rw [List.append_nil]
      · exact again_of_sections quiet fresh ne

/-- Without a backslash in the report. -/
theorem updateMarkedSection_updated_plain :
    ¬endMarker <:+: "| `a/b` | open |\n".toList ∧
      ((∃ result, updateMarkedSection "Audit".toList "| `a/b` | open |\n".toList = .ok result ∧
        Updated "Audit".toList "| `a/b` | open |\n".toList result) ↔
      Quiet (rstrip "| `a/b` | open |\n".toList) ∧ Closed "Audit".toList) :=
  have fresh : ¬endMarker <:+: "| `a/b` | open |\n".toList := by decide
  ⟨fresh, updateMarkedSection_updated_iff fresh⟩

/-- A report with `\d` in it is a bad template for a body that has a section. -/
theorem updateMarkedSection_badEscape : ¬startMarker <:+: "\\d".toList ∧
    ¬endMarker <:+: "\\d".toList ∧
    ¬∃ result, updateMarkedSection (startMarker ++ endMarker) "\\d".toList = .ok result ∧
      Updated (startMarker ++ endMarker) "\\d".toList result := by
  refine ⟨by decide, by decide, ?_⟩
  rintro ⟨result, ok, -⟩
  have fails : updateMarkedSection (startMarker ++ endMarker) "\\d".toList = .error .badEscape := by
    decide +kernel
  rw [fails] at ok
  cases ok

end Section

end OptimizrActions.OrgAudit
