import Mathlib.Data.Fintype.EquivFin
import OptimizrActions.StaticLint.Queue

/-! When the visit of a workflow ends, and so the check of all workflows. -/

namespace OptimizrActions.StaticLint

open Descent Relation

section Specification

/-- No node that the visit meets leads back to itself. -/
def Document.Acyclic (doc : Document) : Prop :=
  ∀ n, ReflTransGen (Child doc.children) doc.root n → ¬TransGen (Child doc.children) n n

/-- The file has no document that is visited, or one without a cycle. -/
def Workflow.Visitable (workflow : Workflow) : Prop :=
  ∀ doc, hasQueueKeyCandidate workflow.source = true → workflow.composed = .document doc →
    doc.Acyclic

/-- The check comes to an end, with the locations and failures of all the files. -/
def Yields (asPosix : String → String) (workflows : List Workflow) : Prop :=
  ∃ depth result, validateConcurrencyQueueContract asPosix depth workflows = some result

end Specification

section Visit

variable {relative : String} {doc : Document}

theorem isSome_visit_iff (depth : Nat) (state : Visit) (n : Fin doc.size) (path : MappingPath) :
    (visit relative doc depth state n path).isSome ↔ Ends doc.children depth n := by
  induction depth generalizing state n path with
  | zero => simp [visit, Ends]
  | succ depth ih =>
    rw [visit, Ends, Document.children]
    cases (doc.node n).content with
    | scalar tag value => simp
    | sequence items => exact isSome_foldlM_iff (fun item _ s => ih s item _) state
    | mapping entries =>
      rw [List.forall_mem_map]
      exact isSome_foldlM_iff (fun entry _ s => ih s entry.2 _) _

end Visit

section Validate

variable {asPosix : String → String}

/-- The visit of a file stays within the depth. -/
def Within (depth : Nat) (workflow : Workflow) : Prop :=
  ∀ doc, hasQueueKeyCandidate workflow.source = true → workflow.composed = .document doc →
    Ends doc.children depth doc.root

theorem isSome_validateWorkflow_iff (depth : Nat) (state : Locations × List LintFailure)
    (workflow : Workflow) :
    (validateWorkflow asPosix depth state workflow).isSome ↔ Within depth workflow := by
  unfold validateWorkflow Within
  cases hasQueueKeyCandidate workflow.source with
  | false => simp
  | true =>
    cases workflow.composed with
    | error mark => simp
    | empty => simp
    | document doc =>
      obtain ⟨allowed, failures⟩ := state
      have visited := @isSome_visit_iff workflow.relative doc depth ⟨failures, []⟩ doc.root []
      simp only [Bool.true_eq_false, if_false, Composed.document.injEq, forall_eq', forall_const,
        ← visited]
      cases visit workflow.relative doc depth ⟨failures, []⟩ doc.root [] with
      | none => simp
      | some visited =>
        simp only [Option.bind_eq_bind, Option.bind_some, Option.isSome_some, iff_true]
        split_ifs <;> rfl

theorem exists_within {workflows : List Workflow}
    (visitable : ∀ workflow ∈ workflows, workflow.Visitable) :
    ∃ depth, ∀ workflow ∈ workflows, Within depth workflow := by
  induction workflows with
  | nil => exact ⟨0, nofun⟩
  | cons workflow rest ih =>
    rw [List.forall_mem_cons] at visitable
    obtain ⟨n, others⟩ := ih visitable.2
    have first : ∃ m, Within m workflow := by
      by_cases visited : ∃ doc, hasQueueKeyCandidate workflow.source = true ∧
          workflow.composed = .document doc
      · obtain ⟨doc, candidate, composed⟩ := visited
        obtain ⟨m, ends⟩ := exists_ends_iff.mpr (visitable.1 doc candidate composed)
        refine ⟨m, fun other _ same => ?_⟩
        cases composed.symm.trans same
        exact ends
      · exact ⟨0, fun doc candidate composed => absurd ⟨doc, candidate, composed⟩ visited⟩
    obtain ⟨m, one⟩ := first
    refine ⟨max m n, List.forall_mem_cons.mpr ⟨fun doc candidate composed => ?_, ?_⟩⟩
    · exact (one doc candidate composed).mono (le_max_left m n)
    · intro other mem doc candidate composed
      exact (others other mem doc candidate composed).mono (le_max_right m n)

/-- The check of the workflows yields a result if and only if no file that is visited has a node that
leads back to itself. -/
theorem yields_iff (asPosix : String → String) (workflows : List Workflow) :
    Yields asPosix workflows ↔ ∀ workflow ∈ workflows, workflow.Visitable := by
  have bounded (depth : Nat) :
      (∃ result, validateConcurrencyQueueContract asPosix depth workflows = some result) ↔
        ∀ workflow ∈ workflows, Within depth workflow := by
    rw [← Option.isSome_iff_exists]
    exact isSome_foldlM_iff (fun workflow _ s => isSome_validateWorkflow_iff depth s workflow) _
  simp only [Yields, bounded]
  constructor
  · rintro ⟨depth, within⟩ workflow mem doc candidate composed
    exact exists_ends_iff.mp ⟨depth, within workflow mem doc candidate composed⟩
  · exact exists_within

end Validate

section Example

/-- `queue: x` and `a: &a [*a]`, where the list is its own item. -/
def selfDocument : Document where
  size := 5
  root := 0
  node
    | 0 => ⟨⟨0, 0⟩, .mapping [(1, 2), (3, 4)]⟩
    | 1 => ⟨⟨0, 0⟩, .scalar "tag:yaml.org,2002:str" "queue"⟩
    | 2 => ⟨⟨0, 7⟩, .scalar "tag:yaml.org,2002:str" "x"⟩
    | 3 => ⟨⟨1, 0⟩, .scalar "tag:yaml.org,2002:str" "a"⟩
    | 4 => ⟨⟨1, 3⟩, .sequence [4]⟩

def selfWorkflow : Workflow :=
  ⟨".github/workflows/self.yml", "queue: x\na: &a [*a]\n", .document selfDocument⟩

theorem not_yields_self : ¬Yields (fun path => path) [selfWorkflow] := by
  rintro ⟨depth, result, checked⟩
  have within : Within depth selfWorkflow :=
    (isSome_foldlM_iff (fun workflow _ s => isSome_validateWorkflow_iff depth s workflow) _).mp
      (Option.isSome_iff_exists.mpr ⟨result, checked⟩) selfWorkflow List.mem_cons_self
  have loop : Child selfDocument.children (4 : Fin 5) (4 : Fin 5) := List.mem_cons_self
  have below : Child selfDocument.children (0 : Fin 5) (4 : Fin 5) := List.mem_cons_of_mem _ List.mem_cons_self
  exact (within selfDocument (by decide) rfl).acyclic (.single below) (.single loop)

end Example

end OptimizrActions.StaticLint
