import Mathlib.Data.Fintype.Card
import Mathlib.Logic.Relation
import Mathlib.Order.WellFounded

/-! Recursive walks down a finite graph, and when they end. -/

namespace OptimizrActions.Descent

open Relation

variable {α σ β : Type}

def Child (children : α → List α) (a b : α) : Prop := b ∈ children a

/-- Every way down from the node has fewer than so many nodes. -/
def Ends (children : α → List α) : Nat → α → Prop
  | 0, _ => False
  | bound + 1, a => ∀ b ∈ children a, Ends children bound b

variable {children : α → List α} {a b : α}

theorem Ends.succ {bound : Nat} (h : Ends children bound a) : Ends children (bound + 1) a := by
  induction bound generalizing a with
  | zero => cases h
  | succ bound ih => exact fun b below => ih (h b below)

theorem Ends.mono {m n : Nat} (le : m ≤ n) (h : Ends children m a) : Ends children n a := by
  induction le with
  | refl => exact h
  | step _ ih => exact ih.succ

theorem exists_common_bound {below : List α} (each : ∀ b ∈ below, ∃ n, Ends children n b) :
    ∃ n, ∀ b ∈ below, Ends children n b := by
  induction below with
  | nil => exact ⟨0, nofun⟩
  | cons b rest ih =>
    rw [List.forall_mem_cons] at each
    obtain ⟨m, first⟩ := each.1
    obtain ⟨n, others⟩ := ih each.2
    refine ⟨max m n, List.forall_mem_cons.mpr ⟨first.mono (le_max_left m n), fun c mem => ?_⟩⟩
    exact (others c mem).mono (le_max_right m n)

theorem exists_ends_of_acc (h : Acc (fun b a => Child children a b) a) :
    ∃ n, Ends children n a := by
  induction h with
  | intro a _ ih =>
    obtain ⟨n, below⟩ := exists_common_bound ih
    exact ⟨n + 1, below⟩

/-- A walk that ends meets no node that leads back to itself. -/
theorem Ends.acyclic {bound : Nat} (h : Ends children bound a)
    (reaches : ReflTransGen (Child children) a b) : ¬TransGen (Child children) b b := by
  have down {n : Nat} {x y : α} (ends : Ends children n x) (path : TransGen (Child children) x y) :
      ∃ m < n, Ends children m y := by
    induction path with
    | single child =>
      cases n with
      | zero => cases ends
      | succ n => exact ⟨n, Nat.lt_succ_self n, ends _ child⟩
    | tail _ child ih =>
      obtain ⟨m, less, ends⟩ := ih
      cases m with
      | zero => cases ends
      | succ m => exact ⟨m, by omega, ends _ child⟩
  have loop (n : Nat) : Ends children n b → ¬TransGen (Child children) b b := by
    induction n using Nat.strong_induction_on with
    | _ n ih =>
      intro ends cycle
      obtain ⟨m, less, ends⟩ := down ends cycle
      exact ih m less ends cycle
  obtain rfl | path := reflTransGen_iff_eq_or_transGen.mp reaches
  · exact loop bound h
  · obtain ⟨m, -, ends⟩ := down h path
    exact loop m ends

theorem acc_of_acyclic [Finite α]
    (h : ∀ b, ReflTransGen (Child children) a b → ¬TransGen (Child children) b b) :
    Acc (fun b a => Child children a b) a := by
  let inside (c b : α) : Prop := ReflTransGen (Child children) a b ∧ Child children b c
  have up {b c : α} (path : TransGen inside c b) :
      ReflTransGen (Child children) a b ∧ TransGen (Child children) b c := by
    induction path with
    | single step => exact ⟨step.1, .single step.2⟩
    | tail _ step ih => exact ⟨step.1, .head step.2 ih.2⟩
  have wf : WellFounded (TransGen inside) := by
    have : Std.Irrefl (TransGen inside) := ⟨fun b cycle => h b (up cycle).1 (up cycle).2⟩
    exact Finite.wellFounded_of_trans_of_irrefl _
  have acc (b : α) : ReflTransGen (Child children) a b → Acc (fun b a => Child children a b) b := by
    induction b using wf.induction with
    | _ b ih =>
      intro reached
      exact ⟨b, fun c child => ih c (.single ⟨reached, child⟩) (reached.tail child)⟩
  exact acc a .refl

/-- The walks from a node are bounded if and only if no node below it leads back to itself. -/
theorem exists_ends_iff [Finite α] :
    (∃ n, Ends children n a) ↔
      ∀ b, ReflTransGen (Child children) a b → ¬TransGen (Child children) b b :=
  ⟨fun ⟨_, ends⟩ _ => ends.acyclic, fun h => exists_ends_of_acc (acc_of_acyclic h)⟩

/-- A loop whose steps succeed on some items, whatever came before. -/
theorem isSome_foldlM_iff {step : σ → β → Option σ} {good : β → Prop} {items : List β}
    (each : ∀ item ∈ items, ∀ s, (step s item).isSome ↔ good item) (s : σ) :
    (items.foldlM step s).isSome ↔ ∀ item ∈ items, good item := by
  induction items generalizing s with
  | nil => simp
  | cons item rest ih =>
    rw [List.forall_mem_cons] at each
    rw [List.foldlM_cons, List.forall_mem_cons, ← each.1 s]
    cases step s item with
    | none => simp
    | some next => simpa using ih each.2 next

end OptimizrActions.Descent
