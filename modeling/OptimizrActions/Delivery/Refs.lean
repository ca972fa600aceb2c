import OptimizrActions.Delivery.Request
import OptimizrActions.Lib.Segments
import Mathlib.Data.Bool.AllAny

/-! The refs that a request can name, and those that Git takes for one branch or tag. -/

namespace OptimizrActions.Delivery

open KeyValue (splitOn)

def isControl (c : Char) : Bool := c.toNat < 0x20 || c.toNat = 0x7f

/-- What `git check-ref-format` asks of a component. -/
def IsComponent (part : List Char) : Prop :=
  part ≠ [] ∧ part.head? ≠ some '.' ∧ ¬".lock".toList <:+ part

/-- One branch or tag by the rules of `git check-ref-format`. -/
structure IsBranchOrTag (ref : String) : Prop where
  place : ∃ start ∈ ["refs/heads/", "refs/tags/"], ∃ name ≠ [], ref.toList = start.toList ++ name
  components : ∀ part ∈ splitOn '/' ref.toList, IsComponent part
  dots : Text.occursIn "..".toList ref.toList = false
  chars : ∀ c ∈ ref.toList, isControl c = false ∧ c ∉ " ~^:?*[\\".toList
  brace : Text.occursIn "@\x7b".toList ref.toList = false
  last : ref.toList.getLast? ≠ some '.'

/-- What `git fetch` takes for a refspec, a pattern or an option. -/
def ActsAsRefspec (ref : String) : Prop :=
  ':' ∈ ref.toList ∨ '*' ∈ ref.toList ∨ ∃ c ∈ "+^-".toList, ref.toList.head? = some c

/-- The rules that the check of a request leaves out. -/
structure KeepsOtherRules (ref : String) : Prop where
  last : ref.toList.getLast? ≠ some '/' ∧ ref.toList.getLast? ≠ some '.'
  components : ∀ part ∈ splitOn '/' ref.toList, part.head? ≠ some '.' ∧ ¬".lock".toList <:+ part
  chars : ∀ c ∈ ref.toList, isControl c = false ∧ c ∉ "~^:?*[".toList
  brace : Text.occursIn "@\x7b".toList ref.toList = false

theorem IsBranchOrTag.not_actsAsRefspec {ref : String} (ok : IsBranchOrTag ref) :
    ¬ActsAsRefspec ref := by
  rintro (colon | star | ⟨c, mem, head⟩)
  · exact (ok.chars _ colon).2 (by decide)
  · exact (ok.chars _ star).2 (by decide)
  · obtain ⟨start, mem', name, -, eq⟩ := ok.place
    have first : ref.toList.head? = some 'r' := by
      rw [eq]
      rcases List.mem_pair.mp mem' with rfl | rfl <;> rfl
    rw [first] at head
    cases head
    revert mem
    decide

/-- What the check of a request has seen of a ref. -/
structure IsChecked (ref : String) : Prop where
  start : ∃ start ∈ ["refs/heads/", "refs/tags/"], ∃ name, ref.toList = start.toList ++ name
  dots : Text.occursIn "..".toList ref.toList = false
  slashes : Text.occursIn "//".toList ref.toList = false
  chars : ∀ c ∈ ref.toList, c ≠ '\\' ∧ Text.isSpace c = false

theorem isChecked_of_isTrustedRef {ref : String} (h : isTrustedRef ref = true) : IsChecked ref := by
  simp only [isTrustedRef, Bool.and_eq_true, Bool.or_eq_true, Bool.not_eq_true',
    List.isPrefixOf_iff_prefix] at h
  obtain ⟨⟨⟨⟨⟨start, -⟩, dots⟩, slashes⟩, back⟩, space⟩ := h
  refine ⟨?_, dots, slashes, fun c mem => ⟨?_, ?_⟩⟩
  · rcases start with ⟨name, eq⟩ | ⟨name, eq⟩
    · exact ⟨_, List.mem_cons_self, name, eq.symm⟩
    · exact ⟨_, List.mem_cons_of_mem _ List.mem_cons_self, name, eq.symm⟩
  · rintro rfl
    rw [List.contains_iff_mem.mpr mem] at back
    cases back
  · exact Bool.eq_false_iff.mpr (List.any_eq_false.mp space c mem)

theorem IsChecked.head {ref : String} (checked : IsChecked ref) : ref.toList.head? = some 'r' := by
  obtain ⟨start, mem, name, eq⟩ := checked.start
  rw [eq]
  rcases List.mem_pair.mp mem with rfl | rfl <;> rfl

theorem IsChecked.nonempty_parts {ref : String} (checked : IsChecked ref)
    (last : ref.toList.getLast? ≠ some '/') : [] ∉ splitOn '/' ref.toList := by
  intro inside
  obtain ⟨first, rest, at_⟩ := List.exists_cons_of_ne_nil (@KeyValue.splitOn_ne_nil '/' ref.toList)
  rw [at_, List.mem_cons] at inside
  rcases inside with rfl | later
  · rcases KeyValue.head_splitOn_eq_nil.mp (at_ ▸ List.head?_cons) with empty | slash
    · cases (congrArg List.head? empty).symm.trans checked.head
    · cases slash.symm.trans checked.head
  · have tail : [] ∈ (splitOn '/' ref.toList).tail := at_.symm ▸ later
    rcases KeyValue.nil_mem_tail_splitOn.mp tail with slash | double
    · exact last slash
    · cases double.symm.trans checked.slashes

theorem IsChecked.isBranchOrTag_iff {ref : String} (checked : IsChecked ref) :
    IsBranchOrTag ref ↔ KeepsOtherRules ref := by
  obtain ⟨start, mem, name, eq⟩ := checked.start
  constructor
  · intro ok
    refine ⟨⟨?_, ok.last⟩, fun part inside => (ok.components part inside).2,
      fun c inside => ⟨(ok.chars c inside).1, ?_⟩, ok.brace⟩
    · intro slash
      have empty := List.mem_of_mem_tail (KeyValue.nil_mem_tail_splitOn.mpr (.inl slash))
      exact (ok.components [] empty).1 rfl
    · have wide : ∀ c ∈ "~^:?*[".toList, c ∈ " ~^:?*[\\".toList :=
        List.all_iff_forall_prop.mp (by decide)
      exact fun bad => (ok.chars c inside).2 (wide c bad)
  · intro rest
    refine ⟨⟨start, mem, name, ?_, eq⟩, fun part inside => ⟨?_, rest.components part inside⟩,
      checked.dots, fun c inside => ⟨(rest.chars c inside).1, ?_⟩, rest.brace, rest.last.2⟩
    · rintro rfl
      refine rest.last.1 ?_
      rw [eq]
      rcases List.mem_pair.mp mem with rfl | rfl <;> rfl
    · rintro rfl
      exact checked.nonempty_parts rest.last.1 inside
    · have narrow : ∀ c ∈ " ~^:?*[\\".toList, c ∈ "~^:?*[".toList ∨ c = ' ' ∨ c = '\\' :=
        List.all_iff_forall_prop.mp (by decide)
      intro bad
      rcases narrow c bad with other | rfl | rfl
      · exact (rest.chars c inside).2 other
      · cases (checked.chars _ inside).2
      · exact (checked.chars _ inside).1 rfl

/-- The ref of an accepted request is one branch or tag exactly when it keeps the rules that
the check leaves out, and then it is no refspec. -/
theorem parseRequest_trustedRef_iff {payload : Mapping} {request : DeployRequest}
    (parsed : parseRequest payload = .ok request) :
    (IsBranchOrTag request.trustedRef ∧ ¬ActsAsRefspec request.trustedRef) ↔
      KeepsOtherRules request.trustedRef := by
  obtain ⟨-, valid, -, -⟩ := parseRequest_eq_ok.mp parsed
  have checked := isChecked_of_isTrustedRef valid.trustedRef.2
  rw [← checked.isBranchOrTag_iff]
  exact ⟨fun h => h.1, fun h => ⟨h, h.not_actsAsRefspec⟩⟩

/-- A request for this ref. -/
def refPayload (ref : String) : Mapping :=
  [("repository", .str "acme/shop"), ("service", .str "web"),
    ("candidate_sha", .str "0123456789012345678901234567890123456789"), ("trusted_ref", .str ref),
    ("compose_file", .str "compose.yml"), ("container_name", .str "web"), ("adapter", .str "manual")]

def refRequest (ref : String) : DeployRequest :=
  ⟨"acme/shop", "web", "0123456789012345678901234567890123456789", ref, "compose.yml", "web",
    "manual", none⟩

theorem parseRequest_trustedRef_sample :
    parseRequest (refPayload "refs/heads/main") = .ok (refRequest "refs/heads/main") ∧
      IsBranchOrTag "refs/heads/main" ∧ ¬ActsAsRefspec "refs/heads/main" := by
  have parsed : parseRequest (refPayload "refs/heads/main") = .ok (refRequest "refs/heads/main") := by
    decide +kernel
  have rest : KeepsOtherRules "refs/heads/main" :=
    ⟨by decide, by decide, List.all_iff_forall_prop.mp (by decide), by decide⟩
  exact ⟨parsed, (parseRequest_trustedRef_iff parsed).mpr rest⟩

/-- A refspec is accepted. -/
theorem parseRequest_refspec :
    parseRequest (refPayload "refs/heads/*:refs/heads/*") =
        .ok (refRequest "refs/heads/*:refs/heads/*") ∧
      ¬IsBranchOrTag "refs/heads/*:refs/heads/*" ∧ ActsAsRefspec "refs/heads/*:refs/heads/*" := by
  have acts : ActsAsRefspec "refs/heads/*:refs/heads/*" := .inl (by decide)
  exact ⟨by decide +kernel, fun ok => ok.not_actsAsRefspec acts, acts⟩

end OptimizrActions.Delivery
