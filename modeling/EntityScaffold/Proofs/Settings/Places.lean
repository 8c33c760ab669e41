import Mathlib.Data.List.Lex
import Mathlib.Data.List.Sort
import EntityScaffold.Proofs.Text.Bytes
import EntityScaffold.Proofs.Toml.Distinct
import EntityScaffold.Settings.Basic

/-!
Places in a document, the order in which they are met, and readings that stop at the first place
where something is wrong.
-/

namespace EntityScaffold.Settings
open Toml

/-- A step into a value: to what stands under a key of a table, or to an element of an array. -/
inductive Step where
  | key (name : String)
  | index (position : Nat)
  deriving DecidableEq, Repr

/-- Keys are met in the order of their bytes, elements from the first one on. -/
inductive Step.Before : Step → Step → Prop where
  | key {name other : String} (less : Text.bytes name < Text.bytes other) :
    Before (.key name) (.key other)
  | index {i j : Nat} (less : i < j) : Before (.index i) (.index j)

instance : Std.Asymm Step.Before where
  asymm a b h h' := by
    cases h with
    | key less =>
      cases h' with
      | key more => exact List.lt_asymm less more
    | index less =>
      cases h' with
      | index more => exact Nat.lt_asymm less more

theorem Step.Before.ne {step other : Step} (h : step.Before other) : step ≠ other := by
  rintro rfl
  exact Std.Asymm.asymm _ _ h h

/-- The way to a value, from the whole document down. -/
abbrev Place := List Step

namespace Place

/-- A value is met before what it holds, and with all it holds before what comes later. -/
def Before (place other : Place) : Prop := List.Lex Step.Before place other

theorem Before.asymm {place other : Place} (h : place.Before other) : ¬ other.Before place :=
  fun h' => (List.Lex.asymm Step.Before).asymm _ _ h h'

end Place

/-- A problem at a place, before which there is none. -/
structure First (offends : Place → Problem → Prop) (place : Place) (problem : Problem) : Prop where
  found : offends place problem
  least : ∀ other another, offends other another →
    (other = place ∧ another = problem) ∨ place.Before other

/-- A reading succeeds if there are no problems, and otherwise gives the first of them. -/
inductive Finds {σ : Type} (offends : Place → Problem → Prop) : Except Problem σ → Prop where
  | clean {result : σ} (none : ∀ place problem, ¬ offends place problem) :
    Finds offends (.ok result)
  | first {place : Place} {problem : Problem} (first : First offends place problem) :
    Finds offends (.error problem)

/-- The problems of several items, each behind its own step. -/
inductive Among {α : Type} (step : α → Step) (offends : α → Place → Problem → Prop)
    (items : List α) : Place → Problem → Prop where
  | intro {item : α} {place : Place} {problem : Problem} (mem : item ∈ items)
    (found : offends item place problem) : Among step offends items (step item :: place) problem

namespace Finds

variable {σ α : Type} {offends : Place → Problem → Prop} {result : Except Problem σ}

theorem congr {others : Place → Problem → Prop} (h : Finds offends result)
    (he : ∀ place problem, offends place problem ↔ others place problem) :
    Finds others result := by
  have hsame : offends = others := funext fun place => funext fun problem => propext (he _ _)
  rwa [← hsame]

theorem map {τ : Type} (f : σ → τ) (h : Finds offends result) : Finds offends (result.map f) := by
  cases h with
  | clean none => exact .clean none
  | first first => exact .first first

theorem ok_iff (h : Finds offends result) :
    (∃ value, result = .ok value) ↔ ∀ place problem, ¬ offends place problem := by
  cases h with
  | clean none => exact ⟨fun _ => none, fun _ => ⟨_, rfl⟩⟩
  | first first =>
    refine ⟨fun hok => ?_, fun none => absurd first.found (none _ _)⟩
    obtain ⟨value, hvalue⟩ := hok
    cases hvalue

/-- Items read one after the other, in the order of their steps, give the first problem of all. -/
theorem foldlM {read : σ → α → Except Problem σ} {step : α → Step}
    {own : α → Place → Problem → Prop} {items : List α}
    (hr : ∀ state, ∀ item ∈ items, Finds (own item) (read state item))
    (ho : items.Pairwise fun a b => (step a).Before (step b)) (state : σ) :
    Finds (Among step own items) (items.foldlM read state) := by
  induction items generalizing state with
  | nil =>
    apply clean
    rintro place problem ⟨hmem, -⟩
    cases hmem
  | cons item items ih =>
    obtain ⟨hitem, hrest⟩ := List.pairwise_cons.mp ho
    rw [List.foldlM_cons]
    have hown := hr state item List.mem_cons_self
    revert hown
    generalize read state item = after
    intro hown
    cases hown with
    | clean none =>
      -- an item without problems adds none to those of the rest
      refine (ih (fun state other hm => hr state other (List.mem_cons_of_mem _ hm)) hrest _).congr
        fun place problem => ⟨fun ⟨hm, ha⟩ => ⟨List.mem_cons_of_mem _ hm, ha⟩, fun ⟨hm, ha⟩ => ?_⟩
      rcases List.mem_cons.mp hm with rfl | hm
      · exact absurd ha (none _ _)
      · exact ⟨hm, ha⟩
    | first first =>
      refine .first ⟨⟨List.mem_cons_self, first.found⟩, ?_⟩
      rintro other another ⟨hm, ha⟩
      rcases List.mem_cons.mp hm with rfl | hm
      · rcases first.least _ _ ha with ⟨rfl, rfl⟩ | hb
        · exact .inl ⟨rfl, rfl⟩
        · exact .inr (List.Lex.cons hb)
      · exact .inr (List.Lex.rel (hitem _ hm))

end Finds

/-- Where the problems are the same up to what is said about their spans, so is the first one. -/
theorem First.transfer {offends others : Place → Problem → Prop} {place : Place}
    {problem : Problem} (h : First offends place problem) {σ : Type} {result : Except Problem σ}
    (hr : Finds others result)
    (ho : ∀ place problem, offends place problem →
      ∃ another, others place another ∧ another.detail? = problem.detail?)
    (hb : ∀ place problem, others place problem →
      ∃ another, offends place another ∧ another.detail? = problem.detail?) :
    ∃ another, result = .error another ∧ First others place another ∧
      another.detail? = problem.detail? := by
  obtain ⟨another, hother, hdetail⟩ := ho _ _ h.found
  cases hr with
  | clean none => exact absurd hother (none _ _)
  | @first firstPlace firstProblem first =>
    obtain ⟨back, hback, -⟩ := hb _ _ first.found
    -- neither of the two first places can come before the other
    have hplace : firstPlace = place := by
      rcases h.least _ _ hback with ⟨hsame, -⟩ | hlater
      · exact hsame
      · rcases first.least _ _ hother with ⟨hsame, -⟩ | hearlier
        · exact hsame.symm
        · exact absurd hlater hearlier.asymm
    subst hplace
    refine ⟨firstProblem, rfl, first, ?_⟩
    rcases first.least _ _ hother with ⟨-, rfl⟩ | hself
    · exact hdetail
    · exact absurd hself hself.asymm

/-! ### Entries in the order of their keys -/

theorem insertInOrder_eq (entry : Entry) (entries : List Entry) :
    insertInOrder entry entries =
      entries.orderedInsert (fun a b => a.1.name ≤ b.1.name) entry := by
  induction entries with
  | nil => rfl
  | cons other rest ih =>
    rw [insertInOrder, List.orderedInsert, ih]
    by_cases h : other.1.name < entry.1.name
    · rw [if_pos h, if_neg (not_le.mpr h)]
    · rw [if_neg h, if_pos (not_lt.mp h)]

theorem inOrder_eq (entries : List Entry) :
    inOrder entries = entries.insertionSort fun a b => a.1.name ≤ b.1.name := by
  induction entries with
  | nil => rfl
  | cons entry rest ih => rw [List.insertionSort_cons, ← ih, ← insertInOrder_eq]; rfl

theorem inOrder_perm (entries : List Entry) : (inOrder entries).Perm entries := by
  rw [inOrder_eq]
  exact List.perm_insertionSort _ _

theorem inOrder_sorted (entries : List Entry) :
    (inOrder entries).Pairwise fun a b => a.1.name ≤ b.1.name := by
  have total : Std.Total fun a b : Entry => a.1.name ≤ b.1.name := ⟨fun _ _ => le_total _ _⟩
  have trans : IsTrans Entry fun a b => a.1.name ≤ b.1.name := ⟨fun _ _ _ => le_trans⟩
  rw [inOrder_eq]
  exact List.pairwise_insertionSort _ _

theorem inOrder_apart {entries : List Entry} (h : (keyNames entries).Nodup) :
    (inOrder entries).Pairwise fun a b => a.1.name ≠ b.1.name := by
  have hnames : (keyNames (inOrder entries)).Nodup :=
    ((inOrder_perm entries).map _).nodup_iff.mpr h
  exact List.pairwise_map.mp hnames

theorem inOrder_before {entries : List Entry} (h : (keyNames entries).Nodup) :
    (inOrder entries).Pairwise fun a b => (Step.key a.1.name).Before (.key b.1.name) := by
  refine (inOrder_sorted entries).imp₂ ?_ (inOrder_apart h)
  intro a b hle hne
  exact .key (Text.bytes_lt_iff.mpr (lt_of_le_of_ne hle hne))

end EntityScaffold.Settings
