import Mathlib.Data.List.Pairwise
import ConfigService.Distinct
/-!
# Distinct — what `ascending` makes of a list

All that counts of the elements is their order.  So whatever keeps the order of elements commutes with putting them in
order (`map_ascending`), and if there is a number that grows with them, they come out strictly ascending and none is lost.
-/
namespace ConfigService

variable {α β : Type} [DecidableEq α] [DecidableEq β]

theorem mem_dropRepeats {a : α} : ∀ {as : List α}, a ∈ dropRepeats as ↔ a ∈ as
  | [] => Iff.rfl
  | [_] => Iff.rfl
  | b :: c :: rest => by
    rw [dropRepeats]
    split
    · next h =>
      rw [mem_dropRepeats, h]
      simp
    · rw [List.mem_cons, mem_dropRepeats, List.mem_cons (b := b)]

theorem dropRepeats_map {f : α → β} (hf : ∀ a b, f a = f b ↔ a = b) :
    ∀ as : List α, dropRepeats (as.map f) = (dropRepeats as).map f
  | [] => rfl
  | [_] => rfl
  | a :: b :: rest => by
    have ih := dropRepeats_map hf (b :: rest)
    rw [List.map_cons] at ih
    simp only [List.map_cons, dropRepeats, hf, ih]
    split <;> simp

variable [LT α] [DecidableLT α] [LT β] [DecidableLT β]

/-- What keeps the order of elements, and tells them apart, may be done before they are put in order or after it. -/
theorem map_ascending {f : α → β} (hlt : ∀ a b, f a < f b ↔ a < b) (heq : ∀ a b, f a = f b ↔ a = b) (as : List α) :
    (ascending as).map f = ascending (as.map f) := by
  rw [ascending, ascending, ← dropRepeats_map heq, List.map_mergeSort]
  intro a _ b _
  simp only [hlt]

theorem pairwise_dropRepeats {as : List Int} (h : as.Pairwise (· ≤ ·)) : (dropRepeats as).Pairwise (· < ·) := by
  match as, h with
  | [], _ => exact .nil
  | [a], _ => exact List.pairwise_singleton _ a
  | a :: b :: rest, h =>
    obtain ⟨ha, hrest⟩ := List.pairwise_cons.1 h
    have ih := pairwise_dropRepeats hrest
    rw [dropRepeats]
    split
    · exact ih
    · next hne =>
      refine List.pairwise_cons.2 ⟨fun c hc => ?_, ih⟩
      have hab := ha b List.mem_cons_self
      have hbc : b ≤ c := by
        rcases List.mem_cons.1 (mem_dropRepeats.1 hc) with rfl | hc
        · exact Int.le_refl c
        · exact (List.pairwise_cons.1 hrest).1 c hc
      omega

/-- **Numbers come out strictly ascending.** -/
theorem pairwise_ascending_int (as : List Int) : (ascending as).Pairwise (· < ·) := by
  have htrans : ∀ a b c : Int, (!decide (b < a)) = true → (!decide (c < b)) = true → (!decide (c < a)) = true := by
    intro a b c hab hbc
    simp only [Bool.not_eq_true', decide_eq_false_iff_not] at hab hbc ⊢
    omega
  have htotal : ∀ a b : Int, (!decide (b < a) || !decide (a < b)) = true := by
    intro a b
    simp only [Bool.or_eq_true, Bool.not_eq_true', decide_eq_false_iff_not]
    omega
  refine pairwise_dropRepeats ((List.pairwise_mergeSort htrans htotal as).imp fun hab => ?_)
  simpa using hab

/-- Elements whose order is that of a number come out strictly ascending. -/
theorem pairwise_ascending {key : α → Int} (hlt : ∀ a b, key a < key b ↔ a < b) (heq : ∀ a b, key a = key b ↔ a = b)
    (as : List α) : (ascending as).Pairwise (· < ·) := by
  have hkeys := pairwise_ascending_int (as.map key)
  rw [← map_ascending hlt heq, List.pairwise_map] at hkeys
  exact hkeys.imp fun hab => (hlt _ _).1 hab

theorem mem_ascending {a : α} {as : List α} : a ∈ ascending as ↔ a ∈ as := by
  rw [ascending, mem_dropRepeats, (List.mergeSort_perm _ _).mem_iff]

end ConfigService
