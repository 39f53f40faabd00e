import Mathlib.Data.List.Forall2
import ConfigService.Payload.Parts
import ConfigService.Proofs.Json.Lawful
/-!
# Lower — the second walk, one list at a time

The second walk takes the items of a sequence, the entries of a map and the fields of a record one after the other, and
stops at the first error.  These are three cases of one walk over a list.
-/
namespace ConfigService

/-! ## Walks over a list -/

theorem map_eq_error_iff {ε α β : Type} {f : α → β} {x : Except ε α} {e : ε} : x.map f = .error e ↔ x = .error e := by
  cases x <;> simp [Except.map]

section Walk

variable {ε α β : Type} {f : α → Except ε β}

/-- A walk that comes through has a result for every item. -/
theorem mapM_eq_ok_iff {as : List α} {bs : List β} :
    as.mapM f = .ok bs ↔ List.Forall₂ (fun a b => f a = .ok b) as bs := by
  induction as generalizing bs with
  | nil => cases bs <;> simp [pure, Except.pure]
  | cons a as ih =>
    rw [List.mapM_cons]
    cases bs with
    | nil => cases f a <;> cases as.mapM f <;> simp [bind, Except.bind, pure, Except.pure]
    | cons b bs =>
      rw [List.forall₂_cons, ← ih]
      cases f a <;> cases as.mapM f <;> simp [bind, Except.bind, pure, Except.pure]

theorem exists_of_mapM_eq_ok {as : List α} {bs : List β} (h : as.mapM f = .ok bs) :
    ∀ a ∈ as, ∃ b ∈ bs, f a = .ok b := by
  rw [mapM_eq_ok_iff] at h
  induction h with
  | nil => exact fun _ ha => absurd ha List.not_mem_nil
  | cons hab _ ih =>
    refine List.forall_mem_cons.2 ⟨⟨_, List.mem_cons_self, hab⟩, fun a ha => ?_⟩
    obtain ⟨b, hb, hab⟩ := ih a ha
    exact ⟨b, List.mem_cons_of_mem _ hb, hab⟩

/-- The error of a walk is the error of an item. -/
theorem exists_of_mapM_eq_error {as : List α} {e : ε} (h : as.mapM f = .error e) : ∃ a ∈ as, f a = .error e := by
  induction as with
  | nil => cases h
  | cons a as ih =>
    rw [List.mapM_cons] at h
    cases ha : f a with
    | error e' =>
      rw [ha] at h
      cases h
      exact ⟨a, List.mem_cons_self, ha⟩
    | ok b =>
      rw [ha] at h
      cases has : as.mapM f with
      | error e' =>
        rw [has] at h
        cases h
        obtain ⟨a', ha', he⟩ := ih has
        exact ⟨a', List.mem_cons_of_mem _ ha', he⟩
      | ok bs =>
        rw [has] at h
        cases h

end Walk

namespace Payload

open Json (Value)

/-! ## The three lists -/

/-- The member that an entry of a map makes. -/
def memberOfEntry (e : Payload × Payload) : Except EncodeError (String × Value) :=
  match keyText e.1 with
  | .error err => .error err
  | .ok key => e.2.lower.map (key, ·)

/-- The member that a field of a record makes. -/
def memberOfField (f : String × Payload) : Except EncodeError (String × Value) := f.2.lower.map (f.1, ·)

theorem lowerItems_eq_mapM (items : List Payload) : lowerItems items = items.mapM lower := by
  induction items with
  | nil => rfl
  | cons p ps ih =>
    rw [lowerItems, List.mapM_cons, ih]
    cases p.lower <;> rfl

theorem lowerEntries_eq_mapM (entries : List (Payload × Payload)) :
    lowerEntries entries = entries.mapM memberOfEntry := by
  induction entries with
  | nil => rfl
  | cons e es ih =>
    rw [lowerEntries, List.mapM_cons, ih, memberOfEntry]
    cases keyText e.1 with
    | error err => rfl
    | ok key => cases e.2.lower <;> rfl

theorem lowerFields_eq_mapM (fields : List (String × Payload)) : lowerFields fields = fields.mapM memberOfField := by
  induction fields with
  | nil => rfl
  | cons f fs ih =>
    rw [lowerFields, List.mapM_cons, ih, memberOfField]
    cases f.2.lower <;> rfl

theorem memberOfEntry_eq_ok_iff {e : Payload × Payload} {m : String × Value} :
    memberOfEntry e = .ok m ↔ keyText e.1 = .ok m.1 ∧ e.2.lower = .ok m.2 := by
  unfold memberOfEntry
  cases hk : keyText e.1 with
  | error err => simp
  | ok key => cases hv : e.2.lower <;> simp [Except.map, Prod.ext_iff]

theorem memberOfField_eq_ok_iff {f : String × Payload} {m : String × Value} :
    memberOfField f = .ok m ↔ f.1 = m.1 ∧ f.2.lower = .ok m.2 := by
  unfold memberOfField
  cases hv : f.2.lower <;> simp [Except.map, Prod.ext_iff]

theorem memberOfEntry_eq_error {e : Payload × Payload} {err : EncodeError} (h : memberOfEntry e = .error err) :
    keyText e.1 = .error err ∨ e.2.lower = .error err := by
  unfold memberOfEntry at h
  cases hk : keyText e.1 with
  | error err' =>
    rw [hk] at h
    exact .inl (congrArg Except.error (Except.error.inj h))
  | ok key =>
    rw [hk] at h
    exact .inr (map_eq_error_iff.1 h)

end Payload

end ConfigService
