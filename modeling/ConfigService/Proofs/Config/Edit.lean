import Mathlib.Data.List.Induction
import ConfigService.Config.Edit
/-!
# Edit — the last write wins, field by field

A field has the value of the last edit that carries one for it, however many edits there are and whatever else they carry
(`value_editAll`).  So two updates are one, in which the second has the last word (`apply_apply`), and all edits together
are one update at the time of the last of them (`editAll_eq_apply`).
-/
namespace ConfigService

namespace Update

theorem empty_merge (u : Update) : empty.merge u = u := by
  ext f
  simp [merge, empty]

theorem mergeAll_append_one (us : List Update) (u : Update) : mergeAll (us ++ [u]) = (mergeAll us).merge u := by
  unfold mergeAll
  rw [List.foldl_append]
  rfl

end Update

namespace Config

variable {c : Config} {e : Edit} {u : Update}

/-- **Two updates are one.** -/
theorem apply_apply (c : Config) (u v : Update) (s t : Timestamp) : (c.apply u s).apply v t = c.apply (u.merge v) t := by
  refine ext (fun f => ?_) rfl
  show (v.value f).getD ((u.value f).getD (c.value f)) = ((v.value f).or (u.value f)).getD (c.value f)
  cases v.value f <;> rfl

/-! ## One edit -/

theorem edit_of_some (h : e.update? = some u) (c : Config) : c.edit e = c.apply u e.stamp := by
  unfold Edit.update? at h
  unfold edit
  cases hread : Update.read e.text with
  | error fault =>
    rw [hread] at h
    cases h
  | ok v =>
    rw [hread] at h
    cases h
    rfl

theorem edit_of_none (h : e.update? = none) (c : Config) : c.edit e = c := by
  unfold Edit.update? at h
  unfold edit
  cases hread : Update.read e.text with
  | error fault => rfl
  | ok v =>
    rw [hread] at h
    cases h

theorem value_edit (c : Config) (e : Edit) (f : Field) : (c.edit e).value f = (e.carried? f).getD (c.value f) := by
  unfold Edit.carried?
  cases h : e.update? with
  | none =>
    rw [edit_of_none h]
    rfl
  | some u =>
    rw [edit_of_some h]
    rfl

theorem updatedAt_edit (c : Config) (e : Edit) : (c.edit e).updatedAt = e.made?.or c.updatedAt := by
  unfold Edit.made?
  cases h : e.update? with
  | none =>
    rw [edit_of_none h]
    rfl
  | some u =>
    rw [edit_of_some h]
    rfl

/-! ## Many edits

The last edit is the one that decides, so the inductions take edits off the end. -/

theorem editAll_append_one (c : Config) (edits : List Edit) (e : Edit) :
    c.editAll (edits ++ [e]) = (c.editAll edits).edit e := by
  unfold editAll
  rw [List.foldl_append]
  rfl

theorem findSome?_reverse_append_one {β : Type} (p : Edit → Option β) (edits : List Edit) (e : Edit) :
    (edits ++ [e]).reverse.findSome? p = (p e).or (edits.reverse.findSome? p) := by
  rw [List.reverse_append, List.reverse_singleton, List.singleton_append, List.findSome?_cons]
  cases p e <;> rfl

/-- **The last edit that carries a value for a field decides it.** -/
theorem value_editAll (c : Config) (edits : List Edit) (f : Field) :
    (c.editAll edits).value f = (edits.reverse.findSome? fun e => e.carried? f).getD (c.value f) := by
  induction edits using List.reverseRecOn with
  | nil => rfl
  | append_singleton edits e ih =>
    rw [editAll_append_one, value_edit, ih, findSome?_reverse_append_one]
    cases e.carried? f <;> rfl

/-- **The last edit that makes an update leaves its time.** -/
theorem updatedAt_editAll (c : Config) (edits : List Edit) :
    (c.editAll edits).updatedAt = (edits.reverse.findSome? Edit.made?).or c.updatedAt := by
  induction edits using List.reverseRecOn with
  | nil => rfl
  | append_singleton edits e ih =>
    rw [editAll_append_one, updatedAt_edit, ih, findSome?_reverse_append_one, Option.or_assoc]

/-- **Edits that make no update do not matter**, wherever they stand. -/
theorem editAll_filter (edits : List Edit) :
    ∀ c : Config, c.editAll (edits.filter fun e => e.update?.isSome) = c.editAll edits := by
  induction edits with
  | nil => exact fun c => rfl
  | cons e edits ih =>
    intro c
    have hcons : c.editAll (e :: edits) = (c.edit e).editAll edits := rfl
    cases h : e.update? with
    | none =>
      rw [List.filter_cons_of_neg (by simp [h]), ih, hcons, edit_of_none h]
    | some u =>
      rw [List.filter_cons_of_pos (by simp [h]), hcons, ← ih]
      rfl

theorem filterMap_update?_eq_nil {edits : List Edit} (h : edits.reverse.findSome? Edit.made? = none) :
    edits.filterMap Edit.update? = [] := by
  rw [List.filterMap_eq_nil_iff]
  intro e he
  have hmade := List.findSome?_eq_none_iff.1 h e (List.mem_reverse.2 he)
  exact Option.map_eq_none_iff.1 hmade

/-- **All edits together are one update**, at the time of the last of them. -/
theorem editAll_eq_apply (c : Config) (edits : List Edit) :
    c.editAll edits =
      match edits.reverse.findSome? Edit.made? with
      | none => c
      | some stamp => c.apply (.mergeAll (edits.filterMap Edit.update?)) stamp := by
  induction edits using List.reverseRecOn with
  | nil => rfl
  | append_singleton edits e ih =>
    rw [editAll_append_one, findSome?_reverse_append_one, List.filterMap_append]
    cases h : e.update? with
    | none =>
      have hmade : e.made? = none := by simp [Edit.made?, h]
      have hnone : [e].filterMap Edit.update? = [] := by simp [h]
      rw [edit_of_none h, hmade, hnone, Option.none_or, List.append_nil, ih]
    | some u =>
      have hmade : e.made? = some e.stamp := by simp [Edit.made?, h]
      have hsome : [e].filterMap Edit.update? = [u] := by simp [h]
      rw [edit_of_some h, hmade, hsome, Option.some_or, Update.mergeAll_append_one, ih]
      cases hlast : edits.reverse.findSome? Edit.made? with
      | none =>
        rw [filterMap_update?_eq_nil hlast]
        exact congrArg (c.apply · e.stamp) (Update.empty_merge u).symm
      | some stamp => exact apply_apply c _ u stamp e.stamp

/-- **The last write wins, field by field.**  After any edits, a field has the value of the last edit whose text spells an
update that carries one for it, and the time is that of the last edit whose text spells an update; without such edits they
are as they were.  Edits that spell no update change nothing.  Two updates are one in which the second has the last word,
and all edits together are one update. -/
theorem last_write_wins :
    (∀ (c : Config) (edits : List Edit),
      (∀ f, (c.editAll edits).value f = (edits.reverse.findSome? fun e => e.carried? f).getD (c.value f)) ∧
      (c.editAll edits).updatedAt = (edits.reverse.findSome? Edit.made?).or c.updatedAt ∧
      c.editAll (edits.filter fun e => e.update?.isSome) = c.editAll edits ∧
      c.editAll edits =
        match edits.reverse.findSome? Edit.made? with
        | none => c
        | some stamp => c.apply (.mergeAll (edits.filterMap Edit.update?)) stamp) ∧
    ∀ (c : Config) (u v : Update) (s t : Timestamp), (c.apply u s).apply v t = c.apply (u.merge v) t := by
  refine ⟨fun c edits => ⟨fun f => ?_, ?_, ?_, ?_⟩, apply_apply⟩
  · exact value_editAll c edits f
  · exact updatedAt_editAll c edits
  · exact editAll_filter edits c
  · exact editAll_eq_apply c edits

end Config

end ConfigService
