import Mathlib.Data.List.Nodup
import ConfigService.Proofs.Settings.Value
/-!
# Naming — which variables name a setting

The mark may be repeated before a name, and no setting's name begins with it; so what is left when all marks are dropped is
the name, whichever way the label is taken apart (`namedBy_service`).  The texts that a pass finds for a setting are then
those of the variables that name it, in the second pass too, which sees other labels.
-/
namespace ConfigService

open Variables

namespace Setting

variable {x : Setting} {s : Settings} {v : Variable} {vars : List Variable}

/-! ## Settings and their names -/

theorem mem_ofServer_or (x : Setting) : x ∈ ofServer ∨ x ∈ ofService := by
  cases x with
  | host => exact .inl (by decide)
  | port => exact .inl (by decide)
  | seed f => exact .inr (List.mem_append_left _ (List.mem_map_of_mem f.mem_all))
  | sortKeys => exact .inr (by decide)
  | logFormat => exact .inr (by decide)

theorem not_mem_both (hserver : x ∈ ofServer) (hservice : x ∈ ofService) : False := by
  have h : ∀ y ∈ ofServer, y ∉ ofService := by decide
  exact h x hserver hservice

theorem eq_of_get_eq {t : Settings} (h : ∀ x : Setting, x.get s = x.get t) : s = t := by
  cases s
  cases t
  rw [Settings.mk.injEq]
  exact ⟨h host, h port, funext fun f => h (seed f), h sortKeys, h logFormat⟩

theorem name_injective {y : Setting} (h : x.name = y.name) : x = y := by
  have hnodup : ((ofServer ++ ofService).map name).Nodup := by decide
  exact List.inj_on_of_nodup_map hnodup (List.mem_append.2 x.mem_ofServer_or) (List.mem_append.2 y.mem_ofServer_or) h

/-- The settings with given values. -/
def collect (value : (x : Setting) → x.Value) : Settings :=
  ⟨value host, value port, fun f => value (seed f), value sortKeys, value logFormat⟩

theorem get_collect (value : (x : Setting) → x.Value) (x : Setting) : x.get (collect value) = value x := by
  cases x <;> rfl

/-! ## What variables say of a setting -/

/-- What is left behind marks that are dropped. -/
theorem dropMarks_replicate {rest : List Char} (hrest : ¬mark <+: rest) : ∀ {marks room : Nat}, marks ≤ room →
    dropMarks room ((List.replicate marks mark).flatten ++ rest) = rest
  | 0, 0, _ => rfl
  | 0, room + 1, _ => by
    have hnot : ¬mark.isPrefixOf rest = true := by rwa [List.isPrefixOf_iff_prefix]
    rw [List.replicate_zero, List.flatten_nil, List.nil_append, dropMarks, if_neg hnot]
  | marks + 1, room + 1, h => by
    have hsplit : (List.replicate (marks + 1) mark).flatten ++ rest =
        mark ++ ((List.replicate marks mark).flatten ++ rest) := by
      rw [List.replicate_succ, List.flatten_cons, List.append_assoc]
    have hmark : mark.isPrefixOf (mark ++ ((List.replicate marks mark).flatten ++ rest)) = true := by
      rw [List.isPrefixOf_iff_prefix]
      exact List.prefix_append _ _
    rw [hsplit, dropMarks, if_pos hmark, List.drop_left]
    exact dropMarks_replicate hrest (Nat.le_of_succ_le_succ h)

theorem exists_marks : ∀ {room : Nat} {label : List Char}, label.length ≤ room →
    ∃ marks, label = (List.replicate marks mark).flatten ++ dropMarks room label
  | 0, label, _ => ⟨0, rfl⟩
  | room + 1, label, h => by
    rw [dropMarks]
    by_cases hmark : mark.isPrefixOf label = true
    · obtain ⟨rest, rfl⟩ := List.isPrefixOf_iff_prefix.1 hmark
      rw [if_pos hmark, List.drop_left]
      have hlength : rest.length ≤ room := by
        have hlong : 0 < mark.length := by decide
        rw [List.length_append] at h
        omega
      obtain ⟨marks, hrest⟩ := exists_marks hlength
      refine ⟨marks + 1, ?_⟩
      rw [List.replicate_succ, List.flatten_cons, List.append_assoc, ← hrest]
    · rw [if_neg hmark]
      exact ⟨0, rfl⟩

/-- No setting's name begins as the mark does. -/
theorem not_startsWith_mark {rest : List Char} (h : settingName (String.ofList rest) = x.name) : ¬mark <+: rest := by
  intro hmark
  have hname : mark.map lower <+: x.name.toList := by
    rw [← h, settingName, String.toList_ofList, String.toList_ofList]
    exact hmark.map lower
  rw [← List.isPrefixOf_iff_prefix] at hname
  have hno : (mark.map lower).isPrefixOf x.name.toList = false := by
    cases x with
    | seed f => cases f <;> decide
    | _ => decide
  exact Bool.false_ne_true (hno.symm.trans hname)

theorem namedBy_server (hx : x ∈ ofServer) (label : String) : x.NamedBy label ↔ settingName label = x.name := by
  constructor
  · rintro (⟨-, h⟩ | ⟨hservice, -⟩)
    · exact h
    · exact (not_mem_both hx hservice).elim
  · intro h
    exact .inl ⟨hx, h⟩

theorem namedBy_service (hx : x ∈ ofService) (label : String) : x.NamedBy label ↔
    mark.isPrefixOf label.toList = true ∧
      settingName (String.ofList (dropMarks label.toList.length label.toList)) = x.name := by
  constructor
  · rintro (⟨hserver, -⟩ | ⟨-, marks, rest, hlabel, hname⟩)
    · exact (not_mem_both hserver hx).elim
    · have hroom : marks + 1 ≤ label.toList.length := by
        rw [hlabel]
        simp [mark]
        omega
      rw [hlabel] at hroom ⊢
      rw [dropMarks_replicate (not_startsWith_mark hname) hroom]
      refine ⟨?_, hname⟩
      rw [List.isPrefixOf_iff_prefix, List.replicate_succ, List.flatten_cons, List.append_assoc]
      exact List.prefix_append _ _
  · rintro ⟨hmark, hname⟩
    obtain ⟨marks, hlabel⟩ := exists_marks (Nat.le_refl label.toList.length)
    cases marks with
    | zero =>
      -- then nothing was dropped, and a mark is still there
      rw [List.replicate_zero, List.flatten_nil, List.nil_append] at hlabel
      rw [← hlabel] at hname
      exact absurd (List.isPrefixOf_iff_prefix.1 hmark) (not_startsWith_mark hname)
    | succ marks => exact .inr ⟨hx, marks, _, hlabel, hname⟩

instance (x : Setting) (label : String) : Decidable (x.NamedBy label) :=
  if hx : x ∈ ofServer then decidable_of_iff _ (namedBy_server hx label).symm
  else decidable_of_iff _ (namedBy_service (x.mem_ofServer_or.resolve_left hx) label).symm

/-- The texts of the variables that name a setting. -/
def texts (x : Setting) (vars : List Variable) : List String := (vars.filter fun v => x.NamedBy v.1).map Prod.snd

theorem mem_texts_iff {t : String} : t ∈ x.texts vars ↔ ∃ v ∈ vars, x.NamedBy v.1 ∧ v.2 = t := by
  simp only [texts, List.mem_map, List.mem_filter, decide_eq_true_eq, and_assoc]

theorem length_le_one_iff {α : Type} (l : List α) : l.length ≤ 1 ↔ l.Pairwise fun _ _ => False := by
  rcases l with _ | ⟨a, _ | ⟨b, l⟩⟩
  · simp
  · simp
  · constructor
    · intro hlength
      simp at hlength
    · intro hpairwise
      exact (List.rel_of_pairwise_cons hpairwise List.mem_cons_self).elim

theorem length_texts_le_one_iff :
    (x.texts vars).length ≤ 1 ↔ vars.Pairwise fun v w => ¬(x.NamedBy v.1 ∧ x.NamedBy w.1) := by
  rw [texts, List.length_map, length_le_one_iff, List.pairwise_filter]
  simp only [decide_eq_true_eq, not_and, imp_false]

/-- The texts that a pass finds for a setting. -/
def found (x : Setting) (vars : List Variable) : List String :=
  (vars.filter fun v => settingName v.1 = x.name).map Prod.snd

theorem found_cons_of_eq (h : settingName v.1 = x.name) : x.found (v :: vars) = v.2 :: x.found vars := by
  rw [found, List.filter_cons, if_pos (by simpa using h)]
  rfl

theorem found_cons_of_ne (h : settingName v.1 ≠ x.name) : x.found (v :: vars) = x.found vars := by
  rw [found, List.filter_cons, if_neg (by simpa using h)]
  rfl

theorem found_server (hx : x ∈ ofServer) (vars : List Variable) : x.found vars = x.texts vars := by
  simp only [found, texts, namedBy_server hx]

theorem found_marked (hx : x ∈ ofService) (vars : List Variable) : x.found (marked vars) = x.texts vars := by
  induction vars with
  | nil => rfl
  | cons v vars ih =>
    by_cases hmark : mark.isPrefixOf v.1.toList = true
    · have hcons : marked (v :: vars) =
          (String.ofList (dropMarks v.1.toList.length v.1.toList), v.2) :: marked vars := by
        simp only [marked, List.filterMap_cons, if_pos hmark]
      have hnamed := namedBy_service hx v.1
      simp only [hmark, true_and] at hnamed
      rw [hcons]
      simp only [found, texts, List.filter_cons, decide_eq_true_eq] at ih ⊢
      by_cases hname : x.NamedBy v.1
      · rw [if_pos (hnamed.1 hname), if_pos hname, List.map_cons, List.map_cons, ih]
      · rw [if_neg (mt hnamed.2 hname), if_neg hname, ih]
    · have hcons : marked (v :: vars) = marked vars := by
        simp only [marked, List.filterMap_cons, if_neg hmark]
      have hname : ¬x.NamedBy v.1 := fun h => hmark ((namedBy_service hx v.1).1 h).1
      rw [hcons, ih]
      simp only [texts, List.filter_cons, decide_eq_true_eq, if_neg hname]

end Setting

end ConfigService
