import ConfigService.Proofs.Json.RoundTrip
/-!
# Canonical — equal values have the same sorted text, and no others do

Texts of values tell their values apart (`print_append_inj`): the first character shows the kind, a literal and a
container close themselves, and a number ends where nothing can go on with it.  This needs no reader, and so has no limit
on depth and no key that is a mark.  Written with sorted keys, two values therefore have the same text if and only if they
are the same once spelled and sorted, which is what equality means.
-/
namespace ConfigService
namespace Json

/-! ## What stands between two brackets -/

/-- The text begins, and not with the bracket that would close what it stands in. -/
def Opens (close : Char) (cs : List Char) : Prop := ∃ c rest, cs = c :: rest ∧ c ≠ close

section Between

variable {β γ : Type} {text : β → List Char} {result : β → γ} {close : Char}

/-- Where one of two texts goes on after an item with another, and the other goes on with the same, the items have the
same result. -/
def Separates (text : β → List Char) (result : β → γ) (a b : β) : Prop :=
  ∀ {cs ds : List Char}, EndsNumeral (Text.ofChars cs) → EndsNumeral (Text.ofChars ds) → text a ++ cs = text b ++ ds →
    result a = result b ∧ cs = ds

theorem endsNumeral_ofChars_flatMap (hclose : close ∈ [',', ']', '}']) (texts : List (List Char)) (cs : List Char) :
    EndsNumeral (Text.ofChars (texts.flatMap (',' :: ·) ++ close :: cs)) := by
  rw [Text.ofChars_append, Text.ofChars_cons]
  exact endsNumeral_flatMap hclose texts _

theorem flatMap_append_inj (hclose : close ∈ [']', '}']) : ∀ {as bs : List β} {cs ds : List Char},
    (∀ a ∈ as, ∀ b ∈ bs, Separates text result a b) →
      (as.map text).flatMap (',' :: ·) ++ close :: cs = (bs.map text).flatMap (',' :: ·) ++ close :: ds →
        as.map result = bs.map result ∧ cs = ds
  | [], [], _, _, _, h => ⟨rfl, List.tail_eq_of_cons_eq h⟩
  | [], b :: bs, _, _, _, h => by
    cases List.head_eq_of_cons_eq h
    exact absurd hclose (by decide)
  | a :: as, [], _, _, _, h => by
    cases List.head_eq_of_cons_eq h
    exact absurd hclose (by decide)
  | a :: as, b :: bs, cs, ds, hsep, h => by
    have hmem : close ∈ [',', ']', '}'] := List.mem_cons_of_mem _ hclose
    simp only [List.map_cons, List.flatMap_cons, List.cons_append, List.append_assoc, List.cons.injEq, true_and] at h
    obtain ⟨hab, hrest⟩ := hsep a List.mem_cons_self b List.mem_cons_self
      (endsNumeral_ofChars_flatMap hmem _ _) (endsNumeral_ofChars_flatMap hmem _ _) h
    obtain ⟨hresult, hcs⟩ := flatMap_append_inj hclose
      (fun x hx y hy => hsep x (List.mem_cons_of_mem a hx) y (List.mem_cons_of_mem b hy)) hrest
    exact ⟨by rw [List.map_cons, List.map_cons, hab, hresult], hcs⟩

/-- **What stands between two brackets shows its items and its end**, if each item does. -/
theorem commaSeparated_append_inj (hclose : close ∈ [']', '}']) : ∀ {as bs : List β} {cs ds : List Char},
    (∀ a ∈ as, Opens close (text a)) → (∀ b ∈ bs, Opens close (text b)) →
      (∀ a ∈ as, ∀ b ∈ bs, Separates text result a b) →
        commaSeparated (as.map text) ++ close :: cs = commaSeparated (bs.map text) ++ close :: ds →
          as.map result = bs.map result ∧ cs = ds
  | [], [], _, _, _, _, _, h => ⟨rfl, List.tail_eq_of_cons_eq h⟩
  | [], b :: bs, _, _, _, hopen, _, h => by
    obtain ⟨c, rest, hc, hne⟩ := hopen b List.mem_cons_self
    rw [List.map_cons, Value.commaSeparated_cons, hc] at h
    exact absurd (List.head_eq_of_cons_eq h).symm hne
  | a :: as, [], _, _, hopen, _, _, h => by
    obtain ⟨c, rest, hc, hne⟩ := hopen a List.mem_cons_self
    rw [List.map_cons, Value.commaSeparated_cons, hc] at h
    exact absurd (List.head_eq_of_cons_eq h) hne
  | a :: as, b :: bs, cs, ds, _, _, hsep, h => by
    have hmem : close ∈ [',', ']', '}'] := List.mem_cons_of_mem _ hclose
    rw [List.map_cons, List.map_cons, Value.commaSeparated_cons, Value.commaSeparated_cons, List.append_assoc,
      List.append_assoc] at h
    obtain ⟨hab, hrest⟩ := hsep a List.mem_cons_self b List.mem_cons_self
      (endsNumeral_ofChars_flatMap hmem _ _) (endsNumeral_ofChars_flatMap hmem _ _) h
    obtain ⟨hresult, hcs⟩ := flatMap_append_inj hclose
      (fun x hx y hy => hsep x (List.mem_cons_of_mem a hx) y (List.mem_cons_of_mem b hy)) hrest
    exact ⟨by rw [List.map_cons, List.map_cons, hab, hresult], hcs⟩

end Between

namespace Value

/-! ## Kinds -/

/-- The character a value's text begins with, where zero stands for all that a number can begin with. -/
def opening : Value → Char
  | null => 'n'
  | bool b => if b then 't' else 'f'
  | number _ => '0'
  | string _ => '"'
  | timestamp _ => '"'
  | array _ => '['
  | object _ => '{'

theorem exists_print_eq_cons {v : Value} (h : v.Lawful) :
    ∃ c cs, v.print false = c :: cs ∧ (if startsNumber (.char c) then '0' else c) = v.opening := by
  cases h with
  | number proper =>
    obtain ⟨c, cs, hcs, hc⟩ := startsNumber_text proper
    exact ⟨c, cs, hcs, if_pos hc⟩
  | bool b => cases b <;> exact ⟨_, _, rfl, rfl⟩
  | _ => exact ⟨_, _, rfl, rfl⟩

/-- Values whose texts begin alike are of one kind. -/
theorem opening_eq {a b : Value} (ha : a.Lawful) (hb : b.Lawful) {cs ds : List Char}
    (h : a.print false ++ cs = b.print false ++ ds) : a.opening = b.opening := by
  obtain ⟨c, as, hc, ha⟩ := exists_print_eq_cons ha
  obtain ⟨d, bs, hd, hb⟩ := exists_print_eq_cons hb
  rw [hc, hd] at h
  rw [← ha, ← hb, List.head_eq_of_cons_eq h]

theorem opens_print {v : Value} (h : v.Lawful) : Opens ']' (v.print false) := by
  obtain ⟨c, rest, hc, -, hne⟩ := startsItem_print h
  exact ⟨c, rest, hc, hne⟩

theorem opens_entryText (m : String × Value) : Opens '}' (entryText (print false) m) := ⟨'"', _, rfl, by decide⟩

/-! ## Texts tell values apart -/

theorem separates_entryText {m n : String × Value} (h : Separates (print false) spelled m.2 n.2) :
    Separates (entryText (print false)) (fun e => (e.1, e.2.spelled)) m n := by
  intro cs ds hc hd he
  simp only [entryText, memberText, List.append_assoc, List.cons_append] at he
  obtain ⟨hkey, hrest⟩ := literal_append_inj he
  obtain ⟨hvalue, hcs⟩ := h hc hd (List.tail_eq_of_cons_eq hrest)
  exact ⟨Prod.ext hkey hvalue, hcs⟩

/-- A string and a timestamp of its text are spelled alike, so both are told by their literal. -/
theorem separates_literal {s t : String} {cs ds : List Char} (h : literal s ++ cs = literal t ++ ds) :
    string s = string t ∧ cs = ds := by
  obtain ⟨hst, hcs⟩ := literal_append_inj h
  exact ⟨congrArg string hst, hcs⟩

/-- **Texts tell values apart**, up to timestamps and the strings of their texts, and show where they end. -/
theorem print_append_inj {a : Value} (ha : a.Lawful) :
    ∀ {b : Value}, b.Lawful → Separates (print false) spelled a b := by
  induction ha with
  | null =>
    intro b hb cs ds _ _ h
    have hopen := opening_eq .null hb h
    cases hb with
    | null => exact ⟨rfl, List.append_cancel_left h⟩
    | bool b => cases b <;> simp [opening] at hopen
    | _ => simp [opening] at hopen
  | bool a =>
    intro b hb cs ds _ _ h
    have hopen := opening_eq (.bool a) hb h
    cases hb with
    | bool b =>
      have hab : a = b := by
        cases a <;> cases b <;> simp [opening] at hopen ⊢
      rw [hab] at h ⊢
      exact ⟨rfl, List.append_cancel_left h⟩
    | _ => cases a <;> simp [opening] at hopen
  | number ha =>
    intro b hb cs ds hc hd h
    have hopen := opening_eq (.number ha) hb h
    cases hb with
    | number hb =>
      obtain ⟨hn, hcs⟩ := text_append_inj ha hb hc hd h
      exact ⟨congrArg (fun n => (number n).spelled) hn, hcs⟩
    | bool b => cases b <;> simp [opening] at hopen
    | _ => simp [opening] at hopen
  | string s =>
    intro b hb cs ds _ _ h
    have hopen := opening_eq (.string s) hb h
    cases hb with
    | string t => exact separates_literal h
    | timestamp t =>
      rw [print_timestamp] at h
      exact separates_literal h
    | bool b => cases b <;> simp [opening] at hopen
    | _ => simp [opening] at hopen
  | timestamp s =>
    intro b hb cs ds _ _ h
    have hopen := opening_eq (.timestamp s) hb h
    rw [print_timestamp] at h
    cases hb with
    | string t => exact separates_literal h
    | timestamp t =>
      rw [print_timestamp] at h
      exact separates_literal h
    | bool b => cases b <;> simp [opening] at hopen
    | _ => simp [opening] at hopen
  | @array as ha ih =>
    intro b hb cs ds _ _ h
    have hopen := opening_eq (.array ha) hb h
    cases hb with
    | @array bs hb =>
      rw [print_array, print_array, List.cons_append, List.cons_append, List.append_assoc, List.append_assoc] at h
      obtain ⟨hitems, hcs⟩ := commaSeparated_append_inj (by decide) (fun a h => opens_print (ha a h))
        (fun b h => opens_print (hb b h)) (fun a h b h' => ih a h (hb b h')) (List.tail_eq_of_cons_eq h)
      exact ⟨by rw [spelled_array, spelled_array, hitems], hcs⟩
    | bool b => cases b <;> simp [opening] at hopen
    | _ => simp [opening] at hopen
  | @object as nodup ha ih =>
    intro b hb cs ds _ _ h
    have hopen := opening_eq (.object nodup ha) hb h
    cases hb with
    | @object bs _ hb =>
      rw [print_object_entries, print_object_entries, List.cons_append, List.cons_append, List.append_assoc,
        List.append_assoc] at h
      obtain ⟨hmembers, hcs⟩ := commaSeparated_append_inj (by decide) (fun m _ => opens_entryText m)
        (fun m _ => opens_entryText m) (fun m h n h' => separates_entryText (ih m h (hb n h'))) (List.tail_eq_of_cons_eq h)
      exact ⟨by rw [spelled_object, spelled_object, mapValues, mapValues, hmembers], hcs⟩
    | bool b => cases b <;> simp [opening] at hopen
    | _ => simp [opening] at hopen

/-- Two lawful values are written alike if and only if they are the same once spelled. -/
theorem print_eq_print_iff {a b : Value} (ha : a.Lawful) (hb : b.Lawful) :
    a.print false = b.print false ↔ a.spelled = b.spelled := by
  constructor
  · intro h
    have hend : EndsNumeral (Text.ofChars []) := endsNumeral_nil
    have happend : a.print false ++ [] = b.print false ++ [] := by rw [h]
    exact (print_append_inj ha hb hend hend happend).1
  · intro h
    rw [← print_spelled a, h, print_spelled]

/-- **With sorted keys the text of a value is a canonical form.**  Two values that have been built have the same text if
and only if, with their timestamps as strings, they are equal. -/
theorem encode_eq_encode_iff {b c : Build} {v w : Value} (hv : b.value = .ok v) (hw : c.value = .ok w) :
    v.encode true = w.encode true ↔ v.spelled.equal w.spelled = true := by
  have lv := Build.value_lawful hv
  have lw := Build.value_lawful hw
  rw [encode_eq, encode_eq, String.ofList_inj, print_true, print_true,
    print_eq_print_iff (lawful_sorted lv) (lawful_sorted lw), spelled_sorted, spelled_sorted,
    equal_iff_sorted_eq (lawful_spelled lv) (lawful_spelled lw)]

theorem encode_eq_encode_permuted :
    (object [("b", .null), ("a", .bool true)]).encode true = (object [("a", .bool true), ("b", .null)]).encode true ↔
      (object [("b", .null), ("a", .bool true)]).spelled.equal (object [("a", .bool true), ("b", .null)]).spelled = true :=
  encode_eq_encode_iff (b := .object [("b", .null), ("a", .bool true)]) (c := .object [("a", .bool true), ("b", .null)])
    rfl rfl

end Value

end Json
end ConfigService
