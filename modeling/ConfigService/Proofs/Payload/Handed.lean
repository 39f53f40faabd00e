import ConfigService.Payload.Handed
import ConfigService.Proofs.Payload.Direct
/-!
# Handed — all ways to write a value give one text

A value can be written by its own printer, handed over and written in one pass, or handed over, lowered to a value again
and printed.  Handing over loses nothing that is printed: the text of a number is read back to its digits, timestamps
become the strings they are written as, and entries whose keys come once are inserted as they stand (`lower_handed`).
-/
namespace ConfigService

open Json

namespace Json

/-- **The text of a number spells it.** -/
theorem Numeral.ofSpelling_text {n : Numeral} (hn : n.Proper) : Numeral.ofSpelling (String.ofList n.text) = .ok n := by
  have hread := readNumeral_text .spelled hn endsNumeral_nil
  obtain ⟨c, cs, hcs, hc⟩ := startsNumber_text hn
  rw [List.append_nil] at hread
  unfold Numeral.ofSpelling
  simp only [Text.ofString_ofList]
  rw [hcs, Text.ofChars_cons] at hread ⊢
  simp only [if_pos hc, hread]
  rfl

namespace Value

theorem handedItems_eq_map (sortKeys : Bool) : ∀ items : List Value,
    handedItems sortKeys items = items.map (handed sortKeys)
  | [] => rfl
  | v :: vs => by rw [handedItems, handedItems_eq_map sortKeys vs, List.map_cons]

theorem handedMembers_eq_map (sortKeys : Bool) (members : List (String × Value)) :
    handedMembers sortKeys members = mapValues (handed sortKeys) members := by
  induction members with
  | nil => rfl
  | cons m ms ih =>
    obtain ⟨k, v⟩ := m
    rw [handedMembers, ih]
    rfl

/-- An entry of a map under a string. -/
def entry (m : String × Payload) : Payload × Payload := (.string m.1, m.2)

theorem handed_array (sortKeys : Bool) (items : List Value) :
    (array items).handed sortKeys = .sequence (items.map (handed sortKeys)) := by
  rw [handed, handedItems_eq_map]

/-- An object hands its members over in the order in which they are written. -/
theorem handed_object (sortKeys : Bool) (members : List (String × Value)) :
    (object members).handed sortKeys =
      .map ((mapValues (handed sortKeys) (if sortKeys then sortByKey members else members)).map entry) := by
  rw [handed, handedMembers_eq_map]
  cases sortKeys with
  | false => rfl
  | true =>
    simp only [if_true, sortByKey_mapValues]
    rfl

end Value

end Json

namespace Payload

/-! ## The first walk -/

theorem firstFaultInItems_eq_none : ∀ {items : List Payload}, (∀ p ∈ items, p.firstFault = .none) →
    firstFaultInItems items = .none
  | [], _ => rfl
  | p :: ps, h => by
    rw [firstFaultInItems, h p List.mem_cons_self,
      firstFaultInItems_eq_none fun q hq => h q (List.mem_cons_of_mem p hq)]
    rfl

theorem firstFaultInEntries_eq_none : ∀ {ms : List (String × Payload)}, (∀ m ∈ ms, m.2.firstFault = .none) →
    firstFaultInEntries (ms.map Value.entry) = .none
  | [], _ => rfl
  | m :: ms, h => by
    rw [List.map_cons, Value.entry, firstFaultInEntries, h m List.mem_cons_self,
      firstFaultInEntries_eq_none fun n hn => h n (List.mem_cons_of_mem m hn)]
    rfl

theorem mem_arranged {sortKeys : Bool} {members : List (String × Value)} {m : String × Value}
    (h : m ∈ if sortKeys then sortByKey members else members) : m ∈ members := by
  cases sortKeys with
  | false => exact h
  | true => exact mem_sortByKey.1 h

theorem firstFault_handed (sortKeys : Bool) (v : Value) : (v.handed sortKeys).firstFault = .none := by
  induction v using Value.induct with
  | array items ih =>
    rw [Value.handed_array]
    refine firstFaultInItems_eq_none fun p hp => ?_
    obtain ⟨v, hv, rfl⟩ := List.mem_map.1 hp
    exact ih v hv
  | object members ih =>
    rw [Value.handed_object]
    refine firstFaultInEntries_eq_none fun n hn => ?_
    obtain ⟨m, hm, rfl⟩ := mem_mapValues.1 hn
    exact ih m (mem_arranged hm)
  | _ => rfl

/-! ## The second walk -/

theorem lowerItems_eq_ok {f : Value → Payload} {g : Value → Value} : ∀ {items : List Value},
    (∀ v ∈ items, (f v).lower = .ok (g v)) → lowerItems (items.map f) = .ok (items.map g)
  | [], _ => rfl
  | v :: vs, h => by
    rw [List.map_cons, lowerItems, h v List.mem_cons_self]
    simp only [lowerItems_eq_ok fun w hw => h w (List.mem_cons_of_mem v hw)]
    rfl

theorem lowerEntries_eq_ok {f : Value → Payload} {g : Value → Value} : ∀ {members : List (String × Value)},
    (∀ m ∈ members, (f m.2).lower = .ok (g m.2)) →
      lowerEntries ((mapValues f members).map Value.entry) = .ok (mapValues g members)
  | [], _ => rfl
  | m :: ms, h => by
    have ih := lowerEntries_eq_ok fun n hn => h n (List.mem_cons_of_mem m hn)
    show lowerEntries ((.string m.1, f m.2) :: (mapValues f ms).map Value.entry) = _
    rw [lowerEntries, h m List.mem_cons_self]
    simp only [keyText, ih]
    rfl

/-- **What a value hands over is lowered to the value**, its timestamps spelled. -/
theorem lower_handed {v : Value} (h : v.Lawful) : (v.handed false).lower = .ok v.spelled := by
  induction h with
  | null => rfl
  | bool b => rfl
  | string s => rfl
  | timestamp t => rfl
  | @number n proper =>
    have hmark : mark? numberKey = .some .number := rfl
    have hspelled : spelledField .number (numberKey, string (String.ofList n.text)) = .ok (.number n) := by
      show Mark.number.read _ = _
      simp only [Mark.number, Numeral.ofSpelling_text proper]
    rw [Value.handed, lower, hmark]
    exact hspelled
  | @array items _ ih =>
    rw [Value.handed_array, lower, lowerItems_eq_ok ih, Value.spelled_array]
    rfl
  | @object members nodup _ ih =>
    -- keys that come once are inserted as they stand
    have hcollapse : collapse (mapValues Value.spelled members) = mapValues Value.spelled members :=
      collapse_eq_self (by rwa [map_fst_mapValues])
    rw [Value.handed_object, lower, if_neg Bool.false_ne_true, lowerEntries_eq_ok ih, Value.spelled_object]
    exact congrArg (fun ms => Except.ok (Value.object ms)) hcollapse

theorem toValue_handed {v : Value} (h : v.Lawful) : (v.handed false).toValue = .ok v.spelled := by
  rw [toValue, firstFault_handed]
  exact lower_handed h

/-! ## One pass -/

theorem writtenItems?_handed {sortKeys : Bool} : ∀ {items : List Value},
    (∀ v ∈ items, (v.handed sortKeys).written? .standard = .some (v.print sortKeys)) →
      writtenItems? .standard (items.map (Value.handed sortKeys)) = .some (items.map (Value.print sortKeys))
  | [], _ => rfl
  | v :: vs, h => by
    rw [List.map_cons, writtenItems?, h v List.mem_cons_self,
      writtenItems?_handed fun w hw => h w (List.mem_cons_of_mem v hw)]
    rfl

theorem writtenEntries?_handed {sortKeys : Bool} : ∀ {members : List (String × Value)},
    (∀ m ∈ members, (m.2.handed sortKeys).written? .standard = .some (m.2.print sortKeys)) →
      writtenEntries? .standard ((mapValues (Value.handed sortKeys) members).map Value.entry) =
        .some (mapValues (Value.print sortKeys) members)
  | [], _ => rfl
  | m :: ms, h => by
    have ih := writtenEntries?_handed fun n hn => h n (List.mem_cons_of_mem m hn)
    show writtenEntries? .standard
      ((.string m.1, m.2.handed sortKeys) :: (mapValues (Value.handed sortKeys) ms).map Value.entry) = _
    rw [writtenEntries?, h m List.mem_cons_self, ih]
    rfl

/-- **Written in one pass, what a value hands over has the text of the value.** -/
theorem written?_handed (sortKeys : Bool) (v : Value) :
    (v.handed sortKeys).written? .standard = .some (v.print sortKeys) := by
  induction v using Value.induct with
  | null => rfl
  | bool b => cases b <;> rfl
  | string s => rfl
  | timestamp t => rw [Value.handed, written?, Value.print_timestamp]
  | number n =>
    have hmark : mark? numberKey = .some .number := rfl
    have hheld : heldStrings? .number [(numberKey, string (String.ofList n.text))] = .some [String.ofList n.text] := rfl
    rw [Value.handed, written?, hmark]
    simp only [markedText?, hheld, Option.bind_some]
    simp [Style.standard, Value.print]
  | array items ih =>
    rw [Value.handed_array, written?, writtenItems?_handed ih, print_array_eq]
    rfl
  | object members ih =>
    rw [Value.handed_object, written?, writtenEntries?_handed fun m hm => ih m (mem_arranged hm)]
    cases sortKeys with
    | false =>
      rw [Value.print_object_false]
      rfl
    | true =>
      rw [Value.print_object_true, if_pos rfl, ← sortByKey_mapValues]
      rfl

end Payload

/-! ## All ways -/

theorem fromUTF8?_toUTF8 (s : String) : String.fromUTF8? s.toUTF8 = some s := dif_pos s.isValidUTF8

namespace Json.Value

/-- **All ways to write a value give one text**: its own, that text in UTF-8, what it hands over lowered and written, as
text or in UTF-8, and what it hands over written in one pass, sorted or, if nothing is to be sorted, as it stands.  Inside
other data a value stands for what it hands over. -/
theorem encodings_agree (sortKeys : Bool) {b : Build} {v : Value} (hv : b.value = .ok v) :
    ∃ text : String,
      v.encode sortKeys = text ∧
      String.fromUTF8? (v.encodeBytes sortKeys) = some text ∧
      (∀ p ∈ [v.handed false, Payload.value v], p.encode sortKeys = .ok text ∧
        ∃ bytes, p.encodeBytes sortKeys = .ok bytes ∧ String.fromUTF8? bytes = some text) ∧
      (v.handed sortKeys).written? .standard = some text.toList ∧
      (sortKeys = false → (v.handed false).written? .standard = some text.toList) := by
  have hlawful := Build.value_lawful hv
  have hspelled : v.spelled.encode sortKeys = v.encode sortKeys := by
    rw [encode_eq, encode_eq, Payload.print_spelled]
  have hvalue : ∀ p ∈ [v.handed false, Payload.value v], p.toValue = .ok v.spelled := by
    intro p hp
    rcases List.mem_cons.1 hp with rfl | hp
    · exact Payload.toValue_handed hlawful
    · rw [List.mem_singleton.1 hp]
      rfl
  have hwritten : (v.handed sortKeys).written? .standard = some (v.encode sortKeys).toList := by
    rw [encode_eq, String.toList_ofList]
    exact Payload.written?_handed sortKeys v
  refine ⟨v.encode sortKeys, rfl, fromUTF8?_toUTF8 _, fun p hp => ⟨?_, ?_⟩, hwritten, ?_⟩
  · rw [Payload.encode, hvalue p hp]
    exact congrArg Except.ok hspelled
  · refine ⟨(v.encode sortKeys).toUTF8, ?_, fromUTF8?_toUTF8 _⟩
    rw [Payload.encodeBytes, hvalue p hp]
    exact congrArg (fun s : String => Except.ok s.toUTF8) hspelled
  · rintro rfl
    exact hwritten

/-- A number keeps its digits on every way. -/
theorem encodings_agree_minusZero :
    (Build.array [.text "-0E5"]).value = .ok (array [.number ⟨true, ['0'], [], some ⟨false, ['5']⟩⟩]) ∧
      ((array [.number ⟨true, ['0'], [], some ⟨false, ['5']⟩⟩]).handed false).encode true = .ok "[-0e+5]" := by
  have hread : Value.read (Text.ofString "-0E5") = .ok (.number ⟨true, ['0'], [], some ⟨false, ['5']⟩⟩) := by
    rw [Value.read, readQuoted_eq]
    rfl
  have hbuilt : (Build.array [.text "-0E5"]).value = .ok (array [.number ⟨true, ['0'], [], some ⟨false, ['5']⟩⟩]) := by
    simp only [Build.value, buildItems, hread]
    rfl
  have htext : (array [.number ⟨true, ['0'], [], some ⟨false, ['5']⟩⟩]).encode true = "[-0e+5]" := rfl
  obtain ⟨text, hown, -, hall, -⟩ := encodings_agree true hbuilt
  exact ⟨hbuilt, (hall _ List.mem_cons_self).1.trans (congrArg Except.ok (hown.symm.trans htext))⟩

end Json.Value

end ConfigService
