import ConfigService.Proofs.Json.Containers
import ConfigService.Proofs.Json.Spelling
/-!
# RoundTrip — a written value is read back

Each kind of value shows by its first character which it is, and its reader takes just what was written for it.  Two
things can stand in the way.  Containers may nest too deep for the reader (`Value.depth`), and an object that is written
with one of the two mark keys in front is taken for what it is not (`Value.firstKeys`).  Otherwise reading gives the value
back, with the members in the order in which they were written (`readValue_print`).
-/
namespace ConfigService
namespace Json

namespace Value

/-! ## What a reader looks at -/

mutual

/-- How deep containers nest in a value. -/
def depth : Value → Nat
  | array items => depthItems items + 1
  | object members => depthMembers members + 1
  | _ => 0

def depthItems : List Value → Nat
  | [] => 0
  | v :: vs => max v.depth (depthItems vs)

def depthMembers : List (String × Value) → Nat
  | [] => 0
  | (_, v) :: ms => max v.depth (depthMembers ms)

end

mutual

/-- The keys that stand first in an object, at any depth. -/
def firstKeys : Value → List String
  | array items => firstKeysItems items
  | object members => (members.map Prod.fst).take 1 ++ firstKeysMembers members
  | _ => []

def firstKeysItems : List Value → List String
  | [] => []
  | v :: vs => v.firstKeys ++ firstKeysItems vs

def firstKeysMembers : List (String × Value) → List String
  | [] => []
  | (_, v) :: ms => v.firstKeys ++ firstKeysMembers ms

end

/-- No object has a mark in front, at any depth. -/
def Unmarked (v : Value) : Prop := ∀ key ∈ v.firstKeys, key ≠ numberKey ∧ key ≠ quoteKey

instance (v : Value) : Decidable v.Unmarked := inferInstanceAs (Decidable (∀ key ∈ v.firstKeys, _))

/-- A value with its members in the order in which they are written. -/
def arranged (sortKeys : Bool) (v : Value) : Value := if sortKeys then v.sorted else v

theorem depthItems_le {n : Nat} : ∀ {items : List Value}, depthItems items ≤ n ↔ ∀ v ∈ items, v.depth ≤ n
  | [] => by simp [depthItems]
  | v :: vs => by rw [depthItems, Nat.max_le, depthItems_le, List.forall_mem_cons]

theorem depthMembers_le {n : Nat} {members : List (String × Value)} :
    depthMembers members ≤ n ↔ ∀ m ∈ members, m.2.depth ≤ n := by
  induction members with
  | nil => simp [depthMembers]
  | cons m ms ih =>
    obtain ⟨k, v⟩ := m
    rw [depthMembers, Nat.max_le, ih, List.forall_mem_cons]

theorem depth_array_le {items : List Value} {n : Nat} :
    (array items).depth ≤ n ↔ 0 < n ∧ ∀ v ∈ items, v.depth ≤ n - 1 := by
  rw [← depthItems_le, depth]
  omega

theorem depth_object_le {members : List (String × Value)} {n : Nat} :
    (object members).depth ≤ n ↔ 0 < n ∧ ∀ m ∈ members, m.2.depth ≤ n - 1 := by
  rw [← depthMembers_le, depth]
  omega

theorem forall_mem_firstKeysItems {P : String → Prop} : ∀ {items : List Value},
    (∀ k ∈ firstKeysItems items, P k) ↔ ∀ v ∈ items, ∀ k ∈ v.firstKeys, P k
  | [] => by simp [firstKeysItems]
  | v :: vs => by rw [firstKeysItems, List.forall_mem_append, forall_mem_firstKeysItems, List.forall_mem_cons]

theorem forall_mem_firstKeysMembers {P : String → Prop} {members : List (String × Value)} :
    (∀ k ∈ firstKeysMembers members, P k) ↔ ∀ m ∈ members, ∀ k ∈ m.2.firstKeys, P k := by
  induction members with
  | nil => simp [firstKeysMembers]
  | cons m ms ih =>
    obtain ⟨k, v⟩ := m
    rw [firstKeysMembers, List.forall_mem_append, ih, List.forall_mem_cons]

theorem unmarked_array {items : List Value} : (array items).Unmarked ↔ ∀ v ∈ items, v.Unmarked := by
  unfold Unmarked
  rw [firstKeys, forall_mem_firstKeysItems]

theorem unmarked_object {members : List (String × Value)} :
    (object members).Unmarked ↔
      (∀ key ∈ (members.map Prod.fst).take 1, key ≠ numberKey ∧ key ≠ quoteKey) ∧ ∀ m ∈ members, m.2.Unmarked := by
  unfold Unmarked
  rw [firstKeys, List.forall_mem_append, forall_mem_firstKeysMembers]

/-- Sorting leaves the containers as deep as they are. -/
theorem depth_sorted_le (v : Value) : ∀ {n : Nat}, v.sorted.depth ≤ n ↔ v.depth ≤ n := by
  induction v using induct with
  | array items ih =>
    intro n
    rw [sorted_array, depth_array_le, depth_array_le, List.forall_mem_map]
    exact and_congr_right fun _ => forall₂_congr fun v hv => ih v hv
  | object members ih =>
    intro n
    rw [sorted_object, depth_object_le, depth_object_le]
    refine and_congr_right fun _ => ?_
    simp only [mem_sortByKey, mapValues, List.forall_mem_map]
    exact forall₂_congr fun m hm => ih m hm
  | _ => exact Iff.rfl

/-- **Writing a value is plain writing of the arranged value.** -/
theorem print_eq (sortKeys : Bool) (v : Value) : v.print sortKeys = (v.arranged sortKeys).print false := by
  cases sortKeys with
  | false => rfl
  | true => exact print_true v

theorem lawful_arranged (sortKeys : Bool) {v : Value} (h : v.Lawful) : (v.arranged sortKeys).Lawful := by
  cases sortKeys with
  | false => exact h
  | true => exact lawful_sorted h

theorem depth_arranged_le (sortKeys : Bool) {v : Value} {n : Nat} (h : v.depth ≤ n) :
    (v.arranged sortKeys).depth ≤ n := by
  cases sortKeys with
  | false => exact h
  | true => exact (depth_sorted_le v).2 h

theorem sorted_arranged (sortKeys : Bool) (v : Value) : (v.arranged sortKeys).sorted = v.sorted := by
  cases sortKeys with
  | false => rfl
  | true => exact sorted_sorted v

/-- What has been arranged is equal to what it was. -/
theorem equal_arranged (sortKeys : Bool) {v : Value} (h : v.Lawful) :
    (v.arranged sortKeys).spelled.equal v.spelled = true := by
  rw [equal_iff_sorted_eq (lawful_spelled (lawful_arranged sortKeys h)) (lawful_spelled h), ← spelled_sorted,
    ← spelled_sorted, sorted_arranged]

end Value

/-! ## Room

The reader's bound on the number of items is the length of the whole text, and no text holds more items than it has
characters. -/

theorem length_le_flatMap : ∀ ts : List (List Char), ts.length ≤ (ts.flatMap (',' :: ·)).length
  | [] => Nat.le_refl 0
  | t :: ts => by
    have ih := length_le_flatMap ts
    simp only [List.flatMap_cons, List.length_append, List.length_cons]
    omega

theorem length_le_commaSeparated : ∀ ts : List (List Char), ts.length ≤ (commaSeparated ts).length + 1
  | [] => Nat.zero_le _
  | t :: ts => by
    have h := length_le_flatMap ts
    rw [Value.commaSeparated_cons, List.length_append, List.length_cons]
    omega

theorem length_le_flatMap_of_mem {t : List Char} : ∀ {ts : List (List Char)}, t ∈ ts →
    t.length ≤ (ts.flatMap (',' :: ·)).length
  | u :: us, h => by
    simp only [List.flatMap_cons, List.length_append, List.length_cons]
    rcases List.mem_cons.1 h with rfl | h
    · omega
    · have ih := length_le_flatMap_of_mem h
      omega

theorem length_le_commaSeparated_of_mem {t : List Char} : ∀ {ts : List (List Char)}, t ∈ ts →
    t.length ≤ (commaSeparated ts).length
  | u :: us, h => by
    rw [Value.commaSeparated_cons, List.length_append]
    rcases List.mem_cons.1 h with rfl | h
    · omega
    · have := length_le_flatMap_of_mem h
      omega

namespace Value

theorem room_array {items : List Value} {room : Nat} (h : ((array items).print false).length ≤ room) :
    items.length < room ∧ ∀ v ∈ items, (v.print false).length ≤ room := by
  rw [print_array, List.length_cons, List.length_append, List.length_singleton] at h
  have hlen := length_le_commaSeparated (items.map (print false))
  rw [List.length_map] at hlen
  refine ⟨by omega, fun v hv => ?_⟩
  have := length_le_commaSeparated_of_mem (List.mem_map_of_mem (f := print false) hv)
  omega

/-- The members of an object, each as it is written. -/
theorem print_object_entries (members : List (String × Value)) :
    (object members).print false = '{' :: (commaSeparated (members.map (entryText (print false))) ++ ['}']) := by
  rw [print_object_false, mapValues, List.map_map]
  rfl

theorem room_object {members : List (String × Value)} {room : Nat}
    (h : ((object members).print false).length ≤ room) :
    members.length < room ∧ ∀ m ∈ members, (m.2.print false).length ≤ room := by
  rw [print_object_entries, List.length_cons, List.length_append, List.length_singleton] at h
  have hlen := length_le_commaSeparated (members.map (entryText (print false)))
  rw [List.length_map] at hlen
  refine ⟨by omega, fun m hm => ?_⟩
  have hle := length_le_commaSeparated_of_mem (List.mem_map_of_mem (f := entryText (print false)) hm)
  simp only [entryText, memberText, List.length_append, List.length_cons] at hle
  omega

end Value

/-! ## The first character -/

theorem isGap_of_startsNumber {s : Symbol} (h : startsNumber s = true) : isGap s = false := by
  cases s with
  | stray b => rfl
  | char c =>
    cases hg : isGap (.char c) with
    | false => rfl
    | true =>
      simp only [isGap, Bool.or_eq_true, decide_eq_true_eq, Symbol.char.injEq] at hg
      rcases hg with ((rfl | rfl) | rfl) | rfl <;> exact absurd h (by decide)

theorem startsNumber_text {n : Numeral} (hn : n.Proper) : ∃ c cs, n.text = c :: cs ∧ startsNumber (.char c) = true := by
  obtain ⟨c, cs, hcs, hc⟩ := exists_text_eq_cons hn
  refine ⟨c, cs, hcs, ?_⟩
  rcases hc with rfl | hc
  · rfl
  · rw [startsNumber, isDigit, hc, Bool.or_true]

/-- The text of a lawful value begins like an item. -/
theorem Value.startsItem_print {v : Value} (h : v.Lawful) : StartsItem (v.print false) := by
  cases h with
  | null => exact ⟨'n', _, rfl, rfl, by decide⟩
  | bool b =>
    cases b with
    | false => exact ⟨'f', _, rfl, rfl, by decide⟩
    | true => exact ⟨'t', _, rfl, rfl, by decide⟩
  | number proper =>
    obtain ⟨c, cs, hcs, hc⟩ := startsNumber_text proper
    refine ⟨c, cs, hcs, isGap_of_startsNumber hc, ?_⟩
    rintro rfl
    exact absurd hc (by decide)
  | string s => exact ⟨'"', _, rfl, rfl, by decide⟩
  | timestamp t => exact ⟨'"', _, rfl, rfl, by decide⟩
  | array => exact ⟨'[', _, rfl, rfl, by decide⟩
  | object => exact ⟨'{', _, rfl, rfl, by decide⟩

section Read

variable {unquote : String → Except Fault Value} {room depth : Nat} {rest : Text}

theorem readValue_literal (s : String) :
    readValue unquote room depth (Text.ofChars (literal s) ++ rest) = .ok (.string s, rest) := by
  have h := readLiteral_literal s rest
  rw [literal, Text.ofChars_cons, List.cons_append, readValue]
  show (readLiteral _).map _ = _
  rw [h]
  rfl

theorem readValue_numeral {n : Numeral} (hn : n.Proper) (hr : EndsNumeral rest) :
    readValue unquote room depth (Text.ofChars n.text ++ rest) = .ok (.number n, rest) := by
  have h := readNumeral_text .asked hn hr
  obtain ⟨c, cs, hcs, hc⟩ := startsNumber_text hn
  have hword : c ≠ 'n' ∧ c ≠ 't' ∧ c ≠ 'f' := by
    refine ⟨?_, ?_, ?_⟩ <;>
    · rintro rfl
      exact absurd hc (by decide)
  rw [hcs, Text.ofChars_cons, List.cons_append] at h ⊢
  rw [readValue, skipGap_cons (isGap_of_startsNumber hc)]
  simp only [Symbol.char.injEq, if_neg hword.1, if_neg hword.2.1, if_neg hword.2.2, if_pos hc, h]
  rfl

theorem readValue_bracket :
    readValue unquote room (depth + 1) (.char '[' :: rest) =
      (readItems (readValue unquote room depth) room true [] rest).map fun (items, rest) => (.array items, rest) := by
  rw [readValue]
  rfl

/-- An object whose first key is no mark is read member by member. -/
theorem readValue_brace {key : String} {after : Text} (hkey : nextKey true rest = .ok (some key, after))
    (hmark : key ≠ numberKey ∧ key ≠ quoteKey) :
    readValue unquote room (depth + 1) (.char '{' :: rest) =
      (readMembers (readValue unquote room depth) room true [] rest).map fun (members, rest) =>
        (.object (collapse members), rest) := by
  rw [readValue, skipGap_cons rfl]
  simp only [if_neg hmark.1, if_neg hmark.2, hkey]
  rfl

theorem nextKey_entries (m : String × Value) (ms : List (String × Value)) (cs : List Char) (rest : Text) :
    ∃ after, nextKey true (Text.ofChars (commaSeparated ((m :: ms).map (entryText (Value.print false))) ++ cs) ++ rest) =
      .ok (some m.1, after) := by
  rw [List.map_cons, Value.commaSeparated_cons, entryText, memberText, List.append_assoc, List.append_assoc,
    Text.ofChars_append, List.append_assoc]
  exact ⟨_, nextKey_true _ _⟩

/-- **A written value is read back**, its timestamps as strings, if it is not too deep and has no mark in front of an
object. -/
theorem readValue_print {v : Value} (hv : v.Lawful) : ∀ {depth : Nat}, v.depth ≤ depth → v.Unmarked →
    (v.print false).length ≤ room → ReadsBack (readValue unquote room depth) (v.print false) v.spelled := by
  induction hv with
  | null =>
    intro depth _ _ _ rest _
    rw [readValue.eq_def]
    rfl
  | bool b =>
    intro depth _ _ _ rest _
    cases b <;>
    · rw [readValue.eq_def]
      rfl
  | number proper => exact fun _ _ _ rest hr => readValue_numeral proper hr
  | string s => exact fun _ _ _ rest _ => readValue_literal s
  | timestamp t =>
    intro depth _ _ _ rest _
    rw [Value.print_timestamp]
    exact readValue_literal _
  | @array items lawful ih =>
    intro depth hdepth hmark hroom rest _
    obtain ⟨hlen, hrooms⟩ := Value.room_array hroom
    obtain ⟨hpos, hdepths⟩ := Value.depth_array_le.1 hdepth
    obtain ⟨depth, rfl⟩ := Nat.exists_eq_succ_of_ne_zero (Nat.ne_of_gt hpos)
    have hreads : ∀ w ∈ items, StartsItem (w.print false) ∧
        ReadsBack (readValue unquote room depth) (w.print false) w.spelled := fun w hw =>
      ⟨Value.startsItem_print (lawful w hw), ih w hw (hdepths w hw) (Value.unmarked_array.1 hmark w hw) (hrooms w hw)⟩
    rw [Value.print_array, Text.ofChars_cons, List.cons_append, readValue_bracket,
      readItems_commaSeparated rest hreads hlen, Value.spelled_array]
    rfl
  | @object members nodup lawful ih =>
    intro depth hdepth hmark hroom rest _
    obtain ⟨hlen, hrooms⟩ := Value.room_object hroom
    obtain ⟨hpos, hdepths⟩ := Value.depth_object_le.1 hdepth
    obtain ⟨depth, rfl⟩ := Nat.exists_eq_succ_of_ne_zero (Nat.ne_of_gt hpos)
    obtain ⟨hfirst, hmarks⟩ := Value.unmarked_object.1 hmark
    rw [Value.print_object_entries, Text.ofChars_cons, List.cons_append, Value.spelled_object]
    cases members with
    | nil =>
      rw [readValue.eq_def]
      rfl
    | cons m ms =>
      obtain ⟨after, hkey⟩ := nextKey_entries m ms ['}'] rest
      have hreads : ∀ n ∈ m :: ms, ReadsBack (readValue unquote room depth) (n.2.print false) n.2.spelled :=
        fun n hn => ih n hn (hdepths n hn) (hmarks n hn) (hrooms n hn)
      rw [readValue_brace hkey (hfirst m.1 (by simp)), readMembers_commaSeparated rest hreads hlen]
      -- the keys of the members that were read are those that were written, so collapsing them changes nothing
      have hcollapse : collapse (mapValues Value.spelled (m :: ms)) = mapValues Value.spelled (m :: ms) :=
        collapse_eq_self (by rwa [map_fst_mapValues])
      exact congrArg (fun members => Except.ok (Value.object members, rest)) hcollapse

end Read

/-! ## The whole text -/

theorem readWholeText_eq_ok_iff {α : Type} {item : Text → Taken α} {d : Text} {a : α} :
    readWholeText item d = .ok a ↔ ∃ rest, item d = .ok (a, rest) ∧ skipGap rest = [] := by
  unfold readWholeText
  cases h : item d with
  | error f => simp
  | ok taken =>
    obtain ⟨b, rest⟩ := taken
    cases hrest : skipGap rest <;> simp [hrest]

/-- A text is read to its end if one value takes all of it. -/
theorem readWholeText_eq {α : Type} {read : Text → Taken α} {t : Text} {a : α} (h : read t = .ok (a, [])) :
    readWholeText read t = .ok a := by
  rw [readWholeText, h]
  rfl

namespace Value

theorem read_print {v : Value} (hv : v.Lawful) (hdepth : v.depth ≤ depthLimit) (hmark : v.Unmarked) :
    Value.read (Text.ofChars (v.print false)) = .ok v.spelled := by
  have hroom : (v.print false).length ≤ (Text.ofChars (v.print false)).length := Nat.le_of_eq (Text.length_ofChars _).symm
  have h (unquote : String → Except Fault Value) :
      ReadsBack (readValue unquote _ depthLimit) (v.print false) v.spelled := readValue_print hv hdepth hmark hroom
  have hread := h (unquoteWithin (Text.ofChars (v.print false)).length) [] endsNumeral_nil
  rw [List.append_nil] at hread
  rw [Value.read, readQuoted_eq]
  exact readWholeText_eq hread

/-! ## Objects of scalars -/

/-- A lawful value that is no container and no timestamp: it is spelled and sorted as it stands. -/
structure Scalar (v : Value) : Prop where
  lawful : v.Lawful
  spelled_eq : v.spelled = v
  sorted_eq : v.sorted = v
  depth_eq : v.depth = 0
  firstKeys_eq : v.firstKeys = []

/-- An object of scalars is read back from its text, up to the order of its members. -/
theorem read_encode_scalars (sortKeys : Bool) {members : List (String × Value)} (hnodup : (members.map Prod.fst).Nodup)
    (hscalar : ∀ m ∈ members, m.2.Scalar) (hmark : ∀ m ∈ members, m.1 ≠ numberKey ∧ m.1 ≠ quoteKey) :
    ∃ ms, ms.Perm members ∧ Value.read (Text.ofString ((object members).encode sortKeys)) = .ok (.object ms) := by
  have hspelled : mapValues spelled members = members := by
    rw [mapValues_congr (g := id) fun m hm => (hscalar m hm).spelled_eq]
    exact List.map_id _
  have hsorted : mapValues sorted members = members := by
    rw [mapValues_congr (g := id) fun m hm => (hscalar m hm).sorted_eq]
    exact List.map_id _
  obtain ⟨ms, hperm, harranged⟩ : ∃ ms, ms.Perm members ∧ (object members).arranged sortKeys = .object ms := by
    cases sortKeys with
    | false => exact ⟨members, List.Perm.refl _, rfl⟩
    | true => exact ⟨sortByKey members, sortByKey_perm _, by rw [arranged, if_pos rfl, sorted_object, hsorted]⟩
  have hms : ∀ m ∈ ms, m.2.Scalar := fun m hm => hscalar m (hperm.mem_iff.1 hm)
  have hlawful : (object ms).Lawful :=
    .object ((hperm.map Prod.fst).nodup_iff.2 hnodup) fun m hm => (hms m hm).lawful
  have hdepth : (object ms).depth ≤ depthLimit :=
    depth_object_le.2 ⟨by decide, fun m hm => by rw [(hms m hm).depth_eq]; exact Nat.zero_le _⟩
  have hunmarked : (object ms).Unmarked := by
    refine unmarked_object.2 ⟨fun key hkey => ?_, fun m hm key hkey => ?_⟩
    · obtain ⟨m, hm, rfl⟩ := List.mem_map.1 (List.mem_of_mem_take hkey)
      exact hmark m (hperm.mem_iff.1 hm)
    · rw [(hms m hm).firstKeys_eq] at hkey
      exact absurd hkey List.not_mem_nil
  have hread := read_print hlawful hdepth hunmarked
  rw [spelled_object, mapValues_congr (g := id) fun m hm => (hms m hm).spelled_eq] at hread
  refine ⟨ms, hperm, ?_⟩
  rw [encode_eq, Text.ofString_ofList, print_eq, harranged, hread]
  exact congrArg (fun ms => Except.ok (object ms)) (List.map_id ms)

/-! ## What has been built -/

/-- **Decoding undoes encoding.**  A value that has been built, whose containers nest no deeper than the reader goes and of
which no object is written with a mark in front, is read back from its text: the timestamps have become strings, the
members stand in the order in which they were written, and that is their own order unless they were sorted. -/
theorem read_encode (sortKeys : Bool) {b : Build} {v : Value} (hv : b.value = .ok v) (hdepth : v.depth ≤ depthLimit)
    (hmark : (v.arranged sortKeys).Unmarked) :
    ∃ w, Value.read (Text.ofString (v.encode sortKeys)) = .ok w ∧ w.equal v.spelled = true ∧
      (sortKeys = false → w = v.spelled) := by
  have hlawful := Build.value_lawful hv
  refine ⟨(v.arranged sortKeys).spelled, ?_, equal_arranged sortKeys hlawful, ?_⟩
  · rw [encode_eq, Text.ofString_ofList, print_eq]
    exact read_print (lawful_arranged sortKeys hlawful) (depth_arranged_le sortKeys hdepth) hmark
  · rintro rfl
    rfl

theorem read_encode_nested :
    ∃ w, Value.read (Text.ofString ((object [("b", .array [.bool true, .string "é"]), ("a", .null)]).encode false)) = .ok w ∧
      w.equal (object [("b", .array [.bool true, .string "é"]), ("a", .null)]).spelled = true ∧
      (false = false → w = (object [("b", .array [.bool true, .string "é"]), ("a", .null)]).spelled) :=
  read_encode false (b := .object [("b", .array [.bool true, .string "é"]), ("a", .null)]) rfl (by decide) (by decide)

/-- **An object with a mark in front is not read back**, though it has no other fault: the quoted text it seems to hold is
read in its place. -/
theorem read_encode_quoteKey :
    (Build.object [(quoteKey, .string "1")]).value = .ok (object [(quoteKey, .string "1")]) ∧
      (object [(quoteKey, .string "1")]).depth ≤ depthLimit ∧ (object [(quoteKey, .string "1")]).firstKeys = [quoteKey] ∧
      quoteKey ≠ numberKey ∧
      Value.read (Text.ofString ((object [(quoteKey, .string "1")]).encode false)) = .ok (.number (.ofInt 1)) ∧
      (number (.ofInt 1)).equal (object [(quoteKey, .string "1")]).spelled = false := by
  refine ⟨rfl, by decide, rfl, by decide, ?_, rfl⟩
  rw [encode_eq, Text.ofString_ofList, Value.read, readQuoted_eq]
  rfl

end Value

end Json
end ConfigService
