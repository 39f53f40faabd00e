import ConfigService.Proofs.Json.Record
import ConfigService.Proofs.Json.Table
/-!
# Entries — a record is read entry by entry

The members of an object do to the table what `Table.take` says, and so do the items of a list, each under the name of the
field in its place.  So a document is read to a draft if and only if its entries make that draft (`Table.read_iff`).
-/
namespace ConfigService
namespace Json

/-! ## Between the members -/

theorem nextItem_gap (first : Bool) (gap : Gap) (t : Text) :
    nextItem first (Text.ofChars gap.text ++ t) = nextItem first t := by
  simp only [nextItem, skipGap_text]

theorem nextKey_gap (first : Bool) (gap : Gap) (t : Text) :
    nextKey first (Text.ofChars gap.text ++ t) = nextKey first t := by
  simp only [nextKey, skipGap_text]

theorem readColon_middle (middle : Gap) (text : List Char) (rest : Text) :
    readColon (Text.ofChars (middle.text ++ ':' :: text) ++ rest) = .ok (Text.ofChars text ++ rest) := by
  rw [Text.ofChars_append, List.append_assoc, readColon, skipGap_text]
  rfl

/-- The text of a member from after its key. -/
def Member.afterKey (m : Member Tree) : List Char := m.middle.text ++ ':' :: m.value.text

theorem toOption_readKey (m : Member Tree) (rest : Text) :
    (readKey (.char '"') (Text.ofChars m.key.body ++ rest)).toOption = m.key.string?.map fun key => (some key, rest) := by
  rw [readKey, if_pos rfl, toOption_map, toOption_readLiteral]
  cases m.key.string? <;> rfl

theorem ofChars_member (m : Member Tree) (rest : Text) :
    Text.ofChars m.text ++ rest =
      Text.ofChars m.before.text ++ (.char '"' :: (Text.ofChars m.key.body ++ (Text.ofChars m.afterKey ++ rest))) := by
  simp only [Member.text, keyed, Spelled.text, Member.afterKey, Text.ofChars_append, Text.ofChars_cons, List.append_assoc,
    List.cons_append]

theorem toOption_nextKey_first (m : Member Tree) (rest : Text) :
    (nextKey true (Text.ofChars m.text ++ rest)).toOption =
      m.key.string?.map fun key => (some key, Text.ofChars m.afterKey ++ rest) := by
  rw [ofChars_member, nextKey_gap, nextKey, skipGap_cons rfl]
  exact toOption_readKey m _

theorem toOption_nextKey_comma (m : Member Tree) (rest : Text) :
    (nextKey false (.char ',' :: (Text.ofChars m.text ++ rest))).toOption =
      m.key.string?.map fun key => (some key, Text.ofChars m.afterKey ++ rest) := by
  rw [ofChars_member, nextKey, skipGap_cons rfl]
  simp only [skipGap_text, skipGap_cons (show isGap (.char '"') = false from rfl)]
  exact toOption_readKey m _

/-- A member with its key read, if that spells a string. -/
def Member.entry? (m : Member Tree) : Option (String × Tree) := m.key.string?.map (·, m.value.value)

namespace Table

variable {σ : Type} {shape : Shape σ} (T : Table shape) (length : Nat)

def takeMember (d : σ) (m : Member Tree) : Option σ := m.entry?.bind (T.take d)

theorem readFields_gap (room : Nat) (d : σ) (gap : Gap) (t : Text) :
    readFields shape length room false d (Text.ofChars gap.text ++ t) = readFields shape length room false d t := by
  cases room with
  | zero => rfl
  | succ room => rw [readFields, readFields, nextKey_gap]

/-- **One member is read** to what it does to the table, and the reading goes on after it. -/
theorem toOption_readFields_member (m : Member Tree) {first : Bool} {t rest : Text} {d : σ} (room : Nat)
    (hkey : (nextKey first t).toOption = m.key.string?.map fun key => (some key, Text.ofChars m.afterKey ++ rest))
    (hrest : EndsNumeral rest) (hlength : m.value.value.text.length ≤ length) :
    (readFields shape length (room + 1) first d t).toOption =
      (T.takeMember d m).bind fun d' => (readFields shape length room false d' rest).toOption := by
  have hends := endsNumeral_text m.value.after hrest
  have hvalue : Text.ofChars m.value.text ++ rest = Text.ofChars m.value.before.text ++
      (Text.ofChars m.value.value.text ++ (Text.ofChars m.value.after.text ++ rest)) := by
    simp only [Padded.text, around, Text.ofChars_append, List.append_assoc]
  rw [readFields, takeMember, Member.entry?]
  cases hstring : m.key.string? with
  | none =>
    rw [hstring] at hkey
    obtain ⟨f, hf⟩ := exists_error_of_toOption hkey
    rw [hf]
    rfl
  | some key =>
    rw [hstring] at hkey
    rw [toOption_eq_some_iff.1 hkey]
    simp only [Option.map_some, Option.bind_some, take, T.slot?_eq, Member.afterKey, readColon_middle, hvalue]
    cases T.index? key with
    | none =>
      -- nobody asks for the value, so it is passed over whatever it is
      simp only [Option.map_none, skipValue_text _ _ hlength hends, readFields_gap]
      split <;> rfl
    | some i =>
      have hfill := T.fill_reads i d m.value.before m.value.value _ hends
      simp only at hfill
      simp only [Option.map_some, T.isFilled_eq]
      split
      · rfl
      · cases hspelled : T.spelled? i m.value.value with
        | none =>
          rw [hspelled] at hfill
          obtain ⟨h, hh⟩ := exists_error_of_toOption hfill
          simp only [hh]
          rfl
        | some v =>
          rw [hspelled] at hfill
          simp only [toOption_eq_some_iff.1 hfill, readFields_gap]
          rfl

theorem toOption_readFields_close (room : Nat) (first : Bool) (d : σ) (gap : Gap) (rest : Text) :
    (readFields shape length (room + 1) first d (Text.ofChars gap.text ++ .char '}' :: rest)).toOption =
      if (shape.missing? d).isNone then some (d, rest) else none := by
  rw [readFields, nextKey_gap, nextKey_close]
  simp only
  cases shape.missing? d <;> rfl

/-- The members after the first, each with the comma before it. -/
theorem toOption_readFields_flatMap (rest : Text) : ∀ {members : List (Member Tree)} {room : Nat} {d : σ},
    (∀ m ∈ members, m.value.value.text.length ≤ length) → members.length < room →
      (readFields shape length room false d
          (Text.ofChars ((members.map Member.text).flatMap (',' :: ·)) ++ .char '}' :: rest)).toOption =
        (members.foldlM T.takeMember d).bind fun d' => if (shape.missing? d').isNone then some (d', rest) else none
  | _, 0, _, _, hroom => absurd hroom (Nat.not_lt_zero _)
  | [], room + 1, d, _, _ => toOption_readFields_close length room false d [] rest
  | m :: members, room + 1, d, hlength, hroom => by
    obtain ⟨hm, hmembers⟩ := List.forall_mem_cons.1 hlength
    have hends := endsNumeral_flatMap (by decide : '}' ∈ [',', ']', '}']) (members.map Member.text) rest
    rw [List.map_cons, List.flatMap_cons, List.cons_append, Text.ofChars_cons, Text.ofChars_append, List.cons_append,
      List.append_assoc, T.toOption_readFields_member length m room (toOption_nextKey_comma m _) hends hm, List.foldlM_cons]
    cases T.takeMember d m with
    | none => rfl
    | some d' => exact toOption_readFields_flatMap rest hmembers (Nat.lt_of_succ_lt_succ hroom)

theorem toOption_readFields_commaSeparated (gap : Gap) (rest : Text) : ∀ {members : List (Member Tree)} {room : Nat} {d : σ},
    (∀ m ∈ members, m.value.value.text.length ≤ length) → members.length < room →
      (readFields shape length room true d (Text.ofChars gap.text ++
          (Text.ofChars (commaSeparated (members.map Member.text)) ++ .char '}' :: rest))).toOption =
        (members.foldlM T.takeMember d).bind fun d' => if (shape.missing? d').isNone then some (d', rest) else none
  | _, 0, _, _, hroom => absurd hroom (Nat.not_lt_zero _)
  | [], room + 1, d, _, _ => toOption_readFields_close length room true d gap rest
  | m :: members, room + 1, d, hlength, hroom => by
    obtain ⟨hm, hmembers⟩ := List.forall_mem_cons.1 hlength
    have hends := endsNumeral_flatMap (by decide : '}' ∈ [',', ']', '}']) (members.map Member.text) rest
    have hkey : (nextKey true (Text.ofChars gap.text ++ (Text.ofChars m.text ++
        (Text.ofChars ((members.map Member.text).flatMap (',' :: ·)) ++ .char '}' :: rest)))).toOption = _ :=
      (congrArg Except.toOption (nextKey_gap true gap _)).trans (toOption_nextKey_first m _)
    rw [List.map_cons, Value.commaSeparated_cons, Text.ofChars_append, List.append_assoc,
      T.toOption_readFields_member length m room hkey hends hm, List.foldlM_cons]
    cases T.takeMember d m with
    | none => rfl
    | some d' => exact T.toOption_readFields_flatMap length rest hmembers (Nat.lt_of_succ_lt_succ hroom)

/-! ## Lists -/

/-- What one item of a list does to the table, in the place of a field. -/
def takeItem (d : σ) (e : T.Index × Tree) : Option σ := (T.spelled? e.1 e.2).map (T.put e.1 · d)

/-- The fields of a record are read from a list up to its closing bracket. -/
def readClosed (shape : Shape σ) (index : Nat) (slots : List (Slot σ)) (d : σ) (t : Text) : Option (σ × Text) :=
  (readList shape index slots d t).toOption.bind fun (d', rest) => (endList rest).toOption.map (d', ·)

theorem readClosed_gap (index : Nat) (slots : List (Slot σ)) (d : σ) (gap : Gap) (t : Text) :
    readClosed shape index slots d (Text.ofChars gap.text ++ t) = readClosed shape index slots d t := by
  cases slots with
  | nil =>
    show (endList _).toOption.map _ = (endList _).toOption.map _
    rw [endList, endList, skipGap_text]
  | cons slot slots => rw [readClosed, readClosed, readList, readList, nextItem_gap]

theorem toOption_readClosed_item {index : Nat} {first : Bool} (hfirst : (index == 0) = first) {d : σ} {t rest : Text}
    (i : T.Index) (slots : List (Slot σ)) (p : Padded Tree)
    (hitem : nextItem first t = .ok (true, Text.ofChars p.value.text ++ (Text.ofChars p.after.text ++ rest)))
    (hrest : EndsNumeral rest) :
    readClosed shape index (T.slot i :: slots) d t =
      (T.takeItem d (i, p.value)).bind fun d' => readClosed shape (index + 1) slots d' rest := by
  have hfill := T.fill_reads i d [] p.value _ (endsNumeral_text p.after hrest)
  rw [Gap.text, List.map_nil, Text.ofChars_nil, List.nil_append] at hfill
  rw [readClosed, readList, hfirst, hitem, takeItem]
  simp only at hfill ⊢
  cases hspelled : T.spelled? i p.value with
  | none =>
    rw [hspelled] at hfill
    obtain ⟨h, hh⟩ := exists_error_of_toOption hfill
    rw [hh]
    rfl
  | some v =>
    rw [hspelled] at hfill
    rw [toOption_eq_some_iff.1 hfill]
    exact readClosed_gap (index + 1) slots (T.put i v d) p.after rest

theorem nextItem_first (p : Padded Tree) (rest : Text) :
    nextItem true (Text.ofChars p.text ++ rest) =
      .ok (true, Text.ofChars p.value.text ++ (Text.ofChars p.after.text ++ rest)) := by
  have hskip := p.value.skipGap_value (Text.ofChars p.after.text ++ rest)
  obtain ⟨c, cs, hcs, hgap, hclose, -⟩ := p.value.exists_text_eq_cons
  have hitem := nextItem_true ⟨c, cs, hcs, hgap, hclose⟩ (Text.ofChars p.after.text ++ rest)
  rw [Padded.text, around, Text.ofChars_append, Text.ofChars_append, List.append_assoc, List.append_assoc, nextItem_gap,
    hitem]

theorem nextItem_second (p : Padded Tree) (rest : Text) :
    nextItem false (.char ',' :: (Text.ofChars p.text ++ rest)) =
      .ok (true, Text.ofChars p.value.text ++ (Text.ofChars p.after.text ++ rest)) := by
  obtain ⟨c, cs, hcs, hgap, hclose, -⟩ := p.value.exists_text_eq_cons
  have hitem := nextItem_comma ⟨c, cs, hcs, hgap, hclose⟩ (Text.ofChars p.after.text ++ rest)
  rw [nextItem, skipGap_cons rfl] at hitem ⊢
  rw [Padded.text, around, Text.ofChars_append, Text.ofChars_append, List.append_assoc, List.append_assoc]
  simp only [skipGap_text]
  exact hitem

theorem toOption_endList_comma (t : Text) : (endList (.char ',' :: t)).toOption = none := by
  rw [endList, skipGap_cons rfl]
  simp only [if_true]
  split
  · next h => cases h
  · split <;> rfl

/-- The items after the first, each with the comma before it: there have to be as many as there are fields left. -/
theorem readClosed_flatMap (rest : Text) : ∀ {order : List T.Index} {items : List (Padded Tree)} {index : Nat} {d : σ},
    readClosed shape (index + 1) (order.map T.slot) d
        (Text.ofChars ((items.map Padded.text).flatMap (',' :: ·)) ++ .char ']' :: rest) =
      if items.length = order.length then
        ((order.zip (items.map Padded.value)).foldlM T.takeItem d).map (·, rest)
      else none
  | [], [], index, d => rfl
  | [], p :: items, index, d => by
    have hlength : (p :: items).length ≠ ([] : List T.Index).length := Nat.succ_ne_zero _
    rw [if_neg hlength, List.map_cons, List.flatMap_cons, List.cons_append,
      Text.ofChars_cons, List.cons_append]
    show (endList _).toOption.map _ = none
    rw [toOption_endList_comma]
    rfl
  | i :: order, [], index, d => rfl
  | i :: order, p :: items, index, d => by
    have hlater : (index + 1 == 0) = false := rfl
    have hends := endsNumeral_flatMap (by decide : ']' ∈ [',', ']', '}']) (items.map Padded.text) rest
    rw [List.map_cons, List.map_cons, List.flatMap_cons, List.cons_append, Text.ofChars_cons, Text.ofChars_append,
      List.cons_append, List.append_assoc, T.toOption_readClosed_item hlater i _ p (nextItem_second p _) hends,
      List.map_cons, List.zip_cons_cons, List.foldlM_cons, List.length_cons, List.length_cons]
    cases T.takeItem d (i, p.value) with
    | none => simp
    | some d' =>
      refine (readClosed_flatMap rest).trans ?_
      simp only [Nat.add_right_cancel_iff]
      rfl

theorem readClosed_commaSeparated (gap : Gap) (rest : Text) : ∀ {order : List T.Index} {items : List (Padded Tree)} {d : σ},
    order ≠ [] →
    readClosed shape 0 (order.map T.slot) d (Text.ofChars gap.text ++
        (Text.ofChars (commaSeparated (items.map Padded.text)) ++ .char ']' :: rest)) =
      if items.length = order.length then
        ((order.zip (items.map Padded.value)).foldlM T.takeItem d).map (·, rest)
      else none
  | [], _, _, h => absurd rfl h
  | i :: order, [], d, _ => by
    rw [readClosed_gap]
    rfl
  | i :: order, p :: items, d, _ => by
    have hfirst : (0 == 0) = true := rfl
    have hends := endsNumeral_flatMap (by decide : ']' ∈ [',', ']', '}']) (items.map Padded.text) rest
    rw [readClosed_gap, List.map_cons, List.map_cons, Value.commaSeparated_cons, Text.ofChars_append, List.append_assoc,
      T.toOption_readClosed_item hfirst i _ p (nextItem_first p _) hends, List.map_cons, List.zip_cons_cons, List.foldlM_cons,
      List.length_cons, List.length_cons]
    cases T.takeItem d (i, p.value) with
    | none => simp
    | some d' =>
      refine (T.readClosed_flatMap rest).trans ?_
      simp only [Nat.add_right_cancel_iff]
      rfl

/-! ## Documents -/

/-- Reading the keys first comes to the same. -/
theorem foldlM_takeMember : ∀ (members : List (Member Tree)) (d : σ),
    members.foldlM T.takeMember d = (members.mapM Member.entry?).bind fun es => es.foldlM T.take d
  | [], d => rfl
  | m :: members, d => by
    rw [List.foldlM_cons, takeMember, List.mapM_cons]
    cases m.entry? with
    | none => rfl
    | some e =>
      show ((T.take d e).bind fun d' => members.foldlM T.takeMember d') =
        ((members.mapM Member.entry?).bind fun es => some (e :: es)).bind fun es => es.foldlM T.take d
      rw [Option.bind_assoc]
      show _ = (members.mapM Member.entry?).bind fun es => (T.take d e).bind fun d' => es.foldlM T.take d'
      cases htake : T.take d e with
      | none => simp
      | some d' => exact foldlM_takeMember members d'

/-- Items fill the table as members under the names of their fields would. -/
theorem foldlM_takeItem : ∀ {order : List T.Index} {trees : List Tree} {d : σ}, order.Nodup →
    (∀ i ∈ order, T.get d i = none) →
      (order.zip trees).foldlM T.takeItem d = ((order.map T.name).zip trees).foldlM T.take d
  | [], _, _, _, _ => rfl
  | i :: order, [], _, _, _ => rfl
  | i :: order, t :: trees, d, hnodup, hnone => by
    obtain ⟨hi, hnodup⟩ := List.nodup_cons.1 hnodup
    obtain ⟨hget, hnone⟩ := List.forall_mem_cons.1 hnone
    have htake : T.take d (T.name i, t) = T.takeItem d (i, t) := by
      rw [take_name, hget]
      rfl
    rw [List.map_cons, List.zip_cons_cons, List.zip_cons_cons, List.foldlM_cons, List.foldlM_cons, htake, takeItem]
    cases T.spelled? i t with
    | none => rfl
    | some v =>
      refine foldlM_takeItem hnodup fun j hj => ?_
      rw [T.get_put_of_ne v d fun h => hi (h ▸ hj)]
      exact hnone j hj

theorem valuesOf_zip_ne_nil {key : String} : ∀ {names : List String} {trees : List Tree}, key ∈ names →
    trees.length = names.length → valuesOf key (names.zip trees) ≠ []
  | n :: names, t :: trees, h, hlength => by
    rw [List.zip_cons_cons]
    by_cases hn : n = key
    · rw [hn, valuesOf_cons_self]
      exact List.cons_ne_nil _ _
    · rw [valuesOf_cons_of_ne hn]
      exact valuesOf_zip_ne_nil ((List.mem_cons.1 h).resolve_left fun h => hn h.symm) (Nat.succ.inj hlength)
  | n :: names, [], _, hlength => nomatch hlength

/-- A list of all values leaves nothing to be missed. -/
theorem complete_of_items {trees : List Tree} (hlength : trees.length = T.order.length) {d : σ}
    (h : ((T.order.map T.name).zip trees).foldlM T.take shape.empty = some d) : T.Complete d := by
  intro i _
  have hfilled := (T.foldlM_take_eq_some_iff.1 h).2 i
  have hne := valuesOf_zip_ne_nil (List.mem_map_of_mem (f := T.name) (T.mem_order i))
    (hlength.trans (List.length_map T.name).symm)
  exact isSome_of_filled hfilled hne

theorem toOption_readFields_object {gap : Gap} {members : List (Member Tree)} {room : Nat}
    (hroom : (commaSeparated (members.map Member.text)).length + 2 ≤ room) (rest : Text) :
    (readFields shape room room true shape.empty (Text.ofChars gap.text ++
        (Text.ofChars (commaSeparated (members.map Member.text)) ++ .char '}' :: rest))).toOption =
      (members.foldlM T.takeMember shape.empty).bind fun d =>
        if (shape.missing? d).isNone then some (d, rest) else none := by
  have hmembers := length_le_commaSeparated (members.map Member.text)
  rw [List.length_map] at hmembers
  refine T.toOption_readFields_commaSeparated room gap rest (fun m hm => ?_) (by omega)
  have hm := length_le_commaSeparated_of_mem (List.mem_map_of_mem (f := Member.text) hm)
  simp only [Member.text, keyed, Padded.text, around, List.length_append, List.length_cons] at hm
  omega

theorem toOption_readRecord_bracket (t : Text) :
    (readRecord shape (.char '[' :: t)).toOption = readClosed shape 0 shape.slots shape.empty t := by
  rw [readRecord, skipGap_cons rfl, readClosed]
  simp only [if_true]
  rw [if_neg (by decide)]
  cases readList shape 0 shape.slots shape.empty t with
  | error f => rfl
  | ok taken => exact toOption_map _ _

/-- **A record is read to what its entries make of the empty table**, if nothing is missing then. -/
theorem toOption_readRecord (horder : T.order ≠ []) (gap : Gap) (t : Tree) (rest : Text) :
    (readRecord shape (Text.ofChars gap.text ++ (Text.ofChars t.text ++ rest))).toOption =
      (t.entries? shape.names).bind fun es => (es.foldlM T.take shape.empty).bind fun d =>
        if (shape.missing? d).isNone then some (d, rest) else none := by
  rw [readRecord, skipGap_text, t.skipGap_value]
  cases t with
  | null => rfl
  | bool b => cases b <;> rfl
  | string s => rfl
  | number f =>
    obtain ⟨c, cs, hcs, hc⟩ := f.exists_text_eq_cons
    have hne : ∀ d ∈ ['{', '['], Symbol.char c ≠ .char d := by
      intro d hd heq
      cases heq
      revert hc
      simp only [List.mem_cons, List.not_mem_nil, or_false] at hd
      rcases hd with rfl | rfl <;> decide
    rw [Tree.text, hcs, Text.ofChars_cons, List.cons_append]
    simp only [if_neg (hne '{' (by decide)), if_neg (hne '[' (by decide))]
    rfl
  | object gap' members =>
    have htext : Text.ofChars (Tree.object gap' members).text ++ rest = .char '{' :: (Text.ofChars gap'.text ++
        (Text.ofChars (commaSeparated (members.map Member.text)) ++ .char '}' :: rest)) := by
      rw [Tree.text, Tree.memberTexts_eq_map]
      simp
    rw [htext]
    simp only [if_true]
    rw [T.toOption_readFields_object (by simp; omega), foldlM_takeMember, Option.bind_assoc]
    rfl
  | array gap' items =>
    have htext : Text.ofChars (Tree.array gap' items).text ++ rest = .char '[' :: (Text.ofChars gap'.text ++
        (Text.ofChars (commaSeparated (items.map Padded.text)) ++ .char ']' :: rest)) := by
      rw [Tree.text, Tree.itemTexts_eq_map]
      simp
    rw [htext]
    refine (toOption_readRecord_bracket _).trans ?_
    rw [T.slots_eq, T.readClosed_commaSeparated gap' rest horder, Tree.entries?, T.names_eq, List.length_map]
    by_cases hlength : items.length = T.order.length
    · rw [if_pos hlength, if_pos hlength, T.foldlM_takeItem T.nodup_order fun i _ => T.get_empty i, Option.bind_some]
      cases hfold : ((T.order.map T.name).zip (items.map Padded.value)).foldlM T.take shape.empty with
      | none => rfl
      | some d =>
        have hcomplete := T.complete_of_items ((List.length_map Padded.value).trans hlength) hfold
        rw [Option.bind_some, T.missing?_eq_none_iff.2 hcomplete]
        rfl
    · rw [if_neg hlength, if_neg hlength]
      rfl

/-- **A document is read to a draft if and only if its entries make that draft.** -/
theorem read_iff (horder : T.order ≠ []) (doc : Padded Tree) (d : σ) :
    readWholeText (readRecord shape) (Text.ofChars doc.text) = .ok d ↔
      ∃ es, doc.value.entries? shape.names = some es ∧ (shape.strict → ∀ e ∈ es, ∃ i, T.name i = e.1) ∧
        (∀ i, Filled (T.spelled? i) none (valuesOf (T.name i) es) (T.get d i)) ∧ T.Complete d := by
  have hread := T.toOption_readRecord horder doc.before doc.value (Text.ofChars doc.after.text)
  have htext : Text.ofChars doc.text =
      Text.ofChars doc.before.text ++ (Text.ofChars doc.value.text ++ Text.ofChars doc.after.text) := by
    rw [Padded.text, around, Text.ofChars_append, Text.ofChars_append]
  rw [readWholeText_eq_ok_iff, htext]
  simp only [← toOption_eq_some_iff, hread, Option.bind_eq_some_iff, Option.ite_none_right_eq_some, Option.isNone_iff_eq_none,
    Option.some.injEq, Prod.mk.injEq]
  constructor
  · rintro ⟨rest, ⟨es, hes, d', hfold, hmissing, rfl, rfl⟩, -⟩
    obtain ⟨hknown, hfilled⟩ := T.foldlM_take_eq_some_iff.1 hfold
    refine ⟨es, hes, hknown, fun i => ?_, T.missing?_eq_none_iff.1 hmissing⟩
    rw [← T.get_empty i]
    exact hfilled i
  · rintro ⟨es, hes, hknown, hfilled, hcomplete⟩
    refine ⟨_, ⟨es, hes, d, T.foldlM_take_eq_some_iff.2 ⟨hknown, fun i => ?_⟩, T.missing?_eq_none_iff.2 hcomplete, rfl, rfl⟩,
      skipGap_text_nil doc.after⟩
    rw [T.get_empty i]
    exact hfilled i

end Table

end Json
end ConfigService
