import ConfigService.Json.Reader
import ConfigService.Proofs.Json.Numeral
/-!
# Containers — what stands between items is read back

A list and an object are read from a compact text if each item in them is: `readItems_commaSeparated` and
`readMembers_commaSeparated` are about any reader of items and any way to write them.  An item has to begin with a
character that neither is a blank nor closes a list, and it is followed by a comma or by the closing bracket.
-/
namespace ConfigService
namespace Json

theorem skipGap_cons {s : Symbol} (h : isGap s = false) (t : Text) : skipGap (s :: t) = s :: t := by
  rw [skipGap, List.dropWhile_cons, h]
  rfl

/-- The text begins with a character that neither is a blank nor closes a list. -/
def StartsItem (cs : List Char) : Prop := ∃ c rest, cs = c :: rest ∧ isGap (.char c) = false ∧ c ≠ ']'

/-! ## Lists -/

theorem nextItem_true {cs : List Char} (h : StartsItem cs) (t : Text) :
    nextItem true (Text.ofChars cs ++ t) = .ok (true, Text.ofChars cs ++ t) := by
  obtain ⟨c, rest, rfl, hg, hc⟩ := h
  simp only [Text.ofChars_cons, List.cons_append]
  rw [nextItem, skipGap_cons hg]
  simp [hc]

theorem nextItem_comma {cs : List Char} (h : StartsItem cs) (t : Text) :
    nextItem false (.char ',' :: (Text.ofChars cs ++ t)) = .ok (true, Text.ofChars cs ++ t) := by
  obtain ⟨c, rest, rfl, hg, hc⟩ := h
  simp only [Text.ofChars_cons, List.cons_append]
  rw [nextItem, skipGap_cons rfl]
  simp [skipGap_cons hg, hc]

/-- An item is read back wherever the text after it cannot go on with a number. -/
def ReadsBack {α : Type} (item : Text → Taken α) (cs : List Char) (a : α) : Prop :=
  ∀ rest, EndsNumeral rest → item (Text.ofChars cs ++ rest) = .ok (a, rest)

section Items

variable {α β : Type} {item : Text → Taken α} {text : β → List Char} {result : β → α}

/-- What follows an item, in a list or in an object, ends a number. -/
theorem endsNumeral_flatMap {c : Char} (hc : c ∈ [',', ']', '}']) (texts : List (List Char)) (rest : Text) :
    EndsNumeral (Text.ofChars (texts.flatMap (',' :: ·)) ++ .char c :: rest) := by
  cases texts with
  | nil => exact endsNumeral_cons hc _
  | cons => exact endsNumeral_cons (by decide) _

/-- The items after the first are read back, each with the comma before it. -/
theorem readItems_flatMap : ∀ {items : List β} {room : Nat} (read : List α) (rest : Text),
    (∀ b ∈ items, StartsItem (text b) ∧ ReadsBack item (text b) (result b)) → items.length < room →
      readItems item room false read (Text.ofChars ((items.map text).flatMap (',' :: ·)) ++ .char ']' :: rest) =
        .ok (read.reverse ++ items.map result, rest)
  | _, 0, _, _, _, hroom => absurd hroom (Nat.not_lt_zero _)
  | [], room + 1, read, rest, _, _ => by
    rw [List.map_nil, List.map_nil, List.append_nil]
    rfl
  | b :: items, room + 1, read, rest, h, hroom => by
    obtain ⟨hstart, hitem⟩ := h b List.mem_cons_self
    have ih := readItems_flatMap (result b :: read) rest
      (fun c hc => h c (List.mem_cons_of_mem b hc)) (Nat.lt_of_succ_lt_succ hroom)
    rw [List.map_cons, List.flatMap_cons, Text.ofChars_append, Text.ofChars_cons, List.append_assoc, List.cons_append,
      readItems, nextItem_comma hstart]
    simp only [hitem _ (endsNumeral_flatMap (c := ']') (by decide) _ _)]
    rw [ih, List.reverse_cons, List.append_assoc, List.map_cons]
    rfl

/-- **The items of a list are read back** if each of them is. -/
theorem readItems_commaSeparated : ∀ {items : List β} {room : Nat} (rest : Text),
    (∀ b ∈ items, StartsItem (text b) ∧ ReadsBack item (text b) (result b)) → items.length < room →
      readItems item room true [] (Text.ofChars (commaSeparated (items.map text) ++ [']']) ++ rest) =
        .ok (items.map result, rest)
  | _, 0, _, _, hroom => absurd hroom (Nat.not_lt_zero _)
  | [], room + 1, rest, _, _ => rfl
  | b :: items, room + 1, rest, h, hroom => by
    obtain ⟨hstart, hitem⟩ := h b List.mem_cons_self
    have hrest := readItems_flatMap [result b] rest
      (fun c hc => h c (List.mem_cons_of_mem b hc)) (Nat.lt_of_succ_lt_succ hroom)
    rw [List.map_cons, Value.commaSeparated_cons, Text.ofChars_append, Text.ofChars_append, List.append_assoc,
      List.append_assoc, readItems, nextItem_true hstart]
    simp only [Text.ofChars_cons, Text.ofChars_nil, List.cons_append, List.nil_append]
    simp only [hitem _ (endsNumeral_flatMap (c := ']') (by decide) _ _)]
    exact hrest

end Items

/-! ## Objects -/

theorem nextKey_close (first : Bool) (t : Text) : nextKey first (.char '}' :: t) = .ok (none, t) := rfl

theorem nextKey_true (k : String) (t : Text) : nextKey true (Text.ofChars (literal k) ++ t) = .ok (some k, t) := by
  show (readLiteral (Text.ofChars (k.toList.flatMap escape ++ ['"']) ++ t)).map _ = _
  rw [readLiteral_literal]
  rfl

theorem nextKey_comma (k : String) (t : Text) :
    nextKey false (.char ',' :: (Text.ofChars (literal k) ++ t)) = .ok (some k, t) := by
  show (readLiteral (Text.ofChars (k.toList.flatMap escape ++ ['"']) ++ t)).map _ = _
  rw [readLiteral_literal]
  rfl

theorem readColon_colon (t : Text) : readColon (.char ':' :: t) = .ok t := rfl

section Members

variable {α β : Type} {item : Text → Taken α} {text : β → List Char} {result : β → α}

def entryText (text : β → List Char) (m : String × β) : List Char := memberText (m.1, text m.2)

/-- The members after the first are read back, each with the comma before it. -/
theorem readMembers_flatMap : ∀ {members : List (String × β)} {room : Nat} (read : List (String × α)) (rest : Text),
    (∀ m ∈ members, ReadsBack item (text m.2) (result m.2)) → members.length < room →
      readMembers item room false read
          (Text.ofChars ((members.map (entryText text)).flatMap (',' :: ·)) ++ .char '}' :: rest) =
        .ok (read.reverse ++ members.map (fun m => (m.1, result m.2)), rest)
  | _, 0, _, _, _, hroom => absurd hroom (Nat.not_lt_zero _)
  | [], room + 1, read, rest, _, _ => by
    rw [List.map_nil, List.map_nil, List.append_nil]
    rfl
  | m :: members, room + 1, read, rest, h, hroom => by
    have hitem := h m List.mem_cons_self
    have ih := readMembers_flatMap ((m.1, result m.2) :: read) rest
      (fun n hn => h n (List.mem_cons_of_mem m hn)) (Nat.lt_of_succ_lt_succ hroom)
    rw [List.map_cons, List.flatMap_cons, entryText, memberText, Text.ofChars_append, Text.ofChars_cons,
      Text.ofChars_append, Text.ofChars_cons, List.append_assoc, List.cons_append, List.append_assoc, List.cons_append,
      readMembers, nextKey_comma]
    simp only [readColon_colon, hitem _ (endsNumeral_flatMap (c := '}') (by decide) _ _)]
    rw [ih, List.reverse_cons, List.append_assoc, List.map_cons]
    rfl

/-- **The members of an object are read back** if the value of each of them is. -/
theorem readMembers_commaSeparated : ∀ {members : List (String × β)} {room : Nat} (rest : Text),
    (∀ m ∈ members, ReadsBack item (text m.2) (result m.2)) → members.length < room →
      readMembers item room true [] (Text.ofChars (commaSeparated (members.map (entryText text)) ++ ['}']) ++ rest) =
        .ok (members.map (fun m => (m.1, result m.2)), rest)
  | _, 0, _, _, hroom => absurd hroom (Nat.not_lt_zero _)
  | [], room + 1, rest, _, _ => rfl
  | m :: members, room + 1, rest, h, hroom => by
    have hitem := h m List.mem_cons_self
    have hrest := readMembers_flatMap [(m.1, result m.2)] rest
      (fun n hn => h n (List.mem_cons_of_mem m hn)) (Nat.lt_of_succ_lt_succ hroom)
    rw [List.map_cons, Value.commaSeparated_cons, entryText, memberText, Text.ofChars_append, Text.ofChars_append,
      Text.ofChars_append, Text.ofChars_cons, List.append_assoc, List.append_assoc, List.append_assoc, List.cons_append,
      readMembers, nextKey_true]
    simp only [Text.ofChars_cons, Text.ofChars_nil, List.cons_append, List.nil_append, readColon_colon,
      hitem _ (endsNumeral_flatMap (c := '}') (by decide) _ _)]
    exact hrest

end Members

end Json
end ConfigService
