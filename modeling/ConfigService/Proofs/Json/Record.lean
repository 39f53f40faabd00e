import ConfigService.Json.Record
import ConfigService.Proofs.Json.RoundTrip
/-!
# Record — a written record is read back

A record's members may stand in any order, so what has been read of it is told by the names that have come so far: a draft
for every list of names, where no more is asked than that a member takes the draft of the names before it to the draft
with its own name (`Tracks`).  Then the members take the empty draft to that of all their names (`readRecord_print`).
-/
namespace ConfigService
namespace Json

section Record

variable {σ : Type} {shape : Shape σ} {draft : List String → σ} (length : Nat)

/-- A member that has not come yet is read into the draft. -/
def Tracks (shape : Shape σ) (draft : List String → σ) (m : String × List Char) : Prop :=
  ∃ slot, shape.slot? m.1 = some slot ∧ ∀ names, m.1 ∉ names →
    slot.isFilled (draft names) = false ∧
      ∀ rest, EndsNumeral rest → slot.fill (draft names) (Text.ofChars m.2 ++ rest) = .ok (draft (m.1 :: names), rest)

/-- The names of members that have been read after others. -/
def namesAfter (members : List (String × List Char)) (names : List String) : List String :=
  (members.map Prod.fst).reverse ++ names

theorem namesAfter_cons (m : String × List Char) (ms : List (String × List Char)) (names : List String) :
    namesAfter (m :: ms) names = namesAfter ms (m.1 :: names) := by
  rw [namesAfter, namesAfter, List.map_cons, List.reverse_cons, List.append_assoc, List.singleton_append]

theorem notMem_of_nodup_namesAfter {m : String × List Char} {ms : List (String × List Char)} {names : List String}
    (h : (namesAfter (m :: ms) names).Nodup) : m.1 ∉ names := by
  rw [namesAfter_cons, namesAfter] at h
  exact (List.nodup_cons.1 (List.nodup_append.1 h).2.1).1

theorem readFields_member {m : String × List Char} {names : List String} (hm : Tracks shape draft m)
    (hnew : m.1 ∉ names) (room : Nat) {first : Bool} {t rest : Text}
    (hkey : nextKey first t = .ok (some m.1, .char ':' :: (Text.ofChars m.2 ++ rest))) (hrest : EndsNumeral rest) :
    readFields shape length (room + 1) first (draft names) t =
      readFields shape length room false (draft (m.1 :: names)) rest := by
  obtain ⟨slot, hslot, htracks⟩ := hm
  obtain ⟨hempty, hfill⟩ := htracks names hnew
  rw [readFields, hkey]
  simp only [hslot, hempty, readColon_colon, hfill rest hrest]
  rfl

theorem readFields_close {names : List String} (hmissing : shape.missing? (draft names) = none) (room : Nat)
    (first : Bool) (rest : Text) :
    readFields shape length (room + 1) first (draft names) (.char '}' :: rest) = .ok (draft names, rest) := by
  rw [readFields, nextKey_close]
  simp only [hmissing]

theorem readFields_flatMap : ∀ {members : List (String × List Char)} {room : Nat} {names : List String} (rest : Text),
    (∀ m ∈ members, Tracks shape draft m) → (namesAfter members names).Nodup →
      shape.missing? (draft (namesAfter members names)) = none → members.length < room →
        readFields shape length room false (draft names)
            (Text.ofChars ((members.map memberText).flatMap (',' :: ·)) ++ .char '}' :: rest) =
          .ok (draft (namesAfter members names), rest)
  | _, 0, _, _, _, _, _, hroom => absurd hroom (Nat.not_lt_zero _)
  | [], room + 1, names, rest, _, _, hmissing, _ => readFields_close length hmissing room false rest
  | m :: ms, room + 1, names, rest, h, hnodup, hmissing, hroom => by
    have hkey := nextKey_comma m.1 (.char ':' :: (Text.ofChars m.2 ++
      (Text.ofChars ((ms.map memberText).flatMap (',' :: ·)) ++ .char '}' :: rest)))
    have hend := endsNumeral_flatMap (by decide : '}' ∈ [',', ']', '}']) (ms.map memberText) rest
    have hnew := notMem_of_nodup_namesAfter hnodup
    rw [namesAfter_cons] at hnodup hmissing ⊢
    have ih := readFields_flatMap rest (fun n hn => h n (List.mem_cons_of_mem m hn)) hnodup hmissing
      (Nat.lt_of_succ_lt_succ hroom)
    rw [← ih, ← readFields_member length (h m List.mem_cons_self) hnew room hkey hend]
    simp only [List.map_cons, List.flatMap_cons, memberText, Text.ofChars_append, Text.ofChars_cons, List.cons_append,
      List.append_assoc]

/-- **The members of a record are read**, in whatever order they stand. -/
theorem readFields_commaSeparated : ∀ {members : List (String × List Char)} {room : Nat} (rest : Text),
    (∀ m ∈ members, Tracks shape draft m) → (members.map Prod.fst).Nodup →
      shape.missing? (draft (namesAfter members [])) = none → members.length < room →
        readFields shape length room true (draft [])
            (Text.ofChars (commaSeparated (members.map memberText) ++ ['}']) ++ rest) =
          .ok (draft (namesAfter members []), rest)
  | _, 0, _, _, _, _, hroom => absurd hroom (Nat.not_lt_zero _)
  | [], room + 1, rest, _, _, hmissing, _ => readFields_close length hmissing room true rest
  | m :: ms, room + 1, rest, h, hnodup, hmissing, hroom => by
    have hkey := nextKey_true m.1 (.char ':' :: (Text.ofChars m.2 ++
      (Text.ofChars ((ms.map memberText).flatMap (',' :: ·)) ++ .char '}' :: rest)))
    have hend := endsNumeral_flatMap (by decide : '}' ∈ [',', ']', '}']) (ms.map memberText) rest
    have hnames : (namesAfter (m :: ms) []).Nodup := by
      rw [namesAfter, List.append_nil]
      exact (List.reverse_perm _).nodup_iff.2 hnodup
    rw [namesAfter_cons] at hnames hmissing ⊢
    have hrest := readFields_flatMap length rest (fun n hn => h n (List.mem_cons_of_mem m hn)) hnames hmissing
      (Nat.lt_of_succ_lt_succ hroom)
    rw [← hrest, ← readFields_member length (h m List.mem_cons_self) List.not_mem_nil room hkey hend]
    simp only [List.map_cons, Value.commaSeparated_cons, memberText, Text.ofChars_append, Text.ofChars_cons,
      Text.ofChars_nil, List.cons_append, List.nil_append, List.append_assoc]

/-! ## The whole record -/

/-- The members of an object in the order in which they are written, each with the text of its value. -/
def writtenMembers (sortKeys : Bool) (members : List (String × Value)) : List (String × List Char) :=
  if sortKeys then sortByKey (mapValues (Value.print sortKeys) members) else mapValues (Value.print sortKeys) members

theorem print_object (sortKeys : Bool) (members : List (String × Value)) :
    (Value.object members).print sortKeys =
      '{' :: (commaSeparated ((writtenMembers sortKeys members).map memberText) ++ ['}']) := by
  cases sortKeys with
  | false => exact Value.print_object_false members
  | true => exact Value.print_object_true members

theorem writtenMembers_perm (sortKeys : Bool) (members : List (String × Value)) :
    (writtenMembers sortKeys members).Perm (mapValues (Value.print sortKeys) members) := by
  cases sortKeys with
  | false => exact List.Perm.refl _
  | true => exact sortByKey_perm _

theorem readRecord_brace (t : Text) :
    readRecord shape (.char '{' :: t) = readFields shape (t.length + 1) (t.length + 1) true shape.empty t := rfl

theorem length_lt_of_members (members : List (String × List Char)) :
    members.length < (Text.ofChars (commaSeparated (members.map memberText) ++ ['}'])).length + 1 := by
  have h := length_le_commaSeparated (members.map memberText)
  rw [List.length_map] at h
  rw [Text.length_ofChars, List.length_append, List.length_singleton]
  omega

/-- **A written record is read back** into the draft of all its names, in whatever order its members were written. -/
theorem readRecord_print (sortKeys : Bool) {members : List (String × Value)} (hempty : draft [] = shape.empty)
    (hnodup : (members.map Prod.fst).Nodup) (h : ∀ m ∈ members, Tracks shape draft (m.1, m.2.print sortKeys))
    (hmissing : ∀ names, (∀ m ∈ members, m.1 ∈ names) → shape.missing? (draft names) = none) :
    ∃ names, (∀ m ∈ members, m.1 ∈ names) ∧
      readWholeText (readRecord shape) (Text.ofChars ((Value.object members).print sortKeys)) = .ok (draft names) := by
  have hperm := writtenMembers_perm sortKeys members
  have htracks : ∀ n ∈ writtenMembers sortKeys members, Tracks shape draft n := fun n hn => by
    obtain ⟨m, hm, rfl⟩ := mem_mapValues.1 (hperm.mem_iff.1 hn)
    exact h m hm
  have hnames : ∀ m ∈ members, m.1 ∈ namesAfter (writtenMembers sortKeys members) [] := fun m hm => by
    rw [namesAfter, List.append_nil, List.mem_reverse, (hperm.map Prod.fst).mem_iff, map_fst_mapValues]
    exact List.mem_map_of_mem hm
  have hwritten : ((writtenMembers sortKeys members).map Prod.fst).Nodup := by
    rw [(hperm.map Prod.fst).nodup_iff, map_fst_mapValues]
    exact hnodup
  refine ⟨_, hnames, readWholeText_eq ?_⟩
  rw [print_object, Text.ofChars_cons, readRecord_brace, ← hempty]
  have hread (length : Nat) :=
    readFields_commaSeparated length [] htracks hwritten (hmissing _ hnames) (length_lt_of_members _)
  simp only [List.append_nil] at hread
  exact hread _

end Record

end Json
end ConfigService
