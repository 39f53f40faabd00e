import ConfigService.Json.Build
import ConfigService.Proofs.Json.Proper
/-!
# Lawful — what every value keeps to

A value that comes about by building or by reading has a numeral of the grammar for every number, and in each of its
objects every key once (`Value.Lawful`).  This is all that the laws of writing and reading need of a value, and since it
is said of a value and all values inside it, induction on it is induction over the value.
-/
namespace ConfigService
namespace Json

/-! ## Members -/

section Members

variable {α : Type} {key : String} {value : α} {members entries : List (String × α)}

theorem mem_of_mem_insertMember {m : String × α} (h : m ∈ insertMember key value members) :
    m = (key, value) ∨ m ∈ members := by
  induction members with
  | nil => exact .inl (List.mem_singleton.1 h)
  | cons n rest ih =>
    obtain ⟨k, v⟩ := n
    rw [insertMember] at h
    split at h
    · rcases List.mem_cons.1 h with h | h
      · exact .inl h
      · exact .inr (List.mem_cons_of_mem _ h)
    · rcases List.mem_cons.1 h with h | h
      · exact .inr (h ▸ List.mem_cons_self)
      · exact (ih h).imp_right (List.mem_cons_of_mem _)

theorem nodup_insertMember (h : (members.map Prod.fst).Nodup) :
    ((insertMember key value members).map Prod.fst).Nodup := by
  induction members with
  | nil => exact List.nodup_cons.2 ⟨List.not_mem_nil, List.nodup_nil⟩
  | cons n rest ih =>
    obtain ⟨k, v⟩ := n
    rw [List.map_cons, List.nodup_cons] at h
    rw [insertMember]
    split
    · next hk =>
      subst hk
      exact List.nodup_cons.2 h
    · next hk =>
      refine List.nodup_cons.2 ⟨fun hmem => ?_, ih h.2⟩
      obtain ⟨m, hm, hmk⟩ := List.mem_map.1 hmem
      rcases mem_of_mem_insertMember hm with rfl | hm
      · exact hk hmk.symm
      · exact h.1 (hmk ▸ List.mem_map_of_mem hm)

theorem insertMember_of_notMem (h : key ∉ members.map Prod.fst) :
    insertMember key value members = members ++ [(key, value)] := by
  induction members with
  | nil => rfl
  | cons n rest ih =>
    obtain ⟨k, v⟩ := n
    rw [List.map_cons, List.mem_cons, not_or] at h
    rw [insertMember, if_neg (Ne.symm h.1), ih h.2, List.cons_append]

theorem foldl_insertMember_nodup :
    ∀ members : List (String × α), (members.map Prod.fst).Nodup →
      ((entries.foldl (fun members e => insertMember e.1 e.2 members) members).map Prod.fst).Nodup := by
  induction entries with
  | nil => exact fun _ h => h
  | cons e entries ih => exact fun members h => ih _ (nodup_insertMember h)

theorem mem_of_mem_foldl_insertMember {m : String × α} :
    ∀ members : List (String × α), m ∈ entries.foldl (fun members e => insertMember e.1 e.2 members) members →
      m ∈ members ∨ m ∈ entries := by
  induction entries with
  | nil => exact fun _ h => .inl h
  | cons e entries ih =>
    intro members h
    rcases ih _ h with h | h
    · rcases mem_of_mem_insertMember h with h | h
      · exact .inr (h ▸ List.mem_cons_self)
      · exact .inl h
    · exact .inr (List.mem_cons_of_mem _ h)

theorem foldl_insertMember_eq_append :
    ∀ members : List (String × α), ((members ++ entries).map Prod.fst).Nodup →
      entries.foldl (fun members e => insertMember e.1 e.2 members) members = members ++ entries := by
  induction entries with
  | nil => exact fun members _ => (List.append_nil members).symm
  | cons e entries ih =>
    intro members h
    have he : e.1 ∉ members.map Prod.fst := by
      rw [List.map_append, List.map_cons] at h
      exact fun hmem => (List.nodup_append.1 h).2.2 _ hmem _ List.mem_cons_self rfl
    rw [List.append_cons] at h
    rw [List.foldl_cons, insertMember_of_notMem he, ih _ h, ← List.append_cons]

/-- After collapsing, every key comes once. -/
theorem nodup_collapse (entries : List (String × α)) : ((collapse entries).map Prod.fst).Nodup :=
  foldl_insertMember_nodup [] List.nodup_nil

/-- Collapsing makes no new entries. -/
theorem mem_of_mem_collapse {m : String × α} (h : m ∈ collapse entries) : m ∈ entries :=
  (mem_of_mem_foldl_insertMember [] h).resolve_left List.not_mem_nil

/-- Entries whose keys come once are left as they are. -/
theorem collapse_eq_self (h : (entries.map Prod.fst).Nodup) : collapse entries = entries :=
  foldl_insertMember_eq_append [] h

end Members

/-! ## Values -/

/-- Every number is of the grammar, and in every object each key comes once. -/
inductive Value.Lawful : Value → Prop
  | null : Lawful .null
  | bool (b : Bool) : Lawful (.bool b)
  | number {n : Numeral} (proper : n.Proper) : Lawful (.number n)
  | string (s : String) : Lawful (.string s)
  | timestamp (t : Timestamp) : Lawful (.timestamp t)
  | array {items : List Value} (lawful : ∀ v ∈ items, Lawful v) : Lawful (.array items)
  | object {members : List (String × Value)} (nodup : (members.map Prod.fst).Nodup)
      (lawful : ∀ m ∈ members, Lawful m.2) : Lawful (.object members)

theorem Value.Lawful.collapse {entries : List (String × Value)} (h : ∀ m ∈ entries, m.2.Lawful) :
    (Value.object (collapse entries)).Lawful :=
  .object (nodup_collapse entries) fun m hm => h m (mem_of_mem_collapse hm)

/-! ## Reading -/

section Results

variable {ε α β : Type} {f : α → β} {x : Except ε α} {a : α} {b : β}

theorem exists_of_map_eq_ok (h : x.map f = .ok b) : ∃ a, x = .ok a ∧ f a = b := by
  cases x with
  | error e => cases h
  | ok a => exact ⟨a, rfl, Except.ok.inj h⟩

theorem map_eq_ok_iff : x.map f = .ok b ↔ ∃ a, x = .ok a ∧ f a = b := by
  constructor
  · exact exists_of_map_eq_ok
  · rintro ⟨a, rfl, rfl⟩
    rfl

theorem toOption_eq_some_iff : x.toOption = some a ↔ x = .ok a := by
  cases x <;> simp [Except.toOption]

theorem exists_error_of_toOption (h : x.toOption = none) : ∃ e, x = .error e := by
  cases x with
  | error e => exact ⟨e, rfl⟩
  | ok a => cases h

theorem toOption_map (f : α → β) (x : Except ε α) : (x.map f).toOption = x.toOption.map f := by
  cases x <;> rfl

end Results

section Containers

variable {α : Type} {P : α → Prop} {item : Text → Taken α}

/-- What holds of each item that is read holds of the items of a list. -/
theorem readItems_ok (hitem : ∀ t a rest, item t = .ok (a, rest) → P a) (room : Nat) :
    ∀ {first : Bool} {read as : List α} {t rest : Text}, readItems item room first read t = .ok (as, rest) →
      (∀ a ∈ read, P a) → ∀ a ∈ as, P a := by
  induction room with
  | zero =>
    intro first read as t rest h
    cases h
  | succ room ih =>
    intro first read as t rest h hread
    rw [readItems] at h
    split at h
    · cases h
    · cases h
      exact fun a ha => hread a (List.mem_reverse.1 ha)
    · split at h
      · cases h
      · next ha =>
        refine ih h fun b hb => ?_
        rcases List.mem_cons.1 hb with rfl | hb
        · exact hitem _ _ _ ha
        · exact hread b hb

/-- What holds of each value that is read holds of the values of an object's members. -/
theorem readMembers_ok (hitem : ∀ t a rest, item t = .ok (a, rest) → P a) (room : Nat) :
    ∀ {first : Bool} {read as : List (String × α)} {t rest : Text},
      readMembers item room first read t = .ok (as, rest) → (∀ m ∈ read, P m.2) → ∀ m ∈ as, P m.2 := by
  induction room with
  | zero =>
    intro first read as t rest h
    cases h
  | succ room ih =>
    intro first read as t rest h hread
    rw [readMembers] at h
    split at h
    · cases h
    · cases h
      exact fun m hm => hread m (List.mem_reverse.1 hm)
    · split at h
      · cases h
      · split at h
        · cases h
        · next ha =>
          refine ih h fun m hm => ?_
          rcases List.mem_cons.1 hm with rfl | hm
          · exact hitem _ _ _ ha
          · exact hread m hm

end Containers

theorem readMarked_ok {P : Value → Prop} {expected : String} {decode : String → Except Fault Value}
    (hdecode : ∀ s v, decode s = .ok v → P v) {t rest : Text} {v : Value}
    (h : readMarked expected decode t = .ok (v, rest)) : P v := by
  unfold readMarked at h
  split at h
  · cases h
  split at h
  · cases h
  split at h
  · split at h
    · cases h
    · split at h
      · cases h
      · next hv =>
        split at h
        · cases h
        · split at h
          · cases h
            exact hdecode _ _ hv
          · cases h
  · cases h

theorem Numeral.ofSpelling_ok {s : String} {n : Numeral} (h : Numeral.ofSpelling s = .ok n) : n.Proper := by
  unfold Numeral.ofSpelling at h
  simp only at h
  split at h
  · cases h
  · split at h
    · split at h
      · cases h
      · next hn =>
        cases h
        exact readNumeral_ok hn
      · cases h
    · cases h

/-- The object with at least one member, from its first key on: marked or not, it is lawful if what its marks decode to
is and if its values are. -/
theorem readEntries_lawful {unquote : String → Except Fault Value} (hu : ∀ s v, unquote s = .ok v → v.Lawful)
    {item : Text → Taken Value} (hitem : ∀ t v rest, item t = .ok (v, rest) → v.Lawful) {room : Nat} {key : String}
    {t after rest : Text} {v : Value}
    (h : (if key = numberKey then
        readMarked "string containing a number" (fun s => (Numeral.ofSpelling s).map .number) after
      else if key = quoteKey then readMarked "raw value" unquote after
      else (readMembers item room true [] t).map fun (members, rest) => (Value.object (collapse members), rest)) =
        .ok (v, rest)) :
    v.Lawful := by
  by_cases hnumber : key = numberKey
  · rw [if_pos hnumber] at h
    refine readMarked_ok (fun s v hs => ?_) h
    obtain ⟨n, hn, hv⟩ := exists_of_map_eq_ok hs
    cases hv
    exact .number (Numeral.ofSpelling_ok hn)
  rw [if_neg hnumber] at h
  by_cases hquote : key = quoteKey
  · rw [if_pos hquote] at h
    exact readMarked_ok hu h
  rw [if_neg hquote] at h
  obtain ⟨_, hmembers, hv⟩ := exists_of_map_eq_ok h
  cases hv
  exact .collapse (readMembers_ok hitem room hmembers fun _ h => absurd h List.not_mem_nil)

/-- **A value that has been read is lawful** if what is read from quoted texts is. -/
theorem readValue_lawful {unquote : String → Except Fault Value} (hu : ∀ s v, unquote s = .ok v → v.Lawful)
    (room : Nat) :
    ∀ {depth : Nat} {t rest : Text} {v : Value}, readValue unquote room depth t = .ok (v, rest) → v.Lawful := by
  intro depth
  induction depth using Nat.strongRecOn with
  | ind depth ih =>
    intro t rest v h
    rw [readValue] at h
    split at h
    · cases h
    · next s after _ =>
      by_cases hn : s = .char 'n'
      · rw [if_pos hn] at h
        obtain ⟨_, -, hv⟩ := exists_of_map_eq_ok h
        cases hv
        exact .null
      rw [if_neg hn] at h
      by_cases ht : s = .char 't'
      · rw [if_pos ht] at h
        obtain ⟨_, -, hv⟩ := exists_of_map_eq_ok h
        cases hv
        exact .bool true
      rw [if_neg ht] at h
      by_cases hf : s = .char 'f'
      · rw [if_pos hf] at h
        obtain ⟨_, -, hv⟩ := exists_of_map_eq_ok h
        cases hv
        exact .bool false
      rw [if_neg hf] at h
      by_cases hnum : startsNumber s
      · rw [if_pos hnum] at h
        obtain ⟨_, hread, hv⟩ := exists_of_map_eq_ok h
        cases hv
        exact .number (readNumeral_ok hread)
      rw [if_neg hnum] at h
      by_cases hq : s = .char '"'
      · rw [if_pos hq] at h
        obtain ⟨_, -, hv⟩ := exists_of_map_eq_ok h
        cases hv
        exact .string _
      rw [if_neg hq] at h
      by_cases hlist : s = .char '['
      · rw [if_pos hlist] at h
        cases depth with
        | zero => cases h
        | succ depth =>
          obtain ⟨_, hitems, hv⟩ := exists_of_map_eq_ok h
          cases hv
          exact .array (readItems_ok (fun _ _ _ => ih depth (Nat.lt_succ_self depth)) room hitems
            fun _ h => absurd h List.not_mem_nil)
      rw [if_neg hlist] at h
      by_cases hobject : s = .char '{'
      · rw [if_pos hobject] at h
        cases depth with
        | zero => cases h
        | succ depth =>
          cases hkey : nextKey true after with
          | error f =>
            rw [hkey] at h
            cases h
          | ok next =>
            obtain ⟨key, after'⟩ := next
            rw [hkey] at h
            cases key with
            | none =>
              cases h
              exact .object List.nodup_nil fun _ h => absurd h List.not_mem_nil
            | some key =>
              exact readEntries_lawful hu (fun _ _ _ => ih depth (Nat.lt_succ_self depth)) h
      rw [if_neg hobject] at h
      cases h

theorem readWholeText_ok {α : Type} {P : α → Prop} {read : Text → Taken α}
    (hread : ∀ t a rest, read t = .ok (a, rest) → P a) {t : Text} {a : α} (h : readWholeText read t = .ok a) : P a := by
  unfold readWholeText at h
  split at h
  · cases h
  · next ha =>
    split at h
    · cases h
      exact hread _ _ _ ha
    · cases h

/-- What a quoted text stands for, where at most `layers` quoted texts stand inside each other. -/
def unquoteWithin : (layers : Nat) → String → Except Fault Value
  | 0, _ => .error (faultHere .endInValue [])
  | layers + 1, s => (readQuoted layers (Text.ofString s)).mapError (Fault.quoted (Text.ofString s))

theorem readQuoted_eq (layers : Nat) (t : Text) :
    readQuoted layers t = readWholeText (readValue (unquoteWithin layers) t.length depthLimit) t := by
  cases layers <;> rfl

theorem readQuoted_lawful_of {layers : Nat} (hu : ∀ s v, unquoteWithin layers s = .ok v → v.Lawful) {t : Text}
    {v : Value} (h : readQuoted layers t = .ok v) : v.Lawful := by
  rw [readQuoted_eq] at h
  exact readWholeText_ok (P := Value.Lawful) (fun _ _ _ => readValue_lawful hu _) h

theorem readQuoted_lawful (layers : Nat) :
    ∀ {t : Text} {v : Value}, readQuoted layers t = .ok v → v.Lawful := by
  induction layers with
  | zero =>
    intro t v h
    refine readQuoted_lawful_of (fun s v hs => ?_) h
    cases hs
  | succ layers ih =>
    intro t v h
    refine readQuoted_lawful_of (fun s v hs => ?_) h
    rw [unquoteWithin] at hs
    cases hq : readQuoted layers (Text.ofString s) with
    | error f =>
      rw [hq] at hs
      cases hs
    | ok w =>
      rw [hq] at hs
      cases hs
      exact ih hq

/-- **Every value that a text spells is lawful.** -/
theorem Value.read_lawful {t : Text} {v : Value} (h : Value.read t = .ok v) : v.Lawful := readQuoted_lawful _ h

/-! ## Building -/

mutual

/-- **Every value that is built is lawful.** -/
theorem Build.value_lawful : ∀ {b : Build} {v : Value}, b.value = .ok v → v.Lawful
  | .null, _, h => by
    cases h
    exact .null
  | .bool b, _, h => by
    cases h
    exact .bool b
  | .integer i, _, h => by
    cases h
    exact .number (proper_ofInt i)
  | .float bits, _, h => by
    rw [Build.value] at h
    split at h
    · next hn =>
      cases h
      exact .number (proper_ofValue (by decide) hn)
    · cases h
  | .string s, _, h => by
    cases h
    exact .string s
  | .timestamp .., _, h => by
    rw [Build.value] at h
    split at h
    · cases h
      exact .timestamp _
    · cases h
  | .array items, _, h => by
    obtain ⟨vs, hvs, hv⟩ := exists_of_map_eq_ok h
    cases hv
    exact .array (buildItems_lawful hvs)
  | .object entries, _, h => by
    obtain ⟨ms, hms, hv⟩ := exists_of_map_eq_ok h
    cases hv
    exact .collapse (buildMembers_lawful hms)
  | .text t, _, h => by
    rw [Build.value] at h
    split at h
    · next hr =>
      cases h
      exact Value.read_lawful hr
    · cases h

theorem buildItems_lawful : ∀ {bs : List Build} {vs : List Value}, buildItems bs = .ok vs → ∀ v ∈ vs, v.Lawful
  | [], _, h => by
    cases h
    exact fun v hv => nomatch hv
  | b :: bs, _, h => by
    rw [buildItems] at h
    split at h
    · cases h
    · next hb =>
      obtain ⟨vs, hvs, hv⟩ := exists_of_map_eq_ok h
      cases hv
      exact List.forall_mem_cons.2 ⟨Build.value_lawful hb, buildItems_lawful hvs⟩

theorem buildMembers_lawful :
    ∀ {es : List (String × Build)} {ms : List (String × Value)}, buildMembers es = .ok ms → ∀ m ∈ ms, m.2.Lawful
  | [], _, h => by
    cases h
    exact fun m hm => nomatch hm
  | (key, b) :: es, _, h => by
    rw [buildMembers] at h
    split at h
    · cases h
    · next hb =>
      obtain ⟨ms, hms, hv⟩ := exists_of_map_eq_ok h
      cases hv
      exact List.forall_mem_cons.2 ⟨Build.value_lawful hb, buildMembers_lawful hms⟩

end

end Json
end ConfigService
