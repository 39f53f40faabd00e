import Mathlib.Data.List.DropRight
import ConfigService.Proofs.Json.RoundTrip
import ConfigService.Proofs.Json.Syntax
/-!
# Tree — values are read, or passed over, as the tree says

A value of a known kind is read if its tree spells one (`toOption_readString` and so on), and any value at all is passed
over, to whatever depth it nests (`skipValue_text`).  That goes by induction on the tree: what the skipping of a value
does to the open brackets is nothing, and it takes no more rounds than the value has characters.
-/
namespace ConfigService
namespace Json

namespace Tree

/-- What holds of the leaves, and of a container if it holds of all values in it, holds of every tree. -/
@[elab_as_elim]
theorem induct {P : Tree → Prop} (null : P .null) (bool : ∀ b, P (.bool b)) (number : ∀ f, P (.number f))
    (string : ∀ s, P (.string s)) (array : ∀ gap items, (∀ p ∈ items, P p.value) → P (.array gap items))
    (object : ∀ gap members, (∀ m ∈ members, P m.value.value) → P (.object gap members)) (t : Tree) : P t :=
  @Tree.rec P (fun items => ∀ p ∈ items, P p.value) (fun members => ∀ m ∈ members, P m.value.value)
    (fun p => P p.value) (fun m => P m.value.value) null bool number string array object
    (fun _ h => absurd h List.not_mem_nil) (fun _ _ hp hps => List.forall_mem_cons.2 ⟨hp, hps⟩)
    (fun _ h => absurd h List.not_mem_nil) (fun _ _ hm hms => List.forall_mem_cons.2 ⟨hm, hms⟩)
    (fun _ _ _ h => h) (fun _ _ _ _ h => h) t

theorem itemTexts_eq_map : ∀ items : List (Padded Tree), itemTexts items = items.map Padded.text
  | [] => rfl
  | p :: items => by
    rw [itemTexts, itemTexts_eq_map items]
    rfl

theorem memberTexts_eq_map : ∀ members : List (Member Tree), memberTexts members = members.map Member.text
  | [] => rfl
  | m :: members => by
    rw [memberTexts, memberTexts_eq_map members]
    rfl

/-- A value begins with a character that is no blank and closes nothing, and only `null` begins with an `n`. -/
theorem exists_text_eq_cons (t : Tree) :
    ∃ c cs, t.text = c :: cs ∧ isGap (.char c) = false ∧ c ≠ ']' ∧ c ≠ '}' ∧ (t ≠ .null → c ≠ 'n') := by
  cases t with
  | null => exact ⟨'n', _, rfl, rfl, by decide, by decide, fun h => absurd rfl h⟩
  | bool b =>
    cases b with
    | false => exact ⟨'f', _, rfl, rfl, by decide, by decide, fun _ => by decide⟩
    | true => exact ⟨'t', _, rfl, rfl, by decide, by decide, fun _ => by decide⟩
  | number f =>
    obtain ⟨c, cs, hcs, hc⟩ := f.exists_text_eq_cons
    refine ⟨c, cs, hcs, isGap_of_startsNumber hc, ?_, ?_, fun _ => ?_⟩ <;>
    · rintro rfl
      exact absurd hc (by decide)
  | string s => exact ⟨'"', _, rfl, rfl, by decide, by decide, fun _ => by decide⟩
  | array => exact ⟨'[', _, rfl, rfl, by decide, by decide, fun _ => by decide⟩
  | object => exact ⟨'{', _, rfl, rfl, by decide, by decide, fun _ => by decide⟩

theorem skipGap_value (t : Tree) (rest : Text) :
    skipGap (Text.ofChars t.text ++ rest) = Text.ofChars t.text ++ rest := by
  obtain ⟨c, cs, hcs, hc, -⟩ := t.exists_text_eq_cons
  rw [hcs, Text.ofChars_cons, List.cons_append, skipGap_cons hc]

end Tree

/-! ## Values of a known kind -/

/-- A reader takes what a tree spells, whatever blanks stand before it, and nothing else. -/
def ReadsTree {ε α : Type} (read : Text → Except ε (α × Text)) (spelled? : Tree → Option α) : Prop :=
  ∀ (gap : Gap) (t : Tree) (rest : Text), EndsNumeral rest →
    (read (Text.ofChars gap.text ++ (Text.ofChars t.text ++ rest))).toOption = (spelled? t).map (·, rest)

theorem startsNumber_ne_quote {c : Char} (h : startsNumber (.char c) = true) : Symbol.char c ≠ .char '"' := by
  intro heq
  cases heq
  exact absurd h (by decide)

theorem readString_readsTree : ReadsTree readString Tree.string? := by
  intro gap t rest hrest
  rw [readString, skipGap_text, t.skipGap_value]
  cases t with
  | string s => exact toOption_readLiteral s rest
  | number f =>
    obtain ⟨c, cs, hcs, hc⟩ := f.exists_text_eq_cons
    rw [Tree.text, hcs, Text.ofChars_cons, List.cons_append]
    simp only [if_neg (startsNumber_ne_quote hc)]
    rfl
  | bool b => cases b <;> rfl
  | _ => rfl

theorem readBool_readsTree : ReadsTree readBool Tree.bool? := by
  intro gap t rest hrest
  rw [readBool, skipGap_text, t.skipGap_value]
  cases t with
  | bool b => cases b <;> rfl
  | number f =>
    obtain ⟨c, cs, hcs, hc⟩ := f.exists_text_eq_cons
    have ht : Symbol.char c ≠ .char 't' := by
      intro heq
      cases heq
      exact absurd hc (by decide)
    have hf : Symbol.char c ≠ .char 'f' := by
      intro heq
      cases heq
      exact absurd hc (by decide)
    rw [Tree.text, hcs, Text.ofChars_cons, List.cons_append]
    simp only [if_neg ht, if_neg hf]
    rfl
  | _ => rfl

theorem toOption_countOf (f : Figure) (rest : Text) : (countOf f.numeral rest).toOption = f.count? := by
  refine Option.ext fun size => ?_
  rw [toOption_eq_some_iff, countOf_eq_ok_iff, Figure.count?, Numeral.word?, ofDigitsBelow?_eq (by decide)]
  simp only [Option.ite_none_right_eq_some, Option.some.injEq]
  constructor
  · rintro ⟨⟨hfraction, hexponent⟩, hsign, m, ⟨hlt, rfl⟩, rfl⟩
    exact ⟨⟨hsign, hfraction, hexponent, hlt⟩, rfl⟩
  · rintro ⟨⟨hsign, hfraction, hexponent, hlt⟩, rfl⟩
    exact ⟨⟨hfraction, hexponent⟩, hsign, _, ⟨hlt, rfl⟩, rfl⟩

theorem readCount_readsTree : ReadsTree readCount Tree.count? := by
  intro gap t rest hrest
  rw [readCount, skipGap_text, t.skipGap_value]
  cases t with
  | number f =>
    have hread := f.readNumeral_text .asked hrest
    obtain ⟨c, cs, hcs, hc⟩ := f.exists_text_eq_cons
    rw [Tree.text]
    rw [hcs, Text.ofChars_cons, List.cons_append] at hread ⊢
    simp only [if_pos hc, hread]
    rw [toOption_map, toOption_countOf]
    rfl
  | bool b => cases b <;> rfl
  | _ => rfl

theorem readTimestamp_readsTree : ReadsTree readTimestamp Tree.timestamp? := by
  intro gap t rest hrest
  have hstring := readString_readsTree gap t rest hrest
  rw [readTimestamp, Tree.timestamp?]
  cases hs : t.string? with
  | none =>
    rw [hs] at hstring
    obtain ⟨f, hf⟩ := exists_error_of_toOption hstring
    rw [hf]
    rfl
  | some s =>
    rw [hs] at hstring
    rw [toOption_eq_some_iff.1 hstring]
    simp only [Option.bind_some]
    cases Timestamp.read s.toList <;> rfl

theorem plainly_readsTree {α : Type} {read : Text → Taken α} {spelled? : Tree → Option α} (h : ReadsTree read spelled?) :
    ReadsTree (plainly read) spelled? := by
  intro gap t rest hrest
  rw [← h gap t rest hrest, plainly]
  split <;> next heq => rw [heq]; rfl

theorem toOption_readOptional {α : Type} (read : Text → FieldTaken α) {t cs : Text} {c : Char}
    (ht : skipGap t = .char c :: cs) (hc : c ≠ 'n') :
    (readOptional read t).toOption = (read (.char c :: cs)).toOption.map fun (a, rest) => (some a, rest) := by
  rw [readOptional, ht]
  split
  · next heq =>
    cases heq
    exact absurd rfl hc
  · split <;> next heq => rw [heq]; rfl

theorem readOptional_readsTree {α : Type} {read : Text → FieldTaken α} {spelled? : Tree → Option α}
    (h : ReadsTree read spelled?) : ReadsTree (readOptional read) (Tree.optional? spelled?) := by
  intro gap t rest hrest
  by_cases hnull : t = .null
  · subst hnull
    rw [readOptional, skipGap_text]
    rfl
  · have hvalue : Tree.optional? spelled? t = (spelled? t).map some := by
      cases t <;> first | rfl | exact absurd rfl hnull
    have hread := h [] t rest hrest
    have hskip := t.skipGap_value rest
    obtain ⟨c, cs, hcs, -, -, -, hn⟩ := t.exists_text_eq_cons
    rw [hcs, Text.ofChars_cons, List.cons_append] at hskip hread ⊢
    rw [toOption_readOptional read ((skipGap_text gap _).trans hskip) (hn hnull), hvalue]
    rw [Gap.text, List.map_nil, Text.ofChars_nil, List.nil_append] at hread
    rw [hread]
    cases spelled? t <;> rfl

/-! ## Values that are passed over

Items of a list and members of an object are taken alike from where they begin: a key goes first or none does. -/

theorem passScalar_figure (f : Figure) {c : Char} {cs : List Char} (hcs : f.text = c :: cs)
    (hc : startsNumber (.char c) = true) {rest : Text} (hrest : EndsNumeral rest) :
    passScalar (.char c) (Text.ofChars cs ++ rest) = .ok rest := by
  have hread := f.readNumeral_text .passed hrest
  rw [hcs, Text.ofChars_cons, List.cons_append] at hread
  have hne : ∀ d ∈ ['n', 't', 'f'], Symbol.char c ≠ .char d := by
    intro d hd heq
    cases heq
    revert hc
    simp only [List.mem_cons, List.not_mem_nil, or_false] at hd
    rcases hd with rfl | rfl | rfl <;> decide
  rw [passScalar, if_neg (hne 'n' (by decide)), if_neg (hne 't' (by decide)), if_neg (hne 'f' (by decide)), if_pos hc,
    hread]
  rfl

/-- Goes on with the value of the next item in brackets. -/
def enter (b : Bracket) (room : Nat) (enclosing : List Bracket) (t : Text) : Except Fault Text :=
  match passKey b t with
  | .error f => .error f
  | .ok rest => skipFrom room false (b :: enclosing) rest

theorem skipFrom_skipGap (room : Nat) (enclosing : List Bracket) (t : Text) :
    skipFrom room false enclosing (skipGap t) = skipFrom room false enclosing t := by
  have hidem : skipGap (skipGap t) = skipGap t := List.dropWhile_idempotent isGap t
  cases room with
  | zero => rfl
  | succ room => rw [skipFrom, skipFrom, hidem]

theorem skipFrom_gap (room : Nat) (b : Bracket) (enclosing : List Bracket) (gap : Gap) (t : Text) :
    skipFrom room true (b :: enclosing) (Text.ofChars gap.text ++ t) = skipFrom room true (b :: enclosing) t := by
  cases room with
  | zero => rfl
  | succ room => rw [skipFrom, skipFrom, skipGap_text]

theorem enter_skipGap (b : Bracket) (room : Nat) (enclosing : List Bracket) (t : Text) :
    enter b room enclosing (skipGap t) = enter b room enclosing t := by
  have hidem : skipGap (skipGap t) = skipGap t := List.dropWhile_idempotent isGap t
  cases b with
  | list => exact skipFrom_skipGap room _ t
  | object => rw [enter, enter, passKey, passKey, hidem]

/-- A value is passed over in no more rounds than it has characters. -/
def Skipped (t : Tree) : Prop :=
  ∃ n ≤ t.text.length, ∀ room enclosing rest, EndsNumeral rest →
    skipFrom (room + n) false enclosing (Text.ofChars t.text ++ rest) = skipFrom room true enclosing rest

/-- So is an item in brackets. -/
def SkippedIn (b : Bracket) (cs : List Char) : Prop :=
  ∃ n ≤ cs.length, ∀ room enclosing rest, EndsNumeral rest →
    enter b (room + n) enclosing (Text.ofChars cs ++ rest) = skipFrom room true (b :: enclosing) rest

theorem exists_skipFrom_padded {p : Padded Tree} (h : Skipped p.value) :
    ∃ n ≤ p.text.length, ∀ room b enclosing rest, EndsNumeral rest →
      skipFrom (room + n) false (b :: enclosing) (Text.ofChars p.text ++ rest) = skipFrom room true (b :: enclosing) rest := by
  obtain ⟨n, hn, hskip⟩ := h
  refine ⟨n, ?_, fun room b enclosing rest hrest => ?_⟩
  · simp only [Padded.text, around, List.length_append]
    omega
  · rw [Padded.text, around, Text.ofChars_append, Text.ofChars_append, List.append_assoc, List.append_assoc,
      ← skipFrom_skipGap, skipGap_text, skipFrom_skipGap, hskip room _ _ (endsNumeral_text _ hrest), skipFrom_gap]

theorem skippedIn_item {p : Padded Tree} (h : Skipped p.value) : SkippedIn .list p.text := by
  obtain ⟨n, hn, hskip⟩ := exists_skipFrom_padded h
  exact ⟨n, hn, fun room => hskip room .list⟩

theorem passKey_keyed (before : Gap) (key : Spelled) (middle : Gap) (text : List Char) (rest : Text) :
    passKey .object (Text.ofChars (keyed before key middle text) ++ rest) = .ok (Text.ofChars text ++ rest) := by
  have hkey := passLiteral_body key (Text.ofChars (middle.text ++ ':' :: text) ++ rest)
  simp only [keyed, Spelled.text, Text.ofChars_append, Text.ofChars_cons, List.append_assoc, List.cons_append] at hkey ⊢
  rw [passKey, skipGap_text, skipGap_cons rfl]
  simp only [hkey, if_true]
  rw [readColon, skipGap_text]
  rfl

theorem skippedIn_member {m : Member Tree} (h : Skipped m.value.value) : SkippedIn .object m.text := by
  obtain ⟨n, hn, hskip⟩ := exists_skipFrom_padded h
  refine ⟨n, ?_, fun room enclosing rest hrest => ?_⟩
  · simp only [Member.text, keyed, List.length_append, List.length_cons]
    omega
  · rw [Member.text, enter, passKey_keyed]
    exact hskip room .object enclosing rest hrest

theorem close_mem (b : Bracket) : ∃ c, b.close = .char c ∧ c ∈ [',', ']', '}'] := by
  cases b <;> exact ⟨_, rfl, by decide⟩

/-- The items after the first are passed over, each with the comma before it, and the bracket is closed. -/
theorem exists_skipFrom_flatMap (b : Bracket) : ∀ {texts : List (List Char)}, (∀ cs ∈ texts, SkippedIn b cs) →
    ∃ n ≤ (texts.flatMap (',' :: ·)).length + 1, ∀ room enclosing rest,
      skipFrom (room + n) true (b :: enclosing) (Text.ofChars (texts.flatMap (',' :: ·)) ++ b.close :: rest) =
        skipFrom room true enclosing rest
  | [], _ => by
    refine ⟨1, Nat.le_refl 1, fun room enclosing rest => ?_⟩
    cases b <;> rfl
  | cs :: texts, h => by
    obtain ⟨hcs, htexts⟩ := List.forall_mem_cons.1 h
    obtain ⟨n, hn, henter⟩ := hcs
    obtain ⟨k, hk, hskip⟩ := exists_skipFrom_flatMap b htexts
    obtain ⟨c, hc, hmem⟩ := close_mem b
    refine ⟨k + n + 1, ?_, fun room enclosing rest => ?_⟩
    · simp only [List.flatMap_cons, List.length_append, List.length_cons]
      omega
    · have hends := endsNumeral_flatMap hmem texts rest
      rw [← hc] at hends
      have hstep := (henter (room + k) enclosing _ hends).trans (hskip room enclosing rest)
      rw [List.flatMap_cons, List.cons_append, Text.ofChars_cons, Text.ofChars_append, List.cons_append, List.append_assoc]
      rw [show room + (k + n + 1) = room + k + n + 1 by omega, skipFrom, skipGap_cons rfl]
      exact hstep

/-- The text of an item shows, after blanks, that it does not close the bracket it stands in. -/
def Begins (b : Bracket) (cs : List Char) : Prop :=
  ∀ rest, ∃ s tail, skipGap (Text.ofChars cs ++ rest) = s :: tail ∧ s ≠ b.close

/-- A container is passed over if its items are. -/
theorem exists_skipFrom_container {b : Bracket} {s : Symbol} (hs : opens? s = some b) (gap : Gap)
    {texts : List (List Char)} (h : ∀ cs ∈ texts, SkippedIn b cs ∧ Begins b cs) :
    ∃ n ≤ (commaSeparated texts).length + 2, ∀ room enclosing rest,
      skipFrom (room + n) false enclosing
          (s :: (Text.ofChars gap.text ++ (Text.ofChars (commaSeparated texts) ++ b.close :: rest))) =
        skipFrom room true enclosing rest := by
  have hgap : isGap s = false := by
    cases hg : isGap s with
    | false => rfl
    | true =>
      simp only [isGap, Bool.or_eq_true, decide_eq_true_eq] at hg
      rcases hg with ((rfl | rfl) | rfl) | rfl <;> cases hs
  cases texts with
  | nil =>
    refine ⟨1, by simp, fun room enclosing rest => ?_⟩
    rw [skipFrom, skipGap_cons hgap]
    simp only [hs, skipGap_text]
    cases b <;> rfl
  | cons cs texts =>
    obtain ⟨⟨⟨n, hn, henter⟩, hbegins⟩, htexts⟩ := List.forall_mem_cons.1 h
    obtain ⟨k, hk, hskip⟩ := exists_skipFrom_flatMap b fun cs hcs => (htexts cs hcs).1
    obtain ⟨c, hc, hmem⟩ := close_mem b
    refine ⟨k + n + 1, ?_, fun room enclosing rest => ?_⟩
    · simp only [Value.commaSeparated_cons, List.length_append]
      omega
    · have hends := endsNumeral_flatMap hmem texts rest
      rw [← hc] at hends
      have hstep := (henter (room + k) enclosing _ hends).trans (hskip room enclosing rest)
      obtain ⟨s', tail, htail, hne⟩ := hbegins (Text.ofChars (texts.flatMap (',' :: ·)) ++ b.close :: rest)
      rw [← enter_skipGap, htail, enter] at hstep
      rw [Value.commaSeparated_cons, Text.ofChars_append, List.append_assoc]
      rw [show room + (k + n + 1) = room + k + n + 1 by omega, skipFrom, skipGap_cons hgap]
      simp only [hs, skipGap_text, htail, if_neg hne]
      exact hstep

theorem begins_item (p : Padded Tree) : Begins .list p.text := by
  intro rest
  have hskip := p.value.skipGap_value (Text.ofChars p.after.text ++ rest)
  obtain ⟨c, cs, hcs, -, hlist, -⟩ := p.value.exists_text_eq_cons
  refine ⟨.char c, Text.ofChars cs ++ (Text.ofChars p.after.text ++ rest), ?_, fun h => hlist (Symbol.char.inj h)⟩
  rw [Padded.text, around, Text.ofChars_append, Text.ofChars_append, List.append_assoc, List.append_assoc, skipGap_text,
    hskip, hcs, Text.ofChars_cons, List.cons_append]

theorem begins_member (m : Member Tree) : Begins .object m.text := by
  intro rest
  simp only [Member.text, keyed, Spelled.text, Text.ofChars_append, Text.ofChars_cons, List.append_assoc, List.cons_append,
    skipGap_text]
  exact ⟨_, _, skipGap_cons rfl _, by decide⟩

theorem opens?_of_startsNumber {s : Symbol} (h : startsNumber s = true) : opens? s = none := by
  unfold opens?
  split
  · next heq =>
    subst heq
    exact absurd h (by decide)
  split
  · next heq =>
    subst heq
    exact absurd h (by decide)
  · rfl

/-- **Every value is passed over.**  The rounds it takes are counted so that those of the items add up within the room. -/
theorem skipped (t : Tree) : Skipped t := by
  induction t using Tree.induct with
  | null => exact ⟨1, by decide, fun room enclosing rest _ => rfl⟩
  | bool b =>
    refine ⟨1, ?_, fun room enclosing rest _ => ?_⟩ <;> cases b <;> first | decide | rfl
  | number f =>
    obtain ⟨c, cs, hcs, hc⟩ := f.exists_text_eq_cons
    refine ⟨1, ?_, fun room enclosing rest hrest => ?_⟩
    · rw [Tree.text, hcs]
      exact Nat.succ_le_succ (Nat.zero_le _)
    · have hpass := passScalar_figure f hcs hc hrest
      have hopens : opens? (.char c) = none := opens?_of_startsNumber hc
      rw [Tree.text, hcs, Text.ofChars_cons, List.cons_append, skipFrom, skipGap_cons (isGap_of_startsNumber hc)]
      simp only [hopens, hpass]
  | string s =>
    refine ⟨1, Nat.succ_le_succ (Nat.zero_le _), fun room enclosing rest hrest => ?_⟩
    have hpass := passLiteral_body s rest
    rw [Tree.text, Spelled.text, Text.ofChars_cons, List.cons_append, skipFrom, skipGap_cons rfl]
    have hscalar : passScalar (.char '"') (Text.ofChars s.body ++ rest) = .ok rest := hpass
    have hopens : opens? (.char '"') = none := rfl
    simp only [hopens, hscalar]
  | array gap items ih =>
    have hitems : ∀ cs ∈ items.map Padded.text, SkippedIn .list cs ∧ Begins .list cs := by
      intro cs hcs
      obtain ⟨p, hp, rfl⟩ := List.mem_map.1 hcs
      exact ⟨skippedIn_item (ih p hp), begins_item p⟩
    obtain ⟨n, hn, hskip⟩ := exists_skipFrom_container (b := .list) (s := .char '[') rfl gap hitems
    refine ⟨n, ?_, fun room enclosing rest _ => ?_⟩
    · rw [Tree.text, Tree.itemTexts_eq_map]
      simp only [List.length_cons, List.length_append]
      omega
    · rw [Tree.text, Tree.itemTexts_eq_map, ← hskip room enclosing rest]
      simp [Bracket.close]
  | object gap members ih =>
    have hmembers : ∀ cs ∈ members.map Member.text, SkippedIn .object cs ∧ Begins .object cs := by
      intro cs hcs
      obtain ⟨m, hm, rfl⟩ := List.mem_map.1 hcs
      exact ⟨skippedIn_member (ih m hm), begins_member m⟩
    obtain ⟨n, hn, hskip⟩ := exists_skipFrom_container (b := .object) (s := .char '{') rfl gap hmembers
    refine ⟨n, ?_, fun room enclosing rest _ => ?_⟩
    · rw [Tree.text, Tree.memberTexts_eq_map]
      simp only [List.length_cons, List.length_append]
      omega
    · rw [Tree.text, Tree.memberTexts_eq_map, ← hskip room enclosing rest]
      simp [Bracket.close]

theorem skipValue_text {room : Nat} (gap : Gap) (t : Tree) (hroom : t.text.length ≤ room) {rest : Text}
    (hrest : EndsNumeral rest) :
    skipValue room (Text.ofChars gap.text ++ (Text.ofChars t.text ++ rest)) = .ok rest := by
  obtain ⟨n, hn, hskip⟩ := skipped t
  have hsplit : room + 1 = (room - n) + 1 + n := by omega
  rw [skipValue, ← skipFrom_skipGap, skipGap_text, skipFrom_skipGap, hsplit, hskip _ [] rest hrest]
  rfl

end Json
end ConfigService
