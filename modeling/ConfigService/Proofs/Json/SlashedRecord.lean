import ConfigService.Json.Record
import ConfigService.Proofs.Json.Scalar
import ConfigService.Proofs.Json.Slashed
/-!
# SlashedRecord — records in slashed texts

A record's reader takes its fields one by one and passes over what it does not know.  If each field is read alike from a
slashed text then so is the record (`readRecord_follows`); the readers of the known kinds are.
-/
namespace ConfigService
namespace Json

/-! ## Values that are passed over -/

theorem passEscape_ok {t : Text} {n : Nat} (h : passEscape t = .ok n) : TakesPlain passEscape n t n := by
  unfold passEscape at h
  split at h
  · cases h
  · obtain ⟨⟨unit, after⟩, hunit, hn⟩ := exists_of_map_eq_ok h
    obtain ⟨v, rfl, hlength, hplain, hread⟩ := readUnit_ok hunit
    cases hn
    refine ⟨.char 'u' :: v, _, rfl, by simp [hlength], by simpa using hplain, fun rest' => ?_⟩
    rw [List.cons_append, passEscape, hread]
    rfl
  · next s rest hu =>
    split at h
    · next hshort =>
      cases h
      obtain ⟨c, hc⟩ := Option.isSome_iff_exists.1 hshort
      have hs := shortEscape?_ne hc
      refine ⟨[s], rest, rfl, rfl, by simpa using hs.1, fun rest' => ?_⟩
      rw [List.singleton_append]
      unfold passEscape
      split
      · next heq => cases heq
      · next heq =>
        cases heq
        exact absurd rfl hs.2
      · next heq =>
        cases heq
        exact if_pos hshort
    · cases h

theorem passLiteralFrom_follows (n : Nat) : ∀ {t u rest : Text}, t.length ≤ n → Slashed t u →
    passLiteralFrom 0 t = .ok rest → ∃ after, passLiteralFrom 0 u = .ok after ∧ Slashed rest after := by
  induction n with
  | zero =>
    intro t u rest hlength ht h
    cases t with
    | nil => cases h
    | cons => exact absurd hlength (Nat.not_succ_le_zero _)
  | succ n ih =>
    intro t u rest hlength ht h
    cases ht with
    | nil => cases h
    | @slash t u ht =>
      rw [passLiteralFrom_plain (by decide) (by decide) (by decide),
        passLiteralFrom_plain (by decide) (by decide) (by decide)] at h
      obtain ⟨after, hpass, hrest⟩ := ih (by simp at hlength; omega) ht h
      refine ⟨after, ?_, hrest⟩
      have hslash : passLiteralFrom 0 (.char '\\' :: .char '/' :: u) = passLiteralFrom 0 u :=
        passLiteralFrom_backslash (v := [.char '/']) rfl
      rw [passLiteralFrom_plain (by decide) (by decide) (by decide)]
      exact hslash.trans hpass
    | @cons c t u ht =>
      have htail : t.length ≤ n := by simpa using hlength
      cases c with
      | stray b =>
        rw [passLiteralFrom] at h ⊢
        exact ih htail ht h
      | char c =>
        by_cases hq : c = '"'
        · rw [passLiteralFrom_char, if_pos hq] at h ⊢
          cases h
          exact ⟨u, rfl, ht⟩
        by_cases hb : c = '\\'
        · rw [passLiteralFrom_char, if_neg hq, if_pos hb] at h
          cases hescape : passEscape t with
          | error f =>
            rw [hescape] at h
            cases h
          | ok k =>
            obtain ⟨v, t', rfl, hv, hplain, htakes⟩ := passEscape_ok hescape
            obtain ⟨u', rfl, hu⟩ := ht.of_append hplain
            rw [hescape] at h
            subst hb hv
            simp only [passLiteralFrom_skip] at h
            have hshorter : t'.length ≤ n := by
              rw [List.length_append] at htail
              omega
            obtain ⟨after, hpass, hrest⟩ := ih hshorter hu h
            refine ⟨after, ?_, hrest⟩
            rw [passLiteralFrom_backslash (htakes u'), hpass]
        by_cases hc : c.toNat < 0x20
        · rw [passLiteralFrom_char, if_neg hq, if_neg hb, if_pos hc] at h
          cases h
        rw [passLiteralFrom_plain hq hb hc] at h ⊢
        exact ih htail ht h

theorem passLiteral_follows : FollowsPast passLiteral passLiteral := fun _ _ _ ht h =>
  passLiteralFrom_follows _ (Nat.le_refl _) ht h

theorem passKey_follows (b : Bracket) : FollowsPast (passKey b) (passKey b) := by
  intro t u rest ht h
  cases b with
  | list =>
    cases h
    exact ⟨u, rfl, ht⟩
  | object =>
    rw [passKey] at h ⊢
    obtain ⟨hgap, -⟩ | ⟨s, tail, w, hgap, hgap', -, htail⟩ := ht.cases_gap
    · rw [hgap] at h
      cases h
    rw [hgap] at h
    rw [hgap']
    simp only at h ⊢
    by_cases hquote : s = .char '"'
    · rw [if_pos hquote] at h ⊢
      obtain ⟨f, hkey⟩ | ⟨after, after', hkey, hkey', hafter⟩ :=
        passLiteral_follows.cases (htail (by rw [hquote]; decide))
      · rw [hkey] at h
        cases h
      rw [hkey] at h
      rw [hkey']
      exact readColon_follows hafter h
    · rw [if_neg hquote] at h
      cases h

theorem passScalar_follows (s : Symbol) : FollowsPast (passScalar s) (passScalar s) := by
  intro t u rest ht h
  unfold passScalar at h ⊢
  by_cases hn : s = .char 'n'
  · rw [if_pos hn] at h ⊢
    exact readWord_follows (by decide) ht h
  rw [if_neg hn] at h ⊢
  by_cases htrue : s = .char 't'
  · rw [if_pos htrue] at h ⊢
    exact readWord_follows (by decide) ht h
  rw [if_neg htrue] at h ⊢
  by_cases hfalse : s = .char 'f'
  · rw [if_pos hfalse] at h ⊢
    exact readWord_follows (by decide) ht h
  rw [if_neg hfalse] at h ⊢
  by_cases hnumber : startsNumber s
  · rw [if_pos hnumber] at h ⊢
    obtain ⟨⟨n, rest'⟩, hread, heq⟩ := exists_of_map_eq_ok h
    obtain ⟨after, hread', hrest⟩ := readNumeral_follows .passed (ht.cons s) hread
    cases heq
    exact ⟨after, by rw [hread']; rfl, hrest⟩
  rw [if_neg hnumber] at h ⊢
  by_cases hquote : s = .char '"'
  · rw [if_pos hquote] at h ⊢
    exact passLiteral_follows ht h
  · rw [if_neg hquote] at h
    cases h

theorem passScalar_ne {s : Symbol} {t rest : Text} (h : passScalar s t = .ok rest) : s ≠ .char '<' := by
  rintro rfl
  cases h

theorem opens?_ne {s : Symbol} {b : Bracket} (h : opens? s = some b) : s ≠ .char '<' := by
  rintro rfl
  cases h

theorem close_ne (b : Bracket) : b.close ≠ .char '<' := by cases b <;> decide

/-- **A value is passed over alike**, with no less room. -/
theorem skipFrom_follows {room room' : Nat} (closed : Bool) (enclosing : List Bracket) (hroom : room ≤ room') :
    FollowsPast (skipFrom room closed enclosing) (skipFrom room' closed enclosing) := by
  induction room generalizing room' closed enclosing with
  | zero =>
    intro t u rest _ h
    cases h
  | succ room ih =>
    intro t u rest ht h
    obtain ⟨room', rfl⟩ := Nat.exists_eq_add_one_of_ne_zero (Nat.ne_zero_of_lt hroom)
    have ih := fun closed enclosing => ih closed enclosing (Nat.le_of_succ_le_succ hroom)
    cases closed with
    | true =>
      -- an item has just ended
      cases enclosing with
      | nil =>
        rw [skipFrom] at h
        cases h
        exact ⟨u, by rw [skipFrom], ht⟩
      | cons b enclosing =>
        rw [skipFrom] at h ⊢
        obtain ⟨hgap, -⟩ | ⟨s, tail, w, hgap, hgap', -, htail⟩ := ht.cases_gap
        · rw [hgap] at h
          cases h
        rw [hgap] at h
        rw [hgap']
        simp only at h ⊢
        by_cases hcomma : s = .char ','
        · rw [if_pos hcomma] at h ⊢
          obtain ⟨f, hkey⟩ | ⟨after, after', hkey, hkey', hafter⟩ :=
            (passKey_follows b).cases (htail (by rw [hcomma]; decide))
          · rw [hkey] at h
            cases h
          rw [hkey] at h
          rw [hkey']
          exact ih false (b :: enclosing) hafter h
        rw [if_neg hcomma] at h ⊢
        by_cases hclose : s = b.close
        · rw [if_pos hclose] at h ⊢
          exact ih true enclosing (htail (hclose ▸ close_ne b)) h
        · rw [if_neg hclose] at h
          cases h
    | false =>
      -- an item begins, and if it is a container its first item does too
      rw [skipFrom] at h ⊢
      obtain ⟨hgap, -⟩ | ⟨s, tail, w, hgap, hgap', -, htail⟩ := ht.cases_gap
      · rw [hgap] at h
        cases h
      rw [hgap] at h
      rw [hgap']
      simp only at h ⊢
      cases hopens : opens? s with
      | none =>
        rw [hopens] at h
        simp only at h ⊢
        cases hscalar : passScalar s tail with
        | error f =>
          rw [hscalar] at h
          cases h
        | ok after =>
          obtain ⟨after', hscalar', hafter⟩ := passScalar_follows s (htail (passScalar_ne hscalar)) hscalar
          rw [hscalar] at h
          rw [hscalar']
          exact ih true enclosing hafter h
      | some b =>
        have htail := htail (opens?_ne hopens)
        rw [hopens] at h
        simp only at h ⊢
        obtain ⟨hgap₂, -⟩ | ⟨s₂, tail₂, w₂, hgap₂, hgap₂', hsame₂, htail₂⟩ := htail.cases_gap
        · rw [hgap₂] at h
          cases h
        rw [hgap₂] at h
        rw [hgap₂']
        simp only at h ⊢
        by_cases hclose : s₂ = b.close
        · rw [if_pos hclose] at h ⊢
          exact ih true enclosing (htail₂ (hclose ▸ close_ne b)) h
        rw [if_neg hclose] at h ⊢
        obtain ⟨f, hkey⟩ | ⟨after, after', hkey, hkey', hafter⟩ := (passKey_follows b).cases hsame₂
        · rw [hkey] at h
          cases h
        rw [hkey] at h
        rw [hkey']
        exact ih false (b :: enclosing) hafter h

theorem skipValue_follows {room room' : Nat} (hroom : room ≤ room') : FollowsPast (skipValue room) (skipValue room') :=
  skipFrom_follows false [] (Nat.succ_le_succ hroom)

/-! ## Records -/

section Records

variable {σ : Type} {shape : Shape σ}

theorem slot?_mem {key : String} {slot : Slot σ} (h : shape.slot? key = some slot) : slot ∈ shape.slots :=
  List.mem_of_find?_eq_some h

theorem readFields_follows (hslots : ∀ slot ∈ shape.slots, ∀ draft, Follows (slot.fill draft) (slot.fill draft))
    {length length' : Nat} (hlength : length ≤ length') {room room' : Nat} (first : Bool) (draft : σ)
    (hroom : room ≤ room') :
    Follows (readFields shape length room first draft) (readFields shape length' room' first draft) := by
  induction room generalizing room' first draft with
  | zero =>
    intro t u d rest _ h
    cases h
  | succ room ih =>
    intro t u d rest ht h
    obtain ⟨room', rfl⟩ := Nat.exists_eq_add_one_of_ne_zero (Nat.ne_zero_of_lt hroom)
    have ih := fun draft => ih false draft (Nat.le_of_succ_le_succ hroom)
    rw [readFields] at h ⊢
    obtain ⟨f, hnext⟩ | ⟨key, t₁, u₁, hnext, hnext', ht₁⟩ := (nextKey_follows first).cases ht
    · rw [hnext] at h
      cases h
    rw [hnext] at h
    rw [hnext']
    cases key with
    | none =>
      simp only at h ⊢
      cases hmissing : shape.missing? draft with
      | some name =>
        rw [hmissing] at h
        cases h
      | none =>
        rw [hmissing] at h
        cases h
        exact ⟨u₁, rfl, ht₁⟩
    | some key =>
      simp only at h ⊢
      cases hslot : shape.slot? key with
      | none =>
        rw [hslot] at h
        simp only at h ⊢
        by_cases hstrict : shape.strict
        · rw [if_pos hstrict] at h
          cases h
        rw [if_neg hstrict] at h ⊢
        obtain ⟨f, hcolon⟩ | ⟨t₂, u₂, hcolon, hcolon', ht₂⟩ := readColon_follows.cases ht₁
        · rw [hcolon] at h
          cases h
        rw [hcolon] at h
        rw [hcolon']
        simp only at h ⊢
        obtain ⟨f, hskip⟩ | ⟨t₃, u₃, hskip, hskip', ht₃⟩ := (skipValue_follows hlength).cases ht₂
        · rw [hskip] at h
          cases h
        rw [hskip] at h
        rw [hskip']
        exact ih draft ht₃ h
      | some slot =>
        rw [hslot] at h
        simp only at h ⊢
        by_cases hfilled : slot.isFilled draft
        · rw [if_pos hfilled] at h
          cases h
        rw [if_neg hfilled] at h ⊢
        obtain ⟨f, hcolon⟩ | ⟨t₂, u₂, hcolon, hcolon', ht₂⟩ := readColon_follows.cases ht₁
        · rw [hcolon] at h
          cases h
        rw [hcolon] at h
        rw [hcolon']
        simp only at h ⊢
        obtain ⟨f, hfill⟩ | ⟨draft', t₃, u₃, hfill, hfill', ht₃⟩ := (hslots slot (slot?_mem hslot) draft).cases ht₂
        · rw [hfill] at h
          cases h
        rw [hfill] at h
        rw [hfill']
        exact ih draft' ht₃ h

theorem readList_follows : ∀ {slots : List (Slot σ)}, (∀ slot ∈ slots, ∀ draft, Follows (slot.fill draft) (slot.fill draft)) →
    ∀ (index : Nat) (draft : σ), Follows (readList shape index slots draft) (readList shape index slots draft) := by
  intro slots hslots
  induction slots with
  | nil =>
    intro index draft t u d rest ht h
    cases h
    exact ⟨u, rfl, ht⟩
  | cons slot slots ih =>
    obtain ⟨hslot, hslots⟩ := List.forall_mem_cons.1 hslots
    intro index draft t u d rest ht h
    rw [readList] at h ⊢
    obtain ⟨f, hnext⟩ | ⟨more, t₁, u₁, hnext, hnext', ht₁⟩ := (nextItem_follows _).cases ht
    · rw [hnext] at h
      cases h
    rw [hnext] at h
    rw [hnext']
    cases more with
    | false => cases h
    | true =>
      simp only at h ⊢
      obtain ⟨f, hfill⟩ | ⟨draft', t₂, u₂, hfill, hfill', ht₂⟩ := (hslot draft).cases ht₁
      · rw [hfill] at h
        cases h
      rw [hfill] at h
      rw [hfill']
      exact ih hslots (index + 1) draft' ht₂ h

theorem endList_follows : FollowsPast endList endList := by
  intro t u rest ht h
  unfold endList at h ⊢
  obtain ⟨hgap, -⟩ | ⟨s, tail, w, hgap, hgap', -, htail⟩ := ht.cases_gap
  · rw [hgap] at h
    cases h
  rw [hgap] at h
  rw [hgap']
  simp only at h ⊢
  by_cases hclose : s = .char ']'
  · rw [if_pos hclose] at h ⊢
    cases h
    exact ⟨w, rfl, htail (by rw [hclose]; decide)⟩
  rw [if_neg hclose] at h
  split at h
  · split at h <;> cases h
  · cases h

/-- **A record is read alike** if its fields are. -/
theorem readRecord_follows (hslots : ∀ slot ∈ shape.slots, ∀ draft, Follows (slot.fill draft) (slot.fill draft)) :
    Follows (readRecord shape) (readRecord shape) := by
  intro t u d rest ht h
  unfold readRecord at h ⊢
  obtain ⟨hgap, -⟩ | ⟨s, tail, w, hgap, hgap', -, htail⟩ := ht.cases_gap
  · rw [hgap] at h
    cases h
  rw [hgap] at h
  rw [hgap']
  simp only at h ⊢
  by_cases hobject : s = .char '{'
  · rw [if_pos hobject] at h ⊢
    exact readFields_follows hslots ht.length_le true shape.empty ht.length_le (htail (by rw [hobject]; decide)) h
  rw [if_neg hobject] at h ⊢
  by_cases hlist : s = .char '['
  · rw [if_pos hlist] at h ⊢
    obtain ⟨f, hfields⟩ | ⟨draft, t₁, u₁, hfields, hfields', ht₁⟩ :=
      (readList_follows hslots 0 shape.empty).cases (htail (by rw [hlist]; decide))
    · rw [hfields] at h
      cases h
    rw [hfields] at h
    rw [hfields']
    obtain ⟨rest', hend, heq⟩ := exists_of_map_eq_ok h
    obtain ⟨after, hend', hrest⟩ := endList_follows ht₁ hend
    cases heq
    exact ⟨after, by simp only [hend']; rfl, hrest⟩
  · rw [if_neg hlist] at h
    cases h

end Records

/-! ## Values of a known kind -/

theorem readString_follows : Follows readString readString := by
  intro t u s rest ht h
  unfold readString at h ⊢
  obtain ⟨hgap, -⟩ | ⟨s, tail, w, hgap, hgap', -, htail⟩ := ht.cases_gap
  · rw [hgap] at h
    cases h
  rw [hgap] at h
  rw [hgap']
  simp only at h ⊢
  by_cases hquote : s = .char '"'
  · rw [if_pos hquote] at h ⊢
    exact readLiteral_follows (htail (by rw [hquote]; decide)) h
  · rw [if_neg hquote] at h
    cases h

theorem readBool_follows : Follows readBool readBool := by
  intro t u b rest ht h
  unfold readBool at h ⊢
  obtain ⟨hgap, -⟩ | ⟨s, tail, w, hgap, hgap', -, htail⟩ := ht.cases_gap
  · rw [hgap] at h
    cases h
  rw [hgap] at h
  rw [hgap']
  simp only at h ⊢
  by_cases htrue : s = .char 't'
  · rw [if_pos htrue] at h ⊢
    exact word_follows (by decide) true (htail (by rw [htrue]; decide)) h
  rw [if_neg htrue] at h ⊢
  by_cases hfalse : s = .char 'f'
  · rw [if_pos hfalse] at h ⊢
    exact word_follows (by decide) false (htail (by rw [hfalse]; decide)) h
  · rw [if_neg hfalse] at h
    cases h

theorem readCount_follows : Follows readCount readCount := by
  intro t u n rest ht h
  unfold readCount at h ⊢
  obtain ⟨hgap, -⟩ | ⟨s, tail, w, hgap, hgap', hsame, -⟩ := ht.cases_gap
  · rw [hgap] at h
    cases h
  rw [hgap] at h
  rw [hgap']
  simp only at h ⊢
  by_cases hnumber : startsNumber s
  · rw [if_pos hnumber] at h ⊢
    obtain ⟨f, hread⟩ | ⟨numeral, after, after', hread, hread', hafter⟩ := (readNumeral_follows .asked).cases hsame
    · rw [hread] at h
      cases h
    rw [hread] at h
    rw [hread']
    obtain ⟨size, hcount, heq⟩ := exists_of_map_eq_ok h
    cases heq
    exact ⟨after', by simp only [countOf_eq_ok_iff.2 (countOf_eq_ok_iff.1 hcount)]; rfl, hafter⟩
  · rw [if_neg hnumber] at h
    cases h

theorem plainly_follows {α : Type} {read read' : Text → Taken α} (hread : Follows read read') :
    Follows (plainly read) (plainly read') := by
  intro t u a rest ht h
  unfold plainly at h
  split at h
  · next htaken =>
    cases h
    obtain ⟨after, htaken', hrest⟩ := hread ht htaken
    exact ⟨after, by simp only [plainly, htaken'], hrest⟩
  · cases h

theorem readOptional_follows {α : Type} {read read' : Text → FieldTaken α} (hread : Follows read read') :
    Follows (readOptional read) (readOptional read') := by
  intro t u a rest ht h
  unfold readOptional at h
  split at h
  · next rest' hgap =>
    have hskip := ht.skipGap
    rw [hgap] at hskip
    obtain ⟨w, hgap', hw⟩ := hskip.of_cons (by decide)
    split at h
    · next hword =>
      cases h
      obtain ⟨after, hword', hrest⟩ := readWord_follows (by decide) hw hword
      exact ⟨after, by simp only [readOptional, hgap', hword'], hrest⟩
    · cases h
  · next hnull =>
    split at h
    · next htaken =>
      cases h
      obtain ⟨after, htaken', hrest⟩ := hread ht.skipGap htaken
      refine ⟨after, ?_, hrest⟩
      unfold readOptional
      split
      · next hgap =>
        have hskip := ht.skipGap
        rw [hgap] at hskip
        obtain ⟨w, hw, -⟩ := hskip.to_cons (by decide)
        exact absurd hw (hnull w)
      · simp only [htaken']
    · cases h

theorem readTimestamp_follows : Follows readTimestamp readTimestamp := by
  intro t u stamp rest ht h
  unfold readTimestamp at h
  split at h
  · cases h
  · next hstring =>
    obtain ⟨after, hstring', hrest⟩ := readString_follows ht hstring
    split at h
    · next hstamp =>
      cases h
      exact ⟨after, by simp only [readTimestamp, hstring', hstamp], hrest⟩
    · cases h

end Json
end ConfigService
