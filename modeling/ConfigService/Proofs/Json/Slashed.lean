import ConfigService.Proofs.Json.Lawful
/-!
# Slashed — a backslash before a slash changes nothing that is read

In a JSON text `</` stands inside a string literal or the text is none, and there `\/` is read as `/`.  So whoever reads a
text reads the same from one in which some of its `</` have become `<\/` (`Slashed`), and leaves a rest that is related in
the same way.  One such step is proved for each reader (`Follows`), and from these the step for whole texts
(`Value.read_slashed`).  A text is related to itself, so the steps also tell that more room, or more layers of quoted
texts, change nothing.
-/
namespace ConfigService
namespace Json

/-- The second text is the first with a backslash put into some of its `</`. -/
inductive Slashed : Text → Text → Prop
  | nil : Slashed [] []
  | cons (s : Symbol) {t u : Text} (h : Slashed t u) : Slashed (s :: t) (s :: u)
  | slash {t u : Text} (h : Slashed t u) :
      Slashed (.char '<' :: .char '/' :: t) (.char '<' :: .char '\\' :: .char '/' :: u)

namespace Slashed

variable {s : Symbol} {t u v : Text}

theorem refl : ∀ t : Text, Slashed t t
  | [] => .nil
  | s :: t => .cons s (refl t)

/-! Other characters than `<` stand where they stood. -/

theorem of_cons (hs : s ≠ .char '<') (h : Slashed (s :: t) u) : ∃ w, u = s :: w ∧ Slashed t w := by
  cases h with
  | cons _ h => exact ⟨_, rfl, h⟩
  | slash => exact absurd rfl hs

theorem to_cons (hs : s ≠ .char '<') (h : Slashed t (s :: u)) : ∃ w, t = s :: w ∧ Slashed w u := by
  cases h with
  | cons _ h => exact ⟨_, rfl, h⟩
  | slash => exact absurd rfl hs

theorem head (h : Slashed (s :: t) u) : ∃ w, u = s :: w := by
  cases h with
  | cons _ h => exact ⟨_, rfl⟩
  | slash h => exact ⟨_, rfl⟩

theorem of_append : ∀ {v u : Text}, (∀ s ∈ v, s ≠ .char '<') → Slashed (v ++ t) u → ∃ w, u = v ++ w ∧ Slashed t w
  | [], u, _, h => ⟨u, rfl, h⟩
  | s :: v, u, hv, h => by
    obtain ⟨hs, hv⟩ := List.forall_mem_cons.1 hv
    obtain ⟨w, rfl, htail⟩ := of_cons (t := v ++ t) hs h
    obtain ⟨w, rfl, hrest⟩ := of_append hv htail
    exact ⟨w, rfl, hrest⟩

theorem dropWhile {p : Symbol → Bool} (hp : p (.char '<') = false) (h : Slashed t u) :
    Slashed (t.dropWhile p) (u.dropWhile p) := by
  induction h with
  | nil => exact .nil
  | cons s h ih =>
    by_cases hs : p s
    · simpa [List.dropWhile_cons, hs] using ih
    · simpa [List.dropWhile_cons, hs] using h.cons s
  | slash h => simpa [List.dropWhile_cons, hp] using h.slash

theorem takeWhile {p : Symbol → Bool} (hp : p (.char '<') = false) (h : Slashed t u) :
    u.takeWhile p = t.takeWhile p := by
  induction h with
  | nil => rfl
  | cons s h ih => simp [List.takeWhile_cons, ih]
  | slash h => simp [hp]

theorem skipGap (h : Slashed t u) : Slashed (skipGap t) (skipGap u) := h.dropWhile (by decide)

theorem skipDigits (h : Slashed t u) : Slashed (skipDigits t) (skipDigits u) := h.dropWhile (by decide)

theorem leadingDigits (h : Slashed t u) : leadingDigits u = leadingDigits t := by
  unfold Json.leadingDigits
  rw [h.takeWhile (by decide)]

/-- Both texts are blank, or after their blanks they begin alike, and but for `<` they go on related. -/
theorem cases_gap (h : Slashed t u) : (Json.skipGap t = [] ∧ Json.skipGap u = []) ∨
    ∃ s rest w, Json.skipGap t = s :: rest ∧ Json.skipGap u = s :: w ∧ Slashed (s :: rest) (s :: w) ∧
      (s ≠ .char '<' → Slashed rest w) := by
  have hskip := h.skipGap
  generalize Json.skipGap t = t₁, Json.skipGap u = u₁ at hskip ⊢
  cases t₁ with
  | nil =>
    cases hskip
    exact .inl ⟨rfl, rfl⟩
  | cons s rest =>
    obtain ⟨w, rfl⟩ := hskip.head
    refine .inr ⟨s, rest, w, rfl, rfl, hskip, fun hs => ?_⟩
    obtain ⟨w', heq, hrest⟩ := hskip.of_cons hs
    cases heq
    exact hrest

end Slashed

/-- What the first reader takes from a text, the second takes from a slashed one. -/
def Follows {ε α : Type} (read read' : Text → Except ε (α × Text)) : Prop :=
  ∀ ⦃t u : Text⦄ ⦃a : α⦄ ⦃rest : Text⦄, Slashed t u → read t = .ok (a, rest) →
    ∃ after, read' u = .ok (a, after) ∧ Slashed rest after

/-- What the first passes over in a text, the second passes over in a slashed one. -/
def FollowsPast (pass pass' : Text → Except Fault Text) : Prop :=
  ∀ ⦃t u rest : Text⦄, Slashed t u → pass t = .ok rest → ∃ after, pass' u = .ok after ∧ Slashed rest after

section Cases

variable {ε α : Type} {t u : Text}

theorem Follows.cases {read read' : Text → Except ε (α × Text)} (h : Follows read read') (ht : Slashed t u) :
    (∃ e, read t = .error e) ∨ ∃ a t₁ u₁, read t = .ok (a, t₁) ∧ read' u = .ok (a, u₁) ∧ Slashed t₁ u₁ := by
  cases hread : read t with
  | error e => exact .inl ⟨e, rfl⟩
  | ok taken =>
    obtain ⟨a, t₁⟩ := taken
    obtain ⟨u₁, hread', hrest⟩ := h ht hread
    exact .inr ⟨a, t₁, u₁, rfl, hread', hrest⟩

theorem FollowsPast.cases {pass pass' : Text → Except Fault Text} (h : FollowsPast pass pass') (ht : Slashed t u) :
    (∃ e, pass t = .error e) ∨ ∃ t₁ u₁, pass t = .ok t₁ ∧ pass' u = .ok u₁ ∧ Slashed t₁ u₁ := by
  cases hpass : pass t with
  | error e => exact .inl ⟨e, rfl⟩
  | ok t₁ =>
    obtain ⟨u₁, hpass', hrest⟩ := h ht hpass
    exact .inr ⟨t₁, u₁, rfl, hpass', hrest⟩

end Cases

/-! ## Words and numbers -/

theorem readWord_follows : ∀ {letters : List Char} {t u rest : Text}, '<' ∉ letters → Slashed t u →
    readWord letters t = .ok rest → ∃ after, readWord letters u = .ok after ∧ Slashed rest after
  | [], t, u, rest, _, ht, h => by
    cases h
    exact ⟨u, rfl, ht⟩
  | c :: cs, [], _, _, _, _, h => by cases h
  | c :: cs, s :: t, u, rest, hcs, ht, h => by
    unfold readWord at h
    split at h
    · next hs =>
      subst hs
      have hc : Symbol.char c ≠ .char '<' := fun h => hcs (Symbol.char.inj h ▸ List.mem_cons_self)
      obtain ⟨w, rfl, hw⟩ := ht.of_cons hc
      obtain ⟨after, hafter, hrest⟩ := readWord_follows (fun hd => hcs (List.mem_cons_of_mem c hd)) hw h
      refine ⟨after, ?_, hrest⟩
      rw [readWord, if_pos rfl, hafter]
    · cases h

section Numbers

variable (report : DigitReport)

theorem readWhole_follows : Follows (readWhole report) (readWhole report) := by
  intro t u ds rest ht h
  unfold readWhole at h
  split at h
  · split at h
    · next hempty =>
      cases h
      obtain ⟨w, rfl, hw⟩ := ht.of_cons (by decide)
      refine ⟨w, ?_, hw⟩
      rw [readWhole, hw.leadingDigits, if_pos hempty]
    · cases h
  · next hzero =>
    split at h
    · cases h
    · next hempty =>
      cases h
      refine ⟨skipDigits u, ?_, ht.skipDigits⟩
      unfold readWhole
      split
      · obtain ⟨w, rfl, -⟩ := ht.to_cons (by decide)
        exact absurd rfl (hzero w)
      · rw [ht.leadingDigits, if_neg hempty]

theorem readFraction_follows : Follows (readFraction report) (readFraction report) := by
  intro t u ds rest ht h
  unfold readFraction at h
  split at h
  · split at h
    · cases h
    · next hempty =>
      cases h
      obtain ⟨w, rfl, hw⟩ := ht.of_cons (by decide)
      refine ⟨skipDigits w, ?_, hw.skipDigits⟩
      rw [readFraction, hw.leadingDigits, if_neg hempty]
  · next hpoint =>
    cases h
    refine ⟨u, ?_, ht⟩
    unfold readFraction
    split
    · obtain ⟨w, rfl, -⟩ := ht.to_cons (by decide)
      exact absurd rfl (hpoint w)
    · rfl

theorem readSign_follows {t u : Text} (ht : Slashed t u) :
    (readSign u).1 = (readSign t).1 ∧ Slashed (readSign t).2 (readSign u).2 := by
  unfold readSign
  split
  · obtain ⟨w, rfl, hw⟩ := ht.to_cons (by decide)
    exact ⟨rfl, hw⟩
  · obtain ⟨w, rfl, hw⟩ := ht.to_cons (by decide)
    exact ⟨rfl, hw⟩
  · next hminus hplus =>
    split
    · obtain ⟨w, rfl, -⟩ := ht.of_cons (by decide)
      exact absurd rfl (hminus w)
    · obtain ⟨w, rfl, -⟩ := ht.of_cons (by decide)
      exact absurd rfl (hplus w)
    · exact ⟨rfl, ht⟩

theorem readExponent_follows : Follows (readExponent report) (readExponent report) := by
  intro t u e rest ht h
  unfold readExponent at h
  simp only at h
  split at h
  case h_3 hsmall hlarge =>
    cases h
    refine ⟨u, ?_, ht⟩
    unfold readExponent
    split
    · obtain ⟨w, rfl, -⟩ := ht.to_cons (by decide)
      exact absurd rfl (hsmall w)
    · obtain ⟨w, rfl, -⟩ := ht.to_cons (by decide)
      exact absurd rfl (hlarge w)
    · rfl
  -- after a letter of either case
  all_goals
    split at h
    · cases h
    · next hempty =>
      cases h
      obtain ⟨w, rfl, hw⟩ := ht.of_cons (by decide)
      obtain ⟨hsign, hw⟩ := readSign_follows hw
      refine ⟨skipDigits (readSign w).2, ?_, hw.skipDigits⟩
      simp only [readExponent, hsign, hw.leadingDigits, if_neg hempty]

theorem readUnsigned_follows (negative : Bool) :
    Follows (readUnsigned report negative) (readUnsigned report negative) := by
  intro t u n rest ht h
  unfold readUnsigned at h
  split at h
  · cases h
  · next hwhole =>
    obtain ⟨t₁, hwhole, ht⟩ := readWhole_follows report ht hwhole
    split at h
    · cases h
    · next hfraction =>
      obtain ⟨t₂, hfraction, ht⟩ := readFraction_follows report ht hfraction
      split at h
      · cases h
      · next hexponent =>
        cases h
        obtain ⟨t₃, hexponent, ht⟩ := readExponent_follows report ht hexponent
        refine ⟨t₃, ?_, ht⟩
        simp only [readUnsigned, hwhole, hfraction, hexponent]

theorem readNumeral_follows : Follows (readNumeral report) (readNumeral report) := by
  intro t u n rest ht h
  unfold readNumeral at h
  split at h
  · obtain ⟨w, rfl, hw⟩ := ht.of_cons (by decide)
    obtain ⟨after, hread, hrest⟩ := readUnsigned_follows report true hw h
    exact ⟨after, hread, hrest⟩
  · next hminus =>
    obtain ⟨after, hread, hrest⟩ := readUnsigned_follows report false ht h
    refine ⟨after, ?_, hrest⟩
    unfold readNumeral
    split
    · obtain ⟨w, rfl, -⟩ := ht.to_cons (by decide)
      exact absurd rfl (hminus w)
    · exact hread

end Numbers

/-! ## Literals

An escape is told by the units it takes, and none of them is `<`. -/

/-- The units that a reader takes are not `<`, and it takes them whatever follows. -/
def TakesPlain {α : Type} (read : Text → Except Fault α) (n : Nat) (t : Text) (a : α) : Prop :=
  ∃ v rest, t = v ++ rest ∧ v.length = n ∧ (∀ s ∈ v, s ≠ .char '<') ∧ ∀ rest', read (v ++ rest') = .ok a

theorem hexValue?_ne {s : Symbol} {n : Nat} (h : hexValue? s = some n) : s ≠ .char '<' := by
  rintro rfl
  cases h

theorem readUnit_ok {t rest : Text} {n : Nat} (h : readUnit t = .ok (n, rest)) :
    ∃ v, t = v ++ rest ∧ v.length = 4 ∧ (∀ s ∈ v, s ≠ .char '<') ∧ ∀ rest', readUnit (v ++ rest') = .ok (n, rest') := by
  unfold readUnit at h
  split at h
  · next a b c d rest' =>
    split at h
    · next ha hb hc hd =>
      cases h
      refine ⟨[a, b, c, d], rfl, rfl, ?_, fun rest' => ?_⟩
      · simp [hexValue?_ne ha, hexValue?_ne hb, hexValue?_ne hc, hexValue?_ne hd]
      · simp [readUnit, ha, hb, hc, hd]
    · cases h
  · cases h

theorem readLowHalf_ok {high : Nat} {t : Text} {c : Char} (h : readLowHalf high t = .ok c) :
    TakesPlain (readLowHalf high) 6 t c := by
  unfold readLowHalf at h
  split at h
  · cases h
  · split at h
    · cases h
    · split at h
      · cases h
      · next hunit =>
        obtain ⟨v, rfl, hlength, hplain, hread⟩ := readUnit_ok hunit
        split at h
        · next hlow =>
          obtain rfl := Except.ok.inj h
          refine ⟨.char '\\' :: .char 'u' :: v, _, rfl, by simp [hlength], ?_, fun rest' => ?_⟩
          · simpa using hplain
          · rw [List.cons_append, List.cons_append, readLowHalf, hread]
            exact if_pos hlow
        · cases h
    · cases h
  · cases h

theorem shortEscape?_ne {s : Symbol} {c : Char} (h : shortEscape? s = some c) : s ≠ .char '<' ∧ s ≠ .char 'u' := by
  constructor <;>
  · rintro rfl
    cases h

theorem readEscape_ok {t : Text} {c : Char} {n : Nat} (h : readEscape t = .ok (c, n)) :
    TakesPlain readEscape n t (c, n) := by
  unfold readEscape at h
  split at h
  · cases h
  · split at h
    · cases h
    · next hunit =>
      obtain ⟨v, rfl, hlength, hplain, hread⟩ := readUnit_ok hunit
      split at h
      · cases h
      · next hlow =>
        split at h
        · next hhigh =>
          obtain ⟨c', hpair, hc⟩ := exists_of_map_eq_ok h
          obtain ⟨w, rest, rfl, hwlength, hwplain, hwread⟩ := readLowHalf_ok hpair
          cases hc
          refine ⟨.char 'u' :: (v ++ w), rest, by simp, by simp [hlength, hwlength], ?_, fun rest' => ?_⟩
          · simp only [List.mem_cons, List.mem_append]
            rintro s (rfl | hs | hs)
            · decide
            · exact hplain s hs
            · exact hwplain s hs
          · rw [List.cons_append, List.append_assoc, readEscape, hread]
            simp only [hlow, hhigh, hwread]
            rfl
        · next hhigh =>
          cases h
          refine ⟨.char 'u' :: v, _, rfl, by simp [hlength], by simpa using hplain, fun rest' => ?_⟩
          rw [List.cons_append, readEscape, hread]
          simp only [hlow, hhigh]
          rfl
  · next s rest hu =>
    split at h
    · next hshort =>
      cases h
      have hs := shortEscape?_ne hshort
      refine ⟨[s], rest, rfl, rfl, by simpa using hs.1, fun rest' => ?_⟩
      rw [List.singleton_append]
      unfold readEscape
      split
      · next heq => cases heq
      · next heq =>
        cases heq
        exact absurd rfl hs.2
      · next heq =>
        cases heq
        rw [hshort]
    · cases h

/-- **A literal is read alike**, whatever has been read of it before. -/
theorem readLiteralFrom_follows (n : Nat) : ∀ (read : List Char) (bad : Option Nat) {t u rest : Text} {s : String},
    t.length ≤ n → Slashed t u → readLiteralFrom 0 read bad t = .ok (s, rest) →
      ∃ after, readLiteralFrom 0 read bad u = .ok (s, after) ∧ Slashed rest after := by
  -- by length and not along the text: an escape takes several units at once
  induction n with
  | zero =>
    intro read bad t u rest s hlength ht h
    cases t with
    | nil => cases h
    | cons => exact absurd hlength (Nat.not_succ_le_zero _)
  | succ n ih =>
    intro read bad t u rest s hlength ht h
    cases ht with
    | nil => cases h
    | @slash t u ht =>
      -- the reader takes `<` and `/` here, and there `<` and an escaped `/`
      rw [readLiteralFrom_plain _ _ (by decide) (by decide) (by decide),
        readLiteralFrom_plain _ _ (by decide) (by decide) (by decide)] at h
      obtain ⟨after, hread, hrest⟩ := ih _ _ (by simp at hlength; omega) ht h
      refine ⟨after, ?_, hrest⟩
      have hslash := readLiteralFrom_backslash ('<' :: read) (bad.map (· + '<'.utf8Size))
        (show readEscape ([.char '/'] ++ u) = .ok ('/', 1) from rfl)
      rw [readLiteralFrom_plain _ _ (by decide) (by decide) (by decide)]
      exact hslash.trans hread
    | @cons c t u ht =>
      have htail : t.length ≤ n := by simpa using hlength
      cases c with
      | stray b => exact ih read (some (bad.getD 0 + 1)) htail ht h
      | char c =>
        by_cases hq : c = '"'
        · subst hq
          rw [readLiteralFrom_char, if_pos rfl] at h ⊢
          cases bad with
          | none =>
            cases h
            exact ⟨u, rfl, ht⟩
          | some bytes => cases h
        by_cases hb : c = '\\'
        · subst hb
          rw [readLiteralFrom_char, if_neg (by decide), if_pos rfl] at h
          cases hescape : readEscape t with
          | error f =>
            rw [hescape] at h
            cases h
          | ok taken =>
            obtain ⟨e, k⟩ := taken
            obtain ⟨v, t', rfl, hv, hplain, htakes⟩ := readEscape_ok hescape
            obtain ⟨u', rfl, hu⟩ := ht.of_append hplain
            rw [hescape] at h
            subst hv
            simp only [readLiteralFrom_skip] at h
            have hshorter : t'.length ≤ n := by
              rw [List.length_append] at htail
              omega
            obtain ⟨after, hread, hrest⟩ := ih _ _ hshorter hu h
            refine ⟨after, ?_, hrest⟩
            rw [readLiteralFrom_backslash read bad (htakes u'), hread]
        by_cases hc : c.toNat < 0x20
        · rw [readLiteralFrom_char, if_neg hq, if_neg hb, if_pos hc] at h
          cases h
        rw [readLiteralFrom_plain _ _ hq hb hc] at h ⊢
        exact ih _ _ htail ht h

theorem readLiteral_follows : Follows readLiteral readLiteral := fun _ _ _ _ ht h =>
  readLiteralFrom_follows _ [] none (Nat.le_refl _) ht h

/-! ## Between the items -/

theorem nextItem_follows (first : Bool) : Follows (nextItem first) (nextItem first) := by
  intro t u more rest ht h
  unfold nextItem at h ⊢
  obtain ⟨hgap, -⟩ | ⟨s, tail, w, hgap, hgap', hsame, htail⟩ := ht.cases_gap
  · rw [hgap] at h
    cases h
  rw [hgap] at h
  rw [hgap']
  simp only at h ⊢
  by_cases hclose : s = .char ']'
  · rw [if_pos hclose] at h ⊢
    cases h
    exact ⟨w, rfl, htail (by rw [hclose]; decide)⟩
  rw [if_neg hclose] at h ⊢
  by_cases hfirst : first
  · rw [if_pos hfirst] at h ⊢
    cases h
    exact ⟨_, rfl, hsame⟩
  rw [if_neg hfirst] at h ⊢
  by_cases hcomma : s = .char ','
  · rw [if_pos hcomma] at h ⊢
    have htail := htail (by rw [hcomma]; decide)
    obtain ⟨hgap₂, -⟩ | ⟨s₂, tail₂, w₂, hgap₂, hgap₂', hsame₂, -⟩ := htail.cases_gap
    · rw [hgap₂] at h
      cases h
    rw [hgap₂] at h
    rw [hgap₂']
    simp only at h ⊢
    split at h
    · cases h
    · next hlast =>
      cases h
      rw [if_neg hlast]
      exact ⟨_, rfl, hsame₂⟩
  · rw [if_neg hcomma] at h
    cases h

theorem readKey_follows (s : Symbol) : Follows (readKey s) (readKey s) := by
  intro t u key rest ht h
  unfold readKey at h ⊢
  split at h
  · next hs =>
    obtain ⟨⟨k, rest'⟩, hread, heq⟩ := exists_of_map_eq_ok h
    cases heq
    obtain ⟨after, hread', hrest⟩ := readLiteral_follows ht hread
    rw [if_pos hs, hread']
    exact ⟨after, rfl, hrest⟩
  · cases h

theorem readKey_ne {s : Symbol} {t : Text} {taken : Option String × Text} (h : readKey s t = .ok taken) :
    s ≠ .char '<' := by
  rintro rfl
  cases h

theorem nextKey_follows (first : Bool) : Follows (nextKey first) (nextKey first) := by
  intro t u key rest ht h
  unfold nextKey at h ⊢
  obtain ⟨hgap, -⟩ | ⟨s, tail, w, hgap, hgap', -, htail⟩ := ht.cases_gap
  · rw [hgap] at h
    cases h
  rw [hgap] at h
  rw [hgap']
  simp only at h ⊢
  by_cases hclose : s = .char '}'
  · rw [if_pos hclose] at h ⊢
    cases h
    exact ⟨w, rfl, htail (by rw [hclose]; decide)⟩
  rw [if_neg hclose] at h ⊢
  by_cases hfirst : first
  · rw [if_pos hfirst] at h ⊢
    exact readKey_follows s (htail (readKey_ne h)) h
  rw [if_neg hfirst] at h ⊢
  by_cases hcomma : s = .char ','
  · rw [if_pos hcomma] at h ⊢
    have htail := htail (by rw [hcomma]; decide)
    obtain ⟨hgap₂, -⟩ | ⟨s₂, tail₂, w₂, hgap₂, hgap₂', -, htail₂⟩ := htail.cases_gap
    · rw [hgap₂] at h
      cases h
    rw [hgap₂] at h
    rw [hgap₂']
    simp only at h ⊢
    split at h
    · cases h
    · next hlast =>
      rw [if_neg hlast]
      exact readKey_follows s₂ (htail₂ (readKey_ne h)) h
  · rw [if_neg hcomma] at h
    cases h

theorem readColon_follows : FollowsPast readColon readColon := by
  intro t u rest ht h
  unfold readColon at h ⊢
  obtain ⟨hgap, -⟩ | ⟨s, tail, w, hgap, hgap', -, htail⟩ := ht.cases_gap
  · rw [hgap] at h
    cases h
  rw [hgap] at h
  rw [hgap']
  simp only at h ⊢
  split at h
  · next hcolon =>
    cases h
    rw [if_pos hcolon]
    exact ⟨w, rfl, htail (by rw [hcolon]; decide)⟩
  · cases h

/-! ## Values -/

section Containers

variable {α : Type} {item item' : Text → Taken α}

theorem readItems_follows (hitem : Follows item item') {room room' : Nat} (first : Bool) (read : List α)
    (hroom : room ≤ room') : Follows (readItems item room first read) (readItems item' room' first read) := by
  induction room generalizing room' first read with
  | zero =>
    intro t u as rest _ h
    cases h
  | succ room ih =>
    intro t u as rest ht h
    obtain ⟨room', rfl⟩ := Nat.exists_eq_add_one_of_ne_zero (Nat.ne_zero_of_lt hroom)
    rw [readItems] at h
    obtain ⟨f, hnext⟩ | ⟨more, t₁, u₁, hnext, hnext', ht₁⟩ := (nextItem_follows first).cases ht
    · rw [hnext] at h
      cases h
    rw [hnext] at h
    cases more with
    | false =>
      cases h
      refine ⟨u₁, ?_, ht₁⟩
      rw [readItems, hnext']
    | true =>
      simp only at h
      obtain ⟨f, hread⟩ | ⟨a, t₂, u₂, hread, hread', ht₂⟩ := hitem.cases ht₁
      · rw [hread] at h
        cases h
      rw [hread] at h
      obtain ⟨after, hafter, hrest⟩ := ih false (a :: read) (Nat.le_of_succ_le_succ hroom) ht₂ h
      refine ⟨after, ?_, hrest⟩
      rw [readItems, hnext']
      simp only [hread', hafter]

theorem readMembers_follows (hitem : Follows item item') {room room' : Nat} (first : Bool) (read : List (String × α))
    (hroom : room ≤ room') : Follows (readMembers item room first read) (readMembers item' room' first read) := by
  induction room generalizing room' first read with
  | zero =>
    intro t u as rest _ h
    cases h
  | succ room ih =>
    intro t u as rest ht h
    obtain ⟨room', rfl⟩ := Nat.exists_eq_add_one_of_ne_zero (Nat.ne_zero_of_lt hroom)
    rw [readMembers] at h
    obtain ⟨f, hnext⟩ | ⟨key, t₁, u₁, hnext, hnext', ht₁⟩ := (nextKey_follows first).cases ht
    · rw [hnext] at h
      cases h
    rw [hnext] at h
    cases key with
    | none =>
      cases h
      refine ⟨u₁, ?_, ht₁⟩
      rw [readMembers, hnext']
    | some key =>
      simp only at h
      obtain ⟨f, hcolon⟩ | ⟨t₂, u₂, hcolon, hcolon', ht₂⟩ := readColon_follows.cases ht₁
      · rw [hcolon] at h
        cases h
      rw [hcolon] at h
      simp only at h
      obtain ⟨f, hread⟩ | ⟨a, t₃, u₃, hread, hread', ht₃⟩ := hitem.cases ht₂
      · rw [hread] at h
        cases h
      rw [hread] at h
      obtain ⟨after, hafter, hrest⟩ := ih false ((key, a) :: read) (Nat.le_of_succ_le_succ hroom) ht₃ h
      refine ⟨after, ?_, hrest⟩
      rw [readMembers, hnext']
      simp only [hcolon', hread', hafter]

end Containers

/-- What the first makes of a string, the second makes of it too. -/
def Extends {α : Type} (decode decode' : String → Except Fault α) : Prop :=
  ∀ s a, decode s = .ok a → decode' s = .ok a

theorem readMarked_follows (expected : String) {decode decode' : String → Except Fault Value}
    (hdecode : Extends decode decode') : Follows (readMarked expected decode) (readMarked expected decode') := by
  intro t u v rest ht h
  unfold readMarked at h ⊢
  obtain ⟨f, hcolon⟩ | ⟨t₁, u₁, hcolon, hcolon', ht₁⟩ := readColon_follows.cases ht
  · rw [hcolon] at h
    cases h
  rw [hcolon] at h
  rw [hcolon']
  simp only at h ⊢
  obtain ⟨hgap, -⟩ | ⟨s, t₂, u₂, hgap, hgap', -, ht₂⟩ := ht₁.cases_gap
  · rw [hgap] at h
    cases h
  rw [hgap] at h
  rw [hgap']
  simp only at h ⊢
  by_cases hquote : s = .char '"'
  · rw [if_pos hquote] at h ⊢
    obtain ⟨f, hliteral⟩ | ⟨text, t₃, u₃, hliteral, hliteral', ht₃⟩ :=
      readLiteral_follows.cases (ht₂ (by rw [hquote]; decide))
    · rw [hliteral] at h
      cases h
    rw [hliteral] at h
    rw [hliteral']
    simp only at h ⊢
    cases hvalue : decode text with
    | error f =>
      rw [hvalue] at h
      cases h
    | ok w =>
      rw [hvalue] at h
      rw [hdecode text w hvalue]
      simp only at h ⊢
      obtain ⟨hend, -⟩ | ⟨s, t₄, u₄, hend, hend', -, ht₄⟩ := ht₃.cases_gap
      · rw [hend] at h
        cases h
      rw [hend] at h
      rw [hend']
      simp only at h ⊢
      split at h
      · next hclose =>
        cases h
        rw [if_pos hclose]
        exact ⟨u₄, rfl, ht₄ (by rw [hclose]; decide)⟩
      · cases h
  · rw [if_neg hquote] at h
    cases h

theorem Follows.map {ε α β : Type} {read read' : Text → Except ε (α × Text)} (h : Follows read read') (f : α → β) :
    Follows (fun t => (read t).map fun (a, rest) => (f a, rest)) (fun t => (read' t).map fun (a, rest) => (f a, rest)) := by
  intro t u v rest ht hread
  obtain ⟨⟨a, rest'⟩, hread, heq⟩ := exists_of_map_eq_ok hread
  cases heq
  obtain ⟨after, hread', hrest⟩ := h ht hread
  exact ⟨after, by simp only [hread']; rfl, hrest⟩

theorem word_follows {α : Type} {letters : List Char} (hletters : '<' ∉ letters) (a : α) :
    Follows (fun t => (readWord letters t).map (a, ·)) (fun t => (readWord letters t).map (a, ·)) := by
  intro t u w rest ht hread
  obtain ⟨rest', hread, heq⟩ := exists_of_map_eq_ok hread
  cases heq
  obtain ⟨after, hread', hrest⟩ := readWord_follows hletters ht hread
  exact ⟨after, by simp only [hread']; rfl, hrest⟩

section Value

variable {unquote unquote' : String → Except Fault Value} {room room' : Nat}

/-- The object with at least one member, from its first key on. -/
theorem readEntries_follows (hu : Extends unquote unquote') {item item' : Text → Taken Value}
    (hitem : Follows item item') (hroom : room ≤ room') {key : String} {t u after after' rest : Text} {v : Value}
    (ht : Slashed t u) (hafter : Slashed after after')
    (h : (if key = numberKey then
        readMarked "string containing a number" (fun s => (Numeral.ofSpelling s).map .number) after
      else if key = quoteKey then readMarked "raw value" unquote after
      else (readMembers item room true [] t).map fun (members, rest) => (Value.object (collapse members), rest)) =
        .ok (v, rest)) :
    ∃ rest', (if key = numberKey then
        readMarked "string containing a number" (fun s => (Numeral.ofSpelling s).map .number) after'
      else if key = quoteKey then readMarked "raw value" unquote' after'
      else (readMembers item' room' true [] u).map fun (members, rest) => (Value.object (collapse members), rest)) =
        .ok (v, rest') ∧ Slashed rest rest' := by
  by_cases hnumber : key = numberKey
  · rw [if_pos hnumber] at h ⊢
    exact readMarked_follows _ (fun _ _ h => h) hafter h
  rw [if_neg hnumber] at h ⊢
  by_cases hquote : key = quoteKey
  · rw [if_pos hquote] at h ⊢
    exact readMarked_follows _ hu hafter h
  rw [if_neg hquote] at h ⊢
  exact (readMembers_follows hitem true [] hroom).map (fun members => Value.object (collapse members)) ht h

/-- **A value is read alike**, with no less room. -/
theorem readValue_follows (hu : Extends unquote unquote') (hroom : room ≤ room') (depth : Nat) :
    Follows (readValue unquote room depth) (readValue unquote' room' depth) := by
  induction depth using Nat.strongRecOn with
  | ind depth ih =>
    intro t u v rest ht h
    rw [readValue] at h ⊢
    obtain ⟨hgap, -⟩ | ⟨s, tail, w, hgap, hgap', hsame, htail⟩ := ht.cases_gap
    · rw [hgap] at h
      cases h
    rw [hgap] at h
    rw [hgap']
    simp only at h ⊢
    by_cases hn : s = .char 'n'
    · rw [if_pos hn] at h ⊢
      exact word_follows (by decide) Value.null (htail (by rw [hn]; decide)) h
    rw [if_neg hn] at h ⊢
    by_cases htrue : s = .char 't'
    · rw [if_pos htrue] at h ⊢
      exact word_follows (by decide) (Value.bool true) (htail (by rw [htrue]; decide)) h
    rw [if_neg htrue] at h ⊢
    by_cases hfalse : s = .char 'f'
    · rw [if_pos hfalse] at h ⊢
      exact word_follows (by decide) (Value.bool false) (htail (by rw [hfalse]; decide)) h
    rw [if_neg hfalse] at h ⊢
    by_cases hnumber : startsNumber s
    · rw [if_pos hnumber] at h ⊢
      exact (readNumeral_follows .asked).map Value.number hsame h
    rw [if_neg hnumber] at h ⊢
    by_cases hquote : s = .char '"'
    · rw [if_pos hquote] at h ⊢
      exact readLiteral_follows.map Value.string (htail (by rw [hquote]; decide)) h
    rw [if_neg hquote] at h ⊢
    by_cases hlist : s = .char '['
    · rw [if_pos hlist] at h ⊢
      cases depth with
      | zero => cases h
      | succ depth =>
        exact (readItems_follows (ih depth (Nat.lt_succ_self depth)) true [] hroom).map Value.array
          (htail (by rw [hlist]; decide)) h
    rw [if_neg hlist] at h ⊢
    by_cases hobject : s = .char '{'
    · rw [if_pos hobject] at h ⊢
      have htail := htail (by rw [hobject]; decide)
      cases depth with
      | zero => cases h
      | succ depth =>
        simp only at h ⊢
        obtain ⟨f, hkey⟩ | ⟨key, after, after', hkey, hkey', hafter⟩ := (nextKey_follows true).cases htail
        · rw [hkey] at h
          cases h
        rw [hkey] at h
        rw [hkey']
        cases key with
        | none =>
          cases h
          exact ⟨after', rfl, hafter⟩
        | some key => exact readEntries_follows hu (ih depth (Nat.lt_succ_self depth)) hroom htail hafter h
    rw [if_neg hobject] at h
    cases h

end Value

theorem readWholeText_follows {α : Type} {read read' : Text → Taken α} (hread : Follows read read') {t u : Text} {a : α}
    (ht : Slashed t u) (h : readWholeText read t = .ok a) : readWholeText read' u = .ok a := by
  unfold readWholeText at h ⊢
  obtain ⟨f, htaken⟩ | ⟨b, rest, after, htaken, htaken', hrest⟩ := hread.cases ht
  · rw [htaken] at h
    cases h
  rw [htaken] at h
  rw [htaken']
  simp only at h ⊢
  obtain ⟨hend, hend'⟩ | ⟨s, tail, w, hend, -⟩ := hrest.cases_gap
  · rw [hend] at h
    rw [hend']
    exact h
  · rw [hend] at h
    cases h

theorem Slashed.length_le {t u : Text} (h : Slashed t u) : t.length ≤ u.length := by
  induction h with
  | nil => exact Nat.le_refl 0
  | cons s _ ih => exact Nat.succ_le_succ ih
  | slash _ ih =>
    simp only [List.length_cons]
    omega

theorem readQuoted_slashed : ∀ {layers layers' : Nat} {t u : Text} {v : Value}, layers ≤ layers' → Slashed t u →
    readQuoted layers t = .ok v → readQuoted layers' u = .ok v := by
  intro layers
  induction layers with
  | zero =>
    intro layers' t u v _ ht h
    rw [readQuoted_eq] at h ⊢
    refine readWholeText_follows (readValue_follows (fun s w hs => ?_) ht.length_le depthLimit) ht h
    cases hs
  | succ layers ih =>
    intro layers' t u v hlayers ht h
    obtain ⟨layers', rfl⟩ := Nat.exists_eq_add_one_of_ne_zero (Nat.ne_zero_of_lt hlayers)
    rw [readQuoted_eq] at h ⊢
    refine readWholeText_follows (readValue_follows (fun s w hs => ?_) ht.length_le depthLimit) ht h
    rw [unquoteWithin] at hs ⊢
    cases hq : readQuoted layers (Text.ofString s) with
    | error f =>
      rw [hq] at hs
      cases hs
    | ok w' =>
      rw [hq] at hs
      cases hs
      rw [ih (Nat.le_of_succ_le_succ hlayers) (Slashed.refl _) hq]
      rfl

/-- **A slashed text spells the same value.** -/
theorem Value.read_slashed {t u : Text} {v : Value} (ht : Slashed t u) (h : Value.read t = .ok v) :
    Value.read u = .ok v := readQuoted_slashed ht.length_le ht h

end Json
end ConfigService
