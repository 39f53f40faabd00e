import ConfigService.Html.Link
import ConfigService.Html.Reference
import ConfigService.Proofs.Html.ScriptData
import ConfigService.Proofs.Service.Handle
/-!
# Link — a redirect cannot be broken out of and keeps its target

What an escape writes for one character is read as that character, whatever comes after it (`decodeAfter_named`), so a
text is read back character by character.  The semicolons matter here: a name with one at its end is read up to it and no
further, and is read in an attribute too.  With no quotes and brackets left in what is escaped, the link on the page of a
redirect is found in its place.
-/
namespace ConfigService

open Html
open Http (Request Response Target)

/-! ## Reading one reference -/

namespace Html.References

variable (r : References) {inAttribute : Bool} {c : Char} {name value : List Char}

/-- No name goes on after a semicolon. -/
theorem longest?_eq_none {seen : List Char} (h : ';' ∈ seen) (cs : List Char) : r.longest? seen cs = none := by
  induction cs generalizing seen with
  | nil => rfl
  | cons c cs ih =>
    have hname : r.named (seen ++ [c]) = none := by
      cases hvalue : r.named (seen ++ [c]) with
      | none => rfl
      | some value =>
        have hclosed := r.closed _ _ hvalue
        rw [List.dropLast_concat] at hclosed
        exact absurd h hclosed
    have hmore : ';' ∈ seen ++ [c] := List.mem_append_left _ h
    rw [longest?, ih hmore, hname]
    rfl

/-- A name up to a semicolon is the longest. -/
theorem longest?_named {seen : List Char} (h : r.named (seen ++ (name ++ [';'])) = some value) (rest : List Char) :
    r.longest? seen (name ++ ';' :: rest) = some (seen ++ (name ++ [';']), value) := by
  induction name generalizing seen with
  | nil =>
    rw [List.nil_append] at h ⊢
    have hmore : ';' ∈ seen ++ [';'] := by simp
    rw [List.nil_append, longest?, r.longest?_eq_none hmore, h]
    rfl
  | cons c name ih =>
    have hsplit : seen ++ (c :: name ++ [';']) = seen ++ [c] ++ (name ++ [';']) := by simp
    rw [hsplit] at h ⊢
    rw [List.cons_append, longest?, ih h]
    rfl

theorem decodeAfter_length (taken rest : List Char) :
    r.decodeAfter inAttribute taken.length (taken ++ rest) = r.decodeAfter inAttribute 0 rest := by
  induction taken with
  | nil => rfl
  | cons c taken ih => exact ih

theorem decodeAfter_plain (h : c ≠ '&') (rest : List Char) :
    r.decodeAfter inAttribute 0 (c :: rest) = c :: r.decodeAfter inAttribute 0 rest := by
  rw [decodeAfter, if_neg h]

/-- A name with its semicolon is read everywhere. -/
theorem decodeAfter_named (name : List Char) (hc : c ≠ '#') (h : r.named (c :: name ++ [';']) = some value)
    (rest : List Char) :
    r.decodeAfter inAttribute 0 ('&' :: (c :: name ++ ';' :: rest)) = value ++ r.decodeAfter inAttribute 0 rest := by
  have hlongest : r.longest? [] (c :: name ++ ';' :: rest) = some (c :: name ++ [';'], value) :=
    r.longest?_named h rest
  have hlast : (c :: name ++ [';']).getLast? = some ';' := List.getLast?_concat
  have href : r.reference? inAttribute (c :: name ++ ';' :: rest) = some (value, (c :: name ++ [';']).length) := by
    rw [reference?]
    · simp only [hlongest, hlast]
      simp
    · rintro cs hcs
      exact hc (List.cons.inj hcs).1
  have hsplit : c :: name ++ ';' :: rest = c :: name ++ [';'] ++ rest := by simp
  rw [decodeAfter, if_pos rfl, href]
  simp only
  rw [hsplit, decodeAfter_length]

/-! ## Reading an escaped text -/

theorem decodeAfter_escapeTextChar (c : Char) (rest : List Char) :
    r.decodeAfter inAttribute 0 (escapeTextChar c ++ rest) = c :: r.decodeAfter inAttribute 0 rest := by
  rw [escapeTextChar]
  split
  · next h =>
    subst h
    exact r.decodeAfter_named ['m', 'p'] (by decide) r.amp rest
  split
  · next h =>
    subst h
    exact r.decodeAfter_named ['t'] (by decide) r.lt rest
  split
  · next h =>
    subst h
    exact r.decodeAfter_named ['t'] (by decide) r.gt rest
  · next hamp _ _ => exact r.decodeAfter_plain hamp rest

theorem decodeAfter_escapeAttributeChar (c : Char) (rest : List Char) :
    r.decodeAfter inAttribute 0 (escapeAttributeChar c ++ rest) = c :: r.decodeAfter inAttribute 0 rest := by
  rw [escapeAttributeChar]
  split
  · next h =>
    subst h
    exact r.decodeAfter_named ['u', 'o', 't'] (by decide) r.quot rest
  · exact r.decodeAfter_escapeTextChar c rest

theorem decodeAfter_flatMap {escape : Char → List Char}
    (h : ∀ c rest, r.decodeAfter inAttribute 0 (escape c ++ rest) = c :: r.decodeAfter inAttribute 0 rest)
    (cs : List Char) : r.decodeAfter inAttribute 0 (cs.flatMap escape) = cs := by
  induction cs with
  | nil => rfl
  | cons c cs ih => rw [List.flatMap_cons, h, ih]

/-- **An escaped text is read back**, also where it had references in it. -/
theorem decodeText_escapeText (cs : List Char) : r.decodeText (escapeText cs) = cs :=
  r.decodeAfter_flatMap r.decodeAfter_escapeTextChar cs

/-- **An escaped value is read back.** -/
theorem decodeAttribute_escapeAttribute (cs : List Char) : r.decodeAttribute (escapeAttribute cs) = cs :=
  r.decodeAfter_flatMap r.decodeAfter_escapeAttributeChar cs

end Html.References

namespace Html

/-! ## Delimiters -/

theorem not_mem_flatMap {escape : Char → List Char} {d : Char} (h : ∀ c, d ∉ escape c) (cs : List Char) :
    d ∉ cs.flatMap escape := by
  intro hd
  obtain ⟨c, -, hc⟩ := List.mem_flatMap.1 hd
  exact h c hc

/-- What stands in no reference comes from the character itself. -/
theorem not_mem_escapeTextChar_of_ne {c d : Char} (hd : d ∉ ['&', 'a', 'm', 'p', 'l', 't', 'g', ';']) (h : d ≠ c) :
    d ∉ escapeTextChar c := by
  simp only [List.mem_cons, List.not_mem_nil, or_false, not_or] at hd
  rw [escapeTextChar]
  split
  · simp [hd]
  split
  · simp [hd]
  split
  · simp [hd]
  · simpa using h

theorem not_mem_escapeTextChar (c : Char) : '<' ∉ escapeTextChar c ∧ '>' ∉ escapeTextChar c := by
  by_cases hlt : c = '<'
  · subst hlt
    decide
  by_cases hgt : c = '>'
  · subst hgt
    decide
  · exact ⟨not_mem_escapeTextChar_of_ne (by decide) (Ne.symm hlt), not_mem_escapeTextChar_of_ne (by decide) (Ne.symm hgt)⟩

theorem not_mem_escapeAttributeChar (c : Char) :
    '"' ∉ escapeAttributeChar c ∧ '<' ∉ escapeAttributeChar c ∧ '>' ∉ escapeAttributeChar c := by
  by_cases hquote : c = '"'
  · subst hquote
    decide
  · rw [escapeAttributeChar, if_neg hquote]
    exact ⟨not_mem_escapeTextChar_of_ne (by decide) (Ne.symm hquote), not_mem_escapeTextChar c⟩

theorem not_mem_escapeText (cs : List Char) : '<' ∉ escapeText cs ∧ '>' ∉ escapeText cs :=
  ⟨not_mem_flatMap (fun c => (not_mem_escapeTextChar c).1) cs,
    not_mem_flatMap (fun c => (not_mem_escapeTextChar c).2) cs⟩

theorem not_mem_escapeAttribute (cs : List Char) :
    '"' ∉ escapeAttribute cs ∧ '<' ∉ escapeAttribute cs ∧ '>' ∉ escapeAttribute cs :=
  ⟨not_mem_flatMap (fun c => (not_mem_escapeAttributeChar c).1) cs,
    not_mem_flatMap (fun c => (not_mem_escapeAttributeChar c).2.1) cs,
    not_mem_flatMap (fun c => (not_mem_escapeAttributeChar c).2.2) cs⟩

/-! ## The page of a redirect -/

/-- A text up to a mark that is not in it. -/
theorem takeWhile_append_mark {d : Char} {cs : List Char} (h : d ∉ cs) (rest : List Char) :
    (cs ++ d :: rest).takeWhile (· ≠ d) = cs ∧ (cs ++ d :: rest).dropWhile (· ≠ d) = d :: rest := by
  have hall : ∀ c ∈ cs, decide (c ≠ d) = true := fun c hc => decide_eq_true fun heq => h (heq ▸ hc)
  rw [List.takeWhile_append_of_pos hall, List.dropWhile_append_of_pos hall]
  simp

end Html

/-- The link of a redirect's page is the first one on it. -/
theorem exists_redirectPage_eq : ∃ before after : List Char,
    (∀ target, redirectPage target = before ++ "<a href=\"".toList ++
      (escapeAttribute target ++ '"' :: '>' :: (escapeText target ++ '<' :: '/' :: 'a' :: '>' :: after))) ∧
    ¬"<a href=\"".toList <:+: before ++ "<a href=\"".toList.dropLast := by
  have hhead : ∃ before : List Char,
      "<!DOCTYPE html>\n<html lang=\"en\">\n<head>\n    <meta charset=\"utf-8\">\n    <title>Moved Permanently</title>\n</head>\n<body>\n    <p>This page has moved to <a href=\"".toList =
        before ++ "<a href=\"".toList ∧
      ¬"<a href=\"".toList <:+: before ++ "<a href=\"".toList.dropLast := by
    refine ⟨"<!DOCTYPE html>\n<html lang=\"en\">\n<head>\n    <meta charset=\"utf-8\">\n    <title>Moved Permanently</title>\n</head>\n<body>\n    <p>This page has moved to ".toList, ?_, ?_⟩
    · repeat rw [String.toList_ofList]
      rfl
    · repeat rw [String.toList_ofList]
      decide +kernel
  obtain ⟨before, hbefore, hfirst⟩ := hhead
  have htail : "</a>.</p>\n</body>\n</html>".toList = '<' :: '/' :: 'a' :: '>' :: ".</p>\n</body>\n</html>".toList := rfl
  have hmiddle : "\">".toList = ['"', '>'] := rfl
  refine ⟨before, ".</p>\n</body>\n</html>".toList, fun target => ?_, hfirst⟩
  unfold redirectPage
  rw [hbefore, htail, hmiddle, List.append_assoc, List.append_assoc, List.append_assoc]
  rfl

/-- **The link of a redirect's page is whole**: its value and its text are all that was written for them. -/
theorem link?_redirectPage : ∃ before after : List Char, ∀ target,
    redirectPage target = before ++ "<a href=\"".toList ++
      (escapeAttribute target ++ "\">".toList ++ (escapeText target ++ "</a>".toList ++ after)) ∧
    link? (redirectPage target) = some ⟨escapeAttribute target, escapeText target, "</a>".toList ++ after⟩ := by
  obtain ⟨before, after, hpage, hfirst⟩ := exists_redirectPage_eq
  refine ⟨before, after, fun target => ?_⟩
  obtain ⟨htakeValue, hdropValue⟩ := takeWhile_append_mark (not_mem_escapeAttribute target).1
    ('>' :: (escapeText target ++ '<' :: '/' :: 'a' :: '>' :: after))
  obtain ⟨htakeText, hdropText⟩ := takeWhile_append_mark (not_mem_escapeText target).1 ('/' :: 'a' :: '>' :: after)
  have hplace := afterFirst?_append (by decide)
    (escapeAttribute target ++ '"' :: '>' :: (escapeText target ++ '<' :: '/' :: 'a' :: '>' :: after)) hfirst
  constructor
  · rw [hpage]
    simp
  · rw [link?, hpage, hplace, Option.bind_some, hdropValue, htakeValue]
    simp only [htakeText, hdropText]
    rfl

namespace Service

variable {q : Request} {reading : Reading} {s : Service}

/-! ## The redirect of a review -/

theorem isHeaderChar_reviewTarget {query : Option (List Char)}
    (h : ∀ cs, query = some cs → ∀ c ∈ cs, Http.isHeaderChar c = true) :
    (reviewTarget query).all Http.isHeaderChar = true := by
  have hpath : explorePath.all Http.isHeaderChar = true := by decide
  unfold reviewTarget
  split
  · next c cs =>
    rw [List.all_append, hpath, Bool.true_and, List.all_cons, List.all_eq_true.2 (h _ rfl)]
    decide
  · exact hpath

/-- The headers around a response are not those of a redirect. -/
theorem handle_location (hq : q.method ≠ "OPTIONS") (reading : Reading) (s : Service) :
    (handle reading q s).1.headers.filter (fun h => h.1 == "location") =
      (dispatch reading.now q s).1.headers.filter fun h => h.1 == "location" := by
  rw [handle, if_neg hq]
  by_cases hhead : q.method = "HEAD"
  · simp only [if_pos hhead]
    rfl
  · simp only [if_neg hhead]
    rfl

/-- **A review is redirected**, whatever is stored. -/
theorem handle_review {query : Option (List Char)} (hq : q.method = "GET" ∨ q.method = "HEAD")
    (htarget : Target.read q.target = ⟨Route.review.path, query⟩)
    (hquery : ∀ cs, query = some cs → ∀ c ∈ cs, Http.isHeaderChar c = true) (reading : Reading) (s : Service) :
    (handle reading q s).1.status = 301 ∧
      (handle reading q s).1.headers.filter (fun h => h.1 == "location") =
        [("location", String.ofList (reviewTarget query))] ∧
      (q.method = "GET" → (handle reading q s).1.body.toList = redirectPage (reviewTarget query)) := by
  have hoptions : q.method ≠ "OPTIONS" := by
    rcases hq with h | h <;> rw [h] <;> decide
  have hpath : (Target.read q.target).path = Route.review.path := by rw [htarget]
  have hresponse : (dispatch reading.now q s).1 =
      (Response.html 301 (String.ofList (redirectPage (reviewTarget query)))).withHeader
        ("location", String.ofList (reviewTarget query)) := by
    rw [dispatch_get hq hpath, get, htarget, redirect, if_pos (isHeaderChar_reviewTarget hquery)]
  refine ⟨?_, ?_, fun hget => ?_⟩
  · rw [handle_status hoptions, hresponse]
    rfl
  · rw [handle_location hoptions, hresponse]
    rfl
  · have hhead : q.method ≠ "HEAD" := by
      rw [hget]
      decide
    rw [handle_body hoptions hhead, hresponse]
    exact String.toList_ofList

theorem reviewTarget_some {cs : List Char} (h : cs ≠ []) :
    String.ofList (reviewTarget (some cs)) = "/explore?" ++ String.ofList cs := by
  obtain ⟨c, cs, rfl⟩ := List.exists_cons_of_ne_nil h
  have hpath : "/explore?" = String.ofList (explorePath ++ ['?']) := by decide
  rw [hpath, ← String.ofList_append, List.append_assoc]
  rfl

/-- **A redirect cannot be broken out of and keeps its target.**  Whatever the target, the link on the page has no
delimiter in its value or in its text, and both are read as the target, whichever references there are besides.  A review
is redirected to the explorer with the very query it had, in the header and in the link. -/
theorem redirect_exact (r : References) :
    (∃ before after : List Char, ∀ target, ∃ href text,
      redirectPage target = before ++ "<a href=\"".toList ++
        (href ++ "\">".toList ++ (text ++ "</a>".toList ++ after)) ∧
      link? (redirectPage target) = some ⟨href, text, "</a>".toList ++ after⟩ ∧
      ('"' ∉ href ∧ '<' ∉ href ∧ '>' ∉ href) ∧ ('<' ∉ text ∧ '>' ∉ text) ∧
      r.decodeAttribute href = target ∧ r.decodeText text = target) ∧
    ∀ (q : Request) (query : Option (List Char)) (reading : Reading) (s : Service),
      q.method = "GET" ∨ q.method = "HEAD" → Target.read q.target = ⟨Route.review.path, query⟩ →
      (∀ cs, query = some cs → ∀ c ∈ cs, Http.isHeaderChar c = true) →
      ∃ location,
        (handle reading q s).1.status = 301 ∧
        (handle reading q s).1.headers.filter (fun h => h.1 == "location") = [("location", location)] ∧
        (query = none ∨ query = some [] → location = "/explore") ∧
        (∀ cs, query = some cs → cs ≠ [] → location = "/explore?" ++ String.ofList cs) ∧
        (q.method = "GET" → ∃ l, link? (handle reading q s).1.body.toList = some l ∧
          r.decodeAttribute l.href = location.toList) := by
  obtain ⟨before, after, hpage⟩ := link?_redirectPage
  constructor
  · refine ⟨before, after, fun target => ?_⟩
    obtain ⟨hwritten, hlink⟩ := hpage target
    exact ⟨_, _, hwritten, hlink, not_mem_escapeAttribute target, not_mem_escapeText target,
      r.decodeAttribute_escapeAttribute target, r.decodeText_escapeText target⟩
  · intro q query reading s hmethod htarget hquery
    obtain ⟨hstatus, hlocation, hbody⟩ := handle_review hmethod htarget hquery reading s
    refine ⟨_, hstatus, hlocation, ?_, ?_, fun hget => ?_⟩
    · rintro (rfl | rfl) <;> rfl
    · rintro cs rfl hcs
      exact reviewTarget_some hcs
    · obtain ⟨-, hlink⟩ := hpage (reviewTarget query)
      rw [← hbody hget] at hlink
      exact ⟨_, hlink, by rw [r.decodeAttribute_escapeAttribute, String.toList_ofList]⟩

/-- A review whose query has quotes in it, and a reference to one. -/
def quotedReview : Request := ⟨"GET", "/review?a=\"&quot;\"", [], Text.ofString ""⟩

theorem redirect_exact_quoted : ∃ (reading : Reading) (s : Service),
    Target.read quotedReview.target = ⟨Route.review.path, some "a=\"&quot;\"".toList⟩ ∧
    (handle reading quotedReview s).1.headers.filter (fun h => h.1 == "location") =
      [("location", "/explore?a=\"&quot;\"")] ∧
    ∃ l, link? (handle reading quotedReview s).1.body.toList = some l ∧
      References.basic.decodeAttribute l.href = "/explore?a=\"&quot;\"".toList := by
  have hread : Target.read quotedReview.target = ⟨Route.review.path, some "a=\"&quot;\"".toList⟩ := by decide
  have hheader : ∀ cs, some "a=\"&quot;\"".toList = some cs → ∀ c ∈ cs, Http.isHeaderChar c = true := by
    intro cs hcs
    cases hcs
    exact List.all_eq_true.1 (by decide)
  obtain ⟨location, -, hlocation, -, hquery, hlink⟩ := (redirect_exact References.basic).2 quotedReview _
    ⟨.epoch, 0⟩ (Service.start .standard .empty) (.inl rfl) hread hheader
  have hvalue : location = "/explore?a=\"&quot;\"" := (hquery _ rfl (by decide)).trans (by decide)
  rw [hvalue] at hlocation hlink
  exact ⟨_, _, hread, hlocation, hlink rfl⟩

end Service

end ConfigService
