import Phrasebook.Proofs.Markup.SinglePass
import Phrasebook.Markup.Interpolate

/-!
# The tag pass

The tag pass finds the spans `<name>content</name>` of a text with the pattern
`<(\w+)>([^<]*)</(\w+)>`, searching from left to right for the leftmost match and going on
after it, and hands the spans whose two words agree and that have a handler to their handlers.

* `MatchesAt sp cs`     the pattern matches the span `sp` at the start of `cs`;
* `NoMatchIn gap rest`  no match starts inside `gap`, which `rest` follows;
* `Leftmost cs segs`    `segs` are the gaps and spans of the leftmost-first, non-overlapping
                        matches in `cs`;
* `cutAtHandled`        the segments cut at the handled spans, each with the text since the
                        previous one, and the text after the last;
* `tagParts`            the parts that text and the handlers' outputs make.

At a position the pattern matches at most one span (`MatchesAt.unique`), so `Leftmost` has one
solution (`Leftmost.unique`), and `segments` computes it (`segments_leftmost`). The main
statement is `interpolate_reconstructs`.
-/

namespace Phrasebook.Markup

open Text

def Span.Shaped (sp : Span) : Prop :=
  sp.opening.toList ≠ [] ∧ (∀ c ∈ sp.opening.toList, isWordChar c = true) ∧
    '<' ∉ sp.content.toList ∧ sp.closing.toList ≠ [] ∧
    ∀ c ∈ sp.closing.toList, isWordChar c = true

/-- the tag pattern matches `sp` at the start of `cs` -/
def MatchesAt (sp : Span) (cs : List Char) : Prop := sp.Shaped ∧ sp.raw.toList <+: cs

/-- no match of the tag pattern starts inside `gap`, which `rest` follows -/
def NoMatchIn (gap rest : List Char) : Prop :=
  ∀ a b, gap = a ++ b → b ≠ [] → ∀ sp, ¬ MatchesAt sp (b ++ rest)

/-- the leftmost-first, non-overlapping matches of the tag pattern cut `cs` into the segments
`segs`: a gap in which no match starts, then the match at the end of the gap, and so on after the
match, down to a last gap -/
inductive Leftmost : List Char → List Segment → Prop
  | last {cs : List Char} : NoMatchIn cs [] → Leftmost cs [.text (String.ofList cs)]
  | span {gap rest : List Char} {sp : Span} {segs : List Segment} :
      NoMatchIn gap (sp.raw.toList ++ rest) → sp.Shaped → Leftmost rest segs →
      Leftmost (gap ++ (sp.raw.toList ++ rest)) (.text (String.ofList gap) :: .span sp :: segs)

/-! ## One match at a position -/

theorem Span.raw_toList (sp : Span) : sp.raw.toList =
    '<' :: (sp.opening.toList ++ '>' :: (sp.content.toList ++ '<' :: '/' ::
      (sp.closing.toList ++ ['>']))) := by
  simp [Span.raw]

theorem not_matchesAt_of_ne {sp : Span} {c : Char} {rest : List Char} (hc : c ≠ '<') :
    ¬ MatchesAt sp (c :: rest) := by
  rintro ⟨-, hpre⟩
  rw [Span.raw_toList] at hpre
  exact hc (List.cons_prefix_cons.1 hpre).1.symm

theorem MatchesAt.split {sp : Span} {cs : List Char} (h : MatchesAt sp cs) :
    ∃ t, cs = '<' :: (sp.opening.toList ++ '>' :: (sp.content.toList ++ '<' :: '/' ::
      (sp.closing.toList ++ '>' :: t))) := by
  obtain ⟨-, t, ht⟩ := h
  exact ⟨t, by rw [← ht, Span.raw_toList]; simp⟩

/-- the pattern matches at most one span at a position: each word runs to the first character
that is not a word character, and the content to the first `<` -/
theorem MatchesAt.unique {sp sp' : Span} {cs : List Char} (h : MatchesAt sp cs)
    (h' : MatchesAt sp' cs) : sp = sp' := by
  obtain ⟨t, rfl⟩ := h.split
  obtain ⟨t', ht⟩ := h'.split
  obtain ⟨-, how, hc, -, hclw⟩ := h.1
  obtain ⟨-, how', hc', -, hclw'⟩ := h'.1
  have word : ∀ {w : List Char}, (∀ c ∈ w, isWordChar c = true) →
      ∀ c ∈ w, ¬ isWordChar c = false := fun hw c hc hf => by simp [hw c hc] at hf
  have noLt : ∀ {w : List Char}, '<' ∉ w → ∀ c ∈ w, ¬ c = '<' := fun hw c hc he => hw (he ▸ hc)
  have hgt : isWordChar '>' = false := by decide
  simp only [List.cons.injEq, true_and] at ht
  obtain ⟨ho, -, ht⟩ := append_cons_inj (P := fun c => isWordChar c = false) (word how)
    (word how') hgt hgt ht
  obtain ⟨hcontent, -, ht⟩ := append_cons_inj (P := fun c => c = '<') (noLt hc) (noLt hc') rfl
    rfl ht
  simp only [List.cons.injEq, true_and] at ht
  obtain ⟨hcl, -, -⟩ := append_cons_inj (P := fun c => isWordChar c = false) (word hclw)
    (word hclw') hgt hgt ht
  obtain ⟨o, c, cl⟩ := sp
  obtain ⟨o', c', cl'⟩ := sp'
  simp only [String.toList_inj] at ho hcontent hcl
  subst ho hcontent hcl
  rfl

theorem first_match_unique {gap gap' rest rest' : List Char} {sp sp' : Span}
    (hno : NoMatchIn gap (sp.raw.toList ++ rest)) (hno' : NoMatchIn gap' (sp'.raw.toList ++ rest'))
    (hsh : sp.Shaped) (hsh' : sp'.Shaped)
    (h : gap ++ (sp.raw.toList ++ rest) = gap' ++ (sp'.raw.toList ++ rest')) :
    gap = gap' ∧ sp = sp' ∧ rest = rest' := by
  have hm : MatchesAt sp (sp.raw.toList ++ rest) := ⟨hsh, List.prefix_append _ _⟩
  have hm' : MatchesAt sp' (sp'.raw.toList ++ rest') := ⟨hsh', List.prefix_append _ _⟩
  rcases List.append_eq_append_iff.1 h with ⟨d, rfl, hd⟩ | ⟨d, rfl, hd⟩
  · cases d with
    | nil =>
      rw [List.nil_append] at hd
      obtain rfl := hm.unique (hd ▸ hm')
      exact ⟨by simp, rfl, List.append_cancel_left hd⟩
    | cons x d => exact absurd (hd ▸ hm) (hno' gap _ rfl (List.cons_ne_nil x d) sp)
  · cases d with
    | nil =>
      rw [List.nil_append] at hd
      obtain rfl := hm.unique (hd ▸ hm')
      exact ⟨by simp, rfl, (List.append_cancel_left hd).symm⟩
    | cons x d => exact absurd (hd ▸ hm') (hno gap' _ rfl (List.cons_ne_nil x d) sp')

/-- the leftmost-first matches of a text are determined by the text -/
theorem Leftmost.unique {cs : List Char} {segs segs' : List Segment} (h : Leftmost cs segs)
    (h' : Leftmost cs segs') : segs = segs' := by
  induction h generalizing segs' with
  | last hno =>
    cases h' with
    | last _ => rfl
    | span _ hsh' _ =>
      exact absurd ⟨hsh', by simp⟩ (hno _ _ rfl (by simp [Span.raw_toList]) _)
  | @span gap rest sp segs hno hsh _ ih =>
    generalize hcs : gap ++ (sp.raw.toList ++ rest) = cs' at h'
    cases h' with
    | last hno' =>
      subst hcs
      exact absurd ⟨hsh, by simp⟩ (hno' _ _ rfl (by simp [Span.raw_toList]) _)
    | span hno' hsh' hrest' =>
      obtain ⟨rfl, rfl, rfl⟩ := first_match_unique hno hno' hsh hsh' hcs
      rw [ih hrest']

/-! ## Reading a span -/

theorem takeWhile_append_drop_length (p : Char → Bool) :
    ∀ l : List Char, l.takeWhile p ++ l.drop (l.takeWhile p).length = l
  | [] => rfl
  | c :: l => by
    by_cases hc : p c = true
    · simp [List.takeWhile_cons_of_pos hc, takeWhile_append_drop_length p l]
    · simp [List.takeWhile_cons_of_neg hc]

theorem takeWhile_run {p : Char → Bool} {w rest : List Char} {x : Char} (hw : ∀ c ∈ w, p c = true)
    (hx : p x = false) : (w ++ x :: rest).takeWhile p = w := by
  rw [List.takeWhile_append_of_pos hw, List.takeWhile_cons_of_neg (by simp [hx]), List.append_nil]

theorem readSpan_of_shaped {sp : Span} (hsh : sp.Shaped) (t : List Char) :
    readSpan (sp.opening.toList ++ '>' :: (sp.content.toList ++ '<' :: '/' ::
      (sp.closing.toList ++ '>' :: t))) =
      some (sp, sp.opening.toList.length + sp.content.toList.length + sp.closing.toList.length + 4) := by
  obtain ⟨hne, how, hc, hcne, hclw⟩ := hsh
  have hgt : isWordChar '>' = false := by decide
  have hcontent : ∀ c ∈ sp.content.toList, (c != '<') = true := fun c hmem => by
    simp only [bne_iff_ne, ne_eq]
    exact fun he => hc (he ▸ hmem)
  unfold readSpan
  simp only [takeWhile_run how hgt, List.drop_left, takeWhile_run hcontent (by decide : ('<' != '<') = false),
    takeWhile_run hclw hgt]
  simp [hne, hcne]

theorem readSpan_eq_some {cs : List Char} {sp : Span} {n : Nat} (h : readSpan cs = some (sp, n)) :
    sp.Shaped ∧ '<' :: cs = sp.raw.toList ++ cs.drop n := by
  have hcs := takeWhile_append_drop_length isWordChar cs
  unfold readSpan at h
  dsimp only at h
  split at h
  · rename_i r hr
    have hr' := takeWhile_append_drop_length (· != '<') r
    split at h
    · rename_i more hmore
      have hmore' := takeWhile_append_drop_length isWordChar more
      split at h
      · rename_i t ht
        split at h
        · cases h
        · rename_i hne
          simp only [Option.some.injEq, Prod.mk.injEq] at h
          obtain ⟨rfl, rfl⟩ := h
          have how : ∀ x ∈ cs.takeWhile isWordChar, isWordChar x = true :=
            fun x hx => List.mem_takeWhile_imp hx
          have hc : ∀ x ∈ r.takeWhile (· != '<'), (x != '<') = true :=
            fun x hx => List.mem_takeWhile_imp (p := fun y => y != '<') hx
          have hclw : ∀ x ∈ more.takeWhile isWordChar, isWordChar x = true :=
            fun x hx => List.mem_takeWhile_imp hx
          generalize cs.takeWhile isWordChar = o at hcs hr hne how ⊢
          generalize r.takeWhile (· != '<') = c at hr' hmore hc ⊢
          generalize more.takeWhile isWordChar = cl at hmore' ht hne hclw ⊢
          rw [hr] at hcs
          rw [hmore] at hr'
          rw [ht] at hmore'
          subst hcs hr' hmore'
          simp only [Bool.or_eq_true, List.isEmpty_iff, not_or] at hne
          refine ⟨⟨by simpa using hne.1, fun x hx => ?_, fun hx => ?_, by simpa using hne.2,
            fun x hx => ?_⟩, ?_⟩
          · exact how x (by simpa using hx)
          · simpa using hc '<' (by simpa using hx)
          · exact hclw x (by simpa using hx)
          · have hsplit : o ++ '>' :: (c ++ '<' :: '/' :: (cl ++ '>' :: t)) =
                (o ++ '>' :: (c ++ '<' :: '/' :: (cl ++ ['>']))) ++ t := by simp
            rw [hsplit, List.drop_left' (by simp; omega)]
            simp [Span.raw_toList]
      · cases h
    · cases h
  · cases h

/-! ## The search -/

theorem noMatchIn_nil (rest : List Char) : NoMatchIn [] rest := by
  intro a b hab hb
  exact absurd (List.append_eq_nil_iff.1 hab.symm).2 hb

theorem NoMatchIn.snoc {gap rest : List Char} {c : Char} (h : NoMatchIn gap (c :: rest))
    (hc : ∀ sp, ¬ MatchesAt sp (c :: rest)) : NoMatchIn (gap ++ [c]) rest := by
  intro a b hab hb sp hm
  rcases List.append_eq_append_iff.1 hab.symm with ⟨d, rfl, rfl⟩ | ⟨d, rfl, hd⟩
  · cases d with
    | nil => exact hc sp (by simpa using hm)
    | cons x d => exact h a (x :: d) rfl (List.cons_ne_nil x d) sp (by simpa using hm)
  · obtain ⟨rfl, rfl⟩ : d = [] ∧ b = [c] := by
      cases d with
      | nil => simpa using hd.symm
      | cons x d => simp at hd; exact absurd hd.2.2 hb
    exact hc sp hm

theorem scan_leftmost (cs pending : List Char) (h : NoMatchIn pending.reverse cs) :
    Leftmost (pending.reverse ++ cs) (scan cs pending) := by
  fun_induction scan cs pending with
  | case1 pending =>
    rw [List.append_nil]
    exact .last h
  | case2 pending c rest hc sp n hread ih =>
    obtain ⟨hsh, hsplit⟩ := readSpan_eq_some hread
    obtain rfl : c = '<' := by simpa using hc
    rw [hsplit]
    refine .span (by rwa [← hsplit]) hsh ?_
    simpa using ih (noMatchIn_nil _)
  | case3 pending c rest hc hread ih =>
    obtain rfl : c = '<' := by simpa using hc
    have hno : ∀ sp, ¬ MatchesAt sp ('<' :: rest) := fun sp hm => by
      obtain ⟨t, ht⟩ := hm.split
      simp only [List.cons.injEq, true_and] at ht
      rw [ht, readSpan_of_shaped hm.1] at hread
      cases hread
    simpa using ih (by simpa using h.snoc hno)
  | case4 pending c rest hc ih =>
    have hc' : c ≠ '<' := by simpa using hc
    simpa using ih (by simpa using h.snoc fun sp => not_matchesAt_of_ne hc')

/-- the segments of a text are its leftmost-first, non-overlapping tag matches and the gaps
between them -/
theorem segments_leftmost (text : String) : Leftmost text.toList (segments text) := by
  simpa [segments] using scan_leftmost text.toList [] (noMatchIn_nil _)

def Segment.raw : Segment → String
  | .text s => s
  | .span sp => sp.raw

theorem Leftmost.flatMap_raw {cs : List Char} {segs : List Segment} (h : Leftmost cs segs) :
    segs.flatMap (fun seg => seg.raw.toList) = cs := by
  induction h with
  | last _ => simp [Segment.raw]
  | span _ _ _ ih =>
    rw [List.flatMap_cons, List.flatMap_cons, ih]
    simp [Segment.raw]

/-! ## Handled spans and the parts they make -/

def Span.handled (vs : Values) (reg : TagRegistry) (sp : Span) : Bool :=
  sp.opening == sp.closing && ((reg.get? sp.opening).isSome || (vs.tag? sp.opening).isSome)

def runHandler (l : Locale) : Option TagHandler → Part → Part
  | some h, p => h.run p l
  | none, p => p

def Span.output (vs : Values) (reg : TagRegistry) (l : Locale) (sp : Span) : Part :=
  runHandler l (vs.tag? sp.opening)
    (runHandler l (reg.get? sp.opening) (.text (tagContent sp.content vs)))

def textPart (t : String) : List Part := if t.isEmpty then [] else [.text t]

def handledSpans (vs : Values) (reg : TagRegistry) (segs : List Segment) : List Span :=
  segs.filterMap fun
    | .span sp => if sp.handled vs reg then some sp else none
    | .text _ => none

def prependText (t : String) : List (String × Span) × String → List (String × Span) × String
  | ([], tail) => ([], t ++ tail)
  | ((t', sp) :: pieces, tail) => ((t ++ t', sp) :: pieces, tail)

/-- segments cut at their handled spans: each handled span with the text since the previous one
(or since the start), and the text after the last one -/
def cutAtHandled (vs : Values) (reg : TagRegistry) : List Segment → List (String × Span) × String
  | [] => ([], "")
  | .text s :: rest => prependText s (cutAtHandled vs reg rest)
  | .span sp :: rest =>
    if sp.handled vs reg then (("", sp) :: (cutAtHandled vs reg rest).1, (cutAtHandled vs reg rest).2)
    else prependText sp.raw (cutAtHandled vs reg rest)

def pieceParts (vs : Values) (reg : TagRegistry) (l : Locale) (pieces : List (String × Span)) :
    List Part :=
  pieces.flatMap fun piece => textPart piece.1 ++ [piece.2.output vs reg l]

/-- the parts of the tag pass: for each handled span the text before it, when not empty, and the
span's output; then the text after the last handled span, when not empty -/
def tagParts (vs : Values) (reg : TagRegistry) (l : Locale) (segs : List Segment) : List Part :=
  pieceParts vs reg l (cutAtHandled vs reg segs).1 ++ textPart (cutAtHandled vs reg segs).2

section
variable {vs : Values} {reg : TagRegistry} {l : Locale}

theorem prependText_map_snd (t : String) (cut : List (String × Span) × String) :
    (prependText t cut).1.map Prod.snd = cut.1.map Prod.snd := by
  obtain ⟨_ | ⟨⟨t', sp⟩, pieces⟩, tail⟩ := cut <;> rfl

theorem cutAtHandled_map_snd :
    ∀ segs : List Segment, (cutAtHandled vs reg segs).1.map Prod.snd = handledSpans vs reg segs
  | [] => rfl
  | .text s :: rest => by
    rw [cutAtHandled, prependText_map_snd, cutAtHandled_map_snd rest]
    simp [handledSpans]
  | .span sp :: rest => by
    by_cases hsp : sp.handled vs reg = true
    · simp [cutAtHandled, hsp, cutAtHandled_map_snd rest, handledSpans]
    · rw [cutAtHandled, if_neg hsp, prependText_map_snd, cutAtHandled_map_snd rest]
      simp [handledSpans, hsp]

theorem prependText_covers (t : String) (cut : List (String × Span) × String) :
    (prependText t cut).1.flatMap (fun piece => piece.1.toList ++ piece.2.raw.toList) ++
        (prependText t cut).2.toList =
      t.toList ++ (cut.1.flatMap (fun piece => piece.1.toList ++ piece.2.raw.toList) ++
        cut.2.toList) := by
  obtain ⟨_ | ⟨⟨t', sp⟩, pieces⟩, tail⟩ := cut <;> simp [prependText]

theorem cutAtHandled_covers :
    ∀ segs : List Segment,
      (cutAtHandled vs reg segs).1.flatMap (fun piece => piece.1.toList ++ piece.2.raw.toList) ++
        (cutAtHandled vs reg segs).2.toList = segs.flatMap fun seg => seg.raw.toList
  | [] => by simp [cutAtHandled]
  | .text s :: rest => by
    rw [cutAtHandled, prependText_covers, cutAtHandled_covers rest, List.flatMap_cons]
    rfl
  | .span sp :: rest => by
    by_cases hsp : sp.handled vs reg = true
    · simp only [cutAtHandled, hsp, if_true, List.flatMap_cons, List.append_assoc]
      rw [← List.append_assoc, cutAtHandled_covers rest]
      simp [Segment.raw]
    · rw [cutAtHandled, if_neg hsp, prependText_covers, cutAtHandled_covers rest,
        List.flatMap_cons]
      rfl

theorem step_text (p : Progress) (s : String) :
    step vs reg l p (.text s) = { p with pending := p.pending ++ s } := rfl

theorem step_span_unhandled (p : Progress) {sp : Span} (h : sp.handled vs reg = false) :
    step vs reg l p (.span sp) = { p with pending := p.pending ++ sp.raw } := by
  rw [step]
  dsimp only
  rw [if_pos]
  cases hg : reg.get? sp.opening <;> cases hi : vs.tag? sp.opening <;>
    simp_all [Span.handled, bne]

theorem step_span_handled (p : Progress) {sp : Span} (h : sp.handled vs reg = true) :
    step vs reg l p (.span sp) = ⟨p.parts ++ textPart p.pending ++ [sp.output vs reg l], "", true⟩ := by
  rw [step]
  dsimp only
  rw [if_neg]
  · cases hp : p.pending.isEmpty <;> cases hg : reg.get? sp.opening <;>
      cases hi : vs.tag? sp.opening <;> simp [textPart, hp, Span.output, runHandler, hg, hi]
  · cases hg : reg.get? sp.opening <;> cases hi : vs.tag? sp.opening <;>
      simp_all [Span.handled, bne]

theorem foldl_step : ∀ (segs : List Segment) (p : Progress),
    segs.foldl (step vs reg l) p =
      match cutAtHandled vs reg segs with
      | ([], tail) => { p with pending := p.pending ++ tail }
      | ((t, sp) :: pieces, tail) =>
        ⟨p.parts ++ textPart (p.pending ++ t) ++ [sp.output vs reg l] ++
          pieceParts vs reg l pieces, tail, true⟩
  | [], ⟨parts, pending, handled⟩ => by simp [cutAtHandled]
  | .text s :: rest, p => by
    rw [List.foldl_cons, step_text, foldl_step rest, cutAtHandled]
    cases cutAtHandled vs reg rest with
    | mk pieces tail =>
      cases pieces with
      | nil => simp [prependText, String.append_assoc]
      | cons piece pieces => simp [prependText, String.append_assoc]
  | .span sp :: rest, p => by
    by_cases hsp : sp.handled vs reg = true
    · rw [List.foldl_cons, step_span_handled p hsp, foldl_step rest, cutAtHandled, if_pos hsp]
      cases cutAtHandled vs reg rest with
      | mk pieces tail =>
        cases pieces with
        | nil => simp [pieceParts]
        | cons piece pieces => simp [pieceParts]
    · rw [List.foldl_cons, step_span_unhandled p (by simpa using hsp), foldl_step rest,
        cutAtHandled, if_neg hsp]
      cases cutAtHandled vs reg rest with
      | mk pieces tail =>
        cases pieces with
        | nil => simp [prependText, String.append_assoc]
        | cons piece pieces => simp [prependText, String.append_assoc]

theorem interpolate_eq (text : String) :
    interpolate text vs reg l =
      if handledSpans vs reg (segments text) = [] then .text (substitute text vs)
      else .parts (tagParts vs reg l (segments text)) := by
  unfold interpolate tagParts
  rw [foldl_step, ← cutAtHandled_map_snd]
  cases cutAtHandled vs reg (segments text) with
  | mk pieces tail =>
    cases pieces with
    | nil => simp
    | cons piece pieces =>
      cases htail : tail.isEmpty <;> simp [pieceParts, textPart, htail]

theorem tagContent_of_placeholder {content v : String} {s : Scalar}
    (hc : content.toList = '{' :: (v.toList ++ ['}'])) (hv : v.toList ≠ [])
    (hw : ∀ c ∈ v.toList, isWordChar c = true) (hs : vs.scalar? v = some s) :
    tagContent content vs = s.display := by
  have hall : v.toList.all isWordChar = true := List.all_eq_true.2 hw
  unfold tagContent
  rw [hc]
  simp [hv, hall, hs]

theorem tagContent_of_not {content : String}
    (h : ∀ v s, content.toList = '{' :: (v.toList ++ ['}']) → v.toList ≠ [] →
      (∀ c ∈ v.toList, isWordChar c = true) → vs.scalar? v ≠ some s) :
    tagContent content vs = content := by
  unfold tagContent
  split
  · rename_i rest hrest
    split
    · rename_i nameRev hname
      dsimp only
      split
      · rename_i hword
        split
        · rename_i s hs
          have hrest' : rest = nameRev.reverse ++ ['}'] := by
            rw [← List.reverse_reverse rest, hname]
            simp
          simp only [Bool.and_eq_true, Bool.not_eq_true', List.isEmpty_eq_false_iff,
            List.all_eq_true] at hword
          exact absurd hs (h (String.ofList nameRev.reverse) s (by simp [hrest, hrest'])
            (by simpa using hword.1) (by simpa using hword.2))
        · rfl
      · rfl
    · rfl
  · rfl

end

/-- The tag pass rebuilds the text from its matches. The segments of a text are its unique
decomposition into the leftmost-first, non-overlapping matches of `<(\w+)>([^<]*)</(\w+)>` and
the gaps between them. When no match has equal words and a handler, interpolation is
substitution alone; otherwise it gives, for each handled span in order, the text since the
previous handled span when not empty and the span's handled content, then the text after the
last handled span when not empty. Those texts with the handled spans' own text make up the text
byte for byte, unhandled and mismatched spans and placeholders included. A span's content goes
to its handlers as the text of the value of the single placeholder `{v}` that it is, when `v` is a
word with a scalar value, and as itself otherwise. -/
theorem interpolate_reconstructs (text : String) (vs : Values) (reg : TagRegistry) (l : Locale) :
    Leftmost text.toList (segments text) ∧
    (∀ segs, Leftmost text.toList segs → segs = segments text) ∧
    interpolate text vs reg l =
      (if handledSpans vs reg (segments text) = [] then .text (substitute text vs)
        else .parts (tagParts vs reg l (segments text))) ∧
    (cutAtHandled vs reg (segments text)).1.map Prod.snd = handledSpans vs reg (segments text) ∧
    (cutAtHandled vs reg (segments text)).1.flatMap
        (fun piece => piece.1.toList ++ piece.2.raw.toList) ++
      (cutAtHandled vs reg (segments text)).2.toList = text.toList ∧
    (∀ content v s, content.toList = '{' :: (v.toList ++ ['}']) → v.toList ≠ [] →
      (∀ c ∈ v.toList, isWordChar c = true) → vs.scalar? v = some s →
        tagContent content vs = s.display) ∧
    (∀ content, (∀ v s, content.toList = '{' :: (v.toList ++ ['}']) → v.toList ≠ [] →
      (∀ c ∈ v.toList, isWordChar c = true) → vs.scalar? v ≠ some s) →
        tagContent content vs = content) := by
  have hleft := segments_leftmost text
  refine ⟨hleft, fun segs h => h.unique hleft, interpolate_eq text, cutAtHandled_map_snd _, ?_,
    fun _ _ _ => tagContent_of_placeholder, fun _ => tagContent_of_not⟩
  rw [cutAtHandled_covers, hleft.flatMap_raw]

end Phrasebook.Markup
