import Phrasebook.Markup.Substitute
import Phrasebook.Proofs.Table.Lookup

/-!
# Substitution in one pass

`substitute` fills placeholders one name at a time, in name order, each name by a pass over the
whole text. A pass could make or break a placeholder of another name; on text whose braces do
not nest, with names and texts free of braces, it never does, and the passes add up to a single
pass that fills every placeholder at once.

* `BraceFree cs`       neither brace occurs in `cs`;
* `FlatBraces cs`      no `{` stands between a `{` and the next `}`;
* `fill σ cs`          the single left-to-right pass: every `{name}` with a brace-free name that
                       `σ` knows becomes `σ name`, and everything else is copied;
* `braces_induction`   induction over a text by its first braces: a character that opens nothing,
                       a `{` never closed, a placeholder, or a `{` opened again before it closes;
* `Values.substitution vs k`  the text of `k`'s value when it is text or a number.

One name's pass is a `fill` (`replaceAll_placeholder`), and two fills make one
(`fill_fill`), so a sequence of passes over distinct names is one fill whatever their order
(`foldl_replaceName_eq_fill`); a fill leaves no placeholder of a name it knows
(`placeholder_not_infix_fill`). The main statement is `substitute_eq_fill`.
-/

namespace Phrasebook.Markup

/-- neither brace occurs in a text -/
def BraceFree (cs : List Char) : Prop := '{' ∉ cs ∧ '}' ∉ cs

instance (cs : List Char) : Decidable (BraceFree cs) :=
  inferInstanceAs (Decidable ('{' ∉ cs ∧ '}' ∉ cs))

/-- no `{` stands between a `{` and the next `}` -/
def FlatBraces (cs : List Char) : Prop :=
  ∀ pre mid post, cs = pre ++ '{' :: (mid ++ '}' :: post) → '}' ∉ mid → '{' ∉ mid

def fillOne (σ : String → Option String) (name : List Char) : List Char :=
  match σ (String.ofList name) with
  | some d => d.toList
  | none => '{' :: (name ++ ['}'])

def fillScan (σ : String → Option String) : Option (List Char) → List Char → List Char
  | none, [] => []
  | some word, [] => '{' :: word.reverse
  | none, c :: rest => if c = '{' then fillScan σ (some []) rest else c :: fillScan σ none rest
  | some word, c :: rest =>
    if c = '}' then fillOne σ word.reverse ++ fillScan σ none rest
    else if c = '{' then '{' :: word.reverse ++ fillScan σ (some []) rest
    else fillScan σ (some (c :: word)) rest

/-- fills, in one pass from left to right, every placeholder `{name}` whose brace-free name `σ`
knows with its text, and copies everything else -/
def fill (σ : String → Option String) (cs : List Char) : List Char := fillScan σ none cs

def replaceName (acc : List Char) (e : String × String) : List Char :=
  replaceAll (placeholder e.1) e.2.toList acc

theorem placeholder_eq (k : String) : placeholder k = '{' :: (k.toList ++ ['}']) := rfl

/-! ## Braces -/

@[simp] theorem braceFree_nil : BraceFree [] := ⟨List.not_mem_nil, List.not_mem_nil⟩

@[simp] theorem braceFree_cons {c : Char} {cs : List Char} :
    BraceFree (c :: cs) ↔ (c ≠ '{' ∧ c ≠ '}') ∧ BraceFree cs := by
  simp only [BraceFree, List.mem_cons, not_or]
  constructor
  · rintro ⟨⟨h1, h2⟩, h3, h4⟩
    exact ⟨⟨Ne.symm h1, Ne.symm h3⟩, h2, h4⟩
  · rintro ⟨⟨h1, h3⟩, h2, h4⟩
    exact ⟨⟨Ne.symm h1, h2⟩, Ne.symm h3, h4⟩

theorem append_cons_inj {P : Char → Prop} {a b s t : List Char} {x y : Char}
    (ha : ∀ c ∈ a, ¬ P c) (hb : ∀ c ∈ b, ¬ P c) (hx : P x) (hy : P y)
    (h : a ++ x :: s = b ++ y :: t) : a = b ∧ x = y ∧ s = t := by
  induction a generalizing b with
  | nil =>
    cases b with
    | nil => simpa using h
    | cons c b =>
      obtain ⟨rfl, -⟩ := List.cons.inj h
      exact absurd hx (hb x List.mem_cons_self)
  | cons c a ih =>
    cases b with
    | nil =>
      obtain ⟨rfl, -⟩ := List.cons.inj h
      exact absurd hy (ha c List.mem_cons_self)
    | cons c' b =>
      obtain ⟨rfl, h'⟩ := List.cons.inj h
      obtain ⟨rfl, hxy, hst⟩ := ih (fun c' hc' => ha c' (List.mem_cons_of_mem _ hc'))
        (fun c' hc' => hb c' (List.mem_cons_of_mem _ hc')) h'
      exact ⟨rfl, hxy, hst⟩

theorem BraceFree.not_brace {cs : List Char} (h : BraceFree cs) :
    ∀ c ∈ cs, ¬ (c = '{' ∨ c = '}') := by
  rintro c hc (rfl | rfl)
  · exact h.1 hc
  · exact h.2 hc

theorem append_brace_inj {a b s t : List Char} {x y : Char} (ha : BraceFree a) (hb : BraceFree b)
    (hx : x = '{' ∨ x = '}') (hy : y = '{' ∨ y = '}') (h : a ++ x :: s = b ++ y :: t) :
    a = b ∧ x = y ∧ s = t :=
  append_cons_inj ha.not_brace hb.not_brace hx hy h

theorem exists_first_of_mem {x : Char} : ∀ {cs : List Char}, x ∈ cs →
    ∃ a b, cs = a ++ x :: b ∧ x ∉ a
  | c :: rest, h => by
    by_cases hc : c = x
    · exact ⟨[], rest, by rw [hc, List.nil_append], List.not_mem_nil⟩
    · obtain ⟨a, b, rfl, ha⟩ := exists_first_of_mem ((List.mem_cons.1 h).resolve_left (Ne.symm hc))
      refine ⟨c :: a, b, rfl, ?_⟩
      rw [List.mem_cons, not_or]
      exact ⟨Ne.symm hc, ha⟩

theorem braceFree_or_first_brace :
    ∀ cs : List Char, BraceFree cs ∨
      ∃ name b after, cs = name ++ b :: after ∧ BraceFree name ∧ (b = '{' ∨ b = '}')
  | [] => .inl braceFree_nil
  | c :: rest => by
    by_cases hc : c = '{' ∨ c = '}'
    · exact .inr ⟨[], c, rest, rfl, braceFree_nil, hc⟩
    · have hc' : c ≠ '{' ∧ c ≠ '}' := not_or.1 hc
      rcases braceFree_or_first_brace rest with h | ⟨name, b, after, rfl, hname, hb⟩
      · exact .inl (braceFree_cons.2 ⟨hc', h⟩)
      · exact .inr ⟨c :: name, b, after, rfl, braceFree_cons.2 ⟨hc', hname⟩, hb⟩

theorem placeholder_prefix_iff {k : String} (hk : BraceFree k.toList) {name after : List Char} {b : Char}
    (hname : BraceFree name) (hb : b = '{' ∨ b = '}') :
    placeholder k <+: '{' :: (name ++ b :: after) ↔ k.toList = name ∧ b = '}' := by
  rw [placeholder_eq, List.cons_prefix_cons]
  constructor
  · rintro ⟨-, t, ht⟩
    rw [List.append_assoc, List.singleton_append] at ht
    obtain ⟨hkn, hb', -⟩ := append_brace_inj hk hname (.inr rfl) hb ht
    exact ⟨hkn, hb'.symm⟩
  · rintro ⟨rfl, rfl⟩
    exact ⟨rfl, after, by simp⟩

/-- induction over a text by its first braces -/
theorem braces_induction {motive : List Char → Prop} (nil : motive [])
    (char : ∀ c rest, c ≠ '{' → motive rest → motive (c :: rest))
    (unclosed : ∀ name, BraceFree name → motive ('{' :: name))
    (closed : ∀ name after, BraceFree name → motive after → motive ('{' :: (name ++ '}' :: after)))
    (reopened : ∀ name after, BraceFree name → motive ('{' :: after) →
      motive ('{' :: (name ++ '{' :: after)))
    (cs : List Char) : motive cs := by
  suffices h : ∀ n, ∀ cs : List Char, cs.length ≤ n → motive cs from h cs.length cs le_rfl
  intro n
  induction n with
  | zero =>
    intro cs hcs
    rw [List.eq_nil_of_length_eq_zero (Nat.le_zero.1 hcs)]
    exact nil
  | succ n ih =>
    intro cs hcs
    match cs with
    | [] => exact nil
    | c :: rest =>
      have hrest : rest.length ≤ n := Nat.le_of_succ_le_succ hcs
      by_cases hc : c = '{'
      · subst hc
        rcases braceFree_or_first_brace rest with hfree | ⟨name, b, after, rfl, hname, rfl | rfl⟩
        · exact unclosed rest hfree
        · have hlen : ('{' :: after).length ≤ n := by
            simp only [List.length_append, List.length_cons] at hrest ⊢
            omega
          exact reopened name after hname (ih _ hlen)
        · have hlen : after.length ≤ n := by
            simp only [List.length_append, List.length_cons] at hrest
            omega
          exact closed name after hname (ih _ hlen)
      · exact char c rest hc (ih rest hrest)

namespace FlatBraces

variable {cs : List Char}

theorem of_append (pre : List Char) (h : FlatBraces (pre ++ cs)) : FlatBraces cs :=
  fun pre' mid post hcs => h (pre ++ pre') mid post (by rw [hcs, List.append_assoc])

theorem of_closed {name : List Char} (h : FlatBraces ('{' :: (name ++ '}' :: cs))) :
    FlatBraces cs :=
  of_append ('{' :: (name ++ ['}'])) (by simpa using h)

theorem of_reopened {name after : List Char} (h : FlatBraces ('{' :: (name ++ '{' :: after)))
    (hname : BraceFree name) : '}' ∉ after := by
  intro hmem
  obtain ⟨a, b, rfl, ha⟩ := exists_first_of_mem hmem
  have hmid : '}' ∉ name ++ '{' :: a := by
    simp only [List.mem_append, List.mem_cons, not_or]
    exact ⟨hname.2, by decide, ha⟩
  exact h [] (name ++ '{' :: a) b (by simp) hmid (by simp)

theorem nil : FlatBraces [] := fun pre mid post h => by simp at h

theorem cons {c : Char} (hc : c ≠ '{') (h : FlatBraces cs) : FlatBraces (c :: cs) := by
  intro pre mid post hcs
  cases pre with
  | nil => exact absurd (List.cons.inj hcs).1 hc
  | cons c' pre => exact h pre mid post (List.cons.inj hcs).2

theorem placeholder {name : List Char} (hname : BraceFree name) (h : FlatBraces cs) :
    FlatBraces ('{' :: (name ++ '}' :: cs)) := by
  intro pre mid post hcs hmid
  cases pre with
  | nil =>
    simp only [List.nil_append, List.cons.injEq, true_and] at hcs
    have hmid' : ∀ c ∈ mid, ¬ c = '}' := fun c hc h' => hmid (h' ▸ hc)
    have hname' : ∀ c ∈ name, ¬ c = '}' := fun c hc h' => hname.2 (h' ▸ hc)
    obtain ⟨rfl, -⟩ := append_cons_inj hname' hmid' rfl rfl hcs
    exact hname.1
  | cons c pre =>
    simp only [List.cons_append, List.cons.injEq] at hcs
    obtain ⟨-, hcs⟩ := hcs
    rcases braceFree_or_first_brace pre with hpre | ⟨p, b, p', rfl, hp, hb⟩
    · exact absurd (append_brace_inj hname hpre (.inr rfl) (.inl rfl) hcs).2.1 (by decide)
    · rw [List.append_assoc, List.cons_append] at hcs
      obtain ⟨rfl, rfl, rfl⟩ := append_brace_inj hname hp (.inr rfl) hb hcs
      exact h p' mid post rfl hmid

end FlatBraces

/-! ## The single pass -/

section
variable {σ τ : String → Option String}

theorem fillScan_word {name : List Char} (hname : BraceFree name) (acc rest : List Char) :
    fillScan σ (some acc) (name ++ rest) = fillScan σ (some (name.reverse ++ acc)) rest := by
  induction name generalizing acc with
  | nil => rfl
  | cons c name ih =>
    rw [braceFree_cons] at hname
    rw [List.cons_append, fillScan, if_neg hname.1.2, if_neg hname.1.1, ih hname.2]
    simp

theorem fillOne_of_some {name : List Char} {d : String} (h : σ (String.ofList name) = some d) :
    fillOne σ name = d.toList := by
  simp [fillOne, h]

theorem fillOne_of_none {name : List Char} (h : σ (String.ofList name) = none) :
    fillOne σ name = '{' :: (name ++ ['}']) := by
  simp [fillOne, h]

@[simp] theorem fill_nil : fill σ [] = [] := rfl

theorem fill_char {c : Char} (hc : c ≠ '{') (rest : List Char) :
    fill σ (c :: rest) = c :: fill σ rest := by
  simp [fill, fillScan, hc]

theorem fill_unclosed {name : List Char} (hname : BraceFree name) :
    fill σ ('{' :: name) = '{' :: name := by
  have h := fillScan_word (σ := σ) hname [] []
  rw [List.append_nil, List.append_nil] at h
  simp [fill, fillScan, h]

theorem fill_closed {name : List Char} (hname : BraceFree name) (after : List Char) :
    fill σ ('{' :: (name ++ '}' :: after)) = fillOne σ name ++ fill σ after := by
  simp [fill, fillScan, fillScan_word hname]

theorem fill_reopened {name : List Char} (hname : BraceFree name) (after : List Char) :
    fill σ ('{' :: (name ++ '{' :: after)) = '{' :: (name ++ fill σ ('{' :: after)) := by
  simp [fill, fillScan, fillScan_word hname]

theorem fill_append_of_no_open {d : List Char} (hd : '{' ∉ d) (rest : List Char) :
    fill σ (d ++ rest) = d ++ fill σ rest := by
  induction d with
  | nil => rfl
  | cons c d ih =>
    rw [List.mem_cons, not_or] at hd
    rw [List.cons_append, fill_char (Ne.symm hd.1), ih hd.2, List.cons_append]

theorem fill_of_no_close {cs : List Char} (h : '}' ∉ cs) : fill σ cs = cs := by
  induction cs using braces_induction with
  | nil => rfl
  | char c rest hc ih => rw [fill_char hc, ih (fun h' => h (List.mem_cons_of_mem _ h'))]
  | unclosed name hname => exact fill_unclosed hname
  | closed name after hname ih => simp at h
  | reopened name after hname ih =>
    have hafter : '}' ∉ '{' :: after := fun h' => h (by simp_all)
    rw [fill_reopened hname, ih hafter]

theorem fill_none (cs : List Char) : fill (fun _ => none) cs = cs := by
  induction cs using braces_induction with
  | nil => rfl
  | char c rest hc ih => rw [fill_char hc, ih]
  | unclosed name hname => exact fill_unclosed hname
  | closed name after hname ih =>
    rw [fill_closed hname, fillOne_of_none rfl, ih]
    simp
  | reopened name after hname ih => rw [fill_reopened hname, ih]

/-- two passes make one: the second fills what the first left, and the first pass, whose texts
open no placeholder, wins on names they share -/
theorem fill_fill {cs : List Char} (hcs : FlatBraces cs)
    (hτ : ∀ k d, τ k = some d → '{' ∉ d.toList) :
    fill σ (fill τ cs) = fill (fun k => (τ k).or (σ k)) cs := by
  induction cs using braces_induction with
  | nil => rfl
  | char c rest hc ih =>
    rw [fill_char hc, fill_char hc, fill_char hc, ih (hcs.of_append [c])]
  | unclosed name hname => rw [fill_unclosed hname, fill_unclosed hname, fill_unclosed hname]
  | closed name after hname ih =>
    rw [fill_closed hname, fill_closed hname, ← ih hcs.of_closed]
    cases hτn : τ (String.ofList name) with
    | some d =>
      rw [fillOne_of_some hτn, fillOne_of_some (d := d) (by simp [hτn]),
        fill_append_of_no_open (hτ _ d hτn)]
    | none =>
      have hor : fillOne (fun k => (τ k).or (σ k)) name = fillOne σ name := by
        simp [fillOne, hτn]
      rw [fillOne_of_none hτn, hor, List.cons_append, List.append_assoc, List.singleton_append,
        fill_closed hname]
  | reopened name after hname ih =>
    have hafter := hcs.of_reopened hname
    have hno : '}' ∉ '{' :: (name ++ '{' :: after) := by
      simp only [List.mem_cons, List.mem_append, not_or]
      exact ⟨by decide, hname.2, by decide, hafter⟩
    rw [fill_of_no_close hno, fill_of_no_close hno, fill_of_no_close hno]

theorem placeholder_infix_of_append {k : String} {l rest : List Char} (hl : '{' ∉ l)
    (h : placeholder k <:+: l ++ rest) : placeholder k <:+: rest := by
  induction l with
  | nil => exact h
  | cons c l ih =>
    rw [List.mem_cons, not_or] at hl
    rcases List.infix_cons_iff.1 h with hpre | hinf
    · exact absurd (List.cons_prefix_cons.1 hpre).1 hl.1
    · exact ih hl.2 hinf

/-- no placeholder of a name `σ` knows is left after the pass -/
theorem placeholder_not_infix_fill {cs : List Char} (hcs : FlatBraces cs)
    (hσ : ∀ n d, σ n = some d → BraceFree n.toList ∧ '{' ∉ d.toList) {k d : String}
    (hk : σ k = some d) : ¬ placeholder k <:+: fill σ cs := by
  have hclose : '}' ∈ placeholder k := by simp [placeholder]
  induction cs using braces_induction with
  | nil => simp [placeholder]
  | char c rest hc ih =>
    rw [fill_char hc]
    rintro (hinf : placeholder k <:+: c :: fill σ rest)
    rcases List.infix_cons_iff.1 hinf with hpre | hinf
    · exact hc (List.cons_prefix_cons.1 (placeholder_eq k ▸ hpre)).1.symm
    · exact ih (hcs.of_append [c]) hinf
  | unclosed name hname =>
    rw [fill_unclosed hname]
    intro hinf
    rcases List.mem_cons.1 (hinf.subset hclose) with h | h
    · exact absurd h (by decide)
    · exact hname.2 h
  | closed name after hname ih =>
    rw [fill_closed hname]
    cases hσn : σ (String.ofList name) with
    | some d' =>
      rw [fillOne_of_some hσn]
      exact fun hinf => ih hcs.of_closed (placeholder_infix_of_append (hσ _ d' hσn).2 hinf)
    | none =>
      rw [fillOne_of_none hσn, List.cons_append]
      intro hinf
      rcases List.infix_cons_iff.1 hinf with hpre | hinf
      · have hkn := (placeholder_prefix_iff (hσ k d hk).1 hname (.inr rfl)).1
          (by simpa using hpre)
        rw [← hkn.1, String.ofList_toList, hk] at hσn
        cases hσn
      · have hno : '{' ∉ name ++ ['}'] := by simp [hname.1]
        exact ih hcs.of_closed (placeholder_infix_of_append hno (by simpa using hinf))
  | reopened name after hname ih =>
    have hno : '}' ∉ '{' :: (name ++ '{' :: after) := by
      simp only [List.mem_cons, List.mem_append, not_or]
      exact ⟨by decide, hname.2, by decide, hcs.of_reopened hname⟩
    rw [fill_of_no_close hno]
    exact fun hinf => hno (hinf.subset hclose)

end

/-! ## One name's pass -/

theorem replaceAll_cons_cons (p : Char) (ps rep : List Char) (c : Char) (rest : List Char) :
    replaceAll (p :: ps) rep (c :: rest) =
      if (p :: ps).isPrefixOf (c :: rest) then rep ++ replaceAll (p :: ps) rep (rest.drop ps.length)
      else c :: replaceAll (p :: ps) rep rest := by
  rw [replaceAll]
  rfl

section
variable {k : String} {rep : List Char}

theorem replaceAll_placeholder_nil : replaceAll (placeholder k) rep [] = [] := by
  rw [placeholder_eq, replaceAll]

theorem replaceAll_placeholder_char {c : Char} (hc : c ≠ '{') (rest : List Char) :
    replaceAll (placeholder k) rep (c :: rest) = c :: replaceAll (placeholder k) rep rest := by
  rw [placeholder_eq, replaceAll_cons_cons, if_neg]
  simp [List.isPrefixOf, Ne.symm hc]

theorem replaceAll_placeholder_append {d : List Char} (hd : '{' ∉ d) (rest : List Char) :
    replaceAll (placeholder k) rep (d ++ rest) = d ++ replaceAll (placeholder k) rep rest := by
  induction d with
  | nil => rfl
  | cons c d ih =>
    rw [List.mem_cons, not_or] at hd
    rw [List.cons_append, replaceAll_placeholder_char (Ne.symm hd.1), ih hd.2, List.cons_append]

theorem replaceAll_placeholder_open {rest : List Char}
    (hno : ¬ (placeholder k).isPrefixOf ('{' :: rest) = true) :
    replaceAll (placeholder k) rep ('{' :: rest) = '{' :: replaceAll (placeholder k) rep rest := by
  rw [placeholder_eq] at hno ⊢
  rw [replaceAll_cons_cons, if_neg hno]

/-- one name's pass is a `fill` that knows that name only -/
theorem replaceAll_placeholder (hk : BraceFree k.toList) (d : String) (cs : List Char) :
    replaceAll (placeholder k) d.toList cs = fill (fun n => if n = k then some d else none) cs := by
  induction cs using braces_induction with
  | nil => rw [replaceAll_placeholder_nil, fill_nil]
  | char c rest hc ih => rw [replaceAll_placeholder_char hc, fill_char hc, ih]
  | unclosed name hname =>
    have hno : ¬ (placeholder k).isPrefixOf ('{' :: name) = true := by
      rw [List.isPrefixOf_iff_prefix]
      intro hpre
      have hclose : '}' ∈ placeholder k := by simp [placeholder]
      rcases List.mem_cons.1 (hpre.subset hclose) with h | h
      · exact absurd h (by decide)
      · exact hname.2 h
    have hcopy : replaceAll (placeholder k) d.toList (name ++ []) =
        name ++ replaceAll (placeholder k) d.toList [] := replaceAll_placeholder_append hname.1 []
    rw [List.append_nil, replaceAll_placeholder_nil, List.append_nil] at hcopy
    rw [fill_unclosed hname, replaceAll_placeholder_open hno, hcopy]
  | closed name after hname ih =>
    by_cases hkn : k.toList = name
    · subst hkn
      have hpre : (placeholder k).isPrefixOf ('{' :: (k.toList ++ '}' :: after)) = true :=
        List.isPrefixOf_iff_prefix.2 ((placeholder_prefix_iff hk hk (.inr rfl)).2 ⟨rfl, rfl⟩)
      rw [placeholder_eq] at hpre ⊢
      have hdrop : (k.toList ++ '}' :: after).drop (k.toList ++ ['}']).length = after := by
        rw [show k.toList ++ '}' :: after = (k.toList ++ ['}']) ++ after by simp, List.drop_left]
      rw [replaceAll_cons_cons, if_pos hpre, hdrop, ← placeholder_eq, fill_closed hname,
        fillOne_of_some (d := d) (by simp), ih]
    · have hno : ¬ (placeholder k).isPrefixOf ('{' :: (name ++ '}' :: after)) = true := by
        rw [List.isPrefixOf_iff_prefix, placeholder_prefix_iff hk hname (.inr rfl)]
        exact fun h => hkn h.1
      have hname' : String.ofList name ≠ k := fun h => hkn (by rw [← h, String.toList_ofList])
      rw [replaceAll_placeholder_open hno, replaceAll_placeholder_append hname.1,
        replaceAll_placeholder_char (by decide), ih, fill_closed hname,
        fillOne_of_none (by simp [hname'])]
      simp
  | reopened name after hname ih =>
    have hno : ¬ (placeholder k).isPrefixOf ('{' :: (name ++ '{' :: after)) = true := by
      rw [List.isPrefixOf_iff_prefix, placeholder_prefix_iff hk hname (.inl rfl)]
      exact fun h => absurd h.2 (by decide)
    rw [replaceAll_placeholder_open hno, replaceAll_placeholder_append hname.1, ih,
      fill_reopened hname]

end

/-! ## Passes in any order -/

/-- passes for names with distinct keys, brace-free names and texts opening no placeholder, are
together the single pass that knows exactly those names, in whatever order they run -/
theorem foldl_replaceName_eq_fill {cs : List Char} (hcs : FlatBraces cs)
    (es : List (String × String)) :
    ∀ σ : String → Option String, (es.map Prod.fst).Nodup → (∀ k d, σ k = some d ↔ (k, d) ∈ es) →
      (∀ e ∈ es, BraceFree e.1.toList ∧ '{' ∉ e.2.toList) → es.foldl replaceName cs = fill σ cs := by
  induction es using List.reverseRecOn with
  | nil =>
    intro σ _ hσ _
    have hnone : σ = fun _ => none := by
      funext k
      cases hk : σ k with
      | none => rfl
      | some d => exact absurd ((hσ k d).1 hk) List.not_mem_nil
    rw [hnone, fill_none, List.foldl_nil]
  | append_singleton es e ih =>
    intro σ hnodup hσ hbraces
    obtain ⟨k, d⟩ := e
    rw [List.map_append, List.map_singleton, List.nodup_append_comm, List.singleton_append,
      List.nodup_cons] at hnodup
    let τ : String → Option String := fun n => if n = k then none else σ n
    have hτ : ∀ n d', τ n = some d' ↔ (n, d') ∈ es := by
      intro n d'
      by_cases hn : n = k
      · subst hn
        simp only [τ, if_true, reduceCtorEq, false_iff]
        exact fun hmem => hnodup.1 (List.mem_map.2 ⟨_, hmem, rfl⟩)
      · simp only [τ, if_neg hn, hσ, List.mem_append, List.mem_singleton, Prod.mk.injEq, hn,
          false_and, or_false]
    have hbraces' : ∀ e ∈ es, BraceFree e.1.toList ∧ '{' ∉ e.2.toList :=
      fun e he => hbraces e (List.mem_append_left _ he)
    have hlast := hbraces (k, d) (List.mem_append_right _ List.mem_cons_self)
    rw [List.foldl_append, List.foldl_cons, List.foldl_nil, ih τ hnodup.2 hτ hbraces',
      replaceName, replaceAll_placeholder hlast.1,
      fill_fill hcs (fun n d' hn => (hbraces' _ ((hτ n d').1 hn)).2)]
    congr 1
    funext n
    by_cases hn : n = k
    · subst hn
      have hσk : σ n = some d := (hσ n d).2 (List.mem_append_right _ List.mem_cons_self)
      simp [τ, hσk]
    · simp [τ, hn]

end Phrasebook.Markup

namespace Phrasebook.Values

open Markup

def substitution (vs : Values) (k : String) : Option String :=
  match vs.scalar? k with
  | some s => if s.isTextOrNumber then some s.display else none
  | none => none

def substitutions (vs : Values) : List (String × String) :=
  vs.toList.filterMap fun e =>
    match e.2 with
    | .scalar s => if s.isTextOrNumber then some (e.1, s.display) else none
    | .tag _ => none

variable {vs : Values}

theorem substitution_eq_some_iff {k d : String} :
    vs.substitution k = some d ↔ ∃ s, vs.scalar? k = some s ∧ s.isTextOrNumber = true ∧ s.display = d := by
  unfold substitution
  cases vs.scalar? k with
  | none => simp
  | some s => by_cases hs : s.isTextOrNumber = true <;> simp [hs]

theorem mem_substitutions {k d : String} :
    (k, d) ∈ vs.substitutions ↔ vs.substitution k = some d := by
  rw [substitution_eq_some_iff, substitutions, List.mem_filterMap]
  constructor
  · rintro ⟨⟨k', v⟩, hmem, hf⟩
    cases v with
    | tag h => simp at hf
    | scalar s =>
      by_cases hts : s.isTextOrNumber = true
      · simp only [hts, if_true, Option.some.injEq, Prod.mk.injEq] at hf
        obtain ⟨rfl, rfl⟩ := hf
        have hget : vs.get? k' = some (.scalar s) := vs.table.get?_eq_some_iff.2 hmem
        exact ⟨s, by simp [scalar?, hget], hts, rfl⟩
      · simp [hts] at hf
  · rintro ⟨s, hget, hts, rfl⟩
    cases hv : vs.get? k with
    | none => simp [scalar?, hv] at hget
    | some v =>
      cases v with
      | tag h => simp [scalar?, hv] at hget
      | scalar s' =>
        simp only [scalar?, hv, Option.some.injEq] at hget
        subst hget
        exact ⟨(k, .scalar s'), vs.table.get?_eq_some_iff.1 hv, by simp [hts]⟩

theorem nodup_substitutions : (vs.substitutions.map Prod.fst).Nodup := by
  have hkey : ∀ e : String × Value, ∀ b, (match e.2 with
      | .scalar s => if s.isTextOrNumber then some (e.1, s.display) else none
      | .tag _ => none) = some b → b.1 = e.1 := by
    rintro ⟨k, v⟩ b hb
    cases v with
    | tag h => simp at hb
    | scalar s =>
      by_cases hts : s.isTextOrNumber = true
      · simp only [hts, if_true, Option.some.injEq] at hb
        rw [← hb]
      · simp [hts] at hb
  have hasc : vs.substitutions.Pairwise (fun a b => a.1 < b.1) :=
    List.Pairwise.filterMap _ (fun {a a'} hlt {b} hb {b'} hb' => by
      rw [hkey a b hb, hkey a' b' hb']
      exact hlt) vs.table.sorted
  exact (List.pairwise_map.2 hasc).imp ne_of_lt

theorem substitute_eq_foldl (text : String) (vs : Values) :
    substitute text vs = String.ofList (vs.substitutions.foldl replaceName text.toList) := by
  unfold substitute substitutions
  congr 1
  generalize text.toList = cs
  generalize vs.toList = es
  induction es generalizing cs with
  | nil => rfl
  | cons e es ih =>
    obtain ⟨k, v⟩ := e
    cases v with
    | tag h => simp [ih]
    | scalar s =>
      by_cases hs : s.isTextOrNumber = true
      · simp [hs, ih, replaceName]
      · simp [hs, ih]

theorem foldl_substitutions_eq_fill {cs : List Char}
    (hcs : FlatBraces cs)
    (hσ : ∀ k d, vs.substitution k = some d → BraceFree k.toList ∧ '{' ∉ d.toList)
    {es : List (String × String)} (hes : es.Perm vs.substitutions) :
    es.foldl replaceName cs = fill vs.substitution cs := by
  refine foldl_replaceName_eq_fill hcs es vs.substitution ?_ ?_ ?_
  · exact (hes.map Prod.fst).nodup_iff.2 nodup_substitutions
  · intro k d
    rw [hes.mem_iff, mem_substitutions]
  · rintro ⟨k, d⟩ he
    exact hσ k d (mem_substitutions.1 (hes.mem_iff.1 he))

/-- On text whose braces do not nest, with values whose text-or-number entries have names and
texts free of braces, substitution name by name is the single left-to-right pass that fills
every `{k}` of a name with a text or number value by that value's text and copies everything
else. So the order in which the names are taken does not matter, no placeholder of such a name
is left, and values that are not text or numbers (truth values, instants, tag handlers) play no
part. -/
theorem substitute_eq_fill (text : String) (vs : Values)
    (htext : FlatBraces text.toList)
    (hvs : ∀ k s, vs.scalar? k = some s → s.isTextOrNumber = true →
      BraceFree k.toList ∧ BraceFree s.display.toList) :
    substitute text vs = String.ofList (fill vs.substitution text.toList) ∧
    (∀ es : List (String × String), es.Perm vs.substitutions →
      String.ofList (es.foldl replaceName text.toList) = substitute text vs) ∧
    (∀ k d, vs.substitution k = some d → ¬ placeholder k <:+: (substitute text vs).toList) ∧
    (∀ vs' : Values, (∀ k, vs'.substitution k = vs.substitution k) →
      substitute text vs' = substitute text vs) := by
  have hσ : ∀ k d, vs.substitution k = some d → BraceFree k.toList ∧ BraceFree d.toList := by
    intro k d hk
    obtain ⟨s, hget, hts, rfl⟩ := substitution_eq_some_iff.1 hk
    exact hvs k s hget hts
  have hσ' : ∀ k d, vs.substitution k = some d → BraceFree k.toList ∧ '{' ∉ d.toList :=
    fun k d hk => ⟨(hσ k d hk).1, (hσ k d hk).2.1⟩
  have hmain : substitute text vs = String.ofList (fill vs.substitution text.toList) := by
    rw [substitute_eq_foldl, foldl_substitutions_eq_fill htext hσ' (List.Perm.refl _)]
  refine ⟨hmain, fun es hes => ?_, fun k d hk => ?_, fun vs' hsame => ?_⟩
  · rw [foldl_substitutions_eq_fill htext hσ' hes, hmain]
  · rw [hmain, String.toList_ofList]
    exact placeholder_not_infix_fill htext hσ' hk
  · have hfun : vs'.substitution = vs.substitution := funext hsame
    rw [hmain, substitute_eq_foldl,
      foldl_substitutions_eq_fill htext (hfun ▸ hσ') (List.Perm.refl _), hfun]

/-- A greeting with a name, a count and a truth value: the text and values meet the conditions,
and substitution is the single pass. -/
theorem greeting_substitutes_in_one_pass :
    let vs := ((Values.empty.set "name" (.scalar (.str "Ada"))).set "n"
      (.scalar (.int 3))).set "flag" (.scalar (.bool true))
    FlatBraces "{name} has {n} {flag}".toList ∧
      (∀ k s, vs.scalar? k = some s → s.isTextOrNumber = true →
        BraceFree k.toList ∧ BraceFree s.display.toList) ∧
      substitute "{name} has {n} {flag}" vs =
        String.ofList (fill vs.substitution "{name} has {n} {flag}".toList) := by
  intro vs
  have htext : FlatBraces "{name} has {n} {flag}".toList := by
    have hlist : "{name} has {n} {flag}".toList = ['{', 'n', 'a', 'm', 'e', '}', ' ', 'h', 'a', 's', ' ', '{', 'n',
      '}', ' ', '{', 'f', 'l', 'a', 'g', '}'] := rfl
    rw [hlist]
    refine FlatBraces.placeholder (by decide : BraceFree ['n', 'a', 'm', 'e']) ?_
    refine FlatBraces.cons (by decide) (FlatBraces.cons (by decide) (FlatBraces.cons (by decide)
      (FlatBraces.cons (by decide) (FlatBraces.cons (by decide) ?_))))
    refine FlatBraces.placeholder (by decide : BraceFree ['n']) (FlatBraces.cons (by decide) ?_)
    exact FlatBraces.placeholder (by decide : BraceFree ['f', 'l', 'a', 'g']) FlatBraces.nil
  have hvs : ∀ k s, vs.scalar? k = some s → s.isTextOrNumber = true →
      BraceFree k.toList ∧ BraceFree s.display.toList := by
    intro k s hk hts
    have hentries : vs.table.entries = [("flag", .scalar (.bool true)), ("n", .scalar (.int 3)),
        ("name", .scalar (.str "Ada"))] := rfl
    simp only [scalar?, get?, Table.get?, hentries, Table.lookup] at hk
    split_ifs at hk with h1 h2 h3
    · simp only [Option.some.injEq] at hk
      subst hk
      simp [Scalar.isTextOrNumber] at hts
    · simp only [Option.some.injEq] at hk
      subst hk h2
      exact ⟨by decide, by decide⟩
    · simp only [Option.some.injEq] at hk
      subst hk h3
      exact ⟨by decide, by decide⟩
  exact ⟨htext, hvs, (substitute_eq_fill _ vs htext hvs).1⟩

end Phrasebook.Values
