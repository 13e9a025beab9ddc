import Mathlib
import Phrasebook.Proofs.Message.Print

/-!
# Reading printed messages back

The reader takes the canonical text of every well-formed message back to the message itself, and
every message it returns is well formed: the messages it can return are exactly the well-formed
ones.

The proof is one induction over the message, mutual with its arms, carried in the derivation
relations of `Reads`: a written message followed by what may follow it (nothing, or the brace
that closes its arm) is read element by element, with the pending literal text flushed when an
argument starts. Literal neighbours never touch in a well-formed message, so the text of a
literal always ends where its element does.
-/

namespace Phrasebook.Message

theorem armsText_head (parent : Parent) (arms : List Arm) (rest : List Char) :
    ∀ c ∈ (armsText parent arms ++ '}' :: rest).head?, c = ' ' ∨ c = '}' := by
  intro c hc
  cases arms with
  | nil => cases hc; exact Or.inr rfl
  | cons a arms => cases a; cases hc; exact Or.inl rfl

theorem text_head_of_not_literal (parent : Parent) {e : Element} (he : e.isLiteral = false) :
    ∃ c r, e.text parent = c :: r ∧ (c = '{' ∨ c = '#') := by
  cases e with
  | literal t => cases he
  | pound => exact ⟨'#', [], by simp only [Element.text], Or.inr rfl⟩
  | _ =>
    refine ⟨'{', ?_, ?_, Or.inl rfl⟩
    on_goal 2 => simp only [Element.text, List.cons_append]; rfl

theorem flush_push (el : Element) (lit : List Char) (acc : List Element) (m : Msg) :
    (flush [] (el :: flush lit acc)).reverse ++ m = (flush lit acc).reverse ++ el :: m := by
  simp [flush]

theorem flush_literal {t : String} (ht : t ≠ "") (acc : List Element) (m : Msg) :
    (flush t.toList.reverse acc).reverse ++ m = (flush [] acc).reverse ++ .literal t :: m := by
  have hne : t.toList.reverse.isEmpty = false := by
    simpa [List.isEmpty_iff, String.toList_eq_nil_iff] using ht
  simp [flush, hne]

theorem messageText_head_ne {parent : Parent} {m : List Element}
    (hm : ∀ e ∈ m.head?, e.isLiteral = false) {rest : List Char}
    (hrest : rest = [] ∨ ∃ r, rest = '}' :: r) :
    (messageText parent m ++ rest).head? ≠ some '\'' := by
  cases m with
  | nil =>
    rcases hrest with rfl | ⟨r, rfl⟩ <;> simp [messageText]
  | cons e m =>
    obtain ⟨c, r, hc, hbrace⟩ := text_head_of_not_literal parent (hm e rfl)
    rw [messageText, hc]
    rcases hbrace with rfl | rfl <;> simp

theorem cons_facts {parent : Parent} {depth : Nat} {e : Element} {m : List Element}
    (hshape : ShapedElements parent (e :: m)) (hchain : (e :: m).IsChain Apart)
    (hdepth : depth + Msg.nesting (e :: m) ≤ maxDepth) :
    e.Shaped parent ∧ ShapedElements parent m ∧ m.IsChain Apart ∧ (∀ e' ∈ m.head?, Apart e e') ∧
      depth + e.nesting ≤ maxDepth ∧ depth + Msg.nesting m ≤ maxDepth := by
  rw [ShapedElements] at hshape
  rw [List.isChain_cons] at hchain
  rw [Msg.nesting] at hdepth
  exact ⟨hshape.1, hshape.2, hchain.2, hchain.1, by omega, by omega⟩

theorem reads_argument_cons {depth : Nat} {parent : Parent} {e : Element} {m : List Element}
    {lit : List Char} {acc : List Element} {rest body : List Char}
    (htext : Element.text parent e = '{' :: body)
    (ha : ReadsArgument depth (body ++ (messageText parent m ++ rest)) e (messageText parent m ++ rest))
    (h : ReadsElements depth parent (messageText parent m ++ rest) [] (e :: flush lit acc)
      ((flush [] (e :: flush lit acc)).reverse ++ m) rest) :
    ReadsElements depth parent (messageText parent (e :: m) ++ rest) lit acc
      ((flush lit acc).reverse ++ e :: m) rest := by
  rw [flush_push] at h
  rw [messageText, htext, List.cons_append, List.cons_append, List.append_assoc]
  exact .argument ha h

theorem arm_text_eq (sel : Selector) (msg : Msg) (parent : Parent) (arms : List Arm)
    (rest : List Char) :
    armsText parent (.mk sel msg :: arms) ++ '}' :: rest = ' ' :: (sel.text ++ ' ' :: '{' ::
      (messageText parent msg ++ '}' :: (armsText parent arms ++ '}' :: rest))) := by
  simp only [armsText, List.cons_append, List.append_assoc]

theorem not_digit_of_armsText (parent : Parent) (arms : List Arm) (rest : List Char) :
    ∀ c ∈ (armsText parent arms ++ '}' :: rest).head?, c.isDigit = false := by
  intro c hc
  rcases armsText_head parent arms rest c hc with rfl | rfl <;> decide

mutual

theorem reads_messageText {depth : Nat} {parent : Parent} : ∀ (m : List Element)
    (lit : List Char) (acc : List Element) (rest : List Char), ShapedElements parent m →
    m.IsChain Apart → (lit = [] ∨ ∀ e ∈ m.head?, e.isLiteral = false) →
    depth + Msg.nesting m ≤ maxDepth → (rest = [] ∨ ∃ r, rest = '}' :: r) →
    ReadsElements depth parent (messageText parent m ++ rest) lit acc
      ((flush lit acc).reverse ++ m) rest
  | [], lit, acc, rest, _, _, _, _, hrest => by
    rcases hrest with rfl | ⟨r, rfl⟩
    · simpa [messageText] using
        (ReadsElements.eoi : ReadsElements depth parent [] lit acc _ [])
    · simpa [messageText] using
        (ReadsElements.close : ReadsElements depth parent ('}' :: r) lit acc _ _)
  | .literal t :: m, lit, acc, rest, hshape, hchain, hlit, hdepth, hrest => by
    obtain ⟨ht, hm, hchain, hapart, -, hdm⟩ := cons_facts hshape hchain hdepth
    have hlit : lit = [] := hlit.resolve_right fun h => by simp [Element.isLiteral] at h
    subst hlit
    have hnext : ∀ e ∈ m.head?, e.isLiteral = false := fun e he =>
      (hapart e he).resolve_left (by simp [Element.isLiteral])
    have h := reads_messageText m t.toList.reverse acc rest hm hchain (Or.inr hnext) hdm hrest
    rw [flush_literal ht] at h
    rw [messageText, Element.text, List.append_assoc]
    exact reads_literalText t.toList (messageText_head_ne hnext hrest)
      (by rwa [List.append_nil])
  | .argument n :: m, lit, acc, rest, hshape, hchain, _, hdepth, hrest => by
    obtain ⟨hn, hm, hchain, -, -, hdm⟩ := cons_facts hshape hchain hdepth
    exact reads_argument_cons rfl (by simpa using reads_simple hn (messageText parent m ++ rest))
      (reads_messageText m [] _ rest hm hchain (Or.inl rfl) hdm hrest)
  | .number n s :: m, lit, acc, rest, hshape, hchain, _, hdepth, hrest => by
    obtain ⟨⟨hn, hs⟩, hm, hchain, -, -, hdm⟩ := cons_facts hshape hchain hdepth
    exact reads_argument_cons rfl
      (by simpa using @reads_formatted depth _ _ _ hn (Or.inl rfl) hs _)
      (reads_messageText m [] _ rest hm hchain (Or.inl rfl) hdm hrest)
  | .date n s :: m, lit, acc, rest, hshape, hchain, _, hdepth, hrest => by
    obtain ⟨⟨hn, hs⟩, hm, hchain, -, -, hdm⟩ := cons_facts hshape hchain hdepth
    exact reads_argument_cons rfl
      (by simpa using @reads_formatted depth _ _ _ hn (Or.inr (Or.inl rfl)) hs _)
      (reads_messageText m [] _ rest hm hchain (Or.inl rfl) hdm hrest)
  | .time n s :: m, lit, acc, rest, hshape, hchain, _, hdepth, hrest => by
    obtain ⟨⟨hn, hs⟩, hm, hchain, -, -, hdm⟩ := cons_facts hshape hchain hdepth
    exact reads_argument_cons rfl
      (by simpa using @reads_formatted depth _ _ _ hn (Or.inr (Or.inr rfl)) hs _)
      (reads_messageText m [] _ rest hm hchain (Or.inl rfl) hdm hrest)
  | .plural n k x arms :: m, lit, acc, rest, hshape, hchain, _, hdepth, hrest => by
    obtain ⟨⟨hn, hx, hall, harms⟩, hm, hchain, -, hde, hdm⟩ := cons_facts hshape hchain hdepth
    have ha : ReadsArms depth .plural _ [] _ _ :=
      reads_armsText arms [] (messageText parent m ++ rest) harms
      (by rwa [List.nil_append]) (by simp only [Element.nesting] at hde; omega)
    rw [List.nil_append] at ha
    exact reads_argument_cons rfl
      (by simpa using reads_plural k hn hx (not_digit_of_armsText _ _ _) ha)
      (reads_messageText m [] _ rest hm hchain (Or.inl rfl) hdm hrest)
  | .select n arms :: m, lit, acc, rest, hshape, hchain, _, hdepth, hrest => by
    obtain ⟨⟨hn, hall, harms⟩, hm, hchain, -, hde, hdm⟩ := cons_facts hshape hchain hdepth
    have ha : ReadsArms depth .other _ [] _ _ :=
      reads_armsText arms [] (messageText parent m ++ rest) harms
      (by rwa [List.nil_append]) (by simp only [Element.nesting] at hde; omega)
    rw [List.nil_append] at ha
    exact reads_argument_cons rfl (by simpa using reads_select hn ha)
      (reads_messageText m [] _ rest hm hchain (Or.inl rfl) hdm hrest)
  | .pound :: m, lit, acc, rest, hshape, hchain, _, hdepth, hrest => by
    obtain ⟨hp, hm, hchain, -, -, hdm⟩ := cons_facts hshape hchain hdepth
    have hp : parent = .plural := hp
    subst hp
    have h := reads_messageText m [] (.pound :: flush lit acc) rest hm hchain (Or.inl rfl)
      hdm hrest
    rw [flush_push] at h
    exact .pound h

theorem reads_armsText {depth : Nat} {parent : Parent} : ∀ (arms done : List Arm)
    (rest : List Char), ShapedArms parent arms → ArmsShaped (done ++ arms) →
    depth + 1 + armsNesting arms ≤ maxDepth →
    ReadsArms depth parent (armsText parent arms ++ '}' :: rest) done (done ++ arms) rest
  | [], done, rest, _, hall, _ => by
    rw [List.append_nil] at hall ⊢
    exact .close (skipBlanks_of_head (blank_head (by decide) rest)) (finishArms_of_shaped hall rest)
  | .mk sel msg :: arms, done, rest, hshape, hall, hdepth => by
    obtain ⟨hsel, hmsg, hchain, harms⟩ := hshape
    have hdm : depth + 1 + Msg.nesting msg ≤ maxDepth := by
      simp only [armsNesting] at hdepth; omega
    have hda : depth + 1 + armsNesting arms ≤ maxDepth := by
      simp only [armsNesting] at hdepth; omega
    have hnew : done.any (fun a => a.selector.same sel) = false := by
      have hpair := (List.pairwise_append.1 hall.2.1).2.2
      rw [List.any_eq_false]
      intro a ha
      simpa [Arm.selector] using hpair a ha _ List.mem_cons_self
    have hmsgR := reads_messageText msg [] [] ('}' :: (armsText parent arms ++ '}' :: rest)) hmsg
      hchain (Or.inl rfl) hdm (Or.inr ⟨_, rfl⟩)
    have hrec := reads_armsText arms (done ++ [.mk sel msg]) rest harms
      (by rwa [List.append_assoc, List.singleton_append]) hda
    rw [List.append_assoc, List.singleton_append] at hrec
    have htok := Selector.text_token hsel
    have hskip : skipBlanks (' ' :: (sel.text ++ ' ' :: '{' :: (messageText parent msg ++ '}' ::
        (armsText parent arms ++ '}' :: rest)))) = sel.text ++ ' ' :: '{' ::
        (messageText parent msg ++ '}' :: (armsText parent arms ++ '}' :: rest)) := by
      rw [skipBlanks_space, skipBlanks_token htok]
    rw [arm_text_eq]
    refine .arm (by rw [skipBlanks_space]; exact readName_token htok (stop_head (by decide) _))
      (readSelector_text hsel _ _) hnew
      (by rw [skipBlanks_space]; exact skipBlanks_of_head (blank_head (by decide) _))
      (.mk (by omega) (by simpa [flush] using hmsgR)) rfl hrec

end

theorem parse_print {m : Msg} (h : m.WellFormed) : parse m.print = .ok m := by
  apply parse_ok_iff.2
  rw [Msg.print, String.toList_ofList]
  have hr : ReadsElements 0 .root (messageText .root m ++ []) [] [] ((flush [] []).reverse ++ m) [] :=
    reads_messageText m [] [] [] h.1.1 h.1.2 (Or.inl rfl) (by simpa using h.2) (Or.inl rfl)
  rw [List.append_nil] at hr
  exact .mk (Nat.zero_le _) (by simpa [flush] using hr)

/-- The messages the reader returns are exactly the well-formed ones: whatever it returns is
well formed, and every well-formed message is returned for its canonical text. -/
theorem parse_image_wellFormed :
    (∀ s m, parse s = .ok m → m.WellFormed) ∧ ∀ m : Msg, m.WellFormed → parse m.print = .ok m :=
  ⟨fun _ _ h => wellFormed_of_parse h, fun _ h => parse_print h⟩

end Phrasebook.Message
