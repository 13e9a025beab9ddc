import Phrasebook.Message.Syntax
import Phrasebook.Text.Blank
import Phrasebook.Decimal.Read

/-!
# Reading messages

The message grammar, read left to right with one character of lookahead.

* Outside an argument, `{` opens an argument, `}` ends the enclosing arm (at the top level it is
  an error), and `#` directly inside a plural arm is the number; anything else is text.
* An apostrophe before `{`, `}`, or `#` in a plural arm opens quoted text that runs to the next
  lone apostrophe (or the end), where `''` stands for one apostrophe. Two apostrophes anywhere
  stand for one; any other apostrophe is text.
* Names, kinds and keywords run up to a blank or one of `{ } , # '`. Blanks around the parts of
  an argument are skipped.
* A style runs from its comma to the closing `}`, must not contain `{`, and is trimmed; it must
  not be empty.
* A plural offset `offset:k` is a 64-bit integer, written right after the comma and blanks.
* Arms need distinct selectors, at least one of them, and an `other` keyword. Exact selectors
  `=x` are numbers and belong to plural arguments only.
* Choices nest at most 32 deep.

Each fault is reported with the byte offset where it was found. The main definition is
`Message.parse`.
-/

namespace Phrasebook.Message

def maxDepth : Nat := 32

/-- why a message cannot be read -/
inductive SyntaxReason where
  | unexpectedClose
  | nestedTooDeeply
  | expectedName
  | expected (c : Char) (found : Option Char)
  | expectedKind
  | unknownKind (kind : String)
  | openInStyle
  | emptyStyle
  | offsetNotInteger
  | unterminated
  | exactOutsidePlural
  | invalidExact (token : String)
  | expectedSelector
  | duplicateSelector (token : String)
  | expectedArmOpen (token : String)
  | noArms
  | missingOther
  deriving Repr, DecidableEq

def SyntaxReason.text : SyntaxReason → String
  | .unexpectedClose => "unexpected '\x7d'"
  | .nestedTooDeeply => "message nested too deeply"
  | .expectedName => "expected argument name"
  | .expected c (some f) => "expected '" ++ c.toString ++ "', found '" ++ f.toString ++ "'"
  | .expected c none => "expected '" ++ c.toString ++ "', found end of input"
  | .expectedKind => "expected argument type"
  | .unknownKind k => "unknown argument type '" ++ k ++ "'"
  | .openInStyle => "unexpected '\x7b' in argument style"
  | .emptyStyle => "empty argument style"
  | .offsetNotInteger => "offset must be an integer"
  | .unterminated => "unterminated argument: missing '\x7d'"
  | .exactOutsidePlural => "exact '=N' selectors are only valid in plural arguments"
  | .invalidExact t => "invalid exact selector '" ++ t ++ "'"
  | .expectedSelector => "expected selector"
  | .duplicateSelector t => "duplicate selector '" ++ t ++ "'"
  | .expectedArmOpen t => "expected '\x7b' after selector '" ++ t ++ "'"
  | .noArms => "expected at least one arm"
  | .missingOther => "missing 'other' arm"

/-- a fault and the bytes of input not yet read when it was found -/
structure Stop where
  reason : SyntaxReason
  bytesLeft : Nat

/-- a fault and its byte offset in the message -/
structure SyntaxError where
  offset : Nat
  reason : SyntaxReason
  deriving Repr, DecidableEq

def byteSize (cs : List Char) : Nat := (String.ofList cs).utf8ByteSize

def stopAt (reason : SyntaxReason) (cs : List Char) : Stop := ⟨reason, byteSize cs⟩

/-- where an element stands: it decides whether `#` and `'#` are special -/
inductive Parent where
  | root | plural | other
  deriving DecidableEq

def isNameStop (c : Char) : Bool :=
  Text.isBlank c || c == '{' || c == '}' || c == ',' || c == '#' || c == '\''

def skipBlanks (cs : List Char) : List Char := cs.dropWhile Text.isBlank

def readName (cs : List Char) : List Char × List Char :=
  (cs.takeWhile (fun c => !isNameStop c), cs.dropWhile (fun c => !isNameStop c))

def quotedRun : List Char → List Char → List Char × List Char
  | [], lit => (lit, [])
  | '\'' :: '\'' :: rest, lit => quotedRun rest ('\'' :: lit)
  | '\'' :: rest, lit => (lit, rest)
  | c :: rest, lit => quotedRun rest (c :: lit)

def afterApostrophe (parent : Parent) (cs lit : List Char) : List Char × List Char :=
  match cs with
  | '\'' :: rest => ('\'' :: lit, rest)
  | c :: rest =>
    if c == '{' || c == '}' || (c == '#' && parent == .plural) then quotedRun (c :: rest) lit
    else ('\'' :: lit, c :: rest)
  | [] => ('\'' :: lit, [])

def expectChar (c : Char) (cs : List Char) : Except Stop (List Char) :=
  match cs with
  | d :: rest => if d == c then .ok rest else .error (stopAt (.expected c (some d)) cs)
  | [] => .error (stopAt (.expected c none) cs)

def readStyle (cs : List Char) : Except Stop (Option String × List Char) :=
  match cs with
  | '}' :: rest => .ok (none, rest)
  | _ =>
    match expectChar ',' cs with
    | .error e => .error e
    | .ok body =>
      let after := body.dropWhile (fun c => c != '}' && c != '{')
      match after with
      | '{' :: _ => .error (stopAt .openInStyle after)
      | _ =>
        match expectChar '}' after with
        | .error e => .error e
        | .ok rest =>
          let style := String.ofList (Text.trimBlankList (body.takeWhile (fun c => c != '}' && c != '{')))
          if style.isEmpty then .error (stopAt .emptyStyle rest) else .ok (some style, rest)

def int64Min : Int := -9223372036854775808

def int64Max : Int := 9223372036854775807

def readInt64 (negative : Bool) (digits : List Char) : Option Int :=
  let magnitude : Int := digits.foldl (fun acc c => acc * 10 + ((c.toNat - '0'.toNat : Nat) : Int)) 0
  let value := if negative then -magnitude else magnitude
  if digits.isEmpty || value < int64Min || value > int64Max then none else some value

def splitSign : List Char → Bool × List Char
  | '-' :: r => (true, r)
  | r => (false, r)

def readOffset (cs : List Char) : Except Stop (Float × List Char) :=
  match cs with
  | 'o' :: 'f' :: 'f' :: 's' :: 'e' :: 't' :: ':' :: rest =>
    let signed := splitSign (skipBlanks rest)
    let after := signed.2.dropWhile Char.isDigit
    match readInt64 signed.1 (signed.2.takeWhile Char.isDigit) with
    | none => .error (stopAt .offsetNotInteger after)
    | some k => .ok (Decimal.doubleOfRatio (decide (k < 0)) k.natAbs 1, skipBlanks after)
  | _ => .ok (0, cs)

def flush (lit : List Char) (acc : List Element) : List Element :=
  if lit.isEmpty then acc else .literal (String.ofList lit.reverse) :: acc

def hasOther (arms : List Arm) : Bool :=
  arms.any fun a => match a.selector with
    | .keyword k => k == "other"
    | .exact _ => false

def readSelector (parent : Parent) (token : String) (cs after : List Char) : Except Stop Selector :=
  match token.toList with
  | '=' :: number =>
    if parent != .plural then .error (stopAt .exactOutsidePlural after)
    else match Decimal.readDouble (String.ofList number) with
      | some x => .ok (.exact x)
      | none => .error (stopAt (.invalidExact token) cs)
  | [] => .error (stopAt .expectedSelector after)
  | _ => .ok (.keyword token)

def finishArms (arms : List Arm) (rest : List Char) : Except Stop (List Arm) :=
  if arms.isEmpty then .error (stopAt .noArms rest)
  else if !hasOther arms then .error (stopAt .missingOther rest)
  else .ok arms

theorem skipBlanks_length (cs : List Char) : (skipBlanks cs).length ≤ cs.length := by
  unfold skipBlanks
  induction cs with
  | nil => simp
  | cons c cs ih => by_cases h : Text.isBlank c <;> simp [List.dropWhile_cons, h] <;> omega

theorem dropWhile_length_le (p : Char → Bool) (cs : List Char) :
    (cs.dropWhile p).length ≤ cs.length := by
  induction cs with
  | nil => simp
  | cons c cs ih => by_cases h : p c <;> simp [List.dropWhile_cons, h] <;> omega

theorem readName_length (cs : List Char) : (readName cs).2.length ≤ cs.length := by
  exact dropWhile_length_le _ _

theorem quotedRun_length (cs lit : List Char) : (quotedRun cs lit).2.length ≤ cs.length := by
  induction cs, lit using quotedRun.induct with
  | case1 => simp [quotedRun]
  | case2 rest lit ih => simp only [quotedRun]; simp at *; omega
  | case3 rest lit _ => simp [quotedRun]
  | case4 c rest lit _ _ ih => simp only [quotedRun]; simp at *; omega

theorem afterApostrophe_length (p : Parent) (cs lit : List Char) :
    (afterApostrophe p cs lit).2.length ≤ cs.length := by
  unfold afterApostrophe
  split
  · simp
  · split
    · exact quotedRun_length _ _
    · simp
  · simp

theorem expectChar_length {c : Char} {cs rest : List Char} (h : expectChar c cs = .ok rest) :
    rest.length < cs.length := by
  unfold expectChar at h
  split at h
  · split at h
    · cases h; simp
    · cases h
  · cases h

theorem readStyle_length {cs rest : List Char} {s : Option String}
    (h : readStyle cs = .ok (s, rest)) : rest.length < cs.length := by
  unfold readStyle at h
  split at h
  · cases h; simp
  · split at h
    · cases h
    · rename_i body hb
      have h1 := expectChar_length hb
      have h2 := dropWhile_length_le (fun c => c != '}' && c != '{') body
      dsimp only at h
      split at h
      · cases h
      · split at h
        · cases h
        · rename_i r hr
          have h3 := expectChar_length hr
          split at h
          · cases h
          · cases h; omega

theorem splitSign_length (cs : List Char) : (splitSign cs).2.length ≤ cs.length := by
  unfold splitSign
  split <;> simp

theorem readOffset_length {cs rest : List Char} {x : Float}
    (h : readOffset cs = .ok (x, rest)) : rest.length ≤ cs.length := by
  unfold readOffset at h
  split at h
  · rename_i r
    dsimp only at h
    split at h
    · cases h
    · cases h
      have h1 := skipBlanks_length r
      have h2 := splitSign_length (skipBlanks r)
      have h3 := dropWhile_length_le Char.isDigit (splitSign (skipBlanks r)).2
      have h4 := skipBlanks_length ((splitSign (skipBlanks r)).2.dropWhile Char.isDigit)
      simp only [List.length_cons]
      omega
  · cases h; exact Nat.le_refl _

theorem length_lt_of_eq_cons {xs rest : List Char} {c : Char} {n : Nat} (hle : xs.length ≤ n)
    (h : xs = c :: rest) : rest.length < n := by
  subst h
  exact Nat.lt_of_succ_le hle

theorem twice_lt_twice_succ_of_le {a b : Nat} (h : a ≤ b) : 2 * a < 2 * b + 1 := by omega

theorem twice_succ_lt_twice_of_lt {a b : Nat} (h : a < b) : 2 * a + 1 < 2 * b := by omega

theorem twice_lt_twice_of_lt {a b : Nat} (h : a < b) : 2 * a < 2 * b := by omega

theorem twice_lt_twice_length_cons (c : Char) {a : Nat} {rest : List Char} (h : a ≤ rest.length) :
    2 * a < 2 * (c :: rest).length := by
  rw [List.length_cons]; omega

theorem twice_succ_lt_twice_length_cons (c : Char) (rest : List Char) :
    2 * rest.length + 1 < 2 * (c :: rest).length := by
  rw [List.length_cons]; omega

mutual

def readMessage (depth : Nat) (parent : Parent) (cs : List Char) :
    Except Stop {p : Msg × List Char // p.2.length ≤ cs.length} :=
  if depth > maxDepth then .error (stopAt .nestedTooDeeply cs)
  else readElements depth parent cs [] []
termination_by 2 * cs.length + 1
decreasing_by exact Nat.lt_succ_self _

def readElements (depth : Nat) (parent : Parent) (cs : List Char) (lit : List Char)
    (acc : List Element) : Except Stop {p : Msg × List Char // p.2.length ≤ cs.length} :=
  match cs with
  | [] => .ok ⟨((flush lit acc).reverse, []), Nat.le_refl _⟩
  | '}' :: rest => .ok ⟨((flush lit acc).reverse, '}' :: rest), Nat.le_refl _⟩
  | '{' :: rest =>
    match readArgument depth rest with
    | .error e => .error e
    | .ok ⟨(el, r), h⟩ =>
      match readElements depth parent r [] (el :: flush lit acc) with
      | .error e => .error e
      | .ok ⟨p, h'⟩ => .ok ⟨p, Nat.le_succ_of_le (Nat.le_trans h' h)⟩
  | '#' :: rest =>
    if parent = .plural then
      match readElements depth parent rest [] (.pound :: flush lit acc) with
      | .error e => .error e
      | .ok ⟨p, h⟩ => .ok ⟨p, Nat.le_succ_of_le h⟩
    else
      match readElements depth parent rest ('#' :: lit) acc with
      | .error e => .error e
      | .ok ⟨p, h⟩ => .ok ⟨p, Nat.le_succ_of_le h⟩
  | '\'' :: rest =>
    match hq : afterApostrophe parent rest lit with
    | (lit', r) =>
      have hr : r.length ≤ rest.length := by
        have := afterApostrophe_length parent rest lit; rw [hq] at this; exact this
      match readElements depth parent r lit' acc with
      | .error e => .error e
      | .ok ⟨p, h⟩ => .ok ⟨p, Nat.le_succ_of_le (Nat.le_trans h hr)⟩
  | c :: rest =>
    match readElements depth parent rest (c :: lit) acc with
    | .error e => .error e
    | .ok ⟨p, h⟩ => .ok ⟨p, Nat.le_succ_of_le h⟩
termination_by 2 * cs.length
decreasing_by
  · exact twice_succ_lt_twice_length_cons _ _
  · exact twice_lt_twice_length_cons _ h
  · exact twice_lt_twice_length_cons _ (Nat.le_refl _)
  · exact twice_lt_twice_length_cons _ (Nat.le_refl _)
  · exact twice_lt_twice_length_cons _ hr
  · exact twice_lt_twice_length_cons _ (Nat.le_refl _)

def readArgument (depth : Nat) (cs : List Char) :
    Except Stop {p : Element × List Char // p.2.length ≤ cs.length} :=
  let cs1 := skipBlanks cs
  let name := String.ofList (readName cs1).1
  let cs2 := skipBlanks (readName cs1).2
  if name.isEmpty then .error (stopAt .expectedName (readName cs1).2)
  else match hm : cs2 with
  | '}' :: rest =>
    .ok ⟨(.argument name, rest), Nat.le_of_lt (length_lt_of_eq_cons
      (Nat.le_trans (skipBlanks_length _) (Nat.le_trans (readName_length _) (skipBlanks_length cs)))
      hm)⟩
  | _ =>
    match hc : expectChar ',' cs2 with
    | .error e => .error e
    | .ok cs3 =>
      let cs4 := skipBlanks cs3
      let kind := String.ofList (readName cs4).1
      let cs5 := skipBlanks (readName cs4).2
      have h5 : cs5.length < cs.length :=
        Nat.lt_of_le_of_lt
          (Nat.le_trans (skipBlanks_length _) (Nat.le_trans (readName_length _) (skipBlanks_length cs3)))
          (Nat.lt_of_lt_of_le (expectChar_length hc)
            (Nat.le_trans (skipBlanks_length _) (Nat.le_trans (readName_length _) (skipBlanks_length cs))))
      if kind = "number" ∨ kind = "date" ∨ kind = "time" then
        match hs : readStyle cs5 with
        | .error e => .error e
        | .ok (style, rest) =>
          have hr : rest.length < cs5.length := readStyle_length hs
          let el := if kind = "number" then Element.number name style
            else if kind = "date" then .date name style else .time name style
          .ok ⟨(el, rest), Nat.le_of_lt (Nat.lt_trans hr h5)⟩
      else if kind = "plural" ∨ kind = "selectordinal" then
        match hc6 : expectChar ',' cs5 with
        | .error e => .error e
        | .ok cs6 =>
          match ho : readOffset (skipBlanks cs6) with
          | .error e => .error e
          | .ok (offset, cs7) =>
            have h7 : cs7.length ≤ cs.length :=
              Nat.le_of_lt (Nat.lt_of_le_of_lt (Nat.le_trans (readOffset_length ho) (skipBlanks_length cs6))
                (Nat.lt_trans (expectChar_length hc6) h5))
            let pk := if kind = "plural" then Plural.Kind.cardinal else .ordinal
            match readArms depth .plural cs7 [] with
            | .error e => .error e
            | .ok ⟨(arms, rest), h⟩ =>
              .ok ⟨(.plural name pk offset arms, rest), Nat.le_trans h h7⟩
      else if kind = "select" then
        match hc6 : expectChar ',' cs5 with
        | .error e => .error e
        | .ok cs6 =>
          have h6 : cs6.length ≤ cs.length := Nat.le_of_lt (Nat.lt_trans (expectChar_length hc6) h5)
          match readArms depth .other cs6 [] with
          | .error e => .error e
          | .ok ⟨(arms, rest), h⟩ =>
            .ok ⟨(.select name arms, rest), Nat.le_trans h h6⟩
      else if kind.isEmpty then .error (stopAt .expectedKind cs5)
      else .error (stopAt (.unknownKind kind) cs4)
termination_by 2 * cs.length + 1
decreasing_by
  · exact twice_lt_twice_succ_of_le h7
  · exact twice_lt_twice_succ_of_le h6

def readArms (depth : Nat) (parent : Parent) (cs : List Char) (arms : List Arm) :
    Except Stop {p : List Arm × List Char // p.2.length ≤ cs.length} :=
  let cs1 := skipBlanks cs
  match hm : cs1 with
  | '}' :: rest =>
    match finishArms arms rest with
    | .error e => .error e
    | .ok arms =>
      .ok ⟨(arms, rest), Nat.le_of_lt (length_lt_of_eq_cons (skipBlanks_length cs) hm)⟩
  | [] => .error (stopAt .unterminated [])
  | c :: more =>
    let token := String.ofList (readName cs1).1
    let cs2 := (readName cs1).2
    match readSelector parent token cs1 cs2 with
    | .error e => .error e
    | .ok sel =>
      if arms.any (fun a => a.selector.same sel) then
        .error (stopAt (.duplicateSelector token) cs1)
      else
        let cs3 := skipBlanks cs2
        match hm3 : cs3 with
        | '{' :: rest =>
          have hrest : rest.length < cs.length := length_lt_of_eq_cons
            (Nat.le_trans (skipBlanks_length _) (Nat.le_trans (readName_length _) (skipBlanks_length cs)))
            hm3
          match readMessage (depth + 1) parent rest with
          | .error e => .error e
          | .ok ⟨(message, r), h⟩ =>
            match he : expectChar '}' r with
            | .error e => .error e
            | .ok r2 =>
              have hr2 : r2.length < cs.length :=
                Nat.lt_trans (Nat.lt_of_lt_of_le (expectChar_length he) h) hrest
              match readArms depth parent r2 (arms ++ [.mk sel message]) with
              | .error e => .error e
              | .ok ⟨p, h'⟩ => .ok ⟨p, Nat.le_of_lt (Nat.lt_of_le_of_lt h' hr2)⟩
        | _ => .error (stopAt (.expectedArmOpen token) cs3)
termination_by 2 * cs.length
decreasing_by
  · exact twice_succ_lt_twice_of_lt hrest
  · exact twice_lt_twice_of_lt hr2

end

/-- reads a whole message. A closing brace with no argument open is an error; faults carry the
byte offset where they were found. -/
def parse (s : String) : Except SyntaxError Msg :=
  let cs := s.toList
  match readMessage 0 .root cs with
  | .error st => .error ⟨byteSize cs - st.bytesLeft, st.reason⟩
  | .ok ⟨(m, rest), _⟩ =>
    if rest.isEmpty then .ok m else .error ⟨byteSize cs - byteSize rest, .unexpectedClose⟩

end Phrasebook.Message
