/-!
# Language identifiers

A language identifier is a language subtag, optionally followed by a script, a region and any
number of variants, separated by `-` or `_`. Subtags are classified by shape:

* language: two, three or five to eight ASCII letters, lower-cased; `und` means no language;
* script: four letters, written with a capital first letter;
* region: two letters, upper-cased, or three digits;
* variant: five to eight letters or digits, or four ASCII characters, lower-cased. A
  four-character variant is refused only when it neither starts with a digit nor continues with
  letters and digits alone, so `1a#b` and `#abc` are variants while `a#bc` is not.

They must come in that order; a subtag that fits no remaining slot makes the whole text
invalid. Variants are kept sorted and without repeats. The canonical text joins the subtags with
`-`.
-/

namespace Phrasebook

/-- a parsed language identifier -/
structure LanguageId where
  /-- `none` is the undetermined language `und` -/
  language : Option String
  script : Option String
  region : Option String
  variants : List String
  deriving Repr, DecidableEq

namespace LanguageId

def lowerAscii (s : String) : String := String.ofList (s.toList.map Char.toLower)

def upperAscii (s : String) : String := String.ofList (s.toList.map Char.toUpper)

def languageSubtag? (s : String) : Option (Option String) :=
  let n := s.length
  if (n = 2 ∨ n = 3 ∨ (5 ≤ n ∧ n ≤ 8)) ∧ s.toList.all Char.isAlpha then
    let l := lowerAscii s
    some (if l = "und" then none else some l)
  else none

def scriptSubtag? (s : String) : Option String :=
  match s.toList with
  | [a, b, c, d] =>
    if [a, b, c, d].all Char.isAlpha then
      some (String.ofList [a.toUpper, b.toLower, c.toLower, d.toLower])
    else none
  | _ => none

def regionSubtag? (s : String) : Option String :=
  let cs := s.toList
  if cs.length = 2 ∧ cs.all Char.isAlpha then some (upperAscii s)
  else if cs.length = 3 ∧ cs.all Char.isDigit then some s
  else none

def isSubtagChar (c : Char) : Bool := c.val < 128 && c != '\x00'

def isShortVariant : List Char → Bool
  | c :: rest => c.isDigit || rest.all Char.isAlphanum
  | [] => false

def variantSubtag? (s : String) : Option String :=
  let cs := s.toList
  let n := cs.length
  if cs.all isSubtagChar ∧
      (((5 ≤ n ∧ n ≤ 8) ∧ cs.all Char.isAlphanum) ∨ (n = 4 ∧ isShortVariant cs))
  then some (lowerAscii s)
  else none

def insertSorted (v : String) : List String → List String
  | [] => [v]
  | w :: ws => if v < w then v :: w :: ws else if v = w then w :: ws else w :: insertSorted v ws

def readVariants : List String → List String → Option (List String)
  | [], acc => some acc
  | s :: rest, acc =>
    match variantSubtag? s with
    | some v => readVariants rest (insertSorted v acc)
    | none => none

def readTail (language : Option String) : List String → Option LanguageId
  | [] => some ⟨language, none, none, []⟩
  | s :: rest =>
    match scriptSubtag? s with
    | some script =>
      match rest with
      | [] => some ⟨language, some script, none, []⟩
      | r :: rest' =>
        match regionSubtag? r with
        | some region => (readVariants rest' []).map fun vs => ⟨language, some script, some region, vs⟩
        | none => (readVariants rest []).map fun vs => ⟨language, some script, none, vs⟩
    | none =>
      match regionSubtag? s with
      | some region => (readVariants rest []).map fun vs => ⟨language, none, some region, vs⟩
      | none => (readVariants (s :: rest) []).map fun vs => ⟨language, none, none, vs⟩

def parse? (s : String) : Option LanguageId :=
  match s.split (fun c => c == '-' || c == '_') |>.toList.map (·.toString) with
  | [] => none
  | first :: rest =>
    match languageSubtag? first with
    | some language => readTail language rest
    | none => none

def render (id : LanguageId) : String :=
  "-".intercalate ((id.language.getD "und") :: (id.script.toList ++ id.region.toList ++ id.variants))

end LanguageId

end Phrasebook
