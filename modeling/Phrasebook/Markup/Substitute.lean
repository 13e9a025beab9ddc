import Phrasebook.Value.Values
import Phrasebook.Text.Word

/-!
# Substituting placeholders

`substitute text vs` replaces `{name}` by the text of the value of `name`, for each name whose
value is text or a number, one name at a time in byte order of names. A replacement can thus
create a placeholder for a later name, but never for an earlier one.

`placeholders template` lists the names of the placeholders `{word}` of a template.
-/

namespace Phrasebook.Markup

def replaceAll (pat rep : List Char) (cs : List Char) : List Char :=
  match pat with
  | [] => cs
  | p :: ps =>
    match cs with
    | [] => []
    | c :: rest =>
      if (p :: ps).isPrefixOf (c :: rest) then rep ++ replaceAll (p :: ps) rep ((c :: rest).drop (ps.length + 1))
      else c :: replaceAll (p :: ps) rep rest
termination_by cs.length
decreasing_by all_goals (simp; try omega)

def placeholder (name : String) : List Char := '{' :: name.toList ++ ['}']

/-- replaces the placeholders of the names whose values are text or numbers, in name order -/
def substitute (text : String) (vs : Values) : String :=
  String.ofList (vs.toList.foldl (fun acc e =>
    match e.2 with
    | .scalar s => if s.isTextOrNumber then replaceAll (placeholder e.1) s.display.toList acc else acc
    | .tag _ => acc) text.toList)

def scanPlaceholders : Option (List Char) → List Char → List String
  | _, [] => []
  | none, c :: rest =>
    if c == '{' then scanPlaceholders (some []) rest else scanPlaceholders none rest
  | some word, c :: rest =>
    if Text.isWordChar c then scanPlaceholders (some (c :: word)) rest
    else if c == '}' then
      if word.isEmpty then scanPlaceholders none rest
      else String.ofList word.reverse :: scanPlaceholders none rest
    else if c == '{' then scanPlaceholders (some []) rest
    else scanPlaceholders none rest

def placeholderNames (cs : List Char) : List String := scanPlaceholders none cs

/-- the names of the placeholders of a template, sorted and without repeats -/
def placeholders (template : String) : List String :=
  ((placeholderNames template.toList).mergeSort (fun a b => decide (a ≤ b))).eraseDups

end Phrasebook.Markup
