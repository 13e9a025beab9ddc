import Phrasebook.Markup.Rendered
import Phrasebook.Markup.Substitute

/-!
# Interpolating tags and placeholders

A tag span is `<name>content</name>`: a word, a content without `<`, and a closing word. Spans
are found from left to right without overlaps, a span with different opening and closing
words included (it is then left as it is).

`interpolate text vs reg l` hands each span whose name has a handler, in the registry or among
the values, to those handlers: the content, or the value of the content when it is a single
`{name}` placeholder, goes first through the registry's handler and then through the value's.
The text between handled spans becomes text parts. When no span is handled the result is the
text with its placeholders substituted.
-/

namespace Phrasebook.Markup

/-- a tag span: its opening word, content and closing word -/
structure Span where
  opening : String
  content : String
  closing : String
  deriving Repr, DecidableEq

def Span.raw (s : Span) : String :=
  "<" ++ s.opening ++ ">" ++ s.content ++ "</" ++ s.closing ++ ">"

/-- a piece of scanned text -/
inductive Segment where
  | text (s : String)
  | span (s : Span)
  deriving Repr, DecidableEq

def readSpan (cs : List Char) : Option (Span × Nat) :=
  let opening := cs.takeWhile Text.isWordChar
  match cs.drop opening.length with
  | '>' :: rest =>
    let content := rest.takeWhile (· != '<')
    match rest.drop content.length with
    | '<' :: '/' :: more =>
      let closing := more.takeWhile Text.isWordChar
      match more.drop closing.length with
      | '>' :: _ =>
        if opening.isEmpty || closing.isEmpty then none
        else some (⟨String.ofList opening, String.ofList content, String.ofList closing⟩,
          opening.length + content.length + closing.length + 4)
      | _ => none
    | _ => none
  | _ => none

def scan (cs : List Char) (pending : List Char) : List Segment :=
  match cs with
  | [] => [.text (String.ofList pending.reverse)]
  | c :: rest =>
    if c == '<' then
      match readSpan rest with
      | some (s, n) => .text (String.ofList pending.reverse) :: .span s :: scan (rest.drop n) []
      | none => scan rest (c :: pending)
    else scan rest (c :: pending)
termination_by cs.length
decreasing_by all_goals (simp; try omega)

def segments (text : String) : List Segment := scan text.toList []

def tagContent (content : String) (vs : Values) : String :=
  match content.toList with
  | '{' :: rest =>
    match rest.reverse with
    | '}' :: nameRev =>
      let name := nameRev.reverse
      if !name.isEmpty && name.all Text.isWordChar then
        match vs.scalar? (String.ofList name) with
        | some s => s.display
        | none => content
      else content
    | _ => content
  | _ => content

/-- what the walk over the segments has built: the parts so far, the text since the last
handled span, and whether a span was handled -/
structure Progress where
  parts : List Part := []
  pending : String := ""
  handled : Bool := false

def step (vs : Values) (reg : TagRegistry) (l : Locale) (p : Progress) : Segment → Progress
  | .text s => { p with pending := p.pending ++ s }
  | .span s =>
    let global := reg.get? s.opening
    let inline := vs.tag? s.opening
    if s.opening != s.closing || (global.isNone && inline.isNone) then
      { p with pending := p.pending ++ s.raw }
    else
      let first : Part := .text (tagContent s.content vs)
      let second := match global with
        | some h => h.run first l
        | none => first
      let third := match inline with
        | some h => h.run second l
        | none => second
      let parts := if p.pending.isEmpty then p.parts else p.parts ++ [.text p.pending]
      ⟨parts ++ [third], "", true⟩

def interpolate (text : String) (vs : Values) (reg : TagRegistry) (l : Locale) : Rendered :=
  let p := (segments text).foldl (step vs reg l) {}
  if !p.handled then .text (substitute text vs)
  else .parts (if p.pending.isEmpty then p.parts else p.parts ++ [.text p.pending])

end Phrasebook.Markup
