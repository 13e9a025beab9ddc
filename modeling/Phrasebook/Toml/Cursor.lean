/-!
# Reading TOML: places and failures

TOML text is read from a `Cursor`: the characters left and the byte offset of the first of
them. A reader either succeeds with a value and the cursor after it, or fails with a `Fault`
placed at a byte offset.

A failure is `soft` when an alternative may still be tried at the same place, and `hard` when
the text is certainly wrong there. A fault collects, as it travels outwards, what was being
read (`Context.label`) and what would have been accepted (`Context.expected`); its wording
names the first thing being read, then everything expected, then the cause:

* `Fault.message`  `invalid <label>`, `expected <a>, <b>` and the cause, one per line.
-/

namespace Phrasebook.Toml

/-- what a reader was doing, or what it would have accepted, where it stopped -/
inductive Context where
  | label (what : String)
  | expected (what : String)

/-- where and why reading stopped -/
structure Fault where
  offset : Nat
  contexts : List Context := []
  cause : Option String := none

def Fault.label? (f : Fault) : Option String :=
  f.contexts.findSome? fun
    | .label w => some w
    | .expected _ => none

/-- everything that would have been accepted, in the order it was noted -/
def Fault.expected (f : Fault) : List String :=
  f.contexts.filterMap fun
    | .expected w => some w
    | .label _ => none

/-- the wording of a fault: one line for what was being read, one for what was expected and
one for the cause, each only when known -/
def Fault.message (f : Fault) : String :=
  let lines := (f.label?.map ("invalid " ++ ·)).toList ++
    (if f.expected.isEmpty then [] else ["expected " ++ ", ".intercalate f.expected]) ++
    f.cause.toList
  "\n".intercalate lines

/-- a failure: `soft` lets an alternative be tried, `hard` ends the reading -/
inductive Failure where
  | soft (f : Fault)
  | hard (f : Fault)

namespace Failure

def fault : Failure → Fault
  | .soft f | .hard f => f

def within (ctx : Context) : Failure → Failure
  | .soft f => .soft { f with contexts := f.contexts ++ [ctx] }
  | .hard f => .hard { f with contexts := f.contexts ++ [ctx] }

def withinAll (ctxs : List Context) (e : Failure) : Failure := ctxs.foldl (fun e c => e.within c) e

def harden : Failure → Failure
  | .soft f => .hard f
  | .hard f => .hard f

end Failure

/-- the characters left to read and the byte offset of the first -/
structure Cursor where
  rest : List Char
  offset : Nat

/-- a reading step: a value and the cursor after it, or a failure -/
abbrev Step (α : Type) := Except Failure (α × Cursor)

def Step.andThen {α β : Type} (s : Step α) (k : α → Cursor → Step β) : Step β :=
  match s with
  | .ok (a, c) => k a c
  | .error e => .error e

namespace Cursor

def start (s : String) : Cursor := ⟨s.toList, 0⟩

def past (cur : Cursor) (c : Char) (r : List Char) : Cursor := ⟨r, cur.offset + c.utf8Size⟩

/-- a soft failure here, with the given contexts -/
def soft (cur : Cursor) (ctxs : List Context := []) : Failure := .soft ⟨cur.offset, ctxs, none⟩

/-- a hard failure here, with the given contexts -/
def hard (cur : Cursor) (ctxs : List Context := []) : Failure := .hard ⟨cur.offset, ctxs, none⟩

def atEnd (cur : Cursor) : Bool := cur.rest.isEmpty

def startsWith (cur : Cursor) (p : List Char) : Bool := p.isPrefixOf cur.rest

def skip (cur : Cursor) (p : List Char) : Cursor :=
  ⟨cur.rest.drop p.length, cur.offset + (String.ofList p).utf8ByteSize⟩

end Cursor

def spanWhile (p : Char → Bool) : List Char → List Char × List Char × Nat
  | [] => ([], [], 0)
  | c :: cs =>
    if p c then
      let (taken, rest, n) := spanWhile p cs
      (c :: taken, rest, n + c.utf8Size)
    else ([], c :: cs, 0)

def Cursor.takeWhile (cur : Cursor) (p : Char → Bool) : List Char × Cursor :=
  let (taken, rest, n) := spanWhile p cur.rest
  (taken, ⟨rest, cur.offset + n⟩)

theorem spanWhile_rest_length (p : Char → Bool) :
    ∀ cs : List Char, (spanWhile p cs).2.1.length ≤ cs.length
  | [] => by simp [spanWhile]
  | c :: cs => by
    have ih := spanWhile_rest_length p cs
    unfold spanWhile
    split
    · rcases hs : spanWhile p cs with ⟨t, r, n⟩
      rw [hs] at ih
      simp only [List.length_cons] at ih ⊢
      omega
    · simp

theorem Cursor.takeWhile_length (cur : Cursor) (p : Char → Bool) :
    (cur.takeWhile p).2.rest.length ≤ cur.rest.length :=
  spanWhile_rest_length p cur.rest

end Phrasebook.Toml
