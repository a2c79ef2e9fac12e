import Folio.Markdown.Basic
import Folio.Unicode.Class

/-!
# Emphasis

Runs of asterisks, low lines and tildes open and close emphasis. What stands beside a run decides
whether it can open and whether it can close; a run that closes is matched with the nearest one before it
that it fits.
-/

namespace Folio.Markdown

structure Run where
  mark : Char
  length : Nat
  canOpen : Bool
  canClose : Bool
deriving DecidableEq, Inhabited

/-- Whether a run can open between two characters. An end of the text counts as a blank. -/
def canOpen (mark : Char) (length : Nat) (before after : Option Char) : Bool :=
  after.any fun after => !Unicode.isBlank after &&
    before.all fun before =>
      ((mark = '*' || (mark = '~' && before = '~')) && !Unicode.isPunctuation after) ||
        (mark = '~' && 1 < length) || Unicode.isBlank before || Unicode.isPunctuation before

def canClose (mark : Char) (length : Nat) (before after : Option Char) : Bool :=
  before.any fun before => !Unicode.isBlank before &&
    after.all fun after =>
      ((mark = '*' || (mark = '~' && 1 < length)) && !Unicode.isPunctuation before) ||
        (mark = '~' && before = '~') || Unicode.isBlank after || Unicode.isPunctuation after

/-- A part of running text of which the emphasis is not known yet. -/
inductive Part where
  | inline (i : Inline)
  | run (r : Run)
deriving Inhabited

structure Opener where
  run : Run
  count : Nat
  content : List Inline := []
deriving Inhabited

def literalMarks (mark : Char) (count : Nat) : Inline := .text (List.replicate count mark)

/-- Whether a run that closes fits an open one. Tildes have to come in equal numbers. Of other marks, if
one of the runs can do both, the lengths must not add up to a multiple of three unless they are such
multiples themselves. -/
def Run.fits (r : Run) (o : Opener) : Bool :=
  let both := (r.canOpen && r.canClose) || (o.run.canOpen && o.run.canClose)
  r.mark = o.run.mark && (r.mark ≠ '~' || r.length = o.run.length) &&
    (!both || (r.length + o.run.length) % 3 ≠ 0 || r.length % 3 = 0)

/-- The content between `count` marks on either side. Two marks are strong, and stand inside of one. -/
def emphasize (mark : Char) : Nat → List Inline → List Inline
  | 0, content => content
  | 1, content => [if mark = '~' then .deletion content else .emphasis content]
  | n + 2, content =>
    emphasize mark n [if mark = '~' then .deletion content else .strong content]

structure Emphases where
  before : List Inline := []
  openers : List Opener := []
deriving Inhabited

namespace Emphases

def append (content : List Inline) (e : Emphases) : Emphases :=
  match e.openers with
  | [] => { e with before := content ++ e.before }
  | o :: os => { e with openers := { o with content := content ++ o.content } :: os }

def dissolve (e : Emphases) : Emphases :=
  match e.openers with
  | [] => e
  | o :: os => append (o.content ++ [literalMarks o.run.mark o.count]) { e with openers := os }

def dissolveMany : Nat → Emphases → Emphases
  | 0, e => e
  | n + 1, e => dissolveMany n e.dissolve

/-- The text in which up to `count` marks of a run close emphasis, and the number of marks that are
left. -/
def close (r : Run) : Nat → Nat → Emphases → Nat × Emphases
  | 0, count, e => (count, e)
  | n + 1, count, e =>
    if count = 0 then (0, e)
    else
      match e.openers.findIdx? r.fits with
      | none => (count, e)
      | some i =>
        let e := dissolveMany i e
        match e.openers with
        | [] => (count, e)
        | o :: os =>
          let used := min count o.count
          let content := emphasize r.mark used o.content.reverse
          let e : Emphases :=
            if used < o.count then
              { e with openers := { o with count := o.count - used, content } :: os }
            else append content { e with openers := os }
          close r n (count - used) e

def add (e : Emphases) (part : Part) : Emphases :=
  match part with
  | .inline i => append [i] e
  | .run r =>
    let (count, e) := if r.canClose then close r r.length r.length e else (r.length, e)
    if count = 0 then e
    else if r.canOpen then { e with openers := { run := r, count } :: e.openers }
    else append [literalMarks r.mark count] e

def finish (e : Emphases) : List Inline := (dissolveMany e.openers.length e).before.reverse

end Emphases

def resolve (parts : List Part) : List Inline := (parts.foldl Emphases.add {}).finish

end Folio.Markdown
