import Folio.Text.Basic

/-!
# Placeholders

A template is text with placeholders in it. A placeholder stands for the value of a field, for the
output of a call, or for the content of another file.
-/

namespace Folio.Markup

inductive Scope where
  | site
  | page
deriving DecidableEq, Inhabited

inductive Callee where
  | tool
  | extension
deriving DecidableEq, Inhabited

inductive Token where
  | field (scope : Scope) (name : Text)
  | call (callee : Callee) (name : Text) (payload : Option Text)
  | inclusion (path : Text)
deriving DecidableEq, Inhabited

def Token.isField : Token → Bool
  | .field _ _ => true
  | _ => false

inductive Segment where
  | text (content : Text)
  | placeholder (token : Token) (raw : Text)
deriving DecidableEq, Inhabited

def Segment.source : Segment → Text
  | .text content => content
  | .placeholder _ raw => raw

def source (segments : List Segment) : Text := segments.flatMap Segment.source

/-- Puts literal text in front of segments, joined with text that they start with. -/
def prependText (content : Text) : List Segment → List Segment
  | .text next :: segments => .text (content ++ next) :: segments
  | segments => .text content :: segments

theorem source_prependText (content : Text) (segments : List Segment) :
    source (prependText content segments) = content ++ source segments := by
  match segments with
  | [] => simp [prependText, source, Segment.source]
  | .text next :: rest => simp [prependText, source, Segment.source]
  | .placeholder token raw :: rest => simp [prependText, source, Segment.source]

end Folio.Markup
