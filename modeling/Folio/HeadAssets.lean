import Folio.Text.Basic

/-!
# Head assets

The stylesheets and scripts that a page needs in its head, each once, in the order in which they were
first asked for.
-/

namespace Folio

structure HeadAssets where
  urls : List Text
  nodup : urls.Nodup
deriving DecidableEq

namespace HeadAssets

def empty : HeadAssets := ⟨[], by simp⟩

instance : Inhabited HeadAssets := ⟨empty⟩

instance : EmptyCollection HeadAssets := ⟨empty⟩

@[ext] theorem ext {a b : HeadAssets} (h : a.urls = b.urls) : a = b := by
  cases a; cases b; cases h; rfl

def insert (assets : HeadAssets) (url : Text) : HeadAssets :=
  if h : url ∈ assets.urls then assets
  else ⟨assets.urls ++ [url], by
    rw [List.nodup_append]
    refine ⟨assets.nodup, by simp, ?_⟩
    rintro a ha b hb rfl
    exact h (by simpa [List.mem_singleton.1 hb] using ha)⟩

def insertAll (assets : HeadAssets) (urls : List Text) : HeadAssets := urls.foldl insert assets

inductive Role where
  | stylesheet
  | script
  | other
deriving DecidableEq, Inhabited

/-- The role of an address, by the letters after the last point of what stands before a query or a
fragment. -/
def roleOf (url : Text) : Role :=
  let path := url.takeWhile fun c => c ≠ '?' && c ≠ '#'
  let extension := Text.asciiLower (Text.afterLast '.' path)
  if extension = "css".toList then .stylesheet
  else if extension = "js".toList then .script
  else .other

def linkElement (url : Text) : Text :=
  "<link type=\"text/css\" rel=\"stylesheet\" href=\"".toList ++ url ++ "\" />\n".toList

def scriptElement (url : Text) : Text :=
  "<script type=\"text/javascript\" src=\"".toList ++ url ++ "\"></script>\n".toList

/-- The elements for the assets: stylesheets first, then scripts; other addresses have none. -/
def toHtml (assets : HeadAssets) : Text :=
  (assets.urls.filter (roleOf · = .stylesheet)).flatMap linkElement ++
    (assets.urls.filter (roleOf · = .script)).flatMap scriptElement

def headEnd : Text := "</head>".toList

/-- Puts the elements in front of the first end of a head. A page without one stays as it is. -/
def injectIntoHead (assets : HeadAssets) (html : Text) : Text :=
  match Text.cut? headEnd html with
  | some (before, after) => before ++ assets.toHtml ++ headEnd ++ after
  | none => html

end HeadAssets

end Folio
