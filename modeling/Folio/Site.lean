import Folio.Config.Basic
import Folio.Content.Load
import Folio.Content.Tags
import Folio.Log
import Folio.NamedList

/-!
# Sites and pages

The fields of a site come from its settings file, laid over defaults. The fields of a page come from its
content file, and the includes of a template are relative to the directory of the page.
-/

namespace Folio

namespace Site

def nameKey : Text := "sitename".toList

def themeKey : Text := "theme".toList

/-- The first directory in the directory of themes, in the order of names. -/
def firstTheme? (files : FileTree) (themes : Path) : Option Text :=
  (NamedList.ofList ((files.subdirectories themes).map (·, ()))).head?.map Prod.fst

def defaults (files : FileTree) (config : Config) : FieldMap :=
  let named := FieldMap.empty.insert nameKey config.site.name
  match firstTheme? files config.site.themes with
  | some theme => named.insert themeKey theme
  | none => named

/-- The fields of a site. A missing settings file leaves the defaults. -/
def load (files : FileTree) (config : Config) : Except Content.LoadError FieldMap :=
  if files.isFile config.site.settings then
    (Content.load files config.content config.site.settings).map
      (defaults files config).merge
  else .ok (defaults files config)

def entries (files : FileTree) (config : Config) : List Log.Entry :=
  if files.isFile config.site.settings then []
  else [⟨"site", "no settings file at ".toList ++ config.site.settings, true⟩]

end Site

structure Page where
  fields : FieldMap
  base : Path
deriving Inhabited

namespace Page

def load (files : FileTree) (format : Content.Format) (path : Path) :
    Except Content.LoadError Page :=
  (Content.load files format path).map fun fields => ⟨fields, Path.directory path⟩

def tags (page : Page) (separator : Text) : List Text := Content.tags separator page.fields

end Page

end Folio
