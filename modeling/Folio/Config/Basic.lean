import Folio.Content.Format
import Folio.Files.Path
import Folio.Markup.Scan

/-!
# Configurations

The settings of a site: where its data lies, how content files are separated, how placeholders are
written, how deep includes nest and what counts as the name of a file.
-/

namespace Folio

namespace Config

structure Site where
  settings : Path := "shared/site.txt".toList
  /-- The directory whose first subdirectory is the theme. -/
  themes : Path := "themes".toList
  /-- The name of the site, unless its fields have one. -/
  name : Text := "localhost".toList
deriving DecidableEq, Inhabited

structure Render where
  maxIncludeDepth : Nat := 16
  debug : Bool := false
deriving DecidableEq, Inhabited

structure Files where
  allowedTypes : Text := "css, jpg, jpeg, gif, png, svg, js, pdf, zip".toList
deriving DecidableEq, Inhabited

end Config

structure Config where
  path : Path := []
  root : Option Path := none
  site : Config.Site := {}
  content : Content.Format := {}
  markup : Markup.Syntax := {}
  render : Config.Render := {}
  files : Config.Files := {}
deriving DecidableEq, Inhabited

def Config.rootPath (config : Config) : Path := config.root.getD "./".toList

end Folio
