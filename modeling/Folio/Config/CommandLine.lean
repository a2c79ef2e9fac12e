import Folio.Command.Basic
import Folio.Config.Basic
import Folio.Files.FileTree

/-!
# Configurations and the command line

The command line says where the site is. Paths of the configuration are seen from there and become
absolute: canonical where they lead somewhere, and else as they are written.
-/

namespace Folio.Config

/-- The absolute form of a path: canonical if it leads somewhere. -/
def absolutePath (files : FileTree) (p : Path) : Path :=
  (files.canonical? p).getD (files.absolute p)

def apply (files : FileTree) (invocation : Command.Invocation) (config : Config) : Config :=
  let root := absolutePath files (invocation.root.getD config.rootPath)
  { config with
    root := some root
    path := absolutePath files (Path.join root invocation.config)
    site := { config.site with
      settings := absolutePath files (Path.join root config.site.settings)
      themes := absolutePath files (Path.join root config.site.themes) }
    render := { config.render with debug := config.render.debug || invocation.verbose } }

end Folio.Config
