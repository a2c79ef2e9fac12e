import Folio.NamedList
import Folio.Options
import Folio.Text.Quoted

/-!
# Registries

Tools and extensions are called by name. They may keep a state, which a registry leaves open and which
is handed from call to call.
-/

namespace Folio

structure Tool (σ : Type) where
  invoke : Options → σ → Text × σ

structure Extension (σ : Type) where
  invoke : Options → σ → Text × σ
  headAssets : List Text := []

structure Registry (σ : Type) where
  tools : List (Text × Tool σ) := []
  extensions : List (Text × Extension σ) := []

namespace Registry

variable {σ : Type}

def empty : Registry σ := {}

instance : EmptyCollection (Registry σ) := ⟨empty⟩

instance : Inhabited (Registry σ) := ⟨empty⟩

def registerTool (registry : Registry σ) (name : Text) (tool : Tool σ) : Registry σ :=
  { registry with tools := NamedList.insert name tool registry.tools }

def registerExtension (registry : Registry σ) (name : Text) (extension : Extension σ) : Registry σ :=
  { registry with extensions := NamedList.insert name extension registry.extensions }

def tool? (registry : Registry σ) (name : Text) : Option (Tool σ) := registry.tools.lookup name

def extension? (registry : Registry σ) (name : Text) : Option (Extension σ) :=
  registry.extensions.lookup name

def nameList (names : List Text) : Text :=
  '[' :: Text.join [',', ' '] (names.map Text.quoted) ++ [']']

def describe (registry : Registry σ) : Text :=
  "Registry \x7b tools: ".toList ++ nameList (registry.tools.map Prod.fst) ++
    ", extensions: ".toList ++ nameList (registry.extensions.map Prod.fst) ++ [' ', '}']

end Registry

end Folio
