import Marginalia.Language.Registry
import Marginalia.System.Duration
import Marginalia.System.OsError

/-!
# `Marginalia.Config.Basic`: settings

Settings say where pages go, which highlighter is used, and which
languages are known besides those that are known from the start. An
acceptable configuration gives a highlighter some time and declares only
acceptable languages.
-/

set_option autoImplicit false

namespace Marginalia

/-- The settings of the highlighter. -/
structure HighlighterSettings where
  command : Text
  url : Text
  seconds : Nat
  fallback : Bool
deriving DecidableEq

/-- All settings. -/
structure Config where
  output : Path
  highlighter : HighlighterSettings
  languages : Table Language.Declaration

/-- Why there is no configuration. -/
inductive Config.Error
  | unreadable (path : Path) (reason : OsError)
  | malformed
  | invalidLanguage (extension : Text) (reason : Language.Error)
  | zeroTimeout
deriving DecidableEq

/-- The wording of an error. -/
def Config.Error.message : Config.Error → Text
  | .unreadable path reason =>
    "failed to read config file '" ++ path.text ++ "': " ++ reason.message
  | .malformed => "failed to parse config"
  | .invalidLanguage extension reason =>
    "invalid language '" ++ extension ++ "': " ++ reason.message
  | .zeroTimeout => "highlighter timeout must be greater than zero"

namespace HighlighterSettings

/-- The settings of the highlighter where none are given. -/
def standard : HighlighterSettings :=
  ⟨"pygmentize", "http://pygments.appspot.com/", 30, true⟩

/-- The time that a highlighter has. -/
def limit (settings : HighlighterSettings) : Duration :=
  .ofSeconds settings.seconds

end HighlighterSettings

namespace Config

/-- The name of the file that settings are looked for in. -/
def fileName : Text := "phocco.toml"

/-- The settings where none are given. -/
def standard : Config :=
  ⟨⟨"docs"⟩, .standard, .empty⟩

/-- Whether two configurations say the same. -/
def same (a b : Config) : Bool :=
  a.output.same b.output && a.highlighter = b.highlighter && a.languages = b.languages

/-- The languages that are known from the start with those of the
configuration over them, in the order of their keys. -/
def registry [Language.Patterns] (config : Config) : Except Error Language.Registry :=
  config.languages.entries.foldlM
    (fun registry (extension, declaration) =>
      (registry.declare extension declaration).mapError (.invalidLanguage extension))
    Language.Registry.builtin

/-- The configuration, if it is acceptable. -/
def validate [Language.Patterns] (config : Config) : Except Error Config :=
  if config.highlighter.seconds = 0 then .error .zeroTimeout
  else config.registry.map fun _ => config

end Config

end Marginalia
