import Composer.Fault
import Composer.Paste
import Composer.Prompt
import Composer.Text.Search
set_option autoImplicit false

/-!
# The configuration

Where the backend is, when a paste is large, what is logged, and the saved prompts. Everything has a
default.
-/

namespace Composer

/-- How the backend is reached. -/
structure ApiConfig where
  baseUrl : String := "http://localhost:8080/api"
  timeoutSeconds : UInt64 := 120
  deriving DecidableEq, Repr

/-- The configuration of the program. -/
structure Config where
  api : ApiConfig := {}
  paste : PasteClassifier := {}
  logFilter : String := "warn,chatdeck=info"
  prompts : List PromptGroup := []
  deriving DecidableEq, Repr

namespace Config

/-- Whether an address, trimmed, is one of the web. -/
def isWebUrl (url : String) : Bool :=
  Text.startsWith (Text.trim url) "http://" || Text.startsWith (Text.trim url) "https://"

/-- What makes a configuration unusable, if anything does. -/
def fault? (c : Config) : Option Fault :=
  if !isWebUrl c.api.baseUrl then
    some (.config s!"api.base_url must be an http(s) URL, got '{c.api.baseUrl}'")
  else if c.paste.charThreshold = 0 ∨ c.paste.lineThreshold = 0 then
    some (.config "paste thresholds must be greater than zero")
  else none

/-- The configuration itself, if it is usable. -/
def checked (c : Config) : Except Fault Config :=
  match c.fault? with
  | some e => .error e
  | none => .ok c

/-- The configuration with another address of the backend; a blank one does not count. -/
def withBaseUrl (c : Config) (url : Option String) : Config :=
  match Text.nonBlank? url with
  | some url => { c with api := { c.api with baseUrl := url } }
  | none => c

end Config
end Composer
