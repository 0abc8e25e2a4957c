import Composer.Config.Document
import Composer.Disk
set_option autoImplicit false

/-!
# The configuration file

The configuration is loaded when it is first asked for and kept until it is invalidated. What was
loaded can be overridden from the environment; what was saved is kept as it is. A failure is never
kept.
-/

namespace Composer

/-- The part of the environment that bears on the configuration. -/
structure Environment where
  /-- The user's folder, if the environment names it. -/
  home : Option String := none
  /-- The user's folder as the user accounts have it. -/
  accountHome : Option String := none
  /-- The folder for configuration files, if it is not the usual one. -/
  configHome : Option String := none
  /-- The address of the backend, in place of the configured one. -/
  apiUrl : Option String := none
  deriving DecidableEq, Repr

namespace Environment

/-- The user's folder: the one that the environment names, unless that is empty, and else the one
of the account. -/
def homeFolder? (e : Environment) : Option String :=
  match e.home.filter fun path => !path.isEmpty with
  | some path => some path
  | none => e.accountHome

/-- The user's folder for configuration files. Only an absolute path counts as another one than the
usual. -/
def configFolder? (e : Environment) : Option String :=
  match e.configHome.filter fun path => Text.startsWith path "/" with
  | some path => some path
  | none => e.homeFolder?.map fun home => Path.join home ".config"

/-- The program's folder for configuration files. -/
def programFolder (e : Environment) : Except Fault String :=
  match e.configFolder? with
  | some folder => .ok (Path.join folder "chatdeck")
  | none => .error (.config "Cannot find config directory")

/-- The path of the configuration file, if no other is given. -/
def configFile (e : Environment) : Except Fault String :=
  e.programFolder.map fun folder => Path.join folder "config.toml"

end Environment

/-- Where the configuration is, and what is kept of it. -/
structure ConfigStore where
  /-- The path of the file, if it is not the usual one. -/
  path : Option String := none
  cached : Option Config := none
  deriving DecidableEq, Repr

namespace ConfigStore

/-- The path of the file. -/
def file (s : ConfigStore) (e : Environment) : Except Fault String :=
  match s.path with
  | some path => .ok path
  | none => e.configFile

/-- The configuration in a file; without the file it is the default one. -/
def load (d : Disk) (path : String) : Except Fault Config :=
  match d.find path with
  | .error _ => .ok {}
  | .ok _ =>
    match d.readText path with
    | .error o => .error o.fault
    | .ok text => Config.parse text

/-- The configuration: the one that is kept, or the one that is loaded and then kept. -/
def get (s : ConfigStore) (e : Environment) (d : Disk) : Except Fault Config × ConfigStore :=
  match s.cached with
  | some c => (.ok c, s)
  | none =>
    match s.file e with
    | .error fault => (.error fault, s)
    | .ok path =>
      match load d path with
      | .error fault => (.error fault, s)
      | .ok c =>
        let c := c.withBaseUrl e.apiUrl
        (.ok c, { s with cached := some c })

/-- Forgets what is kept. -/
def invalidate (s : ConfigStore) : ConfigStore := { s with cached := none }

/-- Writes a usable configuration to the file, with the folders above it, and keeps it. -/
def save (s : ConfigStore) (e : Environment) (d : Disk) (c : Config) (now : Int) :
    Except Fault Unit × ConfigStore × Disk :=
  match c.fault?, s.file e with
  | some fault, _ => (.error fault, s, d)
  | none, .error fault => (.error fault, s, d)
  | none, .ok path =>
    match d.makeParents path with
    | (.error o, d) => (.error o.fault, s, d)
    | (.ok (), d) =>
      match c.write with
      | .error fault => (.error fault, s, d)
      | .ok text =>
        match d.write path (Utf8.encode text) now with
        | (.error o, d) => (.error o.fault, s, d)
        | (.ok (), d) => (.ok (), { s with cached := some c }, d)

end ConfigStore
end Composer
