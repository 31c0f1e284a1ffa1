import Folio.Settings

/-!
# Shared settings

Settings that are loaded from the environment when they are first asked for and
kept from then on, until they are dropped.
-/

namespace Folio

structure SharedSettings where
  environment : Environment
  loaded? : Option Settings
  deriving DecidableEq

namespace SharedSettings

def initial : SharedSettings where
  environment := []
  loaded? := none

def get (shared : SharedSettings) : Except Failure Settings × SharedSettings :=
  match shared.loaded? with
  | some settings => (.ok settings, shared)
  | none =>
      match Settings.load shared.environment [] with
      | .ok settings => (.ok settings, { shared with loaded? := some settings })
      | .error failure => (.error failure, shared)

def fresh (shared : SharedSettings) : Except Failure Settings :=
  Settings.load shared.environment []

def withEnvironment (environment : Environment) (shared : SharedSettings) :
    SharedSettings :=
  { shared with environment }

def clear (shared : SharedSettings) : SharedSettings :=
  { shared with loaded? := none }

end SharedSettings

end Folio
