/-
# Log output

What a host is told that asks for log output when it has a logger already: the logger stays, and
the filter that was asked for has no effect.
-/
import WindowSystem.Journal
import WindowSystem.Settings.Basic

namespace WindowSystem.Logging

/-- Asks for log output under a filter, or under the one of the environment. -/
def request {σ : Type} : Option String → Step Note σ Unit
  | none => Note.say .debug "logger already initialized"
  | some filter =>
    Note.say .debug ("logger already initialized; filter '" ++ filter ++ "' ignored")

/-- Asks for log output as settings have it. -/
def requestBySettings {σ : Type} (settings : Settings) : Step Note σ Unit :=
  request settings.logFilter

end WindowSystem.Logging
