/-
# Handles as values

What a handle is to a script that writes it down: the identifier of its window, or null once it is
destroyed.
-/
import WindowSystem.Bridge.Handle
import WindowSystem.Event.Record

namespace WindowSystem

/-- A handle as a value. -/
def Handle.toDatum {S : Type} (h : Handle S) : Datum := .ofOption WindowId.toDatum h.id?

end WindowSystem
