import EmbeddedFilters.Wire.Link
import EmbeddedFilters.Wire.Message

/-!
# Scripted links

A scripted link answers from two lists of outcomes, one for messages and one for questions, each
used up from the front. Before it answers it may have the device report something. It remembers what
it has been given.
-/

namespace EmbeddedFilters

/-- An outcome that a script holds, and what the device reports to a named filter before it. -/
structure ScriptedOutcome (α : Type) where
  report? : Option OptionReport := none
  outcome : Except LinkError α

/-- The two ways of using a link. -/
inductive Passage where
  | send
  | query
  deriving DecidableEq, Repr

/-- What has come by. -/
structure Sighting where
  passage : Passage
  topic : String
  payload : ByteArray

/-- A link with outcomes given in advance. -/
structure Script where
  sends : List (ScriptedOutcome Unit) := []
  queries : List (ScriptedOutcome ByteArray) := []
  seen : List Sighting := []

namespace Script

/-- The outcome for the next message; when none is left the message goes through. -/
def nextSend (s : Script) (topic : String) (payload : ByteArray) : ScriptedOutcome Unit × Script :=
  let seen := s.seen ++ [⟨.send, topic, payload⟩]
  match s.sends with
  | [] => ({ outcome := .ok () }, { s with seen })
  | next :: sends => (next, { s with sends, seen })

/-- The outcome for the next question; when none is left there is no answer in time. -/
def nextQuery (s : Script) (topic : String) (payload : ByteArray) :
    ScriptedOutcome ByteArray × Script :=
  let seen := s.seen ++ [⟨.query, topic, payload⟩]
  match s.queries with
  | [] => ({ outcome := .error .timeout }, { s with seen })
  | next :: queries => (next, { s with queries, seen })

/-- What has come by since the last look. -/
def look (s : Script) : List Sighting × Script := (s.seen, { s with seen := [] })

end Script

end EmbeddedFilters
