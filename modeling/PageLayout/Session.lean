import PageLayout.Document.Edit
import PageLayout.History

/-!
# Editing sessions

A session holds the document that is being edited and the snapshots taken of it. Going back or
forth in the history replaces the document by a snapshot.
-/

namespace PageLayout

/-- A document in the course of editing. -/
structure Session where
  document : Document
  history : History Document

namespace Session

/-- The session at its beginning: an empty document and an empty history. -/
def start (capacity : Nat) : Session :=
  ⟨.ofName "Untitled", .ofCapacity capacity⟩

/-- The session with another document. -/
def withDocument (session : Session) (document : Document) : Session :=
  { session with document }

/-- Takes a snapshot of the document. -/
def snapshot (session : Session) : Session :=
  { session with history := session.history.push session.document }

/-- Goes to the snapshot before the current one, if there is one. -/
def undo? (session : Session) : Option Session :=
  session.history.undo?.map fun (document, history) => ⟨document, history⟩

/-- Goes to the snapshot after the current one, if there is one. -/
def redo? (session : Session) : Option Session :=
  session.history.redo?.map fun (document, history) => ⟨document, history⟩

/-- Forgets all snapshots. -/
def clearHistory (session : Session) : Session :=
  { session with history := session.history.clear }

end Session

end PageLayout
