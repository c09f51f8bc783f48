import XmlSupport.Proofs.Document.Position
import XmlSupport.Proofs.Session.Activation
import XmlSupport.Proofs.Session.Run

/-!
# Showing references

The command takes a document and a position, looks at both before it asks
anybody, and then makes three requests in turn. Each is built from the replies
to those before it, and the first refusal is the end.
-/

namespace XmlSupport.Commands

open Session Document

/-- The requests of the command, given what is replied to the first two of them. -/
def listing (u : Uri) (position : Position) (document : Uri) (locations : List Location) :
    List Request :=
  [.openTextDocument u, .references ⟨document, position, true⟩,
    .executeCommand editorShowReferences
      [.string u.text, position.encode, .array (locations.map Location.encode)]]

variable (answers : Answers)

/-- The document under which an editor knows every other. -/
def untitled : Uri := ⟨"untitled", none, .unstructured "x", none, none⟩

/-- An editor that knows every document under one URI and has no view to list
locations in, and a server that finds two places in that document. -/
def viewlessReplies : Answers
  | .setLanguageConfiguration _ _ => ()
  | .configuration _ => Option.none (α := Json)
  | .start _ _ => Except.ok (ε := Client.Failure) ()
  | .openTextDocument _ => Except.ok (ε := Error) untitled
  | .showMessage _ _ _ => Option.none (α := String)
  | .executeCommand _ _ => Except.error (α := Option Json) (Error.host "no view")
  | .references _ => Except.ok (ε := Client.Failure)
    (some [⟨untitled, ⟨⟨1, 2⟩, ⟨3, 4⟩⟩⟩, ⟨untitled, ⟨⟨0, 5⟩, ⟨0, 6⟩⟩⟩])

end XmlSupport.Commands
