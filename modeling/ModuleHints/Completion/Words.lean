import ModuleHints.Source.Lexer
import ModuleHints.Completion.WordSpan
import ModuleHints.Completion.Set

/-!
# Word completions

Outside `require` calls the reserved words and the names of the document are offered, each once, in
code point order. The word that is being typed is not offered back unless it stands elsewhere too.
-/

namespace ModuleHints

/-- The item of a word. -/
def wordItem (origin : Origin) (word : String) : Item :=
  ⟨word, word, if origin = .keyword then "keyword" else "identifier", origin⟩

/-- The names of a document, without a name that begins at the given offset. -/
def Document.namesExcept (d : Document) (start : Int) : List String :=
  ((Lexer.tokens d.chars 0 d.length).filter fun t =>
    t.kind = .identifier && (t.start : Int) ≠ start).map Token.text

/-- Texts in code point order, each once. Sorting first brings equal texts together, so that a long
document takes no longer than its sorting. -/
def inOrderOnce (texts : List String) : List String := (texts.mergeSort (· ≤ ·)).eraseReps

/-- The words of a document as a completion set at a cursor. -/
def Document.wordSet (d : Document) (cursor : Int) : CompletionSet :=
  let span := d.wordSpan cursor
  let words := Lexer.keywords.map (wordItem .keyword) ++
    (inOrderOnce (d.namesExcept span.start)).map (wordItem .identifier)
  { kind := .words
    span := span
    items := words.mergeSort fun a b => a.display ≤ b.display }

end ModuleHints
