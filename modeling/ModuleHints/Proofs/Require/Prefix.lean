import ModuleHints.Require.Argument
import ModuleHints.Proofs.Require.Call
import ModuleHints.Proofs.Source.Walk

/-!
# Nothing behind the cursor counts

Documents that agree up to a cursor and differ behind it are told apart by nothing that is asked
there: neither by the tokens before the cursor, nor by whether module completions apply or would
apply after a typed character, nor by where the argument begins and with which quotation mark. Only
how far the argument goes on is read off what follows.
-/

namespace ModuleHints

namespace Document

/-- The documents have a place in common, and the text before it. -/
structure AgreeUpTo (d e : Document) (place : Nat) : Prop where
  /-- The place lies in the one document. -/
  le_left : place ≤ d.length
  /-- The place lies in the other document. -/
  le_right : place ≤ e.length
  /-- The text before the place is the same. -/
  take_eq : d.chars.take place = e.chars.take place

/-- What is asked at a cursor has the same answers in two documents. -/
structure SameAt (d e : Document) (cursor : Nat) : Prop where
  /-- The walk up the lines reads the same tokens. -/
  walk_eq : d.walkBackward (d.lineNumber cursor) cursor = e.walkBackward (e.lineNumber cursor) cursor
  /-- The scan sees the same tokens. -/
  scan_eq : d.scanBackward cursor = e.scanBackward cursor
  /-- Module completions apply in both or in neither, whatever may come before the cursor. -/
  opens_eq : ∀ parenthesis quoted,
    d.opensModules cursor parenthesis quoted = e.opensModules cursor parenthesis quoted
  /-- A typed text would open a module completion in both or in neither. -/
  typing_eq : ∀ typed, d.typingOpensModules cursor typed = e.typingOpensModules cursor typed
  /-- The same quotation mark opens the argument. -/
  quote_eq : (d.argumentAt cursor).quote = (e.argumentAt cursor).quote
  /-- The argument begins at the same place. -/
  start_eq : (d.argumentAt cursor).span.start = (e.argumentAt cursor).span.start

variable {d e : Document} {place : Nat}

/-- The quotation mark and the beginning of an argument are read off the token before the cursor. -/
theorem argumentAt_congr (hd : place ≤ d.length) (he : place ≤ e.length)
    (hscan : d.scanBackward place = e.scanBackward place) :
    (d.argumentAt place).quote = (e.argumentAt place).quote ∧
      (d.argumentAt place).span.start = (e.argumentAt place).span.start := by
  rw [argumentAt, argumentAt, hscan, clamp_of_le hd, clamp_of_le he]
  cases (e.scanBackward place).head? with
  | none => exact ⟨rfl, rfl⟩
  | some typed =>
    dsimp only
    cases typed.openQuote? <;> exact ⟨rfl, rfl⟩

/-- What is asked at a cursor is answered from the text before it. -/
theorem AgreeUpTo.sameAt (h : d.AgreeUpTo e place) : d.SameAt e place := by
  have hscan := scanBackward_congr h.le_right h.le_left h.take_eq
  have hopens : ∀ parenthesis quoted,
      d.opensModules place parenthesis quoted = e.opensModules place parenthesis quoted :=
    fun parenthesis quoted => opensModules_congr h.le_right h.le_left h.take_eq
      (lineNumber_congr h.take_eq) (by rw [hscan])
  obtain ⟨hquote, hstart⟩ := argumentAt_congr h.le_left h.le_right hscan
  refine ⟨?_, hscan, hopens, ?_, hquote, hstart⟩
  · have hd := d.scanBackward_eq_walkBackward place
    have he := e.scanBackward_eq_walkBackward place
    rw [clamp_of_le h.le_left] at hd
    rw [clamp_of_le h.le_right] at he
    rw [← hd, ← he, hscan]
  · intro typed
    rw [typingOpensModules, typingOpensModules, hopens, hopens]

/-- Documents that part in the middle of a line break, behind an unfinished argument. -/
theorem AgreeUpTo.sameAt_in_line_break :
    (ofString "x\r\nrequire('ab\r\n'").AgreeUpTo (ofString "x\r\nrequire('ab\r)") 15 ∧
      (ofString "x\r\nrequire('ab\r\n'").SameAt (ofString "x\r\nrequire('ab\r)") 15 :=
  have h : (ofString "x\r\nrequire('ab\r\n'").AgreeUpTo (ofString "x\r\nrequire('ab\r)") 15 :=
    ⟨by decide, by decide, by decide⟩
  ⟨h, h.sameAt⟩

end Document

end ModuleHints
