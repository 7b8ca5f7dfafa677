import Mathlib
import ModuleHints.Server.Answer
import ModuleHints.Proofs.Completion.Commit
import ModuleHints.Proofs.Require.Literal

/-!
# What an answer replaces

The edits that answer a request for modules replace the argument before the cursor and nothing else,
as long as the cursor stands at the end of what has been typed of it, and they stay on one line as
long as the cursor is on the line of the argument. A cursor that blank characters part from the
argument has neither: the span is as long as the argument but ends at the cursor, so that it begins
inside of the argument or behind it, and may take a line break with it.
-/

namespace ModuleHints.Server

/-- The edits that answer with a set stay on one line where its span has no line feed. -/
theorem line_eq_of_mem_entries {d : Document} {e : Encoding} {set : CompletionSet} {entry : Entry}
    (h : '\n' ∉ d.slice set.span.start set.span.stop) (hentry : entry ∈ entries d e set) :
    entry.range.start.line = entry.range.stop.line := by
  obtain ⟨⟨item, index⟩, -, rfl⟩ := List.mem_map.mp hentry
  have hle : set.span.start ≤ set.span.stop :=
    Int.le_add_of_nonneg_right (Int.natCast_nonneg _)
  exact (d.lineNumber_eq_iff hle).mpr h

/-- A set of modules replaces the argument at the cursor: nothing where no string has been typed, and
a string at whose end the cursor stands from its quotation mark to the end of its literal. However the
client counts, the edits that answer with the set stay on one line where the string is on the cursor's
line. -/
theorem edits_replace_argument {settings : Settings} {disk : Disk} {here : Path} {d : Document}
    {cursor : Int} {project : Option Project} {path : Option String} {m : Memory}
    (hkind : (Catalog.complete settings disk here d cursor project path m).1.set.kind = .modules) :
    let set := (Catalog.complete settings disk here d cursor project path m).1.set
    d.SpansArgument cursor set.span ∧
      ((∀ typed ∈ (d.scanBackward cursor).head?, typed.openQuote?.isSome →
          d.lineNumber typed.start = d.lineNumber cursor) →
        ∀ e, ∀ entry ∈ entries d e set, entry.range.start.line = entry.range.stop.line) := by
  intro set
  obtain ⟨-, found, hset⟩ := Document.exists_moduleSet_of_kind hkind
  have hspans : d.SpansArgument cursor set.span := by
    have hspan : set.span = (d.argumentAt (d.clamp cursor)).span := congrArg CompletionSet.span hset
    rw [hspan, Document.argumentAt_clamp]
    exact d.spansArgument_argumentAt cursor
  exact ⟨hspans, fun hline e entry => line_eq_of_mem_entries (hspans.newline_not_mem hline)⟩

/-- A call whose argument has been typed to its end. -/
def typedArgument : Document := .ofString "require('abc'\n"

/-- At the end of an argument, the edits replace the argument. -/
theorem edits_replace_argument_at_end :
    let set := (Catalog.complete {} {} ⟨.root, []⟩ typedArgument 13 none none {}).1.set
    set.kind = .modules ∧ typedArgument.SpansArgument 13 set.span ∧ set.span = ⟨9, 4⟩ ∧
      ∀ e, (entries typedArgument e set).length = 33 ∧
        ∀ entry ∈ entries typedArgument e set, entry.range.start.line = entry.range.stop.line := by
  intro set
  have hasks : typedArgument.asksForModules 13 = true := by cbv
  have hargument : typedArgument.argumentAt (typedArgument.clamp 13) =
      ⟨some .single, ⟨9, 4⟩⟩ := by cbv
  obtain ⟨hkind, hspan⟩ := Document.complete_of_asksForModules hasks {} {} ⟨.root, []⟩ none none {}
  rw [hargument] at hspan
  have hline : ∀ typed ∈ (typedArgument.scanBackward 13).head?, typed.openQuote?.isSome →
      typedArgument.lineNumber typed.start = typedArgument.lineNumber 13 := by
    have hscan : (typedArgument.scanBackward 13).head? = some ⟨.string, "'abc'", 8⟩ := by cbv
    rw [hscan]
    rintro typed htyped -
    cases htyped
    decide
  obtain ⟨hspans, hlines⟩ := edits_replace_argument hkind
  refine ⟨hkind, hspans, hspan, fun e => ⟨?_, hlines hline e⟩⟩
  have hitems : set.items.length = 33 := by
    simp only [set]
    cbv
  rw [entries, List.length_map, List.length_zipIdx, hitems]

/-- Behind the line feed after an argument the span begins inside of the argument and takes the line
feed with it, so that the edits reach over two lines. -/
theorem edits_behind_line_feed :
    (typedArgument.scanBackward 14).head? = some ⟨.string, "'abc'", 8⟩ ∧
      typedArgument.literalAt? 8 = some ⟨.string, "'abc'", 8⟩ ∧
      (Catalog.complete {} {} ⟨.root, []⟩ typedArgument 14 none none {}).1.set.kind = .modules ∧
      (Catalog.complete {} {} ⟨.root, []⟩ typedArgument 14 none none {}).1.set.span = ⟨10, 4⟩ ∧
      typedArgument.slice 10 14 = "bc'\n".toList ∧
      ∀ e : Encoding, (rangeOf typedArgument e ⟨10, 4⟩).start.line = 0 ∧
        (rangeOf typedArgument e ⟨10, 4⟩).stop.line = 1 := by
  have hasks : typedArgument.asksForModules 14 = true := by cbv
  have hargument : typedArgument.argumentAt (typedArgument.clamp 14) =
      ⟨some .single, ⟨10, 4⟩⟩ := by cbv
  obtain ⟨hkind, hspan⟩ := Document.complete_of_asksForModules hasks {} {} ⟨.root, []⟩ none none {}
  rw [hargument] at hspan
  exact ⟨by cbv, by cbv, hkind, hspan, by decide, fun _ => ⟨rfl, rfl⟩⟩

end ModuleHints.Server
