import Mathlib
import ModuleHints.Catalog.Complete
import ModuleHints.Proofs.Source.Edit
import ModuleHints.Proofs.Require.Argument

/-!
# Committing a module

A committed module puts a closed string in the place of the argument. Where its specifier stands for
itself between the quotation marks, the line is read as before up to the argument, the string is one
token, and a request from just before its closing mark replaces the specifier and the mark, so that
another commit takes the place of the first.
-/

namespace ModuleHints

namespace Document

section Commit

variable {d e : Document} {start : Nat} {q : Quote} {earlier later : List (List Char)}
  {before after specifier rest : List Char}

/-- What stands before the argument does not change. -/
theorem OpensArgument.take_commit (h : d.OpensArgument start q earlier before after later)
    (he : e.chars = d.chars.take start ++ q.char :: (specifier ++ q.char :: rest)) :
    e.chars.take start = d.chars.take start := by
  rw [he, List.take_left' (List.length_take_of_le h.lines.le)]

/-- The text up to the closing quotation mark, and what follows. -/
theorem OpensArgument.chars_commit (h : d.OpensArgument start q earlier before after later)
    (he : e.chars = d.chars.take start ++ q.char :: (specifier ++ q.char :: rest)) :
    e.chars = d.chars.take start ++ [q.char] ++ (specifier ++ [q.char]) ++ rest ∧
      (d.chars.take start ++ [q.char]).length = start + 1 ∧
      (d.chars.take start ++ [q.char] ++ (specifier ++ [q.char])).length =
        start + 1 + specifier.length + 1 := by
  have hopening : (d.chars.take start ++ [q.char]).length = start + 1 := by
    rw [List.length_append, List.length_take_of_le h.lines.le, List.length_singleton]
  refine ⟨?_, hopening, ?_⟩
  · rw [he]
    simp only [List.append_assoc, List.cons_append, List.nil_append]
  · rw [List.length_append, hopening, List.length_append, List.length_singleton, ← Nat.add_assoc]

/-- What stands behind the closing quotation mark is what followed the replaced text. -/
theorem OpensArgument.drop_commit (h : d.OpensArgument start q earlier before after later)
    (he : e.chars = d.chars.take start ++ q.char :: (specifier ++ q.char :: rest)) :
    e.chars.drop (start + 1 + specifier.length + 1) = rest := by
  obtain ⟨hchars, -, hclosing⟩ := h.chars_commit he
  rw [hchars, List.drop_left' hclosing]

/-- What stands behind the opening quotation mark is the specifier with the closing one. -/
theorem OpensArgument.slice_commit (h : d.OpensArgument start q earlier before after later)
    (he : e.chars = d.chars.take start ++ q.char :: (specifier ++ q.char :: rest)) :
    (e.chars.take (start + 1 + specifier.length + 1)).drop (start + 1) = specifier ++ [q.char] := by
  obtain ⟨hchars, hopening, hclosing⟩ := h.chars_commit he
  rw [hchars, List.take_left' hclosing, List.drop_left' hopening]

/-- The lines around the closing quotation mark. -/
theorem OpensArgument.linesAround_commit (h : d.OpensArgument start q earlier before after later)
    (hplain : Lexer.IsPlain q specifier)
    (he : e.chars = d.chars.take start ++ q.char :: (specifier ++ q.char :: rest)) :
    ∃ tail others, e.LinesAround (start + 1 + specifier.length) earlier
      (before ++ q.char :: specifier) (q.char :: tail) others := by
  obtain ⟨tail, others, htail⟩ := List.exists_cons_of_ne_nil (splitLines_ne_nil rest)
  have hquote : q.char ≠ '\n' := by cases q <;> decide
  have hopening : '\n' ∉ q.char :: specifier := by
    intro hmem
    rcases List.mem_cons.mp hmem with hmem | hmem
    · exact hquote hmem.symm
    · exact (hplain _ hmem).2.2 rfl
  have hleft := splitLines_append_right hopening h.lines.before_eq
  have hright : splitLines (q.char :: rest) = (q.char :: tail) :: others :=
    splitLines_append_left (w := [q.char]) (by simpa using Ne.symm hquote) htail
  have hlen :
      (d.chars.take start ++ q.char :: specifier).length = start + 1 + specifier.length := by
    rw [List.length_append, List.length_take_of_le h.lines.le, List.length_cons]
    omega
  have hchars : e.chars = (d.chars.take start ++ q.char :: specifier) ++ q.char :: rest := by
    rw [he, List.append_assoc, List.cons_append]
  have hlines := linesAround_append hleft hright
  rw [← hchars, hlen] at hlines
  exact ⟨tail, others, hlines⟩

/-- What the line says once the string is there. -/
theorem OpensArgument.lineText_commit (h : d.OpensArgument start q earlier before after later)
    (hplain : Lexer.IsPlain q specifier)
    (he : e.chars = d.chars.take start ++ q.char :: (specifier ++ q.char :: rest)) :
    ∃ tail, e.lineText earlier.length = before ++ q.char :: (specifier ++ q.char :: tail) := by
  obtain ⟨tail, others, hlines⟩ := h.linesAround_commit hplain he
  obtain ⟨text, htext⟩ := hlines.exists_lineText_eq (by cases q <;> decide)
  exact ⟨text, by rw [htext, List.append_assoc, List.cons_append]⟩

/-- The line is read as before up to the argument, and the string is one token. -/
theorem OpensArgument.classifyLine_commit (h : d.OpensArgument start q earlier before after later)
    (hplain : Lexer.IsPlain q specifier)
    (he : e.chars = d.chars.take start ++ q.char :: (specifier ++ q.char :: rest)) :
    ∃ others, e.classifyLine earlier.length =
      (d.classifyLine earlier.length).filter (·.start < start) ++
        ⟨.string, String.ofList (q.char :: specifier ++ [q.char]), start⟩ :: others := by
  obtain ⟨tail, others, hlines⟩ := h.linesAround_commit hplain he
  obtain ⟨text, htext⟩ := h.lineText_commit hplain he
  obtain ⟨others, hothers⟩ := Lexer.tokensFrom_quoted
    (Lexer.lastAfter none (Lexer.tokensFrom none (lengthOfLines earlier) before)) start hplain text
  refine ⟨others, ?_⟩
  rw [hlines.classifyLine_eq, htext, h.classify_eq,
    Lexer.tokensFrom_append (Lexer.not_crosses_of_first h.not_crosses _), ← h.lines.place_eq,
      hothers]

/-- The literal at the beginning of the argument is the string. -/
theorem OpensArgument.literalAt?_commit (h : d.OpensArgument start q earlier before after later)
    (hplain : Lexer.IsPlain q specifier)
    (he : e.chars = d.chars.take start ++ q.char :: (specifier ++ q.char :: rest)) :
    e.literalAt? start =
      some ⟨.string, String.ofList (q.char :: specifier ++ [q.char]), start⟩ := by
  obtain ⟨tail, others, hlines⟩ := h.linesAround_commit hplain he
  obtain ⟨text, htext⟩ := h.lineText_commit hplain he
  have hstart := hlines.left
  rw [← h.lines.place_eq] at hstart
  obtain ⟨others, hothers⟩ := Lexer.tokensFrom_quoted none start hplain text
  rw [hstart.literalAt?_eq, htext, List.drop_left, hothers, List.head?_cons]

/-- A scan from before the closing mark sees the string as far as the mark, and behind it what a
scan from the argument saw. -/
theorem OpensArgument.scanBackward_commit (h : d.OpensArgument start q earlier before after later)
    (hplain : Lexer.IsPlain q specifier)
    (he : e.chars = d.chars.take start ++ q.char :: (specifier ++ q.char :: rest)) :
    e.scanBackward (start + 1 + specifier.length : Nat) =
      ⟨.string, String.ofList (q.char :: specifier), start⟩ :: d.scanBackward start := by
  obtain ⟨tail, others, hlines⟩ := h.linesAround_commit hplain he
  rw [hlines.scanBackward_eq, h.lines.scanBackward_eq,
    Lexer.tokensFrom_append (Lexer.not_crosses_of_first h.not_crosses _),
    Lexer.tokensFrom_unfinished _ _ hplain, ← h.lines.place_eq, List.reverse_append,
    List.reverse_singleton, List.append_assoc, List.singleton_append]

/-- The argument before the closing mark is the specifier with that mark. -/
theorem OpensArgument.argumentAt_commit (h : d.OpensArgument start q earlier before after later)
    (hplain : Lexer.IsPlain q specifier)
    (he : e.chars = d.chars.take start ++ q.char :: (specifier ++ q.char :: rest)) :
    e.argumentAt (start + 1 + specifier.length : Nat) =
      ⟨some q, ⟨(start + 1 : Nat), specifier.length + 1⟩⟩ := by
  obtain ⟨tail, others, hlines⟩ := h.linesAround_commit hplain he
  have hquote :
      Token.openQuote? ⟨.string, String.ofList (q.char :: specifier), start⟩ = some q := by
    rw [Token.openQuote?, String.toList_ofList]
    exact Quote.ofChar?_eq_some_iff.mpr rfl
  rw [argumentAt, h.scanBackward_commit hplain he, List.head?_cons]
  simp only [hquote, h.literalAt?_commit hplain he, clamp_of_le hlines.le, Option.getD_some,
    String.length_ofList, List.length_cons, List.length_append, List.length_nil]
  congr 2
  omega

/-- A request before the closing mark is one for modules. -/
theorem OpensArgument.asksForModules_commit (h : d.OpensArgument start q earlier before after later)
    (hplain : Lexer.IsPlain q specifier)
    (he : e.chars = d.chars.take start ++ q.char :: (specifier ++ q.char :: rest)) :
    e.asksForModules (start + 1 + specifier.length : Nat) = true := by
  obtain ⟨tail, others, hlines⟩ := h.linesAround_commit hplain he
  have hlen : (d.chars.take start).length = start := List.length_take_of_le h.lines.le
  have htake : e.chars.take start = d.chars.take start := by rw [he, List.take_left' hlen]
  have hline : e.lineNumber (start + 1 + specifier.length : Nat) = d.lineNumber start := by
    rw [hlines.lineNumber_eq, h.lines.lineNumber_eq]
  have hquote :
      (Token.openQuote? ⟨.string, String.ofList (q.char :: specifier), start⟩).isSome := by
    rw [Token.openQuote?, String.toList_ofList]
    cases q <;> rfl
  have hsame : beforeRequire? (e.scanBackward (start + 1 + specifier.length : Nat)) true true =
      beforeRequire? (d.scanBackward start) true false := by
    rw [h.scanBackward_commit hplain he, beforeRequire?_cons_quoted hquote]
  rw [asksForModules_natCast hlines.le,
    opensModules_congr h.lines.le hlines.le htake hline hsame]
  exact h.opens

end Commit

/-- The document once an item of a set has been committed. -/
def commit (d : Document) (set : CompletionSet) (item : Item) : Document :=
  d.replace set.span item.insertion.toList

/-- A set of modules is one that was asked for, and replaces the argument. -/
theorem exists_moduleSet_of_kind {settings : Settings} {disk : Disk} {here : Path} {d : Document}
    {cursor : Int} {project : Option Project} {path : Option String} {m : Memory}
    (h : (Catalog.complete settings disk here d cursor project path m).1.set.kind = .modules) :
    d.asksForModules cursor = true ∧
      ∃ found, (Catalog.complete settings disk here d cursor project path m).1.set =
        d.moduleSet settings cursor found := by
  by_cases hasks : d.asksForModules cursor = true
  · refine ⟨hasks, ?_⟩
    rw [Catalog.complete, if_pos hasks]
    exact ⟨_, rfl⟩
  · rw [Catalog.complete, if_neg hasks, complete, if_neg hasks] at h
    cases h

/-- What is asked for is answered with modules, which replace the argument. -/
theorem complete_of_asksForModules {d : Document} {cursor : Int}
    (h : d.asksForModules cursor = true)
    (settings : Settings) (disk : Disk) (here : Path) (project : Option Project)
    (path : Option String) (m : Memory) :
    (Catalog.complete settings disk here d cursor project path m).1.set.kind = .modules ∧
      (Catalog.complete settings disk here d cursor project path m).1.set.span =
        (d.argumentAt (d.clamp cursor)).span := by
  rw [Catalog.complete, if_pos h]
  exact ⟨rfl, rfl⟩

/-- What an item of a set of modules inserts. -/
theorem insertion_of_mem {d : Document} {settings : Settings} {cursor : Int}
    {found : List Candidate} {item : Item} (h : item ∈ (d.moduleSet settings cursor found).items) :
    item.insertion =
      match (d.argumentAt (d.clamp cursor)).quote with
      | none => settings.defaultQuote ++ item.display ++ settings.defaultQuote
      | some q => item.display.push q.char := by
  obtain ⟨candidate, -, rfl⟩ := List.mem_map.mp h
  rfl

/-- A committed item is a closed string in the place of the argument. -/
theorem exists_commit {d : Document} {settings : Settings} {place : Nat} {found : List Candidate}
    {item : Item} {q : Quote} (hplace : place ≤ d.length) (hasks : d.asksForModules place = true)
    (hends : ∀ t ∈ (d.scanBackward place).head?, t.openQuote?.isSome → t.stop = place)
    (hitem : item ∈ (d.moduleSet settings place found).items)
    (hquote : (d.argumentAt place).quote = some q ∨
      (d.argumentAt place).quote = none ∧ settings.defaultQuote = String.singleton q.char) :
    ∃ earlier before after later,
      d.OpensArgument (d.argumentAt place).start q earlier before after later ∧
      (d.commit (d.moduleSet settings place found) item).chars =
        d.chars.take (d.argumentAt place).start ++
          q.char :: (item.display.toList ++
            q.char :: d.chars.drop (d.argumentAt place).span.stop.toNat) := by
  rw [asksForModules_natCast hplace] at hasks
  have hinsertion := insertion_of_mem hitem
  have hspan : (d.moduleSet settings place found).span = (d.argumentAt place).span := by
    rw [moduleSet, clamp_of_le hplace]
    rfl
  rw [clamp_of_le hplace] at hinsertion
  rw [commit, replace, hspan, drop_clamp]
  by_cases hbare : ∀ t ∈ (d.scanBackward place).head?, t.openQuote? = none
  · obtain ⟨earlier, before, after, later, hopens⟩ := opensArgument_of_bare hplace hasks hbare q
    rw [argumentAt_of_bare hbare, clamp_of_le hplace] at hquote hinsertion ⊢
    have hdefault := (hquote.resolve_left (by simp)).2
    refine ⟨earlier, before, after, later, hopens, ?_⟩
    have hbefore : d.before (Span.empty place).start = d.chars.take place := by
      rw [Document.before, Span.empty, clamp_of_le hplace]
    rw [hbefore, hinsertion, hdefault]
    simp [Argument.start, Span.empty]
  · push Not at hbare
    obtain ⟨t, ht, hsome⟩ := hbare
    obtain ⟨q', hq'⟩ := Option.ne_none_iff_exists'.mp hsome
    obtain ⟨rest, hscan⟩ := List.head?_eq_some_iff.mp ht
    have hstop := hends t ht (by rw [hq']; rfl)
    obtain ⟨length, hargument⟩ := argumentAt_of_quoted hplace hscan hq' hstop
    obtain ⟨earlier, before, after, later, hopens⟩ :=
      opensArgument_of_quoted hplace hasks hscan hq' hstop
    rw [hargument] at hquote hinsertion ⊢
    have hsame : q' = q := by simpa using hquote
    subst hsame
    have hstart : d.before (t.start + 1 : Nat) = d.chars.take t.start ++ [q'.char] := by
      have hmem : t ∈ d.scanBackward place := hscan ▸ List.mem_cons_self ..
      have hlast := stop_le_of_mem_scanBackward hplace hmem
      have hle : t.start + 1 ≤ d.length := by omega
      rw [Document.before, clamp_of_le hle, hopens.lines.take_succ]
    refine ⟨earlier, before, q'.char :: after, later, hopens, ?_⟩
    rw [hstart, hinsertion]
    simp [Argument.start, String.toList_push]

/-- Committing an item of a set of modules keeps the text around the argument and the tokens before
it on its line, and puts the specifier between quotation marks as one string in its place. From just
before the closing mark modules are offered again, to replace the specifier and that mark. -/
theorem commit_round_trip {settings : Settings} {disk : Disk} {here : Path} {d : Document}
    {cursor : Int} {project : Option Project} {path : Option String} {m : Memory}
    {set : CompletionSet} {item : Item} {q : Quote}
    (hset : (Catalog.complete settings disk here d cursor project path m).1.set = set)
    (hkind : set.kind = .modules)
    (hends : ∀ t ∈ (d.scanBackward cursor).head?, t.openQuote?.isSome → t.stop = d.clamp cursor)
    (hitem : item ∈ set.items)
    (hquote : (d.argumentAt cursor).quote = some q ∨
      (d.argumentAt cursor).quote = none ∧ settings.defaultQuote = String.singleton q.char)
    (hplain : Lexer.IsPlain q item.display.toList) :
    let e := d.commit set item
    let start := (d.argumentAt cursor).start
    let closing := start + 1 + item.display.length
    e.chars.take start = d.chars.take start ∧
    e.chars.drop (closing + 1) = d.chars.drop set.span.stop.toNat ∧
    (∃ others, e.classifyLine (e.lineNumber start) =
      (d.classifyLine (d.lineNumber start)).filter (·.start < start) ++
        ⟨.string, String.ofList (q.char :: item.display.toList ++ [q.char]), start⟩ :: others) ∧
    e.argumentAt closing = ⟨some q, ⟨(start + 1 : Nat), item.display.length + 1⟩⟩ ∧
    (e.chars.take (closing + 1)).drop (start + 1) = item.display.toList ++ [q.char] ∧
    ∀ (disk' : Disk) (here' : Path) (project' : Option Project) (path' : Option String)
        (m' : Memory),
      let again := (Catalog.complete settings disk' here' e closing project' path' m').1.set
      again.kind = .modules ∧ again.span = ⟨(start + 1 : Nat), item.display.length + 1⟩ := by
  intro e start closing
  obtain ⟨hasks, found, hfound⟩ := exists_moduleSet_of_kind (hset ▸ hkind)
  have hplace : d.clamp cursor ≤ d.length := d.clamp_le cursor
  have hscan : d.scanBackward (d.clamp cursor) = d.scanBackward cursor := by
    rw [scanBackward, scanBackward, before, before, clamp_clamp]
  have hset' : set = d.moduleSet settings (d.clamp cursor) found := by
    rw [← hset, hfound, moduleSet, moduleSet, clamp_clamp]
  have hasks' : d.asksForModules (d.clamp cursor) = true := by
    rw [← hasks, asksForModules, asksForModules, requestVerdict?, requestVerdict?, clamp_clamp]
  have hargument := d.argumentAt_clamp cursor
  have hspan : set.span = (d.argumentAt cursor).span := by
    rw [hset', moduleSet, clamp_clamp, hargument]
    rfl
  obtain ⟨earlier, before, after, later, hopens, hchars⟩ :=
    exists_commit hplace hasks' (by rwa [hscan]) (hset' ▸ hitem) (by rwa [hargument])
  rw [hargument, ← hset', ← hspan] at hchars
  rw [hargument] at hopens
  change e.chars = d.chars.take start ++ _ at hchars
  have hlen : item.display.toList.length = item.display.length := String.length_toList
  have htake := hopens.take_commit hchars
  have hline : e.lineNumber start = earlier.length := by
    rw [lineNumber_congr htake, hopens.lines.lineNumber_eq]
  have hclosing : closing = start + 1 + item.display.toList.length := by rw [hlen]
  have hdrop : e.chars.drop (closing + 1) = d.chars.drop set.span.stop.toNat := by
    rw [hclosing, hopens.drop_commit hchars]
  have hagain : e.argumentAt closing = ⟨some q, ⟨(start + 1 : Nat), item.display.length + 1⟩⟩ := by
    rw [hclosing, hopens.argumentAt_commit hplain hchars, hlen]
  have hslice :
      (e.chars.take (closing + 1)).drop (start + 1) = item.display.toList ++ [q.char] := by
    rw [hclosing, hopens.slice_commit hchars]
  have hasksAgain : e.asksForModules closing = true := by
    rw [hclosing, hopens.asksForModules_commit hplain hchars]
  have hle : closing ≤ e.length := by
    obtain ⟨tail, others, hlines⟩ := hopens.linesAround_commit hplain hchars
    exact hclosing ▸ hlines.le
  refine ⟨htake, hdrop, ?_, hagain, hslice, ?_⟩
  · rw [hline, hopens.lines.lineNumber_eq]
    exact hopens.classifyLine_commit hplain hchars
  · intro disk' here' project' path' m'
    have hcomplete := complete_of_asksForModules hasksAgain settings disk' here' project' path' m'
    rw [clamp_of_le hle, hagain] at hcomplete
    exact hcomplete

/-- A call with a half-typed argument that is closed already. -/
def halfTyped : Document := .ofString "x = require('ht');"

/-- The set of modules for the half-typed argument. -/
def halfTypedSet : CompletionSet :=
  (Catalog.complete {} {} ⟨.root, []⟩ halfTyped 15 none none {}).1.set

/-- The item of a module of the runtime in that set. -/
def httpItem : Item := ⟨"http", "http'", "HTTP server and client.", .builtin⟩

/-- A module of the runtime takes the place of a half-typed argument, and may be replaced in
turn. -/
theorem commit_round_trip_half_typed :
    halfTypedSet.kind = .modules ∧ httpItem ∈ halfTypedSet.items ∧
      (halfTyped.commit halfTypedSet httpItem).chars.take 12 = halfTyped.chars.take 12 ∧
      (halfTyped.commit halfTypedSet httpItem).argumentAt 17 = ⟨some .single, ⟨13, 5⟩⟩ := by
  have hasks : halfTyped.asksForModules 15 = true := by cbv
  have hargument : halfTyped.argumentAt 15 = ⟨some .single, ⟨13, 3⟩⟩ := by cbv
  have hscan : (halfTyped.scanBackward 15).head? = some ⟨.string, "'ht", 12⟩ := by cbv
  have hset : halfTypedSet = halfTyped.moduleSet {} 15 [] := by
    rw [halfTypedSet, Catalog.complete, if_pos hasks]
    rfl
  have hkind : halfTypedSet.kind = .modules := by
    rw [hset]
    rfl
  have hitem : httpItem ∈ halfTypedSet.items := by
    have hmem :
        (⟨"http", "HTTP server and client.", .builtin⟩ : Candidate) ∈ builtinCandidates := by
      simp [builtinCandidates, builtinModules]
    rw [hset, moduleSet]
    refine List.mem_map.mpr ⟨_, List.mem_mergeSort.mpr (List.mem_append_left _ hmem), ?_⟩
    have hquote : (halfTyped.argumentAt (halfTyped.clamp 15)).quote = some .single := by
      rw [argumentAt_clamp, hargument]
    rw [hquote]
    rfl
  have hends : ∀ t ∈ (halfTyped.scanBackward 15).head?, t.openQuote?.isSome →
      t.stop = halfTyped.clamp 15 := by
    rw [hscan]
    rintro t ht -
    cases ht
    decide
  have hplain : Lexer.IsPlain .single httpItem.display.toList := by decide
  have hset' : (Catalog.complete {} {} ⟨.root, []⟩ halfTyped 15 none none {}).1.set =
      halfTypedSet := by
    rw [halfTypedSet]
  have hquote : (halfTyped.argumentAt 15).quote = some .single := by rw [hargument]
  have hround := commit_round_trip hset' hkind hends hitem (.inl hquote) hplain
  have hstart : (halfTyped.argumentAt 15).start = 12 := by rw [hargument]; rfl
  have hlen : httpItem.display.length = 4 := by decide
  simp only [hstart, hlen] at hround
  exact ⟨hkind, hitem, hround.1, hround.2.2.2.1⟩

end Document

end ModuleHints
