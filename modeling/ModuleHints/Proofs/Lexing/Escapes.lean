import ModuleHints.Source.Lexer

/-!
# Reading past escapes

Strings, templates and regular expressions read a backslash together with the character after it,
where there is one. The readers differ only in what they do with a character that no backslash
precedes, so one induction serves all of them, and each reader has one equation for such a
character.
-/

namespace ModuleHints.Lexer

/-- A property of texts holds if it holds of the empty text and of a lone backslash, and passes to a
text with one more escape, or with one more character that is no backslash, before it. -/
@[elab_as_elim] theorem escape_induction {motive : List Char → Prop} (nil : motive [])
    (lone : motive ['\\']) (pair : ∀ c rest, motive rest → motive ('\\' :: c :: rest))
    (plain : ∀ c rest, c ≠ '\\' → motive rest → motive (c :: rest)) :
    ∀ cs, motive cs
  | [] => nil
  | [c] => by
    by_cases h : c = '\\'
    · rw [h]; exact lone
    · exact plain c [] h nil
  | c :: d :: rest => by
    by_cases h : c = '\\'
    · rw [h]; exact pair d rest (escape_induction nil lone pair plain rest)
    · exact plain c (d :: rest) h (escape_induction nil lone pair plain (d :: rest))

variable {c : Char} (rest : List Char)

theorem stringTail_cons (quote : Char) (h : c ≠ '\\') :
    stringTail quote (c :: rest) =
      if c = '\n' then 0 else if c = quote then 1 else stringTail quote rest + 1 :=
  stringTail.eq_4 quote c rest (fun hc _ => h hc) fun _ _ hc _ => h hc

theorem templateTail_cons (h : c ≠ '\\') :
    templateTail (c :: rest) = if c = '\x60' then 1 else templateTail rest + 1 :=
  templateTail.eq_4 c rest (fun hc _ => h hc) fun _ _ hc _ => h hc

/-- A regular expression at a character that is no backslash. -/
theorem regexpTail_cons (inClass : Bool) (h : c ≠ '\\') :
    regexpTail inClass (c :: rest) =
      if c = '\n' then 0
      else if c = '[' then regexpTail true rest + 1
      else if c = ']' then regexpTail false rest + 1
      else if c = '/' && !inClass then (rest.takeWhile isIdentChar).length + 1
      else regexpTail inClass rest + 1 :=
  regexpTail.eq_4 inClass c rest (fun hc _ => h hc) fun _ _ hc _ => h hc

end ModuleHints.Lexer
