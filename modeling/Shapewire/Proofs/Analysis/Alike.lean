/-
What is said of a source is decided by its tokens.

Comments and white space, and where anything lies, have no part in it.  Two sources of one name
whose tokens agree in kind, value and line break either both parse, and then every analysis says the
same of both, or both have the same fault (`SourceTree.parse_of_readings`).  The tokens that the
grammar may read again from the text, in which white space counts, are left out of this.
-/
import Shapewire.Proofs.Analysis.Spans
import Shapewire.Proofs.Grammar.Agreement

namespace Shapewire

namespace SourceTree

variable {file text text' : String}

/-- Sources whose tokens have the same readings give trees that are the same to every analysis, or
the same fault. -/
theorem parse_alike (plain : ∀ t ∈ Scanner.tokenize text.toList, t.token.isPlain = true)
    (same : (Scanner.tokenize text.toList).map Scanner.reading =
      (Scanner.tokenize text'.toList).map Scanner.reading) :
    (∃ s s', parse file text = .ok s ∧ parse file text' = .ok s' ∧ s.Alike s') ∨
      ∃ f f', parse file text = .error ⟨file, f⟩ ∧ parse file text' = .error ⟨file, f'⟩ ∧
        f.Alike f' := by
  rcases Tree.parse_alike file (Scanner.alike_of_tokens same plain) with
    ⟨t, t', parsed, parsed', trees⟩ | ⟨f, f', failed, failed', faults⟩
  · obtain ⟨s, is, rfl⟩ := exists_parse parsed
    obtain ⟨s', is', rfl⟩ := exists_parse parsed'
    refine .inl ⟨s, s', is, is', ?_, ?_, ?_⟩
    · rw [(file_text_of_parse is).1, (file_text_of_parse is').1]
    · rw [s.root_eq, s'.root_eq, trees.size]
    · rw [s.arena_eq, s'.arena_eq]
      exact trees.withoutSpans_ofTree
  · exact .inr ⟨f, f', parse_error_of_tree failed, parse_error_of_tree failed', faults⟩

/-- **What is said of a source is decided by its tokens.**  If the tokens of two sources agree in
kind, value and line break, and none is a fault, a slash or the head of a template, then either both
parse, to tables that differ only in where their nodes lie, and all analyses agree, or both fail,
and the errors differ only in where they lie. -/
theorem parse_of_readings (plain : ∀ t ∈ Scanner.tokenize text.toList, t.token.isPlain = true)
    (same : (Scanner.tokenize text.toList).map Scanner.reading =
      (Scanner.tokenize text'.toList).map Scanner.reading) :
    (∃ s s', parse file text = .ok s ∧ parse file text' = .ok s' ∧
        s.arena.withoutSpans = s'.arena.withoutSpans ∧ s.root = s'.root ∧
        s.parameters = s'.parameters ∧ s.aliases = s'.aliases ∧ s.usage = s'.usage ∧
        s.shape = s'.shape) ∨
      ∃ f f', parse file text = .error ⟨file, f⟩ ∧ parse file text' = .error ⟨file, f'⟩ ∧
        f.Alike f' := by
  rcases parse_alike plain same with ⟨s, s', parsed, parsed', h⟩ | failed
  · exact .inl ⟨s, s', parsed, parsed', h.arena, h.root, h.parameters, h.aliases, h.usage, h.shape⟩
  · exact .inr failed

/-- A comment with a line break in it in place of a line break, and spaces. -/
theorem parse_of_readings_comment : ∃ s s',
    parse "Clock.js" "function Clock(time) \x7b\n  this.now = time.read() \x7d" = .ok s ∧
      parse "Clock.js" "function Clock( time )\x7b/* by\nhand */this.now=time.read()\x7d" = .ok s' ∧
      s.arena.withoutSpans = s'.arena.withoutSpans ∧ s.root = s'.root ∧
      s.parameters = s'.parameters ∧ s.aliases = s'.aliases ∧ s.usage = s'.usage ∧
      s.shape = s'.shape := by
  refine (parse_of_readings (by decide +kernel) (by decide +kernel)).resolve_right ?_
  rintro ⟨f, f', failed, -⟩
  have parses : (parse "Clock.js"
      "function Clock(time) \x7b\n  this.now = time.read() \x7d").toOption.isSome := by
    decide +kernel
  rw [failed] at parses
  cases parses

end SourceTree

end Shapewire
