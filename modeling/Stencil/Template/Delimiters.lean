/-!
# Stencil.Template.Delimiters

The two texts that bound a marker. Neither is ever empty, so every marker takes
some room and scanning gets on: an empty text asks for the default one.
-/

namespace Stencil

/-- The texts that bound a marker. -/
structure Delimiters where
  opening : String
  closing : String
  opening_ne : opening ≠ "" := by decide
  closing_ne : closing ≠ "" := by decide

namespace Delimiters

/-- The delimiters that are used unless others are asked for. -/
def standard : Delimiters := ⟨"[[", "]]", by decide, by decide⟩

instance : Inhabited Delimiters := ⟨standard⟩

/-- `s` itself, or `fallback` if `s` is empty. -/
def orElse (s fallback : String) : String := if s = "" then fallback else s

theorem orElse_ne {s fallback : String} (h : fallback ≠ "") : orElse s fallback ≠ "" := by
  unfold orElse
  split <;> assumption

/-- The delimiters asked for, the standard one in place of an empty one. -/
def ofTexts (opening closing : String) : Delimiters where
  opening := orElse opening standard.opening
  closing := orElse closing standard.closing
  opening_ne := orElse_ne standard.opening_ne
  closing_ne := orElse_ne standard.closing_ne

end Delimiters

end Stencil
