import BuildSettings.Text.Blank

/-!
# Lists written as text

A list-valued setting is one text: blanks separate its tokens, double quotes group characters
(blanks included) and are dropped, and there are no empty tokens.
-/

namespace BuildSettings.Text

/-- Puts the token that was being read before the others, unless it is empty. -/
def closeToken (current : List Char) (rest : List (List Char)) : List (List Char) :=
  if current.isEmpty then rest else current.reverse :: rest

/-- Reads tokens; `quoting` says whether a quote is open, `current` is the token being read, last
character first. -/
def tokensFrom (quoting : Bool) (current : List Char) : List Char → List (List Char)
  | [] => closeToken current []
  | c :: cs =>
    if c = '"' then tokensFrom (!quoting) current cs
    else if isBlank c && !quoting then closeToken current (tokensFrom false [] cs)
    else tokensFrom quoting (c :: current) cs

/-- The tokens of a list-valued setting. -/
def splitList (s : String) : List String :=
  (tokensFrom false [] s.toList).map String.ofList

end BuildSettings.Text
