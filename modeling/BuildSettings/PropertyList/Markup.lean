/-!
# Markup

Cuts the text of an XML document into its tags, the references in it and the text between them.
Comments, CDATA sections, processing instructions and the document type are passed over, and so
are the attributes of tags. The markup of a text ends with `broken` where the text stops being
well written.
-/

namespace BuildSettings.PropertyList

/-- A tag, a reference, or text between them. -/
inductive Markup where
  | start (name : List Char)
  | finish (name : List Char)
  | text (content : List Char)
  /-- What stands between `&` and `;`. -/
  | reference (name : List Char)
  /-- The text stops being markup here. -/
  | broken
deriving DecidableEq, Repr

namespace Markup

/-- The blanks of markup. -/
def isSpace (c : Char) : Bool :=
  c == ' ' || c == '\t' || c == '\n' || c == '\r'

/-- The quote that is open behind a character; quotes of the other kind do not count inside. -/
def quoteAfter (quote : Option Char) (c : Char) : Option Char :=
  match quote with
  | some q => if c = q then none else some q
  | none => if c = '"' ∨ c.toNat = 39 then some c else none

/-- Where a scan of a document type is. -/
inductive DocumentType where
  /-- Before the declarations in brackets. `named` tells whether something was said so far. -/
  | head (named : Bool) (quote : Option Char)
  /-- Between the declarations. -/
  | brackets
  /-- Behind the `<` of a declaration; `read` holds its first characters, the last one first. -/
  | opened (read : List Char)
  | declaration (quote : Option Char)
  /-- Inside a comment or an instruction, up to an ending that is given from its end. -/
  | passing (ending : List Char) (recent : List Char)
  /-- Behind the declarations. -/
  | tail

/-- Where a scan is. Characters read so far are kept with the last one first. -/
inductive Scan where
  | text (read : List Char)
  /-- Behind an `&`. -/
  | reference (read : List Char)
  /-- Behind the `<` of a tag. -/
  | opened
  /-- Inside a tag that starts an element, and the quote that is open. -/
  | tag (read : List Char) (quote : Option Char)
  /-- Inside a tag that ends an element, and the quote that is open. -/
  | endTag (read : List Char) (quote : Option Char)
  /-- Behind `<!`. -/
  | declaration (read : List Char)
  /-- Behind `<?`. -/
  | instruction
  /-- Up to an ending, which is given from its end; `recent` holds the last characters. -/
  | passing (ending : List Char) (recent : List Char)
  | documentType (state : DocumentType)

/-- The last characters with one more, as many as the ending has. -/
def recentWith (ending recent : List Char) (c : Char) : List Char :=
  (c :: recent).take ending.length

/-- How a comment ends, from its end. -/
def commentEnd : List Char := ['>', '-', '-']

/-- How an instruction ends, from its end. -/
def instructionEnd : List Char := ['>', '?']

/-- How a CDATA section ends, from its end. -/
def cdataEnd : List Char := ['>', ']', ']']

/-- The name at the start of a tag. -/
def tagName (content : List Char) : List Char :=
  content.takeWhile fun c => !isSpace c

/-- The markup of a tag that starts an element; a slash at its end ends the element too. -/
def ofTag (read : List Char) : List Markup :=
  match read with
  | '/' :: rest => [.start (tagName rest.reverse), .finish (tagName rest.reverse)]
  | read => [.start (tagName read.reverse)]

/-- The markup of a tag that ends an element; blanks may follow its name. -/
def ofEndTag (read : List Char) : Markup :=
  .finish (read.dropWhile isSpace).reverse

/-- The markup of the text between tags. -/
def ofText (read : List Char) : List Markup :=
  if read.isEmpty then [] else [.text read.reverse]

/-- Where a scan goes on behind `<!` and further characters. -/
def declare (read : List Char) : Option Scan :=
  let content := read.reverse
  if content = "--".toList then some (.passing commentEnd [])
  else if content = "[CDATA[".toList then some (.passing cdataEnd [])
  else if content.map Char.toLower = "doctype".toList then some (.documentType (.head false none))
  else if content.length < 7 then some (.declaration read)
  else none

/-- Where a scan of a document type goes on behind the `<` of a declaration and further
characters: in a comment, in an instruction, or in a declaration up to its `>`. -/
def DocumentType.declare (read : List Char) : DocumentType :=
  let content := read.reverse
  if content = "!--".toList then .passing commentEnd []
  else if content = "?".toList then .passing instructionEnd []
  else if content.isPrefixOf "!--".toList then .opened read
  else if read.head? = some '>' then .brackets
  else .declaration (quoteAfter none (read.head?.getD '!'))

/-- One step through a document type: `none` behind its end, and `some none` where the document
type names nothing. -/
def DocumentType.step (state : DocumentType) (c : Char) : Option (Option DocumentType) :=
  match state with
  | .head named quote =>
    if quote.isSome then some (some (.head true (quoteAfter quote c)))
    else if c = '>' then (if named then none else some none)
    else if c = '[' then some (some .brackets)
    else some (some (.head (named || !isSpace c) (quoteAfter none c)))
  | .brackets =>
    if c = ']' then some (some .tail)
    else if c = '<' then some (some (.opened []))
    else some (some .brackets)
  | .opened read => some (some (DocumentType.declare (c :: read)))
  | .declaration quote =>
    if quote.isNone ∧ c = '>' then some (some .brackets)
    else some (some (.declaration (quoteAfter quote c)))
  | .passing ending recent =>
    let recent := recentWith ending recent c
    some (some (if recent = ending then .brackets else .passing ending recent))
  | .tail => if c = '>' then none else some (some .tail)

/-- The markup of a text. -/
def scan : Scan → List Char → List Markup
  | .text read, [] => ofText read
  | _, [] => [.broken]
  | .text read, c :: cs =>
    if c = '<' then ofText read ++ scan .opened cs
    else if c = '&' then ofText read ++ scan (.reference []) cs
    else scan (.text (c :: read)) cs
  | .reference read, c :: cs =>
    if c = ';' then .reference read.reverse :: scan (.text []) cs
    else if c = '&' ∨ c = '<' then [.broken]
    else scan (.reference (c :: read)) cs
  | .opened, c :: cs =>
    if c = '!' then scan (.declaration []) cs
    else if c = '?' then scan .instruction cs
    else if c = '/' then scan (.endTag [] none) cs
    else if c = '>' then .start [] :: scan (.text []) cs
    else scan (.tag [c] (quoteAfter none c)) cs
  | .tag read quote, c :: cs =>
    if quote.isNone ∧ c = '>' then ofTag read ++ scan (.text []) cs
    else scan (.tag (c :: read) (quoteAfter quote c)) cs
  | .endTag read quote, c :: cs =>
    if quote.isNone ∧ c = '>' then ofEndTag read :: scan (.text []) cs
    else scan (.endTag (c :: read) (quoteAfter quote c)) cs
  | .declaration read, c :: cs =>
    match declare (c :: read) with
    | some next => scan next cs
    | none => [.broken]
  | .instruction, c :: cs =>
    if c = '>' then [.broken] else scan (.passing instructionEnd [c]) cs
  | .passing ending recent, c :: cs =>
    let recent := recentWith ending recent c
    if recent = ending then scan (.text []) cs else scan (.passing ending recent) cs
  | .documentType state, c :: cs =>
    match state.step c with
    | none => scan (.text []) cs
    | some none => [.broken]
    | some (some next) => scan (.documentType next) cs

/-- The markup of a document, behind a byte order mark. -/
def ofDocument (s : String) : List Markup :=
  match s.toList with
  | c :: cs => if c.toNat = 0xFEFF then scan (.text []) cs else scan (.text []) (c :: cs)
  | [] => []

end Markup

end BuildSettings.PropertyList
