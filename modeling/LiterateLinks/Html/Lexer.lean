import LiterateLinks.Html.Reference.Basic
import LiterateLinks.Html.Token

/-!
# Reading tokens

`Lexer.next` reads one token off the front of the source.  Nothing in a source is an error: a tag
that the end of the source cuts off is dropped, and an opening bracket that starts no tag is text.
Every token but the end of the source uses up at least one character.
-/

namespace LiterateLinks

namespace Html

namespace Lexer

/-- Whether the character separates the parts of a tag. -/
def isSpace (c : Char) : Bool :=
  c == '\t' || c == '\n' || c == '\x0c' || c == ' '

/-- Shows a null character as the replacement character. -/
def shown (c : Char) : Char :=
  if c = '\x00' then Reference.replacement else c

/-- A name in lower case. -/
def nameOf (chars : List Char) : String :=
  String.ofList (chars.map fun c => (shown c).toLower)

/-- Whether the text starts with the word, whatever the case of its letters; the word is given in
lower case. -/
def startsWithWord (word text : List Char) : Bool :=
  word == (text.take word.length).map Char.toLower

/-! ### Tags -/

/-- The value of an attribute, written without quotation marks or between a pair of them, and the
rest of the tag. -/
def readValue? (text : List Char) : Option (List Char × List Char) :=
  match text.dropWhile isSpace with
  | [] => none
  | c :: rest =>
    if c = '"' || c = '\'' then
      let tail := rest.dropWhile (· != c)
      if tail.isEmpty then none else some (rest.takeWhile (· != c), tail.tail)
    else
      let inValue (x : Char) := !isSpace x && x != '>'
      some ((c :: rest).takeWhile inValue, (c :: rest).dropWhile inValue)

/-- Adds an attribute to a list, newest first, unless it has one of that name. -/
def addAttribute (attributes : List Attribute) (name : String) (value : List Char) :
    List Attribute :=
  if attributes.any (·.name == name) then attributes
  else
    { name, value := String.ofList (Reference.decode true (value.map shown)) } :: attributes

/-- Reads the rest of a tag, from after its name: the attributes, whether it closes itself, and the
text after it; `none` if the source ends inside the tag.  Every round reads at least one character,
so the length of the text is fuel enough. -/
def readAttributes? : Nat → List Attribute → List Char → Option (List Attribute × Bool × List Char)
  | 0, _, _ => none
  | fuel + 1, attributes, text =>
    match text.dropWhile isSpace with
    | [] => none
    | '>' :: rest => some (attributes.reverse, false, rest)
    | '/' :: '>' :: rest => some (attributes.reverse, true, rest)
    | '/' :: rest => readAttributes? fuel attributes rest
    | c :: rest =>
      let inName (x : Char) := !isSpace x && x != '/' && x != '>' && x != '='
      let name := nameOf (c :: rest.takeWhile inName)
      match (rest.dropWhile inName).dropWhile isSpace with
      | '=' :: tail => do
        let (value, tail) ← readValue? tail
        readAttributes? fuel (addAttribute attributes name value) tail
      | tail => readAttributes? fuel (addAttribute attributes name []) tail

/-- Reads a tag from its name on. -/
def readTag? (text : List Char) : Option (StartTag × List Char) := do
  let inName (x : Char) := !isSpace x && x != '/' && x != '>'
  let rest := text.dropWhile inName
  let (attributes, selfClosing, rest) ← readAttributes? (rest.length + 1) [] rest
  return ({ name := nameOf (text.takeWhile inName), attributes, selfClosing }, rest)

/-! ### Comments -/

/-- How far the end of a comment has been seen. -/
inductive CommentState where
  /-- Right after the opening. -/
  | start
  /-- After the opening and a dash. -/
  | startDash
  /-- Inside. -/
  | inside
  /-- After one dash. -/
  | dash
  /-- After two dashes. -/
  | dashes
  /-- After two dashes and an exclamation mark. -/
  | bang
  deriving Repr, DecidableEq

/-- Adds a character inside a comment to its content, newest first, which ends with what was held
back as a possible end. -/
def CommentState.resume (held : List Char) (content : List Char) (c : Char) :
    CommentState × List Char :=
  let content := held ++ content
  if c = '-' then (.dash, content) else (.inside, shown c :: content)

/-- Takes one character of a comment; `none` when it ends the comment. -/
def CommentState.step? (state : CommentState) (content : List Char) (c : Char) :
    Option (CommentState × List Char) :=
  match state with
  | .start =>
    if c = '-' then some (.startDash, content)
    else if c = '>' then none
    else some (resume [] content c)
  | .startDash =>
    if c = '-' then some (.dashes, content)
    else if c = '>' then none
    else some (resume ['-'] content c)
  | .inside => some (resume [] content c)
  | .dash => if c = '-' then some (.dashes, content) else some (resume ['-'] content c)
  | .dashes =>
    if c = '>' then none
    else if c = '!' then some (.bang, content)
    else if c = '-' then some (.dashes, '-' :: content)
    else some (resume ['-', '-'] content c)
  | .bang => if c = '>' then none else some (resume ['!', '-', '-'] content c)

/-- Reads a comment from after its opening. -/
def readComment : CommentState → List Char → List Char → String × List Char
  | _, content, [] => (String.ofList content.reverse, [])
  | state, content, c :: cs =>
    match state.step? content c with
    | some (state, content) => readComment state content cs
    | none => (String.ofList content.reverse, cs)

/-- Reads the text up to the next closing bracket as a comment. -/
def readBogusComment (text : List Char) : String × List Char :=
  (String.ofList ((text.takeWhile (· != '>')).map shown), (text.dropWhile (· != '>')).tail)

/-! ### Doctypes -/

/-- Leaves out the rest of a doctype. -/
def skipDoctype (text : List Char) : List Char :=
  (text.dropWhile (· != '>')).tail

/-- Reads an identifier up to its closing quotation mark: the identifier, whether it is complete,
and the text after it. -/
def readIdentifier (quote : Char) (text : List Char) : String × Bool × List Char :=
  let inside (c : Char) := c != quote && c != '>'
  let id := String.ofList ((text.takeWhile inside).map shown)
  match text.dropWhile inside with
  | c :: rest => if c = quote then (id, true, rest) else (id, false, rest)
  | [] => (id, false, [])

/-- Reads a doctype from after its public identifier. -/
def readSystemId (d : Doctype) (required : Bool) (text : List Char) : Doctype × List Char :=
  match text.dropWhile isSpace with
  | [] => ({ d with defective := true }, [])
  | c :: rest =>
    if c = '>' then ({ d with defective := d.defective || required }, rest)
    else if c = '"' || c = '\'' then
      let (id, complete, rest) := readIdentifier c rest
      let d := { d with systemId := some id }
      if !complete then ({ d with defective := true }, rest)
      else
        match rest.dropWhile isSpace with
        | [] => ({ d with defective := true }, [])
        | rest => (d, skipDoctype rest)
    else ({ d with defective := true }, skipDoctype (c :: rest))

/-- Reads a doctype from after its keyword for a public identifier. -/
def readPublicId (d : Doctype) (text : List Char) : Doctype × List Char :=
  match text.dropWhile isSpace with
  | [] => ({ d with defective := true }, [])
  | c :: rest =>
    if c = '"' || c = '\'' then
      let (id, complete, rest) := readIdentifier c rest
      let d := { d with publicId := some id }
      if complete then readSystemId d false rest else ({ d with defective := true }, rest)
    else ({ d with defective := true }, skipDoctype (c :: rest))

/-- Reads a doctype from after its first keyword. -/
def readDoctype (text : List Char) : Doctype × List Char :=
  let text := text.dropWhile isSpace
  let inName (c : Char) := !isSpace c && c != '>'
  let name := text.takeWhile inName
  let rest := (text.dropWhile inName).dropWhile isSpace
  if name.isEmpty then ({ defective := true }, skipDoctype rest)
  else
    let d : Doctype := { name := some (nameOf name) }
    match rest with
    | [] => ({ d with defective := true }, [])
    | '>' :: rest => (d, rest)
    | rest =>
      if startsWithWord "public".toList rest then readPublicId d (rest.drop 6)
      else if startsWithWord "system".toList rest then readSystemId d true (rest.drop 6)
      else ({ d with defective := true }, skipDoctype rest)

/-! ### Text inside special elements -/

/-- Whether the text after an opening bracket is the end tag of the element. -/
def closes (element : String) (text : List Char) : Bool :=
  let name := element.toList
  match text with
  | '/' :: rest =>
    startsWithWord name rest &&
      match rest.drop name.length with
      | c :: _ => isSpace c || c == '/' || c == '>'
      | [] => false
  | _ => false

/-- Reads text up to the end tag of the element. -/
def readRaw (element : String) : List Char → List Char × List Char
  | [] => ([], [])
  | c :: cs =>
    if c = '<' && closes element cs then ([], c :: cs)
    else
      let (text, rest) := readRaw element cs
      (shown c :: text, rest)

/-- How deep a script is inside the comments that may hide an end tag. -/
inductive ScriptState where
  /-- Outside comments. -/
  | outside
  /-- Outside, after `<`. -/
  | less
  /-- Outside, after `<!`. -/
  | lessBang
  /-- Outside, after `<!-`. -/
  | lessBangDash
  /-- In a comment, after that many dashes. -/
  | comment (dashes : Nat)
  /-- In a comment, after `<` and some letters. -/
  | commentTag (letters : List Char)
  /-- In a script inside a comment, after that many dashes. -/
  | nested (dashes : Nat)
  /-- In a nested script, after `<`. -/
  | nestedLess
  /-- In a nested script, after `</` and some letters. -/
  | nestedEnd (letters : List Char)
  deriving Repr, DecidableEq

namespace ScriptState

/-- Whether an end tag ends the script here. -/
def canClose : ScriptState → Bool
  | .nested _ | .nestedLess | .nestedEnd _ => false
  | _ => true

/-- The state after a character outside comments. -/
def outsideStep (c : Char) : ScriptState :=
  if c = '<' then .less else .outside

/-- The state after a character in a comment. -/
def commentStep (dashes : Nat) (c : Char) : ScriptState :=
  if c = '-' then .comment (min 2 (dashes + 1))
  else if c = '<' then .commentTag []
  else if c = '>' && dashes == 2 then .outside
  else .comment 0

/-- The state after a character in a nested script. -/
def nestedStep (dashes : Nat) (c : Char) : ScriptState :=
  if c = '-' then .nested (min 2 (dashes + 1))
  else if c = '<' then .nestedLess
  else if c = '>' && dashes == 2 then .outside
  else .nested 0

/-- Whether the character ends the name of a tag. -/
def endsName (c : Char) : Bool :=
  isSpace c || c == '/' || c == '>'

/-- The state after one more character. -/
def step (state : ScriptState) (c : Char) : ScriptState :=
  match state with
  | .outside => outsideStep c
  | .less => if c = '!' then .lessBang else outsideStep c
  | .lessBang => if c = '-' then .lessBangDash else outsideStep c
  | .lessBangDash => if c = '-' then .comment 2 else outsideStep c
  | .comment dashes => commentStep dashes c
  | .commentTag letters =>
    if c.isAlpha then .commentTag (letters ++ [c.toLower])
    else if endsName c && letters == "script".toList then .nested 0
    else commentStep 0 c
  | .nested dashes => nestedStep dashes c
  | .nestedLess => if c = '/' then .nestedEnd [] else nestedStep 0 c
  | .nestedEnd letters =>
    if c.isAlpha then .nestedEnd (letters ++ [c.toLower])
    else if endsName c && letters == "script".toList then .comment 0
    else nestedStep 0 c

end ScriptState

/-- Reads a script up to the end tag that ends it. -/
def readScript : ScriptState → List Char → List Char × List Char
  | _, [] => ([], [])
  | state, c :: cs =>
    if c = '<' && state.canClose && closes "script" cs then ([], c :: cs)
    else
      let (text, rest) := readScript (state.step c) cs
      (shown c :: text, rest)

/-! ### Tokens -/

/-- Reads what follows `<!`.  Character data sections are only read as such where `foreign` is
set. -/
def readDeclaration (foreign : Bool) (text : List Char) : Token × List Char :=
  match text with
  | '-' :: '-' :: rest =>
    let (content, rest) := readComment .start [] rest
    (.comment content, rest)
  | text =>
    if startsWithWord "doctype".toList text then
      let (d, rest) := readDoctype (text.drop 7)
      (.doctype d, rest)
    else if foreign && "[CDATA[".toList.isPrefixOf text then
      let (content, rest) := readSection (text.drop 7)
      (.text content, rest)
    else
      let (content, rest) := readBogusComment text
      (.comment content, rest)
where
  readSection : List Char → List Char × List Char
    | [] => ([], [])
    | ']' :: ']' :: '>' :: rest => ([], rest)
    | c :: cs =>
      let (content, rest) := readSection cs
      (c :: content, rest)

/-- Reads what follows `</`. -/
def readEndTag (text : List Char) : Token × List Char :=
  match text with
  | [] => (.text ['<', '/'], [])
  | '>' :: rest => (.text [], rest)
  | c :: rest =>
    if c.isAlpha then
      match readTag? (c :: rest) with
      | some (tag, rest) => (.endTag tag.name, rest)
      | none => (.eof, [])
    else
      let (content, rest) := readBogusComment (c :: rest)
      (.comment content, rest)

/-- Reads what follows an opening bracket. -/
def readTagOpen (foreign : Bool) (text : List Char) : Token × List Char :=
  match text with
  | '!' :: rest => readDeclaration foreign rest
  | '/' :: rest => readEndTag rest
  | '?' :: rest =>
    let (content, rest) := readBogusComment ('?' :: rest)
    (.comment content, rest)
  | c :: rest =>
    if c.isAlpha then
      match readTag? (c :: rest) with
      | some (tag, rest) => (.startTag tag, rest)
      | none => (.eof, [])
    else (.text ['<'], c :: rest)
  | [] => (.text ['<'], [])

/-- Reads one token off the source, which is text of the given kind. -/
def next (kind : TextKind) (foreign : Bool) (source : List Char) : Token × List Char :=
  match source with
  | [] => (.eof, [])
  | c :: cs =>
    match kind with
    | .plain => (.text (source.map shown), [])
    | .script =>
      if c = '<' && closes "script" cs then readTagOpen foreign cs
      else
        let (text, rest) := readScript .outside source
        (.text text, rest)
    | .raw element =>
      if c = '<' && closes element cs then readTagOpen foreign cs
      else
        let (text, rest) := readRaw element source
        (.text text, rest)
    | .escapable element =>
      if c = '<' && closes element cs then readTagOpen foreign cs
      else
        let (text, rest) := readRaw element source
        (readReferences text, rest)
    | .markup =>
      if c = '<' then readTagOpen foreign cs
      else (readReferences (source.takeWhile (· != '<')), source.dropWhile (· != '<'))
where
  readReferences (text : List Char) : Token :=
    .text (Reference.decode false text) (Reference.opensBroken text)

/-- Leaves out a byte order mark in front. -/
def skipMark : List Char → List Char
  | '\ufeff' :: rest => rest
  | source => source

/-- The text after a token that was read as text of the given kind.  The end of a script starts the
source anew, so a byte order mark there is left out. -/
def resume (kind : TextKind) (token : Token) (rest : List Char) : List Char :=
  match kind, token with
  | .script, .endTag _ => skipMark rest
  | _, _ => rest

/-- The characters of a source: without a byte order mark, and with every line break a line feed. -/
def normalize (source : List Char) : List Char :=
  newlines (skipMark source)
where
  newlines : List Char → List Char
    | [] => []
    | '\r' :: '\n' :: rest => '\n' :: newlines rest
    | '\r' :: rest => '\n' :: newlines rest
    | c :: rest => c :: newlines rest

end Lexer

end Html

end LiterateLinks
