import GateRollout.Yaml.Quoted
import GateRollout.Yaml.Plain
import GateRollout.Yaml.Block

/-!
# Streams of tokens

The tokens of a text, found one after the other.  Whether a token is a key of a mapping is known only
when a colon follows it; until then it stays in the queue, and the mark of a key is put in front of it
afterwards.  A key of this kind lies on one line and is not longer than 1024 characters.
-/

namespace GateRollout.Yaml

/-- A token that may turn out to be a key. -/
structure PossibleKey where
  /-- How many tokens come before it. -/
  number : Nat
  /-- Whether it can be nothing else. -/
  required : Bool
  index : Nat
  mark : Mark
  deriving Repr

/-- What is known about a text that is being cut into tokens. -/
structure TokenStream where
  cursor : Cursor
  isDone : Bool := false
  /-- How many brackets and braces are open; more may be closed than were opened. -/
  flowLevel : Int := 0
  /-- The tokens that were found and not taken yet. -/
  queue : List Token := []
  taken : Nat := 0
  /-- The indentation of the innermost block, and those of the blocks around it. -/
  indent : Int := -1
  indents : List Int := []
  /-- Whether a key may start here. -/
  allowKey : Bool := true
  /-- The tokens that may turn out to be keys, by the number of open brackets. -/
  keys : List (Int × PossibleKey) := []

namespace TokenStream

/-- The tokens of a text. -/
def ofText (text : List Char) : TokenStream := { cursor := ⟨text, 0, 0, 0⟩ }

/-- Whether no bracket is open. -/
def inBlock (s : TokenStream) : Bool := s.flowLevel == 0

/-- Where the reading stands. -/
def mark (s : TokenStream) : Mark := s.cursor.mark

/-- The column at which the reading stands. -/
def column (s : TokenStream) : Int := s.cursor.column

/-- Put a token without characters at the end of the queue. -/
def push (s : TokenStream) (kind : TokenKind) : TokenStream :=
  { s with queue := s.queue ++ [⟨kind, s.mark, s.mark⟩] }

/-- Put a token of some characters at the end of the queue. -/
def pushChars (s : TokenStream) (kind : TokenKind) (length : Nat) : TokenStream :=
  let after := s.cursor.skip length
  { s with cursor := after, queue := s.queue ++ [⟨kind, s.mark, after.mark⟩] }

/-- Put a token in front of the one with a number. -/
def insertAt (s : TokenStream) (number : Nat) (t : Token) : TokenStream :=
  { s with queue := s.queue.insertIdx (number - s.taken) t }

/-- Go on from a piece that was read. -/
def reading {α : Type} (s : TokenStream) (x : Scan α) : Except Fault (α × TokenStream) := do
  let (a, cursor) ← x.run s.cursor
  return (a, { s with cursor })

/-- That a token which can only be a key is followed by no colon. -/
def keyFault (s : TokenStream) (key : PossibleKey) : Fault :=
  .at_ (some (.scanning .simpleKey, key.mark)) .noColon s.mark

/-- Forget the keys that end too far from here, if they may be something else. -/
def dropStaleKeys (s : TokenStream) : Except Fault TokenStream := do
  let isStale (k : PossibleKey) : Bool :=
    k.mark.line != s.cursor.line || 1024 < s.cursor.index - k.index
  match s.keys.find? fun (_, k) => isStale k && k.required with
  | some (_, k) => throw (s.keyFault k)
  | none => return { s with keys := s.keys.filter fun (_, k) => !isStale k }

/-- The possible key between the innermost brackets. -/
def key? (s : TokenStream) : Option PossibleKey :=
  (s.keys.find? (·.1 == s.flowLevel)).map (·.2)

/-- Forget the possible key between the innermost brackets without asking. -/
def forgetKey (s : TokenStream) : TokenStream :=
  { s with keys := s.keys.filter (·.1 != s.flowLevel) }

/-- Forget the possible key between the innermost brackets, if it may be something else. -/
def dropKey (s : TokenStream) : Except Fault TokenStream :=
  match s.key? with
  | some k => if k.required then .error (s.keyFault k) else .ok s.forgetKey
  | none => .ok s

/-- Note that the token which starts here may turn out to be a key. -/
def noteKey (s : TokenStream) : Except Fault TokenStream := do
  if !s.allowKey then return s
  let s ← s.dropKey
  let key : PossibleKey :=
    { number := s.taken + s.queue.length, required := s.inBlock && s.indent == s.column
      index := s.cursor.index, mark := s.mark }
  return { s with keys := s.keys ++ [(s.flowLevel, key)] }

/-- Close the blocks that are indented further than a column; between brackets indentation means
nothing. -/
def unwind (s : TokenStream) (column : Int) : TokenStream :=
  if !s.inBlock then s
  else
    let rec close (indent : Int) : List Int → Nat × Int × List Int
      | [] => (0, indent, [])
      | outer :: rest =>
        if column < indent then
          let (n, i, is) := close outer rest
          (n + 1, i, is)
        else (0, indent, outer :: rest)
    let (n, indent, indents) := close s.indent s.indents
    { s with
      indent, indents
      queue := s.queue ++ List.replicate n ⟨.blockEnd, s.mark, s.mark⟩ }

/-- Open a block at a column, unless the innermost one is indented as far; the result tells whether a
block was opened. -/
def openBlock (s : TokenStream) (column : Int) : Bool × TokenStream :=
  if s.indent < column then
    (true, { s with indent := column, indents := s.indent :: s.indents })
  else (false, s)

/-- Open a block here with a token for its start. -/
def openBlockWith (s : TokenStream) (kind : TokenKind) : TokenStream :=
  match s.openBlock s.column with
  | (true, s) => s.push kind
  | (false, s) => s

/-- Go past what stands between tokens: spaces, comments and line breaks, `fuel` of them at most.
After a line break outside brackets a key may start. -/
def skipBetween (s : TokenStream) : Nat → TokenStream
  | 0 => s
  | fuel + 1 =>
    let c := s.cursor.skipComment
    match c.lineBreak? with
    | none => { s with cursor := c }
    | some (_, c) =>
      skipBetween { s with cursor := c, allowKey := s.allowKey || s.inBlock } fuel

/-- Go to the next token. -/
def toNextToken (s : TokenStream) : TokenStream :=
  let c := s.cursor
  let c := if c.index == 0 && c.peek == byteOrderMark then c.next else c
  { s with cursor := c }.skipBetween (c.rest.length + 1)

/-- A token that ends all blocks. -/
def endingBlocks (s : TokenStream) : Except Fault TokenStream := do
  let s ← (s.unwind (-1)).dropKey
  return { s with allowKey := false }

/-- That something may not stand here. -/
def notAllowed (s : TokenStream) (what : String) : Fault := .at_ none (.notAllowed what) s.mark

/-- The end of the text. -/
def fetchEnd (s : TokenStream) : Except Fault TokenStream := do
  let s ← s.endingBlocks
  return { s.push .streamEnd with keys := [], isDone := true }

/-- A directive. -/
def fetchDirective (s : TokenStream) : Except Fault TokenStream := do
  let (t, s) ← (← s.endingBlocks).reading directiveToken
  return { s with queue := s.queue ++ [t] }

/-- A line that separates documents. -/
def fetchSeparator (s : TokenStream) (kind : TokenKind) : Except Fault TokenStream := do
  return (← s.endingBlocks).pushChars kind 3

/-- An opening bracket or brace. -/
def fetchOpening (s : TokenStream) (kind : TokenKind) : Except Fault TokenStream := do
  let s ← s.noteKey
  return { s with flowLevel := s.flowLevel + 1, allowKey := true }.pushChars kind 1

/-- A closing bracket or brace. -/
def fetchClosing (s : TokenStream) (kind : TokenKind) : Except Fault TokenStream := do
  let s ← s.dropKey
  return { s with flowLevel := s.flowLevel - 1, allowKey := false }.pushChars kind 1

/-- A comma between brackets. -/
def fetchFlowEntry (s : TokenStream) : Except Fault TokenStream := do
  let s ← { s with allowKey := true }.dropKey
  return s.pushChars .flowEntry 1

/-- The hyphen in front of an entry of a block. -/
def fetchBlockEntry (s : TokenStream) : Except Fault TokenStream := do
  if s.inBlock && !s.allowKey then throw (s.notAllowed "sequence entries")
  let s := if s.inBlock then s.openBlockWith .blockSequenceStart else s
  let s ← { s with allowKey := true }.dropKey
  return s.pushChars .blockEntry 1

/-- The question mark in front of a key. -/
def fetchKey (s : TokenStream) : Except Fault TokenStream := do
  if s.inBlock && !s.allowKey then throw (s.notAllowed "mapping keys")
  let s := if s.inBlock then s.openBlockWith .blockMappingStart else s
  let s ← { s with allowKey := s.inBlock }.dropKey
  return s.pushChars .key 1

/-- The colon in front of a value, behind a token that turns out to be a key. -/
def fetchValueOf (s : TokenStream) (key : PossibleKey) : TokenStream :=
  let s := s.forgetKey.insertAt key.number ⟨.key, key.mark, key.mark⟩
  let (opened, s) := if s.inBlock then s.openBlock key.mark.column else (false, s)
  let s := if opened then s.insertAt key.number ⟨.blockMappingStart, key.mark, key.mark⟩ else s
  { s with allowKey := false }.pushChars .value 1

/-- The colon in front of a value. -/
def fetchValue (s : TokenStream) : Except Fault TokenStream :=
  match s.key? with
  | some key => return s.fetchValueOf key
  | none => do
    if s.inBlock && !s.allowKey then throw (s.notAllowed "mapping values")
    let s := if s.inBlock then s.openBlockWith .blockMappingStart else s
    let s ← { s with allowKey := s.inBlock }.dropKey
    return s.pushChars .value 1

/-- A token that may turn out to be a key. -/
def fetchNamed (s : TokenStream) (x : Scan Token) : Except Fault TokenStream := do
  let s ← s.noteKey
  let (t, s) ← { s with allowKey := false }.reading x
  return { s with queue := s.queue ++ [t] }

/-- A block scalar. -/
def fetchBlockScalar (s : TokenStream) (folded : Bool) : Except Fault TokenStream := do
  let s ← { s with allowKey := true }.dropKey
  let (t, s) ← s.reading (blockToken folded s.indent)
  return { s with queue := s.queue ++ [t] }

/-- A plain scalar. -/
def fetchPlain (s : TokenStream) : Except Fault TokenStream := do
  let s ← s.noteKey
  let ((t, crossed), s) ← s.reading (plainToken (!s.inBlock) (s.indent + 1))
  return { s with allowKey := crossed, queue := s.queue ++ [t] }

/-- Whether a plain scalar may start here. -/
def atPlain (s : TokenStream) : Bool :=
  let ch := s.cursor.peek
  let marks := "-?:,[]\x7b\x7d#&*!|>'\"%@`".toList
  !(isBlankOrEnd ch || marks.contains ch) ||
    (!isBlankOrEnd (s.cursor.peekAt 1) && (ch == '-' || (s.inBlock && (ch == '?' || ch == ':'))))

/-- Find the next token, which may bring others with it. -/
def fetch (s : TokenStream) : Except Fault TokenStream := do
  let s ← s.toNextToken.dropStaleKeys
  let s := s.unwind s.column
  let ch := s.cursor.peek
  let beforeBlank := isBlankOrEnd (s.cursor.peekAt 1)
  let separates := s.column == 0 && s.cursor.atSeparator
  if ch == endChar then s.fetchEnd
  else if ch == '%' && s.column == 0 then s.fetchDirective
  else if ch == '-' && separates then s.fetchSeparator .documentStart
  else if ch == '.' && separates then s.fetchSeparator .documentEnd
  else if ch == '[' then s.fetchOpening .flowSequenceStart
  else if ch == '\x7b' then s.fetchOpening .flowMappingStart
  else if ch == ']' then s.fetchClosing .flowSequenceEnd
  else if ch == '\x7d' then s.fetchClosing .flowMappingEnd
  else if ch == ',' then s.fetchFlowEntry
  else if ch == '-' && beforeBlank then s.fetchBlockEntry
  else if ch == '?' && (!s.inBlock || beforeBlank) then s.fetchKey
  else if ch == ':' && (!s.inBlock || beforeBlank) then s.fetchValue
  else if ch == '*' then s.fetchNamed (nameToken .reference .reference)
  else if ch == '&' then s.fetchNamed (nameToken .anchor .anchor)
  else if ch == '!' then s.fetchNamed tagToken
  else if ch == '|' && s.inBlock then s.fetchBlockScalar false
  else if ch == '>' && s.inBlock then s.fetchBlockScalar true
  else if ch == '\'' || ch == '"' then s.fetchNamed quotedToken
  else if s.atPlain then s.fetchPlain
  else throw (.at_ (some (.scanning .nextToken, s.mark)) (.cannotStart ch) s.mark)

/-- Whether the first token of the queue is final: it is none that may turn out to be a key. -/
def isReady (s : TokenStream) : Bool :=
  s.isDone || (!s.queue.isEmpty && !s.keys.any fun (_, k) => k.number == s.taken)

/-- Find tokens until the first of the queue is final, `fuel` times at most. -/
def prepareWithin : Nat → TokenStream → Except Fault TokenStream
  | 0, s => return s
  | fuel + 1, s => do
    if s.isDone then return s
    let s ← if s.queue.isEmpty then pure s else s.dropStaleKeys
    if s.isReady then return s
    prepareWithin fuel (← s.fetch)

/-- Find tokens until the first of the queue is final.  Every token but the last has a character of
its own, so that there are no more tokens to find than characters and one. -/
def prepare (s : TokenStream) : Except Fault TokenStream :=
  prepareWithin (s.cursor.rest.length + 2) s

end TokenStream

end GateRollout.Yaml
