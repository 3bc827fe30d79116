import Pruning.Console.Literal.Token
import Pruning.Text.Digit

/-!
Values in tags, in the notation of literals: numbers, quoted texts, truth values, tuples, sets and
dictionaries. `Literal.check` tells whether a text is one value, and why not: because it is no expression
at all, or because it is an expression that is no value.

A text is read twice: once to see whether it is an expression, and once more, if it is not, to find out
why. The second reading looks for the usual mistakes in the order in which the parts are read, and a place
where no token can be read is told first.
-/

namespace Pruning.Console.Literal

/-- Why a text is no value. -/
inductive Refusal where
  /-- It is no expression. -/
  | syntactic (complaint : String)
  /-- It is an expression that is no value. -/
  | unusable (complaint : String)
  deriving DecidableEq, Repr

/-- How texts are read as values: it is only told why one is none. -/
abbrev Evaluation := List Char → Except Refusal Unit

/-! ## Expressions -/

/-- Expressions, as far as it matters for values. -/
inductive Node where
  | name (text : String)
  | number (imaginary : Bool)
  | text
  | formatted
  /-- One of the words for truth values and for nothing. -/
  | constant (word : String)
  | dots
  | tuple (items : List Node)
  | set (items : List Node)
  /-- Keys and values; a dictionary that is poured into another one has no key. -/
  | dict (keys : List (Option Node)) (values : List Node)
  | signed (operand : Node)
  | sum (left right : Node)
  | starred
  | attribute
  | call (callee : Node) (isBare : Bool)
  | comparison
  | choice
  | assignment
  | operation

/-- What an expression is called in messages. -/
def Node.describe : Node → String
  | .name _ => "name"
  | .number _ => "literal"
  | .text => "literal"
  | .formatted => "f-string expression"
  | .constant word => word
  | .dots => "ellipsis"
  | .tuple _ => "tuple"
  | .set _ => "set display"
  | .dict _ _ => "dict literal"
  | .signed _ => "expression"
  | .sum _ _ => "expression"
  | .starred => "starred"
  | .attribute => "attribute"
  | .call _ _ => "function call"
  | .comparison => "comparison"
  | .choice => "conditional expression"
  | .assignment => "named expression"
  | .operation => "expression"

mutual

/-- What a value is when it cannot be in a set. -/
def Node.unhashable? : Node → Option String
  | .set _ => some "set"
  | .call _ _ => some "set"
  | .dict _ _ => some "dict"
  | .tuple items => unhashableAmong? items
  | _ => none

/-- What the first of some values that cannot be in a set is. -/
def unhashableAmong? : List Node → Option String
  | [] => none
  | item :: rest => item.unhashable?.orElse fun _ => unhashableAmong? rest

end

/-- What is told about an expression that is no value. -/
def malformed : String := "malformed node or string on line 1"

/-- Checks that values can be in a set. -/
def checkHashable (items : List Node) : Except String Unit :=
  match unhashableAmong? items with
  | some kind => .error ("unhashable type: " ++ Text.quoted kind)
  | none => .ok ()

/-- Whether an expression is a number that is not imaginary, with or without a sign. -/
def Node.isReal : Node → Bool
  | .number imaginary => !imaginary
  | .signed (.number imaginary) => !imaginary
  | _ => false

mutual

/-- Checks that an expression is a value. -/
def Node.checkValue : Node → Except String Unit
  | .number _ => .ok ()
  | .text => .ok ()
  | .constant _ => .ok ()
  | .dots => .ok ()
  | .tuple items => checkValues items
  | .set items => do
    checkValues items
    checkHashable items
  | .dict keys values => do
    checkKeys keys
    checkValues values
    checkHashable (keys.filterMap id)
  | .call (.name word) isBare => if word = "set" && isBare then .ok () else .error malformed
  | .sum left (.number true) => if left.isReal then .ok () else .error malformed
  | .signed (.number _) => .ok ()
  | _ => .error malformed

/-- Checks that expressions are values. -/
def checkValues : List Node → Except String Unit
  | [] => .ok ()
  | item :: rest => do
    item.checkValue
    checkValues rest

/-- Checks that the keys of a dictionary are values. -/
def checkKeys : List (Option Node) → Except String Unit
  | [] => .ok ()
  | some key :: rest => do
    key.checkValue
    checkKeys rest
  | none :: _ => .error "malformed node or string: None"

end

/-! ## Reading tokens -/

/-- Why a reading stops. -/
inductive Stop where
  /-- The tokens end. -/
  | ending
  | complaint (text : String)

/-- A reader knows how many tokens are left behind the last one that was looked at. -/
abbrev Reader := StateT Nat (Except Stop)

/-- What was read, and the tokens after it. -/
abbrev Found (α : Type) := Option (α × List Token)

/-- The next token. -/
def peek (tokens : List Token) : Reader Token := do
  modify (min tokens.length)
  match tokens with
  | [] => throw .ending
  | token :: _ => return token

/-- Whether the next token is a sign or a word. -/
def nextIs (texts : List String) (tokens : List Token) : Reader Bool := do
  let token ← peek tokens
  return (token.kind = .sign || token.kind = .name) && texts.contains token.text

/-- The words that are no names. -/
def keywords : List String :=
  ["False", "None", "True", "and", "as", "assert", "async", "await", "break", "class", "continue", "def",
    "del", "elif", "else", "except", "finally", "for", "from", "global", "if", "import", "in", "is",
    "lambda", "nonlocal", "not", "or", "pass", "raise", "return", "try", "while", "with", "yield"]

/-- Whether a token is a name. -/
def Token.isName (token : Token) : Bool :=
  token.kind = .name && !keywords.contains token.text

/-- Whether a token is a quoted text. -/
def Token.isText (token : Token) : Bool :=
  match token.kind with
  | .text _ _ _ => true
  | _ => false

/-- The tokens of the operator at the start that joins operands of a level: 0 for `or`, 1 for `and`, 3 for
comparisons, 4 to 9 for the operators of numbers, looser ones first. -/
def operatorSize (level : Nat) (tokens : List Token) : Reader Nat := do
  let isOne (texts : List String) : Reader Nat := return if ← nextIs texts tokens then 1 else 0
  match level with
  | 0 => isOne ["or"]
  | 1 => isOne ["and"]
  | 3 =>
    if ← nextIs ["not"] tokens then return if ← nextIs ["in"] tokens.tail then 2 else 0
    else if ← nextIs ["is"] tokens then return if ← nextIs ["not"] tokens.tail then 2 else 1
    else isOne ["==", "!=", "<=", "<", ">=", ">", "in"]
  | 4 => isOne ["|"]
  | 5 => isOne ["^"]
  | 6 => isOne ["&"]
  | 7 => isOne ["<<", ">>"]
  | 8 => isOne ["+", "-"]
  | 9 => isOne ["*", "/", "//", "%", "@"]
  | _ => return 0

/-- The expression that joins two operands of a level. -/
def joined (level : Nat) (left right : Node) : Node :=
  if level = 3 then .comparison else if level = 8 then .sum left right else .operation

/-- Whether a token is a quoted text of bytes. -/
def Token.isBytes (token : Token) : Bool :=
  match token.kind with
  | .text bytes _ _ => bytes
  | _ => false

/-- What is wrong with the characters of a quoted text. -/
def Token.textFault? (token : Token) : Option String :=
  match token.kind with
  | .text true raw _ =>
    if token.text.toList.any fun c => 128 ≤ c.toNat then
      some "bytes can only contain ASCII literal characters"
    else if raw then none
    else bytesFault? 0 token.text.toList
  | .text false false _ => Literal.textFault? 0 (transcribed token.text.toList)
  | _ => none

/-- What is wrong with quoted texts that follow each other; `bytes` tells whether those before are of bytes,
if there are any. -/
def textsFault? (bytes : Option Bool) : List Token → Option String
  | [] => none
  | token :: rest =>
    token.textFault?.orElse fun _ =>
      if bytes.any (· != token.isBytes) then some "cannot mix bytes and nonbytes literals"
      else textsFault? (some token.isBytes) rest

/-- Reads quoted texts that follow each other. -/
def readTexts (tokens : List Token) : Reader (Node × List Token) := do
  let texts := tokens.takeWhile Token.isText
  discard (peek (tokens.drop texts.length))
  if let some complaint := textsFault? none texts then throw (.complaint complaint)
  let isFormatted := texts.any fun token =>
    match token.kind with
    | .text _ _ formatted => formatted
    | _ => false
  return (if isFormatted then .formatted else .text, tokens.drop texts.length)

/-- What is wrong with a number that has too many decimal digits. -/
def Token.numberFault? (token : Token) : Option String :=
  let digits := token.text.toList.countP Char.isDigit
  let isDecimal := token.text.toList.all fun c => c.isDigit || c = '_'
  if isDecimal && Text.maxDigits < digits && token.text.toList.head? ≠ some '0' then
    some (Text.longNumberMessage digits ++
      " - Consider hexadecimal for huge integer literals to avoid decimal conversion limits.")
  else none

/-- Whether a mistake after an expression is another one than a missing comma: a name before a quoted text,
or a word that starts a statement. -/
def startsStatement (tokens : List Token) : Bool :=
  match tokens with
  | first :: second :: _ =>
    first.isName && (second.isText || ["_", "case", "match"].contains first.text)
  | _ => false

/-- Whether an expression is the name of a former statement. -/
def Node.isFormerStatement : Node → Bool
  | .name word => word = "print" || word = "exec"
  | _ => false

mutual

/-- Reads an expression. The reason for a mistake is looked for if `why`. -/
def expression (fuel : Nat) (why : Bool) (tokens : List Token) : Reader (Found Node) := do
  match fuel with
  | 0 => return none
  | fuel + 1 =>
    match ← operand fuel why 0 tokens with
    | none => return none
    | some (left, rest) =>
      if why then explain fuel left tokens rest
      if ← nextIs ["if"] rest then
        if let some (_, rest₁) ← operand fuel why 0 rest.tail then
          if ← nextIs ["else"] rest₁ then
            if let some (_, rest₂) ← expression fuel why rest₁.tail then return some (.choice, rest₂)
      return some (left, rest)

/-- Looks for a mistake after the operand `left`, which was read from `tokens`. -/
def explain (fuel : Nat) (left : Node) (tokens rest : List Token) : Reader Unit := do
  match fuel with
  | 0 => return
  | fuel + 1 =>
    unless startsStatement tokens do
      if let some (_, rest₁) ← expression fuel false rest then
        let last := (rest.take (rest.length - rest₁.length)).getLast?
        unless left.isFormerStatement || !last.any fun token => 0 < token.depth do
          throw (.complaint "invalid syntax. Perhaps you forgot a comma?")
    if ← nextIs ["if"] rest then
      if let some (_, rest₁) ← operand fuel true 0 rest.tail then
        unless ← nextIs ["else", ":"] rest₁ do
          throw (.complaint "expected 'else' after 'if' expression")
    if let some name := tokens.head? then
      if name.isName && !(← nextIs ["("] tokens.tail) then
        if let some _ ← expression fuel true tokens.tail then
          let name := name.text
          if (Node.name name).isFormerStatement then
            throw (.complaint
              s!"Missing parentheses in call to '{name}'. Did you mean {name}(...)?")

/-- Reads an operand of a level: what operators of the level and looser ones join, then negation at level
2, signs at level 10 and powers at level 11. -/
def operand (fuel : Nat) (why : Bool) (level : Nat) (tokens : List Token) : Reader (Found Node) := do
  match fuel with
  | 0 => return none
  | fuel + 1 =>
    if level = 2 then
      if ← nextIs ["not"] tokens then
        return (← operand fuel why 2 tokens.tail).map fun found => (.operation, found.2)
      operand fuel why 3 tokens
    else if level = 10 then
      if ← nextIs ["+", "-"] tokens then
        return (← operand fuel why 10 tokens.tail).map fun found => (.signed found.1, found.2)
      if ← nextIs ["~"] tokens then
        return (← operand fuel why 10 tokens.tail).map fun found => (.operation, found.2)
      operand fuel why 11 tokens
    else if level = 11 then
      match ← atom fuel why tokens with
      | none => return none
      | some (node, rest) =>
        let (node, rest) ← trailers fuel why node rest
        if ← nextIs ["**"] rest then
          if let some (_, rest₁) ← operand fuel why 10 rest.tail then return some (.operation, rest₁)
        return some (node, rest)
    else
      match ← operand fuel why (level + 1) tokens with
      | none => return none
      | some (left, rest) => return some (← operands fuel why level left rest)

/-- Reads operators of a level with the operands after them, as many as there are. -/
def operands (fuel : Nat) (why : Bool) (level : Nat) (left : Node) (tokens : List Token) :
    Reader (Node × List Token) := do
  match fuel with
  | 0 => return (left, tokens)
  | fuel + 1 =>
    match ← operatorSize level tokens with
    | 0 => return (left, tokens)
    | size =>
      match ← operand fuel why (level + 1) (tokens.drop size) with
      | none => return (left, tokens)
      | some (right, rest) => operands fuel why level (joined level left right) rest

/-- Reads what can follow an atom: attributes and calls. -/
def trailers (fuel : Nat) (why : Bool) (node : Node) (tokens : List Token) :
    Reader (Node × List Token) := do
  match fuel with
  | 0 => return (node, tokens)
  | fuel + 1 =>
    if ← nextIs ["."] tokens then
      if (← peek tokens.tail).isName then trailers fuel why .attribute (tokens.drop 2)
      else return (node, tokens)
    else if ← nextIs ["("] tokens then
      let isBare ← nextIs [")"] tokens.tail
      match ← arguments fuel why tokens.tail with
      | some (_, rest) => trailers fuel why (.call node isBare) rest
      | none => return (node, tokens)
    else return (node, tokens)

/-- Reads the arguments of a call and the bracket after them. -/
def arguments (fuel : Nat) (why : Bool) (tokens : List Token) : Reader (Found Unit) := do
  match fuel with
  | 0 => return none
  | fuel + 1 =>
    if ← nextIs [")"] tokens then return some ((), tokens.tail)
    let isNamed ← if (← peek tokens).isName then nextIs ["="] tokens.tail else pure false
    let isStarred ← nextIs ["*"] tokens
    let isPlain := !isNamed && !isStarred && !(← nextIs ["**"] tokens)
    let found ←
      if isPlain then expression fuel why tokens
      else expression fuel why (tokens.drop (if isNamed then 2 else 1))
    match found with
    | none =>
      if isStarred then throw (.complaint "Invalid star expression")
      return none
    | some (node, rest) =>
      if ← nextIs [","] rest then arguments fuel why rest.tail
      else if ← nextIs [")"] rest then return some ((), rest.tail)
      else
        if why && isPlain then
          if ← nextIs ["="] rest then
            match node with
            | .constant word => throw (.complaint ("cannot assign to " ++ word))
            | _ =>
              throw (.complaint
                "expression cannot contain assignment, perhaps you meant \"==\"?")
        return none

/-- Reads an atom. -/
def atom (fuel : Nat) (why : Bool) (tokens : List Token) : Reader (Found Node) := do
  match fuel with
  | 0 => return none
  | fuel + 1 =>
    let token ← peek tokens
    match token.kind with
    | .name =>
      if token.isName then return some (.name token.text, tokens.tail)
      else if ["True", "False", "None"].contains token.text then
        return some (.constant token.text, tokens.tail)
      else return none
    | .number imaginary =>
      if let some complaint := token.numberFault? then throw (.complaint complaint)
      return some (.number imaginary, tokens.tail)
    | .text _ _ _ => return some (← readTexts tokens)
    | .sign =>
      if token.text = "..." then return some (.dots, tokens.tail)
      else if token.text = "(" then group fuel why tokens.tail
      else if token.text = "\x7b" then braces fuel why tokens.tail
      else return none
    | _ => return none

/-- Reads an expression that can be given a name. -/
def named (fuel : Nat) (why : Bool) (tokens : List Token) : Reader (Found Node) := do
  match fuel with
  | 0 => return none
  | fuel + 1 =>
    let isAssigned ← if (← peek tokens).isName then nextIs [":="] tokens.tail else pure false
    if isAssigned then
      return (← expression fuel why (tokens.drop 2)).map fun found => (.assignment, found.2)
    match ← expression fuel why tokens with
    | none => return none
    | some (node, rest) => namedAfter fuel why node tokens rest

/-- Ends an expression that can be given a name; `node` was read from `tokens`. -/
def namedAfter (fuel : Nat) (why : Bool) (node : Node) (tokens rest : List Token) :
    Reader (Found Node) := do
  match fuel with
  | 0 => return none
  | fuel + 1 =>
    if ← nextIs [":="] rest then
      if why then
        if let some _ ← expression fuel why rest.tail then
          throw (.complaint ("cannot use assignment expressions with " ++ node.describe))
      return none
    if why then
      if let some (target, rest₁) ← operand fuel why 4 tokens then
        if ← nextIs ["="] rest₁ then
          if let some (_, rest₂) ← operand fuel why 4 rest₁.tail then
            unless ← nextIs ["=", ":="] rest₂ do
              match target with
              | .name _ =>
                if rest₁.length + 1 = tokens.length then
                  throw (.complaint
                    "invalid syntax. Maybe you meant '==' or ':=' instead of '='?")
              | _ => pure ()
              let isFixed := match target with
                | .tuple _ => true
                | .constant _ => true
                | _ => false
              unless isFixed do
                throw (.complaint (s!"cannot assign to {target.describe} here. " ++
                  "Maybe you meant '==' instead of '='?"))
    return some (node, rest)

/-- Reads an item of a tuple or a set. -/
def item (fuel : Nat) (why : Bool) (tokens : List Token) : Reader (Found Node) := do
  match fuel with
  | 0 => return none
  | fuel + 1 =>
    if ← nextIs ["*"] tokens then
      return (← operand fuel why 4 tokens.tail).map fun found => (.starred, found.2)
    named fuel why tokens

/-- Reads the items after a comma. -/
def items (fuel : Nat) (why : Bool) (before : List Node) (tokens : List Token) :
    Reader (List Node × List Token) := do
  match fuel with
  | 0 => return (before, tokens)
  | fuel + 1 =>
    match ← item fuel why tokens with
    | none => return (before, tokens)
    | some (node, rest) =>
      if ← nextIs [","] rest then items fuel why (before ++ [node]) rest.tail
      else return (before ++ [node], rest)

/-- Reads what is between parentheses, and the closing one. -/
def group (fuel : Nat) (why : Bool) (tokens : List Token) : Reader (Found Node) := do
  match fuel with
  | 0 => return none
  | fuel + 1 =>
    if ← nextIs [")"] tokens then return some (.tuple [], tokens.tail)
    let isStarred ← nextIs ["*"] tokens
    let first ← item fuel why tokens
    if let some (node, rest) := first then
      if ← nextIs [","] rest then
        let (nodes, rest) ← items fuel why [node] rest.tail
        if ← nextIs [")"] rest then return some (.tuple nodes, rest.tail)
      else if !isStarred then
        if ← nextIs [")"] rest then return some (node, rest.tail)
    if why then
      if isStarred then
        match ← expression fuel why tokens.tail with
        | none => throw (.complaint "Invalid star expression")
        | some (_, rest) =>
          if ← nextIs [")"] rest then throw (.complaint "cannot use starred expression here")
      if ← nextIs ["**"] tokens then
        if let some (_, rest) ← expression fuel why tokens.tail then
          if ← nextIs [")"] rest then
            throw (.complaint "cannot use double starred expression here")
    return none

/-- Reads what is between braces, and the closing one. -/
def braces (fuel : Nat) (why : Bool) (tokens : List Token) : Reader (Found Node) := do
  match fuel with
  | 0 => return none
  | fuel + 1 =>
    if ← nextIs ["\x7d"] tokens then return some (.dict [] [], tokens.tail)
    if ← nextIs ["**"] tokens then pairs fuel why [] [] tokens
    else if ← nextIs ["*"] tokens then setItems fuel why (← item fuel why tokens)
    else
      match ← expression fuel why tokens with
      | none => return none
      | some (node, rest) =>
        if ← nextIs [":"] rest then pairs fuel why [] [] tokens
        else setItems fuel why (← namedAfter fuel why node tokens rest)

/-- Ends a set after its first item. -/
def setItems (fuel : Nat) (why : Bool) (first : Found Node) : Reader (Found Node) := do
  match fuel, first with
  | fuel + 1, some (node, rest) =>
    let (nodes, rest) ←
      if ← nextIs [","] rest then items fuel why [node] rest.tail else pure ([node], rest)
    if ← nextIs ["\x7d"] rest then return some (.set nodes, rest.tail)
    return none
  | _, _ => return none

/-- Reads the pairs of a dictionary after those in `keys` and `values`, and the closing brace. -/
def pairs (fuel : Nat) (why : Bool) (keys : List (Option Node)) (values : List Node)
    (tokens : List Token) : Reader (Found Node) := do
  match fuel with
  | 0 => return none
  | fuel + 1 =>
    if !keys.isEmpty then
      if ← nextIs ["\x7d"] tokens then return some (.dict keys values, tokens.tail)
    let found ←
      if ← nextIs ["**"] tokens then
        pure ((← operand fuel why 4 tokens.tail).map fun found => ((none, found.1), found.2))
      else pair fuel why keys.isEmpty tokens
    match found with
    | none => return none
    | some ((key, value), rest) =>
      let keys := keys ++ [key]
      let values := values ++ [value]
      if ← nextIs [","] rest then pairs fuel why keys values rest.tail
      else if ← nextIs ["\x7d"] rest then return some (.dict keys values, rest.tail)
      else return none

/-- Reads a key and its value. -/
def pair (fuel : Nat) (why isFirst : Bool) (tokens : List Token) :
    Reader (Found (Option Node × Node)) := do
  match fuel with
  | 0 => return none
  | fuel + 1 =>
    match ← expression fuel why tokens with
    | none => return none
    | some (key, rest) =>
      if ← nextIs [":"] rest then
        match ← expression fuel why rest.tail with
        | some (value, rest) => return some ((some key, value), rest)
        | none =>
          if why then
            if ← nextIs ["*"] rest.tail then
              if let some _ ← operand fuel why 4 (rest.drop 2) then
                throw (.complaint "cannot use a starred expression in a dictionary value")
            if ← nextIs ["\x7d", ","] rest.tail then
              throw (.complaint "expression expected after dictionary key and ':'")
          return none
      else
        if why && !isFirst then throw (.complaint "':' expected after dictionary key")
        return none

end

/-- Reads the expressions after a comma. -/
def moreExpressions (fuel : Nat) (why : Bool) (before : List Node) :
    Nat → List Token → Reader (List Node × List Token)
  | 0, tokens => return (before, tokens)
  | steps + 1, tokens => do
    match ← expression fuel why tokens with
    | none => return (before, tokens)
    | some (node, rest) =>
      if ← nextIs [","] rest then moreExpressions fuel why (before ++ [node]) steps rest.tail
      else return (before ++ [node], rest)

/-- Reads the one expression that tokens are, which can be a tuple without brackets. A bracket opens at most
sixteen levels of reading. -/
def whole (why : Bool) (tokens : List Token) : Reader (Option Node) := do
  let fuel := 32 * (tokens.length + 1)
  match ← expression fuel why tokens with
  | none => return none
  | some (first, rest) =>
    let (node, rest) ←
      if ← nextIs [","] rest then
        let (nodes, rest) ← moreExpressions fuel why [first] rest.length rest.tail
        pure (.tuple nodes, rest)
      else pure (first, rest)
    let rest := rest.dropWhile fun token => token.kind = .lineEnd
    return if (← peek rest).kind = .finish then some node else none

/-! ## Texts -/

/-- What is told about tokens that are no expression. `last` is the last token that was looked at and
`reason` a mistake that was found. A place behind it where no token can be read is told first. -/
def complaintOf (ending : Ending) (last : Option Token) (reason : Option String) : String :=
  let told :=
    match last, reason with
    | _, some reason => reason
    | some ⟨.indent, _, _, _⟩, none => "unexpected indent"
    | _, none => "invalid syntax"
  let orUnclosed (bracket : Char) (line : Nat) : String :=
    if last.any fun token => line < token.line then (Ending.unclosed bracket line).complaint else told
  match ending with
  | .complete => told
  | .broken complaint => complaint
  | .cut _ [] => told
  | .cut _ ((bracket, line) :: _) => orUnclosed bracket line
  | .unclosed bracket line => orUnclosed bracket line

/-- Reads a text as an expression. -/
def read (cs : List Char) : Except String Node :=
  let (tokens, ending) := Token.scan cs
  let lastOf (left : Nat) : Option Token := tokens[tokens.length - left]?
  let start := tokens.length
  let complain (reason : Option String) : String :=
    let last := match (whole false tokens).run start with
      | .ok (_, left) => lastOf left
      | .error _ => none
    complaintOf ending last reason
  match (whole false tokens).run start with
  | .ok (some node, _) => .ok node
  | .error .ending => .error ending.complaint
  | .error (.complaint reason) => .error (complain (some reason))
  | .ok (none, _) =>
    match (whole true tokens).run start with
    | .error .ending => .error ending.complaint
    | .error (.complaint reason) => .error (complain (some reason))
    | .ok _ => .error (complain none)

/-- Checks that a text is a value, which may have blanks and tabs before it. -/
def check : Evaluation := fun cs =>
  if cs.contains '\x00' then .error (.syntactic "source code string cannot contain null bytes")
  else
    match read (cs.dropWhile fun c => c = ' ' || c = '\t') with
    | .error complaint => .error (.syntactic complaint)
    | .ok node => node.checkValue.mapError Refusal.unusable

end Pruning.Console.Literal
