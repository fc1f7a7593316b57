import MessageSignatures.Base64
import MessageSignatures.StructuredField

/-!
# Reading structured fields

Readers take the characters that are left and give the value with the characters that follow it.
The readers of a run of parts (parameters, items, members) recurse on a bound that counts the
characters, since every part takes at least one; `parseItem`, `parseList` and `parseDictionary`
supply the bound.

* **Spaces.** A text may begin and end with spaces. Around the comma between members tabs are
  allowed as well; after the last comma a member must follow.
* **Repeated keys.** The last value counts, at the place of the first (`OrderedMap.insert`).
* **Numbers.** An integer has at most fifteen digits; a decimal has at most twelve before the point
  and one to three after it.
* **ASCII.** A text with any other character is not a structured field.
-/

namespace MessageSignatures

namespace StructuredField

namespace Parser

/-- The rest after leading spaces. -/
def skipSpaces (cs : List Char) : List Char :=
  cs.dropWhile (· == ' ')

/-- The rest after leading spaces and tabs. -/
def skipBlanks (cs : List Char) : List Char :=
  cs.dropWhile fun c => c == ' ' || c == '\t'

/-- **Key.** As many key characters as there are. -/
def key : List Char → Option (String × List Char)
  | [] => none
  | c :: cs =>
    if isKeyStart c then
      some (String.ofList (c :: cs.takeWhile isKeyChar), cs.dropWhile isKeyChar)
    else none

/-- The characters of a string after its opening quote, up to the closing one. A backslash stands
before a quote or a backslash and nowhere else. -/
def stringBody : List Char → Option (List Char × List Char)
  | [] => none
  | '"' :: rest => some ([], rest)
  | '\\' :: c :: rest =>
    if c == '"' || c == '\\' then
      (stringBody rest).map fun p => (c :: p.1, p.2)
    else none
  | c :: rest =>
    if Text.isPrintableChar c && c != '\\' then
      (stringBody rest).map fun p => (c :: p.1, p.2)
    else none

/-- **Token.** It begins with a letter or an asterisk. -/
def token : List Char → Option (BareItem × List Char)
  | [] => none
  | c :: cs =>
    let inToken := fun c => isTokenChar c || c == ':' || c == '/'
    if isLowerChar c || isUpperChar c || c == '*' then
      some (.token (String.ofList (c :: cs.takeWhile inToken)), cs.dropWhile inToken)
    else none

/-- **Octets** after the opening colon, up to the closing one. -/
def octets (cs : List Char) : Option (BareItem × List Char) :=
  match cs.dropWhile (· != ':') with
  | [] => none
  | _ :: rest => (Base64.decodeLoose (cs.takeWhile (· != ':'))).map fun bs => (.octets bs, rest)

/-- The number that a run of digits denotes. -/
def digitsValue (ds : List Char) : Nat :=
  Nat.ofDigitChars 10 ds 0

/-- **Unsigned number** under a given sign. -/
def unsigned (negative : Bool) (cs : List Char) : Option (BareItem × List Char) :=
  let whole := cs.takeWhile Char.isDigit
  match whole, cs.dropWhile Char.isDigit with
  | [], _ => none
  | _, '.' :: rest =>
    let fraction := rest.takeWhile Char.isDigit
    if whole.length ≤ 12 && 1 ≤ fraction.length && fraction.length ≤ 3 then
      some (.decimal ⟨negative, digitsValue (whole ++ fraction), fraction.length⟩,
        rest.dropWhile Char.isDigit)
    else none
  | _, rest =>
    if whole.length ≤ 15 then
      let value : Int := digitsValue whole
      some (.integer (if negative then -value else value), rest)
    else none

/-- **Number.** -/
def number : List Char → Option (BareItem × List Char)
  | '-' :: rest => unsigned true rest
  | cs => unsigned false cs

/-- **Boolean** after the question mark. -/
def boolean : List Char → Option (BareItem × List Char)
  | '0' :: rest => some (.boolean false, rest)
  | '1' :: rest => some (.boolean true, rest)
  | _ => none

/-- **Bare item.** Its first character tells the kind. -/
def bareItem : List Char → Option (BareItem × List Char)
  | [] => none
  | '?' :: rest => boolean rest
  | '"' :: rest => (stringBody rest).map fun p => (.string (String.ofList p.1), p.2)
  | ':' :: rest => octets rest
  | c :: rest => if c == '-' || c.isDigit then number (c :: rest) else token (c :: rest)

/-- The value of a parameter after its key; without one it is true. -/
def parameterValue : List Char → Option (BareItem × List Char)
  | '=' :: rest => bareItem rest
  | rest => some (.boolean true, rest)

/-- At most `bound` parameters, added to those read before. -/
def parametersFrom (before : Parameters) : Nat → List Char → Option (Parameters × List Char)
  | bound + 1, ';' :: cs => do
    let (name, cs) ← key (skipSpaces cs)
    let (value, cs) ← parameterValue cs
    parametersFrom (before.insert name value) bound cs
  | _, cs => some (before, cs)

/-- **Parameters.** As many as follow. -/
def parameters (cs : List Char) : Option (Parameters × List Char) :=
  parametersFrom OrderedMap.empty cs.length cs

/-- **Item.** -/
def item (cs : List Char) : Option (Item × List Char) := do
  let (bare, cs) ← bareItem cs
  let (params, cs) ← parameters cs
  return (⟨bare, params⟩, cs)

/-- Whether an item of an inner list may end here: at a space or at the closing parenthesis. -/
def endsItem : List Char → Bool
  | ' ' :: _ => true
  | ')' :: _ => true
  | _ => false

/-- Fewer than `bound` items of an inner list, with the closing parenthesis. -/
def innerItems : Nat → List Char → Option (List Item × List Char)
  | 0, _ => none
  | bound + 1, cs =>
    match skipSpaces cs with
    | ')' :: rest => some ([], rest)
    | cs => do
      let (first, cs) ← item cs
      if endsItem cs then
        let (more, cs) ← innerItems bound cs
        return (first :: more, cs)
      else none

/-- **Member.** A parenthesis opens an inner list. -/
def member : List Char → Option (Member × List Char)
  | '(' :: rest => do
    let (items, cs) ← innerItems (rest.length + 1) rest
    let (params, cs) ← parameters cs
    return (.innerList items params, cs)
  | cs => (item cs).map fun p => (.item p.1, p.2)

/-- At most `bound` members of a list, at least one, up to the end of the text. -/
def membersFrom : Nat → List Char → Option (List Member)
  | 0, _ => none
  | bound + 1, cs => do
    let (first, cs) ← member cs
    match skipBlanks cs with
    | [] => return [first]
    | ',' :: rest =>
      let more ← membersFrom bound (skipBlanks rest)
      return first :: more
    | _ => none

/-- The value of a dictionary member after its key; without one it is true, with parameters. -/
def dictionaryValue : List Char → Option (Member × List Char)
  | '=' :: rest => member rest
  | rest => (parameters rest).map fun p => (.item ⟨.boolean true, p.1⟩, p.2)

/-- At most `bound` members of a dictionary, at least one, added to those read before, up to the
end of the text. -/
def dictionaryFrom (before : Dictionary) : Nat → List Char → Option Dictionary
  | 0, _ => none
  | bound + 1, cs => do
    let (name, cs) ← key cs
    let (value, cs) ← dictionaryValue cs
    match skipBlanks cs with
    | [] => return before.insert name value
    | ',' :: rest => dictionaryFrom (before.insert name value) bound (skipBlanks rest)
    | _ => none

/-- The characters of an ASCII text after its leading spaces. -/
def start (s : String) : Option (List Char) :=
  if s.toList.all Text.isAsciiChar then some (skipSpaces s.toList) else none

end Parser

open StructuredField.Parser

/-- **Reading an item.** -/
def parseItem (s : String) : Option Item := do
  let cs ← start s
  let (value, cs) ← item cs
  if skipSpaces cs = [] then some value else none

/-- **Reading a list.** The empty text is the empty list. -/
def parseList (s : String) : Option (List Member) := do
  let cs ← start s
  if cs = [] then some [] else membersFrom cs.length cs

/-- **Reading a dictionary.** The empty text is the empty dictionary. -/
def parseDictionary (s : String) : Option Dictionary := do
  let cs ← start s
  if cs = [] then some OrderedMap.empty else dictionaryFrom OrderedMap.empty cs.length cs

end StructuredField

end MessageSignatures
